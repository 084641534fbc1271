/-
  `session_binding.rs`: the binding of a session to an IP and a User-Agent.

  A hash is the hexadecimal HMAC-SHA-256 of a domain tag and the value, under the salt. HMAC is any
  function of the key and the message, as keys of every length are accepted; that it does not
  collide is assumed of the two inputs that are compared only.

  Proved: strict mode succeeds exactly when every recorded hash is that of the current value, and
  relaxed mode says `Ok` exactly then, unless the request has no User-Agent, one is recorded and the
  IP matches: a missing User-Agent is not compared (`binding_holds_iff`). The hashes of the two
  components never coincide. The gate of the hosted handlers is this function (`gate_eq`).
-/
import ProviiVerifier.Gates
import ProviiVerifier.Stores

namespace ProviiVerifier

namespace SessionBinding

open Idempotency (hexEncode hexEncode_injective)

/-! ## The source -/

/-- `LogicError`, as far as these functions return it. -/
inductive LogicError
  | hmacKeyRejected
  | sessionBindingMismatch
  deriving DecidableEq

/-- `BindingOutcome`. -/
inductive BindingOutcome
  | ok
  | ipMismatchRelaxed
  | uaMismatchRelaxed
  deriving DecidableEq

/-- `hash_with_salt`. -/
def hashWithSalt (hmac : Bytes → Bytes → Bytes) (input salt domain : String) : String :=
  hexEncode (hmac (utf8Bytes salt) (utf8Bytes domain ++ utf8Bytes input))

/-- A recorded IP hash is not that of the current IP. -/
def ipMismatch (hmac : Bytes → Bytes → Bytes) (currentIp : String) (storedIpHash : Option String)
    (salt : String) : Bool :=
  match storedIpHash with
  | some expected => hashWithSalt hmac currentIp salt "provii-ip-v0" != expected
  | none => false

/-- A recorded User-Agent hash is not that of the current User-Agent, where there are both. -/
def uaMismatch (hmac : Bytes → Bytes → Bytes) (currentUa storedUaHash : Option String)
    (salt : String) : Bool :=
  match storedUaHash, currentUa with
  | some expected, some ua => hashWithSalt hmac ua salt "provii-ua-v0" != expected
  | _, _ => false

/-- `verify_session_binding`. -/
def verifySessionBinding (hmac : Bytes → Bytes → Bytes) (currentIp : String)
    (currentUa storedIpHash storedUaHash : Option String) (salt : String)
    (mode : SessionBindingMode) : Except LogicError BindingOutcome :=
  if mode = .none then .ok .ok
  else if ipMismatch hmac currentIp storedIpHash salt then
    match mode with
    | .strict => .error .sessionBindingMismatch
    | .relaxed | .none => .ok .ipMismatchRelaxed
  else if uaMismatch hmac currentUa storedUaHash salt then
    match mode with
    | .strict => .error .sessionBindingMismatch
    | .relaxed | .none => .ok .uaMismatchRelaxed
  else .ok .ok

/-- `From<LogicError> for ApiError`. -/
def LogicError.toApiError : LogicError → ApiError
  | .sessionBindingMismatch => .forbidden (some "Session binding mismatch")
  | .hmacKeyRejected => .internal "HMAC key rejected"

/-- `verify_session_binding` of `hosted/session_binding.rs`. -/
def hostedVerifySessionBinding (hmac : Bytes → Bytes → Bytes) (currentIp : String)
    (currentUa storedIpHash storedUaHash : Option String) (salt : String)
    (mode : SessionBindingMode) : Except ApiError BindingOutcome :=
  (verifySessionBinding hmac currentIp currentUa storedIpHash storedUaHash salt mode).mapError
    LogicError.toApiError

/-! ## What a binding says -/

/-- What is recorded of a session, and the request that it is checked for. -/
structure Check where
  currentIp : String
  currentUa : Option String
  storedIpHash : Option String
  storedUaHash : Option String
  salt : String

/-- The check in a mode. -/
def Check.run (hmac : Bytes → Bytes → Bytes) (c : Check) (mode : SessionBindingMode) :
    Except LogicError BindingOutcome :=
  verifySessionBinding hmac c.currentIp c.currentUa c.storedIpHash c.storedUaHash c.salt mode

/-- A recorded IP hash is that of the current IP. -/
def Check.IpMatches (hmac : Bytes → Bytes → Bytes) (c : Check) : Prop :=
  ∀ expected, c.storedIpHash = some expected →
    expected = hashWithSalt hmac c.currentIp c.salt "provii-ip-v0"

/-- A recorded User-Agent hash is that of the current User-Agent; a missing one does not match. -/
def Check.UaMatches (hmac : Bytes → Bytes → Bytes) (c : Check) : Prop :=
  ∀ expected, c.storedUaHash = some expected →
    ∃ ua, c.currentUa = some ua ∧ expected = hashWithSalt hmac ua c.salt "provii-ua-v0"

/-- **What the modes promise**: strict mode succeeds exactly when every recorded hash is that of the
current value; relaxed mode rejects no mismatch and says `Ok` exactly when strict mode succeeds. -/
structure Check.Holds (hmac : Bytes → Bytes → Bytes) (c : Check) : Prop where
  strict : (c.run hmac .strict).isOk = true ↔ c.IpMatches hmac ∧ c.UaMatches hmac
  relaxed : c.run hmac .relaxed ≠ .error .sessionBindingMismatch
  relaxed_ok : c.run hmac .relaxed = .ok .ok ↔ (c.run hmac .strict).isOk = true

/-- The User-Agent that is recorded is missing from a request that comes from the recorded IP, if
one is recorded. -/
def Check.UaMissing (hmac : Bytes → Bytes → Bytes) (c : Check) : Prop :=
  c.storedUaHash.isSome = true ∧ c.currentUa = none ∧ c.IpMatches hmac

/-- What the code compares of the User-Agent: nothing when it is missing. -/
def Check.UaTolerated (hmac : Bytes → Bytes → Bytes) (c : Check) : Prop :=
  ∀ expected ua, c.storedUaHash = some expected → c.currentUa = some ua →
    expected = hashWithSalt hmac ua c.salt "provii-ua-v0"

/-! ## The modes -/

variable {hmac : Bytes → Bytes → Bytes} {c : Check} {mode : SessionBindingMode}

theorem ipMismatch_iff :
    ipMismatch hmac c.currentIp c.storedIpHash c.salt = false ↔ c.IpMatches hmac := by
  unfold ipMismatch Check.IpMatches
  cases c.storedIpHash with
  | none => exact ⟨fun _ expected h => absurd h.symm (Option.some_ne_none expected), fun _ => rfl⟩
  | some expected =>
    rw [bne_eq_false_iff_eq]
    constructor
    · intro h e he
      rw [h, Option.some.inj he]
    · intro h
      exact (h expected rfl).symm

theorem uaMismatch_iff :
    uaMismatch hmac c.currentUa c.storedUaHash c.salt = false ↔ c.UaTolerated hmac := by
  unfold uaMismatch Check.UaTolerated
  cases c.storedUaHash with
  | none => exact ⟨fun _ expected _ h => absurd h.symm (Option.some_ne_none expected), fun _ => rfl⟩
  | some expected =>
    cases c.currentUa with
    | none => exact ⟨fun _ _ ua _ h => absurd h.symm (Option.some_ne_none ua), fun _ => rfl⟩
    | some ua =>
      dsimp only
      rw [bne_eq_false_iff_eq]
      constructor
      · intro h e u he hu
        rw [← Option.some.inj hu, h, Option.some.inj he]
      · intro h
        exact (h expected ua rfl rfl).symm

/-- **What a mode that checks answers** with. -/
theorem run_eq (hmode : mode ≠ .none) : c.run hmac mode =
    if ipMismatch hmac c.currentIp c.storedIpHash c.salt then
      if mode = .strict then .error .sessionBindingMismatch else .ok .ipMismatchRelaxed
    else if uaMismatch hmac c.currentUa c.storedUaHash c.salt then
      if mode = .strict then .error .sessionBindingMismatch else .ok .uaMismatchRelaxed
    else .ok .ok := by
  unfold Check.run verifySessionBinding
  rw [if_neg hmode]
  cases mode with
  | strict => rfl
  | relaxed => rfl
  | none => exact absurd rfl hmode

/-- **What passes** in a mode that checks. -/
theorem run_ok_iff (hmode : mode ≠ .none) :
    c.run hmac mode = .ok .ok ↔ c.IpMatches hmac ∧ c.UaTolerated hmac := by
  rw [run_eq hmode, ← ipMismatch_iff, ← uaMismatch_iff]
  cases ipMismatch hmac c.currentIp c.storedIpHash c.salt with
  | true =>
    refine ⟨fun h => ?_, fun h => absurd h.1.symm Bool.false_ne_true⟩
    rw [if_pos rfl] at h
    split at h
    · cases h
    · cases h
  | false =>
    rw [if_neg Bool.false_ne_true]
    cases uaMismatch hmac c.currentUa c.storedUaHash c.salt with
    | true =>
      refine ⟨fun h => ?_, fun h => absurd h.2.symm Bool.false_ne_true⟩
      rw [if_pos rfl] at h
      split at h
      · cases h
      · cases h
    | false =>
      rw [if_neg Bool.false_ne_true]
      exact ⟨fun _ => ⟨rfl, rfl⟩, fun _ => rfl⟩

theorem strict_isOk_iff : (c.run hmac .strict).isOk = true ↔ c.run hmac .strict = .ok .ok := by
  rw [run_eq (show SessionBindingMode.strict ≠ .none by decide)]
  generalize ipMismatch hmac c.currentIp c.storedIpHash c.salt = ip
  generalize uaMismatch hmac c.currentUa c.storedUaHash c.salt = ua
  revert ip ua
  decide

theorem relaxed_ne : c.run hmac .relaxed ≠ .error .sessionBindingMismatch := by
  rw [run_eq (show SessionBindingMode.relaxed ≠ .none by decide)]
  generalize ipMismatch hmac c.currentIp c.storedIpHash c.salt = ip
  generalize uaMismatch hmac c.currentUa c.storedUaHash c.salt = ua
  revert ip ua
  decide

/-- A User-Agent that matches is tolerated. -/
theorem Check.UaMatches.tolerated (h : c.UaMatches hmac) : c.UaTolerated hmac := by
  intro expected ua hstored hcurrent
  obtain ⟨ua', hcurrent', hhash⟩ := h expected hstored
  rw [hcurrent, Option.some.injEq] at hcurrent'
  rw [hhash, hcurrent']

/-- A User-Agent that is tolerated matches unless it is missing. -/
theorem Check.UaTolerated.matches (h : c.UaTolerated hmac)
    (hthere : ¬ (c.storedUaHash.isSome = true ∧ c.currentUa = none)) : c.UaMatches hmac := by
  intro expected hstored
  cases hcurrent : c.currentUa with
  | none => exact absurd ⟨by rw [hstored, Option.isSome_some], hcurrent⟩ hthere
  | some ua => exact ⟨ua, rfl, h expected ua hstored hcurrent⟩

/-- **The binding is enforced** exactly when no recorded User-Agent is missing from a request that
comes from the recorded IP. -/
theorem holds_iff : c.Holds hmac ↔ ¬ c.UaMissing hmac := by
  have hstrict : (c.run hmac .strict).isOk = true ↔ c.IpMatches hmac ∧ c.UaTolerated hmac :=
    strict_isOk_iff.trans (run_ok_iff (by decide))
  constructor
  · intro h ⟨hstored, hmissing, hip⟩
    obtain ⟨expected, hexpected⟩ := Option.isSome_iff_exists.mp hstored
    have htolerated : c.UaTolerated hmac := by
      intro _ ua _ hcurrent
      rw [hmissing] at hcurrent
      cases hcurrent
    obtain ⟨ua, hcurrent, -⟩ := (h.strict.mp (hstrict.mpr ⟨hip, htolerated⟩)).2 expected hexpected
    rw [hmissing] at hcurrent
    cases hcurrent
  · intro hthere
    refine ⟨hstrict.trans ⟨fun h => ⟨h.1, ?_⟩, fun h => ⟨h.1, h.2.tolerated⟩⟩, relaxed_ne,
      (run_ok_iff (by decide)).trans hstrict.symm⟩
    exact h.2.matches fun ⟨hstored, hmissing⟩ => hthere ⟨hstored, hmissing, h.1⟩

/-! ## The components -/

/-- Two inputs of HMAC that do not collide. -/
def NoCollision (hmac : Bytes → Bytes → Bytes) (key message key' message' : Bytes) : Prop :=
  hmac key message = hmac key' message' → key = key' ∧ message = message'

/-- The domain tags have one length and differ. -/
theorem tagged_ne (x y : Bytes) :
    utf8Bytes "provii-ip-v0" ++ x ≠ utf8Bytes "provii-ua-v0" ++ y := by
  intro h
  have htags := (List.append_inj h (by decide)).1
  exact absurd htags (by decide)

/-- **The components are apart**: no hash of an IP is the hash of a User-Agent, under any salts. -/
theorem hashes_ne {ip ua salt salt' : String}
    (hfree : NoCollision hmac (utf8Bytes salt) (utf8Bytes "provii-ip-v0" ++ utf8Bytes ip)
      (utf8Bytes salt') (utf8Bytes "provii-ua-v0" ++ utf8Bytes ua)) :
    hashWithSalt hmac ip salt "provii-ip-v0" ≠ hashWithSalt hmac ua salt' "provii-ua-v0" := by
  intro h
  exact tagged_ne _ _ (hfree (hexEncode_injective h)).2

/-- **Strict session binding**: for every binding and request the modes keep what they promise
exactly when no recorded User-Agent is missing from a request that comes from the recorded IP; and
no hash of one component is one of the other. -/
theorem binding_holds_iff (hmac : Bytes → Bytes → Bytes) :
    (∀ c : Check, c.Holds hmac ↔ ¬ c.UaMissing hmac) ∧
    ∀ ip ua salt salt', NoCollision hmac (utf8Bytes salt)
        (utf8Bytes "provii-ip-v0" ++ utf8Bytes ip) (utf8Bytes salt')
        (utf8Bytes "provii-ua-v0" ++ utf8Bytes ua) →
      hashWithSalt hmac ip salt "provii-ip-v0" ≠ hashWithSalt hmac ua salt' "provii-ua-v0" :=
  ⟨fun _ => holds_iff, fun _ _ _ _ => hashes_ne⟩

/-! ## The gate of the hosted handlers -/

/-- The gate takes the outcome of this function and forgets how a relaxed check passes. -/
theorem gate_eq {app : AppState} (hhash : app.hashWithSalt = hashWithSalt hmac) (ip : String)
    (ua ipHash uaHash : Option String) (mode : SessionBindingMode) :
    ProviiVerifier.verifySessionBinding app ip ua ipHash uaHash mode =
      (hostedVerifySessionBinding hmac ip ua ipHash uaHash app.ipHashSalt mode).map
        fun _ => () := by
  unfold ProviiVerifier.verifySessionBinding hostedVerifySessionBinding verifySessionBinding
  rw [hhash]
  -- both sides branch on the same two comparisons
  change (if mode = .none then _
    else if ipMismatch hmac ip ipHash app.ipHashSalt = true then _
    else if uaMismatch hmac ua uaHash app.ipHashSalt = true then _ else _) = _
  generalize ipMismatch hmac ip ipHash app.ipHashSalt = ipDiffers
  generalize uaMismatch hmac ua uaHash app.ipHashSalt = uaDiffers
  cases ipDiffers with
  | true =>
    cases mode with
    | strict => rfl
    | relaxed => rfl
    | none => rfl
  | false =>
    cases uaDiffers with
    | true =>
      cases mode with
      | strict => rfl
      | relaxed => rfl
      | none => rfl
    | false =>
      cases mode with
      | strict => rfl
      | relaxed => rfl
      | none => rfl

/-! ## A request without a User-Agent -/

/-- The HMACs of the samples under the salt `salt`; of everything else, the message. -/
def sampleHmac (key message : Bytes) : Bytes :=
  if key = utf8Bytes "salt" ∧ message = utf8Bytes "provii-ip-v0203.0.113.9" then
    [187, 123, 50, 159, 125, 250, 141, 29, 236, 52, 180, 183, 59, 59, 200, 5,
      113, 219, 36, 58, 82, 9, 251, 201, 75, 130, 158, 87, 122, 21, 91, 255]
  else if key = utf8Bytes "salt" ∧ message = utf8Bytes "provii-ua-v0Mozilla/5.0" then
    [35, 100, 225, 142, 60, 148, 147, 175, 113, 114, 168, 226, 33, 12, 167, 230,
      2, 53, 188, 93, 28, 253, 60, 231, 88, 152, 186, 187, 169, 46, 116, 99]
  else message

/-- A session that both hashes are recorded of, and a request from its IP without a User-Agent. -/
def withoutUa : Check :=
  { currentIp := "203.0.113.9"
    currentUa := none
    storedIpHash := some (hashWithSalt sampleHmac "203.0.113.9" "salt" "provii-ip-v0")
    storedUaHash := some (hashWithSalt sampleHmac "Mozilla/5.0" "salt" "provii-ua-v0")
    salt := "salt" }

/-- The sample hashes differ. -/
theorem binding_holds_iff_sample :
    hashWithSalt sampleHmac "203.0.113.9" "salt" "provii-ip-v0" ≠
      hashWithSalt sampleHmac "Mozilla/5.0" "salt" "provii-ua-v0" := by
  refine (binding_holds_iff sampleHmac).2 "203.0.113.9" "Mozilla/5.0" "salt" "salt" ?_
  intro h
  exact absurd h (by decide +kernel)

/-- Strict mode lets the request pass, although the recorded User-Agent is missing. -/
theorem missing_ua_passes : withoutUa.run sampleHmac .strict = .ok .ok ∧
    ¬ withoutUa.UaMatches sampleHmac ∧ ¬ withoutUa.Holds sampleHmac := by
  have hpass : withoutUa.run sampleHmac .strict = .ok .ok := by decide +kernel
  have hnot : ¬ withoutUa.UaMatches sampleHmac := by
    intro h
    obtain ⟨ua, hcurrent, -⟩ := h _ rfl
    cases hcurrent
  refine ⟨hpass, hnot, fun h => hnot (h.strict.mp ?_).2⟩
  rw [hpass]
  rfl

end SessionBinding

end ProviiVerifier

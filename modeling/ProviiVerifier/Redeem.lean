/-
  `routes/redeem.rs`: redemption by the client that created a challenge, and what both redeem
  handlers share: the gates on the record, the nonce gate, credit enforcement and the write of
  the verdict.

  Audit, analytics and timing are left out. The deduction of an unmetered origin, which the
  source may leave to a background task, is made after the write.

  Proved: whatever the answers are, a handler writes `Verified` only on a record it read as
  `ProofOkWaitingForRedeem`, with its code verifier hashing to the record's code challenge, after
  the nonce store accepted the challenge's tag and the credits were enforced
  (`guarded_redeemChallenge`); a success comes after that write, and a failure leaves the request
  unpaid or comes after that write was attempted.
-/
import ProviiVerifier.Gates
import ProviiVerifier.Credits
import ProviiVerifier.SessionStore

namespace ProviiVerifier

open Interleaving Prog

/-! ## Operations of a route -/

/-- The operations a route may perform, when it may write the records in `J`. -/
def RouteOp (app : AppState) (J : Uuid → CachedChallenge → Prop) : Op → Prop
  | .challengeDO id req => req = .get id.toString ∨ ∃ c, J id c ∧
      (req = ChallengeStore.updateRequest app id c ∨ req = ChallengeStore.createRequest app id c)
  | .nonceDO _ body => body = NonceStore.ttlBody nonceDedupTtl
  | _ => True

section RouteOp

variable {app : AppState} {J : Uuid → CachedChallenge → Prop} {op : Op}

theorem RouteOp.imp {J' : Uuid → CachedChallenge → Prop} (hJ : ∀ id c, J id c → J' id c)
    (h : RouteOp app J op) : RouteOp app J' op := by
  cases op with
  | challengeDO id req =>
    rcases h with hget | ⟨c, hc, hreq⟩
    · exact .inl hget
    · exact .inr ⟨c, hJ id c hc, hreq⟩
  | _ => exact h

theorem AuthLookup.routeOp (h : AuthLookup op) : RouteOp app J op := by
  cases op <;> first | exact trivial | cases h

theorem routeOp_idempotency (h : Idempotency.IsIdempotency op) : RouteOp app J op := by
  cases op <;> first | exact trivial | cases h

theorem routeOp_get {id : Uuid} (h : ChallengeStore.Fetch id (.get id.toString) op) :
    RouteOp app J op := by
  rcases h with rfl | rfl
  · exact .inl rfl
  · trivial

theorem routeOp_check {tag : String} (h : NonceStore.IsCheck tag op) : RouteOp app J op := by
  cases h
  exact rfl

theorem routeOp_quota (h : IsQuota op) : RouteOp app J op := by
  cases op <;> first | exact trivial | cases h

theorem routeOp_charge {req : ConsumeCreditsRequest} (h : Credits.IsCharge req op) :
    RouteOp app J op := by
  obtain ⟨binding, rfl⟩ := h
  trivial

theorem routeOp_enforce {req : ConsumeCreditsRequest} (h : Credits.EnforceOp req op) :
    RouteOp app J op := by
  rcases h with rfl | h
  · trivial
  · exact routeOp_charge h

theorem routeOp_put {id : Uuid} {c : CachedChallenge} (h : ChallengeStore.PutOp app id c op)
    (hJ : J id c) : RouteOp app J op := by
  rcases h with rfl | rfl | rfl
  · exact .inr ⟨c, hJ, .inl rfl⟩
  · exact .inr ⟨c, hJ, .inr rfl⟩
  · trivial

theorem routeOp_update {session : HostedSession} {prior : SessionState}
    (h : SessionStore.IsUpdate session prior op) : RouteOp app J op := by
  rw [h.1]
  trivial

end RouteOp

/-- The clock was read, in time for the record. -/
structure OnTime (c : CachedChallenge) (now : Nat) (h : History Op Res) : Prop where
  clock : ⟨.timestamp, now⟩ ∈ h
  le : now ≤ c.expiresAt

theorem OnTime.mono {c : CachedChallenge} {now : Nat} {h h' : History Op Res} (hs : h <:+ h')
    (ht : OnTime c now h) : OnTime c now h' :=
  ⟨hs.subset ht.clock, ht.le⟩

/-! ## What both redeem handlers share -/

/-- A response of a route: made now, or replayed. -/
inductive Answer (α : Type)
  | fresh (a : α)
  | cached (r : Idempotency.CachedResponse)
  deriving DecidableEq

/-- A replayed response was answered by the idempotency store. -/
def ReplayOutcome {α : Type} (h : History Op Res) (r : Except ApiError (Answer α)) : Prop :=
  ∀ response, r = .ok (.cached response) → Idempotency.Replayed h

theorem ReplayOutcome.error {α : Type} {h : History Op Res} {e : ApiError} :
    ReplayOutcome (α := α) h (.error e) :=
  fun _ hr => (nomatch hr)

theorem ReplayOutcome.fresh {α : Type} {h : History Op Res} {a : α} :
    ReplayOutcome h (.ok (.fresh a)) :=
  fun _ hr => (nomatch hr)

/-- The characters of a code verifier. -/
def isUnreserved (c : Char) : Bool :=
  isAsciiAlphanumeric c || c = '-' || c = '.' || c = '_' || c = '~'

/-- `PkceCodeVerifier`. -/
structure PkceCodeVerifier where
  text : String
  length : 43 ≤ byteLen text ∧ byteLen text ≤ 128
  unreserved : text.toList.all isUnreserved = true
  deriving DecidableEq

/-- The record with the verdict a redemption writes. -/
def CachedChallenge.verdict (c : CachedChallenge) (now : Nat) : CachedChallenge :=
  { c with state := .verified, verifiedAt := some now }

/-- Credit enforcement, and then the write of the verdict; an unmetered origin is charged after
it. -/
def grantVerdict (app : AppState) (id : Uuid) (origin : String) (cached : CachedChallenge)
    (now : Nat) : Handler Unit := do
  let originIsMetered ← Credits.enforceCredits app id origin cached
  match ← attempt (ChallengeStore.put app id (cached.verdict now)) with
  | .error _ => .fail (.internal "State transition failed")
  | .ok () =>
    if originIsMetered then return ()
    else Credits.consumeBestEffort app id origin cached

section Grant

variable {app : AppState} {id : Uuid} {origin : String} {c : CachedChallenge} {now : Nat}
  {h h' : History Op Res}

/-- The write of the verdict came to an end, unless the record fails the check before it. -/
def Sent (app : AppState) (id : Uuid) (c : CachedChallenge) (now : Nat)
    (h : History Op Res) : Prop :=
  ChallengeStore.checkChallenge app id (c.verdict now) = .ok () →
    ChallengeStore.PutEnded app id (c.verdict now) h

theorem Sent.mono (hs : h <:+ h') (hsent : Sent app id c now h) : Sent app id c now h' :=
  fun hcheck => (hsent hcheck).mono hs

/-- The operations of the grant: the verdict is written once its billing is settled. -/
def GrantOp (app : AppState) (id : Uuid) (origin : String) (c : CachedChallenge) (now : Nat)
    (h : History Op Res) (op : Op) : Prop :=
  Credits.EnforceOp (Credits.chargeFor app id origin c) op ∨
    Credits.Billed app (Credits.chargeFor app id origin c) h ∧
      ChallengeStore.PutOp app id (c.verdict now) op

/-- What the grant comes to: what was paid is its charge, and its write was sent then. -/
structure GrantOutcome (app : AppState) (id : Uuid) (origin : String) (c : CachedChallenge)
    (now : Nat) (h h' : History Op Res) (r : Except ApiError Unit) : Prop where
  sent : Credits.Unpaid h → ∀ charge, Credits.Paid charge h' →
    charge.verificationId = id.toString ∧ Sent app id c now h'
  billed : r = .ok () → Credits.Billed app (Credits.chargeFor app id origin c) h'

/-- The charges among the operations of the grant are for the challenge. -/
theorem GrantOp.charge {charge : ConsumeCreditsRequest} {binding : Bool}
    (hop : GrantOp app id origin c now h (.credits binding charge)) :
    charge.verificationId = id.toString := by
  rcases hop with (heq | ⟨b, heq⟩) | ⟨-, heq | heq | heq⟩
  · cases heq
  · cases heq
    rfl
  · cases heq
  · cases heq
  · cases heq

theorem guarded_grantVerdict :
    Guarded (GrantOp app id origin c now) (GrantOutcome app id origin c now h) h
      (grantVerdict app id origin c now) := by
  -- the write is sent or nothing is paid, and what is paid is a charge of the grant
  have hmain : Guarded (GrantOp app id origin c now)
      (fun h' r => (Credits.Unpaid h → ¬ Credits.Unpaid h' → Sent app id c now h') ∧
        (r = .ok () → Credits.Billed app (Credits.chargeFor app id origin c) h')) h
      (grantVerdict app id origin c now) := by
    refine Credits.guarded_enforceCredits.seq (fun _ _ _ hop => .inl hop) ?_ ?_
    · intro h1 metered _ ⟨hbilled, hunpaid⟩
      refine ChallengeStore.guarded_put.seq_attempt ?_ ?_
      · intro h2 op hg hop
        exact .inr ⟨hbilled.mono hg.suffix, hop⟩
      · intro h2 r hg hput
        have hsent : Sent app id c now h2 := by
          intro hcheck
          rcases hput with ⟨hr, hne⟩ | hput
          · exact absurd (hr ▸ hcheck) hne
          · exact hput
        cases r with
        | error e => exact ⟨fun _ _ => hsent, nofun⟩
        | ok a =>
          simp only
          split
          · exact ⟨fun _ _ => hsent, fun _ => hbilled.mono hg.suffix⟩
          · refine Credits.guarded_consumeBestEffort.suffix.imp (fun _ _ g => .inl (.inr g.2)) ?_
            rintro h3 r ⟨hs, -⟩
            exact ⟨fun _ _ => hsent.mono hs, fun _ => (hbilled.mono hg.suffix).mono hs⟩
    · intro h1 e _ hunpaid
      exact ⟨fun hu hnot => absurd (hunpaid hu) hnot, nofun⟩
  have hcharges : Guarded (fun _ op => ∀ binding charge, op = .credits binding charge →
      charge.verificationId = id.toString) (fun _ _ => True) h
      (grantVerdict app id origin c now) := by
    refine hmain.imp ?_ fun _ _ _ => trivial
    rintro h' op hop binding charge rfl
    exact hop.charge
  refine (hmain.and hcharges.grows).imp (fun _ _ g => g.1) ?_
  rintro h' r ⟨⟨hsent, hbilled⟩, hg, -⟩
  refine ⟨?_, hbilled⟩
  intro hu charge hpaid
  obtain ⟨binding, hcharge⟩ := hu.charged hg hpaid
  exact ⟨hcharge binding charge rfl, hsent hu fun hunpaid => hunpaid.not_paid hpaid⟩

attribute [irreducible] grantVerdict

end Grant

/-- `ApiError::Internal(e.into())`; the stores fail with internal errors. -/
def ApiError.wrap : ApiError → ApiError
  | .internal msg => .internal msg
  | e => .internal (reprStr e)

/-- `POST /v1/challenge/:session_id/redeem`. -/
structure RedeemRequest where
  headers : Headers
  sid : Uuid
  codeVerifier : PkceCodeVerifier

/-- `RedeemResponse`. -/
structure RedeemResponse where
  result : String
  verified : Bool
  deriving DecidableEq

namespace Redeem

/-- The tag a redemption consumes. -/
def nonceTag (sid : Uuid) : String := "redeem:" ++ sid.toString

/-- The sandbox reads the record first, for its owner. -/
def prefetchChallenge (app : AppState) (sid : Uuid) : Handler (Option CachedChallenge) := do
  if app.environment = "sandbox" then
    match ← attempt (ChallengeStore.get sid) with
    | .ok challenge => return challenge
    | .error _ => return none
  else return none

/-- The prefetched record, or the stored one. -/
def loadChallenge (sid : Uuid) : Option CachedChallenge → Handler CachedChallenge
  | some challenge => return challenge
  | none => do
    match ← attempt (ChallengeStore.get sid) with
    | .ok (some challenge) => return challenge
    | .ok none => .fail .notFound
    | .error e => .fail e.wrap

/-- The response to a record that is not waiting for redemption. -/
def stateError : ChallengeState → ApiError
  | .pending => .conflictWith "PROOF_NOT_SUBMITTED"
      "The wallet has not yet submitted a proof for this challenge; redeem is only valid after proof_ok"
  | .verified => .conflictWith "CHALLENGE_ALREADY_REDEEMED"
      "This challenge has already been redeemed"
  | .failed => .conflictWith "CHALLENGE_VERIFICATION_FAILED"
      "Wallet proof verification failed; this challenge cannot be redeemed"
  | .expired => .goneWith "CHALLENGE_EXPIRED"
      "Challenge has passed its expiry timestamp; create a new one via POST /v1/challenge"
  | .proofOkWaitingForRedeem => .conflictWith "CHALLENGE_NOT_READY"
      "Challenge is not in a redeemable state"

/-- The gates on the record: expiry, state and PKCE. -/
def checkRecord (app : AppState) (codeVerifier : PkceCodeVerifier) (cached : CachedChallenge)
    (now : Nat) : Except ApiError Unit :=
  if now > cached.expiresAt then
    .error (.goneWith "CHALLENGE_EXPIRED"
      "Challenge has passed its expiry timestamp; create a new one via POST /v1/challenge")
  else if cached.state ≠ .proofOkWaitingForRedeem then .error (stateError cached.state)
  else if app.sha256 (utf8Bytes codeVerifier.text) ≠ cached.codeChallengeBytes then
    .error (.badRequestWith "INVALID_PKCE_VERIFIER" (some "code_verifier")
      "code_verifier does not match the code_challenge supplied at challenge creation")
  else .ok ()

/-- The nonce gate. -/
def consumeNonce (sid : Uuid) : Handler Unit := do
  match ← attempt (NonceStore.checkAndSet (nonceTag sid) nonceDedupTtl) with
  | .ok true => return ()
  | .ok false =>
    .fail (.conflictWith "REDEEM_REPLAY"
      "This challenge has already been redeemed by a recent request (nonce dedup window)")
  | .error e => .fail e.wrap

/-- `redeem_challenge`. -/
def redeemChallenge (app : AppState) (req : RedeemRequest) :
    Handler (Answer RedeemResponse) := do
  let idempotencyKey ← ofExcept
    (Idempotency.extractIdempotencyKey app.uni req.headers "POST" "/v1/redeem")
  ofExcept (validateFetchMetadata app.uni req.headers)
  let prefetched ← prefetchChallenge app req.sid
  let auth ← authenticateApiKey app req.headers
    { expectedOwnerId := prefetched.bind (·.clientId)
      allowMobileFlow := false
      storedClientId := none }
  match auth.clientId with
  | none =>
    .fail (.unauthorizedWith "REDEEM_AUTH_FAILED"
      "Origin + X-API-Key did not match the client that created this challenge. In sandbox the X-API-Key must match the credential returned from /v1/register-test-origin for this challenge's owner.")
  | some clientId =>
    match ← Idempotency.checkCached app idempotencyKey "redeem" clientId with
    | some response => return .cached response
    | none => do
      let loaded ← loadChallenge req.sid prefetched
      let cached := loaded.zeroizeSecret
      ofExcept (verifyOwnership cached.clientId (some clientId))
      let now ← await .timestamp
      ofExcept (checkRecord app req.codeVerifier cached now)
      enforceAccountQuota clientId "redeem"
      consumeNonce req.sid
      grantVerdict app req.sid cached.origin cached now
      Idempotency.storeCached app idempotencyKey "redeem" clientId 200
        "\x7b\"result\":\"OK\",\"verified\":true\x7d" none
      return .fresh ⟨"OK", true⟩

/-! ## What a redemption rests on -/

section Spec

variable {app : AppState} {req : RedeemRequest} {c : CachedChallenge} {h h' : History Op Res}

/-- What a redemption went through before its credits are enforced. -/
structure Grounds (app : AppState) (req : RedeemRequest) (c : CachedChallenge)
    (h : History Op Res) : Prop where
  read : ChallengeStore.Read req.sid c h
  state : c.state = .proofOkWaitingForRedeem
  owner : ∃ clientId, c.clientId = some clientId ∧ AuthenticatedAs app req.headers clientId h
  pkce : app.sha256 (utf8Bytes req.codeVerifier.text) = c.codeChallengeBytes
  accepted : NonceStore.Accepted (nonceTag req.sid) h

theorem Grounds.mono (hs : h <:+ h') (hg : Grounds app req c h) : Grounds app req c h' := by
  obtain ⟨clientId, hclient, hauth⟩ := hg.owner
  exact ⟨hg.read.mono hs, hg.state, ⟨clientId, hclient, hauth.mono hs⟩, hg.pkce,
    hg.accepted.mono hs⟩

/-- The charge of a redemption. -/
def charge (app : AppState) (req : RedeemRequest) (c : CachedChallenge) :
    ConsumeCreditsRequest :=
  Credits.chargeFor app req.sid c.origin c

/-- The records a redemption may write. -/
def Writes (app : AppState) (req : RedeemRequest) (h : History Op Res) (id : Uuid)
    (c' : CachedChallenge) : Prop :=
  id = req.sid ∧ ∃ c now, c' = c.zeroizeSecret.verdict now ∧ OnTime c now h ∧
    Grounds app req c h ∧ Credits.Billed app (charge app req c) h

/-- What a redemption comes to. -/
structure Outcome (app : AppState) (req : RedeemRequest) (h : History Op Res)
    (r : Except ApiError (Answer RedeemResponse)) : Prop where
  sent : ∀ charge, Credits.Paid charge h → charge.verificationId = req.sid.toString ∧
    ∃ c now, Grounds app req c h ∧ Sent app req.sid c.zeroizeSecret now h
  success : ∀ a, r = .ok (.fresh a) → ∃ c, Grounds app req c h ∧
    Credits.Billed app (charge app req c) h
  replayed : ∀ response, r = .ok (.cached response) → Idempotency.Replayed h

/-- An error that leaves the request unpaid. -/
theorem Outcome.unpaid {e : ApiError} (hu : Credits.Unpaid h) :
    Outcome app req h (.error e) :=
  ⟨fun _ hpaid => absurd hpaid hu.not_paid, fun _ hr => (nomatch hr), fun _ hr => (nomatch hr)⟩

theorem checkRecord_ok {codeVerifier : PkceCodeVerifier} {now : Nat}
    (hok : checkRecord app codeVerifier c now = .ok ()) :
    now ≤ c.expiresAt ∧ c.state = .proofOkWaitingForRedeem ∧
      app.sha256 (utf8Bytes codeVerifier.text) = c.codeChallengeBytes := by
  unfold checkRecord at hok
  split at hok
  · cases hok
  · next htime =>
    split at hok
    · cases hok
    · next hstate =>
      split at hok
      · cases hok
      · next hpkce =>
        exact ⟨Nat.le_of_not_lt htime, not_not.mp hstate, not_not.mp hpkce⟩

theorem guarded_prefetchChallenge (app : AppState) (sid : Uuid) :
    Guarded (fun _ op => ChallengeStore.Fetch sid (.get sid.toString) op)
      (fun h' r => ∃ prefetched, r = .ok prefetched ∧
        ∀ c, prefetched = some c → ChallengeStore.Read sid c h') h
      (prefetchChallenge app sid) := by
  unfold prefetchChallenge
  split
  · refine ChallengeStore.guarded_get.seq_attempt (fun _ _ _ hop => hop) ?_
    intro h' r _ hr
    rcases r with e | _ | c
    · exact ⟨none, rfl, fun _ hc => nomatch hc⟩
    · exact ⟨none, rfl, fun _ hc => nomatch hc⟩
    · refine ⟨some c, rfl, ?_⟩
      intro d hd
      cases hd
      exact hr
  · exact ⟨none, rfl, fun _ hc => nomatch hc⟩

theorem guarded_loadChallenge {sid : Uuid} {prefetched : Option CachedChallenge}
    (hpre : ∀ c, prefetched = some c → ChallengeStore.Read sid c h) :
    Guarded (fun _ op => ChallengeStore.Fetch sid (.get sid.toString) op)
      (fun h' r => ∀ c, r = .ok c → ChallengeStore.Read sid c h') h
      (loadChallenge sid prefetched) := by
  cases prefetched with
  | some c =>
    intro d hd
    cases hd
    exact hpre c rfl
  | none => exact ChallengeStore.guarded_load (fun _ => rfl) ⟨_, rfl⟩ fun _ => ⟨_, rfl⟩

theorem guarded_consumeNonce {sid : Uuid} :
    Guarded (fun _ op => NonceStore.IsCheck (nonceTag sid) op)
      (fun h' r => r = .ok () → NonceStore.Accepted (nonceTag sid) h') h (consumeNonce sid) :=
  NonceStore.guarded_gate rfl ⟨_, rfl⟩ fun _ => ⟨_, rfl⟩

attribute [irreducible] prefetchChallenge loadChallenge consumeNonce

variable {P : Op → Prop} {α : Type}

/-- A step that charges nothing: if it fails nothing is paid, and what follows it starts unpaid. -/
theorem guarded_unpaid_bind {S : History Op Res → Except ApiError α → Prop} {p : Handler α}
    {f : α → Handler (Answer RedeemResponse)} (hu : Credits.Unpaid h)
    (hp : Guarded (fun _ op => P op) S h p)
    (hroute : ∀ h' op, P op → RouteOp app (Writes app req h') op)
    (hfree : ∀ binding charge, ¬ P (.credits binding charge))
    (hok : ∀ h' a, Grows P h h' → Credits.Unpaid h' → S h' (.ok a) →
      Guarded (fun h op => RouteOp app (Writes app req h) op) (Outcome app req) h' (f a)) :
    Guarded (fun h op => RouteOp app (Writes app req h) op) (Outcome app req) h (p >>= f) :=
  hp.seq (fun h' op _ => hroute h' op) (fun h' a hg => hok h' a hg (hu.grows hg hfree))
    fun _ _ hg _ => .unpaid (hu.grows hg hfree)

/-- The last stage: the verdict is granted on the grounds that were found, and answered. -/
theorem guarded_grant_bind {now : Nat} {answer : Handler (Answer RedeemResponse)}
    (hu : Credits.Unpaid h) (htime : OnTime c now h) (hgrounds : Grounds app req c h)
    (hanswer : ∀ h, Guarded (fun _ op => Idempotency.IsIdempotency op)
      (fun _ r => ∃ a, r = .ok (.fresh a)) h answer) :
    Guarded (fun h op => RouteOp app (Writes app req h) op) (Outcome app req) h
      (grantVerdict app req.sid c.zeroizeSecret.origin c.zeroizeSecret now >>=
        fun _ => answer) := by
  refine guarded_bind.mpr (guarded_grantVerdict.suffix.imp ?_ ?_)
  · rintro h1 op ⟨hs1, hop | ⟨hbilled, hop⟩⟩
    · exact routeOp_enforce hop
    · exact routeOp_put hop ⟨rfl, c, now, rfl, htime.mono hs1, hgrounds.mono hs1, hbilled⟩
  · rintro h1 r ⟨hs1, hout⟩
    have hsent : ∀ charge, Credits.Paid charge h1 →
        charge.verificationId = req.sid.toString ∧ Sent app req.sid c.zeroizeSecret now h1 :=
      hout.sent hu
    cases r with
    | error e =>
      refine ⟨fun charge hpaid => ?_, fun _ hr => (nomatch hr), fun _ hr => (nomatch hr)⟩
      obtain ⟨hcharge, hsent⟩ := hsent charge hpaid
      exact ⟨hcharge, c, now, hgrounds.mono hs1, hsent⟩
    | ok _ =>
      have hbilled := hout.billed rfl
      refine (hanswer h1).grows.imp (fun _ _ g => routeOp_idempotency g.2) ?_
      rintro h2 _ ⟨hg2, a, rfl⟩
      have hgrounds2 := (hgrounds.mono hs1).mono hg2.suffix
      refine ⟨fun charge hpaid => ?_, fun _ _ => ⟨c, hgrounds2, hbilled.mono hg2.suffix⟩,
        fun _ hr => (nomatch hr)⟩
      obtain ⟨hcharge, hsent⟩ := hsent charge
        (hpaid.of_grows hg2 (by simp [Idempotency.IsIdempotency]))
      exact ⟨hcharge, c, now, hgrounds2, hsent.mono hg2.suffix⟩

/-- The stage of the gates: what follows the read of the record. -/
theorem guarded_gates {clientId : String} {answer : Handler (Answer RedeemResponse)}
    (hu : Credits.Unpaid h) (hread : ChallengeStore.Read req.sid c h)
    (hauth : AuthenticatedAs app req.headers clientId h)
    (hanswer : ∀ h, Guarded (fun _ op => Idempotency.IsIdempotency op)
      (fun _ r => ∃ a, r = .ok (.fresh a)) h answer) :
    Guarded (fun h op => RouteOp app (Writes app req h) op) (Outcome app req) h (do
      ofExcept (verifyOwnership c.zeroizeSecret.clientId (some clientId))
      let now ← await .timestamp
      ofExcept (checkRecord app req.codeVerifier c.zeroizeSecret now)
      enforceAccountQuota clientId "redeem"
      consumeNonce req.sid
      grantVerdict app req.sid c.zeroizeSecret.origin c.zeroizeSecret now
      answer) := by
  refine guarded_ofExcept_bind (fun _ hown => ?_) fun e _ => .unpaid hu
  have hown := (verifyOwnership_ok hown).1
  refine guarded_await_bind.mpr ⟨trivial, fun now => ?_⟩
  have hu1 : Credits.Unpaid (⟨.timestamp, now⟩ :: h) := hu.cons (by simp)
  refine guarded_ofExcept_bind (fun _ hrecord => ?_) fun e _ => .unpaid hu1
  obtain ⟨htime, hstate, hpkce⟩ := checkRecord_ok hrecord
  refine guarded_unpaid_bind hu1 guarded_enforceAccountQuota (fun _ _ => routeOp_quota)
    (by simp [IsQuota]) ?_
  intro h2 _ hg2 hu2 _
  refine guarded_unpaid_bind hu2 guarded_consumeNonce (fun _ _ => routeOp_check)
    (by simp [NonceStore.IsCheck]) ?_
  intro h3 _ hg3 hu3 haccept
  have hs3 : ⟨.timestamp, now⟩ :: h <:+ h3 := hg2.suffix.trans hg3.suffix
  have hs : h <:+ h3 := (List.suffix_cons _ _).trans hs3
  exact guarded_grant_bind hu3 ⟨hs3.subset List.mem_cons_self, htime⟩
    ⟨hread.mono hs, hstate, ⟨clientId, hown, hauth.mono hs⟩, hpkce, haccept rfl⟩ hanswer

/-- **Redemption by the client of the challenge.** -/
theorem guarded_redeemChallenge (app : AppState) (req : RedeemRequest) :
    (redeemChallenge app req).Guarded (fun h op => RouteOp app (Writes app req h) op)
      (Outcome app req) [] := by
  have hu0 := Credits.unpaid_nil
  refine guarded_ofExcept_bind (fun idempotencyKey _ => ?_) fun e _ => .unpaid hu0
  refine guarded_ofExcept_bind (fun _ _ => ?_) fun e _ => .unpaid hu0
  refine guarded_unpaid_bind hu0 (guarded_prefetchChallenge app req.sid)
    (fun _ _ => routeOp_get) (by simp [ChallengeStore.Fetch]) ?_
  rintro h1 prefetched _ hu1 ⟨_, hr, hpre⟩
  cases hr
  refine guarded_unpaid_bind hu1 guarded_authenticateApiKey (fun _ _ => AuthLookup.routeOp)
    (by simp [AuthLookup]) ?_
  rintro h2 auth hg2 hu2 ⟨_, hr, hauth⟩
  cases hr
  split
  · exact .unpaid hu2
  · next clientId hclient =>
    have howner : AuthenticatedAs app req.headers clientId h2 := by
      rcases hauth clientId hclient with ⟨-, hauth⟩ | ⟨-, hmobile, -⟩
      · exact hauth
      · cases hmobile
    refine guarded_unpaid_bind hu2 Idempotency.guarded_checkCached
      (fun _ _ => routeOp_idempotency) (by simp [Idempotency.IsIdempotency]) ?_
    intro h3 response hg3 hu3 hreplay
    cases response with
    | some response =>
      refine ⟨fun _ hpaid => absurd hpaid hu3.not_paid, fun _ hr => (nomatch hr), ?_⟩
      intro _ _
      exact hreplay response rfl
    | none =>
      have hpre3 : ∀ c, prefetched = some c → ChallengeStore.Read req.sid c h3 :=
        fun c hc => ((hpre c hc).mono hg2.suffix).mono hg3.suffix
      refine guarded_unpaid_bind hu3 (guarded_loadChallenge hpre3) (fun _ _ => routeOp_get)
        (by simp [ChallengeStore.Fetch]) ?_
      intro h4 loaded hg4 hu4 hread
      refine guarded_gates hu4 (hread loaded rfl)
        (howner.mono (hg3.suffix.trans hg4.suffix)) fun h => ?_
      refine Idempotency.guarded_storeCached.seq (fun _ _ _ hop => hop) ?_ ?_
      · exact fun _ _ _ _ => ⟨_, rfl⟩
      · intro _ e _ hr
        cases hr

end Spec

end Redeem

end ProviiVerifier

/-
  PKCE: the validators of a code verifier, and the checks of a verifier against a challenge.

  The strict type reads bytes, the hosted handler and `pkce.rs` read characters, and the input
  validator matches a pattern; all measure the length in bytes. `code_challenge_s256` comes from
  `provii-crypto-protocol`: it is the base64url text of SHA-256, and SHA-256 is any function.

  Proved: each validator accepts exactly the strings of 43 to 128 unreserved characters, and for
  these `verify_challenge` against the text of a challenge succeeds exactly when the digest is the
  challenge, which is what both redemption handlers compare (`pkce_agrees`).
-/
import ProviiVerifier.Encoding.Base64Url
import ProviiVerifier.HostedRedeem
import ProviiVerifier.Redeem

namespace ProviiVerifier

/-! ## The strict type -/

/-- `u8::is_ascii_alphanumeric`. -/
def isAlphanumericByte (b : UInt8) : Bool :=
  (48 ≤ b && b ≤ 57) || (65 ≤ b && b ≤ 90) || (97 ≤ b && b ≤ 122)

/-- The bytes of a code verifier: alphanumeric, or one of `-`, `.`, `_` and `~`. -/
def isUnreservedByte (b : UInt8) : Bool :=
  isAlphanumericByte b || b = 45 || b = 46 || b = 95 || b = 126

theorem isUnreservedByte_of_ascii {c : Char} (h : c.toNat < 128) :
    isUnreservedByte (UInt8.ofNat c.toNat) = isUnreserved c := by
  have hall : ∀ n, n < 128 → isUnreservedByte (UInt8.ofNat n) = isUnreserved (Char.ofNat n) := by
    decide
  have hc := hall c.toNat h
  rwa [Char.ofNat_toNat] at hc

theorem isUnreservedByte_of_high {n : Nat} (h : 128 ≤ n) (hn : n < 256) :
    isUnreservedByte (UInt8.ofNat n) = false := by
  have hb : (UInt8.ofNat n).toNat = n := UInt8.toNat_ofNat_of_lt' hn
  generalize UInt8.ofNat n = b at hb
  simp only [isUnreservedByte, isAlphanumericByte, Bool.or_eq_false_iff, Bool.and_eq_false_iff,
    decide_eq_false_iff_not, UInt8.le_iff_toNat_le, ← UInt8.toNat_inj, UInt8.reduceToNat]
  omega

theorem isUnreserved_ascii {c : Char} (h : isUnreserved c = true) : c.toNat < 128 := by
  have hle : ∀ d : Char, d.toNat < 128 → c ≤ d → c.toNat < 128 :=
    fun d hd hcd => Nat.lt_of_le_of_lt hcd hd
  simp only [isUnreserved, isAsciiAlphanumeric, isAsciiDigit, Bool.or_eq_true, Bool.and_eq_true,
    decide_eq_true_eq] at h
  rcases h with (((((⟨-, h⟩ | ⟨-, h⟩) | ⟨-, h⟩) | rfl) | rfl) | rfl) | rfl
  · exact hle '9' (by decide) h
  · exact hle 'z' (by decide) h
  · exact hle 'Z' (by decide) h
  all_goals decide

/-- The bytes of a character are unreserved exactly when it is: those of any other character than
an ASCII one start with a high byte. -/
theorem all_utf8EncodeChar (c : Char) :
    (String.utf8EncodeChar c).all isUnreservedByte = isUnreserved c := by
  by_cases h : c.toNat < 128
  · rw [utf8EncodeChar_ascii h, List.all_cons, List.all_nil, Bool.and_true,
      isUnreservedByte_of_ascii h]
  · have hnot : isUnreserved c = false := by
      by_contra hc
      exact h (isUnreserved_ascii (Bool.not_eq_false _ ▸ hc))
    have hascii : ¬ c.val.toNat ≤ 127 := by
      intro hle
      exact h (Nat.lt_succ_of_le hle)
    rw [hnot]
    unfold String.utf8EncodeChar
    dsimp only
    rw [if_neg hascii]
    split
    · rw [List.all_cons, isUnreservedByte_of_high (by omega) (by omega), Bool.false_and]
    · split
      · rw [List.all_cons, isUnreservedByte_of_high (by omega) (by omega), Bool.false_and]
      · rw [List.all_cons, isUnreservedByte_of_high (by omega) (by omega), Bool.false_and]

/-- A text has unreserved bytes exactly when it has unreserved characters. -/
theorem all_utf8Bytes (s : String) :
    (utf8Bytes s).all isUnreservedByte = s.toList.all isUnreserved := by
  unfold utf8Bytes
  induction s.toList with
  | nil => rfl
  | cons c cs ih => rw [List.flatMap_cons, List.all_append, all_utf8EncodeChar, List.all_cons, ih]

/-- The check of `PkceCodeVerifier::deserialize`. -/
def PkceCodeVerifier.Wellformed (s : String) : Prop :=
  (43 ≤ byteLen s ∧ byteLen s ≤ 128) ∧ (utf8Bytes s).all isUnreservedByte = true

instance (s : String) : Decidable (PkceCodeVerifier.Wellformed s) :=
  inferInstanceAs (Decidable (_ ∧ _))

/-- `PkceCodeVerifier::deserialize`, of a string. -/
def PkceCodeVerifier.deserialize (s : String) : Except String PkceCodeVerifier :=
  if h : PkceCodeVerifier.Wellformed s then .ok ⟨s, h.1, all_utf8Bytes s ▸ h.2⟩
  else .error ("invalid value: invalid_code_verifier, expected " ++
    "RFC7636 code_verifier (43..128 chars, unreserved)")

namespace Pkce

/-! ## `pkce.rs` -/

/-- `PkceError`. -/
inductive PkceError
  | invalidVerifierFormat (reason : String)
  | invalidChallengeFormat (reason : String)
  | verificationFailed
  | invalidVerifierLength (length : Nat)
  deriving DecidableEq

/-- `ChallengeMethod`, outside tests. -/
inductive ChallengeMethod
  | s256
  deriving DecidableEq

/-- The characters that `validate_verifier` lets through. -/
def isVerifierChar (c : Char) : Bool :=
  ('A' ≤ c && c ≤ 'Z') || ('a' ≤ c && c ≤ 'z') || ('0' ≤ c && c ≤ '9') || c = '-' || c = '.' ||
    c = '_' || c = '~'

/-- `validate_verifier`. -/
def validateVerifier (verifier : String) : Except PkceError Unit :=
  let len := byteLen verifier
  if len < 43 then .error (.invalidVerifierLength len)
  else if len > 128 then .error (.invalidVerifierLength len)
  else
    match verifier.toList.find? fun c => !isVerifierChar c with
    | some c => .error (.invalidVerifierFormat s!"Invalid character: '{c}'")
    | none => .ok ()

/-- `generate_challenge`. -/
def generateChallenge (codeChallengeS256 : String → String) (verifier : String) :
    Except PkceError String := do
  validateVerifier verifier
  return codeChallengeS256 verifier

/-- `verify_challenge`. -/
def verifyChallenge (codeChallengeS256 : String → String) (verifier challenge : String)
    (method : ChallengeMethod) : Except PkceError Unit := do
  validateVerifier verifier
  if challenge.toList = [] then throw (.invalidChallengeFormat "Challenge cannot be empty")
  let computedChallenge ← match method with
    | .s256 => generateChallenge codeChallengeS256 verifier
  if utf8Bytes computedChallenge = utf8Bytes challenge then return ()
  else throw .verificationFailed

/-! ## The input validator -/

/-- A pattern `^[class]{min,max}$`: it matches the texts of as many characters, all of the class. -/
structure ClassPattern where
  allowed : Char → Bool
  min : Nat
  max : Nat

/-- `is_match`. -/
def ClassPattern.isMatch (p : ClassPattern) (s : String) : Bool :=
  p.min ≤ s.toList.length && s.toList.length ≤ p.max && s.toList.all p.allowed

/-- `InputValidator`: its patterns by name. -/
structure InputValidator where
  patterns : String → Option ClassPattern

/-- The pattern `^[A-Za-z0-9\-._~]{43,128}$`. -/
def pkcePattern : ClassPattern :=
  { allowed := fun c => ('A' ≤ c && c ≤ 'Z') || ('a' ≤ c && c ≤ 'z') || ('0' ≤ c && c ≤ '9') ||
      c = '-' || c = '.' || c = '_' || c = '~'
    min := 43
    max := 128 }

/-- `VALIDATOR`, with the one pattern that is asked for here. -/
def validator : InputValidator :=
  { patterns := fun name => if name = "pkce" then some pkcePattern else none }

/-- `validate_code_verifier`. -/
def InputValidator.validateCodeVerifier (v : InputValidator) (value : String) :
    Except ApiError String :=
  if byteLen value < 43 ∨ byteLen value > 128 then
    .error (.badRequest (some "code_verifier must be 43-128 characters"))
  else
    match v.patterns "pkce" with
    | none => .error (.internal "missing pkce pattern")
    | some pattern =>
      if pattern.isMatch value = false then
        .error (.badRequest (some "code_verifier contains invalid characters"))
      else .ok value

/-! ## The strings of RFC 7636 -/

/-- `ALPHA / DIGIT / "-" / "." / "_" / "~"`. -/
def Unreserved (c : Char) : Prop :=
  ('A' ≤ c ∧ c ≤ 'Z') ∨ ('a' ≤ c ∧ c ≤ 'z') ∨ ('0' ≤ c ∧ c ≤ '9') ∨ c ∈ ['-', '.', '_', '~']

/-- A code verifier of RFC 7636: 43 to 128 unreserved characters. -/
structure CodeVerifier (s : String) : Prop where
  long : 43 ≤ s.toList.length
  short : s.toList.length ≤ 128
  unreserved : ∀ c ∈ s.toList, Unreserved c

variable {s : String} {c : Char}

theorem isUnreserved_iff : isUnreserved c = true ↔ Unreserved c := by
  simp only [isUnreserved, isAsciiAlphanumeric, isAsciiDigit, Unreserved, Bool.or_eq_true,
    Bool.and_eq_true, decide_eq_true_eq, List.mem_cons, List.not_mem_nil, or_false]
  constructor
  · rintro ((((((h | h) | h) | h) | h) | h) | h)
    · exact .inr (.inr (.inl h))
    · exact .inr (.inl h)
    · exact .inl h
    · exact .inr (.inr (.inr (.inl h)))
    · exact .inr (.inr (.inr (.inr (.inl h))))
    · exact .inr (.inr (.inr (.inr (.inr (.inl h)))))
    · exact .inr (.inr (.inr (.inr (.inr (.inr h)))))
  · rintro (h | h | h | h | h | h | h)
    · exact .inl (.inl (.inl (.inl (.inr h))))
    · exact .inl (.inl (.inl (.inl (.inl (.inr h)))))
    · exact .inl (.inl (.inl (.inl (.inl (.inl h)))))
    · exact .inl (.inl (.inl (.inr h)))
    · exact .inl (.inl (.inr h))
    · exact .inl (.inr h)
    · exact .inr h

/-- The two ways the source writes the class of characters agree. -/
theorem isVerifierChar_eq : isVerifierChar c = isUnreserved c := by
  unfold isVerifierChar isUnreserved isAsciiAlphanumeric isAsciiDigit
  ac_rfl

theorem byteLen_of_unreserved (h : ∀ c ∈ s.toList, isUnreserved c = true) :
    byteLen s = s.toList.length := by
  have hlen : byteLen (String.ofList s.toList) = s.toList.length :=
    byteLen_ofList fun c hc => isUnreserved_ascii (h c hc)
  rwa [String.ofList_toList] at hlen

/-- **The check that all validators make**: the length in bytes and the class of the characters. -/
theorem checked_iff : (43 ≤ byteLen s ∧ byteLen s ≤ 128) ∧ s.toList.all isUnreserved = true ↔
    CodeVerifier s := by
  rw [List.all_eq_true]
  constructor
  · intro ⟨⟨hlong, hshort⟩, hall⟩
    rw [byteLen_of_unreserved hall] at hlong hshort
    exact ⟨hlong, hshort, fun c hc => isUnreserved_iff.mp (hall c hc)⟩
  · intro h
    have hall : ∀ c ∈ s.toList, isUnreserved c = true :=
      fun c hc => isUnreserved_iff.mpr (h.unreserved c hc)
    rw [byteLen_of_unreserved hall]
    exact ⟨⟨h.long, h.short⟩, hall⟩

/-! ## The four validators -/

theorem deserialize_iff : (PkceCodeVerifier.deserialize s).isOk = true ↔ CodeVerifier s := by
  rw [← checked_iff, ← all_utf8Bytes]
  unfold PkceCodeVerifier.deserialize
  split
  · next h => exact ⟨fun _ => h, fun _ => rfl⟩
  · next h => exact ⟨fun hok => absurd hok Bool.false_ne_true, fun hok => absurd hok h⟩

theorem hosted_iff : (HostedRedeem.validateCodeVerifier s).isOk = true ↔ CodeVerifier s := by
  rw [← checked_iff]
  unfold HostedRedeem.validateCodeVerifier
  split
  · next hnil =>
    have hlen : byteLen s = 0 := by
      unfold byteLen utf8Bytes
      rw [hnil]
      rfl
    rw [hlen]
    exact ⟨fun hok => absurd hok Bool.false_ne_true, fun hok => absurd hok.1.1 (by decide)⟩
  · split
    · next hlen => exact ⟨fun hok => absurd hok Bool.false_ne_true, fun hok => by omega⟩
    · next hlen =>
      split
      · next hall =>
        rw [hall]
        exact ⟨fun hok => absurd hok Bool.false_ne_true, fun hok => absurd hok.2 Bool.false_ne_true⟩
      · next hall =>
        exact ⟨fun _ => ⟨by omega, Bool.not_eq_false _ ▸ hall⟩, fun _ => rfl⟩

theorem validateVerifier_iff : (validateVerifier s).isOk = true ↔ CodeVerifier s := by
  rw [← checked_iff]
  have hfind : s.toList.find? (fun c => !isVerifierChar c) = none ↔
      s.toList.all isUnreserved = true := by
    rw [List.find?_eq_none, List.all_eq_true]
    simp only [isVerifierChar_eq, Bool.not_eq_true, Bool.not_eq_false']
  unfold validateVerifier
  dsimp only
  split
  · next hlen => exact ⟨fun hok => absurd hok Bool.false_ne_true, fun hok => by omega⟩
  · split
    · next hlen => exact ⟨fun hok => absurd hok Bool.false_ne_true, fun hok => by omega⟩
    · next hlong hshort =>
      rw [← hfind]
      split
      · next c hfound =>
        rw [hfound]
        exact ⟨fun hok => absurd hok Bool.false_ne_true,
          fun hok => absurd hok.2 (Option.some_ne_none c)⟩
      · next hnone => exact ⟨fun _ => ⟨by omega, hnone⟩, fun _ => rfl⟩

/-- The pattern adds nothing to the check of the length and the class. -/
theorem isMatch_pkcePattern (h : 43 ≤ byteLen s ∧ byteLen s ≤ 128) :
    pkcePattern.isMatch s = s.toList.all isUnreserved := by
  have hclass : pkcePattern.allowed = isUnreserved := funext fun c => isVerifierChar_eq
  unfold ClassPattern.isMatch
  rw [hclass]
  cases hall : s.toList.all isUnreserved with
  | false => rw [Bool.and_false]
  | true =>
    rw [byteLen_of_unreserved (List.all_eq_true.mp hall)] at h
    have hmin : pkcePattern.min ≤ s.toList.length := h.1
    have hmax : s.toList.length ≤ pkcePattern.max := h.2
    rw [decide_eq_true hmin, decide_eq_true hmax]
    rfl

theorem validator_iff : (validator.validateCodeVerifier s).isOk = true ↔ CodeVerifier s := by
  rw [← checked_iff]
  unfold InputValidator.validateCodeVerifier
  split
  · next hlen => exact ⟨fun hok => absurd hok Bool.false_ne_true, fun hok => by omega⟩
  · next hlen =>
    have hpattern : validator.patterns "pkce" = some pkcePattern := rfl
    have hlen : 43 ≤ byteLen s ∧ byteLen s ≤ 128 := by omega
    rw [hpattern]
    dsimp only
    rw [isMatch_pkcePattern hlen]
    split
    · next hall =>
      rw [hall]
      exact ⟨fun hok => absurd hok Bool.false_ne_true, fun hok => absurd hok.2 Bool.false_ne_true⟩
    · next hall => exact ⟨fun _ => ⟨hlen, Bool.not_eq_false _ ▸ hall⟩, fun _ => rfl⟩

/-! ## Verifiers and challenges -/

/-- The base64url text of bytes. -/
def base64UrlText (bytes : Bytes) : String := String.ofList (Base64Url.encode bytes)

/-- `code_challenge_s256` as documented: the base64url text of the digest of the verifier. -/
def EncodesDigest (sha256 : Bytes → Bytes) (codeChallengeS256 : String → String) : Prop :=
  ∀ verifier, codeChallengeS256 verifier = base64UrlText (sha256 (utf8Bytes verifier))

theorem base64UrlText_inj {a b : Bytes} (h : base64UrlText a = base64UrlText b) : a = b := by
  have hlist := congrArg String.toList h
  unfold base64UrlText at hlist
  rw [String.toList_ofList, String.toList_ofList] at hlist
  have hdecoded := congrArg Base64Url.decode hlist
  rw [Base64Url.decode_encode, Base64Url.decode_encode] at hdecoded
  exact Option.some.inj hdecoded

theorem base64UrlText_ne {challenge : FixedBytes 32} :
    (base64UrlText challenge.val).toList ≠ [] := by
  intro hnil
  have hempty : base64UrlText challenge.val = base64UrlText [] :=
    String.toList_inj.mp hnil
  have hlen := challenge.property
  rw [base64UrlText_inj hempty] at hlen
  cases hlen

/-- **A verifier against a challenge**: the digest is compared with the challenge. -/
theorem verifyChallenge_iff {sha256 : Bytes → Bytes} {codeChallengeS256 : String → String}
    (hcode : EncodesDigest sha256 codeChallengeS256) (hs : CodeVerifier s)
    {challenge : FixedBytes 32} :
    verifyChallenge codeChallengeS256 s (base64UrlText challenge.val) .s256 = .ok () ↔
      sha256 (utf8Bytes s) = challenge.val := by
  have hvalid : validateVerifier s = .ok () := by
    have hok := validateVerifier_iff.mpr hs
    cases hv : validateVerifier s with
    | error e =>
      rw [hv] at hok
      cases hok
    | ok u => rfl
  unfold verifyChallenge generateChallenge
  rw [hvalid]
  simp only [bind, Except.bind, pure, Except.pure, if_neg base64UrlText_ne, hcode s]
  constructor
  · intro h
    split at h
    · next heq => exact base64UrlText_inj (utf8Bytes_injective heq)
    · cases h
  · intro h
    rw [h, if_pos rfl]

theorem deserialize_text {verifier : PkceCodeVerifier}
    (h : PkceCodeVerifier.deserialize s = .ok verifier) : verifier.text = s := by
  unfold PkceCodeVerifier.deserialize at h
  split at h
  · injection h with h
    rw [← h]
  · cases h

/-- The expert handler compares the digest with the stored challenge. -/
theorem redeem_iff {app : AppState} {verifier : PkceCodeVerifier} {cached : CachedChallenge}
    {now : Nat} (hnow : now ≤ cached.expiresAt) (hstate : cached.state = .proofOkWaitingForRedeem) :
    Redeem.checkRecord app verifier cached now = .ok () ↔
      app.sha256 (utf8Bytes verifier.text) = cached.codeChallengeBytes := by
  unfold Redeem.checkRecord
  rw [if_neg (Nat.not_lt.mpr hnow), if_neg (not_not.mpr hstate)]
  split
  · next hne =>
    constructor
    · intro h
      cases h
    · intro h
      exact absurd h hne
  · next heq => exact ⟨fun _ => not_not.mp heq, fun _ => rfl⟩

/-- The hosted handler compares the digest with the stored challenge. -/
theorem hostedRedeem_iff {app : AppState} {cached : CachedChallenge}
    (hstate : cached.state = .proofOkWaitingForRedeem) :
    HostedRedeem.checkRecord app s cached = .ok () ↔
      app.sha256 (utf8Bytes s) = cached.codeChallengeBytes := by
  unfold HostedRedeem.checkRecord
  rw [if_neg (not_not.mpr hstate)]
  split
  · next hne =>
    constructor
    · intro h
      cases h
    · intro h
      exact absurd h hne
  · next heq => exact ⟨fun _ => not_not.mp heq, fun _ => rfl⟩

/-- **The PKCE checks agree everywhere**: the four validators accept exactly the code verifiers of
RFC 7636, and a verifier checks against the text of a challenge exactly when its digest is the
challenge, which is what the redemption handlers compare. -/
theorem pkce_agrees (app : AppState) (codeChallengeS256 : String → String)
    (hcode : EncodesDigest app.sha256 codeChallengeS256) :
    (∀ v, ((PkceCodeVerifier.deserialize v).isOk = true ↔ CodeVerifier v) ∧
      ((HostedRedeem.validateCodeVerifier v).isOk = true ↔ CodeVerifier v) ∧
      ((validateVerifier v).isOk = true ↔ CodeVerifier v) ∧
      ((validator.validateCodeVerifier v).isOk = true ↔ CodeVerifier v)) ∧
    ∀ v, CodeVerifier v → ∀ challenge : FixedBytes 32,
      (verifyChallenge codeChallengeS256 v (base64UrlText challenge.val) .s256 = .ok () ↔
        app.sha256 (utf8Bytes v) = challenge.val) ∧
      ∀ cached : CachedChallenge, cached.codeChallengeBytes = challenge.val →
        cached.state = .proofOkWaitingForRedeem →
        (HostedRedeem.checkRecord app v cached = .ok () ↔
          app.sha256 (utf8Bytes v) = challenge.val) ∧
        ∀ verifier now, PkceCodeVerifier.deserialize v = .ok verifier → now ≤ cached.expiresAt →
          (Redeem.checkRecord app verifier cached now = .ok () ↔
            app.sha256 (utf8Bytes v) = challenge.val) := by
  refine ⟨fun v => ⟨deserialize_iff, hosted_iff, validateVerifier_iff, validator_iff⟩, ?_⟩
  intro v hv challenge
  refine ⟨verifyChallenge_iff hcode hv, fun cached hbytes hstate => ⟨?_, ?_⟩⟩
  · rw [← hbytes]
    exact hostedRedeem_iff hstate
  · intro verifier now hread hnow
    rw [← hbytes, ← deserialize_text hread]
    exact redeem_iff hnow hstate

/-- Forty-three letters check against the text of their digest. -/
theorem pkce_agrees_letters :
    verifyChallenge (fun v => base64UrlText (AppState.sample.sha256 (utf8Bytes v)))
      (String.ofList (List.replicate 43 'a')) (base64UrlText CachedChallenge.sampleDigest) .s256 =
        .ok () := by
  obtain ⟨hvalidators, hchecks⟩ := pkce_agrees AppState.sample
    (fun v => base64UrlText (AppState.sample.sha256 (utf8Bytes v))) fun _ => rfl
  have hletters : CodeVerifier (String.ofList (List.replicate 43 'a')) :=
    (hvalidators _).2.2.1.mp (by decide +kernel)
  exact (hchecks _ hletters ⟨CachedChallenge.sampleDigest, rfl⟩).1.mpr (by decide +kernel)

end Pkce

end ProviiVerifier

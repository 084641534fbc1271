/-
  `cache.rs`: the challenge record and its lifecycle states.

  Byte vectors are `List UInt8`. `zeroize` on a vector empties it, so an erased
  `submit_secret` is the empty list.
-/
import ProviiVerifier.Ids

namespace ProviiVerifier

abbrev Bytes := List UInt8

/-- A byte array of fixed length. -/
abbrev FixedBytes (n : Nat) := { bytes : Bytes // bytes.length = n }

/-- `ChallengeState`. -/
inductive ChallengeState
  | pending
  | proofOkWaitingForRedeem
  | verified
  | failed
  | expired
  deriving DecidableEq, Repr

/-- `ProofDirection`. -/
inductive ProofDirection
  | overAge
  | underAge
  deriving DecidableEq, Repr

/-- `CachedChallenge`. -/
structure CachedChallenge where
  id : Uuid
  shortCode : String
  rpChallenge : Bytes
  cutoffDays : Int
  verifyingKeyId : Nat
  codeChallenge : String
  codeChallengeBytes : Bytes
  submitSecret : Bytes
  origin : String
  expiresAt : Nat
  createdAt : Nat
  state : ChallengeState
  proofSubmitted : Bool
  verifiedAt : Option Nat
  proofVerifiedAt : Option Nat
  issuerKid : Option String
  issuerVkBytes : Option Bytes
  clientId : Option String
  tenantId : Option String
  proofDirection : ProofDirection
  deriving DecidableEq, Repr

/-- `CHALLENGE_FIELD_LEN`. -/
def challengeFieldLen : Nat := 32

namespace CachedChallenge

/-- `CachedChallenge::validate`: lengths of the security-critical byte fields. -/
def validate (c : CachedChallenge) : Except String Unit :=
  if c.rpChallenge.length ≠ challengeFieldLen then
    .error s!"rp_challenge length {c.rpChallenge.length} != {challengeFieldLen}"
  else if c.submitSecret ≠ [] ∧ c.submitSecret.length ≠ challengeFieldLen then
    .error s!"submit_secret length {c.submitSecret.length} != {challengeFieldLen}"
  else if c.codeChallengeBytes.length ≠ challengeFieldLen then
    .error s!"code_challenge_bytes length {c.codeChallengeBytes.length} != {challengeFieldLen}"
  else .ok ()

/-- What `validate` takes. -/
theorem validate_iff (c : CachedChallenge) : c.validate = .ok () ↔
    c.rpChallenge.length = challengeFieldLen ∧
      (c.submitSecret = [] ∨ c.submitSecret.length = challengeFieldLen) ∧
      c.codeChallengeBytes.length = challengeFieldLen := by
  unfold validate
  split
  · next h => simp [h]
  · next hrp =>
    split
    · next h => simp [h.1, h.2]
    · next hsecret =>
      split
      · next h => simp [h]
      · next hcode =>
        have hsecret : c.submitSecret = [] ∨ c.submitSecret.length = challengeFieldLen := by
          by_cases hempty : c.submitSecret = []
          · exact .inl hempty
          · exact .inr (not_not.mp fun h => hsecret ⟨hempty, h⟩)
        simp [not_not.mp hrp, not_not.mp hcode, hsecret]

/-- `submit_secret.zeroize()`. -/
def zeroizeSecret (c : CachedChallenge) : CachedChallenge :=
  { c with submitSecret := [] }

/-- The fields that no update changes: everything but the lifecycle fields and the secret. -/
structure SameChallenge (c d : CachedChallenge) : Prop where
  id : c.id = d.id
  shortCode : c.shortCode = d.shortCode
  rpChallenge : c.rpChallenge = d.rpChallenge
  cutoffDays : c.cutoffDays = d.cutoffDays
  verifyingKeyId : c.verifyingKeyId = d.verifyingKeyId
  codeChallenge : c.codeChallenge = d.codeChallenge
  codeChallengeBytes : c.codeChallengeBytes = d.codeChallengeBytes
  origin : c.origin = d.origin
  expiresAt : c.expiresAt = d.expiresAt
  createdAt : c.createdAt = d.createdAt
  clientId : c.clientId = d.clientId
  tenantId : c.tenantId = d.tenantId
  proofDirection : c.proofDirection = d.proofDirection

theorem SameChallenge.refl (c : CachedChallenge) : c.SameChallenge c := by
  constructor <;> rfl

theorem SameChallenge.symm {c d : CachedChallenge} (h : c.SameChallenge d) :
    d.SameChallenge c := by
  constructor <;> simp [h.id, h.shortCode, h.rpChallenge, h.cutoffDays, h.verifyingKeyId,
    h.codeChallenge, h.codeChallengeBytes, h.origin, h.expiresAt, h.createdAt, h.clientId,
    h.tenantId, h.proofDirection]

theorem SameChallenge.trans {c d e : CachedChallenge} (h : c.SameChallenge d)
    (h' : d.SameChallenge e) : c.SameChallenge e := by
  constructor <;> simp [h.id, h.shortCode, h.rpChallenge, h.cutoffDays, h.verifyingKeyId,
    h.codeChallenge, h.codeChallengeBytes, h.origin, h.expiresAt, h.createdAt, h.clientId,
    h.tenantId, h.proofDirection, h'.id, h'.shortCode, h'.rpChallenge, h'.cutoffDays,
    h'.verifyingKeyId, h'.codeChallenge, h'.codeChallengeBytes, h'.origin, h'.expiresAt,
    h'.createdAt, h'.clientId, h'.tenantId, h'.proofDirection]

/-- The secret is the original one or has been erased. -/
def SecretFrom (c d : CachedChallenge) : Prop :=
  c.submitSecret = d.submitSecret ∨ c.submitSecret = []

theorem SecretFrom.trans {c d e : CachedChallenge} (h : c.SecretFrom d)
    (h' : d.SecretFrom e) : c.SecretFrom e := by
  rcases h with h | h
  · rcases h' with h' | h'
    · exact .inl (h.trans h')
    · exact .inr (h.trans h')
  · exact .inr h

/-- The SHA-256 digest of forty-three letters `a`. -/
def sampleDigest : Bytes :=
  [102, 211, 79, 186, 113, 248, 244, 80, 247, 228, 85, 152, 133, 62, 83, 191,
    194, 59, 189, 18, 144, 39, 203, 177, 49, 162, 244, 255, 215, 135, 140, 208]

/-- A record created at time 1000 for 300 seconds, to replay runs with. -/
def sample : CachedChallenge :=
  { id := 0x550e8400e29b41d4a716446655440000#128
    shortCode := generateShortCodeFromUuid 0x550e8400e29b41d4a716446655440000#128
    rpChallenge := (List.range' 1 32).map UInt8.ofNat
    cutoffDays := 13000
    verifyingKeyId := 1
    codeChallenge := "[REDACTED]"
    codeChallengeBytes := sampleDigest
    submitSecret := List.replicate 32 5
    origin := "https://shop.example"
    expiresAt := 1300
    createdAt := 1000
    state := .pending
    proofSubmitted := false
    verifiedAt := none
    proofVerifiedAt := none
    issuerKid := none
    issuerVkBytes := none
    clientId := some "shop"
    tenantId := some "org-shop"
    proofDirection := .overAge }

end CachedChallenge

end ProviiVerifier

/-
  `routes/verify.rs`: the submission of a proof.

  The ban check and the load of the record, which the source awaits together, are performed one
  after the other. Audit, analytics, timing and the notification of hosted sessions are left
  out.

  Proved: whatever the answers are, the handler writes the record only after the nonce store
  accepted the challenge's tag, and it writes `ProofOkWaitingForRedeem` only when every check on
  the submission passed against the record it read (`guarded_submitVerification`).
-/
import ProviiVerifier.Redeem

namespace ProviiVerifier

open Interleaving Prog

/-- `POST /v1/verify`. -/
structure SubmitProofRequest where
  headers : Headers
  challengeId : Uuid
  submitSecret : FixedBytes 32
  verifyingKeyId : Nat
  cutoffDays : Int
  rpChallenge : FixedBytes 32
  issuer : FixedBytes 32
  credNullifier : FixedBytes 32
  proof : FixedBytes 192

/-- `VerifyResponse` with its status. -/
structure VerifyResponse where
  status : Nat
  result : String
  state : String
  deriving DecidableEq

/-- `bool` of a proof direction: whether the holder proves to be over the age. -/
def ProofDirection.isOver : ProofDirection → Bool
  | .overAge => true
  | .underAge => false

namespace CachedChallenge

/-- The record a rejected submission leaves. -/
def fail (c : CachedChallenge) : CachedChallenge :=
  { c.zeroizeSecret with state := .failed, proofSubmitted := true }

/-- The record a submission after the expiry leaves. -/
def expire (c : CachedChallenge) : CachedChallenge :=
  { c.zeroizeSecret with state := .expired }

/-- The record an accepted submission leaves. -/
def acceptProof (c : CachedChallenge) (issuer : IssuerMeta) (result : SnarkResult) (now : Nat) :
    CachedChallenge :=
  { c.zeroizeSecret with
    state := .proofOkWaitingForRedeem
    proofVerifiedAt := some now
    proofSubmitted := true
    issuerKid := some issuer.kid
    issuerVkBytes := some result.issuerVkBytes }

end CachedChallenge

namespace Verify

/-- The tag a submission consumes. -/
def nonceTag (challengeId : Uuid) : String := "verify:" ++ challengeId.toString

/-- The hash of the submitted issuer key. -/
def issuerKeyHash (app : AppState) (req : SubmitProofRequest) : Bytes :=
  app.blake2s256 (utf8Bytes "provii.issuer.vk.v0" ++ req.issuer.val)

/-- `fail_challenge_and_persist`; a failed write is only logged. -/
def failChallengeAndPersist (app : AppState) (challengeId : Uuid) (cached : CachedChallenge) :
    Handler Unit := do
  let _ ← attempt (ChallengeStore.put app challengeId cached.fail)
  return ()

/-- Fail the challenge and turn the request away. -/
def rejectWhen (app : AppState) (challengeId : Uuid) (cached : CachedChallenge) (bad : Bool)
    (e : ApiError) : Handler Unit := do
  if bad then do
    failChallengeAndPersist app challengeId cached
    .fail e
  else return ()

/-- The nonce gate. -/
def consumeNonce (challengeId : Uuid) : Handler Unit := do
  match ← attempt (NonceStore.checkAndSet (nonceTag challengeId) nonceDedupTtl) with
  | .ok true => return ()
  | .ok false => .fail (.conflict (some "Duplicate verification submission"))
  | .error e => .fail e.wrap

/-- The record of a submission whose nullifier is not banned. -/
def loadUnbanned (req : SubmitProofRequest) : Handler CachedChallenge := do
  let banResult ← await (.isBanned req.credNullifier.val)
  let challengeGetResult ← attempt (ChallengeStore.get req.challengeId)
  let isBanned ← ofExcept banResult
  if isBanned then .fail (.forbidden (some "Credential is banned"))
  else
    match challengeGetResult with
    | .ok (some challenge) => return challenge
    | .ok none => .fail .notFound
    | .error e => .fail e.wrap

/-- The policy of the challenge's origin. -/
def loadPolicy (origin : String) : Handler OriginPolicy := do
  match ← ofExcept (← await (.getPolicyDetail origin)) with
  | .found policy => return policy
  | .disabled | .notFound => .fail (.forbidden (some "Origin not approved"))

/-- The checks on the submission before the proof is verified. -/
def checkSubmission (app : AppState) (req : SubmitProofRequest) (policy : OriginPolicy)
    (cached : CachedChallenge) : Handler Unit := do
  let rejectWhen := rejectWhen app req.challengeId cached
  rejectWhen (!policy.allowedVkIds.contains req.verifyingKeyId)
    (.badRequest (some "Invalid verifying_key_id for this origin"))
  if cached.submitSecret.length ≠ 32 then .fail (.internal "Service unavailable")
  else
    rejectWhen (req.submitSecret.val ≠ cached.submitSecret)
      (.badRequest (some "Invalid submit_secret"))
    let peeked ← await (.peekIssuer (issuerKeyHash app req))
    rejectWhen (peeked.any (·.revoked)) (.forbidden (some "Issuer has been revoked"))
    rejectWhen (policy.allowedIssuers ≠ [] &&
        !policy.allowedIssuers.contains (app.base64Url (issuerKeyHash app req)))
      (.forbidden (some "Issuer not allowed for this origin"))
    rejectWhen (req.verifyingKeyId ≠ cached.verifyingKeyId)
      (.badRequest (some "verifying_key_id mismatch"))
    if cached.rpChallenge.length ≠ 32 then .fail (.internal "Service unavailable")
    else
      rejectWhen (req.rpChallenge.val ≠ cached.rpChallenge)
        (.badRequest (some "rp_challenge mismatch"))
      rejectWhen (req.cutoffDays ≠ cached.cutoffDays)
        (.badRequest (some "cutoff_days mismatch"))

/-- The result code of a proof that does not verify. -/
def snarkErrorMessage : SnarkError → String
  | .verificationFailed => "INVALID_PROOF"
  | .invalidFormat => "INVALID_PROOF_FORMAT"
  | .verifierNotInitialized => "VERIFIER_ERROR"
  | .other => "VERIFICATION_FAILED"

/-- `verify_age_snark` on the submission, with the parameters of the record. -/
def verifySnark (app : AppState) (req : SubmitProofRequest) (cached : CachedChallenge) :
    Except SnarkError SnarkResult :=
  app.verifyAgeSnark req.proof.val cached.proofDirection.isOver cached.cutoffDays
    (app.blake2s256 req.rpChallenge.val) req.issuer.val req.credNullifier.val
    cached.verifyingKeyId

/-- The registered issuer of the submission; a revoked or unknown one fails the challenge. -/
def lookupIssuer (app : AppState) (req : SubmitProofRequest) (cached : CachedChallenge) :
    Handler IssuerMeta := do
  match ← await (.lookupIssuer (issuerKeyHash app req)) with
  | .ok issuer =>
    rejectWhen app req.challengeId cached issuer.revoked
      (.forbidden (some "Issuer revoked after proof verification"))
    return issuer
  | .error .notFound => do
    failChallengeAndPersist app req.challengeId cached
    .fail (.forbidden (some "Unknown issuer"))
  | .error _ =>
    .fail (.serviceUnavailable (some "Issuer registry temporarily unavailable"))

/-- The part of the handler from the verification of the proof on. -/
def acceptSubmission (app : AppState) (req : SubmitProofRequest) (cached : CachedChallenge)
    (now : Nat) : Handler VerifyResponse := do
  match verifySnark app req cached with
  | .error e =>
    failChallengeAndPersist app req.challengeId cached
    return { status := 400, result := snarkErrorMessage e, state := "failed" }
  | .ok result =>
    let issuer ← lookupIssuer app req cached
    match ← attempt (ChallengeStore.put app req.challengeId
        (cached.acceptProof issuer result now)) with
    | .error e => .fail e.wrap
    | .ok () =>
      return { status := 200, result := "OK", state := "proof_ok_waiting_for_redeem" }

/-- Expiry and earlier submissions. -/
def checkOpen (app : AppState) (challengeId : Uuid) (cached : CachedChallenge) (now : Nat) :
    Handler Unit := do
  if now > cached.expiresAt then
    let _ ← attempt (ChallengeStore.put app challengeId cached.expire)
    .fail (.gone (some "Challenge expired"))
  else if cached.proofSubmitted = true ∨ cached.state = .proofOkWaitingForRedeem ∨
      cached.state = .verified ∨ cached.state = .failed then
    .fail (.gone (some "Challenge already consumed"))
  else return ()

/-- `submit_verification`. -/
def submitVerification (app : AppState) (req : SubmitProofRequest) :
    Handler (Answer VerifyResponse) := do
  let idempotencyKey ← ofExcept
    (Idempotency.extractIdempotencyKey app.uni req.headers "POST" "/v1/verify")
  ofExcept (validateFetchMetadata app.uni req.headers)
  let cached ← loadUnbanned req
  let auth ← authenticateApiKey app req.headers
    { expectedOwnerId := cached.clientId
      allowMobileFlow := true
      storedClientId := cached.clientId }
  match auth.clientId with
  | none => .fail .unauthorized
  | some clientId =>
    ofExcept (if auth.isMobileFlow then .ok () else verifyOwnership cached.clientId (some clientId))
    match ← Idempotency.checkCached app idempotencyKey "verify" clientId with
    | some response => return .cached response
    | none => do
      enforceAccountQuota clientId "verify"
      consumeNonce req.challengeId
      let policy ← loadPolicy cached.origin
      let now ← await .timestamp
      checkOpen app req.challengeId cached now
      checkSubmission app req policy cached
      let response ← acceptSubmission app req cached now
      if response.status = 200 then
        Idempotency.storeCached app idempotencyKey "verify" clientId 200
          "\x7b\"result\":\"OK\",\"state\":\"proof_ok_waiting_for_redeem\"\x7d" none
      return .fresh response

/-! ## What an accepted submission rests on -/

section Spec

variable {app : AppState} {req : SubmitProofRequest} {id : Uuid} {c : CachedChallenge}
  {h h' : History Op Res}

/-- The submission fits the record and the policy. -/
structure Fits (app : AppState) (req : SubmitProofRequest) (policy : OriginPolicy)
    (c : CachedChallenge) : Prop where
  secret : req.submitSecret.val = c.submitSecret
  verifyingKeyId : req.verifyingKeyId = c.verifyingKeyId
  rpChallenge : req.rpChallenge.val = c.rpChallenge
  cutoffDays : req.cutoffDays = c.cutoffDays
  issuer : policy.allowedIssuers = [] ∨
    app.base64Url (issuerKeyHash app req) ∈ policy.allowedIssuers

/-- Nothing was submitted for the record. -/
structure Unused (c : CachedChallenge) : Prop where
  unsubmitted : c.proofSubmitted = false
  state : c.state = .pending ∨ c.state = .expired

/-- The request was let in: its headers are in order, it acts for the owner of the record, whose
quota has room, and nothing was submitted before. -/
structure Admitted (app : AppState) (req : SubmitProofRequest) (c : CachedChallenge)
    (h : History Op Res) : Prop where
  key : ∃ key, Idempotency.extractIdempotencyKey app.uni req.headers "POST" "/v1/verify" = .ok key
  metadata : validateFetchMetadata app.uni req.headers = .ok ()
  caller : ∃ clientId, c.clientId = some clientId ∧
    (req.headers "Origin" = none ∨ AuthenticatedAs app req.headers clientId h) ∧
      ⟨.accountQuota clientId "verify", .ok ()⟩ ∈ h
  unused : Unused c

theorem Admitted.mono (hs : h <:+ h') (ha : Admitted app req c h) : Admitted app req c h' := by
  obtain ⟨clientId, howner, hcaller, hquota⟩ := ha.caller
  exact ⟨ha.key, ha.metadata, ⟨clientId, howner, hcaller.imp id fun hauth => hauth.mono hs,
    hs.subset hquota⟩, ha.unused⟩

/-- What the checks on the submission came to, under the policy. -/
structure Checked (app : AppState) (req : SubmitProofRequest) (policy : OriginPolicy)
    (c : CachedChallenge) (h : History Op Res) : Prop where
  allowed : req.verifyingKeyId ∈ policy.allowedVkIds
  fits : Fits app req policy c
  peeked : ∃ peeked, ⟨.peekIssuer (issuerKeyHash app req), peeked⟩ ∈ h ∧
    peeked.any (·.revoked) = false

theorem Checked.mono {policy : OriginPolicy} (hs : h <:+ h')
    (hc : Checked app req policy c h) : Checked app req policy c h' := by
  obtain ⟨peeked, hpeeked, hrevoked⟩ := hc.peeked
  exact ⟨hc.allowed, hc.fits, peeked, hs.subset hpeeked, hrevoked⟩

/-- What an accepted submission went through. -/
structure Grounds (app : AppState) (req : SubmitProofRequest) (c : CachedChallenge)
    (h : History Op Res) : Prop where
  read : ChallengeStore.Read req.challengeId c h
  unbanned : ⟨.isBanned req.credNullifier.val, .ok false⟩ ∈ h
  admitted : Admitted app req c h
  policy : ∃ policy, ⟨.getPolicyDetail c.origin, .ok (.found policy)⟩ ∈ h ∧
    Checked app req policy c h
  proof : ∃ result, verifySnark app req c = .ok result
  issuer : ∃ issuer, ⟨.lookupIssuer (issuerKeyHash app req), .ok issuer⟩ ∈ h ∧
    issuer.revoked = false

theorem Grounds.mono (hs : h <:+ h') (hg : Grounds app req c h) : Grounds app req c h' := by
  obtain ⟨policy, hpolicy, hchecked⟩ := hg.policy
  obtain ⟨issuer, hissuer, hrevoked⟩ := hg.issuer
  exact ⟨hg.read.mono hs, hs.subset hg.unbanned, hg.admitted.mono hs,
    ⟨policy, hs.subset hpolicy, hchecked.mono hs⟩, hg.proof, issuer, hs.subset hissuer, hrevoked⟩

/-- What every write of a submission comes after: its read of the record, and then its tag. -/
structure Gated (req : SubmitProofRequest) (c : CachedChallenge) (h : History Op Res) : Prop where
  read : ChallengeStore.Read req.challengeId c h
  accepted : NonceStore.Accepted (nonceTag req.challengeId) h

theorem Gated.mono (hs : h <:+ h') (hg : Gated req c h) : Gated req c h' :=
  ⟨hg.read.mono hs, hg.accepted.mono hs⟩

/-- The records a submission may write. -/
inductive Writes (app : AppState) (req : SubmitProofRequest) (h : History Op Res) (id : Uuid) :
    CachedChallenge → Prop
  | fail {c : CachedChallenge} (hid : id = req.challengeId) (hgated : Gated req c h) :
      Writes app req h id c.fail
  | expire {c : CachedChallenge} (hid : id = req.challengeId) (hgated : Gated req c h) :
      Writes app req h id c.expire
  | accept {c : CachedChallenge} {issuer : IssuerMeta} {result : SnarkResult} {now : Nat}
      (hid : id = req.challengeId) (hgated : Gated req c h) (hgrounds : Grounds app req c h)
      (htime : OnTime c now h) : Writes app req h id (c.acceptProof issuer result now)

theorem guarded_failChallengeAndPersist :
    Guarded (fun _ op => ChallengeStore.PutOp app id c.fail op) (fun _ r => r = .ok ()) h
      (failChallengeAndPersist app id c) :=
  ChallengeStore.guarded_put.seq_attempt (fun _ _ _ hop => hop) fun _ _ _ _ => rfl

theorem guarded_rejectWhen {bad : Bool} {e : ApiError} :
    Guarded (fun _ op => ChallengeStore.PutOp app id c.fail op)
      (fun _ r => r = .ok () → bad = false) h (rejectWhen app id c bad e) := by
  cases bad with
  | false => exact fun _ => rfl
  | true => exact guarded_failChallengeAndPersist.bind (fun _ _ _ _ => nofun) fun _ _ _ _ => nofun

theorem guarded_consumeNonce (id : Uuid) :
    Guarded (fun _ op => NonceStore.IsCheck (nonceTag id) op)
      (fun h' r => r = .ok () → NonceStore.Accepted (nonceTag id) h') h (consumeNonce id) :=
  NonceStore.guarded_gate rfl ⟨_, rfl⟩ fun _ => ⟨_, rfl⟩

/-- The operations of the load. -/
def LoadOp (req : SubmitProofRequest) (op : Op) : Prop :=
  op = .isBanned req.credNullifier.val ∨
    ChallengeStore.Fetch req.challengeId (.get req.challengeId.toString) op

theorem guarded_loadUnbanned (req : SubmitProofRequest) :
    Guarded (fun _ op => LoadOp req op)
      (fun h' r => ∀ c, r = .ok c → ChallengeStore.Read req.challengeId c h' ∧
        ⟨.isBanned req.credNullifier.val, .ok false⟩ ∈ h') h (loadUnbanned req) := by
  refine guarded_await_bind.mpr ⟨.inl rfl, fun ban => ?_⟩
  refine ChallengeStore.guarded_get.seq_attempt (fun _ _ _ hop => .inr hop) ?_
  intro h' r hg hr
  refine guarded_ofExcept_bind (fun banned hban => ?_) fun e _ => fun _ hr => (nomatch hr)
  cases banned with
  | true => exact fun _ hr => nomatch hr
  | false =>
    rcases r with e | _ | c
    · exact fun _ hr => nomatch hr
    · exact fun _ hr => nomatch hr
    · intro d hd
      cases hd
      exact ⟨hr, hg.suffix.subset (by simp [hban])⟩

/-- The operation of the policy lookup. -/
def IsPolicyLookup (origin : String) (op : Op) : Prop := op = .getPolicyDetail origin

theorem guarded_loadPolicy (origin : String) :
    Guarded (fun _ op => IsPolicyLookup origin op)
      (fun h' r => ∀ policy, r = .ok policy →
        ⟨.getPolicyDetail origin, .ok (.found policy)⟩ ∈ h') h (loadPolicy origin) := by
  refine guarded_await_bind.mpr ⟨rfl, fun answer => ?_⟩
  rcases answer with e | policy | _ | _
  · exact fun _ hr => nomatch hr
  · intro policy' hr
    cases hr
    exact List.mem_cons_self
  · exact fun _ hr => nomatch hr
  · exact fun _ hr => nomatch hr

/-- The operations of a check that may fail the challenge. -/
def SubmissionOp (app : AppState) (req : SubmitProofRequest) (c : CachedChallenge)
    (op : Op) : Prop :=
  (∃ hash, op = .peekIssuer hash ∨ op = .lookupIssuer hash) ∨
    ChallengeStore.PutOp app req.challengeId c.fail op

/-- A rejection in front of the rest of the checks. -/
theorem guarded_rejectWhen_bind {bad : Bool} {e : ApiError} {β : Type} {f : Unit → Handler β}
    {Q : History Op Res → Except ApiError β → Prop} (hQ : ∀ h' e, Q h' (.error e))
    (hf : ∀ h', h <:+ h' → bad = false →
      Guarded (fun _ op => SubmissionOp app req c op) Q h' (f ())) :
    Guarded (fun _ op => SubmissionOp app req c op) Q h
      (rejectWhen app req.challengeId c bad e >>= f) :=
  guarded_rejectWhen.seq (fun _ _ _ hop => .inr hop)
    (fun h' _ hg hbad => hf h' hg.suffix (hbad rfl)) fun h' e _ _ => hQ h' e

theorem guarded_checkSubmission {policy : OriginPolicy} :
    Guarded (fun _ op => SubmissionOp app req c op)
      (fun h' r => r = .ok () → Checked app req policy c h') h
      (checkSubmission app req policy c) := by
  unfold checkSubmission
  dsimp only
  refine guarded_rejectWhen_bind (fun _ _ => nofun) fun h1 _ hallowed => ?_
  split
  · exact nofun
  · refine guarded_rejectWhen_bind (fun _ _ => nofun) fun h2 _ hsecret => ?_
    refine guarded_await_bind.mpr ⟨.inl ⟨_, .inl rfl⟩, fun peeked => ?_⟩
    refine guarded_rejectWhen_bind (fun _ _ => nofun) fun h3 hs3 hrevoked => ?_
    refine guarded_rejectWhen_bind (fun _ _ => nofun) fun h4 hs4 hissuer => ?_
    refine guarded_rejectWhen_bind (fun _ _ => nofun) fun h5 hs5 hvk => ?_
    split
    · exact nofun
    · refine guarded_rejectWhen_bind (fun _ _ => nofun) fun h6 hs6 hrp => ?_
      refine guarded_rejectWhen.suffix.imp (fun _ _ g => .inr g.2) ?_
      rintro h7 r ⟨hs7, hcutoff⟩ hr
      have hcutoff := hcutoff hr
      simp only [decide_eq_false_iff_not, not_not] at hsecret hvk hrp hcutoff
      have hpeeked := (((hs3.trans hs4).trans hs5).trans hs6).trans hs7
      refine ⟨by simpa using hallowed, ⟨hsecret, hvk, hrp, hcutoff, ?_⟩, peeked,
        hpeeked.subset List.mem_cons_self, hrevoked⟩
      by_cases hempty : policy.allowedIssuers = []
      · exact .inl hempty
      · exact .inr (by simpa [hempty] using hissuer)

theorem guarded_lookupIssuer :
    Guarded (fun _ op => SubmissionOp app req c op)
      (fun h' r => ∀ issuer, r = .ok issuer →
        ⟨.lookupIssuer (issuerKeyHash app req), .ok issuer⟩ ∈ h' ∧ issuer.revoked = false) h
      (lookupIssuer app req c) := by
  refine guarded_await_bind.mpr ⟨.inl ⟨_, .inr rfl⟩, fun answer => ?_⟩
  split
  · next issuer =>
    refine guarded_rejectWhen_bind (fun _ _ => fun _ hr => (nomatch hr)) fun h1 hs hrevoked => ?_
    intro issuer' hr
    cases hr
    exact ⟨hs.subset List.mem_cons_self, hrevoked⟩
  · refine guarded_failChallengeAndPersist.seq (fun _ _ _ hop => .inr hop) ?_ ?_
    · exact fun _ _ _ _ => fun _ hr => (nomatch hr)
    · exact fun _ _ _ _ => fun _ hr => (nomatch hr)
  · exact fun _ hr => nomatch hr

attribute [irreducible] failChallengeAndPersist rejectWhen consumeNonce loadUnbanned loadPolicy
  checkSubmission lookupIssuer

theorem SubmissionOp.routeOp {op : Op} (hop : SubmissionOp app req c op)
    (hgated : Gated req c h) : RouteOp app (Writes app req h) op := by
  rcases hop with ⟨hash, rfl | rfl⟩ | hop
  · trivial
  · trivial
  · exact routeOp_put hop (.fail rfl hgated)

/-- Acceptance of a submission that fits. -/
theorem guarded_acceptSubmission {policy : OriginPolicy} {now : Nat} (hgated : Gated req c h)
    (htime : OnTime c now h)
    (hunbanned : ⟨.isBanned req.credNullifier.val, .ok false⟩ ∈ h)
    (hadmitted : Admitted app req c h)
    (hpolicy : ⟨.getPolicyDetail c.origin, .ok (.found policy)⟩ ∈ h)
    (hchecked : Checked app req policy c h) :
    Guarded (fun h' op => RouteOp app (Writes app req h') op) (fun _ _ => True) h
      (acceptSubmission app req c now) := by
  unfold acceptSubmission
  split
  · refine guarded_failChallengeAndPersist.seq ?_ (fun _ _ _ _ => trivial) fun _ _ _ _ => trivial
    exact fun _ _ hg hop => routeOp_put hop (.fail rfl (hgated.mono hg.suffix))
  · next result hsnark =>
    refine guarded_lookupIssuer.seq ?_ ?_ fun _ _ _ _ => trivial
    · exact fun _ _ hg hop => hop.routeOp (hgated.mono hg.suffix)
    · intro h1 issuer hg1 hissuer
      obtain ⟨hissuer, hrevoked⟩ := hissuer issuer rfl
      have hgrounds : Grounds app req c h1 :=
        ⟨hgated.read.mono hg1.suffix, hg1.suffix.subset hunbanned, hadmitted.mono hg1.suffix,
          ⟨policy, hg1.suffix.subset hpolicy, hchecked.mono hg1.suffix⟩, ⟨result, hsnark⟩,
          issuer, hissuer, hrevoked⟩
      refine ChallengeStore.guarded_put.seq_attempt ?_ ?_
      · intro h2 op hg2 hop
        exact routeOp_put hop (.accept rfl ((hgated.mono hg1.suffix).mono hg2.suffix)
          (hgrounds.mono hg2.suffix) (htime.mono (hg1.suffix.trans hg2.suffix)))
      · intro h2 r _ _
        cases r <;> trivial

theorem guarded_checkOpen {now : Nat} (hgated : Gated req c h) :
    Guarded (fun h' op => RouteOp app (Writes app req h') op)
      (fun _ r => r = .ok () → now ≤ c.expiresAt ∧ Unused c) h
      (checkOpen app req.challengeId c now) := by
  unfold checkOpen
  split
  · refine ChallengeStore.guarded_put.seq_attempt ?_ ?_
    · exact fun _ _ hg hop => routeOp_put hop (.expire rfl (hgated.mono hg.suffix))
    · exact fun _ _ _ _ => nofun
  · next htime =>
    split
    · exact nofun
    · next hunused =>
      refine fun _ => ⟨Nat.le_of_not_lt htime, ?_⟩
      simp only [not_or, Bool.not_eq_true] at hunused
      obtain ⟨hunsubmitted, hproved, hverified, hfailed⟩ := hunused
      refine ⟨hunsubmitted, ?_⟩
      cases hstate : c.state with
      | pending => exact .inl rfl
      | expired => exact .inr rfl
      | proofOkWaitingForRedeem => exact absurd hstate hproved
      | verified => exact absurd hstate hverified
      | failed => exact absurd hstate hfailed

attribute [irreducible] acceptSubmission checkOpen

/-- The stage after the policy was found: the submission is judged, and answered. -/
theorem guarded_judge {policy : OriginPolicy}
    {answer : VerifyResponse → Handler (Answer VerifyResponse)} (hgated : Gated req c h)
    (hunbanned : ⟨.isBanned req.credNullifier.val, .ok false⟩ ∈ h)
    (hadmitted : Unused c → Admitted app req c h)
    (hpolicy : ⟨.getPolicyDetail c.origin, .ok (.found policy)⟩ ∈ h)
    (hanswer : ∀ response h, Guarded (fun h op => RouteOp app (Writes app req h) op)
      ReplayOutcome h (answer response)) :
    Guarded (fun h op => RouteOp app (Writes app req h) op) ReplayOutcome h (do
      let now ← await .timestamp
      checkOpen app req.challengeId c now
      checkSubmission app req policy c
      let response ← acceptSubmission app req c now
      answer response) := by
  refine guarded_await_bind.mpr ⟨trivial, fun now => ?_⟩
  have hs1 : h <:+ ⟨.timestamp, now⟩ :: h := List.suffix_cons _ _
  refine (guarded_checkOpen (hgated.mono hs1)).bind ?_ fun _ _ _ _ => .error
  intro h2 _ hs2 hopen
  obtain ⟨htime, hunused⟩ := hopen rfl
  refine guarded_checkSubmission.seq
    (fun _ _ hg hop => hop.routeOp (((hgated.mono hs1).mono hs2).mono hg.suffix)) ?_
    fun _ _ _ _ => .error
  intro h3 _ hg3 hchecked
  have hs : h <:+ h3 := (hs1.trans hs2).trans hg3.suffix
  refine (guarded_acceptSubmission (hgated.mono hs)
    ⟨(hs2.trans hg3.suffix).subset List.mem_cons_self, htime⟩ (hs.subset hunbanned)
    ((hadmitted hunused).mono hs) (hs.subset hpolicy) (hchecked rfl)).bind ?_ fun _ _ _ _ => .error
  exact fun h4 response _ _ => hanswer response h4

/-- **Submission of a proof.** -/
theorem guarded_submitVerification (app : AppState) (req : SubmitProofRequest) :
    (submitVerification app req).Guarded (fun h op => RouteOp app (Writes app req h) op)
      ReplayOutcome [] := by
  refine guarded_ofExcept_bind (fun idempotencyKey hkey => ?_) fun _ _ => .error
  refine guarded_ofExcept_bind (fun _ hmetadata => ?_) fun _ _ => .error
  refine (guarded_loadUnbanned req).seq ?_ ?_ fun _ _ _ _ => .error
  · rintro h' op - (rfl | hop)
    · trivial
    · exact routeOp_get hop
  · intro h1 cached _ hload
    obtain ⟨hread, hunbanned⟩ := hload cached rfl
    refine guarded_authenticateApiKey.seq (fun _ _ _ => AuthLookup.routeOp) ?_
      fun _ _ _ _ => .error
    intro h2 auth hg2 hauth
    split
    · exact .error
    · next clientId hclient =>
      refine guarded_ofExcept_bind (fun _ howner => ?_) fun _ _ => .error
      obtain ⟨howner, hcaller⟩ := hauth.owner hclient howner
      refine Idempotency.guarded_checkCached.seq (fun _ _ _ => routeOp_idempotency) ?_
        fun _ _ _ _ => .error
      intro h3 response hg3 hreplay
      cases response with
      | some response => exact fun _ _ => hreplay response rfl
      | none =>
        refine guarded_enforceAccountQuota.seq (fun _ _ _ => routeOp_quota) ?_
          fun _ _ _ _ => .error
        intro h4 _ hg4 hquota
        refine (guarded_consumeNonce req.challengeId).seq (fun _ _ _ => routeOp_check) ?_
          fun _ _ _ _ => .error
        intro h5 _ hg5 haccept
        refine (guarded_loadPolicy cached.origin).seq ?_ ?_ fun _ _ _ _ => .error
        · rintro h' op - rfl
          trivial
        · intro h6 policy hg6 hpolicy
          have hs4 : h4 <:+ h6 := hg5.suffix.trans hg6.suffix
          have hs2 : h2 <:+ h6 := (hg3.suffix.trans hg4.suffix).trans hs4
          have hs1 : h1 <:+ h6 := hg2.suffix.trans hs2
          refine guarded_judge ⟨hread.mono hs1, (haccept rfl).mono hg6.suffix⟩
            (hs1.subset hunbanned) ?_ (hpolicy policy rfl) ?_
          · intro hunused
            exact ⟨⟨_, hkey⟩, hmetadata, ⟨clientId, howner,
              hcaller.imp id fun hauth => hauth.mono hs2, hs4.subset (hquota rfl)⟩, hunused⟩
          · intro response h7
            split
            · refine Idempotency.guarded_storeCached.seq (fun _ _ _ => routeOp_idempotency) ?_
                fun _ _ _ _ => .error
              exact fun _ _ _ _ => .fresh
            · exact .fresh

end Spec

end Verify

end ProviiVerifier

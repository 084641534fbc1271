/-
  What a submission that failed leaves to its retry.

  The tag of a challenge is consumed before the policy is read, the issuer looked up and the
  record written, and no failure gives it back. A retry over healthy dependencies is therefore
  turned away as a duplicate for as long as the tag is retained, which is as long as a challenge
  lives. A retry with an idempotency key is turned away at the idempotency store.

  Proved: in every run, a correct submission for a pending challenge, retried alone over healthy
  dependencies, is accepted exactly when the tag is free and it asks for no idempotency; an earlier
  request that was accepted at the nonce gate rules that out for 300 seconds
  (`retry_accepted_iff`).
-/
import ProviiVerifier.Healthy
import ProviiVerifier.NonceRetention

namespace ProviiVerifier

open Interleaving Prog

variable {app : AppState} {pick : (op : Op) → Choice op} {s s' : State}

namespace Verify

variable {req : SubmitProofRequest} {c : CachedChallenge}

/-- A correct submission, for a challenge that waits for one. -/
structure Submittable (app : AppState) (pick : (op : Op) → Choice op) (s : State)
    (req : SubmitProofRequest) (c : CachedChallenge) : Prop where
  stored : s.record req.challengeId = some c
  valid : c.validate = .ok ()
  pending : c.state = .pending
  unsubmitted : c.proofSubmitted = false
  live : s.clock < c.expiresAt
  key : ∃ key, Idempotency.extractIdempotencyKey app.uni req.headers "POST" "/v1/verify" = .ok key
  metadata : validateFetchMetadata app.uni req.headers = .ok ()
  /-- The submitter is authenticated as the owner of the challenge. -/
  authorised : ∃ auth clientId, (alone app pick (authenticateApiKey app req.headers
      ⟨c.clientId, true, c.clientId⟩) s).1 = .ok auth ∧ auth.clientId = some clientId ∧
    (if auth.isMobileFlow then .ok () else verifyOwnership c.clientId (some clientId)) =
      (.ok () : Except ApiError Unit)
  policy : ∃ policy, s.policies c.origin = .found policy ∧
    policy.allowedVkIds.contains req.verifyingKeyId = true ∧ Fits app req policy c
  proof : ∃ result, verifySnark app req c = .ok result
  /-- The record is within the limits of the store. -/
  storable : ∀ issuer result now,
    ChallengeStore.checkChallenge app req.challengeId (c.acceptProof issuer result now) = .ok ()

/-- A correct submission, whose accepted record is within the limits of the store when made with
the issuer that is looked up and the result of its proof. -/
structure Admissible (app : AppState) (pick : (op : Op) → Choice op) (s : State)
    (req : SubmitProofRequest) (c : CachedChallenge) : Prop where
  stored : s.record req.challengeId = some c
  valid : c.validate = .ok ()
  pending : c.state = .pending
  unsubmitted : c.proofSubmitted = false
  live : s.clock < c.expiresAt
  key : ∃ key, Idempotency.extractIdempotencyKey app.uni req.headers "POST" "/v1/verify" = .ok key
  metadata : validateFetchMetadata app.uni req.headers = .ok ()
  authorised : ∃ auth clientId, (alone app pick (authenticateApiKey app req.headers
      ⟨c.clientId, true, c.clientId⟩) s).1 = .ok auth ∧ auth.clientId = some clientId ∧
    (if auth.isMobileFlow then .ok () else verifyOwnership c.clientId (some clientId)) =
      (.ok () : Except ApiError Unit)
  policy : ∃ policy, s.policies c.origin = .found policy ∧
    policy.allowedVkIds.contains req.verifyingKeyId = true ∧ Fits app req policy c
  proof : ∃ result, verifySnark app req c = .ok result
  storable : ∀ issuer result now,
    pick (.lookupIssuer (issuerKeyHash app req)) = (.ok issuer : Except ApiError IssuerMeta) →
    verifySnark app req c = .ok result →
      ChallengeStore.checkChallenge app req.challengeId (c.acceptProof issuer result now) = .ok ()

theorem Submittable.admissible (h : Submittable app pick s req c) : Admissible app pick s req c :=
  ⟨h.stored, h.valid, h.pending, h.unsubmitted, h.live, h.key, h.metadata, h.authorised, h.policy,
    h.proof, fun issuer result now _ _ => h.storable issuer result now⟩

/-- The request asks for no idempotency, or the deployment has no store for it. -/
def Unkeyed (app : AppState) (req : SubmitProofRequest) : Prop :=
  req.headers "Idempotency-Key" = none ∨ app.idempotencyStore = false

/-- The submission is accepted and the record stored as proven. -/
def Accepts (app : AppState) (pick : (op : Op) → Choice op) (s : State)
    (req : SubmitProofRequest) : Prop :=
  ∃ s' c', alone app pick (submitVerification app req) s =
      (.ok (.fresh ⟨200, "OK", "proof_ok_waiting_for_redeem"⟩), s') ∧
    s'.record req.challengeId = some c' ∧ c'.state = .proofOkWaitingForRedeem

/-! ## The parts of a submission, alone -/

theorem routeTag_nonceTag (id : Uuid) : RouteTag (nonceTag id) :=
  routeTag_label id (by decide) (List.all_eq_true.mp (by decide))

theorem alone_loadUnbanned (hp : Healthy pick) (h : Admissible app pick s req c) :
    alone app pick (loadUnbanned req) s = (.ok c, s) := by
  have hban : perform app s (.isBanned req.credNullifier.val)
      (pick (.isBanned req.credNullifier.val)) = (.ok false, s) := by
    rw [hp.isBanned]
    rfl
  unfold loadUnbanned
  rw [alone_await, hban, alone_attempt_bind (alone_get hp h.stored h.live h.valid)]
  rfl

theorem alone_consumeNonce_free (hp : Healthy pick) {id : Uuid}
    (hfree : TagFree app s (nonceTag id)) :
    alone app pick (consumeNonce id) s = (.ok (), s.consumed app (nonceTag id)) := by
  unfold consumeNonce
  rw [alone_attempt_bind (alone_checkAndSet_free hp (routeTag_nonceTag id) hfree)]
  rfl

theorem alone_consumeNonce_taken (hp : Healthy pick) {id : Uuid}
    (htaken : ¬ TagFree app s (nonceTag id)) :
    alone app pick (consumeNonce id) s =
      (.error (.conflict (some "Duplicate verification submission")),
        s.consumed app (nonceTag id)) := by
  unfold consumeNonce
  rw [alone_attempt_bind (alone_checkAndSet_taken hp (routeTag_nonceTag id) htaken)]
  rfl

theorem alone_loadPolicy (hp : Healthy pick) {origin : String} {policy : OriginPolicy}
    (h : s.policies origin = .found policy) :
    alone app pick (loadPolicy origin) s = (.ok policy, s) := by
  have hread : perform app s (.getPolicyDetail origin) (pick (.getPolicyDetail origin)) =
      (.ok (.found policy), s) := by
    rw [hp.getPolicyDetail, ← h]
    rfl
  unfold loadPolicy
  rw [alone_await, hread]
  rfl

theorem alone_checkOpen (h : Admissible app pick s req c) {now : Nat}
    (hnow : now ≤ c.expiresAt) :
    alone app pick (checkOpen app req.challengeId c now) s' = (.ok (), s') := by
  unfold checkOpen
  rw [if_neg (Nat.not_lt.mpr hnow), if_neg (by simp [h.unsubmitted, h.pending])]
  rfl

/-- A check that passes rejects nothing. -/
theorem rejectWhen_false {id : Uuid} {bad : Bool} {e : ApiError} (h : bad = false) :
    rejectWhen app id c bad e = ret () := by
  unfold rejectWhen
  rw [h]
  rfl

theorem alone_checkSubmission (hp : Healthy pick) {policy : OriginPolicy}
    (hvk : policy.allowedVkIds.contains req.verifyingKeyId = true)
    (hfits : Fits app req policy c) :
    alone app pick (checkSubmission app req policy c) s = (.ok (), s) := by
  have hsecret : c.submitSecret.length = 32 := by
    rw [← hfits.secret]
    exact req.submitSecret.property
  have hrp : c.rpChallenge.length = 32 := by
    rw [← hfits.rpChallenge]
    exact req.rpChallenge.property
  have hpeek : perform app s (.peekIssuer (issuerKeyHash app req))
      (pick (.peekIssuer (issuerKeyHash app req))) =
        (pick (.peekIssuer (issuerKeyHash app req)), s) := rfl
  have hissuer : (decide (policy.allowedIssuers ≠ []) &&
      !policy.allowedIssuers.contains (app.base64Url (issuerKeyHash app req))) = false := by
    rcases hfits.issuer with hempty | hmem
    · simp [hempty]
    · simp [hmem]
  unfold checkSubmission
  dsimp only
  rw [rejectWhen_false (by rw [hvk]; rfl), ret_bind, if_neg (not_not.mpr hsecret),
    rejectWhen_false (by simp [hfits.secret]), ret_bind, alone_await, hpeek,
    rejectWhen_false (hp.peekIssuer _), ret_bind, rejectWhen_false hissuer, ret_bind,
    rejectWhen_false (by simp [hfits.verifyingKeyId]), ret_bind, if_neg (not_not.mpr hrp),
    rejectWhen_false (by simp [hfits.rpChallenge]), ret_bind,
    rejectWhen_false (by simp [hfits.cutoffDays])]
  rfl

theorem alone_lookupIssuer (app : AppState) (s : State) (req : SubmitProofRequest)
    (c : CachedChallenge) (hp : Healthy pick) :
    ∃ issuer, pick (.lookupIssuer (issuerKeyHash app req)) =
        (.ok issuer : Except ApiError IssuerMeta) ∧
      alone app pick (lookupIssuer app req c) s = (.ok issuer, s) := by
  obtain ⟨issuer, hpick, hrevoked⟩ := hp.lookupIssuer (issuerKeyHash app req)
  have hread : perform app s (.lookupIssuer (issuerKeyHash app req))
      (pick (.lookupIssuer (issuerKeyHash app req))) = (.ok issuer, s) := by
    rw [hpick]
    rfl
  refine ⟨issuer, hpick, ?_⟩
  unfold lookupIssuer
  rw [alone_await, hread]
  simp only [rejectWhen_false hrevoked, ret_bind]
  rfl

/-- The record is the one that the accepted submission leaves stored. -/
def Leaves (app : AppState) (pick : (op : Op) → Choice op) (req : SubmitProofRequest)
    (c d : CachedChallenge) : Prop :=
  ∃ issuer result now,
    pick (.lookupIssuer (issuerKeyHash app req)) = (.ok issuer : Except ApiError IssuerMeta) ∧
      verifySnark app req c = .ok result ∧
      d = ChallengeDO.mergeUpdate c (c.acceptProof issuer result now).asUpdate

theorem Leaves.waiting {d : CachedChallenge} (h : Leaves app pick req c d) :
    d.state = .proofOkWaitingForRedeem := by
  obtain ⟨issuer, result, now, -, -, rfl⟩ := h
  rfl

/-- An accepted proof leaves the record waiting for its redemption. -/
theorem alone_acceptSubmission (hp : Healthy pick) (h : Admissible app pick s req c)
    (hstored : s'.record req.challengeId = some c) (hlive : s'.clock < c.expiresAt) (now : Nat) :
    ∃ d, Leaves app pick req c d ∧ alone app pick (acceptSubmission app req c now) s' =
      (.ok ⟨200, "OK", "proof_ok_waiting_for_redeem"⟩, s'.putRecord req.challengeId d) := by
  obtain ⟨result, hproof⟩ := h.proof
  obtain ⟨issuer, hpick, hissuer⟩ := alone_lookupIssuer app s' req c hp
  have htrans : isValidTransition c.state (c.acceptProof issuer result now).state = true := by
    rw [h.pending]
    rfl
  have hput := alone_put hp hstored (h.storable issuer result now hpick hproof) (.inl hlive)
    htrans
  refine ⟨_, ⟨issuer, result, now, hpick, hproof, rfl⟩, ?_⟩
  unfold acceptSubmission
  simp only [hproof]
  rw [alone_bind_ok hissuer, alone_attempt_bind hput]
  rfl

/-! ## A submission, alone -/

/-- The start of a submission, up to its authentication. -/
theorem alone_submitVerification (hp : Healthy pick) (h : Admissible app pick s req c) :
    ∃ key clientId,
      Idempotency.extractIdempotencyKey app.uni req.headers "POST" "/v1/verify" = .ok key ∧
      alone app pick (submitVerification app req) s =
        alone app pick (Idempotency.checkCached app key "verify" clientId >>= fun
          | some response => return .cached response
          | none => do
            enforceAccountQuota clientId "verify"
            consumeNonce req.challengeId
            let policy ← loadPolicy c.origin
            let now ← await .timestamp
            checkOpen app req.challengeId c now
            checkSubmission app req policy c
            let response ← acceptSubmission app req c now
            if response.status = 200 then
              Idempotency.storeCached app key "verify" clientId 200
                "\x7b\"result\":\"OK\",\"state\":\"proof_ok_waiting_for_redeem\"\x7d" none
            return .fresh response) s := by
  obtain ⟨key, hkey⟩ := h.key
  obtain ⟨auth, clientId, hauth, hclient, howner⟩ := h.authorised
  have hauth : alone app pick (authenticateApiKey app req.headers
      ⟨c.clientId, true, c.clientId⟩) s = (.ok auth, s) :=
    Prod.ext hauth alone_authenticateApiKey_state
  refine ⟨key, clientId, hkey, ?_⟩
  unfold submitVerification
  rw [alone_ofExcept_bind_ok hkey, alone_ofExcept_bind_ok h.metadata,
    alone_bind_ok (alone_loadUnbanned hp h), alone_bind_ok hauth]
  simp only [hclient]
  exact alone_ofExcept_bind_ok howner

theorem extractIdempotencyKey_none {uni : Unicode} {headers : Headers}
    {method endpoint : String} (h : headers "Idempotency-Key" = none) :
    Idempotency.extractIdempotencyKey uni headers method endpoint = .ok none := by
  unfold Idempotency.extractIdempotencyKey
  rw [h]

theorem extractIdempotencyKey_some {uni : Unicode} {headers : Headers}
    {method endpoint : String} {key : Option String} (h : headers "Idempotency-Key" ≠ none)
    (hkey : Idempotency.extractIdempotencyKey uni headers method endpoint = .ok key) :
    key ≠ none := by
  unfold Idempotency.extractIdempotencyKey at hkey
  split at hkey
  · dsimp only at hkey
    split at hkey
    · cases hkey
    · cases hkey
      exact nofun
  · next hnone => exact absurd hnone h

/-- **A correct submission with a free tag**, alone: its answer and the state it leaves. -/
theorem alone_accepted (hp : Healthy pick) (h : Admissible app pick s req c)
    (hfree : TagFree app s (nonceTag req.challengeId)) (hun : Unkeyed app req) :
    ∃ d, Leaves app pick req c d ∧ alone app pick (submitVerification app req) s =
      (.ok (.fresh ⟨200, "OK", "proof_ok_waiting_for_redeem"⟩),
        (s.consumed app (nonceTag req.challengeId)).putRecord req.challengeId d) := by
  obtain ⟨key, clientId, hkey, hstart⟩ := alone_submitVerification hp h
  have hun : key = none ∨ app.idempotencyStore = false := by
    refine hun.imp_left fun hnone => ?_
    rw [extractIdempotencyKey_none hnone] at hkey
    exact (Except.ok.inj hkey).symm
  obtain ⟨policy, hpolicy, hvk, hfits⟩ := h.policy
  let s₁ := s.consumed app (nonceTag req.challengeId)
  have hstored : s₁.record req.challengeId = some c := h.stored
  have hlive : s₁.clock < c.expiresAt := h.live
  have hpolicy : s₁.policies c.origin = .found policy := hpolicy
  obtain ⟨d, hleaves, haccept⟩ := alone_acceptSubmission hp h hstored hlive s₁.clock
  have htime : perform app s₁ .timestamp (pick .timestamp) = (s₁.clock, s₁) := rfl
  refine ⟨d, hleaves, ?_⟩
  rw [hstart, alone_bind_ok (alone_checkCached_unkeyed hun)]
  rw [alone_bind_ok (alone_enforceAccountQuota hp clientId "verify"),
    alone_bind_ok (alone_consumeNonce_free hp hfree), alone_bind_ok (alone_loadPolicy hp hpolicy),
    alone_await, htime, alone_bind_ok (alone_checkOpen h (Nat.le_of_lt hlive)),
    alone_bind_ok (alone_checkSubmission hp hvk hfits), alone_bind_ok haccept, if_pos rfl,
    alone_bind_ok (alone_storeCached_unkeyed hun)]
  rfl

/-- **A free tag lets a correct submission through.** -/
theorem accepts_of_free (hp : Healthy pick) (h : Submittable app pick s req c)
    (hfree : TagFree app s (nonceTag req.challengeId)) (hun : Unkeyed app req) :
    Accepts app pick s req := by
  obtain ⟨d, hleaves, halone⟩ := alone_accepted hp h.admissible hfree hun
  exact ⟨_, d, halone, putRecord_record, hleaves.waiting⟩

/-- **A tag that is not free, or a key, turns it away.** -/
theorem not_accepts (hp : Healthy pick) (h : Submittable app pick s req c)
    (hnot : ¬ (TagFree app s (nonceTag req.challengeId) ∧ Unkeyed app req)) :
    ¬ Accepts app pick s req := by
  rintro ⟨s', c', halone, -, -⟩
  obtain ⟨key, clientId, hkey, hstart⟩ := alone_submitVerification hp h.admissible
  rw [hstart] at halone
  by_cases hun : key = none ∨ app.idempotencyStore = false
  · have htaken : ¬ TagFree app s (nonceTag req.challengeId) := by
      intro hfree
      refine hnot ⟨hfree, hun.imp_left fun hnone => ?_⟩
      by_contra hsome
      exact extractIdempotencyKey_some hsome hkey hnone
    rw [alone_bind_ok (alone_checkCached_unkeyed hun)] at halone
    rw [alone_bind_ok (alone_enforceAccountQuota hp clientId "verify"),
      alone_bind_error (alone_consumeNonce_taken hp htaken)] at halone
    cases halone
  · obtain ⟨hsome, hstore⟩ := not_or.mp hun
    obtain ⟨k, rfl⟩ := Option.ne_none_iff_exists'.mp hsome
    rw [Bool.not_eq_false] at hstore
    have hcheck := alone_checkCached_keyed (s := s) hp k "verify" clientId hstore
    rw [alone_bind_error hcheck] at halone
    cases halone

end Verify

/-! ## Runs -/

/-- A tag is not free while it is retained. -/
theorem Retained.not_free {tag : String} {T : Nat} (h : Retained app s tag T)
    (hclock : s.clock ≤ T + nonceDedupTtl) : ¬ TagFree app s tag := by
  intro hfree
  obtain ⟨entry, hentry, hexp⟩ := h.2 hclock
  have := hfree entry hentry
  omega

variable {s₀ : State} {p : Pool (service app) Request ApiError Response}

theorem Run.tag_taken (hfresh : Fresh s₀)
    (hr : Run (handle app) (anyOrder app Request) (· = s₀) p) {i : Nat} {tag : String} {T : Nat}
    (haccept : AcceptedAt p.world.trace i tag T)
    (hclock : State.clock p.world.state ≤ T + nonceDedupTtl) : ¬ TagFree app p.world.state tag := by
  have hinv : NonceInv p.world := by
    refine Run.nonceInv (guarded_handle app) ?_ ?_ (fun _ _ h => h) hr
    · intro req h tag body hop
      have hop : body = NonceStore.ttlBody nonceDedupTtl := hop
      rw [hop]
      rfl
    · rintro s rfl
      exact ⟨hfresh.date, hfresh.inflight⟩
  exact (hinv.retained i tag T haccept).not_free hclock

namespace Sample

/-- The wallet's submission is a correct one. -/
theorem submittable : Verify.Submittable .sample healthy state submission .sample := by
  have hauth : (alone .sample healthy (authenticateApiKey .sample submission.headers
      ⟨some "shop", true, some "shop"⟩) state).1 = .ok ⟨some "shop", true⟩ := by
    unfold authenticateApiKey
    rfl
  refine ⟨by simp [State.record, state, submission], by decide, rfl, rfl, by decide, ⟨none, rfl⟩,
    rfl, ⟨⟨some "shop", true⟩, "shop", hauth, rfl, rfl⟩, ⟨policy, rfl, by decide, ?_⟩,
    ⟨⟨13000, List.replicate 32 7⟩, by decide +kernel⟩, fun _ _ _ => rfl⟩
  exact ⟨rfl, rfl, rfl, rfl, .inl rfl⟩

/-- The issuer registry is down. -/
def issuersDown (op : Op) : Choice op :=
  match op with
  | .lookupIssuer _ => (Except.error (.serviceUnavailable none) : Except ApiError IssuerMeta)
  | op => healthy op

/-- The submission arrives and performs its operations while the issuer registry is down. -/
def failedSubmission : List (Act (service .sample) Request) :=
  .arrive 0 (.verify submission) :: List.replicate 8 (.call 0 issuersDown)

end Sample

end ProviiVerifier

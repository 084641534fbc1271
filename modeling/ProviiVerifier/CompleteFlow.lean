/-
  Whether a challenge can be completed with what its creation answered.

  The creation runs among any other requests and lookups. The wallet takes its submission from the
  response; the shop redeems with the code verifier behind the code challenge of its request.

  Proved: while the record is pending and the response has not expired, the submission over healthy
  dependencies is accepted and, at any later time before the expiry, so is the redemption, which
  leaves the record in `Verified` (`created_completes`).
-/
import ProviiVerifier.CreatedChallenges
import ProviiVerifier.RedeemRetry

namespace ProviiVerifier

namespace CompleteFlow

open Interleaving Prog
open CreateChallenge (Agrees)
open CreatedChallenges (Call Reply Held Matches)

variable {app : AppState} {pick : (op : Op) → Choice op} {s s₀ : State} {id : Uuid}
  {c d : CachedChallenge} {r : ChallengeResponse} {sub : SubmitProofRequest}
  {req : CreateChallengeRequest} {red : RedeemRequest}

/-! ## Authentication, alone -/

/-- A wallet sends no origin and is taken for the owner of the challenge. -/
theorem alone_mobileFlow {headers : Headers} {owner : String}
    (horigin : headers "Origin" = none) :
    alone app pick (authenticateApiKey app headers ⟨some owner, true, some owner⟩) s =
      (.ok ⟨some owner, true⟩, s) := by
  unfold authenticateApiKey resolveOrigin
  rw [horigin]
  rfl

/-- The request's API key is one of a client of the policy at its origin. -/
def HasKeyOf (app : AppState) (s : State) (headers : Headers) (clientId : String) : Prop :=
  ∃ origin policy apiKey, headers "Origin" = some origin ∧ s.policies origin = .found policy ∧
    headers "X-API-Key" = some apiKey ∧
      verifyAgainstPolicy app.verifyApiKey apiKey policy = some clientId

/-- A client is authenticated by its API key. -/
theorem alone_apiKey (hp : Healthy pick) {headers : Headers} {clientId : String}
    {expected : Option String} (h : HasKeyOf app s headers clientId) :
    alone app pick (authenticateApiKey app headers ⟨expected, false, none⟩) s =
      (.ok ⟨some clientId, false⟩, s) := by
  obtain ⟨origin, policy, apiKey, horigin, hpolicy, hkey, hverified⟩ := h
  have hread : perform app s (.getCachedPolicy origin) (pick (.getCachedPolicy origin)) =
      (.ok (some policy), s) := by
    rw [hp.getCachedPolicy]
    have hcached : s.cachedPolicy origin = some policy := by
      unfold State.cachedPolicy
      rw [hpolicy]
    exact congrArg (fun found => (Except.ok found, s)) hcached
  have hresolve : alone app pick (resolveOrigin app headers expected) s =
      (.ok (some origin), s) := by
    unfold resolveOrigin
    rw [horigin]
    dsimp only
    rw [alone_await, hread]
    rfl
  have hextract : alone app pick (extractClientId app headers (some origin)) s =
      (.ok (some clientId), s) := by
    unfold extractClientId
    rw [alone_await, hread]
    dsimp only
    rw [hkey]
    exact congrArg (fun found => (Except.ok found, s)) hverified
  unfold authenticateApiKey
  rw [alone_bind_ok hresolve, alone_bind_ok hextract, if_neg (by simp)]
  rfl

/-! ## Tags -/

variable (id d) in
/-- Consuming one tag leaves another free, and a free tag stays free as time passes. -/
theorem tagFree_later {tag other : String} (hne : other ≠ tag) (seconds : Nat)
    (hfree : TagFree app s other) :
    TagFree app (envStep app ((s.consumed app tag).putRecord id d) (.tick seconds)) other := by
  intro entry hentry
  have hentry : (s.consumed app tag).nonces (app.nonceShard other) other = some entry := hentry
  have hexpired : entry.expiresAt < s.clock := by
    refine hfree entry ?_
    by_cases hshard : app.nonceShard other = app.nonceShard tag
    · unfold State.consumed State.serveNonce at hentry
      dsimp only at hentry
      rw [hshard, Function.update_self, NonceDO.setNonce_other hne] at hentry
      rw [hshard]
      exact hentry
    · unfold State.consumed State.serveNonce at hentry
      dsimp only at hentry
      rwa [Function.update_of_ne hshard] at hentry
  exact Nat.lt_of_lt_of_le hexpired (Nat.le_add_right _ _)

theorem redeemTag_ne (id : Uuid) : Redeem.nonceTag id ≠ Verify.nonceTag id := by
  intro heq
  have hhead := congrArg (fun tag => tag.toList.head?) heq
  unfold Redeem.nonceTag Verify.nonceTag at hhead
  simp only [String.toList_append] at hhead
  cases hhead

/-! ## The parties -/

/-- The submission is made of what the response shows. -/
structure Presents (app : AppState) (r : ChallengeResponse) (sub : SubmitProofRequest) : Prop where
  challengeId : sub.challengeId = r.challengeId
  submitSecret : sub.submitSecret = r.submitSecret
  rpChallenge : sub.rpChallenge = r.rpChallenge
  cutoffDays : sub.cutoffDays = r.cutoffDays.val
  verifyingKeyId : sub.verifyingKeyId = r.verifyingKeyId.val
  /-- A wallet is no browser. -/
  origin : sub.headers "Origin" = none
  metadata : validateFetchMetadata app.uni sub.headers = .ok ()
  unkeyed : sub.headers "Idempotency-Key" = none
  proof : ∃ result, app.verifyAgeSnark sub.proof.val (r.proofDirection = "over_age")
    r.cutoffDays.val (app.blake2s256 r.rpChallenge.val) sub.issuer.val sub.credNullifier.val
    r.verifyingKeyId.val = .ok result

/-- The origin of the challenge admits the verifying key and the issuer of the submission. -/
def Admits (app : AppState) (s : State) (origin : String) (sub : SubmitProofRequest) : Prop :=
  ∃ policy, s.policies origin = .found policy ∧
    policy.allowedVkIds.contains sub.verifyingKeyId = true ∧
      (policy.allowedIssuers = [] ∨
        app.base64Url (Verify.issuerKeyHash app sub) ∈ policy.allowedIssuers)

/-- The redemption is one by the owner of the challenge, with the code verifier of the request. -/
structure Redeems (app : AppState) (s : State) (req : CreateChallengeRequest) (owner : String)
    (id : Uuid) (red : RedeemRequest) : Prop where
  sid : red.sid = id
  codeVerifier : app.sha256 (utf8Bytes red.codeVerifier.text) = req.codeChallenge.val
  apiKey : HasKeyOf app s red.headers owner
  metadata : validateFetchMetadata app.uni red.headers = .ok ()
  unkeyed : red.headers "Idempotency-Key" = none

/-- A challenge that waits for a submission, and the parties that complete it. -/
structure Completable (app : AppState) (pick : (op : Op) → Choice op) (s : State)
    (req : CreateChallengeRequest) (r : ChallengeResponse) (c : CachedChallenge)
    (sub : SubmitProofRequest) (red : RedeemRequest) : Prop where
  stored : s.record r.challengeId = some c
  pending : c.state = .pending
  unsubmitted : c.proofSubmitted = false
  live : s.clock < r.expiresAt
  wallet : Presents app r sub
  admitted : Admits app s c.origin sub
  shop : ∃ owner, c.clientId = some owner ∧ Redeems app s req owner r.challengeId red
  verifyFree : TagFree app s (Verify.nonceTag r.challengeId)
  redeemFree : TagFree app s (Redeem.nonceTag r.challengeId)
  /-- The record is within the limits of the store, as accepted and as verified. -/
  acceptable : ∀ issuer result now,
    pick (.lookupIssuer (Verify.issuerKeyHash app sub)) =
      (.ok issuer : Except ApiError IssuerMeta) → Verify.verifySnark app sub c = .ok result →
    ChallengeStore.checkChallenge app r.challengeId (c.acceptProof issuer result now) = .ok ()
  verifiable : ∀ d now, Verify.Leaves app pick sub c d →
    ChallengeStore.checkChallenge app r.challengeId (d.zeroizeSecret.verdict now) = .ok ()
  /-- Its origin can be charged, if it is metered. -/
  billable : ∀ d, Verify.Leaves app pick sub c d →
    Billable app s r.challengeId d.origin d.zeroizeSecret

theorem isOver_of_asStr (direction : ProofDirection) :
    direction.isOver = decide (direction.asStr = "over_age") := by
  cases direction <;> rfl

/-! ## The two steps -/

section Steps

variable (h : Completable app pick s req r c sub red)

include h

/-- A submission of what the response shows is a correct one. -/
theorem Completable.admissible (hagrees : Agrees app r c) (hvalid : c.validate = .ok ()) :
    Verify.Admissible app pick s sub c := by
  have hsub := h.wallet
  obtain ⟨policy, hfound, hvk, hissuer⟩ := h.admitted
  obtain ⟨owner, howner, -⟩ := h.shop
  refine
    { stored := hsub.challengeId ▸ h.stored
      valid := hvalid
      pending := h.pending
      unsubmitted := h.unsubmitted
      live := hagrees.expiresAt ▸ h.live
      key := ⟨none, Verify.extractIdempotencyKey_none hsub.unkeyed⟩
      metadata := hsub.metadata
      authorised := ?_
      policy := ⟨policy, hfound, hvk, ?_⟩
      proof := ?_
      storable := hsub.challengeId ▸ h.acceptable }
  · rw [howner]
    exact ⟨⟨some owner, true⟩, owner, congrArg Prod.fst (alone_mobileFlow hsub.origin), rfl, rfl⟩
  · refine ⟨?_, ?_, ?_, ?_, hissuer⟩
    · rw [hsub.submitSecret, hagrees.submitSecret h.pending]
    · rw [hsub.verifyingKeyId, hagrees.verifyingKeyId]
    · rw [hsub.rpChallenge, hagrees.rpChallenge]
    · rw [hsub.cutoffDays, hagrees.cutoffDays]
  · obtain ⟨result, hproof⟩ := hsub.proof
    refine ⟨result, ?_⟩
    unfold Verify.verifySnark
    rw [isOver_of_asStr, hagrees.proofDirection, hagrees.cutoffDays, hsub.rpChallenge,
      hagrees.verifyingKeyId]
    exact hproof

/-- What an accepted submission leaves is the same challenge, still valid. -/
theorem Completable.leaves (hvalid : c.validate = .ok ())
    (hleaves : Verify.Leaves app pick sub c d) :
    d.SameChallenge c ∧ d.validate = .ok () := by
  obtain ⟨issuer, result, now, -, -, rfl⟩ := hleaves
  have hsame := ChallengeDO.mergeUpdate_same c (c.acceptProof issuer result now).asUpdate
  have herased := ChallengeDO.mergeUpdate_secret c (c.acceptProof issuer result now).asUpdate
  rw [if_pos ⟨h.pending, nofun⟩] at herased
  obtain ⟨hrp, -, hcode⟩ := (CachedChallenge.validate_iff c).mp hvalid
  refine ⟨hsame, (CachedChallenge.validate_iff _).mpr ⟨?_, .inl herased, ?_⟩⟩
  · rw [hsame.rpChallenge, hrp]
  · rw [hsame.codeChallengeBytes, hcode]

/-- The owner's redemption of the proven record is a correct one. -/
theorem Completable.redeemable (hp : Healthy pick) (hagrees : Agrees app r c)
    (hcode : c.codeChallengeBytes = req.codeChallenge.val) (hvalid : c.validate = .ok ())
    (hleaves : Verify.Leaves app pick sub c d) {seconds : Nat}
    (hlive : s.clock + seconds < r.expiresAt) :
    Redeem.Redeemable app pick
      (envStep app ((s.consumed app (Verify.nonceTag r.challengeId)).putRecord r.challengeId d)
        (.tick seconds)) red d := by
  obtain ⟨owner, howner, hred⟩ := h.shop
  obtain ⟨hsame, hdvalid⟩ := h.leaves hvalid hleaves
  obtain ⟨s', hs'⟩ : ∃ s', s' = envStep app
      ((s.consumed app (Verify.nonceTag r.challengeId)).putRecord r.challengeId d)
      (.tick seconds) := ⟨_, rfl⟩
  have hstored : s'.record r.challengeId = some d := by
    rw [hs']
    exact putRecord_record
  have hclock : s'.clock = s.clock + seconds := hs' ▸ rfl
  have hindex : s'.originIndex = s.originIndex := hs' ▸ rfl
  have hpolicies : s'.policies = s.policies := hs' ▸ rfl
  have hbillable : Billable app s' r.challengeId d.origin d.zeroizeSecret := by
    unfold Billable
    rw [hindex]
    exact h.billable d hleaves
  have hkey : HasKeyOf app s' red.headers owner := by
    unfold HasKeyOf
    rw [hpolicies]
    exact hred.apiKey
  rw [← hs']
  refine
    { stored := hred.sid ▸ hstored
      valid := hdvalid
      waiting := hleaves.waiting
      live := ?_
      key := ⟨none, Verify.extractIdempotencyKey_none hred.unkeyed⟩
      metadata := hred.metadata
      authorised := ?_
      pkce := ?_
      billable := hred.sid ▸ hbillable
      storable := fun now => hred.sid ▸ h.verifiable d now hleaves }
  · rw [hclock, hsame.expiresAt, hagrees.expiresAt]
    exact hlive
  · refine ⟨⟨some owner, false⟩, owner, congrArg Prod.fst (alone_apiKey hp hkey), rfl, ?_⟩
    rw [hsame.clientId, howner]
    simp [verifyOwnership]
  · rw [hred.codeVerifier, hsame.codeChallengeBytes, hcode]

end Steps

/-! ## The record of a creation that was answered -/

/-- The record of an answered creation agrees with the response and has the code challenge of the
request. -/
theorem record_of_created {p : Pool (service app) Call ApiError Reply} (hfresh : Fresh s₀)
    (hr : Run (Call.handle app) (anyOrder app Call) (· = s₀) p) {i : Nat}
    (harrive : .arrive i (.serve (.create req)) ∈ p.world.trace)
    (hout : p.outcome i = some (.ok (.served (.created (.fresh r)))))
    (hc : State.record p.world.state r.challengeId = some c) :
    Agrees app r c ∧ c.codeChallengeBytes = req.codeChallenge.val ∧ c.validate = .ok () := by
  obtain ⟨call, hcall, houtcome⟩ := hr.outcome (CreatedChallenges.guarded_call app) hout
  rw [hr.arrive_unique hcall harrive] at houtcome
  have hanswered : CreateChallenge.Answered app req (own i p.world.trace) (.ok (.fresh r)) :=
    houtcome _ rfl
  obtain ⟨c₁, hpublished⟩ := hanswered.published r rfl
  have hfrom := (CreatedChallenges.Run.fromOne hfresh hr).stored _ c hc
  obtain ⟨hframed, hattempted⟩ :=
    CreatedChallenges.original_published hfresh hr rfl hpublished.writes hfrom
  have hmade := CreatedChallenges.made_of_attempted hr harrive hattempted
  obtain ⟨policy, -, hmatches⟩ := CreatedChallenges.matches_of_made hmade hpublished.agrees
  have hmatches := hmatches.framed hpublished.writes.pending hframed
  have hlisted := CreatedChallenges.listed_published hpublished hframed
  exact ⟨hmatches.response, hmatches.codeChallengeBytes, hlisted.showable.valid⟩

/-- **What a creation answers completes its challenge.** After any run in which a creation was
answered, a submission made of the response is accepted over healthy dependencies and, at any later
time before the expiry of the response, so is the owner's redemption with the code verifier of the
request; the record is then `Verified`. -/
theorem created_completes {p : Pool (service app) Call ApiError Reply} (hfresh : Fresh s₀)
    (hr : Run (Call.handle app) (anyOrder app Call) (· = s₀) p) {i : Nat}
    (harrive : .arrive i (.serve (.create req)) ∈ p.world.trace)
    (hout : p.outcome i = some (.ok (.served (.created (.fresh r))))) (hp : Healthy pick)
    (h : Completable app pick p.world.state req r c sub red) :
    ∃ s₁, alone app pick (Verify.submitVerification app sub) p.world.state =
        (.ok (.fresh ⟨200, "OK", "proof_ok_waiting_for_redeem"⟩), s₁) ∧
      ∀ seconds, State.clock p.world.state + seconds < r.expiresAt → ∃ s₂ c₂,
        alone app pick (Redeem.redeemChallenge app red) (envStep app s₁ (.tick seconds)) =
            (.ok (.fresh ⟨"OK", true⟩), s₂) ∧
          s₂.record r.challengeId = some c₂ ∧ c₂.state = .verified := by
  obtain ⟨hagrees, hcode, hvalid⟩ := record_of_created hfresh hr harrive hout h.stored
  obtain ⟨owner, -, hred⟩ := h.shop
  have hfree : TagFree app p.world.state (Verify.nonceTag sub.challengeId) :=
    h.wallet.challengeId ▸ h.verifyFree
  obtain ⟨d, hleaves, hsubmit⟩ := Verify.alone_accepted hp (h.admissible hagrees hvalid) hfree
    (.inl h.wallet.unkeyed)
  rw [h.wallet.challengeId] at hsubmit
  refine ⟨_, hsubmit, fun seconds hlive => ?_⟩
  have hredeemable := h.redeemable hp hagrees hcode hvalid hleaves hlive
  have hlater := tagFree_later r.challengeId d (redeemTag_ne r.challengeId) seconds
    h.redeemFree
  have hsucceeds : Redeem.Succeeds app pick
      (envStep app ((State.consumed app p.world.state (Verify.nonceTag r.challengeId)).putRecord
        r.challengeId d) (.tick seconds)) red :=
    Redeem.succeeds_of_free hp hredeemable (hred.sid ▸ hlater) (.inl hred.unkeyed)
  obtain ⟨s₂, c₂, halone, hrecord, hverified⟩ := hsucceeds
  exact ⟨s₂, c₂, halone, hred.sid ▸ hrecord, hverified⟩

/-! ## Samples -/

namespace Sample

open ProviiVerifier.Sample (policy shopHeaders submission redemption)

theorem length_sampleDigest : CachedChallenge.sampleDigest.length = 32 := rfl

/-- A creation with the code challenge of the shop's code verifier. -/
def creation : CreateChallengeRequest :=
  { ShortCodes.Sample.creation with
    codeChallenge := ⟨CachedChallenge.sampleDigest, length_sampleDigest⟩ }

/-- The creation runs to its end. -/
def creates : List (Act (service .sample) Call) :=
  .arrive 0 (.serve (.create creation)) ::
    List.replicate 15 (.call 0 ShortCodes.Sample.drawing)

/-- The wallet's submission, with what the response shows. -/
def presented (r : ChallengeResponse) : SubmitProofRequest :=
  { submission with
    challengeId := r.challengeId
    submitSecret := r.submitSecret
    rpChallenge := r.rpChallenge
    cutoffDays := r.cutoffDays.val
    verifyingKeyId := r.verifyingKeyId.val }

/-- The redemption by the shop's server. -/
def redeems (r : ChallengeResponse) : RedeemRequest := { redemption with sid := r.challengeId }

/-- A pending record of the shop's client. -/
def pendingOfShop (c : CachedChallenge) : Bool :=
  decide (c.state = .pending ∧ c.proofSubmitted = false ∧ c.origin = "https://shop.example" ∧
    c.clientId = some "shop")

/-- The challenge of the response waits for its submission. -/
def waits (s : State) (r : ChallengeResponse) : Bool :=
  (s.record r.challengeId).any pendingOfShop &&
    decide (s.clock < r.expiresAt ∧ r.challengeId.isNil = false ∧ r.verifyingKeyId.val = 1 ∧
      s.policies "https://shop.example" = .found policy ∧
      s.originIndex "https://shop.example" = none ∧
      s.nonces 0 (Verify.nonceTag r.challengeId) = none ∧
      s.nonces 0 (Redeem.nonceTag r.challengeId) = none)

theorem proof_accepted (isOver : Bool) (cutoffDays : Int) (challenge issuer nullifier : Bytes)
    (vkId : Nat) : AppState.sample.verifyAgeSnark submission.proof.val isOver cutoffDays challenge
      issuer nullifier vkId = .ok ⟨cutoffDays, issuer⟩ := by
  have hlen : submission.proof.val.length = 192 := submission.proof.property
  generalize submission.proof.val = proof at hlen
  unfold AppState.sample
  exact if_pos hlen

theorem completable {s : State} {r : ChallengeResponse} (h : waits s r = true) :
    ∃ c, Completable .sample healthy s creation r c (presented r) (redeems r) := by
  obtain ⟨hrecord, hrest⟩ := Bool.and_eq_true_iff.mp h
  obtain ⟨hlive, hid, hvk, hpolicy, hindex, hverify, hredeem⟩ := of_decide_eq_true hrest
  obtain ⟨c, hc, hshop⟩ := (Option.any_eq_true _ _).mp hrecord
  obtain ⟨hpending, hunsubmitted, horigin, howner⟩ := of_decide_eq_true hshop
  have hcheck : ∀ d, ChallengeStore.checkChallenge .sample r.challengeId d = .ok () := by
    intro d
    unfold ChallengeStore.checkChallenge
    rw [hid]
    rfl
  refine ⟨c, ?_⟩
  exact
    { stored := hc
      pending := hpending
      unsubmitted := hunsubmitted
      live := hlive
      wallet := ⟨rfl, rfl, rfl, rfl, rfl, rfl, rfl, rfl, _, proof_accepted ..⟩
      admitted := by
        rw [horigin]
        refine ⟨policy, hpolicy, ?_, .inl rfl⟩
        have hkey : (presented r).verifyingKeyId = 1 := hvk
        rw [hkey]
        rfl
      shop := by
        have hcode : AppState.sample.sha256 (utf8Bytes redemption.codeVerifier.text) =
            creation.codeChallenge.val := by decide +kernel
        refine ⟨"shop", howner, rfl, hcode, ?_, rfl, rfl⟩
        exact ⟨_, policy, "key", rfl, hpolicy, rfl, by decide +kernel⟩
      verifyFree := fun entry hentry => by
        have hentry : s.nonces 0 (Verify.nonceTag r.challengeId) = some entry := hentry
        rw [hverify] at hentry
        cases hentry
      redeemFree := fun entry hentry => by
        have hentry : s.nonces 0 (Redeem.nonceTag r.challengeId) = some entry := hentry
        rw [hredeem] at hentry
        cases hentry
      acceptable := fun _ _ _ _ _ => hcheck _
      verifiable := fun _ _ _ => hcheck _
      billable := by
        rintro d ⟨issuer, result, now, -, -, rfl⟩ hmetered
        have hsame : (ChallengeDO.mergeUpdate c (c.acceptProof issuer result now).asUpdate).origin =
            "https://shop.example" :=
          (ChallengeDO.mergeUpdate_same c _).origin.trans horigin
        rw [hsame, hindex] at hmetered
        cases hmetered }

end Sample

/-- A creation by the shop: the wallet's submission and, a minute later, the shop's redemption
complete its challenge. -/
theorem created_completes_shop : ∃ (p : Pool (service .sample) Call ApiError Reply)
    (r : ChallengeResponse) (s₁ s₂ : State) (c₂ : CachedChallenge),
    Run (Call.handle .sample) (anyOrder .sample Call) (· = ShortCodes.Sample.state) p ∧
      p.outcome 0 = some (.ok (.served (.created (.fresh r)))) ∧
      alone .sample healthy (Verify.submitVerification .sample (Sample.presented r))
          p.world.state = (.ok (.fresh ⟨200, "OK", "proof_ok_waiting_for_redeem"⟩), s₁) ∧
      alone .sample healthy (Redeem.redeemChallenge .sample (Sample.redeems r))
          (envStep .sample s₁ (.tick 60)) = (.ok (.fresh ⟨"OK", true⟩), s₂) ∧
      s₂.record r.challengeId = some c₂ ∧ c₂.state = .verified := by
  have hrun : ∃ p : Pool (service .sample) Call ApiError Reply,
      Run (Call.handle .sample) (anyOrder .sample Call) (· = ShortCodes.Sample.state) p ∧
      ((CreatedChallenges.Sample.created p).any fun r => Sample.waits p.world.state r &&
        decide (State.clock p.world.state + 60 < r.expiresAt)) = true ∧
      ∀ i call, .arrive i call ∈ p.world.trace →
        (i, call) ∈ Sample.creates.filterMap Act.arrival :=
    Run.of_replay_arrivals ShortCodes.Sample.state Sample.creates rfl (by decide +kernel)
  obtain ⟨p, hr, hwaits, harrivals⟩ := hrun
  obtain ⟨r, hr', hwaits⟩ := (Option.any_eq_true _ _).mp hwaits
  obtain ⟨hwaits, hlater⟩ := Bool.and_eq_true_iff.mp hwaits
  have hout := CreatedChallenges.Sample.created_some hr'
  obtain ⟨c, hcompletable⟩ := Sample.completable hwaits
  have harrive : .arrive 0 (.serve (.create Sample.creation)) ∈ p.world.trace := by
    obtain ⟨call, hm, -⟩ := hr.outcome (CreatedChallenges.guarded_call .sample) hout
    have hlist : Sample.creates.filterMap Act.arrival =
        [(0, .serve (.create Sample.creation))] := rfl
    have hcall := harrivals 0 call hm
    rw [hlist, List.mem_singleton, Prod.mk.injEq] at hcall
    exact hcall.2 ▸ hm
  obtain ⟨s₁, hsubmit, hredeem⟩ := created_completes CreatedChallenges.Sample.fresh_state hr harrive
    hout healthy_healthy hcompletable
  obtain ⟨s₂, c₂, halone, hrecord, hverified⟩ := hredeem 60 (of_decide_eq_true hlater)
  exact ⟨p, r, s₁, s₂, c₂, hr, hout, hsubmit, halone, hrecord, hverified⟩

end CompleteFlow

end ProviiVerifier

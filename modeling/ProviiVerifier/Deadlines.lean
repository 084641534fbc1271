/-
  What may still happen to a record at and after its expiry.

  A consumed tag outlives its challenge: both last 300 seconds, and a submission reads the record
  before it consumes the tag. So among the submissions for a challenge one at most writes before
  the expiry.

  The route handlers compare the clock with the expiry before their slow steps, and the object
  exempts terminal states from its own comparison, so that a verdict decided in time may be
  stored late.

  Proved:
    `one_decisive_submission`: of all submissions for a challenge one at most writes its record by
      the expiry; the only other change by then is the removal by a read at the expiry.
    `outcome_on_time`: every record in `ProofOkWaitingForRedeem` or `Verified` was decided at a
      reading of the clock before the expiry, and no update stores the former later.
-/
import ProviiVerifier.Timeline
import ProviiVerifier.Original

namespace ProviiVerifier

open Interleaving Prog

variable {app : AppState} {s₀ : State}

/-! ## One decisive submission -/

/-- A nonce request that is served reads the entry of its tag. -/
def NonceRead : (op : Op) → Choice op → Prop
  | .nonceDO _ _, (.served f _ : Delivery NonceDO.Faults) => f.get = true
  | _, _ => True

/-- Requests arrive and interleave in any order, over a nonce store that reads its entries. -/
def readsNonces (app : AppState) (Req : Type) : Rules (service app) Req :=
  { arrive := fun _ _ _ => True
    call := fun w _ op c => freshIds w.state op c ∧ NonceRead op c
    env := fun w e => dateRange w.state e }

instance instDecidableNonceRead (op : Op) (c : Choice op) : Decidable (NonceRead op c) := by
  revert c
  apply Op.casesOn (motive := fun op => ∀ c, Decidable (NonceRead op c)) op
  case nonceDO =>
    intro tag body c
    exact match c with
    | .served f _ => inferInstanceAs (Decidable (f.get = true))
    | .lost | .late => .isTrue trivial
  all_goals intros; exact .isTrue trivial

instance (app : AppState) (Req : Type) : DecidableRules (readsNonces app Req) :=
  { arrive := fun _ _ _ => .isTrue trivial
    call := fun w _ op c =>
      @instDecidableAnd _ _ (instDecidableFreshIds w.state op c) (instDecidableNonceRead op c)
    env := fun w e => instDecidableDateRange w.state e }

/-- The challenge is stored as `c₀`, with a lifetime as creations give it. -/
structure Living (s : State) (id : Uuid) (c₀ : CachedChallenge) : Prop where
  date : s.clock ≤ maxDate
  inflight : s.inflight = []
  stored : s.record id = some c₀
  created : c₀.createdAt ≤ s.clock
  lifetime : c₀.expiresAt ≤ c₀.createdAt + CreateChallenge.maxChallengeTtl

theorem Living.timeline {id : Uuid} {c₀ : CachedChallenge} (h : Living s₀ id c₀) :
    ∀ s, s = s₀ → c₀.createdAt ≤ s.clock ∧ s.inflight = [] := by
  rintro s rfl
  exact ⟨h.created, h.inflight⟩

variable {id : Uuid} {c₀ : CachedChallenge} {R : Rules (service app) SubmitProofRequest}
  {p q : Pool (service app) SubmitProofRequest ApiError (Answer VerifyResponse)}

theorem guarded_submission (req : SubmitProofRequest) :
    (Verify.submitVerification app req).Guarded
      (fun h op => RouteOp app (Verify.Writes app req h) op) ReplayOutcome [] :=
  Verify.guarded_submitVerification app req

/-- The nonce requests of a route are for the usual time. -/
theorem routeOp_body {J : Uuid → CachedChallenge → Prop} {tag : String} {body : Body Nat}
    (h : RouteOp app J (.nonceDO tag body)) : body.value = some nonceDedupTtl := by
  have h : body = NonceStore.ttlBody nonceDedupTtl := h
  rw [h]
  rfl

/-- The records of a challenge keep its expiry. -/
theorem Run.expiry (hs : Living s₀ id c₀)
    (hr : Run (Verify.submitVerification app) R (· = s₀) p) {c : CachedChallenge}
    (hc : State.record p.world.state id = some c) : c.expiresAt = c₀.expiresAt := by
  have hinv : RecordInv (fun _ id' c => id' = id → c.expiresAt = c₀.expiresAt)
      (fun _ _ _ => True) p.world := by
    refine Run.recordInv guarded_submission ?_ hr
    refine ⟨fun _ _ _ _ h => h, fun _ _ _ _ h => h, ?_, fun _ _ _ _ _ _ _ _ _ => trivial, ?_, ?_⟩
    · rintro s rfl
      refine ⟨hs.inflight, ?_⟩
      rintro _ d hd rfl
      rw [hs.stored] at hd
      rw [Option.some.inj hd]
    · rintro w i req _ c _ _ hinv _ hw rfl
      obtain ⟨d, hread, hderived⟩ := hw.derived
      rw [hderived.same.expiresAt]
      exact hinv.read i _ d hread.1 rfl
    · intro w id' e upd _ he _ _ _ hid
      rw [(ChallengeDO.mergeUpdate_same e upd).expiresAt]
      exact he hid
  exact hinv.stored id c hc rfl

/-- **A submission that writes had its tag accepted before**, and after the creation. -/
theorem acceptedAt_of_sent (hs : Living s₀ id c₀)
    (hr : Run (Verify.submitVerification app) R (· = s₀) p) {i : Nat} {req : ChallengeDO.Request}
    {T : Nat} (hsent : SentAt p.world.trace i id req T) (hreq : req ≠ .get id.toString) :
    ∃ T₁, AcceptedAt p.world.trace i (Verify.nonceTag id) T₁ ∧ c₀.createdAt ≤ T₁ ∧ T₁ ≤ T := by
  obtain ⟨s, ch, hm, rfl⟩ := hsent
  obtain ⟨new, old, htrace⟩ := List.append_of_mem hm
  obtain ⟨⟨w, hw, hworld⟩, -, r, -, hop⟩ := hr.call_event guarded_submission htrace
  have htimeline : Timeline c₀.createdAt w.world := Run.timeline hs.timeline hw
  rw [hworld] at htimeline
  have hgated : NonceStore.Accepted (Verify.nonceTag id) (own i old) := by
    rcases hop with hget | ⟨c, hwrites, -⟩
    · exact absurd hget hreq
    · cases hwrites with
      | fail hid hgated => exact hid ▸ hgated.accepted
      | expire hid hgated => exact hid ▸ hgated.accepted
      | accept hid hgated => exact hid ▸ hgated.accepted
  obtain ⟨s₁, c₁, hm₁, haccept⟩ := mem_own.mp hgated
  obtain ⟨hcreated, hle⟩ := htimeline.events i s₁ _ c₁ hm₁
  refine ⟨State.clock s₁, ⟨s₁, _, c₁, ?_, haccept, rfl⟩, hcreated, hle⟩
  rw [htrace]
  exact List.mem_append_right _ (List.mem_cons_of_mem _ hm₁)

/-- Two submissions that write by the expiry are one. -/
theorem writer_unique (hs : Living s₀ id c₀)
    (hr : Run (Verify.submitVerification app) (readsNonces app _) (· = s₀) p) {i j : Nat}
    {req req' : ChallengeDO.Request} {T T' : Nat} (hi : SentAt p.world.trace i id req T)
    (hj : SentAt p.world.trace j id req' T') (hreq : req ≠ .get id.toString)
    (hreq' : req' ≠ .get id.toString) (hT : T ≤ c₀.expiresAt) (hT' : T' ≤ c₀.expiresAt) :
    i = j := by
  obtain ⟨T₁, haccept, hcreated, hle⟩ := acceptedAt_of_sent hs hr hi hreq
  obtain ⟨T₂, haccept', hcreated', hle'⟩ := acceptedAt_of_sent hs hr hj hreq'
  by_contra hij
  have hapart := Run.accepted_apart (P := fun _ => True) guarded_submission
    (fun _ _ _ _ hop => routeOp_body hop)
    (fun s hs₀ => by rw [hs₀]; exact ⟨hs.date, hs.inflight⟩) (fun _ _ h => h)
    (fun _ _ _ _ _ _ hR _ => And.right hR) hr trivial haccept haccept' hij
  have hlifetime := hs.lifetime
  unfold CreateChallenge.maxChallengeTtl at hlifetime
  unfold nonceDedupTtl at hapart
  omega

/-- **One decisive submission.** In every run of submissions over a nonce store that reads its
entries, one of them at most sends a write of the record by its expiry. Every change of the record
by then is a request being served that a submission of the run sent: such a write, or a read that
removes the record at the expiry. -/
theorem one_decisive_submission (hs : Living s₀ id c₀)
    (hr : Run (Verify.submitVerification app) (readsNonces app _) (· = s₀) p) :
    (∀ i j req req' T T', SentAt p.world.trace i id req T → SentAt p.world.trace j id req' T' →
      req ≠ .get id.toString → req' ≠ .get id.toString → T ≤ c₀.expiresAt →
      T' ≤ c₀.expiresAt → i = j) ∧
    ∀ q, Next (Verify.submitVerification app) (readsNonces app _) p q →
      State.record q.world.state id ≠ State.record p.world.state id →
      State.clock p.world.state ≤ c₀.expiresAt →
      ∃ f req i T, Serves p.world id f req q.world ∧ SentAt q.world.trace i id req T ∧
        T ≤ State.clock p.world.state ∧
        (req = .get id.toString → State.record q.world.state id = none ∧
          State.clock p.world.state = c₀.expiresAt) := by
  refine ⟨fun i j req req' T T' hi hj hreq hreq' hT hT' =>
    writer_unique hs hr hi hj hreq hreq' hT hT', ?_⟩
  intro q hnext hne hclock
  obtain ⟨f, req, hserves⟩ := Next.serves hnext hne
  have htimeline : Timeline c₀.createdAt p.world := Run.timeline hs.timeline hr
  obtain ⟨i, T, hsent, hT⟩ := hserves.sentAt htimeline
  refine ⟨f, req, i, T, hserves, hsent, hT, ?_⟩
  intro hget
  have hstep := hserves.recordStep
  rw [hget] at hstep
  generalize hbefore : State.record p.world.state id = before at hstep hne
  generalize hafter : State.record q.world.state id = after at hstep hne ⊢
  cases hstep with
  | keep => exact absurd rfl hne
  | @expire c hexp =>
    have hexpiry : c.expiresAt = c₀.expiresAt := Run.expiry hs hr hbefore
    exact ⟨rfl, Nat.le_antisymm hclock (hexpiry ▸ hexp)⟩
  | delete hreq => simp only [reduceCtorEq] at hreq
  | create hreq => simp only [reduceCtorEq] at hreq
  | update hreq => simp only [reduceCtorEq] at hreq

theorem living_sample : Living Sample.state CachedChallenge.sample.id CachedChallenge.sample := by
  refine ⟨by decide, rfl, ?_, by decide, by decide⟩
  simp [State.record, Sample.state]

/-- Two submissions call in turns until the second is answered; the first one goes on. -/
def twoSubmissions : List (Act (service .sample) SubmitProofRequest) :=
  .arrive 0 Sample.submission :: .arrive 1 Sample.submission ::
    (List.replicate 4 [.call 0 healthy, .call 1 healthy]).flatten ++
    List.replicate 5 (.call 0 healthy)

/-- Of two submissions that both read the pending record, the first is the decisive one, and the
second is turned away. -/
theorem one_decisive_submission_sample :
    ∃ p : Pool (service .sample) SubmitProofRequest ApiError (Answer VerifyResponse),
      Run (Verify.submitVerification .sample) (readsNonces .sample _) (· = Sample.state) p ∧
        (changes CachedChallenge.sample.id p.world.trace).map (·.who) = [0] ∧
        p.outcome 1 = some (.error (.conflict (some "Duplicate verification submission"))) ∧
        ∀ i j req req' T T', SentAt p.world.trace i CachedChallenge.sample.id req T →
          SentAt p.world.trace j CachedChallenge.sample.id req' T' →
          req ≠ .get CachedChallenge.sample.id.toString →
          req' ≠ .get CachedChallenge.sample.id.toString →
          T ≤ CachedChallenge.sample.expiresAt → T' ≤ CachedChallenge.sample.expiresAt →
          i = j := by
  have hrun : ∃ p : Pool (service .sample) SubmitProofRequest ApiError (Answer VerifyResponse),
      Run (Verify.submitVerification .sample) (readsNonces .sample _) (· = Sample.state) p ∧
        (changes CachedChallenge.sample.id p.world.trace).map (·.who) = [0] ∧
        p.outcome 1 = some (.error (.conflict (some "Duplicate verification submission"))) :=
    Run.of_replay Sample.state twoSubmissions rfl (by decide +kernel)
  obtain ⟨p, hr, hchanges, hout⟩ := hrun
  exact ⟨p, hr, hchanges, hout, (one_decisive_submission living_sample hr).1⟩

/-- A submission, and one that comes at the expiry and reads the record. -/
def submissionAtExpiry : List (Act (service .sample) SubmitProofRequest) :=
  .arrive 0 Sample.submission :: List.replicate 9 (.call 0 healthy) ++
    [.env (.tick 300), .arrive 1 Sample.submission, .call 1 healthy, .call 1 healthy]

/-- A second submission that reads the record at its expiry removes it: two submissions change the
record by its expiry. -/
theorem submissions_both_change :
    ∃ p : Pool (service .sample) SubmitProofRequest ApiError (Answer VerifyResponse),
      Run (Verify.submitVerification .sample) (readsNonces .sample _) (· = Sample.state) p ∧
        ∃ a ∈ changes CachedChallenge.sample.id p.world.trace,
          ∃ b ∈ changes CachedChallenge.sample.id p.world.trace, a.who ≠ b.who ∧
            a.time ≤ CachedChallenge.sample.expiresAt ∧
            b.time ≤ CachedChallenge.sample.expiresAt := by
  exact Run.of_replay Sample.state submissionAtExpiry rfl (by decide +kernel)

/-! ## Outcomes on time -/

section Outcomes

variable {R : Rules (service app) Request} {p : Pool (service app) Request ApiError Response}

/-- A request of the run read the clock as `t`, before the expiry of the challenge. -/
def Timely (s₀ : State) (tr : List (Event (service app) Request)) (id : Uuid) (t : Nat) : Prop :=
  ∃ i c₀, (⟨.timestamp, t⟩ : Sigma Res) ∈ own i tr ∧ Original s₀ tr id c₀ ∧ t ≤ c₀.expiresAt

theorem Timely.cons {tr : List (Event (service app) Request)} {id : Uuid} {t : Nat}
    (h : Timely s₀ tr id t) (e : Event (service app) Request) : Timely s₀ (e :: tr) id t := by
  obtain ⟨i, c₀, hclock, horiginal, hle⟩ := h
  exact ⟨i, c₀, (own_suffix_cons i e tr).subset hclock, horiginal.cons e, hle⟩

/-- The lifecycle fields of a positive outcome carry the time it was decided at. -/
structure Dated (s₀ : State) (tr : List (Event (service app) Request)) (id : Uuid)
    (state : ChallengeState) (proofVerifiedAt verifiedAt : Option Nat) : Prop where
  proof : state = .proofOkWaitingForRedeem → ∃ t, proofVerifiedAt = some t ∧ Timely s₀ tr id t
  verdict : state = .verified → ∃ t, verifiedAt = some t ∧ Timely s₀ tr id t

theorem Dated.cons {tr : List (Event (service app) Request)} {id : Uuid} {st : ChallengeState}
    {pv v : Option Nat} (h : Dated s₀ tr id st pv v) (e : Event (service app) Request) :
    Dated s₀ (e :: tr) id st pv v := by
  refine ⟨?_, ?_⟩
  · intro hst
    obtain ⟨t, ht, htimely⟩ := h.proof hst
    exact ⟨t, ht, htimely.cons e⟩
  · intro hst
    obtain ⟨t, ht, htimely⟩ := h.verdict hst
    exact ⟨t, ht, htimely.cons e⟩

/-- A state without a positive outcome. -/
theorem Dated.of_ne {tr : List (Event (service app) Request)} {id : Uuid} {st : ChallengeState}
    {pv v : Option Nat} (hproof : st ≠ .proofOkWaitingForRedeem) (hverdict : st ≠ .verified) :
    Dated s₀ tr id st pv v :=
  ⟨fun h => absurd h hproof, fun h => absurd h hverdict⟩

/-- A decision on a record that was read, on time for it. -/
theorem timely_of_onTime {w : World (service app) Request}
    (hframed : RecordInv (FromOriginal s₀) (fun _ _ _ => True) w) {i : Nat} {id : Uuid}
    {c : CachedChallenge} {now : Nat} (hread : ChallengeStore.Read id c (own i w.trace))
    (htime : OnTime c now (own i w.trace)) : Timely s₀ w.trace id now := by
  obtain ⟨c₀, horiginal, hf⟩ := hframed.read i id c hread.1
  refine ⟨i, c₀, htime.clock, horiginal, ?_⟩
  rw [← hf.same.expiresAt]
  exact htime.le

/-- **Every write of a positive outcome is dated.** -/
theorem writes_dated {w : World (service app) Request}
    (hframed : RecordInv (FromOriginal s₀) (fun _ _ _ => True) w) {i : Nat} {req : Request}
    {id : Uuid} {c : CachedChallenge} (hw : req.Writes app (own i w.trace) id c) :
    Dated s₀ w.trace id c.state c.proofVerifiedAt c.verifiedAt := by
  cases req with
  | create r =>
    have hw : CreateChallenge.Writes app r (own i w.trace) id c := hw
    rw [hw.pending]
    exact .of_ne (by simp) (by simp)
  | verify r =>
    have hw : Verify.Writes app r (own i w.trace) id c := hw
    cases hw with
    | fail hid hgated =>
      exact .of_ne (by simp [CachedChallenge.fail]) (by simp [CachedChallenge.fail])
    | expire hid hgated =>
      exact .of_ne (by simp [CachedChallenge.expire]) (by simp [CachedChallenge.expire])
    | @accept d issuer result now hid hgated hgrounds htime =>
      subst hid
      exact ⟨fun _ => ⟨now, rfl, timely_of_onTime hframed hgated.read htime⟩,
        fun h => by simp [CachedChallenge.acceptProof] at h⟩
  | redeem r =>
    obtain ⟨rfl, d, now, rfl, htime, hgrounds, -⟩ := hw
    exact ⟨fun h => by simp [CachedChallenge.verdict] at h,
      fun _ => ⟨now, rfl, timely_of_onTime hframed hgrounds.read htime⟩⟩
  | hostedRedeem r =>
    obtain ⟨d, now, rfl, ⟨first, hfirst, htime⟩, -, -⟩ := hw
    exact ⟨fun h => by simp [CachedChallenge.verdict] at h,
      fun _ => ⟨now, rfl, timely_of_onTime hframed hfirst htime⟩⟩

theorem Run.dated (hfresh : Fresh s₀) (hr : Run (handle app) R (· = s₀) p) :
    RecordInv (fun tr id c => Dated s₀ tr id c.state c.proofVerifiedAt c.verifiedAt)
      (fun tr id upd => Dated s₀ tr id upd.state upd.proofVerifiedAt upd.verifiedAt) p.world := by
  refine Run.recordInv (guarded_handle app) ?_ hr
  refine ⟨fun e _ _ _ h => h.cons e, fun e _ _ _ h => h.cons e, ?_, ?_, ?_, ?_⟩
  · rintro s rfl
    refine ⟨hfresh.inflight, ?_⟩
    intro id c hc
    rw [hfresh.pending id c hc]
    exact .of_ne (by simp) (by simp)
  · rintro w i req id c ⟨q, hq, rfl⟩ _ _ hw
    exact writes_dated (Run.framed hfresh hq) hw
  · rintro w i req id c ch ⟨q, hq, rfl⟩ _ _ hw
    exact (writes_dated (Run.framed hfresh hq) hw).cons _
  · intro w id e upd _ _ hupd _ _
    refine ⟨?_, ?_⟩
    · intro hst
      obtain ⟨t, ht, htimely⟩ := hupd.proof hst
      refine ⟨t, ?_, htimely⟩
      simp [ChallengeDO.mergeUpdate, ht]
    · intro hst
      obtain ⟨t, ht, htimely⟩ := hupd.verdict hst
      refine ⟨t, ?_, htimely⟩
      simp [ChallengeDO.mergeUpdate, ht]

/-- An update that changes the state to a non-terminal one is served before the expiry. -/
theorem Serves.update_before {w w' : World (service app) Request} {id : Uuid}
    {f : ChallengeDO.Faults} {body : Body ChallengeUpdate}
    (h : Serves w id f (.update id.toString body) w') {c d : CachedChallenge}
    (hc : State.record w.state id = some c) (hd : State.record w'.state id = some d)
    (hne : c.state ≠ d.state) (hterminal : isTerminalState d.state = false) :
    State.clock w.state < c.expiresAt := by
  have hstep := h.recordStep
  rw [hc, hd] at hstep
  cases hstep with
  | keep => exact absurd rfl hne
  | create hreq => simp only [reduceCtorEq] at hreq
  | update hreq hval htime htrans =>
    rcases htime with htime | hterm
    · exact htime
    · rw [ChallengeDO.mergeUpdate_state, hterm] at hterminal
      cases hterminal

/-- **Outcomes on time.** In every run, a stored `ProofOkWaitingForRedeem` or `Verified` carries a
reading of the clock by a request of the run that is not after the expiry, and an update that
changes the stored state to `ProofOkWaitingForRedeem` is served before the expiry. -/
theorem outcome_on_time (hfresh : Fresh s₀)
    (hr : Run (handle app) (anyOrder app Request) (· = s₀) p) {id : Uuid} {c : CachedChallenge}
    (hc : State.record p.world.state id = some c) :
    (c.state = .proofOkWaitingForRedeem → ∃ t i, c.proofVerifiedAt = some t ∧
      (⟨.timestamp, t⟩ : Sigma Res) ∈ own i p.world.trace ∧ t ≤ c.expiresAt) ∧
    (c.state = .verified → ∃ t i, c.verifiedAt = some t ∧
      (⟨.timestamp, t⟩ : Sigma Res) ∈ own i p.world.trace ∧ t ≤ c.expiresAt) ∧
    ∀ f body w' d, Serves p.world id f (.update id.toString body) w' →
      State.record w'.state id = some d → c.state ≠ d.state →
      d.state = .proofOkWaitingForRedeem → State.clock p.world.state < c.expiresAt := by
  obtain ⟨c₀, horiginal, hf⟩ := (Run.framed hfresh hr).stored id c hc
  have horiginals := Run.originalInv hfresh (fun _ _ _ _ h => h) hr
  have hdated := (Run.dated hfresh hr).stored id c hc
  have hexpiry : ∀ t, Timely s₀ p.world.trace id t →
      ∃ i, (⟨.timestamp, t⟩ : Sigma Res) ∈ own i p.world.trace ∧ t ≤ c.expiresAt := by
    rintro t ⟨i, d, hclock, hd, hle⟩
    rw [horiginals.unique id d c₀ hd horiginal, ← hf.same.expiresAt] at hle
    exact ⟨i, hclock, hle⟩
  refine ⟨?_, ?_, ?_⟩
  · intro hst
    obtain ⟨t, ht, htimely⟩ := hdated.proof hst
    obtain ⟨i, hclock, hle⟩ := hexpiry t htimely
    exact ⟨t, i, ht, hclock, hle⟩
  · intro hst
    obtain ⟨t, ht, htimely⟩ := hdated.verdict hst
    obtain ⟨i, hclock, hle⟩ := hexpiry t htimely
    exact ⟨t, i, ht, hclock, hle⟩
  · intro f body w' d hserves hd hne hst
    exact hserves.update_before hc hd hne (by rw [hst]; rfl)

/-- The sample record is proven and redeemed; when the redemption is slow, it passes its gates at
1000 and writes at 1300, when the record expires. -/
def redeemed (slow : Bool) : List (Act (service .sample) Request) :=
  Sample.performs 0 (.verify Sample.submission) 9 ++
    Sample.performs 1 (.redeem Sample.redemption) 7 ++
    (if slow then [.env (.tick 300)] else []) ++ [.call 1 healthy]

/-- The verdict of the sample record is dated. -/
theorem outcome_on_time_redeemed :
    ∃ p : Pool (service .sample) Request ApiError Response,
      Run (handle .sample) (anyOrder .sample Request) (· = Sample.state) p ∧
        ∃ c, State.record p.world.state CachedChallenge.sample.id = some c ∧
          c.state = .verified ∧ ∃ t, c.verifiedAt = some t ∧ t ≤ c.expiresAt := by
  have hrun : ∃ p : Pool (service .sample) Request ApiError Response,
      Run (handle .sample) (anyOrder .sample Request) (· = Sample.state) p ∧
        (State.record p.world.state CachedChallenge.sample.id).map (·.state) =
          some .verified :=
    Run.of_replay Sample.state (redeemed false) rfl (by decide +kernel)
  obtain ⟨p, hr, hstate⟩ := hrun
  obtain ⟨c, hc, hstate⟩ := Option.map_eq_some_iff.mp hstate
  obtain ⟨t, i, ht, -, hle⟩ := (outcome_on_time Sample.fresh_state hr hc).2.1 hstate
  exact ⟨p, hr, c, hc, hstate, t, ht, hle⟩

/-- The slow redemption has `Verified` stored at the expiry of the record. -/
theorem verified_at_expiry :
    ∃ p : Pool (service .sample) Request ApiError Response,
      Run (handle .sample) (anyOrder .sample Request) (· = Sample.state) p ∧
        ∃ a ∈ changes CachedChallenge.sample.id p.world.trace,
          a.before.map (·.state) = some .proofOkWaitingForRedeem ∧
            a.after.map (·.state) = some .verified ∧
              a.before.map (·.expiresAt) = some a.time :=
  Run.of_replay Sample.state (redeemed true) rfl (by decide +kernel)

end Outcomes

end ProviiVerifier

/-
  What a verdict rests on where the sandbox simulator runs beside the service.

  Creations, submissions and redemptions interleave with simulations at every await. The simulator
  leaves the secret in a record that it writes as expired, so a record outside `Pending` has either
  no secret or the original one.

  Proved: a record in `ProofOkWaitingForRedeem` or `Verified` comes from one original, and either a
  submission passed every check against it or, in a sandbox only, a simulation asked for the outcome
  "verified" with the original's secret; a record in `Verified` was redeemed
  (`simulated_verdict_sound`).
-/
import ProviiVerifier.Interleaving.Project
import ProviiVerifier.SimulateProof
import ProviiVerifier.Verdicts

namespace ProviiVerifier

namespace SimulatedProofs

open Interleaving Prog
open SimulateProof (Asks)

variable {app : AppState} {s₀ : State}

/-! ## Requests and simulations -/

/-- A request of the service or one to the simulator, with its body if it can be read. -/
inductive Call
  | serve (req : Request)
  | simulate (body : Option SimulateProofRequest)

/-- What a call is answered. -/
inductive Reply
  | served (response : Response)
  | simulated (response : SimulateProofResponse)
  deriving DecidableEq

/-- The handler of a call. -/
def Call.handle (app : AppState) : Call → Handler Reply
  | .serve req => do return .served (← ProviiVerifier.handle app req)
  | .simulate body => do return .simulated (← SimulateProof.handleSimulateProof app body)

/-- The request of a call that is none to the simulator. -/
def Call.request : Call → Option Request
  | .serve req => some req
  | .simulate _ => none

/-- The records a call may write. -/
def Call.Writes (app : AppState) : Call → History Op Res → Uuid → CachedChallenge → Prop
  | .serve req => req.Writes app
  | .simulate body => fun h id c => app.environment = "sandbox" ∧
      ∃ sim, Asks body sim ∧ SimulateProof.Writes sim h id c

/-- **What every call does.** -/
theorem guarded_call (app : AppState) (call : Call) :
    (call.handle app).Guarded (fun h op => RouteOp app (call.Writes app h) op)
      (fun _ _ => True) [] := by
  cases call with
  | serve req =>
    exact ((guarded_handle app req).wrap Reply.served).imp (fun _ _ hop => hop)
      fun _ _ _ => trivial
  | simulate body =>
    refine ((SimulateProof.guarded_handleSimulateProof app body).wrap Reply.simulated).imp ?_
      fun _ _ _ => trivial
    rintro h op ⟨hsandbox, hop⟩
    exact hop.imp fun id c hw => ⟨hsandbox, hw⟩

/-! ## The original of a record -/

/-- A record of the same challenge, whose secret is the original one or gone. -/
structure Kept (c₀ c : CachedChallenge) : Prop where
  same : c.SameChallenge c₀
  secret : c.submitSecret ≠ [] → c.submitSecret = c₀.submitSecret

theorem Kept.refl (c : CachedChallenge) : Kept c c := ⟨.refl c, fun _ => rfl⟩

theorem Kept.trans {c₀ d c : CachedChallenge} (hc : Kept d c) (hd : Kept c₀ d) : Kept c₀ c := by
  refine ⟨hc.same.trans hd.same, fun hne => ?_⟩
  have hsecret := hc.secret hne
  rw [hsecret] at hne ⊢
  exact hd.secret hne

theorem Kept.erased {d c : CachedChallenge} (hsame : c.SameChallenge d)
    (herased : c.submitSecret = []) : Kept d c :=
  ⟨hsame, fun hne => absurd herased hne⟩

theorem Kept.mergeUpdate (e : CachedChallenge) (upd : ChallengeUpdate) :
    Kept e (ChallengeDO.mergeUpdate e upd) := by
  refine ⟨ChallengeDO.mergeUpdate_same e upd, fun hne => ?_⟩
  rw [ChallengeDO.mergeUpdate_secret] at hne ⊢
  split
  · next hleft => exact absurd (if_pos hleft) hne
  · rfl

theorem simulateProof_same (c : CachedChallenge) (now : Nat) :
    (c.simulateProof now).SameChallenge c := by
  constructor <;> rfl

theorem lapse_same (c : CachedChallenge) : c.lapse.SameChallenge c := by
  constructor <;> rfl

/-- What a simulation writes is made from the record it read, for a later state. -/
theorem kept_of_simulated {sim : Simulation} {h : History Op Res} {id : Uuid}
    {c : CachedChallenge} (hw : SimulateProof.Writes sim h id c) :
    c.state ≠ .pending ∧ ∃ d, ChallengeStore.Read id d h ∧ Kept d c := by
  cases hw with
  | @lapse d hid hopened =>
    subst hid
    exact ⟨by simp [CachedChallenge.lapse], d, hopened.read, lapse_same d, fun _ => rfl⟩
  | @fail d hid hopened =>
    subst hid
    exact ⟨by simp [CachedChallenge.fail], d, hopened.read, .erased d.fail_same rfl⟩
  | @verify d now hid hgrounds =>
    subst hid
    exact ⟨by simp [CachedChallenge.simulateProof], d, hgrounds.opened.read,
      .erased (simulateProof_same d now) rfl⟩

/-- **A write** is a creation or is made from a record its sender read. -/
theorem Call.Writes.cases {call : Call} {h : History Op Res} {id : Uuid} {c : CachedChallenge}
    (hw : call.Writes app h id c) : (∃ r, CreateChallenge.Writes app r h id c) ∨
      c.state ≠ .pending ∧ ∃ d, ChallengeStore.Read id d h ∧ Kept d c := by
  cases call with
  | serve req =>
    rcases Request.Writes.cases hw with ⟨r, -, hw⟩ | ⟨d, hread, hderived⟩
    · exact .inl ⟨r, hw⟩
    · exact .inr ⟨hderived.left, d, hread, .erased hderived.same hderived.erased⟩
  | simulate body =>
    obtain ⟨-, sim, -, hw⟩ := hw
    exact .inr (kept_of_simulated hw)

/-- The record its challenge started from; a simulation creates none. -/
def OriginalOf (s₀ : State) (tr : List (Event (service app) Call)) (id : Uuid)
    (c : CachedChallenge) : Prop :=
  Original s₀ (project Call.request tr) id c

theorem OriginalOf.cons {tr : List (Event (service app) Call)} {id : Uuid} {c : CachedChallenge}
    (h : OriginalOf s₀ tr id c) (e : Event (service app) Call) : OriginalOf s₀ (e :: tr) id c := by
  unfold OriginalOf
  cases e with
  | arrive i call =>
    rcases project_arrive (f := Call.request) i call tr with hsame | ⟨req, hmore⟩
    · rw [hsame]
      exact h
    · rw [hmore]
      exact Original.cons h _
  | call i s op ch =>
    rw [project_call]
    exact Original.cons h _

variable {R : Rules (service app) Call} {p : Pool (service app) Call ApiError Reply}

/-- The arrival of a call keeps the originals. -/
theorem original_arrived {w : World (service app) Call}
    (h : OriginalInv s₀ (w.project Call.request)) (i : Nat) (call : Call) :
    OriginalInv s₀ ((w.arrived i call).project Call.request) := by
  rcases project_arrive (f := Call.request) i call w.trace with hsame | ⟨req, hmore⟩
  · have hworld : (w.arrived i call).project Call.request = w.project Call.request :=
      congrArg (World.mk w.state) hsame
    rw [hworld]
    exact h
  · have hworld : (w.arrived i call).project Call.request =
        (w.project Call.request).arrived i req := congrArg (World.mk w.state) hmore
    rw [hworld]
    exact h.arrived i req

/-- **A challenge has one original**, with simulations among the requests. -/
theorem Run.original (hfresh : Fresh s₀) (hcall : ∀ w i op c, R.call w i op c →
    freshIds w.state op c) (hr : Run (Call.handle app) R (· = s₀) p) :
    OriginalInv s₀ (p.world.project Call.request) := by
  refine Run.invariant (I := fun w => OriginalInv s₀ (w.project Call.request))
    (guarded_call app) ?_ ?_ ?_ ?_ hr
  · rintro s rfl
    exact originalInv_start
  · intro w i call _ h _
    exact original_arrived h i call
  · intro w i op c call _ h _ hg hR
    rw [project_after]
    refine h.after hfresh hg ?_ (hcall w i op c hR)
    intro id d hw
    have hsame : own i (w.project Call.request).trace = own i w.trace := own_project i w.trace
    rw [hsame]
    exact (Call.Writes.cases hw).imp (fun hw => hw) And.left
  · intro w e _ h _
    rw [project_moved]
    exact h.moved e

/-! ## The grounds of a verdict -/

/-- What the submission behind a verdict passed: every check of `submit_verification`, against the
original record. -/
structure Passed (app : AppState) (req : SubmitProofRequest) (c₀ : CachedChallenge)
    (h : History Op Res) : Prop extends Evidence app req c₀ h where
  key : ∃ key, Idempotency.extractIdempotencyKey app.uni req.headers "POST" "/v1/verify" = .ok key
  metadata : validateFetchMetadata app.uni req.headers = .ok ()
  /-- The request has an API key of the owner or comes from no web origin, and the owner's quota has
  room for it. -/
  caller : ∃ clientId, c₀.clientId = some clientId ∧
    (req.headers "Origin" = none ∨ AuthenticatedAs app req.headers clientId h) ∧
      ⟨.accountQuota clientId "verify", .ok ()⟩ ∈ h
  nonce : NonceStore.Accepted (Verify.nonceTag req.challengeId) h
  /-- The record it read had nothing submitted, and had not expired. -/
  opened : ∃ c now, ChallengeStore.Read req.challengeId c h ∧ c.SameChallenge c₀ ∧
    Verify.Unused c ∧ ⟨.timestamp, now⟩ ∈ h ∧ now ≤ c₀.expiresAt
  /-- One policy of the origin allows both the key and the issuer. -/
  allowed : ∃ policy, ⟨.getPolicyDetail c₀.origin, .ok (.found policy)⟩ ∈ h ∧
    req.verifyingKeyId ∈ policy.allowedVkIds ∧ (policy.allowedIssuers = [] ∨
      app.base64Url (Verify.issuerKeyHash app req) ∈ policy.allowedIssuers)
  /-- The issuer was not known to be revoked before the proof was verified. -/
  peeked : ∃ peeked, ⟨.peekIssuer (Verify.issuerKeyHash app req), peeked⟩ ∈ h ∧
    peeked.any (·.revoked) = false

theorem Passed.mono {req : SubmitProofRequest} {c₀ : CachedChallenge} {h h' : History Op Res}
    (hs : h <:+ h') (hp : Passed app req c₀ h) : Passed app req c₀ h' := by
  obtain ⟨clientId, howner, hcaller, hquota⟩ := hp.caller
  obtain ⟨c, now, hread, hsame, hunused, hclock, hle⟩ := hp.opened
  obtain ⟨policy, hpolicy, hallowed⟩ := hp.allowed
  obtain ⟨peeked, hpeeked, hrevoked⟩ := hp.peeked
  exact
    { toEvidence := hp.toEvidence.mono hs
      key := hp.key
      metadata := hp.metadata
      caller := ⟨clientId, howner, hcaller.imp id fun hauth => hauth.mono hs, hs.subset hquota⟩
      nonce := hp.nonce.mono hs
      opened := ⟨c, now, hread.mono hs, hsame, hunused, hs.subset hclock, hle⟩
      allowed := ⟨policy, hs.subset hpolicy, hallowed⟩
      peeked := ⟨peeked, hs.subset hpeeked, hrevoked⟩ }

/-- The grounds of a submission that is accepted, against the original of the record it read. -/
theorem passed_of_grounds {req : SubmitProofRequest} {c c₀ : CachedChallenge} {now : Nat}
    {h : History Op Res} (hgated : Verify.Gated req c h) (hg : Verify.Grounds app req c h)
    (htime : OnTime c now h) (hkept : Kept c₀ c) : Passed app req c₀ h := by
  have hsame := hkept.same
  obtain ⟨clientId, howner, hcaller⟩ := hg.admitted.caller
  obtain ⟨policy, hpolicy, hchecked⟩ := hg.policy
  rw [hsame.clientId] at howner
  rw [hsame.origin] at hpolicy
  refine
    { toEvidence := hg.evidence_of_same hsame hkept.secret
      key := hg.admitted.key
      metadata := hg.admitted.metadata
      caller := ⟨clientId, howner, hcaller⟩
      nonce := hgated.accepted
      opened := ⟨c, now, hg.read, hsame, hg.admitted.unused, htime.clock, ?_⟩
      allowed := ⟨policy, hpolicy, hchecked.allowed, hchecked.fits.issuer⟩
      peeked := hchecked.peeked }
  rw [← hsame.expiresAt]
  exact htime.le

/-- A submission of the run proves the challenge. -/
def ProvedBySubmission (c₀ : CachedChallenge) (tr : List (Event (service app) Call))
    (id : Uuid) : Prop :=
  ∃ i req, .arrive i (.serve (.verify req)) ∈ tr ∧ req.challengeId = id ∧
    Passed app req c₀ (own i tr)

/-- A simulation of the run, in a sandbox, asked for the outcome "verified" with the secret of the
challenge. -/
def ProvedBySimulation (c₀ : CachedChallenge) (tr : List (Event (service app) Call))
    (id : Uuid) : Prop :=
  app.environment = "sandbox" ∧ ∃ i body sim, .arrive i (.simulate body) ∈ tr ∧ Asks body sim ∧
    sim.challengeId = id ∧ sim.verified = true ∧ sim.submitSecret.val = c₀.submitSecret

/-- A redemption of the run redeemed the challenge. -/
def RedeemedBy (c₀ : CachedChallenge) (tr : List (Event (service app) Call))
    (id : Uuid) : Prop :=
  ∃ i req, .arrive i (.serve req) ∈ tr ∧ Redeems app id c₀ (own i tr) req

variable {c₀ : CachedChallenge} {tr : List (Event (service app) Call)} {id : Uuid}

theorem ProvedBySubmission.cons (h : ProvedBySubmission c₀ tr id)
    (e : Event (service app) Call) : ProvedBySubmission c₀ (e :: tr) id := by
  obtain ⟨i, req, harrive, hid, hpassed⟩ := h
  exact ⟨i, req, List.mem_cons_of_mem _ harrive, hid, hpassed.mono (own_suffix_cons i e tr)⟩

theorem ProvedBySimulation.cons (h : ProvedBySimulation c₀ tr id)
    (e : Event (service app) Call) : ProvedBySimulation c₀ (e :: tr) id := by
  obtain ⟨hsandbox, i, body, sim, harrive, hasks⟩ := h
  exact ⟨hsandbox, i, body, sim, List.mem_cons_of_mem _ harrive, hasks⟩

theorem RedeemedBy.cons (h : RedeemedBy c₀ tr id) (e : Event (service app) Call) :
    RedeemedBy c₀ (e :: tr) id := by
  obtain ⟨i, req, harrive, hredeems⟩ := h
  exact ⟨i, req, List.mem_cons_of_mem _ harrive, hredeems.mono (own_suffix_cons i e tr)⟩

/-- What a state of the challenge rests on. -/
structure Grounded (c₀ : CachedChallenge) (tr : List (Event (service app) Call)) (id : Uuid)
    (s : ChallengeState) : Prop where
  proved : Positive s → ProvedBySubmission c₀ tr id ∨ ProvedBySimulation c₀ tr id
  redeemed : s = .verified → RedeemedBy c₀ tr id

theorem Grounded.cons {s : ChallengeState} (h : Grounded c₀ tr id s)
    (e : Event (service app) Call) : Grounded c₀ (e :: tr) id s := by
  refine ⟨fun hpos => ?_, fun hverified => (h.redeemed hverified).cons e⟩
  exact (h.proved hpos).imp (fun hp => hp.cons e) fun hp => hp.cons e

/-- A state that is none of a verdict rests on nothing. -/
theorem Grounded.of_not_positive {s : ChallengeState} (hneg : ¬ Positive s) :
    Grounded c₀ tr id s :=
  ⟨fun hpos => absurd hpos hneg, fun hverified => absurd (.inr hverified) hneg⟩

/-- The record is one of its original, and its state is grounded. -/
def Sourced (s₀ : State) (tr : List (Event (service app) Call)) (id : Uuid)
    (c : CachedChallenge) : Prop :=
  ∃ c₀, OriginalOf s₀ tr id c₀ ∧ Kept c₀ c ∧ Grounded c₀ tr id c.state

theorem Sourced.cons {c : CachedChallenge} (h : Sourced s₀ tr id c)
    (e : Event (service app) Call) : Sourced s₀ (e :: tr) id c := by
  obtain ⟨c₀, horiginal, hkept, hgrounded⟩ := h
  exact ⟨c₀, horiginal.cons e, hkept, hgrounded.cons e⟩

/-- An update to a state of a verdict is grounded. -/
def SourcedUpdate (s₀ : State) (tr : List (Event (service app) Call)) (id : Uuid)
    (upd : ChallengeUpdate) : Prop :=
  Positive upd.state → ∃ c₀, OriginalOf s₀ tr id c₀ ∧ Grounded c₀ tr id upd.state

theorem SourcedUpdate.cons {upd : ChallengeUpdate} (h : SourcedUpdate s₀ tr id upd)
    (e : Event (service app) Call) : SourcedUpdate s₀ (e :: tr) id upd := by
  intro hpos
  obtain ⟨c₀, horiginal, hgrounded⟩ := h hpos
  exact ⟨c₀, horiginal.cons e, hgrounded.cons e⟩

/-! ## What is written -/

section Writes

variable {w : World (service app) Call} {i : Nat} {c : CachedChallenge}

/-- What a submission writes. -/
theorem sourced_submission (hinv : RecordInv (Sourced s₀) (SourcedUpdate s₀) w)
    {req : SubmitProofRequest} (harrive : .arrive i (.serve (.verify req)) ∈ w.trace)
    (hw : Verify.Writes app req (own i w.trace) id c) : Sourced s₀ w.trace id c := by
  cases hw with
  | @fail d hid hgated =>
    obtain ⟨c₀, horiginal, hkept, -⟩ := hinv.read i id d (hid ▸ hgated.read.1)
    refine ⟨c₀, horiginal, (Kept.erased d.fail_same rfl).trans hkept, .of_not_positive ?_⟩
    simp [Positive, CachedChallenge.fail]
  | @expire d hid hgated =>
    obtain ⟨c₀, horiginal, hkept, -⟩ := hinv.read i id d (hid ▸ hgated.read.1)
    refine ⟨c₀, horiginal, (Kept.erased d.expire_same rfl).trans hkept, .of_not_positive ?_⟩
    simp [Positive, CachedChallenge.expire]
  | @accept d issuer result now hid hgated hgrounds htime =>
    obtain ⟨c₀, horiginal, hkept, -⟩ := hinv.read i id d (hid ▸ hgrounds.read.1)
    refine ⟨c₀, horiginal, (Kept.erased (d.acceptProof_same issuer result now) rfl).trans hkept,
      fun _ => .inl ?_, fun hverified => by cases hverified⟩
    exact ⟨i, req, harrive, hid.symm, passed_of_grounds hgated hgrounds htime hkept⟩

/-- What a simulation writes. -/
theorem sourced_simulation (hinv : RecordInv (Sourced s₀) (SourcedUpdate s₀) w)
    {body : Option SimulateProofRequest} (harrive : .arrive i (.simulate body) ∈ w.trace)
    {sim : Simulation} (hsandbox : app.environment = "sandbox") (hasks : Asks body sim)
    (hw : SimulateProof.Writes sim (own i w.trace) id c) : Sourced s₀ w.trace id c := by
  cases hw with
  | @lapse d hid hopened =>
    obtain ⟨c₀, horiginal, hkept, -⟩ := hinv.read i id d (hid ▸ hopened.read.1)
    have hlapse : Kept d d.lapse := ⟨lapse_same d, fun _ => rfl⟩
    refine ⟨c₀, horiginal, hlapse.trans hkept, .of_not_positive ?_⟩
    simp [Positive, CachedChallenge.lapse]
  | @fail d hid hopened =>
    obtain ⟨c₀, horiginal, hkept, -⟩ := hinv.read i id d (hid ▸ hopened.read.1)
    refine ⟨c₀, horiginal, (Kept.erased d.fail_same rfl).trans hkept, .of_not_positive ?_⟩
    simp [Positive, CachedChallenge.fail]
  | @verify d now hid hgrounds =>
    obtain ⟨c₀, horiginal, hkept, -⟩ := hinv.read i id d (hid ▸ hgrounds.opened.read.1)
    have hlen : d.submitSecret ≠ [] := by
      intro hempty
      have h32 := sim.submitSecret.property
      rw [hgrounds.secret, hempty] at h32
      cases h32
    refine ⟨c₀, horiginal, (Kept.erased (simulateProof_same d now) rfl).trans hkept,
      fun _ => .inr ?_, fun hverified => by cases hverified⟩
    exact ⟨hsandbox, i, body, sim, harrive, hasks, hid.symm, hgrounds.verified,
      hgrounds.secret.trans (hkept.secret hlen)⟩

/-- What a redemption writes: the record it read was proved. -/
theorem sourced_redemption {d : CachedChallenge} {req : Request} {now : Nat}
    (harrive : .arrive i (.serve req) ∈ w.trace) (hd : Sourced s₀ w.trace id d)
    (hstate : d.state = .proofOkWaitingForRedeem)
    (hredeems : ∀ c₀, OriginalOf s₀ w.trace id c₀ → d.SameChallenge c₀ →
      Redeems app id c₀ (own i w.trace) req) :
    Sourced s₀ w.trace id (d.zeroizeSecret.verdict now) := by
  obtain ⟨c₀, horiginal, hkept, hgrounded⟩ := hd
  refine ⟨c₀, horiginal, (Kept.erased (d.verdict_same now) rfl).trans hkept,
    fun _ => hgrounded.proved (.inl hstate), fun _ => ?_⟩
  exact ⟨i, req, harrive, hredeems c₀ horiginal hkept.same⟩

/-- **A write** is a creation or sourced. -/
theorem writes_sourced (horiginals : OriginalInv s₀ (w.project Call.request))
    (hinv : RecordInv (Sourced s₀) (SourcedUpdate s₀) w) {call : Call}
    (harrive : .arrive i call ∈ w.trace) (hw : call.Writes app (own i w.trace) id c) :
    (∃ r, CreateChallenge.Writes app r (own i w.trace) id c) ∨ Sourced s₀ w.trace id c := by
  cases call with
  | simulate body =>
    obtain ⟨hsandbox, sim, hasks, hw⟩ := hw
    exact .inr (sourced_simulation hinv harrive hsandbox hasks hw)
  | serve req =>
    cases req with
    | create r => exact .inl ⟨r, hw⟩
    | verify r => exact .inr (sourced_submission hinv harrive hw)
    | redeem r =>
      obtain ⟨rfl, d, now, rfl, -, hgrounds, -⟩ := hw
      refine .inr (sourced_redemption harrive (hinv.read i _ d hgrounds.read.1) hgrounds.state ?_)
      exact fun c₀ _ hsame => hgrounds.redeems hsame
    | hostedRedeem r =>
      obtain ⟨d, now, rfl, -, hgrounds, -⟩ := hw
      refine .inr (sourced_redemption harrive (hinv.read i _ d hgrounds.read.1) hgrounds.state ?_)
      intro c₀ horiginal _
      refine hgrounds.redeems fun e he => ?_
      obtain ⟨c₁, horiginal', hkept, -⟩ := hinv.read i id e he.1
      have hsame : c₁ = c₀ := horiginals.unique id c₁ c₀ horiginal' horiginal
      exact hsame ▸ hkept.same

end Writes

/-- **A record that is created** is sourced once its request is sent. -/
theorem created_sourced {w : World (service app) Call} {i : Nat} {c : CachedChallenge}
    (horiginals : OriginalInv s₀ (w.project Call.request))
    (hinv : RecordInv (Sourced s₀) (SourcedUpdate s₀) w) {call : Call}
    (harrive : .arrive i call ∈ w.trace) (hw : call.Writes app (own i w.trace) id c)
    {ch : (service app).Choice (.challengeDO id (ChallengeStore.createRequest app id c))} :
    Sourced s₀ (.call i w.state (.challengeDO id (ChallengeStore.createRequest app id c)) ch ::
      w.trace) id c := by
  rcases writes_sourced horiginals hinv harrive hw with ⟨r, hcreate⟩ | hsourced
  · have hpending : c.state = .pending := hcreate.pending
    refine ⟨c, .inr ⟨hpending, i, ?_⟩, .refl c, .of_not_positive ?_⟩
    · rw [project_call]
      exact created_call (w := w.project Call.request)
    · rw [hpending]
      exact not_positive_pending
  · exact hsourced.cons _

/-- **A record that is updated** with a write is grounded. -/
theorem update_sourced {w : World (service app) Call} {i : Nat} {c : CachedChallenge}
    (horiginals : OriginalInv s₀ (w.project Call.request))
    (hinv : RecordInv (Sourced s₀) (SourcedUpdate s₀) w) {call : Call}
    (harrive : .arrive i call ∈ w.trace) (hw : call.Writes app (own i w.trace) id c) :
    SourcedUpdate s₀ w.trace id c.asUpdate := by
  intro hpos
  rcases writes_sourced horiginals hinv harrive hw with ⟨r, hcreate⟩ | hsourced
  · have hpos : Positive c.state := hpos
    rw [hcreate.pending] at hpos
    exact absurd hpos not_positive_pending
  · obtain ⟨c₀, horiginal, -, hgrounded⟩ := hsourced
    exact ⟨c₀, horiginal, hgrounded⟩

/-- **A merge** of a grounded update is sourced. -/
theorem merged_sourced {w : World (service app) Call} {e : CachedChallenge}
    {upd : ChallengeUpdate} (horiginals : OriginalInv s₀ (w.project Call.request))
    (he : Sourced s₀ w.trace id e) (hupd : SourcedUpdate s₀ w.trace id upd) :
    Sourced s₀ w.trace id (ChallengeDO.mergeUpdate e upd) := by
  obtain ⟨c₀, horiginal, hkept, -⟩ := he
  refine ⟨c₀, horiginal, (Kept.mergeUpdate e upd).trans hkept, ?_⟩
  have hstate : (ChallengeDO.mergeUpdate e upd).state = upd.state := rfl
  rw [hstate]
  by_cases hpos : Positive upd.state
  · obtain ⟨c₁, horiginal', hgrounded⟩ := hupd hpos
    have hsame : c₁ = c₀ := horiginals.unique id c₁ c₀ horiginal' horiginal
    exact hsame ▸ hgrounded
  · exact .of_not_positive hpos

/-- A pending record of the start is sourced. -/
theorem Sourced.start (hfresh : Fresh s₀) {c : CachedChallenge} (hc : s₀.record id = some c) :
    Sourced s₀ ([] : List (Event (service app) Call)) id c := by
  refine ⟨c, .inl hc, .refl c, .of_not_positive ?_⟩
  rw [hfresh.pending id c hc]
  exact not_positive_pending

/-! ## Every record is sourced -/

theorem recordRule_sourced (hfresh : Fresh s₀) (hcall : ∀ w i op c, R.call w i op c →
    freshIds w.state op c) : RecordRule (Call.handle app) R (· = s₀) (Call.Writes app)
      (Sourced s₀) (SourcedUpdate s₀) := by
  have horiginals : ∀ w, Reached (Call.handle app) R (· = s₀) w →
      OriginalInv s₀ (w.project Call.request) := by
    rintro w ⟨q, hq, rfl⟩
    exact Run.original hfresh hcall hq
  refine ⟨fun e _ _ _ h => h.cons e, fun e _ _ _ h => h.cons e, ?_, ?_, ?_, ?_⟩
  · rintro s rfl
    exact ⟨hfresh.inflight, fun id c hc => .start hfresh hc⟩
  · intro w i call id c hreach hinv harrive hw
    exact update_sourced (horiginals w hreach) hinv harrive hw
  · intro w i call id c ch hreach hinv harrive hw
    exact created_sourced (horiginals w hreach) hinv harrive hw
  · intro w id e upd hreach he hupd _ _
    exact merged_sourced (horiginals w hreach) he hupd

/-- **Verdict soundness beside the simulator.** In every run, a stored record in
`ProofOkWaitingForRedeem` or `Verified` comes from one original; some submission of the run passed
every check against it, or the service is a sandbox and some simulation of the run asked for the
outcome "verified" with its secret. A record in `Verified` was redeemed against the original. -/
theorem simulated_verdict_sound (hfresh : Fresh s₀)
    (hr : Run (Call.handle app) (anyOrder app Call) (· = s₀) p) {id : Uuid} {c : CachedChallenge}
    (hc : State.record p.world.state id = some c) (hstate : Positive c.state) :
    ∃ c₀, OriginalOf s₀ p.world.trace id c₀ ∧ (∀ d, OriginalOf s₀ p.world.trace id d → d = c₀) ∧
      c.SameChallenge c₀ ∧
      (ProvedBySubmission c₀ p.world.trace id ∨ ProvedBySimulation c₀ p.world.trace id) ∧
      (c.state = .verified → RedeemedBy c₀ p.world.trace id) := by
  have horiginals := Run.original hfresh (fun _ _ _ _ h => h) hr
  have hinv : RecordInv (Sourced s₀) (SourcedUpdate s₀) p.world :=
    Run.recordInv (Q := fun _ _ _ => True) (guarded_call app)
      (recordRule_sourced hfresh fun _ _ _ _ h => h) hr
  obtain ⟨c₀, horiginal, hkept, hgrounded⟩ := hinv.stored id c hc
  exact ⟨c₀, horiginal, fun d hd => horiginals.unique id d c₀ hd horiginal, hkept.same,
    hgrounded.proved hstate, hgrounded.redeemed⟩

/-! ## Samples -/

namespace Sample

/-- A sandbox deployment. -/
def sandbox : AppState := { AppState.sample with environment := "sandbox" }

/-- The outcome "verified" is asked for, with the secret of the sample record. -/
def simulation : SimulateProofRequest :=
  { challengeId := CachedChallenge.sample.id.toString
    submitSecret := "BQUFBQUFBQUFBQUFBQUFBQUFBQUFBQUFBQUFBQUFBQU"
    outcome := "verified" }

/-- The simulation, and the redemption by the shop's server. -/
def simulatedAndRedeemed : List (Act (service sandbox) Call) :=
  .arrive 0 (.simulate (some simulation)) :: List.replicate 4 (.call 0 healthy) ++
    .arrive 1 (.serve (.redeem ProviiVerifier.Sample.redemption)) ::
      List.replicate 8 (.call 1 healthy)

end Sample

/-- The sample record, proven by the simulator and redeemed by the shop's server. -/
theorem simulated_verdict_sound_sandbox : ∃ (p : Pool (service Sample.sandbox) Call ApiError Reply)
    (c c₀ : CachedChallenge),
    Run (Call.handle Sample.sandbox) (anyOrder Sample.sandbox Call)
        (· = ProviiVerifier.Sample.state) p ∧
      State.record p.world.state CachedChallenge.sample.id = some c ∧ c.state = .verified ∧
      (ProvedBySubmission c₀ p.world.trace CachedChallenge.sample.id ∨
        ProvedBySimulation c₀ p.world.trace CachedChallenge.sample.id) ∧
      RedeemedBy c₀ p.world.trace CachedChallenge.sample.id := by
  have hrun : ∃ p : Pool (service Sample.sandbox) Call ApiError Reply,
      Run (Call.handle Sample.sandbox) (anyOrder Sample.sandbox Call)
        (· = ProviiVerifier.Sample.state) p ∧
        (State.record p.world.state CachedChallenge.sample.id).map (·.state) = some .verified :=
    Run.of_replay ProviiVerifier.Sample.state Sample.simulatedAndRedeemed rfl (by decide +kernel)
  obtain ⟨p, hr, hstate⟩ := hrun
  obtain ⟨c, hc, hstate⟩ := Option.map_eq_some_iff.mp hstate
  obtain ⟨c₀, -, -, -, hproved, hredeemed⟩ :=
    simulated_verdict_sound ProviiVerifier.Sample.fresh_state hr hc (.inr hstate)
  exact ⟨p, c, c₀, hr, hc, hstate, hproved, hredeemed hstate⟩

end SimulatedProofs

end ProviiVerifier

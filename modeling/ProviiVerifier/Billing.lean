/-
  Whether a verdict is paid for.

  Both redeem routes read again whether the origin is metered, and a read that fails counts as "not
  metered": the verdict is then granted first, and the charge is sent afterwards without regard to
  its answer.

  Proved: in every run in which each read of a metered origin's entry by a redemption shows that it
  is metered, a challenge of that origin is stored as `Verified`, and a redemption succeeds, only
  after the credit service settled a charge for the challenge (`billed_first`).
-/
import ProviiVerifier.RedeemOnce
import ProviiVerifier.Verdicts

namespace ProviiVerifier

open Interleaving Prog

variable {app : AppState} {s₀ : State}

/-! ## Metered origins -/

/-- The `ORIGIN_INDEX` entry of the origin has `metering_enabled`. -/
def Metered (app : AppState) (s : State) (origin : String) : Prop :=
  Credits.showsMetered app (.ofOption (s.originIndex origin)) = true

instance (s : State) (origin : String) : Decidable (Metered app s origin) :=
  inferInstanceAs (Decidable (_ = true))

/-- A read of a metered origin's entry shows that it is metered. -/
def ReadsMetered (app : AppState) (s : State) (origin : String) (answer : Option KvRead) : Prop :=
  Metered app s origin →
    Credits.showsMetered app (answer.getD (.ofOption (s.originIndex origin))) = true

instance instDecidableReadsMetered (s : State) (origin : String) (answer : Option KvRead) :
    Decidable (ReadsMetered app s origin answer) :=
  inferInstanceAs (Decidable (_ → _))

/-- The request is a redemption, by either route. -/
def Request.isRedemption : Request → Bool
  | .redeem _ | .hostedRedeem _ => true
  | .create _ | .verify _ => false

/-- The event is the arrival of a redemption under the number. -/
def arrivesRedeeming (i : Nat) : Event (service app) Request → Bool
  | .arrive j req => decide (j = i) && req.isRedemption
  | _ => false

/-- The request with the number is a redemption. -/
def IsRedemption (i : Nat) (tr : List (Event (service app) Request)) : Prop :=
  tr.any (arrivesRedeeming i) = true

instance instDecidableIsRedemption (i : Nat) (tr : List (Event (service app) Request)) :
    Decidable (IsRedemption i tr) :=
  inferInstanceAs (Decidable (_ = true))

theorem isRedemption_of_arrive {i : Nat} {tr : List (Event (service app) Request)} {req : Request}
    (harrive : .arrive i req ∈ tr) (hreq : req.isRedemption = true) : IsRedemption i tr := by
  refine List.any_eq_true.mpr ⟨_, harrive, ?_⟩
  simp [arrivesRedeeming, hreq]

/-- A redemption's read of an entry. -/
def RedeemsMetered (w : World (service app) Request) (i : Nat) (origin : String)
    (answer : Option KvRead) : Prop :=
  IsRedemption i w.trace → ReadsMetered app w.state origin answer

instance instDecidableRedeemsMetered (w : World (service app) Request) (i : Nat)
    (origin : String) (answer : Option KvRead) : Decidable (RedeemsMetered w i origin answer) :=
  @instDecidableForall _ _ (instDecidableIsRedemption i w.trace)
    (instDecidableReadsMetered w.state origin answer)

/-- No read of `ORIGIN_INDEX` by a redemption hides a metered origin. -/
def meteredReads (app : AppState) : Rules (service app) Request :=
  { anyOrder app Request with
    call := fun w i op c =>
      match op, c with
      | .originIndexGet origin, answer => RedeemsMetered w i origin answer
      | op, c => freshIds w.state op c }

instance (app : AppState) : DecidableRules (meteredReads app) :=
  { arrive := fun _ _ _ => .isTrue trivial
    call := fun w i op => by
      apply Op.casesOn (motive := fun op => ∀ c, Decidable ((meteredReads app).call w i op c)) op
      case originIndexGet => exact instDecidableRedeemsMetered w i
      case newUuid => exact instDecidableFreshIds w.state .newUuid
      all_goals intros; exact .isTrue trivial
    env := fun w e => instDecidableDateRange w.state e }

theorem meteredReads_freshIds {w : World (service app) Request} {i : Nat} {op : Op}
    {c : (service app).Choice op} (h : (meteredReads app).call w i op c) :
    freshIds w.state op c := by
  cases op <;> first | exact h | trivial

theorem EnvStep.originIndex {s t : State} (h : EnvStep app s t) :
    t.originIndex = s.originIndex := by
  cases h with
  | credits => rw [deduct_eq]; rfl
  | _ => rfl

/-- No request of the service and no step of the environment writes `ORIGIN_INDEX`. -/
theorem Run.originIndex {R : Rules (service app) Request}
    {p : Pool (service app) Request ApiError Response}
    (hr : Run (handle app) R (· = s₀) p) : State.originIndex p.world.state = s₀.originIndex := by
  refine hr.invariant (I := fun w => State.originIndex w.state = s₀.originIndex)
    (fun req => guarded_trivial [] (handle app req)) ?_ ?_ ?_ ?_
  · rintro s rfl
    rfl
  · intro w i req _ h _
    exact h
  · intro w i op c req _ h _ _ _
    have hstep : OpStep app w.state op (perform app w.state op c).2 := perform_opStep c
    exact hstep.originIndex.trans h
  · intro w e _ h _
    have hstep : EnvStep app w.state (envStep app w.state e) := envStep_envStep e
    exact hstep.originIndex.trans h

/-! ## What a redemption is billed for -/

/-- The request billed the challenge, to the origin of a record of it that it read. -/
def BilledFor (app : AppState) (id : Uuid) (h : History Op Res) : Prop :=
  ∃ c charge, ChallengeStore.Read id c h ∧ charge.origin = c.origin ∧
    charge.verificationId = id.toString ∧ Credits.Billed app charge h

/-- The credit service settled a charge of the request for the challenge: `consume_credits` came to
`Ok` or `Conflict`. -/
def PaidFor (id : Uuid) (h : History Op Res) : Prop :=
  ∃ charge : ConsumeCreditsRequest, charge.verificationId = id.toString ∧ Credits.Paid charge h

theorem BilledFor.mono {id : Uuid} {h h' : History Op Res} (hs : h <:+ h')
    (hb : BilledFor app id h) : BilledFor app id h' := by
  obtain ⟨c, charge, hread, horigin, hid, hbilled⟩ := hb
  exact ⟨c, charge, hread.mono hs, horigin, hid, hbilled.mono hs⟩

theorem Redeem.billedFor {req : RedeemRequest} {c : CachedChallenge} {h : History Op Res}
    (hg : Redeem.Grounds app req c h) (hb : Credits.Billed app (Redeem.charge app req c) h) :
    BilledFor app req.sid h :=
  ⟨c, _, hg.read, rfl, rfl, hb⟩

theorem HostedRedeem.billedFor {req : HostedRedeemRequest} {id : Uuid} {c : CachedChallenge}
    {h : History Op Res} (hg : HostedRedeem.Grounds app req id c h)
    (hb : Credits.Billed app (HostedRedeem.charge app req id c) h) : BilledFor app id h := by
  obtain ⟨first, hread, horigin⟩ := hg.origin
  exact ⟨first, _, hread, horigin.symm, rfl, hb⟩

/-- A write of `Verified` is one of a redemption, which billed it before. -/
theorem Request.Writes.billedFor {req : Request} {h : History Op Res} {id : Uuid}
    {c : CachedChallenge} (hw : req.Writes app h id c) (hverified : c.state = .verified) :
    req.isRedemption = true ∧ BilledFor app id h := by
  cases req with
  | create r =>
    have hw : CreateChallenge.Writes app r h id c := hw
    rw [hw.pending] at hverified
    cases hverified
  | verify r =>
    have hw : Verify.Writes app r h id c := hw
    cases hw with
    | fail hid hgated => cases hverified
    | expire hid hgated => cases hverified
    | accept hid hgated hgrounds htime => cases hverified
  | redeem r =>
    obtain ⟨rfl, d, now, -, -, hgrounds, hbilled⟩ := hw
    exact ⟨rfl, Redeem.billedFor hgrounds hbilled⟩
  | hostedRedeem r =>
    obtain ⟨d, now, -, -, hgrounds, hbilled⟩ := hw
    exact ⟨rfl, HostedRedeem.billedFor hgrounds hbilled⟩

/-- A redemption of the run that billed the challenge. -/
structure BillingOf (i : Nat) (tr : List (Event (service app) Request)) (id : Uuid) : Prop where
  redemption : ∃ req, .arrive i req ∈ tr ∧ req.isRedemption = true
  billed : BilledFor app id (own i tr)

variable {R : Rules (service app) Request} {p : Pool (service app) Request ApiError Response}

/-- A redemption that succeeded billed its challenge. -/
theorem RedeemedBy.billingOf {init : State → Prop} (hr : Run (handle app) R init p) {i : Nat}
    {id : Uuid} (h : RedeemedBy p i id) : BillingOf i p.world.trace id := by
  refine ⟨?_, ?_⟩
  · obtain ⟨req, -, harrive, -, hfor⟩ := h
    refine ⟨req, harrive, ?_⟩
    cases req with
    | create r => exact hfor.elim
    | verify r => exact hfor.elim
    | redeem r => rfl
    | hostedRedeem r => rfl
  · rcases h.cases hr with ⟨req, c, rfl, hgrounds, hbilled⟩ | ⟨req, c, hgrounds, hbilled⟩
    · exact Redeem.billedFor hgrounds hbilled
    · exact HostedRedeem.billedFor hgrounds hbilled

/-! ## Runs -/

/-- A redemption of the run billed the challenge. -/
def BilledBy (tr : List (Event (service app) Request)) (id : Uuid) : Prop :=
  ∃ i, BillingOf i tr id

/-- **A challenge that is stored as `Verified`** was billed. -/
theorem Run.billedBy (hfresh : Fresh s₀) (hr : Run (handle app) R (· = s₀) p) :
    RecordInv (Backed (· = .verified) BilledBy) (BackedUpdate (· = .verified) BilledBy)
      p.world := by
  refine Run.recordInv (guarded_handle app) ?_ hr
  refine recordRule_backed hfresh (by simp) ?_ ?_
  · rintro e tr id ⟨i, ⟨req, harrive, hredeems⟩, hbilled⟩
    exact ⟨i, ⟨req, .tail _ harrive, hredeems⟩, hbilled.mono (own_suffix_cons i e tr)⟩
  · intro w i req id c _ _ harrive hw hverified
    obtain ⟨hredeems, hbilled⟩ := hw.billedFor hverified
    exact ⟨i, ⟨req, harrive, hredeems⟩, hbilled⟩

/-- **What is billed to a metered origin is paid**, when no read of a redemption hides that it is
metered. -/
theorem Run.paidFor (hfresh : Fresh s₀)
    (hr : Run (handle app) (meteredReads app) (· = s₀) p) {id : Uuid} {c₀ : CachedChallenge}
    (horiginal : Original s₀ p.world.trace id c₀) (hmetered : Metered app s₀ c₀.origin) {i : Nat}
    (hbilling : BillingOf i p.world.trace id) : PaidFor id (own i p.world.trace) := by
  have horiginals := Run.originalInv hfresh (fun _ _ _ _ h => meteredReads_freshIds h) hr
  obtain ⟨⟨req, harrive, hredeems⟩, c, charge, hread, horigin, hid, entry, hentry, hpaid⟩ :=
    hbilling
  obtain ⟨c₁, horiginal', hframed⟩ := (Run.framed hfresh hr).read i id c hread.1
  rw [horiginals.unique id c₁ c₀ horiginal' horiginal] at hframed
  rw [hframed.same.origin] at horigin
  refine ⟨charge, hid, hpaid ?_⟩
  -- the read of the entry was permitted in the state it was made in
  obtain ⟨s, answer, hm, hanswer⟩ := mem_own.mp hentry
  obtain ⟨new, old, htrace⟩ := List.append_of_mem hm
  obtain ⟨⟨q, hq, hworld⟩, hR, req', harrive', -⟩ := hr.call_event (guarded_handle app) htrace
  have hindex : s.originIndex = s₀.originIndex := by
    have hconst := Run.originIndex hq
    rw [hworld] at hconst
    exact hconst
  have hsuffix : old <:+ p.world.trace :=
    htrace ▸ (List.suffix_cons _ old).trans (List.suffix_append new _)
  have hredemption : IsRedemption i old := by
    rw [hr.arrive_unique harrive (hsuffix.subset harrive')] at hredeems
    exact isRedemption_of_arrive harrive' hredeems
  have hreads : RedeemsMetered ⟨s, old⟩ i charge.origin answer := hR
  have hshows : Credits.showsMetered app
      (answer.getD (.ofOption (s.originIndex charge.origin))) = true := by
    refine hreads hredemption ?_
    unfold Metered
    rw [hindex, horigin]
    exact hmetered
  rw [← hanswer]
  exact hshows

/-- **Billing comes first.** In every run in which no read of `ORIGIN_INDEX` by a redemption hides a
metered origin, a challenge of a metered origin is stored as `Verified`, and a redemption of it
succeeds, only after `consume_credits` for the challenge came to `Ok` or `Conflict`. -/
theorem billed_first (hfresh : Fresh s₀)
    (hr : Run (handle app) (meteredReads app) (· = s₀) p) {id : Uuid} {c₀ : CachedChallenge}
    (horiginal : Original s₀ p.world.trace id c₀) (hmetered : Metered app s₀ c₀.origin) :
    (∀ c, State.record p.world.state id = some c → c.state = .verified →
      ∃ i, PaidFor id (own i p.world.trace)) ∧
    ∀ i, RedeemedBy p i id → PaidFor id (own i p.world.trace) := by
  refine ⟨?_, ?_⟩
  · intro c hc hverified
    obtain ⟨i, hbilling⟩ := (Run.billedBy hfresh hr).stored id c hc hverified
    exact ⟨i, Run.paidFor hfresh hr horiginal hmetered hbilling⟩
  · intro i hi
    exact Run.paidFor hfresh hr horiginal hmetered (hi.billingOf hr)

/-! ## Samples -/

namespace Sample

/-- The shop's origin is metered. -/
def meteredState : State :=
  { state with
    originIndex := fun origin => if origin = "https://shop.example" then some "metered" else none }

/-- The read of `ORIGIN_INDEX` fails, and the credit service refuses the charge. -/
def indexDown (op : Op) : Choice op :=
  match op with
  | .originIndexGet _ => some .failed
  | .credits _ _ => .refused (.json 402)
  | op => healthy op

/-- The sample record is proven and redeemed by the shop's server while `ORIGIN_INDEX` is down. -/
def unpaidRedemption : List (Act (service .sample) Request) :=
  performs 0 (.verify submission) 9 ++
    .arrive 1 (.redeem redemption) :: List.replicate 9 (.call 1 indexDown)

/-- The event does not settle a charge. -/
def settlesNothing : Event (service .sample) Request → Bool
  | .call _ s (.credits binding req) c =>
    match (perform .sample s (.credits binding req) c).1 with
    | some reply => decide (¬ Credits.Settled (Credits.parseConsumeResponse reply))
    | none => true
  | _ => true

theorem not_paidFor {tr : List (Event (service .sample) Request)} {i : Nat} {id : Uuid}
    (h : tr.all settlesNothing = true) : ¬ PaidFor id (own i tr) := by
  rintro ⟨charge, -, binding, reply, hm, hsettled⟩
  obtain ⟨s, c, hm, hanswer⟩ := mem_own.mp hm
  have hevent := List.all_eq_true.mp h _ hm
  have hanswer : (perform .sample s (.credits binding charge) c).1 = some reply := hanswer
  simp only [settlesNothing, hanswer, decide_eq_true_eq] at hevent
  exact hevent hsettled

theorem fresh_meteredState : Fresh meteredState :=
  ⟨fresh_state.date, fresh_state.inflight, fresh_state.pending, fresh_state.drawn⟩

end Sample

/-- The sample record, redeemed by the shop's server at a metered origin. -/
theorem billed_first_redemption :
    ∃ p, Run (handle .sample) (meteredReads .sample) (· = Sample.meteredState) p ∧
      (∃ c, State.record p.world.state CachedChallenge.sample.id = some c ∧
        c.state = .verified) ∧
      ∃ i, PaidFor CachedChallenge.sample.id (own i p.world.trace) := by
  have hrun : ∃ p : Pool (service .sample) Request ApiError Response,
      Run (handle .sample) (meteredReads .sample) (· = Sample.meteredState) p ∧
        (State.record p.world.state CachedChallenge.sample.id).map (·.state) = some .verified :=
    Run.of_replay Sample.meteredState
      (Sample.performs 0 (.verify Sample.submission) 9 ++
        Sample.performs 1 (.redeem Sample.redemption) 9) rfl (by decide +kernel)
  obtain ⟨p, hr, hstate⟩ := hrun
  obtain ⟨c, hc, hstate⟩ := Option.map_eq_some_iff.mp hstate
  have hmetered : Metered .sample Sample.meteredState CachedChallenge.sample.origin := by
    decide +kernel
  have horiginal : Original Sample.meteredState p.world.trace CachedChallenge.sample.id
      CachedChallenge.sample := by
    refine .inl ?_
    simp [State.record, Sample.meteredState, Sample.state]
  exact ⟨p, hr, ⟨c, hc, hstate⟩,
    (billed_first Sample.fresh_meteredState hr horiginal hmetered).1 c hc hstate⟩

/-- The read of `ORIGIN_INDEX` fails: the sample challenge of a metered origin is stored as
`Verified` and the redemption succeeds, though no charge was ever settled. -/
theorem unpaid_verdict :
    ∃ p, Run (handle .sample) (anyOrder .sample Request) (· = Sample.meteredState) p ∧
      Metered .sample Sample.meteredState CachedChallenge.sample.origin ∧
      (State.record p.world.state CachedChallenge.sample.id).map (·.state) = some .verified ∧
      p.outcome 1 = some (.ok (.redeemed (.fresh ⟨"OK", true⟩))) ∧
      ∀ i, ¬ PaidFor CachedChallenge.sample.id (own i p.world.trace) := by
  have hrun : ∃ p : Pool (service .sample) Request ApiError Response,
      Run (handle .sample) (anyOrder .sample Request) (· = Sample.meteredState) p ∧
        (State.record p.world.state CachedChallenge.sample.id).map (·.state) = some .verified ∧
        p.outcome 1 = some (.ok (.redeemed (.fresh ⟨"OK", true⟩))) ∧
        p.world.trace.all Sample.settlesNothing = true :=
    Run.of_replay Sample.meteredState Sample.unpaidRedemption rfl
      (by decide +kernel)
  obtain ⟨p, hr, hstate, hout, hnone⟩ := hrun
  exact ⟨p, hr, by decide +kernel, hstate, hout, fun i => Sample.not_paidFor hnone⟩

end ProviiVerifier

/-
  When things happen in a run: the times of its operations, the senders of the messages in flight,
  and the request to an object that a step serves.

  Proved:
    `Run.timeline`: operations happen in the order of the clock, and a message in flight was sent
      by a request of the run.
    `Next.serves`: a step that changes the record of a challenge serves a request at its object.
-/
import ProviiVerifier.ChallengeRecords
import ProviiVerifier.NonceRetention

namespace ProviiVerifier

open Interleaving Prog

variable {app : AppState} {Req α : Type}

/-- Request `i` sent the request to the object of the challenge at time `T`. -/
def SentAt (tr : List (Event (service app) Req)) (i : Nat) (id : Uuid)
    (req : ChallengeDO.Request) (T : Nat) : Prop :=
  ∃ s c, .call i s (.challengeDO id req) c ∈ tr ∧ State.clock s = T

/-- What holds of times and senders in every world of a run that started at `T₀`. -/
structure Timeline (T₀ : Nat) (w : World (service app) Req) : Prop where
  start : T₀ ≤ State.clock w.state
  events : ∀ i s op c, .call i s op c ∈ w.trace →
    T₀ ≤ State.clock s ∧ State.clock s ≤ State.clock w.state
  senders : ∀ id req, .challenge id req ∈ State.inflight w.state →
    ∃ i T, SentAt w.trace i id req T

theorem SentAt.cons {tr : List (Event (service app) Req)} {i : Nat} {id : Uuid}
    {req : ChallengeDO.Request} {T : Nat} (h : SentAt tr i id req T)
    (e : Event (service app) Req) : SentAt (e :: tr) i id req T := by
  obtain ⟨s, c, hm, hT⟩ := h
  exact ⟨s, c, List.mem_cons_of_mem _ hm, hT⟩

theorem sentAt_call {w : World (service app) Req} {i : Nat} {id : Uuid}
    {req : ChallengeDO.Request} {c : (service app).Choice (.challengeDO id req)} :
    SentAt (w.after i (.challengeDO id req) c).trace i id req (State.clock w.state) :=
  ⟨w.state, c, List.mem_cons_self, rfl⟩

theorem Timeline.le {T₀ : Nat} {w : World (service app) Req} (h : Timeline T₀ w) {i : Nat}
    {id : Uuid} {req : ChallengeDO.Request} {T : Nat} (hs : SentAt w.trace i id req T) :
    T ≤ State.clock w.state := by
  obtain ⟨s, c, hm, rfl⟩ := hs
  exact (h.events i s _ c hm).2

variable {handler : Req → Handler α} {R : Rules (service app) Req} {init : State → Prop}
  {p q : Pool (service app) Req ApiError α}

/-- **The timeline of a run.** -/
theorem Run.timeline {T₀ : Nat} (hinit : ∀ s, init s → T₀ ≤ s.clock ∧ s.inflight = [])
    (hr : Run handler R init p) : Timeline T₀ p.world := by
  refine hr.invariant (fun req => guarded_trivial [] (handler req)) ?_ ?_ ?_ ?_
  · intro s hs
    obtain ⟨hstart, hinflight⟩ := hinit s hs
    refine ⟨hstart, ?_, ?_⟩
    · intro i s' op c hm
      exact absurd hm List.not_mem_nil
    · intro id req hm
      have hm : .challenge id req ∈ s.inflight := hm
      rw [hinflight] at hm
      exact absurd hm List.not_mem_nil
  · intro w i req _ h _
    refine ⟨h.start, ?_, ?_⟩
    · intro j s op c hm
      exact h.events j s op c (by simpa using hm)
    · intro id r hm
      obtain ⟨j, T, hs⟩ := h.senders id r hm
      exact ⟨j, T, hs.cons _⟩
  · intro w i op c req _ h _ _ _
    have hstep : OpStep app w.state op (perform app w.state op c).2 := perform_opStep c
    have hclock : State.clock (w.after i op c).state = State.clock w.state := hstep.clock
    refine ⟨hclock ▸ h.start, ?_, ?_⟩
    · intro j s op' c' hm
      rw [hclock]
      rcases List.mem_cons.mp hm with heq | hm
      · injection heq with _ hs
        rw [hs]
        exact ⟨h.start, Nat.le_refl _⟩
      · exact h.events j s op' c' hm
    · intro id r hm
      rcases hstep.inflight hm with hm | hmsg
      · obtain ⟨j, T, hs⟩ := h.senders id r hm
        exact ⟨j, T, hs.cons _⟩
      · have hop : op = .challengeDO id r := by
          cases op <;> simp only [Op.message, Option.some.injEq, reduceCtorEq] at hmsg
          cases hmsg
          rfl
        subst hop
        exact ⟨i, _, sentAt_call⟩
  · intro w e _ h _
    have hstep : EnvStep app w.state (envStep app w.state e) := envStep_envStep e
    have hclock : State.clock w.state ≤ State.clock (w.moved e).state := hstep.clock_le
    refine ⟨Nat.le_trans h.start hclock, ?_, ?_⟩
    · intro j s op c hm
      obtain ⟨hle, hle'⟩ := h.events j s op c hm
      exact ⟨hle, Nat.le_trans hle' hclock⟩
    · intro id r hm
      exact h.senders id r (hstep.inflight hm)

/-! ## What a step serves -/

/-- The step from `w` serves a request at the object of the challenge: one that a request makes
now, or one in flight. -/
inductive Serves (w : World (service app) Req) (id : Uuid) (f : ChallengeDO.Faults)
    (req : ChallengeDO.Request) : World (service app) Req → Prop
  | call {i : Nat} {answered : Bool} :
      Serves w id f req (w.after i (.challengeDO id req) (.served f answered))
  | deliver {k : Nat} {g : NonceDO.Faults} {h : IdempotencyDO.Faults}
      (hm : (State.inflight w.state)[k]? = some (.challenge id req)) :
      Serves w id f req (w.moved (.deliver k f g h))

/-- What is served was sent. -/
theorem Serves.sentAt {T₀ : Nat} {w w' : World (service app) Req} {id : Uuid}
    {f : ChallengeDO.Faults} {req : ChallengeDO.Request} (h : Serves w id f req w')
    (ht : Timeline T₀ w) : ∃ i T, SentAt w'.trace i id req T ∧ T ≤ State.clock w.state := by
  cases h with
  | @call i answered => exact ⟨i, _, sentAt_call, Nat.le_refl _⟩
  | deliver hm =>
    obtain ⟨i, T, hs⟩ := ht.senders id req (List.mem_of_getElem? hm)
    exact ⟨i, T, hs, ht.le hs⟩

/-- **A request that is served** changes the record as the object says. -/
theorem Serves.recordStep {w w' : World (service app) Req} {id : Uuid} {f : ChallengeDO.Faults}
    {req : ChallengeDO.Request} (h : Serves w id f req w') :
    ChallengeDO.RecordStep (State.clock w.state) f req id.toString (State.record w.state id)
      (State.record w'.state id) := by
  cases h with
  | call => exact serveChallenge_recordStep _ _ _ _
  | @deliver k g h hm =>
    have hstate : (w.moved (.deliver k f g h)).state =
        ((State.received w.state k).serveChallenge f id req).2 := envStep_deliver hm
    rw [hstate]
    exact serveChallenge_recordStep (State.received w.state k) _ _ _

/-- **A step that changes a record serves a request at its object.** -/
theorem Next.serves (h : Next handler R p q) {id : Uuid}
    (hne : State.record q.world.state id ≠ State.record p.world.state id) :
    ∃ f req, Serves p.world id f req q.world := by
  cases h with
  | arrive => exact absurd rfl hne
  | @call i op k c =>
    by_cases hop : ∃ id' r, op = .challengeDO id' r
    · obtain ⟨id', r, rfl⟩ := hop
      by_cases hid : id = id'
      · subst hid
        cases c with
        | lost => exact absurd rfl hne
        | late => exact absurd rfl hne
        | served f answered => exact ⟨f, r, .call⟩
      · cases c with
        | lost => exact absurd rfl hne
        | late => exact absurd rfl hne
        | served f answered =>
          exact absurd (serveChallenge_record_ne (s := p.world.state) hid) hne
    · have hstep : OpStep app p.world.state op (perform app p.world.state op c).2 :=
        perform_opStep c
      exact absurd (record_congr (hstep.challenges fun id r heq => hop ⟨id, r, heq⟩) id) hne
  | @env e =>
    cases e with
    | tick seconds => exact absurd rfl hne
    | nonceAlarm shard => exact absurd rfl hne
    | deliver k f g h =>
      cases hm : (State.inflight p.world.state)[k]? with
      | none =>
        have hstate : (p.world.moved (.deliver k f g h)).state = p.world.state :=
          envStep_deliver_none hm
        exact absurd (by rw [hstate]) hne
      | some m =>
        have hstate : (p.world.moved (.deliver k f g h)).state =
            State.deliver app (State.received p.world.state k) f g h m := envStep_deliver hm
        cases m with
        | challenge id' r =>
          by_cases hid : id = id'
          · subst hid
            exact ⟨f, r, .deliver hm⟩
          · refine absurd ?_ hne
            rw [hstate]
            exact serveChallenge_record_ne (s := State.received p.world.state k) hid
        | credits req =>
          refine absurd ?_ hne
          rw [hstate]
          exact record_congr (by simp only [State.deliver]; rw [deduct_eq]; rfl) id
        | nonce tag body => exact absurd (by rw [hstate]; rfl) hne
        | idempotency shard path method => exact absurd (by rw [hstate]; rfl) hne

/-! ## Changes -/

/-- A change of a record by a request of the run: who made it, when, and what it was. -/
structure Change where
  who : Nat
  time : Nat
  before : Option CachedChallenge
  after : Option CachedChallenge

/-- The change an event makes to the record of a challenge. -/
def Event.change (id : Uuid) : Event (service app) Req → Option Change
  | .arrive _ _ => none
  | .call i s op c =>
    let before := State.record s id
    let after := State.record (perform app s op c).2 id
    if before = after then none else some ⟨i, State.clock s, before, after⟩

/-- The changes that requests made to the record of a challenge, newest first. -/
def changes (id : Uuid) (tr : List (Event (service app) Req)) : List Change :=
  tr.filterMap (Event.change id)

end ProviiVerifier

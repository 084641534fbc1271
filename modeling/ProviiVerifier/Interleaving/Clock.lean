import ProviiVerifier.Interleaving.Pool

/-
  The clock of a machine, and the order of the operations of a run.

  Proved: where no step turns the clock back, operations that come earlier in the trace ran no later
  (`Run.timed`), what an operation brought about holds until a later one breaks it (`Run.since`),
  and what one request did before another (`DoneBefore`) is in the past of the other
  (`DoneBefore.past`).
-/

namespace Interleaving

variable {Op : Type} {Res : Op → Type} {ε α Req : Type} {M : Machine Op Res}

/-- No step turns the clock back. -/
structure Forward (M : Machine Op Res) (clock : M.State → Nat) : Prop where
  perform : ∀ s op c, clock s ≤ clock (M.perform s op c).2
  env : ∀ s e, clock s ≤ clock (M.envStep s e)

/-- The operations of a world ran by now, each no earlier than those before it. -/
structure Timed (clock : M.State → Nat) (w : World M Req) : Prop where
  past : ∀ i s op c, .call i s op c ∈ w.trace → clock s ≤ clock w.state
  ordered : ∀ new old i s op c, w.trace = new ++ .call i s op c :: old →
    ∀ j s' op' c', .call j s' op' c' ∈ old → clock s' ≤ clock s

/-- The newest operation of a request ran in this state. -/
def LastRan (tr : List (Event M Req)) (i : Nat) (s : M.State) : Prop :=
  ∃ new old op c, tr = new ++ .call i s op c :: old ∧ own i new = []

variable {handler : Req → Prog Op Res ε α} {R : Rules M Req} {init : M.State → Prop}
  {p : Pool M Req ε α} {clock : M.State → Nat}

/-- **The operations of a run** happen in the order of the clock. -/
theorem Run.timed (hf : Forward M clock) (hr : Run handler R init p) : Timed clock p.world := by
  induction hr with
  | start hs =>
    refine ⟨fun i s op c hm => ?_, fun new old i s op c ht => ?_⟩
    · exact absurd hm List.not_mem_nil
    · have hnil : [] = new ++ .call i s op c :: old := ht
      exact absurd hnil.symm (List.append_ne_nil_of_right_ne_nil new (List.cons_ne_nil _ _))
  | @arrive p j req _ _ _ ih =>
    refine ⟨fun i s op c hm => ?_, fun new old i s op c ht => ?_⟩
    · rcases List.mem_cons.mp hm with heq | hm
      · cases heq
      · exact ih.past i s op c hm
    · cases new with
      | nil =>
        injection ht with heq
        cases heq
      | cons e new =>
        injection ht with _ ht
        exact ih.ordered new old i s op c ht
  | @call p j op' k c' _ _ _ ih =>
    have hle : clock p.world.state ≤ clock (M.perform p.world.state op' c').2 :=
      hf.perform p.world.state op' c'
    refine ⟨fun i s op c hm => ?_, fun new old i s op c ht => ?_⟩
    · rcases List.mem_cons.mp hm with heq | hm
      · injection heq with _ hs
        rw [hs]
        exact hle
      · exact Nat.le_trans (ih.past i s op c hm) hle
    · cases new with
      | nil =>
        injection ht with heq ht
        injection heq with _ hs
        intro l s' op₁ c₁ hm
        rw [← ht] at hm
        rw [← hs]
        exact ih.past l s' op₁ c₁ hm
      | cons e new =>
        injection ht with _ ht
        exact ih.ordered new old i s op c ht
  | @env p e _ _ ih =>
    refine ⟨fun i s op c hm => ?_, ih.ordered⟩
    exact Nat.le_trans (ih.past i s op c hm) (hf.env p.world.state e)

/-- The newest entry of a request's own history is its newest operation. -/
theorem lastRan_of_own {i : Nat} {tr : List (Event M Req)} {x : Sigma Res}
    {past : History Op Res} (h : own i tr = x :: past) :
    ∃ new s op c old, tr = new ++ .call i s op c :: old ∧ x = ⟨op, (M.perform s op c).1⟩ ∧
      own i old = past ∧ LastRan tr i s := by
  have hsuf : x :: past <:+ own i tr := ⟨[], h.symm⟩
  obtain ⟨new, s, op, c, old, ht, hx, hold⟩ := own_suffix hsuf
  have hnew : own i new = [] := by
    have hlen := congrArg List.length h
    rw [ht, own, List.filterMap_append, List.length_append] at hlen
    have hcons : (own i (.call i s op c :: old)).length = past.length + 1 := by
      rw [own_call_self, List.length_cons, hold]
    have hlen : (own i new).length + (own i (.call i s op c :: old)).length = past.length + 1 :=
      hlen
    exact List.length_eq_zero_iff.mp (by omega)
  exact ⟨new, s, op, c, old, ht, hx, hold, new, old, op, c, ht, hnew⟩

/-- **What an operation brought about** holds until a later operation breaks it. -/
theorem Run.since {P : M.State → Prop} (henv : ∀ s e, P s → P (M.envStep s e))
    (hr : Run handler R init p) {new old : List (Event M Req)} {i : Nat} {s : M.State} {op : Op}
    {c : M.Choice op} (ht : p.world.trace = new ++ .call i s op c :: old)
    (hP : P (M.perform s op c).2) :
    P p.world.state ∨ ∃ newer older j s' op' c', new = newer ++ .call j s' op' c' :: older ∧
      P s' ∧ ¬ P (M.perform s' op' c').2 := by
  induction hr generalizing new with
  | start hs => simp [Pool.start] at ht
  | arrive _ _ _ ih =>
    cases new with
    | nil => simp at ht
    | cons e new =>
      simp only [Pool.put_world, World.arrived_trace, List.cons_append, List.cons.injEq] at ht
      rcases ih ht.2 with hnow | ⟨newer, older, j, s', op', c', rfl, hbroken⟩
      · exact .inl hnow
      · exact .inr ⟨e :: newer, older, j, s', op', c', rfl, hbroken⟩
  | @call q j op' k c' _ _ _ ih =>
    cases new with
    | nil =>
      simp only [Pool.put_world, World.after_trace, List.nil_append, List.cons.injEq,
        Event.call.injEq] at ht
      obtain ⟨⟨rfl, rfl, rfl, hc⟩, rfl⟩ := ht
      cases hc
      exact .inl hP
    | cons e new =>
      simp only [Pool.put_world, World.after_trace, List.cons_append, List.cons.injEq] at ht
      obtain ⟨rfl, ht⟩ := ht
      rcases ih ht with hnow | ⟨newer, older, l, s', op₁, c₁, rfl, hbroken⟩
      · by_cases hstill : P (M.perform q.world.state op' c').2
        · exact .inl hstill
        · exact .inr ⟨[], new, j, q.world.state, op', c', rfl, hnow, hstill⟩
      · exact .inr ⟨_ :: newer, older, l, s', op₁, c₁, rfl, hbroken⟩
  | @env q e _ _ ih =>
    rcases ih ht with hnow | hlater
    · exact .inl (henv q.world.state e hnow)
    · exact .inr hlater

/-! ## The order of two requests -/

/-- At some time all but the last `k` operations of request `i` were done, and the operation of
request `j` with `k` operations after it was still to come. -/
def DoneBefore (k : Nat) (tr : List (Event M Req)) (i j : Nat) : Prop :=
  ∃ old, old <:+ tr ∧ (own i tr).drop k <:+ own i old ∧ own j old <:+ (own j tr).drop (k + 1)

theorem own_mono {i : Nat} {old tr : List (Event M Req)} (h : old <:+ tr) :
    own i old <:+ own i tr := by
  obtain ⟨new, rfl⟩ := h
  exact ⟨own i new, (List.filterMap_append ..).symm⟩

/-- The order, from the numbers of operations that the two have done at some time. -/
theorem doneBefore_of_drop {k i j : Nat} {tr : List (Event M Req)} (n : Nat)
    (hi : (own i tr).length ≤ (own i (tr.drop n)).length + k)
    (hj : (own j (tr.drop n)).length + k + 1 ≤ (own j tr).length) : DoneBefore k tr i j := by
  have hs : tr.drop n <:+ tr := List.drop_suffix n tr
  have hdrop := List.suffix_iff_eq_drop.mp (own_mono (i := i) hs)
  have hdrop' := List.suffix_iff_eq_drop.mp (own_mono (i := j) hs)
  refine ⟨tr.drop n, hs, ?_, ?_⟩
  · rw [hdrop]
    exact List.drop_suffix_drop_left _ (by omega)
  · rw [hdrop']
    exact List.drop_suffix_drop_left _ (by omega)

/-- **What was done before** an operation is in its past. -/
theorem DoneBefore.past {k i j : Nat} {tr : List (Event M Req)} (h : DoneBefore k tr i j)
    {y : Sigma Res} {past : History Op Res} (hy : (own j tr).drop k = y :: past) :
    ∃ new s op c old, tr = new ++ .call j s op c :: old ∧ y = ⟨op, (M.perform s op c).1⟩ ∧
      own j old = past ∧ (own i tr).drop k <:+ own i old := by
  obtain ⟨done, hs, hi, hj⟩ := h
  have hpast : (own j tr).drop (k + 1) = past := by
    rw [← List.drop_drop, hy]
    rfl
  have hsuf : y :: past <:+ own j tr := hy ▸ List.drop_suffix k _
  obtain ⟨new, s, op, c, old, htr, hop, hold⟩ := own_suffix hsuf
  refine ⟨new, s, op, c, old, htr, hop, hold, ?_⟩
  -- the operation is not among what was done by then
  have hnot : ¬ .call j s op c :: old <:+ done := by
    intro hlater
    have hown := own_mono (i := j) hlater
    rw [own_call_self, hold] at hown
    have hlen := (hown.trans (hpast ▸ hj)).length_le
    rw [List.length_cons] at hlen
    omega
  have hcall : .call j s op c :: old <:+ tr := ⟨new, htr.symm⟩
  rcases List.suffix_or_suffix_of_suffix hcall hs with hlater | hearlier
  · exact absurd hlater hnot
  · rcases List.suffix_cons_iff.mp hearlier with heq | hdone
    · exact absurd ⟨[], heq.symm⟩ hnot
    · exact hi.trans (own_mono hdone)

/-- **Operations in order ran in order**: with the same number of operations after them, the one
that was done before ran no later. -/
theorem DoneBefore.clock_le (hf : Forward M clock) (hr : Run handler R init p) {k i j : Nat}
    (h : DoneBefore k p.world.trace i j) {x y : Sigma Res} {past past' : History Op Res}
    (hx : (own i p.world.trace).drop k = x :: past)
    (hy : (own j p.world.trace).drop k = y :: past') :
    ∃ s op c s' op' c', x = ⟨op, (M.perform s op c).1⟩ ∧ y = ⟨op', (M.perform s' op' c').1⟩ ∧
      clock s ≤ clock s' := by
  obtain ⟨new, s', op', c', old, htr, hop', -, hdone⟩ := h.past hy
  rw [hx] at hdone
  obtain ⟨op, r⟩ := x
  obtain ⟨s, c, hm, hres⟩ := mem_own.mp (hdone.subset List.mem_cons_self)
  refine ⟨s, op, c, s', op', c', ?_, hop', ?_⟩
  · rw [hres]
  · exact (hr.timed hf).ordered new old j s' op' c' htr i s op c hm

end Interleaving

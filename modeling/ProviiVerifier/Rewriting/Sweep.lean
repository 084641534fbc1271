/-
  A pass over the keys of a store that rewrites values one by one, may stop at a value it cannot
  read, and may be interrupted and repeated.

  Over any keys and values. What a pass does to a value is a `Visit`. The store is a partial
  function, and an interrupted pass is a pass over fewer keys.

  Proved: what a pass leaves of a relation its writes keep (`attempts_rel`), that a pass without an
  error leaves every key it was given done (`run_done`), so that all keys are done exactly when
  those it was not given were (`done_iff_left_out`), and that passes over done values change nothing
  (`attempts_settled`).
-/
import Mathlib.Data.Option.Basic
import Mathlib.Logic.Function.Basic

namespace Sweep

variable {K V P : Type} [DecidableEq K]

abbrev Store (K V : Type) := K → Option V

/-- What a pass does at a value: stop, leave it, or write another; with the errors it counts. -/
inductive Visit (V : Type)
  | abort
  | keep (errors : Nat)
  | write (value : V) (errors : Nat)

/-- A pass over keys: the store it leaves, and its errors unless it stopped. A key that has no
value is passed over. -/
def run (visit : K → V → Visit V) : Store K V → List K → Store K V × Option Nat
  | s, [] => (s, some 0)
  | s, k :: ks =>
    match s k with
    | none => run visit s ks
    | some v =>
      match visit k v with
      | .abort => (s, none)
      | .keep errors => ((run visit s ks).1, (run visit s ks).2.map (errors + ·))
      | .write v' errors =>
        let t := Function.update s k (some v')
        ((run visit t ks).1, (run visit t ks).2.map (errors + ·))

/-- The values of two stores are related key by key. -/
def Related (R : V → V → Prop) (s₀ s : Store K V) : Prop := ∀ k, Option.Rel R (s₀ k) (s k)

variable {visit : K → V → Visit V} {R : V → V → Prop} {s s₀ : Store K V} {k : K} {v v' : V}
  {ks : List K} {errors : Nat}

/-! ## One pass -/

/-- A value that is replaced. -/
theorem run_write (hv : s k = some v) (hvisit : visit k v = .write v' errors) :
    run visit s (k :: ks) = ((run visit (Function.update s k (some v')) ks).1,
      (run visit (Function.update s k (some v')) ks).2.map (errors + ·)) := by
  simp only [run, hv, hvisit]

/-- The three ways a pass goes on at its first key. -/
theorem run_cons (visit : K → V → Visit V) (s : Store K V) (k : K) (ks : List K) :
    (s k = none ∧ run visit s (k :: ks) = run visit s ks) ∨
    (∃ v, s k = some v ∧ visit k v = .abort ∧ run visit s (k :: ks) = (s, none)) ∨
    (∃ v errors, s k = some v ∧ visit k v = .keep errors ∧ run visit s (k :: ks) =
      ((run visit s ks).1, (run visit s ks).2.map (errors + ·))) ∨
    ∃ v v' errors, s k = some v ∧ visit k v = .write v' errors ∧ run visit s (k :: ks) =
      ((run visit (Function.update s k (some v')) ks).1,
        (run visit (Function.update s k (some v')) ks).2.map (errors + ·)) := by
  cases hv : s k with
  | none => exact .inl ⟨rfl, by simp only [run, hv]⟩
  | some v =>
    cases hvisit : visit k v with
    | abort =>
      refine .inr (.inl ⟨v, rfl, hvisit, ?_⟩)
      simp only [run, hv, hvisit]
    | keep errors =>
      refine .inr (.inr (.inl ⟨v, errors, rfl, hvisit, ?_⟩))
      simp only [run, hv, hvisit]
    | write v' errors =>
      exact .inr (.inr (.inr ⟨v, v', errors, rfl, hvisit, run_write hv hvisit⟩))

/-- A key that is not given keeps its value. -/
theorem run_of_not_mem (h : k ∉ ks) : (run visit s ks).1 k = s k := by
  induction ks generalizing s with
  | nil => rfl
  | cons l ks ih =>
    obtain ⟨hne, hks⟩ := List.ne_and_not_mem_of_not_mem_cons h
    obtain ⟨-, hrun⟩ | ⟨v, -, -, hrun⟩ | ⟨v, e, -, -, hrun⟩ | ⟨v, v', e, -, -, hrun⟩ :=
      run_cons visit s l ks
    · rw [hrun, ih hks]
    · rw [hrun]
    · rw [hrun]
      exact ih hks
    · rw [hrun]
      exact (ih hks).trans (Function.update_of_ne hne _ _)

omit [DecidableEq K] in
theorem related_refl (hrefl : ∀ v, R v v) (s : Store K V) : Related R s s := by
  intro k
  cases s k with
  | none => exact .none
  | some v => exact .some (hrefl v)

omit [DecidableEq K] in
theorem related_trans (htrans : ∀ a b c, R a b → R b c → R a c) {t : Store K V}
    (h₁ : Related R s₀ s) (h₂ : Related R s t) : Related R s₀ t := by
  intro k
  have h₁ := h₁ k
  have h₂ := h₂ k
  generalize s₀ k = x, s k = y, t k = z at h₁ h₂
  cases h₁ with
  | none =>
    cases h₂
    exact .none
  | some hab =>
    cases h₂ with
    | some hbc => exact .some (htrans _ _ _ hab hbc)

/-- **A pass keeps a relation** that each of its writes keeps. -/
theorem run_rel (hrefl : ∀ v, R v v) (htrans : ∀ a b c, R a b → R b c → R a c)
    (hwrite : ∀ k v v' errors, visit k v = .write v' errors → R v v') :
    Related R s (run visit s ks).1 := by
  induction ks generalizing s with
  | nil => exact related_refl hrefl s
  | cons l ks ih =>
    obtain ⟨-, hrun⟩ | ⟨v, -, -, hrun⟩ | ⟨v, e, -, -, hrun⟩ | ⟨v, v', e, hv, hvisit, hrun⟩ :=
      run_cons visit s l ks
    · rw [hrun]
      exact ih
    · rw [hrun]
      exact related_refl hrefl s
    · rw [hrun]
      exact ih
    · rw [hrun]
      have hupdate : Related R s (Function.update s l (some v')) := by
        intro k
        by_cases hk : k = l
        · subst hk
          rw [Function.update_self, hv]
          exact .some (hwrite _ v v' e hvisit)
        · rw [Function.update_of_ne hk]
          exact related_refl hrefl s k
      exact related_trans htrans hupdate ih

theorem map_add_eq_zero {e : Nat} {o : Option Nat} (h : o.map (e + ·) = some 0) :
    e = 0 ∧ o = some 0 := by
  obtain ⟨n, hn, hsum⟩ := Option.map_eq_some_iff.mp h
  have hzero : e = 0 ∧ n = 0 := by omega
  rw [hn, hzero.2]
  exact ⟨hzero.1, rfl⟩

/-- **A pass without an error** leaves what it was given done, where leaving a value without an
error means that it is done, and writing one makes it so. -/
theorem run_done {Done : V → Prop} (hkeep : ∀ k v, visit k v = .keep 0 → Done v)
    (hwrite : ∀ k v v', visit k v = .write v' 0 → Done v') (h : (run visit s ks).2 = some 0)
    (hk : k ∈ ks) (hv : (run visit s ks).1 k = some v) : Done v := by
  induction ks generalizing s with
  | nil => cases hk
  | cons l ks ih =>
    -- a key that comes again is done by its last visit
    by_cases hmem : k ∈ ks
    · obtain ⟨-, hrun⟩ | ⟨v, -, -, hrun⟩ | ⟨v, e, -, -, hrun⟩ | ⟨v, v', e, -, -, hrun⟩ :=
        run_cons visit s l ks
      · rw [hrun] at h hv
        exact ih h hmem hv
      · rw [hrun] at h
        cases h
      · rw [hrun] at h hv
        exact ih (map_add_eq_zero h).2 hmem hv
      · rw [hrun] at h hv
        exact ih (map_add_eq_zero h).2 hmem hv
    · have hkl : k = l := (List.mem_cons.mp hk).resolve_right hmem
      subst hkl
      obtain ⟨hnone, hrun⟩ | ⟨w, -, -, hrun⟩ | ⟨w, e, hw, hvisit, hrun⟩ |
        ⟨w, w', e, -, hvisit, hrun⟩ := run_cons visit s k ks
      · rw [hrun, run_of_not_mem hmem, hnone] at hv
        cases hv
      · rw [hrun] at h
        cases h
      · rw [hrun] at h hv
        have hv : (run visit s ks).1 k = some v := hv
        rw [run_of_not_mem hmem, hw, Option.some.injEq] at hv
        rw [(map_add_eq_zero h).1] at hvisit
        rw [← hv]
        exact hkeep k w hvisit
      · rw [hrun] at h hv
        have hv : (run visit (Function.update s k (some w')) ks).1 k = some v := hv
        rw [run_of_not_mem hmem, Function.update_self, Option.some.injEq] at hv
        rw [(map_add_eq_zero h).1] at hvisit
        rw [← hv]
        exact hwrite k w w' hvisit

/-- **All keys are done** after a pass without an error exactly when those that were not given
were. -/
theorem done_iff_left_out {Done : V → Prop} {Selected : K → Prop}
    (hkeep : ∀ k v, visit k v = .keep 0 → Done v)
    (hwrite : ∀ k v v', visit k v = .write v' 0 → Done v') (h : (run visit s ks).2 = some 0) :
    (∀ k v, Selected k → (run visit s ks).1 k = some v → Done v) ↔
      ∀ k v, Selected k → k ∉ ks → s k = some v → Done v := by
  constructor
  · intro hall k v hsel hk hv
    apply hall k v hsel
    rw [run_of_not_mem hk]
    exact hv
  · intro hleft k v hsel hv
    by_cases hk : k ∈ ks
    · exact run_done hkeep hwrite h hk hv
    · rw [run_of_not_mem hk] at hv
      exact hleft k v hsel hk hv

/-- A pass over values that it does not write changes nothing. -/
theorem run_settled (h : ∀ k v v' errors, k ∈ ks → s k = some v → visit k v ≠ .write v' errors) :
    (run visit s ks).1 = s := by
  induction ks with
  | nil => rfl
  | cons l ks ih =>
    have htail : ∀ k v v' errors, k ∈ ks → s k = some v → visit k v ≠ .write v' errors := by
      intro k v v' errors hk
      exact h k v v' errors (List.mem_cons_of_mem _ hk)
    obtain ⟨-, hrun⟩ | ⟨v, -, -, hrun⟩ | ⟨v, e, -, -, hrun⟩ | ⟨v, v', e, hv, hvisit, -⟩ :=
      run_cons visit s l ks
    · rw [hrun]
      exact ih htail
    · rw [hrun]
    · rw [hrun]
      exact ih htail
    · exact absurd hvisit (h l v v' e List.mem_cons_self hv)

/-! ## Repeated passes -/

/-- A pass, or the part of one before it was interrupted. -/
structure Attempt (P K : Type) where
  param : P
  keys : List K

variable {visits : P → K → V → Visit V}

/-- The store after some attempts. -/
def attempts (visits : P → K → V → Visit V) (s : Store K V) : List (Attempt P K) → Store K V
  | [] => s
  | a :: rest => attempts visits (run (visits a.param) s a.keys).1 rest

/-- **At every moment** of interrupted and repeated passes the relation holds. -/
theorem attempts_rel (hrefl : ∀ v, R v v) (htrans : ∀ a b c, R a b → R b c → R a c)
    (hwrite : ∀ p k v v' errors, visits p k v = .write v' errors → R v v')
    (tries : List (Attempt P K)) : Related R s (attempts visits s tries) := by
  induction tries generalizing s with
  | nil => exact related_refl hrefl s
  | cons a rest ih =>
    have hrun : Related R s (run (visits a.param) s a.keys).1 :=
      run_rel hrefl htrans (hwrite a.param)
    exact related_trans htrans hrun ih

/-- A key that no attempt is given keeps its value. -/
theorem attempts_of_not_mem (tries : List (Attempt P K)) (h : ∀ a ∈ tries, k ∉ a.keys) :
    attempts visits s tries k = s k := by
  induction tries generalizing s with
  | nil => rfl
  | cons a rest ih =>
    have hrest : ∀ b ∈ rest, k ∉ b.keys := by
      intro b hb
      exact h b (List.mem_cons_of_mem _ hb)
    rw [attempts, ih hrest, run_of_not_mem (h a List.mem_cons_self)]

/-- **Further passes change nothing** where every value they are given is settled. -/
theorem attempts_settled {Selected : K → Prop} {Done : V → Prop}
    (hdone : ∀ k v, Selected k → s k = some v → Done v)
    (hsettled : ∀ p k v v' errors, Done v → visits p k v ≠ .write v' errors)
    (tries : List (Attempt P K)) (h : ∀ a ∈ tries, ∀ k ∈ a.keys, Selected k) :
    attempts visits s tries = s := by
  induction tries with
  | nil => rfl
  | cons a rest ih =>
    have hrun : (run (visits a.param) s a.keys).1 = s := by
      apply run_settled
      intro k v v' errors hk hv
      exact hsettled a.param k v v' errors (hdone k v (h a List.mem_cons_self k hk) hv)
    rw [attempts, hrun]
    exact ih fun b hb => h b (List.mem_cons_of_mem _ hb)

end Sweep

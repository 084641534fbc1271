/-
  Systems that move by acts, one at a time, under rules.

  Proved: to show an invariant of all reachable states, show that an allowed act keeps it
  (`System.Reached.invariant`); a list of allowed acts leads to a reachable state
  (`System.Reached.run`). Of a history, newest first: it is good throughout exactly when each of its
  steps meets its condition, if that is so for one step (`throughout_iff`).
-/
import Mathlib.Data.List.Basic

namespace Interleaving

/-- Where a system starts, what an act does, and which acts are allowed in a state. -/
structure System (σ α : Type) where
  init : σ → Prop
  next : σ → α → σ
  allowed : σ → α → Prop

namespace System

variable {σ α : Type} {S : System σ α} {s : σ}

/-- The states a system can come to. -/
inductive Reached (S : System σ α) : σ → Prop
  | init {s : σ} (hs : S.init s) : Reached S s
  | next {s : σ} {a : α} (hr : Reached S s) (ha : S.allowed s a) : Reached S (S.next s a)

/-- **Invariant rule.** -/
theorem Reached.invariant {I : σ → Prop} (hinit : ∀ s, S.init s → I s)
    (hnext : ∀ s a, S.Reached s → I s → S.allowed s a → I (S.next s a)) (hr : S.Reached s) :
    I s := by
  induction hr with
  | init hs => exact hinit _ hs
  | next hr ha ih => exact hnext _ _ hr ih ha

/-- The state after acts, in their order. -/
def run (S : System σ α) (s : σ) : List α → σ
  | [] => s
  | a :: as => S.run (S.next s a) as

/-- Every act of the list is allowed when its turn comes. -/
def Permits (S : System σ α) (s : σ) : List α → Prop
  | [] => True
  | a :: as => S.allowed s a ∧ S.Permits (S.next s a) as

theorem Reached.run (hr : S.Reached s) {as : List α} (has : S.Permits s as) :
    S.Reached (S.run s as) := by
  induction as generalizing s with
  | nil => exact hr
  | cons a as ih => exact ih (hr.next has.1) has.2

theorem run_append (S : System σ α) (s : σ) (as bs : List α) :
    S.run s (as ++ bs) = S.run (S.run s as) bs := by
  induction as generalizing s with
  | nil => rfl
  | cons a as ih => exact ih (S.next s a)

theorem permits_append {as bs : List α} :
    S.Permits s (as ++ bs) ↔ S.Permits s as ∧ S.Permits (S.run s as) bs := by
  induction as generalizing s with
  | nil => simp only [List.nil_append, Permits, run, true_and]
  | cons a as ih =>
    rw [List.cons_append, Permits, ih, Permits, and_assoc]
    rfl

/-- With nothing forbidden, every list of acts is permitted. -/
theorem permits_of_allowed (h : ∀ s a, S.allowed s a) (s : σ) (as : List α) :
    S.Permits s as := by
  induction as generalizing s with
  | nil => trivial
  | cons a as ih => exact ⟨h s a, ih _⟩

end System

/-- **A history is good throughout** exactly when every step meets its condition: it is enough that
one step after a good history does. -/
theorem throughout_iff {α : Type} {P : α → Prop} {Good : List α → Prop}
    {Meets : List α → α → Prop} (hstart : Good [])
    (hstep : ∀ a old, P a → (∀ b ∈ old, P b) → (∀ past, past <:+ old → Good past) →
      (∀ b past, b :: past <:+ old → Meets past b) → (Good (a :: old) ↔ Meets old a))
    {l : List α} (hl : ∀ a ∈ l, P a) :
    (∀ past, past <:+ l → Good past) ↔ ∀ a past, a :: past <:+ l → Meets past a := by
  induction l with
  | nil =>
    constructor
    · intro _ a past hs
      exact absurd (List.suffix_nil.mp hs) (List.cons_ne_nil a past)
    · intro _ past hs
      rw [List.suffix_nil.mp hs]
      exact hstart
  | cons a l ih =>
    have hla := ih fun b hb => hl b (List.mem_cons_of_mem a hb)
    constructor
    · intro hgood b past hs
      have hold : ∀ past, past <:+ l → Good past :=
        fun past hs => hgood past (hs.trans (List.suffix_cons a l))
      rcases List.suffix_cons_iff.mp hs with heq | hs
      · cases heq
        exact (hstep a l (hl a List.mem_cons_self) (fun b hb => hl b (List.mem_cons_of_mem a hb))
          hold (hla.mp hold)).mp (hgood _ List.suffix_rfl)
      · exact hla.mp hold b past hs
    · intro hmeets past hs
      have hold : ∀ b past, b :: past <:+ l → Meets past b :=
        fun b past hs => hmeets b past (hs.trans (List.suffix_cons a l))
      rcases List.suffix_cons_iff.mp hs with heq | hs
      · rw [heq]
        exact (hstep a l (hl a List.mem_cons_self) (fun b hb => hl b (List.mem_cons_of_mem a hb))
          (hla.mpr hold) hold).mpr (hmeets a l List.suffix_rfl)
      · exact hla.mpr hold past hs

end Interleaving

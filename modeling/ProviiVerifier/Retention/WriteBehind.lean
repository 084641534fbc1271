/-
  A counter in memory whose increments reach a store only now and then.

  A hit is counted in memory, or in memory and flushed to the store, or on top of what is read from
  the store; the last of these forgets the hits that are pending.

  Proved: the counter never runs ahead of the hits (`total_le_length`), and up to a cap it counts
  them all exactly when no hit is counted from the store while others are pending (`total_iff`).
-/
import Mathlib.Data.List.Infix

namespace WriteBehind

/-- How a hit is counted. -/
inductive Hit
  | memory
  | flush
  | seed
  deriving DecidableEq, Repr

/-- What the store holds and what memory counts beyond it. -/
structure Counter where
  persisted : Nat
  pending : Nat
  deriving DecidableEq, Repr

def Counter.total (c : Counter) : Nat := c.persisted + c.pending

/-- The counter after a hit. -/
def Counter.hit (c : Counter) : Hit → Counter
  | .memory => ⟨c.persisted, c.pending + 1⟩
  | .flush => ⟨c.total + 1, 0⟩
  | .seed => ⟨c.persisted + 1, 0⟩

/-- The counter after hits, newest first. -/
def after : List Hit → Counter
  | [] => ⟨0, 0⟩
  | h :: old => (after old).hit h

@[simp] theorem after_nil : after [] = ⟨0, 0⟩ := rfl

@[simp] theorem after_cons (h : Hit) (old : List Hit) : after (h :: old) = (after old).hit h := rfl

variable {hits old : List Hit} {cap : Nat}

theorem total_le_length (hits : List Hit) : (after hits).total ≤ hits.length := by
  induction hits with
  | nil => exact Nat.le_refl _
  | cons h old ih =>
    unfold Counter.total at ih
    rw [after_cons, List.length_cons]
    cases h with
    | memory =>
      show (after old).persisted + ((after old).pending + 1) ≤ _
      omega
    | flush =>
      show (after old).persisted + (after old).pending + 1 + 0 ≤ _
      omega
    | seed =>
      show (after old).persisted + 1 + 0 ≤ _
      omega

/-- No hit is counted from the store while others are pending, unless the cap is reached. -/
def NeverForgets (cap : Nat) (hits : List Hit) : Prop :=
  ∀ old, .seed :: old <:+ hits → (after old).pending = 0 ∨ cap ≤ (after old).persisted + 1

theorem NeverForgets.of_suffix (h : NeverForgets cap hits) (hs : old <:+ hits) :
    NeverForgets cap old :=
  fun s hseed => h s (hseed.trans hs)

/-- One hit more is one more counted. -/
theorem NeverForgets.total (h : NeverForgets cap hits) :
    min (after hits).total cap = min hits.length cap := by
  induction hits with
  | nil => rfl
  | cons x old ih =>
    have hold := ih (h.of_suffix (List.suffix_cons x old))
    have hle := total_le_length old
    unfold Counter.total at hold hle
    rw [after_cons, List.length_cons]
    cases x with
    | memory =>
      show min ((after old).persisted + ((after old).pending + 1)) cap = _
      omega
    | flush =>
      show min ((after old).persisted + (after old).pending + 1 + 0) cap = _
      omega
    | seed =>
      show min ((after old).persisted + 1 + 0) cap = _
      obtain hnone | hcap := h old (List.suffix_refl _)
      · omega
      · omega

/-- **All hits are counted** exactly when none is forgotten. -/
theorem total_iff : (∀ s, s <:+ hits → min (after s).total cap = min s.length cap) ↔
    NeverForgets cap hits := by
  constructor
  · intro h old hs
    have hseed := h _ hs
    have hle := total_le_length old
    rw [after_cons, List.length_cons] at hseed
    unfold Counter.total at hle
    have hseed : min ((after old).persisted + 1 + 0) cap = min (old.length + 1) cap := hseed
    omega
  · intro h s hs
    exact (h.of_suffix hs).total

end WriteBehind

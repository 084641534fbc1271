/-
  A store that drops every entry when its time to live is over.

  Times are natural numbers. An entry that is put at time `t` with a time to live of `ttl` is read
  at every time before `t + ttl` and at no time from then on.
-/
import Mathlib.Logic.Function.Basic

namespace Expiring

/-- A value and the first time at which it is gone. -/
structure Entry (ε : Type) where
  value : ε
  ends : Nat
  deriving DecidableEq

/-- What is stored under each key. -/
abbrev Store (κ ε : Type) := κ → Option (Entry ε)

variable {κ ε : Type} [DecidableEq κ] {s : Store κ ε} {k k' : κ} {v : ε} {now ttl t : Nat}

def get (s : Store κ ε) (now : Nat) (k : κ) : Option ε :=
  match s k with
  | some e => if now < e.ends then some e.value else none
  | none => none

def put (s : Store κ ε) (now : Nat) (k : κ) (v : ε) (ttl : Nat) : Store κ ε :=
  Function.update s k (some ⟨v, now + ttl⟩)

@[simp] theorem put_self : put s now k v ttl k = some ⟨v, now + ttl⟩ := by
  simp [put]

theorem put_ne (h : k' ≠ k) : put s now k v ttl k' = s k' := by
  simp [put, h]

omit [DecidableEq κ] in
/-- What is read is stored and has not ended. -/
theorem get_eq_some : get s t k = some v ↔ ∃ ends, s k = some ⟨v, ends⟩ ∧ t < ends := by
  unfold get
  cases hs : s k with
  | none => simp
  | some e =>
    obtain ⟨value, ends⟩ := e
    simp only [ite_eq_iff, Option.some.injEq, Entry.mk.injEq, reduceCtorEq, and_false, or_false]
    constructor
    · rintro ⟨hlt, rfl⟩
      exact ⟨ends, ⟨rfl, rfl⟩, hlt⟩
    · rintro ⟨_, ⟨rfl, rfl⟩, hlt⟩
      exact ⟨hlt, rfl⟩

end Expiring

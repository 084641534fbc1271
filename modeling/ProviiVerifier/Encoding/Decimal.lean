/-
  The decimal text of natural numbers, and the reader of bounded ones.

  A number is written without leading zeros. The reader takes any number of digits, after a plus
  sign if there is one, and refuses what exceeds the bound.

  Proved: what is written is read back (`parse_repr`) and determines the number (`repr_inj`).
-/
import Mathlib.Data.List.Basic

namespace Decimal

variable {max n m : Nat} {s : List Char} {c : Char}

/-- The text after a plus sign. -/
def unsigned (s : List Char) : List Char := if s.head? = some '+' then s.tail else s

/-- The number that a text of digits says, when it is at most `max`. -/
def parse (max : Nat) (s : List Char) : Option Nat :=
  let digits := unsigned s
  if digits ≠ [] ∧ digits.all Char.isDigit ∧ Nat.ofDigitChars 10 digits 0 ≤ max then
    some (Nat.ofDigitChars 10 digits 0)
  else none

theorem isDigit_of_mem (h : c ∈ n.repr.toList) : c.isDigit = true := by
  rw [Nat.toList_repr] at h
  exact Nat.isDigit_of_mem_toDigits (by decide) (by decide) h

/-- A number's text has no character that is no digit. -/
theorem not_mem_repr (h : c.isDigit = false) : c ∉ n.repr.toList := by
  intro hc
  rw [isDigit_of_mem hc] at h
  cases h

theorem repr_inj (h : n.repr.toList = m.repr.toList) : n = m := by
  rw [Nat.toList_repr, Nat.toList_repr] at h
  have hn : Nat.ofDigitChars 10 (Nat.toDigits 10 n) 0 = n := Nat.ofDigitChars_ten_toDigits
  rw [h, Nat.ofDigitChars_ten_toDigits] at hn
  exact hn.symm

/-- **What is written is read back.** -/
theorem parse_repr (h : n ≤ max) : parse max n.repr.toList = some n := by
  have hplus : n.repr.toList.head? ≠ some '+' := by
    intro hhead
    exact not_mem_repr (by decide) (List.mem_of_mem_head? hhead)
  have hdigits : n.repr.toList.all Char.isDigit = true :=
    List.all_eq_true.mpr fun _ hc => isDigit_of_mem hc
  have hnumber : Nat.ofDigitChars 10 n.repr.toList 0 = n := by
    rw [Nat.toList_repr]
    exact Nat.ofDigitChars_ten_toDigits
  have hne : n.repr.toList ≠ [] := by
    rw [Nat.toList_repr]
    exact Nat.toDigits_ne_nil
  have hself : unsigned n.repr.toList = n.repr.toList := if_neg hplus
  unfold parse
  rw [hself]
  dsimp only
  rw [hnumber, if_pos ⟨hne, hdigits, h⟩]

/-- What is read starts with a digit or a plus sign. -/
theorem head_of_parse (h : parse max s = some n) :
    ∃ c rest, s = c :: rest ∧ (c = '+' ∨ c.isDigit = true) := by
  unfold parse at h
  dsimp only at h
  split at h
  · next hdigits =>
    cases s with
    | nil => exact absurd rfl hdigits.1
    | cons c rest =>
      refine ⟨c, rest, rfl, ?_⟩
      by_cases hc : c = '+'
      · exact .inl hc
      · have hself : unsigned (c :: rest) = c :: rest := by
          refine if_neg ?_
          rw [List.head?_cons, Option.some.injEq]
          exact hc
        rw [hself] at hdigits
        exact .inr (List.all_eq_true.mp hdigits.2.1 c List.mem_cons_self)
  · cases h

end Decimal

/-
  Numbers in a radix of at most 16, read from the start of a text.

  The reader takes all digits that stand there; it bounds how many they are and what they say, and
  may refuse leading zeros.

  Proved: what is written without leading zeros is read back, up to what is no digit
  (`read_toDigits`).
-/
import Mathlib.Algebra.Group.Nat.Hom

namespace Numerals

variable {radix n : Nat} {c : Char} {rest : List Char}

/-! ## Digits -/

/-- What a digit says, of either case; 16 for what is no digit. -/
def digitValue (c : Char) : Nat :=
  if '0' ≤ c ∧ c ≤ '9' then c.toNat - 48
  else if 'a' ≤ c ∧ c ≤ 'f' then c.toNat - 87
  else if 'A' ≤ c ∧ c ≤ 'F' then c.toNat - 55
  else 16

/-- A digit of the radix. -/
def isDigit (radix : Nat) (c : Char) : Bool := digitValue c < radix

theorem digitValue_digitChar (h : n < 16) : digitValue n.digitChar = n := by
  have hall : ∀ m : Fin 16, digitValue m.val.digitChar = m.val := by decide
  exact hall ⟨n, h⟩

/-- Digits are written one by one, from the last. -/
theorem toDigits_induction {motive : Nat → List Char → Prop} (hradix : 1 < radix)
    (hone : ∀ n, n < radix → motive n [n.digitChar])
    (hmore : ∀ n digits, radix ≤ n → motive (n / radix) digits →
      motive n (digits ++ [(n % radix).digitChar])) (n : Nat) :
    motive n (Nat.toDigits radix n) := by
  induction n using Nat.strongRecOn with
  | _ n ih =>
    rw [Nat.toDigits_eq_if hradix]
    split
    · next hlt => exact hone n hlt
    · next hge =>
      have hle : radix ≤ n := Nat.not_lt.mp hge
      exact hmore n _ hle (ih _ (Nat.div_lt_self (by omega) hradix))

/-! ## Numbers -/

/-- What digits say. -/
def value (radix : Nat) (digits : List Char) : Nat :=
  digits.foldl (fun n c => n * radix + digitValue c) 0

/-- The number at the start of the text, of at most `count` digits and at most `max`, and what is
left of the text. -/
def read (radix count max : Nat) (leadingZeros : Bool) (s : List Char) : Option (Nat × List Char) :=
  let digits := s.takeWhile (isDigit radix)
  if digits = [] ∨ count < digits.length then none
  else if leadingZeros = false ∧ digits.head? = some '0' ∧ 1 < digits.length then none
  else if value radix digits ≤ max then some (value radix digits, s.dropWhile (isDigit radix))
  else none

theorem isDigit_of_mem (hradix : 1 < radix) (hle : radix ≤ 16) :
    ∀ c ∈ Nat.toDigits radix n, isDigit radix c = true := by
  have hdigit : ∀ m, m < radix → isDigit radix m.digitChar = true := by
    intro m hm
    unfold isDigit
    rw [digitValue_digitChar (Nat.lt_of_lt_of_le hm hle)]
    exact decide_eq_true hm
  refine toDigits_induction (motive := fun _ digits => ∀ c ∈ digits, isDigit radix c = true) hradix
    ?_ ?_ n
  · intro n hn c hc
    rw [List.mem_singleton.mp hc]
    exact hdigit n hn
  · intro n digits _ ih c hc
    rcases List.mem_append.mp hc with hc | hc
    · exact ih c hc
    · rw [List.mem_singleton.mp hc]
      exact hdigit _ (Nat.mod_lt n (by omega))

theorem value_toDigits (hradix : 1 < radix) (hle : radix ≤ 16) (n : Nat) :
    value radix (Nat.toDigits radix n) = n := by
  refine toDigits_induction (motive := fun n digits => value radix digits = n) hradix ?_ ?_ n
  · intro n hn
    simp [value, digitValue_digitChar (Nat.lt_of_lt_of_le hn hle)]
  · intro n digits _ ih
    have hmod : n % radix < 16 := Nat.lt_of_lt_of_le (Nat.mod_lt n (by omega)) hle
    unfold value at ih ⊢
    rw [List.foldl_append, ih, List.foldl_cons, List.foldl_nil, digitValue_digitChar hmod,
      Nat.div_add_mod']

/-- Only zero is written with a zero first. -/
theorem head_toDigits (hradix : 1 < radix) (hle : radix ≤ 16) (n : Nat) (hn : 0 < n) :
    (Nat.toDigits radix n).head? ≠ some '0' := by
  refine (toDigits_induction (motive := fun n digits =>
    digits ≠ [] ∧ (0 < n → digits.head? ≠ some '0')) hradix ?_ ?_ n).2 hn
  · intro n hlt
    refine ⟨List.cons_ne_nil _ _, fun hpos hhead => ?_⟩
    have hzero : digitValue n.digitChar = digitValue '0' := by
      rw [Option.some.inj hhead]
    rw [digitValue_digitChar (Nat.lt_of_lt_of_le hlt hle)] at hzero
    exact absurd hzero (Nat.ne_of_gt hpos)
  · intro n digits hge ih
    refine ⟨List.append_ne_nil_of_left_ne_nil ih.1 _, fun _ => ?_⟩
    obtain ⟨c, digits, rfl⟩ := List.exists_cons_of_ne_nil ih.1
    exact ih.2 (Nat.div_pos hge (by omega))

/-- Nothing is read where no digit stands. -/
theorem takeWhile_of_head (hrest : ∀ c, rest.head? = some c → isDigit radix c = false) :
    rest.takeWhile (isDigit radix) = [] ∧ rest.dropWhile (isDigit radix) = rest := by
  cases rest with
  | nil => exact ⟨rfl, rfl⟩
  | cons c rest =>
    have hc : ¬ isDigit radix c = true := by
      rw [hrest c rfl]
      decide
    exact ⟨List.takeWhile_cons_of_neg hc, List.dropWhile_cons_of_neg hc⟩

theorem read_eq_none {count max : Nat} {leadingZeros : Bool}
    (hrest : ∀ c, rest.head? = some c → isDigit radix c = false) :
    read radix count max leadingZeros rest = none := by
  unfold read
  rw [(takeWhile_of_head hrest).1]
  exact if_pos (.inl rfl)

/-- What is left is the end of the text. -/
theorem suffix_of_read {count max : Nat} {leadingZeros : Bool} {s : List Char}
    (h : read radix count max leadingZeros s = some (n, rest)) : rest <:+ s := by
  unfold read at h
  dsimp only at h
  split at h
  · cases h
  · split at h
    · cases h
    · split at h
      · injection h with h
        injection h with _ h
        rw [← h]
        exact List.dropWhile_suffix _
      · cases h

/-- **What is written is read back**, up to what is no digit. -/
theorem read_toDigits {count max : Nat} {leadingZeros : Bool} (hradix : 1 < radix)
    (hle : radix ≤ 16) (hpos : 0 < count) (hcount : n < radix ^ count) (hmax : n ≤ max)
    (hrest : ∀ c, rest.head? = some c → isDigit radix c = false) :
    read radix count max leadingZeros (Nat.toDigits radix n ++ rest) = some (n, rest) := by
  have hdigits := isDigit_of_mem (n := n) hradix hle
  have hstop := takeWhile_of_head hrest
  have htake : (Nat.toDigits radix n ++ rest).takeWhile (isDigit radix) = Nat.toDigits radix n := by
    rw [List.takeWhile_append_of_pos hdigits, hstop.1, List.append_nil]
  have hdrop : (Nat.toDigits radix n ++ rest).dropWhile (isDigit radix) = rest := by
    rw [List.dropWhile_append_of_pos hdigits, hstop.2]
  have hlength : (Nat.toDigits radix n).length ≤ count :=
    (Nat.length_toDigits_le_iff hradix hpos).mpr hcount
  have hlead : ¬ (leadingZeros = false ∧ (Nat.toDigits radix n).head? = some '0' ∧
      1 < (Nat.toDigits radix n).length) := by
    rintro ⟨-, hhead, hlong⟩
    have hzero : n = 0 := by
      rcases Nat.eq_zero_or_pos n with hzero | hpos
      · exact hzero
      · exact absurd hhead (head_toDigits hradix hle n hpos)
    rw [hzero, Nat.toDigits_zero] at hlong
    exact absurd hlong (by decide)
  unfold read
  rw [htake, hdrop]
  dsimp only
  rw [if_neg (not_or.mpr ⟨Nat.toDigits_ne_nil, Nat.not_lt.mpr hlength⟩), if_neg hlead,
    value_toDigits hradix hle, if_pos hmax]

end Numerals

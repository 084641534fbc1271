/-
  Percent-encoding of byte strings in which everything but ASCII letters and digits is
  escaped, and its decoder.

  Proved: decoding an encoded string gives it back (`decode_encode`), so encoding is injective
  (`encode_injective`); an encoded string has only letters, digits and `%` (`mem_encode`), and
  letters and digits are encoded as themselves (`encode_of_alphanumeric`).
-/
import Mathlib.Data.List.Basic
import Mathlib.Tactic.IntervalCases

namespace PercentEncoding

/-- ASCII letters and digits. -/
def isAlphanumeric (b : UInt8) : Bool :=
  (48 ≤ b && b ≤ 57) || (65 ≤ b && b ≤ 90) || (97 ≤ b && b ≤ 122)

/-- The upper-case hexadecimal digit of a nibble. -/
def hexUpper (n : UInt8) : UInt8 :=
  if n < 10 then 48 + n else 55 + n

/-- The value of a hexadecimal digit of either case. -/
def hexValue (b : UInt8) : Option UInt8 :=
  if 48 ≤ b && b ≤ 57 then some (b - 48)
  else if 65 ≤ b && b ≤ 70 then some (b - 55)
  else if 97 ≤ b && b ≤ 102 then some (b - 87)
  else none

def encodeByte (b : UInt8) : List UInt8 :=
  if isAlphanumeric b then [b] else [37, hexUpper (b / 16), hexUpper (b % 16)]

def encode (bs : List UInt8) : List UInt8 :=
  bs.flatMap encodeByte

/-- Decode `%XY` escapes; a `%` that starts no escape stands for itself. -/
def decode : List UInt8 → List UInt8
  | [] => []
  | [b] => [b]
  | [b, c] => [b, c]
  | b :: c :: d :: rest =>
    if b = 37 then
      match hexValue c, hexValue d with
      | some x, some y => (16 * x + y) :: decode rest
      | _, _ => b :: decode (c :: d :: rest)
    else b :: decode (c :: d :: rest)

theorem isAlphanumeric_ne {b : UInt8} (h : isAlphanumeric b = true) : b ≠ 37 := by
  rintro rfl
  exact absurd h (by decide)

theorem decode_cons_of_ne {b : UInt8} (hb : b ≠ 37) (rest : List UInt8) :
    decode (b :: rest) = b :: decode rest := by
  rcases rest with _ | ⟨c, _ | ⟨d, rest⟩⟩
  · rfl
  · rfl
  · simp [decode, hb]

/-- The digits of a byte give its two nibbles back. -/
theorem hexValue_hexUpper (b : UInt8) :
    hexValue (hexUpper (b / 16)) = some (b / 16) ∧ hexValue (hexUpper (b % 16)) = some (b % 16) ∧
      16 * (b / 16) + b % 16 = b := by
  have h : ∀ n : Fin 256, hexValue (hexUpper (UInt8.ofFin n / 16)) = some (UInt8.ofFin n / 16) ∧
      hexValue (hexUpper (UInt8.ofFin n % 16)) = some (UInt8.ofFin n % 16) ∧
      16 * (UInt8.ofFin n / 16) + UInt8.ofFin n % 16 = UInt8.ofFin n := by decide +kernel
  exact h b.toFin

/-- **Round trip.** -/
theorem decode_encode (bs : List UInt8) : decode (encode bs) = bs := by
  induction bs with
  | nil => rfl
  | cons b bs ih =>
    unfold encode at ih ⊢
    rw [List.flatMap_cons]
    unfold encodeByte
    by_cases hb : isAlphanumeric b = true
    · simp only [hb, if_true, List.cons_append, List.nil_append]
      rw [decode_cons_of_ne (isAlphanumeric_ne hb)]
      exact congrArg (b :: ·) ih
    · obtain ⟨h1, h2, h3⟩ := hexValue_hexUpper b
      simp only [hb, if_false, Bool.false_eq_true, List.cons_append, List.nil_append, decode,
        if_true, h1, h2, h3]
      exact congrArg (b :: ·) ih

theorem encode_injective {as bs : List UInt8} (h : encode as = encode bs) : as = bs := by
  rw [← decode_encode as, h, decode_encode]

theorem encode_of_alphanumeric {bs : List UInt8} (h : ∀ b ∈ bs, isAlphanumeric b = true) :
    encode bs = bs := by
  induction bs with
  | nil => rfl
  | cons b bs ih =>
    have htail := ih fun c hc => h c (List.mem_cons_of_mem b hc)
    unfold encode at htail ⊢
    rw [List.flatMap_cons, htail, encodeByte, if_pos (h b List.mem_cons_self)]
    rfl

/-- An encoded string holds letters, digits and `%` only. -/
theorem mem_encode {bs : List UInt8} {c : UInt8} (h : c ∈ encode bs) :
    isAlphanumeric c = true ∨ c = 37 := by
  obtain ⟨b, -, hc⟩ := List.mem_flatMap.mp h
  unfold encodeByte at hc
  split at hc
  · next hb =>
    rw [List.mem_singleton.mp hc]
    exact .inl hb
  · have hhex : ∀ n : Fin 256, isAlphanumeric (hexUpper (UInt8.ofFin n / 16)) = true ∧
        isAlphanumeric (hexUpper (UInt8.ofFin n % 16)) = true := by decide +kernel
    obtain ⟨h1, h2⟩ : isAlphanumeric (hexUpper (b / 16)) = true ∧
        isAlphanumeric (hexUpper (b % 16)) = true := hhex b.toFin
    simp only [List.mem_cons, List.not_mem_nil, or_false] at hc
    rcases hc with rfl | rfl | rfl
    · exact .inr rfl
    · exact .inl h1
    · exact .inl h2

end PercentEncoding

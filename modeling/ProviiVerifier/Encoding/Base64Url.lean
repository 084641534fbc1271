/-
  Base64 with the URL-safe alphabet and no padding: three bytes are four digits, and what is left
  over is two or three digits whose unused bits are zero.

  Proved: decoding an encoded string gives it back (`decode_encode`), only encoded strings are
  decoded (`encode_of_decode`), and an encoded string has only digits of the alphabet
  (`mem_encode`).
-/
import Mathlib.Data.List.Basic

namespace Base64Url

/-! ## The alphabet -/

/-- The digits, in the order of their values. -/
def alphabet : List Char :=
  "ABCDEFGHIJKLMNOPQRSTUVWXYZabcdefghijklmnopqrstuvwxyz0123456789-_".toList

/-- The digit of a value below 64. -/
def digit (n : Nat) : Char := alphabet.getD n 'A'

/-- The value of a digit. -/
def value (c : Char) : Option Nat := alphabet.idxOf? c

theorem value_digit {n : Nat} (h : n < 64) : value (digit n) = some n := by
  have hall : ∀ m : Fin 64, value (digit m.val) = some m.val := by decide +kernel
  exact hall ⟨n, h⟩

theorem digit_mem {n : Nat} (h : n < 64) : digit n ∈ alphabet := by
  have hall : ∀ m : Fin 64, digit m.val ∈ alphabet := by decide +kernel
  exact hall ⟨n, h⟩

/-! ## The encoder -/

def encode : List UInt8 → List Char
  | [] => []
  | [a] => [digit (a.toNat / 4), digit (a.toNat % 4 * 16)]
  | [a, b] =>
    [digit (a.toNat / 4), digit (a.toNat % 4 * 16 + b.toNat / 16), digit (b.toNat % 16 * 4)]
  | a :: b :: c :: rest =>
    digit (a.toNat / 4) :: digit (a.toNat % 4 * 16 + b.toNat / 16) ::
      digit (b.toNat % 16 * 4 + c.toNat / 64) :: digit (c.toNat % 64) :: encode rest

theorem mem_encode (bytes : List UInt8) : ∀ c ∈ encode bytes, c ∈ alphabet := by
  induction bytes using encode.induct with
  | case1 => simp [encode]
  | case2 a =>
    have ha := a.toNat_lt
    intro c hc
    simp only [encode, List.mem_cons, List.not_mem_nil, or_false] at hc
    rcases hc with rfl | rfl
    · exact digit_mem (by omega)
    · exact digit_mem (by omega)
  | case3 a b =>
    have ha := a.toNat_lt
    have hb := b.toNat_lt
    intro c hc
    simp only [encode, List.mem_cons, List.not_mem_nil, or_false] at hc
    rcases hc with rfl | rfl | rfl
    · exact digit_mem (by omega)
    · exact digit_mem (by omega)
    · exact digit_mem (by omega)
  | case4 a b c rest ih =>
    have ha := a.toNat_lt
    have hb := b.toNat_lt
    have hc := c.toNat_lt
    intro d hd
    simp only [encode, List.mem_cons] at hd
    rcases hd with rfl | rfl | rfl | rfl | hd
    · exact digit_mem (by omega)
    · exact digit_mem (by omega)
    · exact digit_mem (by omega)
    · exact digit_mem (by omega)
    · exact ih d hd

theorem encode_length (bytes : List UInt8) :
    (encode bytes).length = (4 * bytes.length + 2) / 3 := by
  induction bytes using encode.induct with
  | case1 => rfl
  | case2 a => simp [encode]
  | case3 a b => simp [encode]
  | case4 a b c rest ih =>
    simp only [encode, List.length_cons]
    omega

/-! ## The decoder -/

/-- Decode; a digit left alone and a last digit with bits that are not used are refused. -/
def decode : List Char → Option (List UInt8)
  | [] => some []
  | [_] => none
  | [c, d] => do
    let x ← value c
    let y ← value d
    if y % 16 = 0 then some [UInt8.ofNat (x * 4 + y / 16)] else none
  | [c, d, e] => do
    let x ← value c
    let y ← value d
    let z ← value e
    if z % 4 = 0 then
      some [UInt8.ofNat (x * 4 + y / 16), UInt8.ofNat (y % 16 * 16 + z / 4)]
    else none
  | c :: d :: e :: f :: rest => do
    let x ← value c
    let y ← value d
    let z ← value e
    let w ← value f
    let bytes ← decode rest
    some (UInt8.ofNat (x * 4 + y / 16) :: UInt8.ofNat (y % 16 * 16 + z / 4) ::
      UInt8.ofNat (z % 4 * 64 + w) :: bytes)

theorem ofNat_eq {n : Nat} {b : UInt8} (h : n = b.toNat) : UInt8.ofNat n = b := by
  rw [h, UInt8.ofNat_toNat]

/-- **Round trip.** -/
theorem decode_encode (bytes : List UInt8) : decode (encode bytes) = some bytes := by
  induction bytes using encode.induct with
  | case1 => rfl
  | case2 a =>
    have ha := a.toNat_lt
    have hbits : a.toNat % 4 * 16 % 16 = 0 := by omega
    have hbyte : UInt8.ofNat (a.toNat / 4 * 4 + a.toNat % 4 * 16 / 16) = a :=
      ofNat_eq (by omega)
    simp only [encode, decode]
    rw [value_digit (by omega), value_digit (by omega)]
    simp only [Option.bind_eq_bind, Option.bind_some, hbits, if_true, hbyte]
  | case3 a b =>
    have ha := a.toNat_lt
    have hb := b.toNat_lt
    have hbits : b.toNat % 16 * 4 % 4 = 0 := by omega
    have hfirst : UInt8.ofNat (a.toNat / 4 * 4 + (a.toNat % 4 * 16 + b.toNat / 16) / 16) = a :=
      ofNat_eq (by omega)
    have hsecond : UInt8.ofNat ((a.toNat % 4 * 16 + b.toNat / 16) % 16 * 16 +
        b.toNat % 16 * 4 / 4) = b := ofNat_eq (by omega)
    simp only [encode, decode]
    rw [value_digit (by omega), value_digit (by omega), value_digit (by omega)]
    simp only [Option.bind_eq_bind, Option.bind_some, hbits, if_true, hfirst, hsecond]
  | case4 a b c rest ih =>
    have ha := a.toNat_lt
    have hb := b.toNat_lt
    have hc := c.toNat_lt
    have hfirst : UInt8.ofNat (a.toNat / 4 * 4 + (a.toNat % 4 * 16 + b.toNat / 16) / 16) = a :=
      ofNat_eq (by omega)
    have hsecond : UInt8.ofNat ((a.toNat % 4 * 16 + b.toNat / 16) % 16 * 16 +
        (b.toNat % 16 * 4 + c.toNat / 64) / 4) = b := ofNat_eq (by omega)
    have hthird : UInt8.ofNat ((b.toNat % 16 * 4 + c.toNat / 64) % 4 * 64 +
        c.toNat % 64) = c := ofNat_eq (by omega)
    simp only [encode, decode]
    rw [value_digit (by omega), value_digit (by omega), value_digit (by omega),
      value_digit (by omega), ih]
    simp only [Option.bind_eq_bind, Option.bind_some, hfirst, hsecond, hthird]

theorem value_some {c : Char} {n : Nat} (h : value c = some n) : n < 64 ∧ digit n = c := by
  obtain ⟨hlt, hget, -⟩ := List.idxOf?_eq_some_iff.mp h
  refine ⟨hlt, ?_⟩
  unfold digit
  rw [List.getD_eq_getElem?_getD, List.getElem?_eq_getElem hlt]
  exact hget

theorem toNat_ofNat {n : Nat} (h : n < 256) : (UInt8.ofNat n).toNat = n := by
  rw [UInt8.toNat_ofNat']
  exact Nat.mod_eq_of_lt h

/-- **Canonical text.** What decodes is the encoding of what it decodes to. -/
theorem encode_of_decode {s : List Char} {bytes : List UInt8} (h : decode s = some bytes) :
    encode bytes = s := by
  induction s using decode.induct generalizing bytes with
  | case1 =>
    injection h with h
    rw [← h]
    rfl
  | case2 c => cases h
  | case3 c d =>
    simp only [decode, Option.bind_eq_bind, Option.bind_eq_some_iff] at h
    obtain ⟨x, hx, y, hy, h⟩ := h
    obtain ⟨hxlt, rfl⟩ := value_some hx
    obtain ⟨hylt, rfl⟩ := value_some hy
    split at h
    · next hbits =>
      injection h with h
      have hbyte : (UInt8.ofNat (x * 4 + y / 16)).toNat = x * 4 + y / 16 := toNat_ofNat (by omega)
      rw [← h, encode, hbyte, show (x * 4 + y / 16) / 4 = x by omega,
        show (x * 4 + y / 16) % 4 * 16 = y by omega]
    · cases h
  | case4 c d e =>
    simp only [decode, Option.bind_eq_bind, Option.bind_eq_some_iff] at h
    obtain ⟨x, hx, y, hy, z, hz, h⟩ := h
    obtain ⟨hxlt, rfl⟩ := value_some hx
    obtain ⟨hylt, rfl⟩ := value_some hy
    obtain ⟨hzlt, rfl⟩ := value_some hz
    split at h
    · next hbits =>
      injection h with h
      have hfirst : (UInt8.ofNat (x * 4 + y / 16)).toNat = x * 4 + y / 16 := toNat_ofNat (by omega)
      have hsecond : (UInt8.ofNat (y % 16 * 16 + z / 4)).toNat = y % 16 * 16 + z / 4 :=
        toNat_ofNat (by omega)
      rw [← h, encode, hfirst, hsecond, show (x * 4 + y / 16) / 4 = x by omega,
        show (x * 4 + y / 16) % 4 * 16 + (y % 16 * 16 + z / 4) / 16 = y by omega,
        show (y % 16 * 16 + z / 4) % 16 * 4 = z by omega]
    · cases h
  | case5 c d e f rest ih =>
    simp only [decode, Option.bind_eq_bind, Option.bind_eq_some_iff] at h
    obtain ⟨x, hx, y, hy, z, hz, w, hw, tail, htail, h⟩ := h
    obtain ⟨hxlt, rfl⟩ := value_some hx
    obtain ⟨hylt, rfl⟩ := value_some hy
    obtain ⟨hzlt, rfl⟩ := value_some hz
    obtain ⟨hwlt, rfl⟩ := value_some hw
    injection h with h
    have hfirst : (UInt8.ofNat (x * 4 + y / 16)).toNat = x * 4 + y / 16 := toNat_ofNat (by omega)
    have hsecond : (UInt8.ofNat (y % 16 * 16 + z / 4)).toNat = y % 16 * 16 + z / 4 :=
      toNat_ofNat (by omega)
    have hthird : (UInt8.ofNat (z % 4 * 64 + w)).toNat = z % 4 * 64 + w := toNat_ofNat (by omega)
    rw [← h, encode, hfirst, hsecond, hthird, ih htail,
      show (x * 4 + y / 16) / 4 = x by omega,
      show (x * 4 + y / 16) % 4 * 16 + (y % 16 * 16 + z / 4) / 16 = y by omega,
      show (y % 16 * 16 + z / 4) % 16 * 4 + (z % 4 * 64 + w) / 64 = z by omega,
      show (z % 4 * 64 + w) % 64 = w by omega]

end Base64Url

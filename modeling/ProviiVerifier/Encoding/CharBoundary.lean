/-
  Character boundaries of a text, counted in the bytes of its UTF-8 encoding.

  Proved: a text has a prefix of `n` bytes exactly at the boundaries (`takeBytes_eq_some_iff`), and
  the longest prefix within `n` bytes is that prefix where there is one, and the text itself where
  it is short enough (`longestPrefix_of_boundary`, `longestPrefix_self`). The encoding of a text is
  a prefix of another one exactly when the text is (`encode_prefix_iff`), and a byte of an ASCII
  character is that character (`encode_eq_append_cons`).
-/
import Mathlib.Data.List.Infix

namespace CharBoundary

/-! ## Lengths -/

/-- The UTF-8 encoding of a text. -/
def encode (cs : List Char) : List UInt8 := cs.flatMap String.utf8EncodeChar

theorem encode_nil : encode [] = [] := rfl

theorem encode_cons (c : Char) (cs : List Char) :
    encode (c :: cs) = String.utf8EncodeChar c ++ encode cs := List.flatMap_cons

theorem encode_append (a b : List Char) : encode (a ++ b) = encode a ++ encode b :=
  List.flatMap_append

/-- The bytes of a text. -/
def encodedLen (cs : List Char) : Nat := (encode cs).length

theorem encodedLen_nil : encodedLen [] = 0 := rfl

theorem encodedLen_append (a b : List Char) :
    encodedLen (a ++ b) = encodedLen a + encodedLen b := by
  unfold encodedLen
  rw [encode_append, List.length_append]

theorem encodedLen_cons (c : Char) (cs : List Char) :
    encodedLen (c :: cs) = (String.utf8EncodeChar c).length + encodedLen cs := by
  unfold encodedLen
  rw [encode_cons, List.length_append]

theorem utf8EncodeChar_pos (c : Char) : 0 < (String.utf8EncodeChar c).length := by
  rw [String.length_utf8EncodeChar]
  exact c.utf8Size_pos

/-- A prefix has no more bytes, and all of them only as the whole text. -/
theorem encodedLen_prefix {a cs : List Char} (h : a <+: cs) : encodedLen a ≤ encodedLen cs := by
  obtain ⟨b, rfl⟩ := h
  rw [encodedLen_append]
  exact Nat.le_add_right _ _

/-! ## Prefixes of a number of bytes -/

/-- The prefix of exactly `n` bytes, where a character ends there. -/
def takeBytes : List Char → Nat → Option (List Char)
  | _, 0 => some []
  | [], _ + 1 => none
  | c :: cs, n + 1 =>
    let width := (String.utf8EncodeChar c).length
    if width ≤ n + 1 then (takeBytes cs (n + 1 - width)).map (c :: ·) else none

/-- A character of the text, or the text, ends after `n` bytes. -/
def isBoundary (cs : List Char) (n : Nat) : Bool := (takeBytes cs n).isSome

/-- **The prefix of `n` bytes.** -/
theorem takeBytes_eq_some_iff {cs a : List Char} {n : Nat} :
    takeBytes cs n = some a ↔ a <+: cs ∧ encodedLen a = n := by
  induction cs generalizing n a with
  | nil =>
    cases n with
    | zero =>
      rw [takeBytes, Option.some.injEq, List.prefix_nil]
      constructor
      · intro h
        rw [← h]
        exact ⟨rfl, rfl⟩
      · intro h
        exact h.1.symm
    | succ n =>
      rw [takeBytes, List.prefix_nil]
      constructor
      · intro h
        cases h
      · intro h
        rw [h.1, encodedLen_nil] at h
        omega
  | cons c cs ih =>
    have hpos := utf8EncodeChar_pos c
    cases n with
    | zero =>
      rw [takeBytes, Option.some.injEq]
      constructor
      · intro h
        rw [← h]
        exact ⟨List.nil_prefix, rfl⟩
      · intro h
        cases a with
        | nil => rfl
        | cons d a =>
          have hd := utf8EncodeChar_pos d
          rw [encodedLen_cons] at h
          omega
    | succ n =>
      rw [takeBytes]
      constructor
      · intro h
        split at h
        · next hwidth =>
          obtain ⟨rest, hrest, rfl⟩ := Option.map_eq_some_iff.mp h
          obtain ⟨hpre, hlen⟩ := ih.mp hrest
          refine ⟨List.cons_prefix_cons.mpr ⟨rfl, hpre⟩, ?_⟩
          rw [encodedLen_cons, hlen]
          omega
        · cases h
      · intro h
        cases a with
        | nil =>
          rw [encodedLen_nil] at h
          omega
        | cons d a =>
          obtain ⟨hpre, hlen⟩ := h
          obtain ⟨hhead, htail⟩ := List.cons_prefix_cons.mp hpre
          rw [hhead, encodedLen_cons] at hlen
          have hrest : takeBytes cs (n + 1 - (String.utf8EncodeChar c).length) = some a :=
            ih.mpr ⟨htail, by omega⟩
          rw [if_pos (by omega), hrest, hhead]
          rfl

theorem isBoundary_encodedLen (cs : List Char) : isBoundary cs (encodedLen cs) = true := by
  unfold isBoundary
  rw [takeBytes_eq_some_iff.mpr ⟨List.prefix_rfl, rfl⟩]
  rfl

/-! ## The longest prefix within a number of bytes -/

/-- Among the prefixes of at most `n` bytes, `a` has the most. -/
def LongestPrefix (cs : List Char) (n : Nat) (a : List Char) : Prop :=
  a <+: cs ∧ encodedLen a ≤ n ∧ ∀ b, b <+: cs → encodedLen b ≤ n → encodedLen b ≤ encodedLen a

theorem longestPrefix_self {cs : List Char} {n : Nat} (h : encodedLen cs ≤ n) :
    LongestPrefix cs n cs :=
  ⟨List.prefix_rfl, h, fun _ hb _ => encodedLen_prefix hb⟩

theorem longestPrefix_of_boundary {cs a : List Char} {n : Nat} (h : takeBytes cs n = some a) :
    LongestPrefix cs n a := by
  obtain ⟨hpre, hlen⟩ := takeBytes_eq_some_iff.mp h
  refine ⟨hpre, Nat.le_of_eq hlen, fun b _ hb => ?_⟩
  rw [hlen]
  exact hb

/-! ## Encodings in encodings -/

/-- Where an encoding begins with a character, the text does. -/
theorem utf8EncodeChar_append_inj {c d : Char} {s t : List UInt8}
    (h : String.utf8EncodeChar c ++ s = String.utf8EncodeChar d ++ t) : c = d ∧ s = t := by
  have hdecode : ∀ (e : Char) (r : List UInt8),
      ByteArray.utf8DecodeChar? (String.utf8EncodeChar e ++ r).toByteArray 0 = some e := by
    intro e r
    rw [List.toByteArray_append]
    exact ByteArray.utf8DecodeChar?_utf8EncodeChar_append
  have hc := hdecode c s
  rw [h, hdecode d t, Option.some.injEq] at hc
  rw [hc] at h
  exact ⟨hc.symm, List.append_cancel_left h⟩

/-- **Prefixes.** The encoding of a text is a prefix of another one exactly when the text is. -/
theorem encode_prefix_iff {a b : List Char} : encode a <+: encode b ↔ a <+: b := by
  constructor
  · intro h
    induction a generalizing b with
    | nil => exact List.nil_prefix
    | cons c a ih =>
      obtain ⟨t, ht⟩ := h
      rw [encode_cons, List.append_assoc] at ht
      cases b with
      | nil =>
        have hlen := congrArg List.length ht
        have hpos := utf8EncodeChar_pos c
        rw [List.length_append, encode_nil, List.length_nil] at hlen
        omega
      | cons d b =>
        rw [encode_cons] at ht
        obtain ⟨hcd, hrest⟩ := utf8EncodeChar_append_inj ht
        rw [hcd, List.cons_prefix_cons]
        exact ⟨rfl, ih ⟨t, hrest⟩⟩
  · rintro ⟨t, rfl⟩
    rw [encode_append]
    exact List.prefix_append _ _

/-- A low byte of a character is the character. -/
theorem utf8EncodeChar_of_low {c : Char} {x : UInt8} (hx : x ∈ String.utf8EncodeChar c)
    (hlow : x.toNat < 128) : String.utf8EncodeChar c = [x] ∧ c.toNat = x.toNat := by
  have hbyte : ∀ n, 128 ≤ n → n < 256 → x ≠ UInt8.ofNat n := by
    intro n hn hlt heq
    have hnat := congrArg UInt8.toNat heq
    rw [UInt8.toNat_ofNat_of_lt' hlt] at hnat
    omega
  have hc := c.val.toNat_lt
  unfold String.utf8EncodeChar at hx ⊢
  dsimp only at hx ⊢
  split at hx
  · next hle =>
    rw [if_pos hle, List.mem_singleton.mp hx]
    refine ⟨rfl, ?_⟩
    rw [UInt8.toNat_ofNat_of_lt' (Nat.lt_of_le_of_lt hle (by decide))]
    rfl
  · exfalso
    split at hx
    · simp only [List.mem_cons, List.not_mem_nil, or_false] at hx
      rcases hx with hx | hx
      · exact hbyte _ (by omega) (by omega) hx
      · exact hbyte _ (by omega) (by omega) hx
    · split at hx
      · simp only [List.mem_cons, List.not_mem_nil, or_false] at hx
        rcases hx with hx | hx | hx
        · exact hbyte _ (by omega) (by omega) hx
        · exact hbyte _ (by omega) (by omega) hx
        · exact hbyte _ (by omega) (by omega) hx
      · simp only [List.mem_cons, List.not_mem_nil, or_false] at hx
        rcases hx with hx | hx | hx | hx
        · exact hbyte _ (by omega) (by omega) hx
        · exact hbyte _ (by omega) (by omega) hx
        · exact hbyte _ (by omega) (by omega) hx
        · exact hbyte _ (by omega) (by omega) hx

/-- **Low bytes.** A low byte in an encoding is a character of the text, between the encodings of
what stands before and after it. -/
theorem encode_eq_append_cons {cs : List Char} {a b : List UInt8} {x : UInt8}
    (hlow : x.toNat < 128) (h : encode cs = a ++ x :: b) :
    ∃ (u v : List Char) (c : Char), cs = u ++ c :: v ∧ c.toNat = x.toNat ∧ encode u = a ∧
      encode v = b := by
  induction cs generalizing a with
  | nil =>
    rw [encode_nil] at h
    exact absurd h.symm (List.append_ne_nil_of_right_ne_nil a (List.cons_ne_nil x b))
  | cons c cs ih =>
    rw [encode_cons] at h
    rcases List.append_eq_append_iff.mp h with ⟨t, ha, hrest⟩ | ⟨t, hc, hrest⟩
    · obtain ⟨u, v, d, hcs, hd, hu, hv⟩ := ih hrest
      refine ⟨c :: u, v, d, ?_, hd, ?_, hv⟩
      · rw [hcs, List.cons_append]
      · rw [encode_cons, hu, ha]
    · cases t with
      | nil =>
        rw [List.append_nil] at hc
        rw [List.nil_append] at hrest
        obtain ⟨u, v, d, hcs, hd, hu, hv⟩ := ih (a := []) hrest.symm
        refine ⟨c :: u, v, d, ?_, hd, ?_, hv⟩
        · rw [hcs, List.cons_append]
        · rw [encode_cons, hu, hc, List.append_nil]
      | cons y t =>
        injection hrest with hy hrest
        have hmem : x ∈ String.utf8EncodeChar c := by
          rw [hc, hy]
          exact List.mem_append_right _ List.mem_cons_self
        obtain ⟨hone, hvalue⟩ := utf8EncodeChar_of_low hmem hlow
        rw [hone] at hc
        have hlen := congrArg List.length hc
        simp only [List.length_append, List.length_cons, List.length_nil] at hlen
        have ha : a = [] := List.eq_nil_of_length_eq_zero (by omega)
        have ht : t = [] := List.eq_nil_of_length_eq_zero (by omega)
        refine ⟨[], cs, c, rfl, hvalue, ?_, ?_⟩
        · rw [ha, encode_nil]
        · rw [hrest, ht]
          rfl

end CharBoundary

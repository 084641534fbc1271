/-
  The fixed-size base64url wrappers of `types/strict.rs`: `B64Url32` and `B64Url192`.

  The engine is the crate's `URL_SAFE_NO_PAD` and a parameter. What is assumed of it (`Strict`) is
  that it writes base64url without padding and reads nothing else: no padding, and no last digit
  with bits that are not used. A deserialiser is modelled from the string that it is given.

  Proved: a serialised value is read back, what is read is the one canonical text of its value, and
  a text of another decoded length is refused (`Codec.Bijective`), for every size that the text has
  the right length for (`bijective`), so for both wrappers (`codecs_bijective`).
-/
import ProviiVerifier.Encoding.Base64Url
import ProviiVerifier.Challenge

namespace ProviiVerifier

namespace StrictTypes

/-! ## The engine -/

/-- The engine `URL_SAFE_NO_PAD`. -/
structure Engine where
  encode : Bytes → String
  decode : Bytes → Option Bytes

/-- Base64url without padding, and nothing else. -/
structure Engine.Strict (engine : Engine) : Prop where
  encode_eq : ∀ bytes, engine.encode bytes = String.ofList (Base64Url.encode bytes)
  decode_eq : ∀ text,
    engine.decode text = Base64Url.decode (text.map fun b => Char.ofNat b.toNat)

/-- The engine that is assumed. -/
def Engine.urlSafeNoPad : Engine :=
  { encode := fun bytes => String.ofList (Base64Url.encode bytes)
    decode := fun text => Base64Url.decode (text.map fun b => Char.ofNat b.toNat) }

theorem strict_urlSafeNoPad : Engine.urlSafeNoPad.Strict :=
  { encode_eq := fun _ => rfl
    decode_eq := fun _ => rfl }

/-! ## The wrappers -/

/-- `serde::de::Error`, with what was found and what was expected. -/
inductive DeError
  | invalidValue (unexpected expected : String)
  | invalidLength (len : Nat) (expected : String)
  deriving DecidableEq, Repr

/-- `b'A'..=b'Z' | b'a'..=b'z' | b'0'..=b'9' | b'-' | b'_'`. -/
def isUrlSafeByte (b : UInt8) : Bool :=
  (65 ≤ b && b ≤ 90) || (97 ≤ b && b ≤ 122) || (48 ≤ b && b ≤ 57) || b = 45 || b = 95

/-- The serialiser of a wrapper. -/
def serialize {n : Nat} (engine : Engine) (v : FixedBytes n) : String := engine.encode v.val

/-- The deserialiser of a wrapper around `n` bytes, whose text has `textLen` bytes. -/
def deserialize (n textLen : Nat) (expectedText expectedBytes : String) (engine : Engine)
    (s : String) : Except DeError (FixedBytes n) :=
  if byteLen s ≠ textLen ∨ (utf8Bytes s).all isUrlSafeByte = false then
    .error (.invalidValue s expectedText)
  else
    match engine.decode (utf8Bytes s) with
    | none => .error (.invalidValue s "valid base64url")
    | some decoded =>
      if h : decoded.length = n then .ok ⟨decoded, h⟩
      else .error (.invalidLength decoded.length expectedBytes)

end StrictTypes

namespace B64Url32

open StrictTypes

def serialize (engine : Engine) (v : FixedBytes 32) : String := StrictTypes.serialize engine v

def deserialize (engine : Engine) (s : String) : Except DeError (FixedBytes 32) :=
  StrictTypes.deserialize 32 43 "base64url string of exactly 43 characters" "32 bytes" engine s

end B64Url32

namespace B64Url192

open StrictTypes

def serialize (engine : Engine) (v : FixedBytes 192) : String := StrictTypes.serialize engine v

def deserialize (engine : Engine) (s : String) : Except DeError (FixedBytes 192) :=
  StrictTypes.deserialize 192 256 "base64url string of exactly 256 characters" "192 bytes" engine s

end B64Url192

namespace StrictTypes

/-- Values and texts match one to one: a value is read back from its text, a text that is read is
the base64url text of its value and is written again, and one that decodes to another length is
refused. -/
structure Codec.Bijective {n : Nat} (engine : Engine) (ser : FixedBytes n → String)
    (de : String → Except DeError (FixedBytes n)) : Prop where
  roundTrip : ∀ v, de (ser v) = .ok v
  canonical : ∀ s v, de s = .ok v → s = String.ofList (Base64Url.encode v.val) ∧ ser v = s
  otherLength : ∀ s decoded, engine.decode (utf8Bytes s) = some decoded → decoded.length ≠ n →
    ∃ e, de s = .error e

/-! ## Text and bytes -/

theorem alphabet_bytes : ∀ c ∈ Base64Url.alphabet,
    c.toNat < 128 ∧ isUrlSafeByte (UInt8.ofNat c.toNat) = true ∧
      Char.ofNat (UInt8.ofNat c.toNat).toNat = c := by
  have hall : Base64Url.alphabet.all (fun c => decide (c.toNat < 128 ∧
      isUrlSafeByte (UInt8.ofNat c.toNat) = true ∧ Char.ofNat (UInt8.ofNat c.toNat).toNat = c)) =
        true := by decide +kernel
  intro c hc
  exact of_decide_eq_true (List.all_eq_true.mp hall c hc)

variable {cs : List Char} {engine : Engine} {n textLen : Nat} {expectedText expectedBytes : String}

/-- The bytes of a text in the alphabet are its characters. -/
theorem chars_of_bytes (h : ∀ c ∈ cs, c ∈ Base64Url.alphabet) :
    (utf8Bytes (String.ofList cs)).map (fun b => Char.ofNat b.toNat) = cs := by
  rw [utf8Bytes_ofList fun c hc => (alphabet_bytes c (h c hc)).1, List.map_map]
  conv_rhs => rw [← List.map_id cs]
  exact List.map_congr_left fun c hc => (alphabet_bytes c (h c hc)).2.2

/-- Only the text itself has its characters as bytes. -/
theorem eq_of_chars {s : String} (hcs : ∀ c ∈ cs, c ∈ Base64Url.alphabet)
    (h : (utf8Bytes s).map (fun b => Char.ofNat b.toNat) = cs) : s = String.ofList cs := by
  have hbytes : ∀ b : Fin 256,
      UInt8.ofNat (Char.ofNat (UInt8.ofFin b).toNat).toNat = UInt8.ofFin b := by decide +kernel
  apply utf8Bytes_injective
  rw [utf8Bytes_ofList fun c hc => (alphabet_bytes c (hcs c hc)).1, ← h, List.map_map]
  conv_lhs => rw [← List.map_id (utf8Bytes s)]
  exact List.map_congr_left fun b _ => (hbytes b.toFin).symm

/-! ## The codecs -/

/-- What the deserialiser takes. -/
theorem deserialize_ok {s : String} {v : FixedBytes n}
    (h : deserialize n textLen expectedText expectedBytes engine s = .ok v) :
    engine.decode (utf8Bytes s) = some v.val := by
  unfold deserialize at h
  split at h
  · cases h
  · split at h
    · cases h
    · next decoded hdecoded =>
      split at h
      · injection h with h
        rw [hdecoded, ← h]
      · cases h

/-- **A codec of any size** whose text has the length of an encoding. -/
theorem bijective (h : engine.Strict) (hlen : textLen = (4 * n + 2) / 3) :
    Codec.Bijective engine (@serialize n engine)
      (deserialize n textLen expectedText expectedBytes engine) := by
  refine ⟨fun v => ?_, fun s v hv => ?_, fun s decoded hdecoded hother => ?_⟩
  · have hmem : ∀ c ∈ Base64Url.encode v.val, c ∈ Base64Url.alphabet := Base64Url.mem_encode v.val
    have hascii : ∀ c ∈ Base64Url.encode v.val, c.toNat < 128 :=
      fun c hc => (alphabet_bytes c (hmem c hc)).1
    have htext : byteLen (serialize engine v) = textLen := by
      unfold serialize
      rw [h.encode_eq, byteLen_ofList hascii, Base64Url.encode_length, v.property, hlen]
    have hsafe : (utf8Bytes (serialize engine v)).all isUrlSafeByte = true := by
      unfold serialize
      rw [h.encode_eq, utf8Bytes_ofList hascii, List.all_eq_true]
      intro b hb
      obtain ⟨c, hc, rfl⟩ := List.mem_map.mp hb
      exact (alphabet_bytes c (hmem c hc)).2.1
    have hdecode : engine.decode (utf8Bytes (serialize engine v)) = some v.val := by
      unfold serialize
      rw [h.decode_eq, h.encode_eq, chars_of_bytes hmem, Base64Url.decode_encode]
    unfold deserialize
    rw [if_neg (by simp [htext, hsafe]), hdecode]
    dsimp only
    rw [dif_pos v.property]
  · have hdecode := deserialize_ok hv
    rw [h.decode_eq] at hdecode
    have hchars := Base64Url.encode_of_decode hdecode
    have hs := eq_of_chars (Base64Url.mem_encode v.val) hchars.symm
    refine ⟨hs, ?_⟩
    unfold serialize
    rw [h.encode_eq, hs]
  · cases hv : deserialize n textLen expectedText expectedBytes engine s with
    | error e => exact ⟨e, rfl⟩
    | ok v =>
      have hdecode := deserialize_ok hv
      rw [hdecoded, Option.some.injEq] at hdecode
      exact absurd (hdecode ▸ v.property) hother

/-- **Both wrappers** are bijective codecs. -/
theorem codecs_bijective (engine : Engine) (h : engine.Strict) :
    Codec.Bijective engine (B64Url32.serialize engine) (B64Url32.deserialize engine) ∧
      Codec.Bijective engine (B64Url192.serialize engine) (B64Url192.deserialize engine) :=
  ⟨bijective h rfl, bijective h rfl⟩

/-- The engine of the crate. -/
theorem codecs_bijective_urlSafeNoPad :
    Codec.Bijective Engine.urlSafeNoPad (B64Url32.serialize Engine.urlSafeNoPad)
        (B64Url32.deserialize Engine.urlSafeNoPad) ∧
      Codec.Bijective Engine.urlSafeNoPad (B64Url192.serialize Engine.urlSafeNoPad)
        (B64Url192.deserialize Engine.urlSafeNoPad) :=
  codecs_bijective Engine.urlSafeNoPad strict_urlSafeNoPad

end StrictTypes

end ProviiVerifier

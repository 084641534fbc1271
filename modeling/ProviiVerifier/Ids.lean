/-
  Identifiers and their validators: challenge ids (`uuid::Uuid`), short codes
  (`routes/challenge.rs`), nonce tags and the checks of `utils/validation.rs`.

  Strings are Lean strings; a length is a length in UTF-8 bytes, as in the source.
-/
import ProviiVerifier.Error
import Mathlib.Data.List.Infix
import Mathlib.Tactic.IntervalCases

namespace ProviiVerifier

/-! ## UUIDs -/

/-- `uuid::Uuid`: 16 bytes, most significant first. -/
abbrev Uuid := BitVec 128

/-- `Uuid::is_nil`. -/
def Uuid.isNil (id : Uuid) : Bool := id = 0

/-- The lower-case hexadecimal digit of a nibble. -/
def hexDigit (n : Nat) : Char :=
  Nat.digitChar (n % 16)

/-- Hexadecimal digit `i` of an id, most significant first. -/
def Uuid.nibble (id : Uuid) (i : Nat) : Nat :=
  id.toNat / 16 ^ (31 - i) % 16

/-- Digits `from` to `from + len - 1` of an id. -/
def Uuid.digits (id : Uuid) (start len : Nat) : List Char :=
  (List.range' start len).map fun i => hexDigit (id.nibble i)

/-- `Uuid::to_string`: hyphenated groups of 8-4-4-4-12 lower-case digits. -/
def Uuid.toString (id : Uuid) : String :=
  String.ofList (id.digits 0 8 ++ '-' :: id.digits 8 4 ++ '-' :: id.digits 12 4 ++
    '-' :: id.digits 16 4 ++ '-' :: id.digits 20 12)

/-- `char::is_ascii_hexdigit`. -/
def isAsciiHexdigit (c : Char) : Bool :=
  ('0' ≤ c && c ≤ '9') || ('a' ≤ c && c ≤ 'f') || ('A' ≤ c && c ≤ 'F')

/-- `char::is_ascii_digit`. -/
def isAsciiDigit (c : Char) : Bool :=
  '0' ≤ c && c ≤ '9'

/-- `char::is_ascii_alphanumeric`. -/
def isAsciiAlphanumeric (c : Char) : Bool :=
  isAsciiDigit c || ('a' ≤ c && c ≤ 'z') || ('A' ≤ c && c ≤ 'Z')

/-- `str::as_bytes`. -/
def utf8Bytes (s : String) : List UInt8 :=
  s.toList.flatMap String.utf8EncodeChar

/-- `str::len`. -/
def byteLen (s : String) : Nat := (utf8Bytes s).length

/-- `validate_uuid_format`: 36 bytes, hyphens at 8, 13, 18, 23, hexadecimal elsewhere. -/
def validateUuidFormat (s : String) : Except ApiError Unit :=
  if byteLen s ≠ 36 then
    .error (.badRequest (some s!"Invalid UUID length: expected 36 characters, got {byteLen s}"))
  else
    match [8, 13, 18, 23].find? fun p => (utf8Bytes s)[p]? ≠ some 45 with
    | some p =>
      .error (.badRequest (some s!"Invalid UUID format: expected hyphen at position {p}"))
    | none =>
      match s.toList.zipIdx.find? fun ci => !([8, 13, 18, 23].contains ci.2) &&
          !isAsciiHexdigit ci.1 with
      | some (c, i) =>
        .error (.badRequest (some
          s!"Invalid UUID format: non-hexadecimal character '{c}' at position {i}"))
      | none => .ok ()

/-- `validate_challenge_id`. -/
def validateChallengeId (s : String) : Except ApiError Unit :=
  validateUuidFormat s

/-- The value of a hexadecimal digit. -/
def hexValue (c : Char) : Nat :=
  if c ≤ '9' then c.toNat - 48 else if c ≤ 'F' then c.toNat - 55 else c.toNat - 87

/-- The value of a string of hexadecimal digits, most significant first. -/
def hexNumber (cs : List Char) : Nat :=
  cs.foldl (fun n c => 16 * n + hexValue c) 0

/-- `parse_hyphenated` of the `uuid` crate. -/
def parseHyphenated (cs : List Char) : Option Uuid :=
  let digits := cs.filter fun c => c ≠ '-'
  if cs.length = 36 ∧ [8, 13, 18, 23].all (fun p => cs[p]? = some '-') ∧ digits.length = 32 ∧
      digits.all isAsciiHexdigit then
    some (BitVec.ofNat 128 (hexNumber digits))
  else none

/-- `Uuid::parse_str`: simple, hyphenated, braced and URN forms. -/
def parseUuid (s : String) : Option Uuid :=
  let cs := s.toList
  if cs.length = 32 then
    if cs.all isAsciiHexdigit then some (BitVec.ofNat 128 (hexNumber cs)) else none
  else if cs.length = 38 then
    if cs.head? = some '{' ∧ cs.getLast? = some '}' then
      parseHyphenated (cs.tail.dropLast)
    else none
  else if cs.length = 45 then
    if "urn:uuid:".toList.isPrefixOf cs then parseHyphenated (cs.drop 9) else none
  else parseHyphenated cs

/-! ## Short codes -/

/-- The upper and lower 64 bits of an id XORed, which is the byte-wise fold of the source. -/
def Uuid.folded (id : Uuid) : Nat :=
  (id.toNat / 2 ^ 64) ^^^ (id.toNat % 2 ^ 64)

/-- `format!("{:012}", n)` for `n` of at most twelve digits. -/
def pad12 (n : Nat) : String :=
  String.ofList ((List.range 12).map fun i => hexDigit (n / 10 ^ (11 - i) % 10))

/-- `generate_short_code_from_uuid`. -/
def generateShortCodeFromUuid (id : Uuid) : String :=
  pad12 (id.folded % 1000000000000)

/-- `char::is_whitespace`: the Unicode property White_Space. -/
def isWhitespace (c : Char) : Bool :=
  (9 ≤ c.toNat && c.toNat ≤ 13) || (8192 ≤ c.toNat && c.toNat ≤ 8202) ||
    [32, 133, 160, 5760, 8232, 8233, 8239, 8287, 12288].contains c.toNat

/-- `SHORT_CODE_LENGTH`. -/
def shortCodeLength : Nat := 12

/-- `validate_short_code`. -/
def validateShortCode (s : String) : Except ApiError Unit :=
  let digitsOnly := String.ofList (s.toList.filter fun c => !isWhitespace c)
  if byteLen digitsOnly ≠ shortCodeLength then
    .error (.badRequest (some
      s!"Invalid short code length: expected {shortCodeLength} digits, got {byteLen digitsOnly}"))
  else if digitsOnly.toList.all isAsciiDigit = false then
    .error (.badRequest (some "Short code must contain only digits"))
  else .ok ()

/-! ## Nonce tags -/

/-- What the code takes from the Unicode tables of the standard library. -/
structure Unicode where
  /-- `char::is_alphanumeric`. -/
  isAlphanumeric : Char → Bool
  /-- `str::to_lowercase`. -/
  toLowercase : String → String
  isAlphanumeric_ascii : ∀ c : Char, c.toNat < 128 → isAlphanumeric c = isAsciiAlphanumeric c

/-- The tables restricted to ASCII. -/
def Unicode.ascii : Unicode :=
  { isAlphanumeric := isAsciiAlphanumeric
    toLowercase := fun s => String.ofList (s.toList.map Char.toLower)
    isAlphanumeric_ascii := fun _ _ => rfl }

/-- `MAX_NONCE_TAG_LENGTH` of `utils/validation.rs`. -/
def maxNonceTagLength : Nat := 256

/-- `str::contains` for a pattern of characters. -/
def containsSub (s : String) (pat : List Char) : Bool :=
  s.toList.tails.any fun t => pat.isPrefixOf t

/-- `validate_nonce_tag`. -/
def validateNonceTag (uni : Unicode) (tag : String) : Except ApiError Unit :=
  if tag.toList = [] then
    .error (.badRequest (some "Nonce tag cannot be empty"))
  else if byteLen tag > maxNonceTagLength then
    .error (.badRequest (some s!"Nonce tag too long (max {maxNonceTagLength} characters)"))
  else if tag.toList.contains '\x00' then
    .error (.badRequest (some "Nonce tag contains invalid null byte"))
  else if containsSub tag ['.', '.', '/'] || containsSub tag ['.', '.', '\\'] then
    .error (.badRequest (some "Nonce tag contains path traversal sequence"))
  else if !tag.toList.all fun c => uni.isAlphanumeric c || c = '-' || c = '_' || c = ':' then
    .error (.badRequest (some
      "Nonce tag contains invalid characters (allowed: alphanumeric, -, _, :)"))
  else .ok ()

/-! ## What the generators produce passes the validators -/

/-- The digits `hexDigit` produces. -/
def hexDigits : List Char :=
  ['0', '1', '2', '3', '4', '5', '6', '7', '8', '9', 'a', 'b', 'c', 'd', 'e', 'f']

theorem hexDigit_mem (n : Nat) : hexDigit n ∈ hexDigits := by
  have hn : n % 16 < 16 := Nat.mod_lt _ (by decide)
  unfold hexDigit
  interval_cases n % 16 <;> decide

theorem isAsciiHexdigit_hexDigit (n : Nat) : isAsciiHexdigit (hexDigit n) = true := by
  have h : ∀ c ∈ hexDigits, isAsciiHexdigit c = true := List.all_eq_true.mp (by decide)
  exact h _ (hexDigit_mem n)

theorem isAsciiDigit_hexDigit {n : Nat} (hn : n < 10) : isAsciiDigit (hexDigit n) = true := by
  unfold hexDigit
  interval_cases n <;> decide

theorem utf8EncodeChar_ascii {c : Char} (h : c.toNat < 128) :
    String.utf8EncodeChar c = [UInt8.ofNat c.toNat] := by
  simp [String.utf8EncodeChar, Nat.le_of_lt_succ h]

/-- The bytes of an ASCII string are its characters. -/
theorem utf8Bytes_ofList {cs : List Char} (h : ∀ c ∈ cs, c.toNat < 128) :
    utf8Bytes (String.ofList cs) = cs.map fun c => UInt8.ofNat c.toNat := by
  unfold utf8Bytes
  rw [String.toList_ofList]
  induction cs with
  | nil => rfl
  | cons c cs ih =>
    rw [List.flatMap_cons, utf8EncodeChar_ascii (h c (by simp)),
      ih fun d hd => h d (List.mem_cons_of_mem c hd)]
    rfl

theorem byteLen_ofList {cs : List Char} (h : ∀ c ∈ cs, c.toNat < 128) :
    byteLen (String.ofList cs) = cs.length := by
  rw [byteLen, utf8Bytes_ofList h, List.length_map]

theorem utf8Bytes_append (s t : String) : utf8Bytes (s ++ t) = utf8Bytes s ++ utf8Bytes t := by
  unfold utf8Bytes
  rw [String.toList_append, List.flatMap_append]

theorem fromUTF8_utf8Bytes (s : String) :
    String.fromUTF8? (utf8Bytes s).toByteArray = some s := by
  have hbytes : (utf8Bytes s).toByteArray = s.toByteArray := by
    rw [← String.utf8Encode_toList]
    rfl
  unfold String.fromUTF8?
  rw [hbytes, dif_pos s.isValidUTF8]
  rfl

theorem utf8Bytes_injective {s t : String} (h : utf8Bytes s = utf8Bytes t) : s = t := by
  have hs := fromUTF8_utf8Bytes s
  rw [h, fromUTF8_utf8Bytes t] at hs
  exact (Option.some.inj hs).symm

theorem byteLen_append (s t : String) : byteLen (s ++ t) = byteLen s + byteLen t := by
  unfold byteLen
  rw [utf8Bytes_append, List.length_append]

theorem byteLen_of_ascii {s : String} (h : ∀ c ∈ s.toList, c.toNat < 128) :
    byteLen s = s.toList.length := by
  rw [← byteLen_ofList h, String.ofList_toList]

/-- The characters of an id's text, one by one. -/
theorem Uuid.toString_toList (id : Uuid) : id.toString.toList =
    id.digits 0 8 ++ '-' :: id.digits 8 4 ++ '-' :: id.digits 12 4 ++ '-' :: id.digits 16 4 ++
      '-' :: id.digits 20 12 := by
  rw [Uuid.toString, String.toList_ofList]

/-- An id's text is made of hexadecimal digits and hyphens. -/
theorem Uuid.mem_toString {id : Uuid} {c : Char} (h : c ∈ id.toString.toList) :
    c ∈ hexDigits ∨ c = '-' := by
  rw [Uuid.toString_toList] at h
  simp only [Uuid.digits, List.mem_append, List.mem_cons, List.mem_map] at h
  rcases h with (((⟨_, -, rfl⟩ | rfl | ⟨_, -, rfl⟩) | rfl | ⟨_, -, rfl⟩) | rfl | ⟨_, -, rfl⟩) |
    rfl | ⟨_, -, rfl⟩
  all_goals first | exact Or.inl (hexDigit_mem _) | exact Or.inr rfl

theorem Uuid.toString_ascii (id : Uuid) : ∀ c ∈ id.toString.toList, c.toNat < 128 := by
  intro c hc
  rcases Uuid.mem_toString hc with hc | rfl
  · have h : ∀ c ∈ hexDigits, c.toNat < 128 := by simp [hexDigits]
    exact h c hc
  · decide

theorem Uuid.utf8Bytes_toString (id : Uuid) :
    utf8Bytes id.toString = id.toString.toList.map fun c => UInt8.ofNat c.toNat := by
  rw [← utf8Bytes_ofList id.toString_ascii, String.ofList_toList]

theorem validateChallengeId_toString (id : Uuid) : validateChallengeId id.toString = .ok () := by
  have hlen : byteLen id.toString = 36 := by
    rw [byteLen, Uuid.utf8Bytes_toString, List.length_map, Uuid.toString_toList]
    simp [Uuid.digits]
  have hhex : ∀ i, isAsciiHexdigit (hexDigit (id.nibble i)) = true :=
    fun i => isAsciiHexdigit_hexDigit _
  unfold validateChallengeId validateUuidFormat
  rw [if_neg (by simp [hlen]), Uuid.utf8Bytes_toString, Uuid.toString_toList]
  simp [Uuid.digits, List.range', hhex]

theorem hexValue_hexDigit (n : Nat) : hexValue (hexDigit n) = n % 16 := by
  have hn : n % 16 < 16 := Nat.mod_lt _ (by decide)
  unfold hexDigit
  interval_cases n % 16 <;> decide

/-- Reading the leading `k` of `m` hexadecimal digits gives the leading part of the number. -/
theorem hexNumber_leading (n m : Nat) : ∀ k ≤ m, n < 16 ^ m →
    hexNumber ((List.range' 0 k).map fun i => hexDigit (n / 16 ^ (m - 1 - i) % 16)) =
      n / 16 ^ (m - k) := by
  intro k
  induction k with
  | zero =>
    intro _ hn
    simp [hexNumber, Nat.div_eq_of_lt hn]
  | succ k ih =>
    intro hk hn
    have hstep := ih (by omega) hn
    unfold hexNumber at hstep ⊢
    rw [List.range'_1_concat, List.map_append, List.foldl_append, hstep]
    have hpow : 16 ^ (m - k) = 16 ^ (m - (k + 1)) * 16 := by
      rw [← Nat.pow_succ]
      congr 1
      omega
    have hidx : m - 1 - (0 + k) = m - (k + 1) := by omega
    simp only [List.map_cons, List.map_nil, List.foldl_cons, List.foldl_nil, hexValue_hexDigit,
      hidx, Nat.mod_mod, hpow, ← Nat.div_div_eq_div_mul]
    omega

/-- Parsing the text of an id gives the id back. -/
theorem parseUuid_toString (id : Uuid) : parseUuid id.toString = some id := by
  have hhex : ∀ n, isAsciiHexdigit (hexDigit n) = true := isAsciiHexdigit_hexDigit
  have hne : ∀ n, hexDigit n ≠ '-' := by
    have h : ∀ c ∈ hexDigits, c ≠ '-' := by simp [hexDigits]
    exact fun n => h _ (hexDigit_mem n)
  have hfilter : (id.toString.toList.filter fun c => c ≠ '-') = id.digits 0 32 := by
    rw [Uuid.toString_toList]
    simp [Uuid.digits, List.range', hne]
  have hnum : hexNumber (id.digits 0 32) = id.toNat := by
    have := hexNumber_leading id.toNat 32 32 (Nat.le_refl _) id.isLt
    simpa [Uuid.digits, Uuid.nibble] using this
  have hlen : id.toString.toList.length = 36 := by
    rw [Uuid.toString_toList]
    simp [Uuid.digits]
  have hparse : parseHyphenated id.toString.toList = some id := by
    unfold parseHyphenated
    simp only [hfilter]
    rw [if_pos, hnum, BitVec.ofNat_toNat, BitVec.setWidth_eq]
    refine ⟨hlen, ?_, by simp [Uuid.digits], ?_⟩
    · rw [Uuid.toString_toList]
      simp [Uuid.digits, List.range']
    · simp [Uuid.digits, hhex]
  unfold parseUuid
  simp only [hlen, hparse]
  rfl

/-- Different ids have different texts. -/
theorem Uuid.toString_injective {a b : Uuid} (h : a.toString = b.toString) : a = b := by
  have := parseUuid_toString a
  rw [h, parseUuid_toString b] at this
  exact (Option.some.inj this).symm

/-! ## Short codes and nonce tags -/

theorem pad12_digits (n : Nat) : ∀ c ∈ (pad12 n).toList, isAsciiDigit c = true := by
  intro c hc
  simp only [pad12, String.toList_ofList, List.mem_map] at hc
  obtain ⟨i, -, rfl⟩ := hc
  exact isAsciiDigit_hexDigit (Nat.mod_lt _ (by decide))

theorem pad12_length (n : Nat) : (pad12 n).toList.length = 12 := by
  simp [pad12]

theorem isAsciiDigit_bounds {c : Char} (h : isAsciiDigit c = true) :
    48 ≤ c.toNat ∧ c.toNat ≤ 57 := by
  simp only [isAsciiDigit, Bool.and_eq_true, decide_eq_true_eq] at h
  exact ⟨h.1, h.2⟩

theorem isWhitespace_of_digit {c : Char} (h : isAsciiDigit c = true) : isWhitespace c = false := by
  obtain ⟨h1, h2⟩ := isAsciiDigit_bounds h
  simp [isWhitespace]
  omega

/-- Twelve digits are a short code. -/
theorem validateShortCode_of_digits {s : String} (hlen : s.toList.length = 12)
    (hd : ∀ c ∈ s.toList, isAsciiDigit c = true) : validateShortCode s = .ok () := by
  have hfilter : (s.toList.filter fun c => !isWhitespace c) = s.toList := by
    rw [List.filter_eq_self]
    intro c hc
    simp [isWhitespace_of_digit (hd c hc)]
  have hascii : ∀ c ∈ s.toList, c.toNat < 128 := by
    intro c hc
    have := isAsciiDigit_bounds (hd c hc)
    omega
  have hbytes : byteLen (String.ofList s.toList) = shortCodeLength := by
    rw [byteLen_ofList hascii, hlen]
    rfl
  unfold validateShortCode
  rw [hfilter, if_neg (by simpa using hbytes), if_neg (by simpa using hd)]

/-- The ASCII characters a nonce tag may hold. -/
def isTagChar (c : Char) : Bool :=
  isAsciiAlphanumeric c || c = '-' || c = '_' || c = ':'

theorem isTagChar_ascii {c : Char} (h : isTagChar c = true) : c.toNat < 128 := by
  have hle : ∀ d : Char, d.toNat < 128 → c ≤ d → c.toNat < 128 :=
    fun d hd hcd => Nat.lt_of_le_of_lt hcd hd
  simp only [isTagChar, isAsciiAlphanumeric, isAsciiDigit, Bool.or_eq_true, Bool.and_eq_true,
    decide_eq_true_eq] at h
  rcases h with ((((⟨-, h⟩ | ⟨-, h⟩) | ⟨-, h⟩) | rfl) | rfl) | rfl
  · exact hle '9' (by decide) h
  · exact hle 'z' (by decide) h
  · exact hle 'Z' (by decide) h
  all_goals decide

theorem containsSub_head {s : String} {a : Char} {pat : List Char}
    (h : containsSub s (a :: pat) = true) : a ∈ s.toList := by
  obtain ⟨t, ht, hp⟩ := List.any_eq_true.mp h
  obtain ⟨u, hu⟩ := List.isPrefixOf_iff_prefix.mp hp
  exact ((List.mem_tails t s.toList).mp ht).subset (by rw [← hu]; simp)

/-- A short non-empty tag of ASCII tag characters passes `validate_nonce_tag`. -/
theorem validateNonceTag_ok (uni : Unicode) {tag : String} (hne : tag.toList ≠ [])
    (hlen : tag.toList.length ≤ maxNonceTagLength)
    (hc : ∀ c ∈ tag.toList, isTagChar c = true) : validateNonceTag uni tag = .ok () := by
  have hascii : ∀ c ∈ tag.toList, c.toNat < 128 := fun c h => isTagChar_ascii (hc c h)
  have hbytes : byteLen tag = tag.toList.length := by
    rw [← byteLen_ofList hascii, String.ofList_toList]
  have hdot : ∀ pat, containsSub tag ('.' :: pat) = false := by
    intro pat
    by_contra h
    have := hc _ (containsSub_head (by simpa using h))
    exact absurd this (by decide)
  have hnul : tag.toList.contains '\x00' = false := by
    by_contra h
    have := hc _ (by simpa using h)
    exact absurd this (by decide)
  have hall : (tag.toList.all fun c => uni.isAlphanumeric c || c = '-' || c = '_' || c = ':') =
      true := by
    rw [List.all_eq_true]
    intro c h
    rw [uni.isAlphanumeric_ascii c (hascii c h)]
    exact hc c h
  unfold validateNonceTag
  rw [if_neg hne, if_neg (by omega), hnul, hdot, hdot, hall]
  rfl

/-- Tags of the form `label:id` are valid. -/
theorem validateNonceTag_label (uni : Unicode) {label : String} (id : Uuid)
    (hlen : label.toList.length ≤ 220) (hl : ∀ c ∈ label.toList, isTagChar c = true) :
    validateNonceTag uni (label ++ id.toString) = .ok () := by
  have hid : id.toString.toList.length = 36 := by
    rw [Uuid.toString_toList]
    simp [Uuid.digits]
  apply validateNonceTag_ok
  · intro h
    have := congrArg List.length h
    simp [hid] at this
  · rw [String.toList_append, List.length_append, hid]
    unfold maxNonceTagLength
    omega
  · intro c h
    rw [String.toList_append, List.mem_append] at h
    rcases h with h | h
    · exact hl c h
    · have hhex : ∀ c ∈ hexDigits, isTagChar c = true := List.all_eq_true.mp (by decide)
      rcases Uuid.mem_toString h with h | rfl
      · exact hhex c h
      · decide

end ProviiVerifier

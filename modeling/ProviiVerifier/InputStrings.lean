/-
  `validate_string` of `security/validation.rs`: reject NUL, trim, limit the length, normalise.

  The normalisation is that of the `unicode-normalization` crate and is a parameter. What is assumed
  of it (`Nfc`) is that it is idempotent, that it makes no NUL, and that white space is a boundary
  of it: a character of white space becomes one, on its own, and a text without white space gets
  none and does not vanish.

  Proved: under the default rules, what is returned is within the limit, without NUL, trimmed,
  normalised and returned again when it is validated again, exactly when the normal form of the
  trimmed text fits, or the text is refused anyway (`validate_string_iff`). The length is checked
  before the normalisation, which may make a text longer.
-/
import ProviiVerifier.OriginPatterns

namespace ProviiVerifier

namespace InputStrings

open OriginPatterns (trim)

/-! ## The validator -/

/-- `ValidationRules`, without the limits of the single fields. -/
structure ValidationRules where
  allowNullBytes : Bool
  stripWhitespace : Bool
  normalizeUnicode : Bool
  deriving DecidableEq, Repr

/-- `ValidationRules::default`. -/
def ValidationRules.default : ValidationRules :=
  { allowNullBytes := false
    stripWhitespace := true
    normalizeUnicode := true }

/-- `UnicodeNormalization::nfc`, on the characters of a text. -/
abbrev Normalizer := List Char → List Char

/-- `validate_string`. -/
def validateString (nfc : Normalizer) (rules : ValidationRules) (value fieldName : String)
    (maxSize : Nat) : Except ApiError String :=
  if rules.allowNullBytes = false ∧ value.toList.contains '\x00' = true then
    .error (.badRequest (some (fieldName ++ " contains null bytes")))
  else
    let value := if rules.stripWhitespace then trim value else value
    if byteLen value > maxSize then
      .error (.badRequest (some
        (fieldName ++ " exceeds maximum size of " ++ toString maxSize ++ " bytes")))
    else
      .ok (if rules.normalizeUnicode then String.ofList (nfc value.toList) else value)

/-! ## Normalisation -/

/-- What is assumed of a normalisation to NFC. -/
structure Nfc (nfc : Normalizer) : Prop where
  idempotent : ∀ cs, nfc (nfc cs) = nfc cs
  nul : ∀ cs, '\x00' ∈ nfc cs → '\x00' ∈ cs
  /-- White space is normalised on its own, to white space. -/
  boundary : ∀ a c b, isWhitespace c = true →
    ∃ d, isWhitespace d = true ∧ nfc (a ++ c :: b) = nfc a ++ d :: nfc b
  word : ∀ cs, (∀ c ∈ cs, isWhitespace c = false) → ∀ c ∈ nfc cs, isWhitespace c = false
  nonempty : ∀ cs, nfc cs = [] → cs = []

variable {nfc : Normalizer} {cs : List Char} {c : Char}

/-- A text without white space at its start has none at the start of its normal form. -/
theorem Nfc.head (h : Nfc nfc) (hhead : ∀ c, cs.head? = some c → isWhitespace c = false)
    (hc : (nfc cs).head? = some c) : isWhitespace c = false := by
  let isWord := fun c => !isWhitespace c
  have hsplit : cs.takeWhile isWord ++ cs.dropWhile isWord = cs := List.takeWhile_append_dropWhile
  have hword : ∀ c ∈ cs.takeWhile isWord, isWhitespace c = false := by
    intro c hmem
    have hnot := List.mem_takeWhile_imp hmem
    rwa [Bool.not_eq_true'] at hnot
  cases hrest : cs.dropWhile isWord with
  | nil =>
    rw [hrest, List.append_nil] at hsplit
    rw [hsplit] at hword
    exact h.word cs hword c (List.mem_of_mem_head? hc)
  | cons w rest =>
    have hw : isWhitespace w = true := by
      have hnot := Splitting.head_of_dropWhile (congrArg List.head? hrest)
      rwa [Bool.not_eq_false'] at hnot
    obtain ⟨d, -, hnfc⟩ := h.boundary (cs.takeWhile isWord) w rest hw
    rw [hrest] at hsplit
    rw [hsplit] at hnfc
    cases hfirst : nfc (cs.takeWhile isWord) with
    | nil =>
      -- nothing stands before the white space
      have hnone := h.nonempty _ hfirst
      rw [hnone, List.nil_append] at hsplit
      rw [hhead w (by rw [← hsplit]; rfl)] at hw
      cases hw
    | cons e word =>
      rw [hnfc, hfirst] at hc
      injection hc with hc
      rw [← hc]
      exact h.word _ hword e (hfirst ▸ List.mem_cons_self)

/-- The normalisation read from the end. -/
def reversed (nfc : Normalizer) : Normalizer := fun cs => (nfc cs.reverse).reverse

theorem Nfc.reversed (h : Nfc nfc) : Nfc (InputStrings.reversed nfc) := by
  unfold InputStrings.reversed
  refine ⟨fun cs => ?_, fun cs hnul => ?_, fun a c b hc => ?_, fun cs hcs c hc => ?_,
    fun cs hnil => ?_⟩
  · rw [List.reverse_reverse, h.idempotent]
  · rw [List.mem_reverse] at hnul
    exact List.mem_reverse.mp (h.nul _ hnul)
  · obtain ⟨d, hd, heq⟩ := h.boundary b.reverse c a.reverse hc
    refine ⟨d, hd, ?_⟩
    rw [List.reverse_append, List.reverse_cons, List.append_assoc, List.singleton_append, heq]
    simp
  · rw [List.mem_reverse] at hc
    exact h.word cs.reverse (fun c hmem => hcs c (List.mem_reverse.mp hmem)) c hc
  · rw [List.reverse_eq_nil_iff] at hnil
    exact List.reverse_eq_nil_iff.mp (h.nonempty _ hnil)

/-- A text without white space at its end has none at the end of its normal form. -/
theorem Nfc.last (h : Nfc nfc) (hlast : ∀ c, cs.getLast? = some c → isWhitespace c = false)
    (hc : (nfc cs).getLast? = some c) : isWhitespace c = false := by
  have hhead : ∀ c, cs.reverse.head? = some c → isWhitespace c = false := by
    intro c hc
    rw [List.head?_reverse] at hc
    exact hlast c hc
  refine h.reversed.head hhead (c := c) ?_
  unfold InputStrings.reversed
  rw [List.reverse_reverse, List.head?_reverse]
  exact hc

/-! ## What is returned -/

/-- What a returned text is for: it fits, has no NUL and no white space at its ends, is normalised,
and is returned again. -/
structure Sanitised (nfc : Normalizer) (fieldName : String) (maxSize : Nat) (s : String) :
    Prop where
  size : byteLen s ≤ maxSize
  nul : '\x00' ∉ s.toList
  head : ∀ c, s.toList.head? = some c → isWhitespace c = false
  last : ∀ c, s.toList.getLast? = some c → isWhitespace c = false
  normal : nfc s.toList = s.toList
  again : validateString nfc .default s fieldName maxSize = .ok s

/-- The text as it is written in the normal form, after it is trimmed. -/
def normalForm (nfc : Normalizer) (value : String) : String :=
  String.ofList (nfc (trim value).toList)

/-- The text is refused for a NUL or its length, or its normal form fits. -/
def Fits (nfc : Normalizer) (value : String) (maxSize : Nat) : Prop :=
  '\x00' ∈ value.toList ∨ maxSize < byteLen (trim value) ∨ byteLen (normalForm nfc value) ≤ maxSize

variable {value fieldName s : String} {maxSize : Nat}

/-- What the default rules accept, and what they return. -/
theorem validateString_ok_iff : validateString nfc .default value fieldName maxSize = .ok s ↔
    '\x00' ∉ value.toList ∧ byteLen (trim value) ≤ maxSize ∧ s = normalForm nfc value := by
  unfold validateString ValidationRules.default normalForm
  simp only [true_and, if_true]
  split
  · next hnul =>
    have hmem : '\x00' ∈ value.toList := List.contains_iff_mem.mp hnul
    simp [hmem]
  · next hnul =>
    have hmem : '\x00' ∉ value.toList := fun hmem => hnul (List.contains_iff_mem.mpr hmem)
    split
    · next hlong =>
      have hle : ¬ byteLen (trim value) ≤ maxSize := Nat.not_le.mpr hlong
      simp [hle]
    · next hshort =>
      have hle : byteLen (trim value) ≤ maxSize := Nat.le_of_not_gt hshort
      simp only [Except.ok.injEq, hmem, not_false_eq_true, hle, true_and]
      exact eq_comm

theorem mem_of_mem_trim {c : Char} (h : c ∈ (trim value).toList) : c ∈ value.toList := by
  unfold trim at h
  rw [String.toList_ofList] at h
  exact (List.dropWhile_suffix _).subset (Splitting.trimEnd_subset h)

/-- **A normal form that fits** is sanitised. -/
theorem sanitised_normalForm (h : Nfc nfc) (hnul : '\x00' ∉ value.toList)
    (hfits : byteLen (normalForm nfc value) ≤ maxSize) :
    Sanitised nfc fieldName maxSize (normalForm nfc value) := by
  have hlist : (normalForm nfc value).toList = nfc (trim value).toList := String.toList_ofList
  have hno : '\x00' ∉ (normalForm nfc value).toList := by
    rw [hlist]
    exact fun hmem => hnul (mem_of_mem_trim (h.nul _ hmem))
  have hhead : ∀ c, (normalForm nfc value).toList.head? = some c → isWhitespace c = false := by
    intro c hc
    rw [hlist] at hc
    refine h.head (fun c hc => ?_) hc
    unfold trim at hc
    rw [String.toList_ofList] at hc
    exact Splitting.head_of_trim hc
  have hlast : ∀ c, (normalForm nfc value).toList.getLast? = some c → isWhitespace c = false := by
    intro c hc
    rw [hlist] at hc
    refine h.last (fun c hc => ?_) hc
    unfold trim at hc
    rw [String.toList_ofList] at hc
    exact Splitting.last_of_trim hc
  have hnormal : nfc (normalForm nfc value).toList = (normalForm nfc value).toList := by
    rw [hlist, h.idempotent]
  have htrim : trim (normalForm nfc value) = normalForm nfc value := by
    unfold trim
    rw [Splitting.trim_of_ends hhead hlast, String.ofList_toList]
  refine ⟨hfits, hno, hhead, hlast, hnormal, ?_⟩
  rw [validateString_ok_iff, htrim]
  refine ⟨hno, hfits, ?_⟩
  have hself : normalForm nfc (normalForm nfc value) = String.ofList
      (nfc (trim (normalForm nfc value)).toList) := rfl
  rw [hself, htrim, hnormal, String.ofList_toList]

/-- **Sanitising a text.** Whatever is returned is sanitised exactly when the text is refused or its
normal form fits. -/
theorem validate_string_iff (nfc : Normalizer) (h : Nfc nfc) (value fieldName : String)
    (maxSize : Nat) :
    (∀ s, validateString nfc .default value fieldName maxSize = .ok s →
      Sanitised nfc fieldName maxSize s) ↔ Fits nfc value maxSize := by
  constructor
  · intro hall
    by_cases hnul : '\x00' ∈ value.toList
    · exact .inl hnul
    · by_cases hlong : maxSize < byteLen (trim value)
      · exact .inr (.inl hlong)
      · have hok : validateString nfc .default value fieldName maxSize =
            .ok (normalForm nfc value) :=
          validateString_ok_iff.mpr ⟨hnul, Nat.le_of_not_gt hlong, rfl⟩
        exact .inr (.inr (hall _ hok).size)
  · intro hfits s hs
    obtain ⟨hnul, hshort, rfl⟩ := validateString_ok_iff.mp hs
    rcases hfits with hmem | hlong | hfits
    · exact absurd hmem hnul
    · exact absurd hshort (Nat.not_le.mpr hlong)
    · exact sanitised_normalForm h hnul hfits

/-! ## A letter that gets longer -/

namespace Sample

/-- The Devanagari letter QA, whose normal form is the letter KA and a nukta. -/
def qa : Char := Char.ofNat 0x958

def ka : Char := Char.ofNat 0x915

def nukta : Char := Char.ofNat 0x93C

/-- The normalisation of texts in which only this letter is not normalised. -/
def normalize : Normalizer := fun cs => cs.flatMap fun c => if c = qa then [ka, nukta] else [c]

theorem normalize_append (a b : List Char) : normalize (a ++ b) = normalize a ++ normalize b :=
  List.flatMap_append

theorem normalize_cons (c : Char) (cs : List Char) :
    normalize (c :: cs) = (if c = qa then [ka, nukta] else [c]) ++ normalize cs := List.flatMap_cons

theorem mem_normalize {c : Char} {cs : List Char} (h : c ∈ normalize cs) :
    c ∈ cs ∨ c = ka ∨ c = nukta := by
  obtain ⟨d, hd, hc⟩ := List.mem_flatMap.mp h
  split at hc
  · simp only [List.mem_cons, List.not_mem_nil, or_false] at hc
    exact .inr hc
  · rw [List.mem_singleton] at hc
    exact .inl (hc ▸ hd)

theorem isNfc : Nfc normalize := by
  refine ⟨fun cs => ?_, fun cs h => ?_, fun a c b hc => ⟨c, hc, ?_⟩, fun cs hcs c hc => ?_,
    fun cs h => ?_⟩
  · induction cs with
    | nil => rfl
    | cons c cs ih =>
      rw [normalize_cons, normalize_append, ih]
      by_cases hqa : c = qa
      · rw [if_pos hqa]
        rfl
      · rw [if_neg hqa, normalize_cons, if_neg hqa]
        rfl
  · rcases mem_normalize h with h | h | h
    · exact h
    · exact absurd h (by decide)
    · exact absurd h (by decide)
  · have hqa : c ≠ qa := by
      rintro rfl
      exact absurd hc (by decide)
    rw [normalize_append, normalize_cons, if_neg hqa]
    rfl
  · rcases mem_normalize hc with hc | rfl | rfl
    · exact hcs c hc
    · decide
    · decide
  · cases cs with
    | nil => rfl
    | cons c cs =>
      rw [normalize_cons] at h
      split at h <;> cases h

/-- The letter. -/
def letter : String := String.ofList [qa]

end Sample

/-- The letter has three bytes and what is returned for it has six, which are refused when they are
validated again. -/
theorem longer_normal_form :
    let result := normalForm Sample.normalize Sample.letter
    Nfc Sample.normalize ∧
      validateString Sample.normalize .default Sample.letter "name" 3 = .ok result ∧
      byteLen result = 6 ∧ ¬ Sanitised Sample.normalize "name" 3 result ∧
      validateString Sample.normalize .default result "name" 3 ≠ .ok result := by
  have hlen : byteLen (normalForm Sample.normalize Sample.letter) = 6 := by decide
  refine ⟨Sample.isNfc, by decide, hlen, fun h => ?_, by decide⟩
  have hsize := h.size
  rw [hlen] at hsize
  omega

/-- The same letter where six bytes are allowed. -/
theorem validate_string_iff_six :
    Nfc Sample.normalize ∧
      ((∀ s, validateString Sample.normalize .default Sample.letter "name" 6 = .ok s →
        Sanitised Sample.normalize "name" 6 s) ↔ Fits Sample.normalize Sample.letter 6) :=
  ⟨Sample.isNfc, validate_string_iff Sample.normalize Sample.isNfc Sample.letter "name" 6⟩

end InputStrings

end ProviiVerifier

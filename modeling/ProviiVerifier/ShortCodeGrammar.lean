/-
  The grammars of a short code: `generate_short_code_from_uuid` and `get_challenge_by_short_code` of
  `routes/challenge.rs`, `ShortCode` of `types/strict.rs`, `validate_short_code` of
  `utils/validation.rs`, and the lookup by code of the Durable Object, from the URL of the request.

  Proved: a generated code is twelve digits; the four validators accept the strings that are twelve
  ASCII digits without their white space, and agree on the code (`new_iff`, `deserialize_iff`,
  `validateShortCode_iff`, `byShortCode_iff`); the lookup in `KV_CONFIG` reads the entry of that
  code, which is what creation writes (`only_readsCode`). The object looks up the segment of the
  path as it is, percent-encoded: it uses the entry of the code exactly when no white space is left
  in the string that a URL keeps (`lookupAgrees_iff`). All together are `grammars_agree_iff`. Of the
  `url` crate it is assumed what path it gives to such a URL (`ReadsCodes`).
-/
import ProviiVerifier.ShortCodeEntries
import ProviiVerifier.StrictTypes
import Mathlib.Data.List.DropRight

namespace ProviiVerifier

/-- The deserialiser of a `ShortCode`, from the string that it is given. -/
def ShortCode.deserialize (s : String) : Except StrictTypes.DeError String :=
  let normalized := String.ofList (s.toList.filter fun c => !isWhitespace c)
  if byteLen normalized ≠ 12 then
    .error (.invalidValue s "12-digit numeric code (with or without spaces)")
  else if normalized.toList.all isAsciiDigit = false then
    .error (.invalidValue s "numeric characters only (0-9)")
  else .ok normalized

/-- `ShortCode::display_formatted`. -/
def ShortCode.displayFormatted (code : String) : String :=
  let cs := code.toList
  String.ofList (cs.take 4 ++ [' '] ++ (cs.drop 4).take 4 ++ [' '] ++ (cs.drop 8).take 4)

/-- The GET branch of `fetch`, at the path of the URL. -/
def ChallengeDO.fetchGet (st : Storage) (now : Nat) (f : Faults) (path : String) :
    Option Reply × Storage :=
  match (path.toList.splitOn '/').map String.ofList with
  | _ :: resourceType :: identifier :: _ =>
    if resourceType = "code" then fetch st now f (.getByCode identifier)
    else fetch st now f (.get identifier)
  | _ => (some (.status 400), st)

namespace ShortCodeGrammar

open Interleaving Prog ChallengeLookup

/-! ## The grammar -/

/-- Twelve ASCII digits. -/
def TwelveDigits (code : String) : Prop :=
  code.toList.length = 12 ∧ ∀ c ∈ code.toList, isAsciiDigit c = true

/-- The string is the code, with white space anywhere. -/
def Accepts (s code : String) : Prop := TwelveDigits code ∧ normalised s = code

/-- The operation reads no entry of `KV_CONFIG`, or that of the code. -/
def ReadsCode (code : String) : Op → Prop
  | .configGet key => key = CreateChallenge.codeKey code
  | _ => True

/-- The URL of a lookup by code. -/
def codeUrl (s : String) : String := "https://do.internal/code/" ++ s

/-- What a URL keeps of the string that it ends in: no control character or space at its end, and no
tab or line break. -/
def kept (s : String) : String :=
  String.ofList ((s.toList.rdropWhile (·.toNat ≤ 32)).filter fun c =>
    !(c = '\t' ∨ c = '\n' ∨ c = '\r'))

/-- The path that the `url` crate gives to the URL of a string of digits and white space. -/
def ReadsCodes (path : String → Option String) : Prop :=
  ∀ s, (∀ c ∈ s.toList, isAsciiDigit c = true ∨ isWhitespace c = true) →
    path (codeUrl s) = some ("/code/" ++ percentEncode (kept s))

/-- The object answers a GET request at a URL, which `path` is the `Url::path` of. -/
def receive (path : String → Option String) (st : ChallengeDO.Storage) (now : Nat)
    (f : ChallengeDO.Faults) (url : String) : Option ChallengeDO.Reply × ChallengeDO.Storage :=
  match path url with
  | none => (none, st)
  | some path => ChallengeDO.fetchGet st now f path

/-- What the object answers to a lookup that uses the entry of the code. -/
def lookUp (st : ChallengeDO.Storage) (now : Nat) (f : ChallengeDO.Faults) (code : String) :
    Option ChallengeDO.Reply × ChallengeDO.Storage :=
  match if f.codeGet then st.codes code else none with
  | some uuid => ChallengeDO.getChallenge st now f uuid
  | none => (some (.status 404), st)

/-- The error for a string that is no short code. -/
def invalidShortCode : ApiError :=
  .badRequestWith "INVALID_SHORT_CODE" (some "short_code")
    "Short code must be exactly 12 numeric digits"

/-- The validators agree on a string, and every lookup by it uses the entry of its code, which is
the one that creation stored. -/
structure Agrees (app : AppState) (path : String → Option String) (s : String) : Prop where
  generated : ∀ id : Uuid, Accepts (generateShortCodeFromUuid id) (generateShortCodeFromUuid id)
  formatted : ∀ code, TwelveDigits code → Accepts (ShortCode.displayFormatted code) code
  new : ∀ code, ShortCode.new s = .ok code ↔ Accepts s code
  deserialize : ∀ code, ShortCode.deserialize s = .ok code ↔ Accepts s code
  validate : validateShortCode s = .ok () ↔ ∃ code, Accepts s code
  byShortCode : getChallengeByShortCode app s ≠ .fail invalidShortCode ↔ ∃ code, Accepts s code
  kvLookup : ∀ code, Accepts s code →
    (getChallengeByShortCode app s).Only (ReadsCode code) ∧
      (app.configBinding = true → ∃ k, getChallengeByShortCode app s =
        .call (.configGet (CreateChallenge.codeKey code)) k)
  kvCreated : ∀ req, (CreateChallenge.createChallenge app req).Only ShortCodes.PutsCode
  doCreated : ∀ uuid body challenge id, ChallengeDO.admitCreate uuid body = .ok challenge →
    parseUuid uuid = some id → challenge.shortCode = generateShortCodeFromUuid id
  doLookup : ∀ code, Accepts s code → ∀ st now f,
    receive path st now f (codeUrl s) = lookUp st now f code

/-! ## The validators -/

variable {s code : String} {cs : List Char}

theorem normalised_eq (s : String) :
    normalised s = String.ofList (s.toList.filter fun c => !isWhitespace c) := by
  unfold normalised
  rfl

/-- Digits of twelve bytes are twelve digits. -/
theorem twelveDigits_iff : TwelveDigits code ↔
    byteLen code = 12 ∧ code.toList.all isAsciiDigit = true := by
  unfold TwelveDigits
  rw [List.all_eq_true]
  have hlen : (∀ c ∈ code.toList, isAsciiDigit c = true) → byteLen code = code.toList.length := by
    intro hdigits
    refine byteLen_of_ascii fun c hc => ?_
    have hbounds := isAsciiDigit_bounds (hdigits c hc)
    omega
  constructor
  · rintro ⟨htwelve, hdigits⟩
    exact ⟨(hlen hdigits).trans htwelve, hdigits⟩
  · rintro ⟨hbytes, hdigits⟩
    exact ⟨(hlen hdigits).symm.trans hbytes, hdigits⟩

theorem isShortCode_iff : isShortCode code = true ↔ TwelveDigits code := by
  rw [twelveDigits_iff]
  unfold isShortCode
  rw [Bool.and_eq_true, decide_eq_true_eq]

theorem accepts_iff : (∃ code, Accepts s code) ↔ TwelveDigits (normalised s) := by
  constructor
  · rintro ⟨code, hdigits, rfl⟩
    exact hdigits
  · intro h
    exact ⟨normalised s, h, rfl⟩

/-- `ShortCode::new`. -/
theorem new_iff : ShortCode.new s = .ok code ↔ Accepts s code := by
  unfold ShortCode.new Accepts
  rw [← normalised_eq]
  dsimp only
  constructor
  · intro h
    split at h
    · cases h
    · next hbytes =>
      split at h
      · cases h
      · next hdigits =>
        injection h with h
        rw [← h]
        exact ⟨twelveDigits_iff.mpr
          ⟨not_not.mp hbytes, (Bool.not_eq_false _).mp hdigits⟩, rfl⟩
  · rintro ⟨hcode, rfl⟩
    obtain ⟨hbytes, hdigits⟩ := twelveDigits_iff.mp hcode
    rw [if_neg (not_not.mpr hbytes), if_neg (by rw [hdigits]; exact Bool.noConfusion)]

/-- The deserialiser accepts what `ShortCode::new` does. -/
theorem deserialize_iff : ShortCode.deserialize s = .ok code ↔ Accepts s code := by
  rw [← new_iff]
  unfold ShortCode.deserialize ShortCode.new
  dsimp only
  split
  · simp
  · split
    · simp
    · simp

/-- `validate_short_code`. -/
theorem validateShortCode_iff : validateShortCode s = .ok () ↔ ∃ code, Accepts s code := by
  rw [accepts_iff, twelveDigits_iff]
  unfold validateShortCode shortCodeLength
  rw [← normalised_eq]
  dsimp only
  split
  · next hbytes => simp [hbytes]
  · next hbytes =>
    split
    · next hdigits => simp [hdigits]
    · next hdigits =>
      simp only [true_iff]
      exact ⟨not_not.mp hbytes, (Bool.not_eq_false _).mp hdigits⟩

variable {app : AppState}

/-- What `get_challenge_by_short_code` does with a string that it accepts. -/
theorem getChallengeByShortCode_of_accepts (h : Accepts s code)
    (hbinding : app.configBinding = true) :
    ∃ k, getChallengeByShortCode app s =
      .call (.configGet (CreateChallenge.codeKey code)) k := by
  obtain ⟨hcode, rfl⟩ := h
  unfold getChallengeByShortCode
  rw [if_neg (by rw [isShortCode_iff.mpr hcode]; exact Bool.noConfusion),
    if_neg (by rw [hbinding]; exact Bool.noConfusion)]
  exact ⟨_, rfl⟩

/-- `get_challenge_by_short_code` takes a string for a code. -/
theorem byShortCode_iff (app : AppState) (s : String) :
    getChallengeByShortCode app s ≠ .fail invalidShortCode ↔ ∃ code, Accepts s code := by
  rw [accepts_iff]
  constructor
  · intro h
    by_contra hcode
    rw [← isShortCode_iff, Bool.not_eq_true] at hcode
    apply h
    unfold getChallengeByShortCode
    rw [if_pos hcode]
    rfl
  · intro hcode h
    cases hbinding : app.configBinding with
    | true =>
      obtain ⟨k, hcall⟩ := getChallengeByShortCode_of_accepts ⟨hcode, rfl⟩ hbinding
      rw [hcall] at h
      cases h
    | false =>
      unfold getChallengeByShortCode at h
      rw [if_neg (by rw [isShortCode_iff.mpr hcode]; exact Bool.noConfusion),
        if_pos hbinding] at h
      cases h

/-! ## The entry that is read -/

theorem only_showChallenge (id : Uuid) : (showChallenge app id).Only (ReadsCode code) := by
  have hfetch : (ChallengeStore.get id).Only (ReadsCode code) := by
    refine (ChallengeStore.guarded_get (h := [])).only.imp fun op hop => ?_
    rcases hop with rfl | rfl
    · trivial
    · trivial
  unfold showChallenge
  refine Only.bind (Only.attempt hfetch) fun r => ?_
  rcases r with e | _ | cached
  · trivial
  · trivial
  · refine only_await_bind.mpr ⟨trivial, fun now => ?_⟩
    split
    · trivial
    · exact Only.bind only_ofExcept fun _ => only_ofExcept

/-- **The lookup in `KV_CONFIG`** reads the entry of the code and no other. -/
theorem only_readsCode (h : Accepts s code) :
    (getChallengeByShortCode app s).Only (ReadsCode code) := by
  obtain ⟨-, rfl⟩ := h
  unfold getChallengeByShortCode
  split
  · trivial
  · split
    · trivial
    · refine only_await_bind.mpr ⟨rfl, fun read => ?_⟩
      cases read with
      | value text =>
        dsimp only
        cases parseUuid text with
        | none => trivial
        | some id => exact only_showChallenge id
      | missing => trivial
      | failed => trivial
      | timedOut => trivial
      | bindingError => trivial

/-! ## What is generated and shown -/

theorem twelveDigits_generate (id : Uuid) : TwelveDigits (generateShortCodeFromUuid id) :=
  ⟨pad12_length _, pad12_digits _⟩

theorem normalised_of_plain (h : ∀ c ∈ s.toList, isWhitespace c = false) : normalised s = s := by
  rw [normalised_eq, List.filter_eq_self.mpr, String.ofList_toList]
  intro c hc
  rw [h c hc]
  rfl

theorem normalised_of_digits (h : TwelveDigits code) : normalised code = code :=
  normalised_of_plain fun c hc => isWhitespace_of_digit (h.2 c hc)

/-- A code as it is displayed is accepted for the code. -/
theorem accepts_displayFormatted (h : TwelveDigits code) :
    Accepts (ShortCode.displayFormatted code) code := by
  refine ⟨h, ?_⟩
  have hspace : isWhitespace ' ' = true := by decide
  have hdigits : ∀ part : List Char, (∀ c ∈ part, c ∈ code.toList) →
      part.filter (fun c => !isWhitespace c) = part := by
    intro part hpart
    rw [List.filter_eq_self]
    intro c hc
    rw [isWhitespace_of_digit (h.2 c (hpart c hc))]
    rfl
  have h1 := hdigits (code.toList.take 4) fun c hc => List.mem_of_mem_take hc
  have h2 := hdigits ((code.toList.drop 4).take 4)
    fun c hc => List.mem_of_mem_drop (List.mem_of_mem_take hc)
  have h3 := hdigits ((code.toList.drop 8).take 4)
    fun c hc => List.mem_of_mem_drop (List.mem_of_mem_take hc)
  have hjoin : code.toList.take 4 ++ ((code.toList.drop 4).take 4 ++
      (code.toList.drop 8).take 4) = code.toList := by
    have hrest : (code.toList.drop 8).take 4 = (code.toList.drop 4).drop 4 := by
      rw [List.drop_drop, List.take_of_length_le]
      rw [List.length_drop, h.1]
    rw [hrest, List.take_append_drop, List.take_append_drop]
  rw [normalised_eq]
  unfold ShortCode.displayFormatted
  rw [String.toList_ofList]
  simp only [List.filter_append, h1, h2, h3, List.filter_cons, hspace, Bool.not_true,
    Bool.false_eq_true, if_false, List.filter_nil, List.nil_append, List.append_assoc]
  rw [hjoin, String.ofList_toList]

/-! ## The object -/

/-- A created record has the code of its id. -/
theorem shortCode_of_admitCreate {uuid : String} {body : Body CachedChallenge}
    {challenge : CachedChallenge} {id : Uuid}
    (h : ChallengeDO.admitCreate uuid body = .ok challenge) (hid : parseUuid uuid = some id) :
    challenge.shortCode = generateShortCodeFromUuid id := by
  unfold ChallengeDO.admitCreate at h
  split at h
  · cases h
  · split at h
    · cases h
    · split at h
      · cases h
      · split at h
        · cases h
        · split at h
          · next hmatches =>
            rw [← Except.ok.inj h]
            unfold ChallengeDO.shortCodeMatches at hmatches
            rw [hid] at hmatches
            exact of_decide_eq_true hmatches
          · cases h

/-- Every character of an accepted string is a digit or white space. -/
theorem digit_or_space (h : Accepts s code) {c : Char} (hc : c ∈ s.toList) :
    isAsciiDigit c = true ∨ isWhitespace c = true := by
  cases hspace : isWhitespace c with
  | true => exact .inr rfl
  | false =>
    refine .inl (h.1.2 c ?_)
    rw [← h.2, normalised_eq, String.toList_ofList, List.mem_filter, hspace]
    exact ⟨hc, rfl⟩

/-- What a URL drops of an accepted string is white space. -/
theorem normalised_kept (h : Accepts s code) : normalised (kept s) = code := by
  have hspaces : ∀ c : Char, c.toNat ≤ 32 ∨ c = '\t' ∨ c = '\n' ∨ c = '\r' → c ∈ s.toList →
      isWhitespace c = true := by
    intro c hdropped hc
    refine (digit_or_space h hc).resolve_left fun hdigit => ?_
    have hlow := (isAsciiDigit_bounds hdigit).1
    rcases hdropped with hle | rfl | rfl | rfl
    · exact absurd hle (by omega)
    · exact absurd hlow (by decide)
    · exact absurd hlow (by decide)
    · exact absurd hlow (by decide)
  have hsplit : s.toList.rdropWhile (·.toNat ≤ 32) ++ s.toList.rtakeWhile (·.toNat ≤ 32) =
      s.toList := List.rdropWhile_append_rtakeWhile
  have hend : (s.toList.rtakeWhile (·.toNat ≤ 32)).filter (fun c => !isWhitespace c) = [] := by
    rw [List.filter_eq_nil_iff]
    intro c hc
    have hmem : c ∈ s.toList := (List.rtakeWhile_suffix _ _).subset hc
    have hlow := List.mem_rtakeWhile_imp hc
    rw [hspaces c (.inl (of_decide_eq_true hlow)) hmem]
    exact Bool.noConfusion
  rw [← h.2, normalised_eq, normalised_eq]
  unfold kept
  rw [String.toList_ofList, List.filter_filter]
  conv_rhs => rw [← hsplit, List.filter_append, hend, List.append_nil]
  refine congrArg String.ofList (List.filter_congr fun c hc => ?_)
  have hmem : c ∈ s.toList := (List.rdropWhile_prefix _ _).subset hc
  by_cases hdropped : c = '\t' ∨ c = '\n' ∨ c = '\r'
  · rw [hspaces c (.inr hdropped) hmem]
    rfl
  · rw [decide_eq_false hdropped]
    exact Bool.and_true _

theorem isWhitespace_of_alphanumeric {c : Char} (h : isAsciiAlphanumeric c = true) :
    isWhitespace c = false := by
  have hbounds : 48 ≤ c.toNat ∧ c.toNat ≤ 122 := by
    unfold isAsciiAlphanumeric at h
    simp only [Bool.or_eq_true, Bool.and_eq_true, decide_eq_true_eq] at h
    rcases h with (hdigit | ⟨hlow, hhigh⟩) | ⟨hlow, hhigh⟩
    · have hdigit := isAsciiDigit_bounds hdigit
      omega
    · have hlow : 97 ≤ c.toNat := hlow
      have hhigh : c.toNat ≤ 122 := hhigh
      omega
    · have hlow : 65 ≤ c.toNat := hlow
      have hhigh : c.toNat ≤ 90 := hhigh
      omega
  simp [isWhitespace]
  omega

/-- **A percent-encoded string is accepted** exactly when it is a code as it is. -/
theorem validate_percentEncode :
    validateShortCode (percentEncode s) = .ok () ↔ TwelveDigits s := by
  constructor
  · intro hvalid
    obtain ⟨code, hdigits, hcode⟩ := validateShortCode_iff.mp hvalid
    have hplain : normalised (percentEncode s) = percentEncode s := by
      refine normalised_of_plain fun c hc => ?_
      rcases NonceDO.mem_percentEncode hc with halnum | rfl
      · exact isWhitespace_of_alphanumeric halnum
      · decide
    rw [← hcode, hplain] at hdigits
    rw [← NonceDO.percentEncode_injective (NonceDO.percentEncode_of_digits hdigits.2)]
    exact hdigits
  · intro hdigits
    rw [NonceDO.percentEncode_of_digits hdigits.2]
    exact validateShortCode_of_digits hdigits.1 hdigits.2

variable {path : String → Option String}

/-- The object looks up the segment of the path as it is. -/
theorem receive_codeUrl (hpath : ReadsCodes path) (h : Accepts s code)
    (st : ChallengeDO.Storage) (now : Nat) (f : ChallengeDO.Faults) :
    receive path st now f (codeUrl s) =
      ChallengeDO.getChallengeByCode st now f (percentEncode (kept s)) := by
  have hslash : '/' ∉ (percentEncode (kept s)).toList := by
    intro hmem
    exact absurd (NonceDO.mem_percentEncode hmem) (by decide)
  have hsplit : ("/code/" ++ percentEncode (kept s)).toList.splitOn '/' =
      [[], "code".toList, (percentEncode (kept s)).toList] := by
    have hlist : ("/code/" ++ percentEncode (kept s)).toList =
        [] ++ '/' :: ("code".toList ++ '/' :: (percentEncode (kept s)).toList) := by
      rw [String.toList_append]
      rfl
    rw [hlist, List.splitOn_append_cons_self_of_not_mem (by simp),
      List.splitOn_append_cons_self_of_not_mem (by decide), List.splitOn_eq_singleton hslash]
  unfold receive
  rw [hpath s fun c hc => digit_or_space h hc]
  dsimp only
  unfold ChallengeDO.fetchGet
  rw [hsplit]
  simp only [List.map_cons, String.ofList_toList, List.map_nil, if_true]
  rfl

/-- **The lookup in the object** uses the entry of the code exactly when the URL keeps no white
space of the string. -/
theorem lookupAgrees_iff (hpath : ReadsCodes path) (h : Accepts s code) :
    (∀ st now f, receive path st now f (codeUrl s) = lookUp st now f code) ↔
      ∀ c ∈ (kept s).toList, isWhitespace c = false := by
  constructor
  · intro hall
    -- where nothing is stored, a code that is accepted is answered 404
    have hempty := hall ChallengeDO.Storage.empty 0 ChallengeDO.Faults.none
    rw [receive_codeUrl hpath h] at hempty
    have hvalid : validateShortCode (percentEncode (kept s)) = .ok () := by
      unfold ChallengeDO.getChallengeByCode lookUp at hempty
      split at hempty
      · cases congrArg Prod.fst hempty
      · next hok => exact hok
    intro c hc
    exact isWhitespace_of_digit ((validate_percentEncode.mp hvalid).2 c hc)
  · intro hplain st now f
    have hkept : kept s = code := by
      rw [← normalised_of_plain hplain, normalised_kept h]
    have hvalid := validateShortCode_of_digits h.1.1 h.1.2
    rw [receive_codeUrl hpath h, hkept, NonceDO.percentEncode_of_digits h.1.2]
    unfold ChallengeDO.getChallengeByCode
    split
    · next e he =>
      rw [hvalid] at he
      cases he
    · rfl

/-- **The grammars agree** on a string exactly when it is no short code, or a URL keeps no white
space of it. -/
theorem grammars_agree_iff (app : AppState) (hpath : ReadsCodes path) (s : String) :
    Agrees app path s ↔
      (∃ code, Accepts s code) → ∀ c ∈ (kept s).toList, isWhitespace c = false := by
  constructor
  · rintro hagrees ⟨code, h⟩
    exact (lookupAgrees_iff hpath h).mp (hagrees.doLookup code h)
  · intro hplain
    refine
      { generated := fun id => ?_
        formatted := fun code hcode => accepts_displayFormatted hcode
        new := fun code => new_iff
        deserialize := fun code => deserialize_iff
        validate := validateShortCode_iff
        byShortCode := byShortCode_iff app s
        kvLookup := fun code h =>
          ⟨only_readsCode h, fun hbinding => getChallengeByShortCode_of_accepts h hbinding⟩
        kvCreated := fun req => ?_
        doCreated := fun uuid body challenge id h hid => shortCode_of_admitCreate h hid
        doLookup := fun code h => (lookupAgrees_iff hpath h).mpr (hplain ⟨code, h⟩) }
    · have hdigits := twelveDigits_generate id
      exact ⟨hdigits, normalised_of_digits hdigits⟩
    · have huses : (CreateChallenge.createChallenge app req).Only (Uses True CodeEntry True) :=
        CreateChallenge.only_createChallenge req
      exact huses.imp fun op hop => ShortCodes.putsCode_of_uses hop

/-- The path of the URL of a code. -/
def samplePath (url : String) : Option String :=
  (stripPrefix "https://do.internal/code/" url).map fun s => "/code/" ++ percentEncode (kept s)

theorem readsCodes_samplePath : ReadsCodes samplePath := by
  intro s _
  unfold samplePath codeUrl
  rw [stripPrefix_append]
  rfl

/-- A tab and a space at the end are dropped. -/
theorem grammars_agree_tab : Agrees AppState.sample samplePath "7040\t23675348 " :=
  (grammars_agree_iff AppState.sample readsCodes_samplePath "7040\t23675348 ").mpr
    fun _ c hc => by
      have hplain : (kept "7040\t23675348 ").toList.all (!isWhitespace ·) = true := by
        decide +kernel
      simpa using List.all_eq_true.mp hplain c hc

/-- The storage after the challenge of the sample was created. -/
def sampleStorage : ChallengeDO.Storage :=
  (ChallengeDO.createChallenge ChallengeDO.Storage.empty ChallengeDO.Faults.none
    CachedChallenge.sample.id.toString ⟨100, some CachedChallenge.sample⟩).2

/-- The object finds a created challenge by its code; the code as it is displayed is percent-encoded
in the path, and refused. -/
theorem displayed_code_not_found :
    ShortCode.displayFormatted CachedChallenge.sample.shortCode = "7040 2367 5348" ∧
      validateShortCode "7040 2367 5348" = .ok () ∧
      (receive samplePath sampleStorage 1000 ChallengeDO.Faults.none
        (codeUrl CachedChallenge.sample.shortCode)).1 = some (.record CachedChallenge.sample) ∧
      samplePath (codeUrl "7040 2367 5348") = some "/code/7040%202367%205348" ∧
      (receive samplePath sampleStorage 1000 ChallengeDO.Faults.none
        (codeUrl "7040 2367 5348")).1 = some (.status 400) ∧
      ¬ Agrees AppState.sample samplePath "7040 2367 5348" := by
  have hdisplay : ShortCode.displayFormatted CachedChallenge.sample.shortCode =
      "7040 2367 5348" := by decide +kernel
  have hdigits : TwelveDigits CachedChallenge.sample.shortCode := twelveDigits_generate _
  have haccepts := accepts_displayFormatted hdigits
  rw [hdisplay] at haccepts
  refine ⟨hdisplay, by decide +kernel, by decide +kernel, by decide +kernel, by decide +kernel,
    fun hagrees => ?_⟩
  have hplain := (lookupAgrees_iff readsCodes_samplePath haccepts).mp (hagrees.doLookup _ haccepts)
  exact absurd (hplain ' ' (by decide +kernel)) (by decide)

end ShortCodeGrammar

end ProviiVerifier

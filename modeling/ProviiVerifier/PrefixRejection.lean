/-
  `security/prefix_rejection.rs`: the scan of a request's path, query and headers for credentials of
  the sandbox, each as it is written or percent-encoded.

  A credential is recognised by its first bytes (`Carries`): a sandbox prefix, or a scheme word of
  at most fifteen bytes, a space, more white space and a sandbox prefix.

  Proved: the decoder's loop is the percent-decoder (`decodeBytes_eq`) and the test of a text is the
  test of its bytes (`matchesSandboxPrefix_iff`). What is rejected is what carries a credential
  exactly when a header or a part that decodes to UTF-8 carries one, or the other parts carry one as
  they are written just in case they do when decoded (`check_request_inputs_iff`): a part that does
  not decode to UTF-8 is tested as it is written.
-/
import ProviiVerifier.Encoding.CharBoundary
import ProviiVerifier.HostedKeys
import ProviiVerifier.SessionCookie

namespace ProviiVerifier

namespace PrefixRejection

open OriginPatterns (splitOnce toAsciiLowercase)
open SessionCookie (split trimStart)

/-! ## The test of a text -/

/-- `SANDBOX_PREFIXES`. -/
def sandboxPrefixes : List String := ["docs-sbx-", "mwallet-sbx-"]

/-- `begins_with_any_prefix`. -/
def beginsWithAnyPrefix (candidate : String) : Bool :=
  sandboxPrefixes.any fun start => OriginPatterns.startsWith start candidate

/-- `matches_sandbox_prefix`. -/
def matchesSandboxPrefix (value : String) : Bool :=
  if value = "" then false
  else if beginsWithAnyPrefix value then true
  else
    match splitOnce " " value with
    | some (scheme, rest) =>
      if byteLen scheme ≤ 15 ∧ scheme ≠ "" then beginsWithAnyPrefix (trimStart rest) else false
    | none => false

/-! ## The decoder -/

/-- `hex_digit`. -/
def hexDigit (b : UInt8) : Option UInt8 :=
  if 48 ≤ b && b ≤ 57 then some (b - 48)
  else if 97 ≤ b && b ≤ 102 then some (b - 97 + 10)
  else if 65 ≤ b && b ≤ 70 then some (b - 65 + 10)
  else none

/-- The loop of `percent_decode`, which looks ahead one byte at a time. -/
def decodeBytes : List UInt8 → List UInt8
  | [] => []
  | b :: rest =>
    if b = 37 then
      match rest with
      | [] => [37]
      | next1 :: rest1 =>
        match hexDigit next1 with
        | none => 37 :: decodeBytes (next1 :: rest1)
        | some h =>
          match rest1 with
          | [] => [37, next1]
          | next2 :: rest2 =>
            match hexDigit next2 with
            | some l => (h * 16 + l) :: decodeBytes rest2
            | none => 37 :: next1 :: decodeBytes (next2 :: rest2)
    else b :: decodeBytes rest

/-- `percent_decode`; bytes that are not UTF-8 leave the input as it is. -/
def percentDecode (input : String) : String :=
  if input.toList.contains '%' then
    (HostedKeys.fromUtf8 (decodeBytes (utf8Bytes input))).getD input
  else input

/-! ## The scan -/

/-- `PrefixCheck`. -/
inductive PrefixCheck
  | allow
  | reject (source : String)
  deriving DecidableEq, Repr

/-- The check refuses the request. -/
def PrefixCheck.rejects : PrefixCheck → Prop
  | allow => False
  | reject _ => True

/-- The key and the value of a pair of the query. -/
def keyValue (pair : String) : String × String := (splitOnce "=" pair).getD (pair, "")

/-- The headers that identify a caller. -/
def inspected (name : String) : Bool :=
  ["x-client-id", "x-api-key", "authorization"].contains (toAsciiLowercase name)

/-- `check_request_inputs`. -/
def checkRequestInputs (path query : String) (headers : List (String × String)) : PrefixCheck :=
  if (split '/' path).any fun segment =>
      segment ≠ "" && matchesSandboxPrefix (percentDecode segment) then .reject "path"
  else if (split '&' query).any fun pair =>
      pair ≠ "" && (matchesSandboxPrefix (percentDecode (keyValue pair).1) ||
        ((keyValue pair).2 ≠ "" && matchesSandboxPrefix (percentDecode (keyValue pair).2))) then
    .reject "query"
  else if headers.any fun header => inspected header.1 && matchesSandboxPrefix header.2 then
    .reject "header"
  else .allow

/-! ## What is looked for -/

/-- The bytes begin with a sandbox prefix. -/
def Begins (bytes : Bytes) : Prop := ∃ start ∈ sandboxPrefixes, utf8Bytes start <+: bytes

/-- The bytes begin with a scheme word of one to fifteen bytes, a space, more white space and a
sandbox prefix. -/
def AfterScheme (bytes : Bytes) : Prop :=
  ∃ (scheme : Bytes) (space : String) (rest : Bytes),
    bytes = scheme ++ 32 :: (utf8Bytes space ++ rest) ∧ 32 ∉ scheme ∧ 1 ≤ scheme.length ∧
      scheme.length ≤ 15 ∧ (∀ c ∈ space.toList, isWhitespace c = true) ∧ Begins rest

/-- The bytes begin with a sandbox prefix, directly or after a scheme word. -/
def Carries (bytes : Bytes) : Prop := Begins bytes ∨ AfterScheme bytes

/-- The bytes that a part of a URL encodes. -/
def decoded (part : String) : Bytes := PercentEncoding.decode (utf8Bytes part)

/-- The parts of a URL: segments of the path, keys and values of the query. -/
def urlParts (path query : String) : List String :=
  split '/' path ++ (split '&' query).flatMap fun pair => [(keyValue pair).1, (keyValue pair).2]

/-- An inspected header carries a credential. -/
def HeaderCarries (headers : List (String × String)) : Prop :=
  ∃ header ∈ headers, inspected header.1 = true ∧ Carries (utf8Bytes header.2)

/-- A part of the URL, or an inspected header, carries a credential. -/
def RequestCarries (path query : String) (headers : List (String × String)) : Prop :=
  (∃ part ∈ urlParts path query, Carries (decoded part)) ∨ HeaderCarries headers

/-- The part decodes to UTF-8. -/
def IsText (part : String) : Prop := (HostedKeys.fromUtf8 (decoded part)).isSome = true

/-- A header or a part that decodes to UTF-8 carries a credential; or the parts that do not decode
to UTF-8 carry one as they are written just in case they do when decoded. -/
def Visible (path query : String) (headers : List (String × String)) : Prop :=
  HeaderCarries headers ∨ (∃ part ∈ urlParts path query, IsText part ∧ Carries (decoded part)) ∨
    ((∃ part ∈ urlParts path query, ¬ IsText part ∧ Carries (utf8Bytes part)) ↔
      ∃ part ∈ urlParts path query, ¬ IsText part ∧ Carries (decoded part))

/-! ## The decoder's loop -/

theorem hexDigit_eq (b : UInt8) : hexDigit b = PercentEncoding.hexValue b := by
  have h : ∀ n : Fin 256, hexDigit (UInt8.ofFin n) = PercentEncoding.hexValue (UInt8.ofFin n) := by
    decide +kernel
  exact h b.toFin

theorem ne_percent_of_hexDigit {b h : UInt8} (hb : hexDigit b = some h) : b ≠ 37 := by
  rintro rfl
  have hnone : hexDigit 37 = none := by decide
  rw [hnone] at hb
  cases hb

/-- **The loop is the percent-decoder.** -/
theorem decodeBytes_eq (bs : Bytes) : decodeBytes bs = PercentEncoding.decode bs := by
  fun_induction decodeBytes bs with
  | case1 => rfl
  | case2 => rfl
  | case3 next1 rest1 hnone ih =>
    rw [ih]
    rcases rest1 with _ | ⟨next2, rest2⟩
    · rfl
    · rw [hexDigit_eq] at hnone
      rw [PercentEncoding.decode, if_pos rfl, hnone]
  | case4 next1 h _ => rfl
  | case5 next1 h hsome next2 rest2 l hl ih =>
    rw [hexDigit_eq] at hsome hl
    rw [ih, PercentEncoding.decode, if_pos rfl, hsome, hl, UInt8.mul_comm]
  | case6 next1 h hsome next2 rest2 hnone ih =>
    have hne := ne_percent_of_hexDigit hsome
    rw [hexDigit_eq] at hsome hnone
    rw [ih, PercentEncoding.decode, if_pos rfl, hsome, hnone,
      PercentEncoding.decode_cons_of_ne hne]
  | case7 b rest hne ih =>
    rw [ih, PercentEncoding.decode_cons_of_ne hne]

theorem decode_of_no_percent {bs : Bytes} (h : 37 ∉ bs) : PercentEncoding.decode bs = bs := by
  induction bs with
  | nil => rfl
  | cons b bs ih =>
    obtain ⟨hne, hrest⟩ := List.ne_and_not_mem_of_not_mem_cons h
    rw [PercentEncoding.decode_cons_of_ne (Ne.symm hne), ih hrest]

/-! ## Texts and their bytes -/

theorem utf8Bytes_eq (s : String) : utf8Bytes s = CharBoundary.encode s.toList := rfl

theorem utf8Bytes_ofList_encode (cs : List Char) :
    utf8Bytes (String.ofList cs) = CharBoundary.encode cs := by
  rw [utf8Bytes_eq, String.toList_ofList]

/-- An ASCII byte in an encoding is the character. -/
theorem mem_encode_iff {cs : List Char} {x : UInt8} {c : Char} (hlow : x.toNat < 128)
    (hc : c.toNat = x.toNat) (hbyte : x ∈ String.utf8EncodeChar c) :
    x ∈ CharBoundary.encode cs ↔ c ∈ cs := by
  constructor
  · intro h
    obtain ⟨a, b, hab⟩ := List.append_of_mem h
    obtain ⟨u, v, d, hcs, hd, -, -⟩ := CharBoundary.encode_eq_append_cons hlow hab
    have hsame : d = c := Char.toNat_inj.mp (hd.trans hc.symm)
    rw [hcs, hsame]
    exact List.mem_append_right _ List.mem_cons_self
  · intro h
    exact List.mem_flatMap.mpr ⟨c, h, hbyte⟩

theorem beginsWithAnyPrefix_iff {s : String} :
    beginsWithAnyPrefix s = true ↔ Begins (utf8Bytes s) := by
  unfold beginsWithAnyPrefix Begins
  rw [List.any_eq_true]
  constructor
  · rintro ⟨start, hstart, hpre⟩
    exact ⟨start, hstart, CharBoundary.encode_prefix_iff.mpr (List.isPrefixOf_iff_prefix.mp hpre)⟩
  · rintro ⟨start, hstart, hpre⟩
    exact ⟨start, hstart, List.isPrefixOf_iff_prefix.mpr (CharBoundary.encode_prefix_iff.mp hpre)⟩

/-- A text that begins with a prefix does not begin with white space. -/
theorem dropWhile_of_begins {cs : List Char} (h : Begins (CharBoundary.encode cs)) :
    cs.dropWhile isWhitespace = cs := by
  obtain ⟨start, hstart, hpre⟩ := h
  obtain ⟨rest, rfl⟩ := CharBoundary.encode_prefix_iff.mp hpre
  have hhead : ∃ c tail, start.toList = c :: tail ∧ isWhitespace c = false := by
    simp only [sandboxPrefixes, List.mem_cons, List.not_mem_nil, or_false] at hstart
    rcases hstart with rfl | rfl
    · exact ⟨'d', "ocs-sbx-".toList, by decide, by decide⟩
    · exact ⟨'m', "wallet-sbx-".toList, by decide, by decide⟩
  obtain ⟨c, tail, hcons, hc⟩ := hhead
  rw [hcons, List.cons_append, List.dropWhile_cons_of_neg (Bool.eq_false_iff.mp hc)]

/-- A split at the first space, in characters and in bytes. -/
theorem splitOnce_space {value scheme rest : String} :
    splitOnce " " value = some (scheme, rest) ↔
      utf8Bytes value = utf8Bytes scheme ++ 32 :: utf8Bytes rest ∧ 32 ∉ utf8Bytes scheme := by
  have hsep : " ".toList = [' '] := rfl
  have hmem : 32 ∈ utf8Bytes scheme ↔ ' ' ∈ scheme.toList :=
    mem_encode_iff (by decide) (by decide) (by decide)
  have hbytes : utf8Bytes scheme ++ 32 :: utf8Bytes rest =
      CharBoundary.encode (scheme.toList ++ ' ' :: rest.toList) := by
    rw [CharBoundary.encode_append, CharBoundary.encode_cons]
    rfl
  rw [OriginPatterns.splitOnce_eq_some_iff hsep, hmem, hbytes, utf8Bytes_eq]
  constructor
  · rintro ⟨hval, hnot⟩
    rw [hval]
    exact ⟨rfl, hnot⟩
  · rintro ⟨hval, hnot⟩
    rw [← utf8Bytes_eq, ← utf8Bytes_ofList_encode] at hval
    refine ⟨?_, hnot⟩
    rw [utf8Bytes_injective hval, String.toList_ofList]

/-- A scheme word is what stands before the first space. -/
theorem afterScheme_iff {s : String} :
    AfterScheme (utf8Bytes s) ↔ ∃ scheme rest, splitOnce " " s = some (scheme, rest) ∧
      (byteLen scheme ≤ 15 ∧ scheme ≠ "") ∧ Begins (utf8Bytes (trimStart rest)) := by
  symm
  constructor
  · rintro ⟨scheme, rest, hsplit, ⟨hlen, hne⟩, hbegins⟩
    obtain ⟨hbytes, hfirst⟩ := splitOnce_space.mp hsplit
    have hpos : byteLen scheme ≠ 0 := fun h => hne (OriginPatterns.byteLen_eq_zero.mp h)
    refine ⟨utf8Bytes scheme, String.ofList (rest.toList.takeWhile isWhitespace),
      utf8Bytes (trimStart rest), ?_, hfirst, Nat.one_le_iff_ne_zero.mpr hpos, hlen, ?_, hbegins⟩
    · unfold trimStart
      rw [hbytes, utf8Bytes_ofList_encode, utf8Bytes_ofList_encode, ← CharBoundary.encode_append,
        List.takeWhile_append_dropWhile, utf8Bytes_eq rest]
    · intro c hc
      rw [String.toList_ofList] at hc
      exact List.mem_takeWhile_imp hc
  · rintro ⟨scheme, space, rest, hbytes, hfirst, hpos, hlen, hspace, hbegins⟩
    obtain ⟨u, v, c, -, -, hu, hv⟩ := CharBoundary.encode_eq_append_cons (by decide) hbytes
    -- what follows the space is white space and a text
    obtain ⟨w, hw⟩ := CharBoundary.encode_prefix_iff.mp (hv ▸ List.prefix_append _ _)
    have hrest : CharBoundary.encode w = rest := by
      rw [← hw, CharBoundary.encode_append] at hv
      exact List.append_cancel_left hv
    have htrim : trimStart (String.ofList v) = String.ofList w := by
      unfold trimStart
      rw [String.toList_ofList, ← hw, List.dropWhile_append_of_pos hspace,
        dropWhile_of_begins (hrest ▸ hbegins)]
    refine ⟨String.ofList u, String.ofList v, ?_, ⟨?_, ?_⟩, ?_⟩
    · rw [splitOnce_space, utf8Bytes_ofList_encode, utf8Bytes_ofList_encode, hu, hv]
      exact ⟨hbytes, hfirst⟩
    · unfold byteLen
      rw [utf8Bytes_ofList_encode, hu]
      exact hlen
    · intro hempty
      have hzero := OriginPatterns.byteLen_eq_zero.mpr hempty
      unfold byteLen at hzero
      rw [utf8Bytes_ofList_encode, hu] at hzero
      omega
    · rw [htrim, utf8Bytes_ofList_encode, hrest]
      exact hbegins

/-- **The test of a text** is the test of its bytes. -/
theorem matchesSandboxPrefix_iff {s : String} :
    matchesSandboxPrefix s = true ↔ Carries (utf8Bytes s) := by
  unfold matchesSandboxPrefix Carries
  rw [afterScheme_iff, ← beginsWithAnyPrefix_iff]
  split_ifs with hempty hbegins
  · subst hempty
    have hno : beginsWithAnyPrefix "" = false := by decide
    have hsplit : splitOnce " " "" = none := by decide
    simp [hno, hsplit]
  · simp [hbegins]
  · simp only [hbegins]
    cases hsplit : splitOnce " " s with
    | none => simp
    | some parts =>
      obtain ⟨scheme, rest⟩ := parts
      simp only [Option.some.injEq, Prod.mk.injEq, Bool.false_eq_true, false_or]
      constructor
      · intro h
        split at h
        · next hscheme => exact ⟨scheme, rest, ⟨rfl, rfl⟩, hscheme, beginsWithAnyPrefix_iff.mp h⟩
        · cases h
      · rintro ⟨_, _, ⟨rfl, rfl⟩, hscheme, hrest⟩
        rw [if_pos hscheme]
        exact beginsWithAnyPrefix_iff.mpr hrest

/-! ## The parts of a URL -/

theorem percentDecode_of_text {part : String} (h : IsText part) :
    utf8Bytes (percentDecode part) = decoded part := by
  unfold percentDecode
  split
  · unfold IsText decoded at h
    obtain ⟨text, htext⟩ := Option.isSome_iff_exists.mp h
    rw [decodeBytes_eq, htext]
    exact HostedKeys.utf8Bytes_of_fromUtf8 htext
  · next hnone =>
    rw [List.contains_iff_mem] at hnone
    have hbytes : (37 : UInt8) ∉ utf8Bytes part :=
      mt (mem_encode_iff (c := '%') (by decide) (by decide) (by decide)).mp hnone
    unfold decoded
    rw [decode_of_no_percent hbytes]

theorem percentDecode_of_not_text {part : String} (h : ¬ IsText part) :
    percentDecode part = part := by
  unfold percentDecode
  split
  · have hnone : HostedKeys.fromUtf8 (decodeBytes (utf8Bytes part)) = none := by
      rw [decodeBytes_eq]
      exact Option.not_isSome_iff_eq_none.mp h
    rw [hnone]
    rfl
  · rfl

theorem matches_percentDecode_iff (part : String) :
    matchesSandboxPrefix (percentDecode part) = true ↔
      (IsText part ∧ Carries (decoded part)) ∨ (¬ IsText part ∧ Carries (utf8Bytes part)) := by
  rw [matchesSandboxPrefix_iff]
  by_cases h : IsText part
  · rw [percentDecode_of_text h]
    simp [h]
  · rw [percentDecode_of_not_text h]
    simp [h]

/-! ## What is refused -/

/-- An empty part is not a credential, so that it need not be set aside. -/
theorem nonempty_and_matches (part : String) :
    (part ≠ "" && matchesSandboxPrefix (percentDecode part)) =
      matchesSandboxPrefix (percentDecode part) := by
  by_cases h : part = ""
  · subst h
    decide
  · simp [h]

theorem pair_matches (pair : String) :
    (pair ≠ "" && (matchesSandboxPrefix (percentDecode (keyValue pair).1) ||
        ((keyValue pair).2 ≠ "" && matchesSandboxPrefix (percentDecode (keyValue pair).2)))) =
      (matchesSandboxPrefix (percentDecode (keyValue pair).1) ||
        matchesSandboxPrefix (percentDecode (keyValue pair).2)) := by
  by_cases h : pair = ""
  · subst h
    decide
  · rw [nonempty_and_matches]
    simp [h]

/-- **What is refused** has a part that matches when it is decoded, or a header. -/
theorem rejects_iff {path query : String} {headers : List (String × String)} :
    (checkRequestInputs path query headers).rejects ↔
      (∃ part ∈ urlParts path query, matchesSandboxPrefix (percentDecode part) = true) ∨
        HeaderCarries headers := by
  have hheader : HeaderCarries headers ↔ (headers.any fun header =>
      inspected header.1 && matchesSandboxPrefix header.2) = true := by
    unfold HeaderCarries
    simp only [List.any_eq_true, Bool.and_eq_true, matchesSandboxPrefix_iff]
  have hparts : (∃ part ∈ urlParts path query, matchesSandboxPrefix (percentDecode part) = true) ↔
      ((split '/' path).any fun segment => matchesSandboxPrefix (percentDecode segment)) = true ∨
      ((split '&' query).any fun pair => matchesSandboxPrefix (percentDecode (keyValue pair).1) ||
        matchesSandboxPrefix (percentDecode (keyValue pair).2)) = true := by
    rw [← List.any_eq_true, urlParts, List.any_append, List.any_flatMap, Bool.or_eq_true]
    simp only [List.any_cons, List.any_nil, Bool.or_false]
  unfold checkRequestInputs
  simp only [pair_matches]
  simp only [nonempty_and_matches]
  rw [hparts, hheader]
  split_ifs with hpath hquery hhead
  · simp only [hpath, PrefixCheck.rejects, true_or]
  · simp only [hquery, PrefixCheck.rejects, true_or, or_true]
  · simp only [hhead, PrefixCheck.rejects, or_true]
  · simp only [hpath, hquery, hhead, PrefixCheck.rejects, or_self, Bool.false_eq_true]

/-- **The scan is exact** just in case the parts that do not decode to UTF-8 carry a credential as
they are written exactly when they do decoded, unless another part or a header carries one. -/
theorem check_request_inputs_iff (path query : String) (headers : List (String × String)) :
    ((checkRequestInputs path query headers).rejects ↔ RequestCarries path query headers) ↔
      Visible path query headers := by
  have hrejects : (checkRequestInputs path query headers).rejects ↔
      HeaderCarries headers ∨ (∃ part ∈ urlParts path query, IsText part ∧ Carries (decoded part)) ∨
        ∃ part ∈ urlParts path query, ¬ IsText part ∧ Carries (utf8Bytes part) := by
    rw [rejects_iff, or_comm, ← exists_or]
    simp only [matches_percentDecode_iff, and_or_left]
  have hcarries : RequestCarries path query headers ↔
      HeaderCarries headers ∨ (∃ part ∈ urlParts path query, IsText part ∧ Carries (decoded part)) ∨
        ∃ part ∈ urlParts path query, ¬ IsText part ∧ Carries (decoded part) := by
    unfold RequestCarries
    rw [or_comm, ← exists_or]
    simp only [← and_or_left, ← or_and_right, Classical.em, true_and]
  unfold Visible
  rw [hrejects, hcarries]
  by_cases hheader : HeaderCarries headers
  · simp only [hheader, true_or]
  · by_cases htext : ∃ part ∈ urlParts path query, IsText part ∧ Carries (decoded part)
    · simp only [htext, true_or, or_true]
    · simp only [hheader, htext, false_or]

theorem byte_after_prefix_segment : "%64ocs-sbx-%FF" ∈ urlParts "/%64ocs-sbx-%FF" "" := by
  have hsegments : split '/' "/%64ocs-sbx-%FF" = ["", "%64ocs-sbx-%FF"] := by decide +kernel
  unfold urlParts
  rw [hsegments]
  simp

theorem byte_after_prefix_carries : Carries (decoded "%64ocs-sbx-%FF") := by
  have hbytes : decoded "%64ocs-sbx-%FF" = utf8Bytes "docs-sbx-" ++ [255] := by decide +kernel
  rw [hbytes]
  exact .inl ⟨"docs-sbx-", List.mem_cons_self, List.prefix_append _ _⟩

/-- The path `/%64ocs-sbx-%FF` is let through: its segment decodes to a prefix, and to a byte after
it that is not UTF-8. -/
theorem byte_after_prefix_allowed :
    ¬ ((checkRequestInputs "/%64ocs-sbx-%FF" "" []).rejects ↔
      RequestCarries "/%64ocs-sbx-%FF" "" []) := by
  have hallow : checkRequestInputs "/%64ocs-sbx-%FF" "" [] = .allow := by decide +kernel
  have hcarries : RequestCarries "/%64ocs-sbx-%FF" "" [] := by
    unfold RequestCarries
    left
    exact ⟨_, byte_after_prefix_segment, byte_after_prefix_carries⟩
  rw [hallow]
  rintro ⟨-, hrejects⟩
  exact hrejects hcarries

end PrefixRejection

end ProviiVerifier

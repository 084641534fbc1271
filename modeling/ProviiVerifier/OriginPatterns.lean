/-
  `origin.rs` of the crate `verifier-logic`, which matches an origin with a pattern, and
  `validate_origin_pattern` in `hosted/keys.rs`, which says what a pattern may be.

  The URL parser is the `url` crate's and is a parameter: for each text the scheme, the host, the
  port (none where it is the scheme's own) and the path, or nothing. What is assumed of it
  (`Whatwg`) is how it reads `http` and `https` URLs that consist of a host name and a port.

  Proved: what the matcher does with a pattern that has one wildcard (`matches_iff`). For the
  patterns that the validator accepts, it covers the subdomains of the written suffix and nothing
  else, exactly when the wildcard stands after `://`, and no origin with a path, and no origin under
  a pattern with more than a suffix and a port, is met (`wildcard_covers_iff`).
-/
import ProviiVerifier.Ids
import ProviiVerifier.NonceDO
import ProviiVerifier.Encoding.Split

namespace ProviiVerifier

namespace OriginPatterns

/-- What the code reads of a `Url`. -/
structure Url where
  scheme : String
  host : Option String
  port : Option Nat
  path : String
  deriving DecidableEq, Repr

/-- `Url::parse`. -/
abbrev Parser := String → Option Url

/-- `str::trim`. -/
def trim (s : String) : String := String.ofList (Splitting.trim isWhitespace s.toList)

/-- `str::split_once`. -/
def splitOnce (sep s : String) : Option (String × String) :=
  (Splitting.splitOnce sep.toList s.toList).map fun parts =>
    (String.ofList parts.1, String.ofList parts.2)

/-- `str::to_ascii_lowercase`. -/
def toAsciiLowercase (s : String) : String := String.ofList (s.toList.map Char.toLower)

/-- `str::starts_with`. -/
def startsWith (start s : String) : Bool := start.toList.isPrefixOf s.toList

/-- The host ends with a dot and the suffix, and something stands before. -/
def endsUnder (originHost patternHostSuffix : String) : Bool :=
  let dotSuffix := "." ++ patternHostSuffix
  dotSuffix.toList.isSuffixOf originHost.toList && byteLen originHost - byteLen dotSuffix > 0

/-- The wildcard branch of `origin_matches_pattern`, on the parts before and after the first
`*.`. -/
def matchesWildcard (parse : Parser) (schemePrefix wildcardSuffix origin : String) : Bool :=
  if schemePrefix = "" ∨ wildcardSuffix = "" then false
  else if wildcardSuffix.toList.contains '*' then false
  else
    match parse (schemePrefix ++ "placeholder." ++ wildcardSuffix) with
    | none => false
    | some parsedPattern =>
      match parsedPattern.host with
      | none => false
      | some h =>
        let patternHostSuffix := toAsciiLowercase ((stripPrefix "placeholder." h).getD h)
        match parse origin with
        | none => false
        | some parsedOrigin =>
          match parsedOrigin.host with
          | none => false
          | some originHost =>
            if parsedOrigin.scheme ≠ parsedPattern.scheme then false
            else if parsedOrigin.port ≠ parsedPattern.port then false
            else endsUnder (toAsciiLowercase originHost) patternHostSuffix

/-- The branch of a pattern without a wildcard. -/
def matchesExactly (parse : Parser) (pattern origin : String) : Bool :=
  match parse pattern with
  | none =>
    if containsSub pattern [':', '/', '/'] || containsSub origin [':', '/', '/'] then false
    else toAsciiLowercase pattern = toAsciiLowercase origin
  | some parsedPattern =>
    match parse origin with
    | none => false
    | some parsedOrigin =>
      if parsedPattern.scheme ≠ parsedOrigin.scheme then false
      else if toAsciiLowercase (parsedPattern.host.getD "") ≠
          toAsciiLowercase (parsedOrigin.host.getD "") then false
      else if parsedPattern.port ≠ parsedOrigin.port then false
      else parsedPattern.path = parsedOrigin.path

/-- `origin_matches_pattern`. -/
def originMatchesPattern (parse : Parser) (pattern origin : String) : Bool :=
  if pattern = "*" then true
  else
    let pattern := trim pattern
    let origin := trim origin
    if pattern = "" ∨ origin = "" then false
    else
      match splitOnce "*." pattern with
      | some (schemePrefix, wildcardSuffix) =>
        matchesWildcard parse schemePrefix wildcardSuffix origin
      | none => matchesExactly parse pattern origin

/-- `validate_origin_pattern`; every error is an `InvalidRequest`, with this message. -/
def validateOriginPattern (pattern : String) : Except String Unit :=
  if pattern = "*" ∨ pattern = "http://*" ∨ pattern = "https://*" then
    .error "Invalid origin pattern: wildcard-only patterns not allowed"
  else if startsWith "http://" pattern = false ∧ startsWith "https://" pattern = false then
    .error "Invalid origin pattern: must start with http:// or https://"
  else if pattern.toList.contains '*' then
    match splitOnce "*." pattern with
    | none => .error "Invalid wildcard pattern: must be in format https://*.domain.com"
    | some (_, suffix) =>
      if suffix.toList.contains '.' then .ok ()
      else .error "Invalid wildcard pattern: must have domain suffix after wildcard"
  else .ok ()

/-! ## What a wildcard pattern is for -/

/-- A character that a host name can be written with. -/
def nameChar (c : Char) : Bool :=
  33 ≤ c.toNat && c.toNat ≤ 126 &&
    !(['/', '\\', '?', '#', '@', ':', '[', ']', '<', '>', '^', '|', '%', '*'].contains c)

/-- A written port: nothing, or a colon and digits. -/
def PortText (portText : String) : Prop :=
  portText = "" ∨ ∃ digits : List Char, portText.toList = ':' :: digits ∧
    digits.all isAsciiDigit = true

/-- The port a URL of the scheme has by itself. -/
def defaultPort (scheme : String) : Nat := if scheme = "https" then 443 else 80

/-- The port that is written, where it is not the scheme's own. -/
def writtenPort (scheme portText : String) : Option Nat :=
  match portText.toList.tail with
  | [] => none
  | digits =>
    let port := digits.foldl (fun n c => 10 * n + (c.toNat - 48)) 0
    if port = defaultPort scheme then none else some port

/-- How URLs of a host name and a port are read: when such a URL is one, its scheme and port are
those written and its host is the name, up to the case of ASCII letters. -/
structure Whatwg (parse : Parser) : Prop where
  empty : parse "" = none
  name : ∀ scheme suffix portText u, scheme = "http" ∨ scheme = "https" →
    suffix.toList.all nameChar = true → PortText portText →
    parse (scheme ++ "://" ++ "placeholder." ++ (suffix ++ portText)) = some u →
    u.scheme = scheme ∧ u.port = writtenPort scheme portText ∧
      ∃ name, u.host = some ("placeholder." ++ name) ∧
        toAsciiLowercase name = toAsciiLowercase suffix

/-- The pattern is `scheme://*.suffix[:port]`, for a suffix and a port that a URL can have. -/
structure Written (parse : Parser) (pattern scheme suffix portText : String) : Prop where
  isScheme : scheme = "http" ∨ scheme = "https"
  nonempty : suffix ≠ ""
  isName : suffix.toList.all nameChar = true
  isPort : PortText portText
  eq : pattern = scheme ++ "://" ++ "*." ++ (suffix ++ portText)
  readable : (parse (scheme ++ "://" ++ "placeholder." ++ (suffix ++ portText))).isSome

/-- The URL of the origin, surrounding white space aside. -/
def originUrl (parse : Parser) (origin : String) : Option Url := parse (trim origin)

/-- A host is one or more labels, a dot and the suffix, up to the case of ASCII letters. -/
def Subdomain (host suffix : String) : Prop :=
  ∃ labels, labels ≠ "" ∧ toAsciiLowercase host = labels ++ "." ++ toAsciiLowercase suffix

/-- The URL of the origin has the scheme, the port and a host under the suffix. -/
def LiesUnder (parse : Parser) (origin scheme suffix : String) (port : Option Nat) : Prop :=
  ∃ o host, originUrl parse origin = some o ∧ o.scheme = scheme ∧ o.port = port ∧
    o.host = some host ∧ Subdomain host suffix

/-- The origin has a path. -/
def HasPath (parse : Parser) (origin : String) : Prop :=
  ∃ o, originUrl parse origin = some o ∧ o.path ≠ "/"

/-- What a wildcard pattern covers: origins without a path and with the written scheme and port,
whose host is under the written suffix. -/
def Covers (parse : Parser) (pattern origin : String) : Prop :=
  ∃ scheme suffix portText, Written parse pattern scheme suffix portText ∧
    LiesUnder parse origin scheme suffix (writtenPort scheme portText) ∧ ¬ HasPath parse origin

/-- Two wildcards, or one that does not stand directly after `://`. -/
def Misplaced (pattern : String) : Prop :=
  2 ≤ pattern.toList.count '*' ∨
    ∃ before rest : List Char, pattern.toList = before ++ ('*' :: '.' :: rest) ∧
      ¬ [':', '/', '/'] <:+ before

/-- The origin lies under the URL that the pattern becomes with a label for its wildcard. -/
def UnderSpliced (parse : Parser) (pattern origin : String) : Prop :=
  ∃ schemePrefix wildcardSuffix p h,
    splitOnce "*." (trim pattern) = some (schemePrefix, wildcardSuffix) ∧
    parse (schemePrefix ++ "placeholder." ++ wildcardSuffix) = some p ∧ p.host = some h ∧
    LiesUnder parse origin p.scheme ((stripPrefix "placeholder." h).getD h) p.port

/-! ## The matcher -/

variable {parse : Parser} {pattern origin schemePrefix wildcardSuffix : String}

theorem byteLen_eq_zero {s : String} : byteLen s = 0 ↔ s = "" := by
  constructor
  · intro h
    have hnil : utf8Bytes s = utf8Bytes "" := List.length_eq_zero_iff.mp h
    exact utf8Bytes_injective hnil
  · rintro rfl
    rfl

/-- A split at one character is the split at its first occurrence. -/
theorem splitOnce_eq_some_iff {sep s a b : String} {x : Char} (hsep : sep.toList = [x]) :
    splitOnce sep s = some (a, b) ↔ s.toList = a.toList ++ x :: b.toList ∧ x ∉ a.toList := by
  unfold splitOnce
  rw [Option.map_eq_some_iff, hsep]
  constructor
  · rintro ⟨⟨before, after⟩, hparts, heq⟩
    injection heq with ha hb
    rw [← ha, ← hb, String.toList_ofList, String.toList_ofList]
    exact Splitting.splitOnce_singleton.mp hparts
  · intro h
    refine ⟨(a.toList, b.toList), Splitting.splitOnce_singleton.mpr h, ?_⟩
    rw [String.ofList_toList, String.ofList_toList]

/-- **The dot boundary.** -/
theorem endsUnder_iff {host suffix : String} :
    endsUnder host suffix = true ↔ ∃ labels, labels ≠ "" ∧ host = labels ++ "." ++ suffix := by
  have hlen : ∀ labels, byteLen (labels ++ "." ++ suffix) - byteLen ("." ++ suffix) =
      byteLen labels := by
    intro labels
    rw [String.append_assoc, byteLen_append]
    omega
  unfold endsUnder
  dsimp only
  rw [Bool.and_eq_true, decide_eq_true_eq, List.isSuffixOf_iff_suffix]
  constructor
  · rintro ⟨⟨labels, hlabels⟩, hpos⟩
    have hhost : host = String.ofList labels ++ "." ++ suffix := by
      apply String.toList_inj.mp
      rw [← hlabels]
      simp
    rw [hhost, hlen] at hpos
    refine ⟨String.ofList labels, fun hempty => ?_, hhost⟩
    rw [byteLen_eq_zero.mpr hempty] at hpos
    exact Nat.lt_irrefl 0 hpos
  · rintro ⟨labels, hne, rfl⟩
    refine ⟨⟨labels.toList, by simp⟩, ?_⟩
    rw [hlen]
    exact Nat.pos_of_ne_zero fun h => hne (byteLen_eq_zero.mp h)

theorem matchesWildcard_iff (hnonempty : schemePrefix ≠ "") (hsuffix : wildcardSuffix ≠ "")
    (hstar : '*' ∉ wildcardSuffix.toList) :
    matchesWildcard parse schemePrefix wildcardSuffix (trim origin) = true ↔
      ∃ p h, parse (schemePrefix ++ "placeholder." ++ wildcardSuffix) = some p ∧
        p.host = some h ∧
        LiesUnder parse origin p.scheme ((stripPrefix "placeholder." h).getD h) p.port := by
  have hno : ¬ wildcardSuffix.toList.contains '*' = true := by
    intro h
    exact hstar (by simpa using h)
  unfold matchesWildcard
  rw [if_neg (not_or.mpr ⟨hnonempty, hsuffix⟩), if_neg hno]
  constructor
  · intro h
    split at h
    · cases h
    · next p hp =>
      split at h
      · cases h
      · next g hg =>
        dsimp only at h
        split at h
        · cases h
        · next o ho =>
          split at h
          · cases h
          · next host hhost =>
            split at h
            · cases h
            · next hscheme =>
              split at h
              · cases h
              · next hport =>
                refine ⟨p, g, hp, hg, o, host, ho, ?_, ?_, hhost, endsUnder_iff.mp h⟩
                · exact Decidable.not_not.mp hscheme
                · exact Decidable.not_not.mp hport
  · rintro ⟨p, g, hp, hg, o, host, ho, hscheme, hport, hhost, hsub⟩
    have ho : parse (trim origin) = some o := ho
    rw [hp]
    dsimp only
    rw [hg]
    dsimp only
    rw [ho]
    dsimp only
    rw [hhost]
    dsimp only
    rw [if_neg (not_not_intro hscheme), if_neg (not_not_intro hport)]
    exact endsUnder_iff.mpr hsub

/-! ## Accepted patterns -/

theorem startsWith_http {start : String} (hstart : start = "http://" ∨ start = "https://")
    (h : startsWith start pattern = true) : ∃ rest, pattern.toList = 'h' :: rest := by
  obtain ⟨rest, hrest⟩ := List.isPrefixOf_iff_prefix.mp h
  obtain rfl | rfl := hstart
  · exact ⟨_, hrest.symm⟩
  · exact ⟨_, hrest.symm⟩

/-- An accepted pattern with a wildcard begins with `h` and has a dot somewhere after a `*.`. -/
theorem accepted_parts (hok : validateOriginPattern pattern = .ok ())
    (hstar : '*' ∈ pattern.toList) :
    (∃ rest, pattern.toList = 'h' :: rest) ∧
      ∃ before rest, pattern.toList = before ++ ('*' :: '.' :: rest) ∧ '.' ∈ rest := by
  have hcontains : pattern.toList.contains '*' = true := by simpa using hstar
  unfold validateOriginPattern at hok
  split at hok
  · cases hok
  · split at hok
    · cases hok
    · next hstart =>
      constructor
      · rw [not_and_or, Bool.not_eq_false, Bool.not_eq_false] at hstart
        obtain hstart | hstart := hstart
        · exact startsWith_http (.inl rfl) hstart
        · exact startsWith_http (.inr rfl) hstart
      · split at hok
        · cases hok
        · next before suffix hsplit =>
          split at hok
          · next hdot =>
            obtain ⟨⟨a, b⟩, hparts, heq⟩ := Option.map_eq_some_iff.mp hsplit
            injection heq with hbefore hsuffix
            refine ⟨a, b, Splitting.splitOnce_some hparts, ?_⟩
            rw [← hsuffix, String.toList_ofList] at hdot
            simpa using hdot
          · cases hok

/-- The parts of a trimmed text that has no wildcard before its first `*.`. -/
theorem splitOnce_trim {before rest : List Char} (hhead : ∃ tail, before = 'h' :: tail)
    (hparts : pattern.toList = before ++ ('*' :: '.' :: rest)) (hno : '*' ∉ before) :
    splitOnce "*." (trim pattern) =
      some (String.ofList before, String.ofList (Splitting.trimEnd isWhitespace rest)) := by
  obtain ⟨tail, rfl⟩ := hhead
  have hstart : (pattern.toList.dropWhile isWhitespace) = pattern.toList := by
    rw [hparts]
    rfl
  have htrim : Splitting.trim isWhitespace pattern.toList =
      'h' :: tail ++ ('*' :: ['.'] ++ Splitting.trimEnd isWhitespace rest) := by
    unfold Splitting.trim
    rw [hstart, hparts, Splitting.trimEnd_append (by decide)]
    have hdot := Splitting.trimEnd_append (p := isWhitespace) (a := []) (x := '.') (by decide) rest
    rw [List.nil_append, List.nil_append] at hdot
    rw [hdot]
    rfl
  have hsplit : Splitting.splitOnce ['*', '.'] (Splitting.trim isWhitespace pattern.toList) =
      some ('h' :: tail, Splitting.trimEnd isWhitespace rest) := by
    rw [htrim]
    exact Splitting.splitOnce_append hno
  unfold splitOnce trim
  rw [String.toList_ofList, String.toList_ofList, hsplit]
  rfl

/-- **What the matcher does** with an accepted pattern that has one wildcard. -/
theorem matches_iff (origin : String) (hw : Whatwg parse)
    (hok : validateOriginPattern pattern = .ok ())
    (hstar : '*' ∈ pattern.toList) (hone : ¬ 2 ≤ pattern.toList.count '*') :
    originMatchesPattern parse pattern origin = true ↔ UnderSpliced parse pattern origin := by
  obtain ⟨⟨tail, htail⟩, before, rest, hparts, hdot⟩ := accepted_parts hok hstar
  have hcount : before.count '*' = 0 ∧ rest.count '*' = 0 := by
    rw [hparts, List.count_append, List.count_cons_self, List.count_cons_of_ne (by decide)] at hone
    omega
  have hbefore : '*' ∉ before := List.count_eq_zero.mp hcount.1
  have hrest : '*' ∉ rest := List.count_eq_zero.mp hcount.2
  have hhead : ∃ tail, before = 'h' :: tail := by
    cases before with
    | nil =>
      rw [hparts] at htail
      injection htail with hh
      exact absurd hh (by decide)
    | cons c before =>
      rw [hparts] at htail
      injection htail with hc
      exact ⟨before, by rw [hc]⟩
  have hsplit := splitOnce_trim hhead hparts hbefore
  have hnonempty : String.ofList before ≠ "" := by
    obtain ⟨tail, rfl⟩ := hhead
    intro hempty
    have hlist := congrArg String.toList hempty
    rw [String.toList_ofList] at hlist
    cases hlist
  have hsuffix : String.ofList (Splitting.trimEnd isWhitespace rest) ≠ "" := by
    intro hempty
    have hlist := congrArg String.toList hempty
    rw [String.toList_ofList] at hlist
    have hmem := Splitting.mem_trimEnd (p := isWhitespace) (by decide) hdot
    rw [hlist] at hmem
    cases hmem
  have hno : '*' ∉ (String.ofList (Splitting.trimEnd isWhitespace rest)).toList := by
    rw [String.toList_ofList]
    exact fun hmem => hrest (Splitting.trimEnd_subset hmem)
  have hnot : pattern ≠ "*" := by
    rintro rfl
    injection htail with hh
    exact absurd hh (by decide)
  have htrim : trim pattern ≠ "" := by
    intro hempty
    rw [hempty] at hsplit
    cases hsplit
  have hunder : UnderSpliced parse pattern origin ↔ ∃ p h,
      parse (String.ofList before ++ "placeholder." ++
        String.ofList (Splitting.trimEnd isWhitespace rest)) = some p ∧ p.host = some h ∧
        LiesUnder parse origin p.scheme ((stripPrefix "placeholder." h).getD h) p.port := by
    constructor
    · rintro ⟨a, b, p, g, hab, hp, hg, hlies⟩
      rw [hsplit] at hab
      cases hab
      exact ⟨p, g, hp, hg, hlies⟩
    · rintro ⟨p, g, hp, hg, hlies⟩
      exact ⟨_, _, p, g, hsplit, hp, hg, hlies⟩
  unfold originMatchesPattern
  rw [if_neg hnot]
  dsimp only
  by_cases horigin : trim origin = ""
  · rw [if_pos (.inr horigin)]
    refine iff_of_false (by simp) ?_
    rintro ⟨_, _, _, _, -, -, -, o, _, ho, -⟩
    unfold originUrl at ho
    rw [horigin, hw.empty] at ho
    cases ho
  · rw [if_neg (not_or.mpr ⟨htrim, horigin⟩), hsplit, hunder]
    exact matchesWildcard_iff hnonempty hsuffix hno

/-! ## Written patterns -/

theorem isWhitespace_of_graphic {c : Char} (hlow : 33 ≤ c.toNat) (hhigh : c.toNat ≤ 126) :
    isWhitespace c = false := by
  unfold isWhitespace
  simp only [Bool.or_eq_false_iff, Bool.and_eq_false_iff, decide_eq_false_iff_not,
    List.contains_eq_mem, List.mem_cons, List.not_mem_nil, or_false]
  omega

theorem nameChar_bounds {c : Char} (h : nameChar c = true) : 33 ≤ c.toNat ∧ c.toNat ≤ 126 := by
  unfold nameChar at h
  simp only [Bool.and_eq_true, decide_eq_true_eq] at h
  exact h.1

variable {scheme suffix portText : String}

theorem Written.isWhitespace (h : Written parse pattern scheme suffix portText) :
    ∀ c ∈ (suffix ++ portText).toList, isWhitespace c = false := by
  intro c hc
  rw [String.toList_append, List.mem_append] at hc
  obtain hc | hc := hc
  · obtain ⟨hlow, hhigh⟩ := nameChar_bounds (List.all_eq_true.mp h.isName c hc)
    exact isWhitespace_of_graphic hlow hhigh
  · obtain hport | ⟨digits, hport, hdigits⟩ := h.isPort
    · rw [hport] at hc
      cases hc
    · rw [hport, List.mem_cons] at hc
      obtain rfl | hc := hc
      · decide
      · exact isWhitespace_of_digit (List.all_eq_true.mp hdigits c hc)

/-- The first `*.` of a written pattern is the one after the scheme. -/
theorem Written.splitOnce_eq (h : Written parse pattern scheme suffix portText) :
    splitOnce "*." (trim pattern) = some (scheme ++ "://", suffix ++ portText) := by
  have hhead : ∃ tail, (scheme ++ "://").toList = 'h' :: tail := by
    obtain rfl | rfl := h.isScheme
    · exact ⟨_, rfl⟩
    · exact ⟨_, rfl⟩
  have hno : '*' ∉ (scheme ++ "://").toList := by
    obtain rfl | rfl := h.isScheme
    · decide
    · decide
  have hparts : pattern.toList =
      (scheme ++ "://").toList ++ ('*' :: '.' :: (suffix ++ portText).toList) := by
    rw [h.eq, String.toList_append, String.toList_append]
    simp
  rw [splitOnce_trim hhead hparts hno, Splitting.trimEnd_eq_self h.isWhitespace,
    String.ofList_toList, String.ofList_toList]

/-- **A written pattern** has the origins under it that its text says. -/
theorem Written.under_iff (hw : Whatwg parse)
    (h : Written parse pattern scheme suffix portText) :
    UnderSpliced parse pattern origin ↔
      LiesUnder parse origin scheme suffix (writtenPort scheme portText) := by
  obtain ⟨u, hu⟩ := Option.isSome_iff_exists.mp h.readable
  obtain ⟨hscheme, hport, name, hhost, hname⟩ :=
    hw.name scheme suffix portText u h.isScheme h.isName h.isPort hu
  have hlies : LiesUnder parse origin u.scheme
      ((stripPrefix "placeholder." ("placeholder." ++ name)).getD ("placeholder." ++ name)) u.port ↔
      LiesUnder parse origin scheme suffix (writtenPort scheme portText) := by
    rw [stripPrefix_append, hscheme, hport]
    unfold LiesUnder Subdomain
    rw [Option.getD_some, hname]
  constructor
  · rintro ⟨a, b, p, g, hab, hp, hg, hunder⟩
    rw [h.splitOnce_eq] at hab
    cases hab
    rw [hu] at hp
    cases hp
    rw [hhost] at hg
    cases hg
    exact hlies.mp hunder
  · intro hunder
    exact ⟨_, _, u, _, h.splitOnce_eq, hu, hhost, hlies.mpr hunder⟩

/-- **Wildcard patterns.** For an accepted pattern with a wildcard and an origin: the matcher
accepts what the pattern covers, and the pattern is not one that should be rejected, exactly when
the pattern has one wildcard, directly after `://`, an origin that lies under its scheme, suffix and
port has no path, and no origin lies under it when it has more than these. -/
theorem wildcard_covers_iff (parse : Parser) (hw : Whatwg parse) (pattern origin : String)
    (hstar : '*' ∈ pattern.toList) (hok : validateOriginPattern pattern = .ok ()) :
    ((originMatchesPattern parse pattern origin = true ↔ Covers parse pattern origin) ∧
      (Misplaced pattern → validateOriginPattern pattern ≠ .ok () ∧
        originMatchesPattern parse pattern origin = false)) ↔
    ¬ Misplaced pattern ∧
      (∀ scheme suffix portText, Written parse pattern scheme suffix portText →
        LiesUnder parse origin scheme suffix (writtenPort scheme portText) →
        ¬ HasPath parse origin) ∧
      ((¬ ∃ scheme suffix portText, Written parse pattern scheme suffix portText) →
        ¬ UnderSpliced parse pattern origin) := by
  constructor
  · rintro ⟨hmatch, hreject⟩
    have hplaced : ¬ Misplaced pattern := fun h => (hreject h).1 hok
    have hmatches := matches_iff origin hw hok hstar fun h => hplaced (.inl h)
    refine ⟨hplaced, ?_, ?_⟩
    · intro scheme suffix portText hwritten hlies
      have hunder := (hwritten.under_iff hw).mpr hlies
      obtain ⟨_, _, _, -, -, hpath⟩ := hmatch.mp (hmatches.mpr hunder)
      exact hpath
    · intro hnone hunder
      obtain ⟨scheme, suffix, portText, hwritten, -⟩ := hmatch.mp (hmatches.mpr hunder)
      exact hnone ⟨scheme, suffix, portText, hwritten⟩
  · rintro ⟨hplaced, hpath, hmore⟩
    have hmatches := matches_iff origin hw hok hstar fun h => hplaced (.inl h)
    refine ⟨?_, fun h => absurd h hplaced⟩
    rw [hmatches]
    constructor
    · intro hunder
      by_cases hform : ∃ scheme suffix portText, Written parse pattern scheme suffix portText
      · obtain ⟨scheme, suffix, portText, hwritten⟩ := hform
        have hlies := (hwritten.under_iff hw).mp hunder
        exact ⟨scheme, suffix, portText, hwritten, hlies, hpath _ _ _ hwritten hlies⟩
      · exact absurd hunder (hmore hform)
    · rintro ⟨scheme, suffix, portText, hwritten, hlies, -⟩
      exact (hwritten.under_iff hw).mpr hlies

/-- What the parser reads in some texts. -/
def sampleUrls : List (String × Url) :=
  [("https://placeholder.example.com", ⟨"https", some "placeholder.example.com", none, "/"⟩),
    ("https://a.example.com", ⟨"https", some "a.example.com", none, "/"⟩),
    ("https://a.example.com/app", ⟨"https", some "a.example.com", none, "/app"⟩),
    ("https://fooplaceholder.example.com",
      ⟨"https", some "fooplaceholder.example.com", none, "/"⟩),
    ("https://x.fooplaceholder.example.com",
      ⟨"https", some "x.fooplaceholder.example.com", none, "/"⟩)]

def sampleParser : Parser := fun text => (sampleUrls.find? fun e => e.1 = text).map Prod.snd

theorem whatwg_sampleParser : Whatwg sampleParser := by
  refine ⟨by decide +kernel, ?_⟩
  intro scheme suffix portText u hscheme hname hport hu
  obtain ⟨⟨text, url⟩, hfind, rfl⟩ := Option.map_eq_some_iff.mp hu
  have hmem := List.mem_of_find?_eq_some hfind
  have htext := List.find?_some hfind
  rw [decide_eq_true_eq] at htext
  have htext : text = scheme ++ "://" ++ "placeholder." ++ (suffix ++ portText) := htext
  have happend : text.toList =
      (scheme ++ "://" ++ "placeholder.").toList ++ (suffix ++ portText).toList := by
    rw [htext]
    exact String.toList_append
  have hpre : (scheme ++ "://" ++ "placeholder.").toList <+: text.toList := by
    rw [happend]
    exact List.prefix_append _ _
  obtain rfl | rfl := hscheme
  · have hnone : ∀ e ∈ sampleUrls,
        ¬ ("http" ++ "://" ++ "placeholder.").toList <+: e.1.toList := by
      decide +kernel
    exact absurd hpre (hnone _ hmem)
  · have hone : ∀ e ∈ sampleUrls, ("https" ++ "://" ++ "placeholder.").toList <+: e.1.toList →
        e = ("https://placeholder.example.com",
          ⟨"https", some "placeholder.example.com", none, "/"⟩) := by
      decide +kernel
    have heq := hone _ hmem hpre
    injection heq with hleft hright
    have hrest : suffix ++ portText = "example.com" := by
      have hwhole : "https://placeholder.example.com".toList =
          ("https" ++ "://" ++ "placeholder.").toList ++ "example.com".toList := by
        decide +kernel
      rw [hleft, hwhole] at happend
      exact String.toList_inj.mp (List.append_cancel_left happend).symm
    have hempty : portText = "" := by
      obtain hport | ⟨digits, hport, -⟩ := hport
      · exact hport
      · have hcolon : ':' ∈ (suffix ++ portText).toList := by
          rw [String.toList_append, hport]
          simp
        rw [hrest] at hcolon
        exact absurd hcolon (by decide)
    rw [hempty, String.append_empty] at hrest
    rw [hright, hempty, hrest]
    exact ⟨rfl, rfl, "example.com", rfl, rfl⟩

theorem written_sample : Written sampleParser "https://*.example.com" "https" "example.com" "" :=
  { isScheme := .inr rfl
    nonempty := by decide
    isName := by decide
    isPort := .inl rfl
    eq := by decide +kernel
    readable := by decide +kernel }

/-- `https://*.example.com` covers `https://a.example.com`, and the matcher accepts it. -/
theorem wildcard_covers_subdomain :
    originMatchesPattern sampleParser "https://*.example.com" "https://a.example.com" = true ∧
      Covers sampleParser "https://*.example.com" "https://a.example.com" := by
  have hmatch : originMatchesPattern sampleParser "https://*.example.com"
      "https://a.example.com" = true := by
    decide +kernel
  have hurl : originUrl sampleParser "https://a.example.com" =
      some ⟨"https", some "a.example.com", none, "/"⟩ := by
    decide +kernel
  have hplaced : ¬ Misplaced "https://*.example.com" := by
    rintro (htwo | ⟨before, rest, heq, hnot⟩)
    · exact absurd htwo (by decide)
    · have hparts : "https://*.example.com".toList =
          "https://".toList ++ '*' :: ".example.com".toList := by
        decide
      -- the pattern has no other star on either side
      obtain ⟨hbefore, -⟩ | ⟨part, -, hright⟩ | ⟨part, hleft, -⟩ :=
        Splitting.separated_eq (hparts.symm.trans heq)
      · rw [← hbefore] at hnot
        exact hnot ⟨"https".toList, by decide⟩
      · have hmem : '*' ∈ ".example.com".toList := by
          rw [hright]
          simp
        exact absurd hmem (by decide)
      · have hmem : '*' ∈ "https://".toList := by
          rw [hleft]
          simp
        exact absurd hmem (by decide)
  have h := (wildcard_covers_iff sampleParser whatwg_sampleParser "https://*.example.com"
    "https://a.example.com" (by decide) (by decide +kernel)).mpr ⟨hplaced, ?_, ?_⟩
  · exact ⟨hmatch, h.1.mp hmatch⟩
  · rintro - - - - - ⟨o, ho, hpath⟩
    rw [hurl] at ho
    cases ho
    exact hpath rfl
  · exact fun hnone => absurd ⟨_, _, _, written_sample⟩ hnone

/-- An origin with a path is accepted; a wildcard within a label is accepted by the validator and
lets origins in; two wildcards are accepted by the validator. -/
theorem wildcard_covers_more :
    (validateOriginPattern "https://*.example.com" = .ok () ∧
      originMatchesPattern sampleParser "https://*.example.com" "https://a.example.com/app" =
        true ∧
      ¬ Covers sampleParser "https://*.example.com" "https://a.example.com/app") ∧
    (Misplaced "https://foo*.example.com" ∧
      validateOriginPattern "https://foo*.example.com" = .ok () ∧
      originMatchesPattern sampleParser "https://foo*.example.com"
        "https://x.fooplaceholder.example.com" = true) ∧
    Misplaced "https://*.*.example.com" ∧
      validateOriginPattern "https://*.*.example.com" = .ok () := by
  refine ⟨⟨by decide +kernel, by decide +kernel, ?_⟩,
    ⟨.inr ⟨"https://foo".toList, "example.com".toList, by decide, by decide⟩, by decide +kernel,
      by decide +kernel⟩, .inl (by decide), by decide +kernel⟩
  rintro ⟨_, _, _, -, -, hpath⟩
  exact hpath ⟨⟨"https", some "a.example.com", none, "/app"⟩, by decide +kernel, by decide⟩

end OriginPatterns

end ProviiVerifier

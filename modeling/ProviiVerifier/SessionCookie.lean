/-
  `hosted/cookie.rs`, and the cookie parser of `hosted/endpoints/session_check.rs`: how the session
  token travels in a cookie.

  The user agent is not the code's. It keeps the name and the value that stand before the first
  semicolon of a `Set-Cookie` header, and sends its cookies back in one `Cookie` header
  (`keptCookie`, `cookieHeader`).

  Proved: what the user agent keeps of `generate_session_cookie` is the token
  (`keptCookie_generate`), and both parsers find a cookie's value unchanged among any cookies of
  other names (`parseCookie_header`, `namedCookie_header`).
-/
import ProviiVerifier.OriginPatterns

namespace ProviiVerifier

namespace SessionCookie

open OriginPatterns (trim splitOnce splitOnce_eq_some_iff startsWith)

/-! ## The writer -/

/-- `SameSitePolicy`. -/
inductive SameSitePolicy
  | lax
  | strict
  | none
  deriving DecidableEq

def SameSitePolicy.toString : SameSitePolicy → String
  | .lax => "Lax"
  | .strict => "Strict"
  | .none => "None"

/-- `CookieConfig`. -/
structure CookieConfig where
  name : String := "__Host-session"
  domain : Option String := none
  path : String := "/"
  maxAge : Nat := 86400
  httpOnly : Bool := true
  secure : Bool := true
  sameSite : SameSitePolicy := .none
  deriving DecidableEq

/-- The bytes of a cookie value. -/
def isSafeByte (b : Nat) : Bool :=
  b = 0x21 || (0x23 ≤ b && b ≤ 0x2B) || (0x2D ≤ b && b ≤ 0x3A) || (0x3C ≤ b && b ≤ 0x5B) ||
    (0x5D ≤ b && b ≤ 0x7E)

/-- `is_cookie_value_safe`. A character outside ASCII has no byte below 128. -/
def isCookieValueSafe (value : String) : Bool := value.toList.all fun c => isSafeByte c.toNat

/-- The rules of the `__Host-` prefix: no domain, `Secure`, the root path. -/
def CookieConfig.fixHost (config : CookieConfig) : CookieConfig :=
  if startsWith "__Host-" config.name then
    { config with
      domain := if config.domain.any (· ≠ "") then none else config.domain
      secure := true
      path := "/" }
  else config

/-- The attributes after the cookie pair. -/
def CookieConfig.attributes (config : CookieConfig) : List String :=
  (match config.domain with
    | some domain => if domain = "" then [] else ["Domain=" ++ domain]
    | none => []) ++
  ["Path=" ++ config.path] ++ ["Max-Age=" ++ toString config.maxAge] ++
  (if config.httpOnly then ["HttpOnly"] else []) ++
  (if config.secure then ["Secure"] else []) ++
  ["SameSite=" ++ config.sameSite.toString]

/-- `generate_session_cookie`. -/
def generateSessionCookie (token : String) (config : CookieConfig) : String :=
  if isCookieValueSafe token = false then
    config.name ++ "=" ++ "invalid; Path=/; Max-Age=0; HttpOnly; Secure; SameSite=None"
  else
    let config := config.fixHost
    "; ".intercalate ((config.name ++ "=" ++ token) :: config.attributes)

/-! ## The user agent -/

/-- A cookie name: not empty, trimmed, without a semicolon and an equals sign. -/
structure CookieName where
  val : String
  not_empty : val ≠ ""
  trimmed : trim val = val
  separators : ';' ∉ val.toList ∧ '=' ∉ val.toList

/-- A cookie as it is sent. -/
structure Cookie where
  name : CookieName
  value : String
  separators : ';' ∉ value.toList

/-- The name and the value a user agent keeps of a `Set-Cookie` header. -/
def keptCookie (setCookie : String) : Option (String × String) :=
  let pair := match splitOnce ";" setCookie with
    | some (pair, _) => pair
    | none => setCookie
  (splitOnce "=" pair).map fun parts => (trim parts.1, trim parts.2)

def Cookie.pair (c : Cookie) : String × String := (c.name.val, c.value)

/-- A `Cookie` header. -/
def cookieHeader (cookies : List (String × String)) : String :=
  "; ".intercalate (cookies.map fun c => c.1 ++ "=" ++ c.2)

/-! ## The parsers -/

/-- `str::split` at a character. -/
def split (c : Char) (s : String) : List String := (s.toList.splitOn c).map String.ofList

/-- `str::trim_start`. -/
def trimStart (s : String) : String := String.ofList (s.toList.dropWhile isWhitespace)

/-- One pair in `parse_cookie` of `session_check.rs`. -/
def namedValue (name pair : String) : Option String :=
  match stripPrefix name (trim pair) with
  | none => none
  | some value => (stripPrefix "=" (trimStart value)).map trim

/-- `parse_cookie` of `session_check.rs`. -/
def namedCookie (header name : String) : Option String :=
  (split ';' header).findSome? (namedValue name)

/-- One part in `parse_cookie` of `cookie.rs`. -/
def keyedValue (name part : String) : Option String :=
  match splitOnce "=" (trim part) with
  | some (key, value) => if key = name then some value else none
  | none => none

/-- `parse_cookie` of `cookie.rs`. -/
def parseCookie (header name : String) : Option String :=
  (split ';' header).findSome? (keyedValue name)

/-! ## Cookies of a header -/

variable {β : Type} {c : Cookie} {name : CookieName} {cookies : List Cookie}

def Cookie.text (c : Cookie) : String := c.name.val ++ "=" ++ c.value

theorem Cookie.toList_text (c : Cookie) :
    c.text.toList = c.name.val.toList ++ '=' :: c.value.toList := by
  unfold Cookie.text
  rw [String.toList_append, String.toList_append, List.append_assoc]
  rfl

theorem Cookie.semicolon_not_mem (c : Cookie) : ';' ∉ c.text.toList := by
  rw [c.toList_text, List.mem_append, List.mem_cons]
  intro h
  rcases h with h | h | h
  · exact c.name.separators.1 h
  · exact absurd h (by decide)
  · exact c.separators h

theorem CookieName.toList_ne_nil (name : CookieName) : name.val.toList ≠ [] := by
  intro h
  exact name.not_empty (String.toList_inj.mp h)

theorem CookieName.trim_toList (name : CookieName) :
    Splitting.trim isWhitespace name.val.toList = name.val.toList := by
  have h := congrArg String.toList name.trimmed
  unfold trim at h
  rw [String.toList_ofList] at h
  exact h

/-- A space before a pair is trimmed away. -/
theorem trim_space (s : String) : trim (" " ++ s) = trim s := by
  unfold trim Splitting.trim
  rw [String.toList_append]
  have hspace : (" ".toList ++ s.toList).dropWhile isWhitespace = s.toList.dropWhile isWhitespace :=
    List.dropWhile_cons_of_pos (by decide)
  rw [hspace]

theorem toList_cookieHeader (c : Cookie) (cookies : List Cookie) :
    (cookieHeader ((c :: cookies).map Cookie.pair)).toList =
      [';'].intercalate (c.text.toList :: cookies.map fun d => (" " ++ d.text).toList) := by
  unfold cookieHeader
  induction cookies generalizing c with
  | nil =>
    rw [List.map_nil, List.intercalate_singleton]
    simp only [List.map_cons, List.map_nil, String.intercalate_singleton]
    rfl
  | cons d cookies ih =>
    have hspace : (" " ++ d.text).toList = ' ' :: d.text.toList := by
      rw [String.toList_append]
      rfl
    have htext : (c.pair.1 ++ "=" ++ c.pair.2).toList = c.text.toList := rfl
    have ih := ih d
    simp only [List.map_cons] at ih ⊢
    rw [List.intercalate_cons_cons, hspace, List.intercalate_cons_cons_left, ← ih,
      String.intercalate_cons_cons, String.toList_append, String.toList_append, htext]
    simp only [List.append_assoc, List.cons_append, List.nil_append]
    rfl

/-- A header is split into the texts of its cookies, all but the first after a space. -/
theorem split_cookieHeader (c : Cookie) (cookies : List Cookie) :
    split ';' (cookieHeader ((c :: cookies).map Cookie.pair)) =
      c.text :: cookies.map fun d => " " ++ d.text := by
  have hparts : ∀ l ∈ c.text.toList :: cookies.map (fun d => (" " ++ d.text).toList), ';' ∉ l := by
    intro l hl
    rcases List.mem_cons.mp hl with rfl | hl
    · exact c.semicolon_not_mem
    · obtain ⟨d, -, rfl⟩ := List.mem_map.mp hl
      rw [String.toList_append, List.mem_append, not_or]
      exact ⟨by decide, d.semicolon_not_mem⟩
  unfold split
  rw [toList_cookieHeader, List.splitOn_intercalate ';' hparts (List.cons_ne_nil _ _)]
  simp only [List.map_cons, List.map_map, String.ofList_toList]
  congr 1
  apply List.map_congr_left
  intro d _
  exact String.ofList_toList

/-- What a parser that trims finds in a header is what it finds in the cookies. -/
theorem findSome_cookieHeader {f : String → Option β} (hf : ∀ s, f (" " ++ s) = f s)
    (h : cookies ≠ []) : (split ';' (cookieHeader (cookies.map Cookie.pair))).findSome? f =
      cookies.findSome? fun c => f c.text := by
  obtain ⟨c, cookies, rfl⟩ := List.exists_cons_of_ne_nil h
  rw [split_cookieHeader, List.findSome?_cons, List.findSome?_cons, List.findSome?_map]
  have hcomp : (f ∘ fun d : Cookie => " " ++ d.text) = fun d => f d.text := by
    funext d
    exact hf d.text
  rw [hcomp]

/-- The first cookie of a name, where the cookies before have others. -/
theorem findSome_of_skip {f : Cookie → Option β} {b : β} {before after : List Cookie}
    (hskip : ∀ d ∈ before, f d = none) (hfound : f c = some b) :
    (before ++ c :: after).findSome? f = some b := by
  have hbefore : before.findSome? f = none := List.findSome?_eq_none_iff.mpr hskip
  rw [List.findSome?_append, hbefore, List.findSome?_cons, hfound]
  rfl

/-! ## Extraction -/

/-- Splitting at the first place of a character. -/
theorem splitOnce_at {sep s : String} {x : Char} {a b : List Char} (hsep : sep.toList = [x])
    (hs : s.toList = a ++ x :: b) (hx : x ∉ a) :
    splitOnce sep s = some (String.ofList a, String.ofList b) := by
  rw [splitOnce_eq_some_iff hsep, String.toList_ofList, String.toList_ofList]
  exact ⟨hs, hx⟩

theorem toList_of_stripPrefix {start s rest : String} (h : stripPrefix start s = some rest) :
    start.toList ++ rest.toList = s.toList := by
  rw [stripPrefix_eq_some_iff.mp h, String.toList_append]

/-- What is left of a cookie's text after trimming. -/
theorem toList_trim_text (c : Cookie) : (trim c.text).toList =
    c.name.val.toList ++ '=' :: Splitting.trimEnd isWhitespace c.value.toList := by
  unfold trim Splitting.trim
  rw [String.toList_ofList, c.toList_text,
    Splitting.dropWhile_append_of_trim c.name.trim_toList c.name.toList_ne_nil,
    Splitting.trimEnd_append (by decide)]

/-- **A cookie of another name** is passed over by `cookie.rs`. -/
theorem keyedValue_ne (h : c.name.val ≠ name.val) : keyedValue name.val c.text = none := by
  unfold keyedValue
  rw [splitOnce_at rfl (toList_trim_text c) c.name.separators.2, String.ofList_toList]
  exact if_neg h

/-- **A cookie of another name** is passed over by `session_check.rs`, also when its name begins
with the name. -/
theorem namedValue_ne (h : c.name.val ≠ name.val) : namedValue name.val c.text = none := by
  unfold namedValue
  split
  · rfl
  · next rest hrest =>
    have hlist : name.val.toList ++ rest.toList =
        c.name.val.toList ++ '=' :: Splitting.trimEnd isWhitespace c.value.toList := by
      rw [toList_of_stripPrefix hrest, toList_trim_text]
    -- the name has no `=`, so it is the beginning of the other name
    obtain ⟨part, hname, htext⟩ | ⟨part, hname, hpart⟩ := List.append_eq_append_iff.mp hlist
    · have hne : part ≠ [] := by
        rintro rfl
        rw [List.append_nil] at hname
        exact h (String.toList_inj.mp hname)
      have hno : '=' ∉ part := by
        intro hmem
        have hsep := c.name.separators.2
        rw [hname] at hsep
        exact hsep (List.mem_append_right _ hmem)
      have htrim := c.name.trim_toList
      rw [hname] at htrim
      have hstrip : stripPrefix "=" (trimStart rest) = none := by
        cases hs : stripPrefix "=" (trimStart rest) with
        | none => rfl
        | some value =>
          have heq := (toList_of_stripPrefix hs).trans String.toList_ofList
          rw [htext] at heq
          exact absurd heq.symm (Splitting.dropWhile_ne_cons htrim hne hno _ _)
      rw [hstrip]
      rfl
    · cases part with
      | nil =>
        rw [List.append_nil] at hname
        exact absurd (String.toList_inj.mp hname.symm) h
      | cons x part =>
        injection hpart with hx _
        have hsep := name.separators.2
        rw [hname, ← hx] at hsep
        exact absurd (List.mem_append_right _ List.mem_cons_self) hsep

/-- No whitespace in the value. -/
def Plain (value : String) : Prop := ∀ x ∈ value.toList, isWhitespace x = false

theorem trim_plain {value : String} (h : Plain value) : trim value = value := by
  unfold trim
  rw [Splitting.trim_eq_self h, String.ofList_toList]

theorem trim_text_plain (h : Plain c.value) : trim c.text = c.text := by
  apply String.toList_inj.mp
  rw [toList_trim_text, Splitting.trimEnd_eq_self h, c.toList_text]

theorem keyedValue_self (h : Plain c.value) : keyedValue c.name.val c.text = some c.value := by
  unfold keyedValue
  rw [trim_text_plain h, splitOnce_at rfl c.toList_text c.name.separators.2,
    String.ofList_toList, String.ofList_toList]
  exact if_pos rfl

theorem namedValue_self (h : Plain c.value) : namedValue c.name.val c.text = some c.value := by
  have htext : c.text = c.name.val ++ ("=" ++ c.value) := String.append_assoc
  have hstart : trimStart ("=" ++ c.value) = "=" ++ c.value := by
    unfold trimStart
    rw [String.toList_append]
    show String.ofList (('=' :: c.value.toList).dropWhile isWhitespace) = _
    rw [List.dropWhile_cons_of_neg (by decide)]
    exact String.toList_inj.mp (by rw [String.toList_ofList, String.toList_append]; rfl)
  unfold namedValue
  rw [trim_text_plain h, htext, stripPrefix_append]
  dsimp only
  rw [hstart, stripPrefix_append, Option.map_some, trim_plain h]

variable {before after : List Cookie}

/-- **`parse_cookie` of `session_check.rs`** finds a value unchanged behind cookies of other
names. -/
theorem namedCookie_header (h : Plain c.value) (hother : ∀ d ∈ before, d.name.val ≠ c.name.val) :
    namedCookie (cookieHeader ((before ++ c :: after).map Cookie.pair)) c.name.val =
      some c.value := by
  have hspace : ∀ s, namedValue c.name.val (" " ++ s) = namedValue c.name.val s := by
    intro s
    unfold namedValue
    rw [trim_space]
  unfold namedCookie
  rw [findSome_cookieHeader hspace (List.append_ne_nil_of_right_ne_nil _ (List.cons_ne_nil _ _))]
  exact findSome_of_skip (fun d hd => namedValue_ne (hother d hd)) (namedValue_self h)

/-- **`parse_cookie` of `cookie.rs`** does as well. -/
theorem parseCookie_header (h : Plain c.value) (hother : ∀ d ∈ before, d.name.val ≠ c.name.val) :
    parseCookie (cookieHeader ((before ++ c :: after).map Cookie.pair)) c.name.val =
      some c.value := by
  have hspace : ∀ s, keyedValue c.name.val (" " ++ s) = keyedValue c.name.val s := by
    intro s
    unfold keyedValue
    rw [trim_space]
  unfold parseCookie
  rw [findSome_cookieHeader hspace (List.append_ne_nil_of_right_ne_nil _ (List.cons_ne_nil _ _))]
  exact findSome_of_skip (fun d hd => keyedValue_ne (hother d hd)) (keyedValue_self h)

/-! ## What the user agent keeps -/

variable {token : String} {config : CookieConfig}

theorem range_of_safe (h : isCookieValueSafe token = true) {x : Char} (hx : x ∈ token.toList) :
    0x21 ≤ x.toNat ∧ x.toNat ≤ 0x7E ∧ x.toNat ≠ 0x3B := by
  unfold isCookieValueSafe at h
  have hx := List.all_eq_true.mp h x hx
  unfold isSafeByte at hx
  simp only [Bool.or_eq_true, Bool.and_eq_true, decide_eq_true_eq] at hx
  omega

theorem plain_of_safe (h : isCookieValueSafe token = true) : Plain token := by
  intro x hx
  have hrange := range_of_safe h hx
  unfold isWhitespace
  simp only [List.contains_cons, List.contains_nil, Bool.or_eq_false_iff, Bool.and_eq_false_iff,
    decide_eq_false_iff_not, beq_eq_false_iff_ne, and_true]
  omega

theorem semicolon_not_mem_of_safe (h : isCookieValueSafe token = true) : ';' ∉ token.toList := by
  intro hmem
  exact (range_of_safe h hmem).2.2 rfl

/-- The cookie that carries a safe value. -/
def Cookie.ofSafe (name : CookieName) (token : String) (h : isCookieValueSafe token = true) :
    Cookie :=
  { name := name, value := token, separators := semicolon_not_mem_of_safe h }

theorem fixHost_name (config : CookieConfig) : config.fixHost.name = config.name := by
  unfold CookieConfig.fixHost
  split <;> rfl

theorem attributes_ne_nil (config : CookieConfig) : config.attributes ≠ [] := by
  unfold CookieConfig.attributes
  exact List.append_ne_nil_of_right_ne_nil _ (List.cons_ne_nil _ _)

/-- **The user agent keeps the token**, whatever the attributes are. -/
theorem keptCookie_generate (h : isCookieValueSafe token = true) (hname : config.name = name.val) :
    keptCookie (generateSessionCookie token config) = some (name.val, token) := by
  let c := Cookie.ofSafe name token h
  have htext : config.name ++ "=" ++ token = c.text := by
    rw [hname]
    rfl
  have hcookie : (generateSessionCookie token config).toList =
      c.text.toList ++ ';' :: (" " ++ "; ".intercalate config.fixHost.attributes).toList := by
    unfold generateSessionCookie
    rw [h, if_neg (by decide)]
    dsimp only
    rw [fixHost_name, htext, String.intercalate_cons_of_ne_nil (attributes_ne_nil _),
      String.toList_append, String.toList_append, String.toList_append, List.append_assoc]
    rfl
  unfold keptCookie
  rw [splitOnce_at rfl hcookie c.semicolon_not_mem]
  dsimp only
  rw [String.ofList_toList, splitOnce_at rfl c.toList_text c.name.separators.2, Option.map_some]
  simp only [String.ofList_toList]
  have hvalue : trim c.value = token := trim_plain (plain_of_safe h)
  rw [c.name.trimmed, hvalue]
  rfl

end SessionCookie

end ProviiVerifier

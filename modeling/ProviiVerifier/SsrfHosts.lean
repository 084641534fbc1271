/-
  `utils/ssrf_protection.rs`: the tests of a URL before a request is sent to it, and the names of
  hosts that they refuse.

  The parser of the `url` crate is a parameter. Of it is assumed how it writes a host (`Whatwg`): a
  name as it is, which does not read as an address; an IPv4 address in four numbers; an IPv6 address
  in brackets.

  Proved: what the tests of names and the allowlist pass (`validateHostnameNotBlocked_ok_iff`,
  `validateHostnameNotMetadata_ok_iff`, `validateHostnameAllowlist_ok_iff`), and that the address a
  host is written from is the one that is tested (`hostClean_ipv4`, `hostClean_ipv6`). The host of
  an accepted URL may be contacted, but where it is a name that is to be refused with the dot of the
  root after it: such a name passes all tests (`hosts_safe_iff`).
-/
import ProviiVerifier.IpText
import ProviiVerifier.NonceDO
import ProviiVerifier.OriginPatterns

namespace ProviiVerifier

namespace SsrfProtection

open IpText
open OriginPatterns (toAsciiLowercase)

/-! ## URLs -/

/-- `url::Host`. -/
inductive Host
  | domain (name : String)
  | ipv4 (ip : Ipv4Addr)
  | ipv6 (ip : Ipv6Addr)
  deriving DecidableEq, Repr

/-- What the code reads of a `Url`, and the host that is contacted. -/
structure Url where
  scheme : String
  port : Option Nat
  host : Option Host
  hostStr : Option String
  deriving DecidableEq, Repr

/-- `Url::parse`, with the text of its error. -/
abbrev Parser := String → Except String Url

/-! ## The tests of a name -/

/-- `BLOCKED_HOSTNAMES`. -/
def blockedHostnames : List String := ["localhost", "localhost.localdomain"]

/-- `BLOCKED_HOSTNAME_SUFFIXES`. -/
def blockedHostnameSuffixes : List String := [".local", ".internal", ".localhost"]

/-- `METADATA_HOSTNAMES`. -/
def metadataHostnames : List String := ["metadata.google.internal", "metadata.goog", "metadata"]

/-- `str::ends_with`. -/
def endsWith (suffix s : String) : Bool := suffix.toList.isSuffixOf s.toList

/-- `validate_hostname_not_blocked`. -/
def validateHostnameNotBlocked (hostname : String) : Except ApiError Unit :=
  let lower := toAsciiLowercase hostname
  if blockedHostnames.contains lower then refused "hostname is blocked"
  else if blockedHostnameSuffixes.any fun suffix =>
      lower = String.ofList (suffix.toList.drop 1) || endsWith suffix lower then
    refused "hostname suffix is blocked"
  else .ok ()

/-- `validate_hostname_not_metadata`. -/
def validateHostnameNotMetadata (hostname : String) : Except ApiError Unit :=
  let lower := toAsciiLowercase hostname
  if metadataHostnames.any fun name => lower = name || endsWith ("." ++ name) lower then
    refused "cloud metadata hostname is blocked"
  else .ok ()

/-- `validate_hostname_allowlist`. -/
def validateHostnameAllowlist (hostname : String) (config : SsrfConfig) : Except ApiError Unit :=
  if config.allowedHosts.contains hostname then .ok ()
  else if config.allowedHosts.any fun allowed =>
      match stripPrefix "*." allowed with
      | some domain => hostname = domain || endsWith ("." ++ domain) hostname
      | none => false then
    .ok ()
  else
    .error (.forbidden (some ("Hostname '" ++ hostname ++ "' is not in the SSRF allowlist")))

/-! ## The tests of a URL -/

/-- The host without brackets around it. -/
def hostClean (hostname : String) : String :=
  String.ofList (Splitting.trimEnd (· == ']') (hostname.toList.dropWhile (· == '[')))

/-- The test of a host that is an address. -/
def validateIpLiteral (hostname : String) (config : SsrfConfig) : Except ApiError Unit :=
  match parseIpAddr (hostClean hostname) with
  | some ip => validateIpAddress ip config
  | none => .ok ()

/-- `validate_url_for_fetch`. -/
def validateUrlForFetch (parse : Parser) (url : String) (config : SsrfConfig) :
    Except ApiError Unit :=
  match parse url with
  | .error e => .error (.badRequest (some ("Invalid URL format: " ++ e)))
  | .ok parsedUrl =>
    if parsedUrl.scheme ≠ "https" then
      .error (.badRequest (some "Only HTTPS URLs are allowed for security"))
    else
      match parsedUrl.port with
      | none | some 443 =>
        match parsedUrl.hostStr with
        | none => .error (.badRequest (some "URL must have a hostname"))
        | some hostname => do
          validateHostnameNotBlocked hostname
          validateHostnameNotMetadata hostname
          validateHostnameAllowlist hostname config
          validateIpLiteral hostname config
      | some _ => .error (.badRequest (some "Only port 443 is allowed"))

/-- The configuration of `validate_base_url`. -/
def strict : SsrfConfig where
  allowedHosts := []
  allowLoopback := false
  allowPrivateIps := false

/-- `validate_base_url`. -/
def validateBaseUrl (parse : Parser) (url : String) : Except ApiError Unit :=
  match parse url with
  | .error e => .error (.badRequest (some ("Invalid base URL: " ++ e)))
  | .ok parsed =>
    if parsed.scheme ≠ "https" then .error (.badRequest (some "Base URL must use HTTPS"))
    else
      match parsed.port with
      | none | some 443 =>
        match parsed.hostStr with
        | none => .ok ()
        | some hostname => do
          validateHostnameNotBlocked hostname
          validateHostnameNotMetadata hostname
          validateIpLiteral hostname strict
      | some port =>
        .error (.badRequest (some ("Base URL port " ++ toString port ++
          " is not allowed, only 443")))

/-! ## What is assumed of the parser -/

/-- How the parser writes a host. -/
structure Whatwg (parse : Parser) : Prop where
  domain : ∀ {url parsed name}, parse url = .ok parsed → parsed.host = some (.domain name) →
    parsed.hostStr = some name ∧ parseIpAddr (hostClean name) = none
  ipv4 : ∀ {url parsed ip}, parse url = .ok parsed → parsed.host = some (.ipv4 ip) →
    parsed.hostStr = some (String.ofList (ipv4Text ip))
  ipv6 : ∀ {url parsed ip}, parse url = .ok parsed → parsed.host = some (.ipv6 ip) →
    ∃ text, Ipv6Text ip text ∧ parsed.hostStr = some (String.ofList ('[' :: (text ++ [']'])))

/-! ## What is to be refused -/

/-- The name is `base` or a subdomain of it. -/
def Under (base name : String) : Prop := name = base ∨ ∃ sub, name = sub ++ "." ++ base

/-- A name of the local host or of an internal one. -/
def Blocked (name : String) : Prop :=
  name = "localhost.localdomain" ∨ ∃ base ∈ ["local", "internal", "localhost"], Under base name

/-- A name of the cloud's metadata service. -/
def MetadataName (name : String) : Prop := ∃ base ∈ metadataHostnames, Under base name

/-- The name in lower case is to be refused. -/
def Forbidden (name : String) : Prop :=
  Blocked (toAsciiLowercase name) ∨ MetadataName (toAsciiLowercase name)

/-- The name without the dot of the root. -/
def rootless (name : String) : String :=
  if endsWith "." name then String.ofList name.toList.dropLast else name

/-- The host may be contacted. -/
def SafeHost : Host → Prop
  | .domain name => ¬ Forbidden (rootless name)
  | .ipv4 ip => ¬ Documented (.v4 ip)
  | .ipv6 ip => ¬ Documented (.v6 ip)

/-- The hostname is an entry of the allowlist, or lies under the domain of one. -/
def Listed (config : SsrfConfig) (hostname : String) : Prop :=
  ∃ entry ∈ config.allowedHosts, hostname = entry ∨ ∃ domain, entry = "*." ++ domain ∧
    Under domain hostname

/-- An accepted URL has a host that may be contacted, and that the allowlist has. -/
def FetchSafe (parse : Parser) (config : SsrfConfig) (url : String) : Prop :=
  validateUrlForFetch parse url config = .ok () → ∀ parsed host, parse url = .ok parsed →
    parsed.host = some host →
    SafeHost host ∧ ∃ hostname, parsed.hostStr = some hostname ∧ Listed config hostname

/-- An accepted base URL has a host that may be contacted. -/
def BaseSafe (parse : Parser) (url : String) : Prop :=
  validateBaseUrl parse url = .ok () → ∀ parsed host, parse url = .ok parsed →
    parsed.host = some host → SafeHost host

/-- The URL is one of `https` on its port. -/
def Secure (parsed : Url) : Prop :=
  parsed.scheme = "https" ∧ (parsed.port = none ∨ parsed.port = some 443)

/-- The host is a name that is to be refused, with the dot of the root after it. -/
def Dotted (parse : Parser) (url : String) (admitted : String → Prop) : Prop :=
  ∃ parsed name, parse url = .ok parsed ∧ Secure parsed ∧
    parsed.host = some (.domain (name ++ ".")) ∧ Forbidden name ∧ admitted (name ++ ".")

/-! ## Names -/

theorem endsWith_iff {suffix s : String} :
    endsWith suffix s = true ↔ ∃ rest, s = rest ++ suffix := by
  unfold endsWith
  rw [List.isSuffixOf_iff_suffix]
  constructor
  · rintro ⟨rest, hrest⟩
    refine ⟨String.ofList rest, ?_⟩
    rw [← String.toList_inj, String.toList_append, String.toList_ofList, hrest]
  · rintro ⟨rest, rfl⟩
    rw [String.toList_append]
    exact List.suffix_append _ _

theorem under_iff {base name : String} :
    (decide (name = base) || endsWith ("." ++ base) name) = true ↔ Under base name := by
  unfold Under
  rw [Bool.or_eq_true, decide_eq_true_eq, endsWith_iff]
  simp only [String.append_assoc]

theorem refuse_iff {p : Prop} [Decidable p] {what : String} {r : Except ApiError Unit} :
    (if p then refused what else r) = .ok () ↔ ¬ p ∧ r = .ok () := by
  by_cases hp : p
  · simp [hp, refused]
  · simp [hp]

theorem accept_iff {p : Prop} [Decidable p] {r : Except ApiError Unit} :
    (if p then .ok () else r) = .ok () ↔ p ∨ r = .ok () := by
  by_cases hp : p
  · simp [hp]
  · simp [hp]

theorem validateHostnameNotBlocked_ok_iff {hostname : String} :
    validateHostnameNotBlocked hostname = .ok () ↔ ¬ Blocked (toAsciiLowercase hostname) := by
  unfold validateHostnameNotBlocked
  generalize toAsciiLowercase hostname = lower
  have hsuffixes : (blockedHostnameSuffixes.any fun suffix =>
      lower = String.ofList (suffix.toList.drop 1) || endsWith suffix lower) = true ↔
      ∃ base ∈ ["local", "internal", "localhost"], Under base lower := by
    have hbases : blockedHostnameSuffixes =
        ["local", "internal", "localhost"].map fun base => "." ++ base := by decide
    have hbare : ∀ base : String, String.ofList (("." ++ base).toList.drop 1) = base := by
      intro base
      rw [String.toList_append]
      exact String.ofList_toList
    rw [hbases, List.any_map, List.any_eq_true]
    simp only [Function.comp, hbare, under_iff]
  have hnames : blockedHostnames.contains lower = true ↔
      lower = "localhost" ∨ lower = "localhost.localdomain" := by
    simp [blockedHostnames]
  have hblocked : Blocked lower ↔
      blockedHostnames.contains lower = true ∨ (blockedHostnameSuffixes.any fun suffix =>
        lower = String.ofList (suffix.toList.drop 1) || endsWith suffix lower) = true := by
    rw [hsuffixes, hnames, or_assoc]
    refine ⟨.inr, ?_⟩
    rintro (hlocal | h)
    · exact .inr ⟨"localhost", by simp, .inl hlocal⟩
    · exact h
  dsimp only
  rw [hblocked, refuse_iff, refuse_iff, not_or, and_iff_left rfl]

theorem validateHostnameNotMetadata_ok_iff {hostname : String} :
    validateHostnameNotMetadata hostname = .ok () ↔
      ¬ MetadataName (toAsciiLowercase hostname) := by
  have hnames : (metadataHostnames.any fun name =>
      toAsciiLowercase hostname = name || endsWith ("." ++ name) (toAsciiLowercase hostname)) =
        true ↔ MetadataName (toAsciiLowercase hostname) := by
    rw [List.any_eq_true]
    simp only [under_iff]
    rfl
  unfold validateHostnameNotMetadata
  dsimp only
  rw [← hnames, refuse_iff, and_iff_left rfl]

theorem validateHostnameAllowlist_ok_iff {hostname : String} {config : SsrfConfig} :
    validateHostnameAllowlist hostname config = .ok () ↔ Listed config hostname := by
  have hwildcard : ∀ allowed : String, (match stripPrefix "*." allowed with
      | some domain => hostname = domain || endsWith ("." ++ domain) hostname
      | none => false) = true ↔ ∃ domain, allowed = "*." ++ domain ∧ Under domain hostname := by
    intro allowed
    simp only [← stripPrefix_eq_some_iff]
    cases hstrip : stripPrefix "*." allowed with
    | none => simp
    | some domain => simp [← under_iff]
  have hlisted : Listed config hostname ↔ config.allowedHosts.contains hostname = true ∨
      (config.allowedHosts.any fun allowed =>
        match stripPrefix "*." allowed with
        | some domain => hostname = domain || endsWith ("." ++ domain) hostname
        | none => false) = true := by
    rw [List.any_eq_true, List.contains_iff_mem]
    simp only [hwildcard, Listed, and_or_left, exists_or]
    simp
  unfold validateHostnameAllowlist
  rw [hlisted, accept_iff, accept_iff]
  simp

/-! ## Accepted URLs -/

theorem seq_ok_iff {a b : Except ApiError Unit} :
    (a >>= fun _ => b) = .ok () ↔ a = .ok () ∧ b = .ok () := by
  cases a with
  | error e => simp [bind, Except.bind]
  | ok u => simp [bind, Except.bind]

/-- The tests of a host, as they are made one after the other. -/
theorem hostTests_ok_iff {hostname : String} {rest : Except ApiError Unit} :
    (do
      validateHostnameNotBlocked hostname
      validateHostnameNotMetadata hostname
      rest) = .ok () ↔ ¬ Forbidden hostname ∧ rest = .ok () := by
  unfold Forbidden
  rw [seq_ok_iff, seq_ok_iff, validateHostnameNotBlocked_ok_iff,
    validateHostnameNotMetadata_ok_iff, not_or, and_assoc]

/-- The tests of the scheme and the port, before those of the host. -/
theorem secure_ok_iff {parsed : Url} {scheme : ApiError} {port : Nat → ApiError}
    {rest : Except ApiError Unit} :
    (if parsed.scheme ≠ "https" then .error scheme
      else match parsed.port with
        | none | some 443 => rest
        | some number => .error (port number)) = .ok () ↔ Secure parsed ∧ rest = .ok () := by
  unfold Secure
  by_cases hscheme : parsed.scheme = "https"
  · rw [if_neg (not_not.mpr hscheme)]
    split
    · next hport => simp [hscheme, hport]
    · next hport => simp [hscheme, hport]
    · next number hother hport =>
      have hne : number ≠ 443 := hother
      simp [hport, hne]
  · simp [hscheme]

theorem validateUrlForFetch_ok_iff {parse : Parser} {url : String} {config : SsrfConfig}
    {parsed : Url} {hostname : String} (hparse : parse url = .ok parsed)
    (hstr : parsed.hostStr = some hostname) :
    validateUrlForFetch parse url config = .ok () ↔ Secure parsed ∧ ¬ Forbidden hostname ∧
      Listed config hostname ∧ validateIpLiteral hostname config = .ok () := by
  unfold validateUrlForFetch
  rw [hparse]
  dsimp only
  rw [hstr]
  refine secure_ok_iff.trans ?_
  rw [hostTests_ok_iff, seq_ok_iff, validateHostnameAllowlist_ok_iff]

theorem validateBaseUrl_ok_iff {parse : Parser} {url : String}
    {parsed : Url} {hostname : String} (hparse : parse url = .ok parsed)
    (hstr : parsed.hostStr = some hostname) :
    validateBaseUrl parse url = .ok () ↔ Secure parsed ∧ ¬ Forbidden hostname ∧
      validateIpLiteral hostname strict = .ok () := by
  unfold validateBaseUrl
  rw [hparse]
  dsimp only
  rw [hstr]
  refine secure_ok_iff.trans ?_
  rw [hostTests_ok_iff]

/-! ## Addresses -/

/-- A text without brackets keeps its start. -/
theorem dropWhile_bracket {l : List Char} (h : '[' ∉ l) : l.dropWhile (· == '[') = l := by
  cases l with
  | nil => rfl
  | cons c l =>
    have hc : ¬ (c == '[') = true := by
      rw [beq_iff_eq]
      exact Ne.symm (List.ne_and_not_mem_of_not_mem_cons h).1
    exact List.dropWhile_cons_of_neg hc

theorem trimEnd_bracket {l : List Char} (h : ']' ∉ l) : Splitting.trimEnd (· == ']') l = l := by
  apply Splitting.trimEnd_eq_self
  intro c hc
  rw [beq_eq_false_iff_ne]
  rintro rfl
  exact h hc

theorem hostClean_ipv4 (ip : Ipv4Addr) :
    hostClean (String.ofList (ipv4Text ip)) = String.ofList (ipv4Text ip) := by
  have hopen : '[' ∉ ipv4Text ip := not_mem_ipv4Text (by decide) (by decide) ip
  have hclose : ']' ∉ ipv4Text ip := not_mem_ipv4Text (by decide) (by decide) ip
  unfold hostClean
  rw [String.toList_ofList, dropWhile_bracket hopen, trimEnd_bracket hclose]

theorem hostClean_ipv6 {ip : Ipv6Addr} {text : List Char} (h : Ipv6Text ip text) :
    hostClean (String.ofList ('[' :: (text ++ [']']))) = String.ofList text := by
  have hopen : '[' ∉ text ++ [']'] := by
    have htext : '[' ∉ text := h.not_mem (by decide) (by decide)
    simp [htext]
  have hclose : ']' ∉ text := h.not_mem (by decide) (by decide)
  have hend : Splitting.trimEnd (· == ']') (text ++ [']']) = Splitting.trimEnd (· == ']') text := by
    unfold Splitting.trimEnd
    rw [List.reverse_append]
    rfl
  unfold hostClean
  rw [String.toList_ofList, List.dropWhile_cons_of_pos rfl, dropWhile_bracket hopen, hend,
    trimEnd_bracket hclose]

/-- An address that passes the tests without exemptions is in no documented range. -/
theorem not_documented_of_literal {hostname : String} {ip : IpAddr} {config : SsrfConfig}
    (hstrict : config.allowLoopback = false ∧ config.allowPrivateIps = false)
    (hparse : parseIpAddr (hostClean hostname) = some ip)
    (hok : validateIpLiteral hostname config = .ok ()) : ¬ Documented ip := by
  have hrelaxes : config.RelaxesTo .default := by
    unfold SsrfConfig.RelaxesTo
    rw [hstrict.1, hstrict.2]
    exact ⟨id, id⟩
  unfold validateIpLiteral at hok
  rw [hparse] at hok
  exact (default_ok_iff ip).mp (ok_of_relaxes hrelaxes hok)

/-! ## The dot of the root -/

theorem Under.getLast {base name : String} (h : Under base name) (hbase : base.toList ≠ []) :
    name.toList.getLast? = base.toList.getLast? := by
  rcases h with rfl | ⟨sub, rfl⟩
  · rfl
  · rw [String.toList_append, List.getLast?_append_of_ne_nil _ hbase]

/-- No name that ends with a dot is refused as it is. -/
theorem not_forbidden_dot (name : String) : ¬ Forbidden (name ++ ".") := by
  have hlast : (toAsciiLowercase (name ++ ".")).toList.getLast? = some '.' := by
    unfold toAsciiLowercase
    rw [String.toList_ofList, String.toList_append, List.map_append]
    exact List.getLast?_concat
  have hunder : ∀ base : String, base.toList ≠ [] → base.toList.getLast? ≠ some '.' →
      ¬ Under base (toAsciiLowercase (name ++ ".")) := by
    intro base hbase hdot h
    rw [h.getLast hbase] at hlast
    exact hdot hlast
  have hbases : ∀ base ∈ ["local", "internal", "localhost"] ++ metadataHostnames,
      base.toList ≠ [] ∧ base.toList.getLast? ≠ some '.' := by decide
  rintro ((heq | ⟨base, hbase, h⟩) | ⟨base, hbase, h⟩)
  · exact hunder "localhost.localdomain" (by decide) (by decide) (.inl heq)
  · obtain ⟨hne, hdot⟩ := hbases base (List.mem_append_left _ hbase)
    exact hunder base hne hdot h
  · obtain ⟨hne, hdot⟩ := hbases base (List.mem_append_right _ hbase)
    exact hunder base hne hdot h

theorem rootless_dot (name : String) : rootless (name ++ ".") = name := by
  have hdot : endsWith "." (name ++ ".") = true := endsWith_iff.mpr ⟨name, rfl⟩
  have hlist : ".".toList = ['.'] := rfl
  unfold rootless
  rw [if_pos hdot, String.toList_append, hlist, List.dropLast_concat, String.ofList_toList]

/-! ## Hosts of accepted URLs -/

section

variable {parse : Parser} {url : String} {parsed : Url} {host : Host} {hostname : String}
  {config : SsrfConfig}

/-- Every host is written. -/
theorem Whatwg.hostStr (h : Whatwg parse) (hparse : parse url = .ok parsed)
    (hhost : parsed.host = some host) : ∃ hostname, parsed.hostStr = some hostname := by
  cases host with
  | domain name => exact ⟨_, (h.domain hparse hhost).1⟩
  | ipv4 ip => exact ⟨_, h.ipv4 hparse hhost⟩
  | ipv6 ip =>
    obtain ⟨text, -, hstr⟩ := h.ipv6 hparse hhost
    exact ⟨_, hstr⟩

/-- A host that passes the tests may be contacted, or is a name with a dot after it. -/
theorem safe_or_dotted (h : Whatwg parse) (hparse : parse url = .ok parsed)
    (hhost : parsed.host = some host) (hstr : parsed.hostStr = some hostname)
    (hstrict : config.allowLoopback = false ∧ config.allowPrivateIps = false)
    (hname : ¬ Forbidden hostname) (hliteral : validateIpLiteral hostname config = .ok ()) :
    SafeHost host ∨ ∃ name, hostname = name ++ "." ∧ host = .domain (name ++ ".") ∧
      Forbidden name := by
  cases host with
  | domain name =>
    have hsame : hostname = name := Option.some.inj (hstr.symm.trans (h.domain hparse hhost).1)
    rw [hsame] at hname ⊢
    by_cases hdot : endsWith "." name = true
    · obtain ⟨n, rfl⟩ := endsWith_iff.mp hdot
      by_cases hforbidden : Forbidden n
      · exact .inr ⟨n, rfl, rfl, hforbidden⟩
      · left
        show ¬ Forbidden (rootless (n ++ "."))
        rw [rootless_dot]
        exact hforbidden
    · left
      show ¬ Forbidden (if endsWith "." name then _ else name)
      rw [if_neg hdot]
      exact hname
  | ipv4 ip =>
    left
    have hsame := Option.some.inj (hstr.symm.trans (h.ipv4 hparse hhost))
    have hread : parseIpAddr (hostClean hostname) = some (.v4 ip) := by
      rw [hsame, hostClean_ipv4, parseIpAddr_ipv4Text]
    exact not_documented_of_literal hstrict hread hliteral
  | ipv6 ip =>
    left
    obtain ⟨text, htext, hwritten⟩ := h.ipv6 hparse hhost
    have hsame := Option.some.inj (hstr.symm.trans hwritten)
    have hread : parseIpAddr (hostClean hostname) = some (.v6 ip) := by
      rw [hsame, hostClean_ipv6 htext, parseIpAddr_ipv6Text htext]
    exact not_documented_of_literal hstrict hread hliteral

/-- A name with a dot after it passes the tests of a host. -/
theorem dotted_passes (h : Whatwg parse) (hparse : parse url = .ok parsed) {name : String}
    (hhost : parsed.host = some (.domain (name ++ "."))) (config : SsrfConfig) :
    parsed.hostStr = some (name ++ ".") ∧ ¬ Forbidden (name ++ ".") ∧
      validateIpLiteral (name ++ ".") config = .ok () := by
  obtain ⟨hstr, hnone⟩ := h.domain hparse hhost
  refine ⟨hstr, not_forbidden_dot name, ?_⟩
  unfold validateIpLiteral
  rw [hnone]

/-- Without its dot the name is to be refused. -/
theorem not_safe_dotted {name : String} (h : Forbidden name) :
    ¬ SafeHost (.domain (name ++ ".")) := by
  intro hsafe
  have hsafe : ¬ Forbidden (rootless (name ++ ".")) := hsafe
  rw [rootless_dot] at hsafe
  exact hsafe h

theorem fetchSafe_iff (h : Whatwg parse)
    (hstrict : config.allowLoopback = false ∧ config.allowPrivateIps = false) :
    FetchSafe parse config url ↔ ¬ Dotted parse url (Listed config) := by
  constructor
  · rintro hsafe ⟨parsed, name, hparse, hsecure, hhost, hforbidden, hlisted⟩
    obtain ⟨hstr, hname, hliteral⟩ := dotted_passes h hparse hhost config
    have hok := (validateUrlForFetch_ok_iff hparse hstr).mpr ⟨hsecure, hname, hlisted, hliteral⟩
    exact not_safe_dotted hforbidden (hsafe hok parsed _ hparse hhost).1
  · intro hnot hok parsed host hparse hhost
    obtain ⟨hostname, hstr⟩ := h.hostStr hparse hhost
    obtain ⟨hsecure, hname, hlisted, hliteral⟩ := (validateUrlForFetch_ok_iff hparse hstr).mp hok
    refine ⟨?_, hostname, hstr, hlisted⟩
    rcases safe_or_dotted h hparse hhost hstr hstrict hname hliteral with
      hsafe | ⟨name, hdot, rfl, hforbidden⟩
    · exact hsafe
    · rw [hdot] at hlisted
      exact absurd ⟨parsed, name, hparse, hsecure, hhost, hforbidden, hlisted⟩ hnot

theorem baseSafe_iff (h : Whatwg parse) :
    BaseSafe parse url ↔ ¬ Dotted parse url fun _ => True := by
  constructor
  · rintro hsafe ⟨parsed, name, hparse, hsecure, hhost, hforbidden, -⟩
    obtain ⟨hstr, hname, hliteral⟩ := dotted_passes h hparse hhost strict
    have hok := (validateBaseUrl_ok_iff hparse hstr).mpr ⟨hsecure, hname, hliteral⟩
    exact not_safe_dotted hforbidden (hsafe hok parsed _ hparse hhost)
  · intro hnot hok parsed host hparse hhost
    obtain ⟨hostname, hstr⟩ := h.hostStr hparse hhost
    obtain ⟨hsecure, hname, hliteral⟩ := (validateBaseUrl_ok_iff hparse hstr).mp hok
    rcases safe_or_dotted h hparse hhost hstr ⟨rfl, rfl⟩ hname hliteral with
      hsafe | ⟨name, hdot, rfl, hforbidden⟩
    · exact hsafe
    · exact absurd ⟨parsed, name, hparse, hsecure, hhost, hforbidden, trivial⟩ hnot

end

/-- Two URLs, one of them with a dot after its host. -/
def sampleUrls : List (String × Url) :=
  [("https://cdn.provii.app/keys",
      ⟨"https", none, some (.domain "cdn.provii.app"), some "cdn.provii.app"⟩),
    ("https://metadata.google.internal./",
      ⟨"https", none, some (.domain "metadata.google.internal."),
        some "metadata.google.internal."⟩)]

/-- The parser on these URLs. -/
def sampleParser : Parser := fun url =>
  match sampleUrls.find? fun e => e.1 = url with
  | some e => .ok e.2
  | none => .error "relative URL without a base"

theorem mem_of_sampleParser {url : String} {parsed : Url} (h : sampleParser url = .ok parsed) :
    parsed = ⟨"https", none, some (.domain "cdn.provii.app"), some "cdn.provii.app"⟩ ∨
      parsed = ⟨"https", none, some (.domain "metadata.google.internal."),
        some "metadata.google.internal."⟩ := by
  unfold sampleParser at h
  split at h
  · next e he =>
    injection h with h
    rw [← h]
    have hmem := List.mem_of_find?_eq_some he
    simp only [sampleUrls, List.mem_cons, List.not_mem_nil, or_false] at hmem
    rcases hmem with rfl | rfl
    · exact .inl rfl
    · exact .inr rfl
  · cases h

theorem whatwg_sampleParser : Whatwg sampleParser where
  domain := by
    intro url parsed name hparse hhost
    rcases mem_of_sampleParser hparse with rfl | rfl
    · injection hhost with hhost
      injection hhost with hhost
      rw [← hhost]
      exact ⟨rfl, by decide⟩
    · injection hhost with hhost
      injection hhost with hhost
      rw [← hhost]
      exact ⟨rfl, by decide⟩
  ipv4 := by
    intro url parsed ip hparse hhost
    rcases mem_of_sampleParser hparse with rfl | rfl
    · injection hhost with hhost
      cases hhost
    · injection hhost with hhost
      cases hhost
  ipv6 := by
    intro url parsed ip hparse hhost
    rcases mem_of_sampleParser hparse with rfl | rfl
    · injection hhost with hhost
      cases hhost
    · injection hhost with hhost
      cases hhost

theorem sampleParser_cdn : sampleParser "https://cdn.provii.app/keys" =
    .ok ⟨"https", none, some (.domain "cdn.provii.app"), some "cdn.provii.app"⟩ := by decide

end SsrfProtection

end ProviiVerifier

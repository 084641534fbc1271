/-
  `sanitize_message` of `hosted/error/sanitizer.rs`: the redaction steps, and the truncation to 200
  bytes after them.

  The regular expressions are the `regex` crate's: whether a pattern compiles and what `replace_all`
  makes of a message are parameters. A panic is `none`. `catch_unwind` catches it where panics
  unwind; the wasm build aborts.

  Proved: the inner function returns the generic message or the longest prefix of the redacted
  message within 200 bytes exactly when the redacted message has at most 200 bytes or a character
  ends at byte 200 (`sanitize_message_inner_iff`). Otherwise it panics, and its loop, which steps
  back to a character boundary, comes too late and never runs (`popToBoundary_eq`).
-/
import ProviiVerifier.Challenge
import ProviiVerifier.Encoding.CharBoundary

namespace ProviiVerifier

namespace ErrorSanitizer

open CharBoundary

/-! ## Redaction -/

/-- What the code uses of the `regex` crate. -/
structure Regexes where
  Regex : Type
  /-- `Regex::new(pattern).ok()`. -/
  compile : String → Option Regex
  /-- `Regex::replace_all`. -/
  replaceAll : Regex → String → String → String

variable (re : Regexes)

/-- A redaction step: a message whose pattern does not compile stays as it is. -/
def replacePattern (pattern replacement message : String) : String :=
  match re.compile pattern with
  | some regex => re.replaceAll regex message replacement
  | none => message

def removeJwtTokens : String → String :=
  replacePattern re ("eyJ[A-Za-z0-9_-]\x7b10,\x7d\\.[A-Za-z0-9_-]\x7b10,\x7d\\." ++
    "[A-Za-z0-9_-]\x7b10,\x7d") "[token]"

def removeApiKeys : String → String :=
  replacePattern re "\\b(pk|sk)_(live|test)_[A-Za-z0-9_-]+\\b" "[key]"

/-- The pattern of an IPv4 address. -/
def ipv4Pattern : String :=
  "\\b\\d\x7b1,3\x7d\\.\\d\x7b1,3\x7d\\.\\d\x7b1,3\x7d\\.\\d\x7b1,3\x7d\\b"

/-- The pattern of an IPv6 address: eight groups, compressed after a group, compressed from the
start, or all zero. -/
def ipv6Pattern : String :=
  "(?i)" ++ "[0-9a-f]\x7b1,4\x7d(:[0-9a-f]\x7b1,4\x7d)\x7b7\x7d" ++ "|" ++
    "[0-9a-f]\x7b1,4\x7d(:[0-9a-f]\x7b1,4\x7d)\x7b0,5\x7d::[0-9a-f]\x7b0,4\x7d" ++
    "(:[0-9a-f]\x7b1,4\x7d)\x7b0,5\x7d" ++ "|" ++ "::(:[0-9a-f]\x7b1,4\x7d)\x7b0,6\x7d" ++ "|" ++
    "::"

def removeIpAddresses (message : String) : String :=
  replacePattern re ipv6Pattern "[IP_REDACTED]"
    (replacePattern re ipv4Pattern "[IP_REDACTED]" message)

def removeFilePaths : String → String :=
  replacePattern re ("(/[\\w/\\-_.]+\\.(rs|ts|js|json|toml)|" ++
    "\\w:\\\\[\\w\\\\\\-_.]+\\.(rs|ts|js|json|toml))") "[file]"

def removeSqlPatterns : String → String :=
  replacePattern re ("(?i)(SELECT|INSERT|UPDATE|DELETE|FROM|WHERE|TABLE|COLUMN|DATABASE)" ++
    "\\s+[\\w\\s,=]+") "[query]"

def removeKvPatterns : String → String :=
  replacePattern re ("(session|config|audit|admin|key|secret|credential|nonce|" ++
    "challenge_to_session|rate_limit|expiry|mek|hosted)[:_-][\\w\\-]+") "[key]"

def removeStackTraces : String → String :=
  replacePattern re "at\\s+[\\w::<>]+\\s*\\(.*?\\)" ""

def removeInternalFields : String → String :=
  replacePattern re ("\\b(code_verifier|code_challenge|key_hash|secret_key|private_key|" ++
    "session_token|hmac|salt)\\b") "[field]"

/-- The message after every redaction step. -/
def redact (message : String) : String :=
  let sanitized := removeIpAddresses re message
  let sanitized := removeFilePaths re sanitized
  let sanitized := removeSqlPatterns re sanitized
  let sanitized := removeJwtTokens re sanitized
  let sanitized := removeApiKeys re sanitized
  let sanitized := removeKvPatterns re sanitized
  let sanitized := removeStackTraces re sanitized
  removeInternalFields re sanitized

/-! ## Truncation -/

/-- `MAX_MESSAGE_LENGTH`. -/
def maxMessageLength : Nat := 200

/-- `str::is_char_boundary`. -/
def isCharBoundary (s : String) (n : Nat) : Bool := isBoundary s.toList n

/-- `String::truncate`, which panics where no character ends. -/
def truncate (s : String) (n : Nat) : Option String :=
  if n ≤ byteLen s then (takeBytes s.toList n).map String.ofList else some s

/-- `while !sanitized.is_char_boundary(sanitized.len()) { sanitized.pop(); }`. -/
def popToBoundary : List Char → List Char
  | [] => []
  | c :: cs =>
    if isBoundary (c :: cs) (encodedLen (c :: cs)) then c :: cs
    else popToBoundary (c :: cs).dropLast
  termination_by cs => cs.length
  decreasing_by simp

/-- The generic message. -/
def genericMessage : String := "Invalid request"

/-- `sanitize_message_inner`. -/
def sanitizeMessageInner (message : String) : Option String := do
  let sanitized := redact re message
  let sanitized ←
    if byteLen sanitized > maxMessageLength then
      (truncate sanitized maxMessageLength).map fun s => String.ofList (popToBoundary s.toList)
    else some sanitized
  if sanitized = "" ∨ byteLen sanitized < 10 then some genericMessage else some sanitized

/-- `sanitize_message`; `unwinds` says whether the build lets panics unwind. -/
def sanitizeMessage (unwinds : Bool) (message : String) : Option String :=
  match sanitizeMessageInner re message with
  | some s => some s
  | none => if unwinds then some "An error occurred" else none

/-! ## What the truncation does -/

/-- The longest prefix of a text within `n` bytes. -/
def IsLongestPrefix (s : String) (n : Nat) (out : String) : Prop :=
  LongestPrefix s.toList n out.toList

/-- No panic, and at most 200 bytes: the generic message or the longest prefix of the redacted
message within 200 bytes. -/
def Sanitized (redacted : String) (result : Option String) : Prop :=
  ∃ out, result = some out ∧ byteLen out ≤ maxMessageLength ∧
    (out = genericMessage ∨ IsLongestPrefix redacted maxMessageLength out)

/-- The loop finds the end of a text to be a boundary. -/
theorem popToBoundary_eq (cs : List Char) : popToBoundary cs = cs := by
  cases cs with
  | nil => rw [popToBoundary]
  | cons c cs => rw [popToBoundary, if_pos (isBoundary_encodedLen _)]

theorem byteLen_genericMessage : byteLen genericMessage ≤ maxMessageLength := by decide

variable {re}

/-- What is left after the truncation is returned, or the generic message is. -/
theorem sanitized_of_longestPrefix {redacted out : String}
    (h : IsLongestPrefix redacted maxMessageLength out) :
    Sanitized redacted (if out = "" ∨ byteLen out < 10 then some genericMessage else some out) := by
  split
  · exact ⟨genericMessage, rfl, byteLen_genericMessage, .inl rfl⟩
  · exact ⟨out, rfl, h.2.1, .inr h⟩

/-- **Sanitising a message** never fails and keeps as much of it as fits, exactly when the redacted
message is short enough or has a character that ends at byte 200. -/
theorem sanitize_message_inner_iff (re : Regexes) (message : String) :
    Sanitized (redact re message) (sanitizeMessageInner re message) ↔
      byteLen (redact re message) ≤ maxMessageLength ∨
        isCharBoundary (redact re message) maxMessageLength = true := by
  unfold sanitizeMessageInner
  by_cases hlong : byteLen (redact re message) > maxMessageLength
  · rw [if_pos hlong]
    have hle : ¬ byteLen (redact re message) ≤ maxMessageLength := Nat.not_le.mpr hlong
    unfold truncate isCharBoundary isBoundary
    rw [if_pos (Nat.le_of_lt hlong), or_iff_right hle]
    cases hcut : takeBytes (redact re message).toList maxMessageLength with
    | none =>
      -- the panic
      refine iff_of_false ?_ (Bool.eq_false_iff.mp rfl)
      rintro ⟨out, hout, -⟩
      cases hout
    | some cut =>
      refine iff_of_true ?_ rfl
      have hfloor : IsLongestPrefix (redact re message) maxMessageLength (String.ofList cut) := by
        unfold IsLongestPrefix
        rw [String.toList_ofList]
        exact longestPrefix_of_boundary hcut
      have hpop : String.ofList (popToBoundary (String.ofList cut).toList) = String.ofList cut := by
        rw [popToBoundary_eq, String.ofList_toList]
      simp only [Option.map_some, Option.bind_eq_bind, Option.bind_some, hpop]
      exact sanitized_of_longestPrefix hfloor
  · rw [if_neg hlong]
    refine iff_of_true ?_ (.inl (Nat.le_of_not_gt hlong))
    simp only [Option.bind_eq_bind, Option.bind_some]
    exact sanitized_of_longestPrefix (longestPrefix_self (Nat.le_of_not_gt hlong))

/-- The message itself fails only in a build whose panics abort. -/
theorem sanitizeMessage_eq_none_iff (re : Regexes) (unwinds : Bool) (message : String) :
    sanitizeMessage re unwinds message = none ↔
      unwinds = false ∧ sanitizeMessageInner re message = none := by
  unfold sanitizeMessage
  cases sanitizeMessageInner re message <;> cases unwinds <;> simp

/-! ## A character across byte 200 -/

namespace Sample

/-- An engine whose patterns do not occur in the message. -/
def regexes : Regexes :=
  { Regex := Unit
    compile := fun _ => some ()
    replaceAll := fun _ message _ => message }

/-- 199 letters and a character of two bytes. -/
def text : String := String.ofList (List.replicate 199 'a' ++ ['é'])

end Sample

/-- The function panics on 199 letters followed by a character of two bytes. -/
theorem split_character_panics :
    sanitizeMessageInner Sample.regexes Sample.text = none ∧
      ¬ Sanitized (redact Sample.regexes Sample.text)
        (sanitizeMessageInner Sample.regexes Sample.text) := by
  have hnone : sanitizeMessageInner Sample.regexes Sample.text = none := by
    have hredact : redact Sample.regexes Sample.text = Sample.text := rfl
    have hcut : truncate Sample.text maxMessageLength = none := by decide +kernel
    have hlong : byteLen Sample.text > maxMessageLength := by decide +kernel
    unfold sanitizeMessageInner
    rw [hredact, if_pos hlong, hcut]
    rfl
  refine ⟨hnone, ?_⟩
  rw [hnone]
  rintro ⟨out, hout, -⟩
  cases hout

end ErrorSanitizer

end ProviiVerifier

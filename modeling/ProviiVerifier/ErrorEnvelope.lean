/-
  The two renderers of `error.rs`: `to_response`, and `response_from_worker_error` for an error
  that was propagated as a `worker::Error` and comes back as `<base>!!<payload>`.

  A response is what a caller sees of it, the request id and the headers that every error response
  carries apart. A `RustError` displays exactly its string.

  Proved: the renderers agree on an error exactly when its payload is not the empty string and
  does not override the status across the line that `Clear-Site-Data` is drawn at
  (`response_from_worker_error_iff`). They agree on what the structured constructors build
  (`faithful_structured`, `faithful_unauthorizedWith`).
-/
import ProviiVerifier.Encoding.Split
import ProviiVerifier.NonceDO

namespace ProviiVerifier

/-- What a caller sees of an error response. -/
structure ErrorResponse where
  status : Nat
  error : String
  code : String
  field : Option String
  detail : Option String
  clearSiteData : Option String
  deriving DecidableEq, Repr

/-! ## Payloads -/

/-- A part of a structured detail; an empty one is absent. -/
def nonEmpty (s : String) : Option String := if s = "" then none else some s

/-- `decode_structured_detail`. -/
def decodeStructuredDetail (s : String) : Option ErrorDetail :=
  match (Splitting.splitN ['|'] 4 s.toList).map String.ofList with
  | [] => none
  | head :: parts =>
    if head ≠ structuredDetailSentinel then none
    else
      some
        { code := nonEmpty (parts.getD 0 "")
          field := nonEmpty (parts.getD 1 "")
          detail := nonEmpty (parts.getD 2 "") }

/-- `u16::from_str`. -/
def parseU16 (s : String) : Option Nat :=
  let digits := if s.toList.head? = some '+' then s.toList.tail else s.toList
  if digits ≠ [] ∧ digits.all isAsciiDigit = true then
    let n := digits.foldl (fun n c => 10 * n + (c.toNat - 48)) 0
    if n < 2 ^ 16 then some n else none
  else none

/-- A status override in front of a payload, and the rest. -/
def statusOverride (raw : String) : Option Nat × String :=
  match stripPrefix "__STATUS:" raw with
  | none => (none, raw)
  | some stripped =>
    match Splitting.splitOnce "__".toList stripped.toList with
    | none => (none, raw)
    | some (n, rest) =>
      match parseU16 (String.ofList n) with
      | some status => (some status, String.ofList rest)
      | none => (none, raw)

namespace ApiError

/-- `ApiError::extract_payload`. -/
def extractPayload : Option String → Option Nat × Option ErrorDetail
  | none => (none, none)
  | some raw =>
    let (override, rest) := statusOverride raw
    match decodeStructuredDetail rest with
    | some d => (override, some d)
    | none => (override, some ⟨none, none, some rest⟩)

/-- The payload of the variants that carry one. -/
def payload : ApiError → Option String
  | badRequest d | conflict d | gone d | forbidden d | payloadTooLarge d | tooManyRequests d
  | paymentRequired d | serviceUnavailable d => d
  | _ => none

/-! ## `to_response` -/

/-- The status, code and message of a variant. -/
def defaults : ApiError → Nat × String × String
  | badRequest _ => (400, "BAD_REQUEST", "Invalid request")
  | notFound => (404, "NOT_FOUND", "Not found")
  | conflict _ => (409, "CONFLICT", "Request conflict")
  | unsupportedMediaType =>
    (415, "UNSUPPORTED_MEDIA_TYPE", "Content-Type must be application/json")
  | gone _ => (410, "GONE", "Resource no longer available")
  | verificationFailed => (400, "VERIFICATION_FAILED", "Verification failed")
  | invalidProof => (400, "INVALID_PROOF", "Invalid proof")
  | unauthorized => (401, "UNAUTHORIZED", "Authentication required")
  | forbidden _ => (403, "FORBIDDEN", "Access denied")
  | payloadTooLarge _ => (413, "PAYLOAD_TOO_LARGE", "Request too large")
  | tooManyRequests _ => (429, "TOO_MANY_REQUESTS", "Rate limit exceeded")
  | paymentRequired _ => (402, "PAYMENT_REQUIRED", "Insufficient credits")
  | serviceUnavailable _ => (503, "SERVICE_UNAVAILABLE", "Service temporarily unavailable")
  | internal _ => (500, "INTERNAL_ERROR", "Internal server error")

/-- `ApiError::Unauthorized | ApiError::Forbidden(_)`. -/
def isAuthFailure : ApiError → Bool
  | unauthorized | forbidden _ => true
  | _ => false

/-- `ApiError::to_response`. -/
def toResponse (e : ApiError) : ErrorResponse :=
  let (defaultStatus, defaultCode, message) := e.defaults
  let (override, detail) := extractPayload e.payload
  let status := override.getD defaultStatus
  { status := status
    error := message
    code := (detail.bind (·.code)).getD defaultCode
    field := detail.bind (·.field)
    detail := detail.bind (·.detail)
    clearSiteData := if e.isAuthFailure ∨ status = 401 then some "\"*\"" else none }

/-! ## Propagation as a `worker::Error` -/

/-- The `Display` of an error. -/
def display : ApiError → String
  | badRequest _ => "bad-request"
  | notFound => "not-found"
  | conflict _ => "conflict"
  | gone _ => "gone"
  | verificationFailed => "verification-failed"
  | invalidProof => "invalid-proof"
  | unauthorized => "unauthorized"
  | forbidden _ => "forbidden"
  | payloadTooLarge _ => "payload-too-large"
  | unsupportedMediaType => "unsupported-media-type"
  | tooManyRequests _ => "too-many-requests"
  | paymentRequired _ => "payment-required"
  | serviceUnavailable _ => "service-unavailable"
  | internal _ => "internal-server-error"

/-- `From<ApiError> for worker::Error`: the string of the `RustError`. -/
def toWorkerError (e : ApiError) : String :=
  match e.payload with
  | some p => if p ≠ "" then e.display ++ "!!" ++ p else e.display
  | none => e.display

/-- `ApiError::parse_display_envelope`. -/
def parseDisplayEnvelope (s : String) : String × Option String :=
  match Splitting.splitOnce "!!".toList s.toList with
  | some (base, payload) => (String.ofList base, some (String.ofList payload))
  | none => (s, none)

/-- `ApiError::status_for_display_str`. -/
def statusForDisplayStr (s : String) : Option (Nat × String) :=
  match (parseDisplayEnvelope s).1 with
  | "bad-request" => some (400, "BAD_REQUEST")
  | "not-found" => some (404, "NOT_FOUND")
  | "conflict" => some (409, "CONFLICT")
  | "gone" => some (410, "GONE")
  | "verification-failed" => some (400, "VERIFICATION_FAILED")
  | "invalid-proof" => some (400, "INVALID_PROOF")
  | "unauthorized" => some (401, "UNAUTHORIZED")
  | "forbidden" => some (403, "FORBIDDEN")
  | "payload-too-large" => some (413, "PAYLOAD_TOO_LARGE")
  | "unsupported-media-type" => some (415, "UNSUPPORTED_MEDIA_TYPE")
  | "too-many-requests" => some (429, "TOO_MANY_REQUESTS")
  | "payment-required" => some (402, "PAYMENT_REQUIRED")
  | "service-unavailable" => some (503, "SERVICE_UNAVAILABLE")
  | "internal-server-error" => some (500, "INTERNAL_ERROR")
  | _ => none

/-- The message that `build_error_response_full` finds for a display string. -/
def messageForDisplayStr : String → String
  | "bad-request" => "Invalid request"
  | "not-found" => "Not found"
  | "conflict" => "Request conflict"
  | "gone" => "Resource no longer available"
  | "verification-failed" => "Verification failed"
  | "invalid-proof" => "Invalid proof"
  | "unauthorized" => "Authentication required"
  | "forbidden" => "Access denied"
  | "payload-too-large" => "Request too large"
  | "unsupported-media-type" => "Content-Type must be application/json"
  | "too-many-requests" => "Rate limit exceeded"
  | "payment-required" => "Insufficient credits"
  | "service-unavailable" => "Service temporarily unavailable"
  | _ => "Internal server error"

/-- `build_error_response_full`. -/
def buildErrorResponseFull (status : Nat) (errorCode displayMessage : String)
    (field detail : Option String) : ErrorResponse :=
  { status := status
    error := messageForDisplayStr displayMessage
    code := errorCode
    field := field
    detail := detail
    clearSiteData := if status = 401 ∨ status = 403 then some "\"*\"" else none }

/-- `ApiError::response_from_worker_error`, of the string that the error displays. -/
def responseFromWorkerError (s : String) : ErrorResponse :=
  let (base, payload) := parseDisplayEnvelope s
  match statusForDisplayStr base with
  | some (defaultStatus, defaultCode) =>
    let (override, detail) := extractPayload payload
    buildErrorResponseFull (override.getD defaultStatus)
      ((detail.bind (·.code)).getD defaultCode) base (detail.bind (·.field))
      (detail.bind (·.detail))
  | none => buildErrorResponseFull 500 "INTERNAL_ERROR" "Internal server error" none none

/-- The payload is not empty, and a status override leaves `Clear-Site-Data` alone: it is 401 or
403 on a `Forbidden`, and not 403 on another variant. -/
def Faithful (e : ApiError) : Prop :=
  e.payload ≠ some "" ∧
    match (extractPayload e.payload).1 with
    | none => True
    | some status => if e.isAuthFailure then status = 401 ∨ status = 403 else status ≠ 403

/-! ## What comes back -/

variable {e : ApiError} {s : String}

theorem bang_not_mem_display (e : ApiError) : '!' ∉ e.display.toList := by
  cases e <;> dsimp only [display] <;> decide

/-- **The envelope** comes apart into what it was made of; an empty payload is lost. -/
theorem parseDisplayEnvelope_toWorkerError (e : ApiError) :
    parseDisplayEnvelope e.toWorkerError = (e.display, e.payload.filter (· ≠ "")) := by
  have hbare : parseDisplayEnvelope e.display = (e.display, none) := by
    unfold parseDisplayEnvelope
    rw [show "!!".toList = ['!', '!'] from rfl,
      Splitting.splitOnce_eq_none (bang_not_mem_display e)]
  unfold toWorkerError
  cases e.payload with
  | none => exact hbare
  | some p =>
    dsimp only
    split
    · next hne =>
      unfold parseDisplayEnvelope
      rw [String.toList_append, String.toList_append, List.append_assoc,
        show "!!".toList = ['!', '!'] from rfl,
        Splitting.splitOnce_append (bang_not_mem_display e)]
      dsimp only
      rw [Option.filter_some, if_pos (by simp [hne]), String.ofList_toList, String.ofList_toList]
    · next hempty =>
      rw [hbare, Option.filter_some, if_neg (by simp [not_not.mp hempty])]

theorem statusForDisplayStr_display (e : ApiError) :
    statusForDisplayStr e.display = some (e.defaults.1, e.defaults.2.1) := by
  cases e <;> dsimp only [display, defaults] <;> decide +kernel

/-- The dispatcher, which asks for the status first, recognises every propagated error. -/
theorem statusForDisplayStr_toWorkerError (e : ApiError) :
    statusForDisplayStr e.toWorkerError = some (e.defaults.1, e.defaults.2.1) := by
  rw [← statusForDisplayStr_display]
  unfold statusForDisplayStr
  rw [parseDisplayEnvelope_toWorkerError]
  congr 1
  unfold parseDisplayEnvelope
  rw [show "!!".toList = ['!', '!'] from rfl,
    Splitting.splitOnce_eq_none (bang_not_mem_display e)]

theorem messageForDisplayStr_display (e : ApiError) :
    messageForDisplayStr e.display = e.defaults.2.2 := by
  cases e <;> dsimp only [display, defaults] <;> decide +kernel

/-- **What comes back** is rendered from the variant's defaults and the payload. -/
theorem responseFromWorkerError_eq (e : ApiError) :
    responseFromWorkerError e.toWorkerError =
      let (override, detail) := extractPayload (e.payload.filter (· ≠ ""))
      let status := override.getD e.defaults.1
      { status := status
        error := e.defaults.2.2
        code := (detail.bind (·.code)).getD e.defaults.2.1
        field := detail.bind (·.field)
        detail := detail.bind (·.detail)
        clearSiteData := if status = 401 ∨ status = 403 then some "\"*\"" else none } := by
  unfold responseFromWorkerError
  rw [parseDisplayEnvelope_toWorkerError]
  dsimp only
  rw [statusForDisplayStr_display]
  unfold buildErrorResponseFull
  dsimp only
  rw [messageForDisplayStr_display]

/-- Without a status override the variants that clear the site data are those of 401 and 403. -/
theorem clears_iff (e : ApiError) :
    (e.isAuthFailure = true ∨ e.defaults.1 = 401) ↔ e.defaults.1 = 401 ∨ e.defaults.1 = 403 := by
  cases e <;> simp [isAuthFailure, defaults]

theorem clearSiteData_eq_iff {a b : Prop} [Decidable a] [Decidable b] :
    (if a then some "\"*\"" else none) = (if b then some "\"*\"" else none) ↔ (a ↔ b) := by
  by_cases ha : a <;> by_cases hb : b <;> simp [ha, hb]

/-- **The two renderers.** What comes back from a propagated error is what `to_response` makes of
it exactly when the payload is not the empty string and a status override in it leaves
`Clear-Site-Data` alone. -/
theorem response_from_worker_error_iff (e : ApiError) :
    responseFromWorkerError e.toWorkerError = e.toResponse ↔ e.Faithful := by
  rw [responseFromWorkerError_eq]
  unfold Faithful toResponse
  by_cases hempty : e.payload = some ""
  · -- the empty payload is a detail of `to_response` only
    have hlost : e.payload.filter (· ≠ "") = none := by
      rw [hempty]
      rfl
    rw [hlost, hempty]
    constructor
    · intro h
      injection h with _ _ _ _ hdetail
      cases hdetail
    · intro h
      exact absurd rfl h.1
  · have hsame : e.payload.filter (· ≠ "") = e.payload := by
      cases hp : e.payload with
      | none => rfl
      | some p =>
        rw [hp] at hempty
        have hne : p ≠ "" := fun heq => hempty (congrArg some heq)
        rw [Option.filter_some, if_pos (by simp [hne])]
    rw [hsame]
    dsimp only
    rw [ErrorResponse.mk.injEq, clearSiteData_eq_iff]
    simp only [true_and, ne_eq, hempty, not_false_eq_true]
    cases hoverride : (extractPayload e.payload).1 with
    | none =>
      dsimp only [Option.getD_none]
      exact iff_of_true (clears_iff e).symm trivial
    | some status =>
      dsimp only [Option.getD_some]
      by_cases hauth : e.isAuthFailure = true
      · simp [hauth]
      · simp only [hauth, Bool.false_eq_true, false_or, if_false]
        omega

/-! ## Structured errors -/

/-- A structured detail overrides no status. -/
theorem statusOverride_structured (d : ErrorDetail) :
    statusOverride (encodeStructuredDetail d) = (none, encodeStructuredDetail d) := by
  have hlist : (encodeStructuredDetail d).toList = "__SD__".toList ++ ("|" ++ d.code.getD "" ++
      "|" ++ replaceBars (d.field.getD "") ++ "|" ++ replaceBars (d.detail.getD "")).toList := by
    unfold encodeStructuredDetail structuredDetailSentinel
    simp only [String.toList_append, List.append_assoc]
  have hnone : stripPrefix "__STATUS:" (encodeStructuredDetail d) = none := by
    unfold stripPrefix
    rw [hlist]
    rfl
  unfold statusOverride
  rw [hnone]

theorem encodeStructuredDetail_ne_empty (d : ErrorDetail) : encodeStructuredDetail d ≠ "" := by
  intro hempty
  have hlist := congrArg String.toList hempty
  unfold encodeStructuredDetail structuredDetailSentinel at hlist
  simp only [String.toList_append, List.append_assoc] at hlist
  cases hlist

/-- The override that `unauthorized` puts in front. -/
theorem statusOverride_unauthorized (s : String) :
    statusOverride ("__STATUS:401__" ++ s) = (some 401, s) := by
  have hsplit : Splitting.splitOnce "__".toList ("401__" ++ s).toList =
      some ("401".toList, s.toList) := by
    have hno : '_' ∉ "401".toList := by decide
    rw [String.toList_append]
    exact Splitting.splitOnce_append hno
  unfold statusOverride
  rw [show "__STATUS:401__" ++ s = "__STATUS:" ++ ("401__" ++ s) by
    rw [← String.append_assoc]; rfl]
  rw [stripPrefix_append]
  dsimp only
  rw [hsplit]
  dsimp only
  rw [show parseU16 (String.ofList "401".toList) = some 401 by decide, String.ofList_toList]

/-- The override in a payload is the one in front of it. -/
theorem extractPayload_override (raw : String) :
    (extractPayload (some raw)).1 = (statusOverride raw).1 := by
  unfold extractPayload
  dsimp only
  split <;> rfl

/-- **A structured detail** as payload comes back. -/
theorem faithful_structured {d : ErrorDetail} (h : e.payload = some (encodeStructuredDetail d)) :
    e.Faithful := by
  unfold Faithful
  rw [h, extractPayload_override, statusOverride_structured]
  refine ⟨fun hempty => ?_, trivial⟩
  exact encodeStructuredDetail_ne_empty d (Option.some.inj hempty)

/-- **The errors of the structured constructors** come back. -/
theorem faithful_constructors (code detail : String) (field : Option String) :
    (badRequestWith code field detail).Faithful ∧ (forbiddenWith code detail).Faithful ∧
      (goneWith code detail).Faithful ∧ (conflictWith code detail).Faithful :=
  ⟨faithful_structured rfl, faithful_structured rfl, faithful_structured rfl,
    faithful_structured rfl⟩

/-- **The override of `unauthorized`** comes back. -/
theorem faithful_unauthorizedWith (code detail : String) :
    (unauthorizedWith code detail).Faithful := by
  let enc := encodeStructuredDetail ⟨some code, none, some detail⟩
  have hpayload : (unauthorizedWith code detail).payload = some ("__STATUS:401__" ++ enc) := rfl
  have hother : (401 : Nat) ≠ 403 := by decide
  unfold Faithful
  rw [hpayload, extractPayload_override, statusOverride_unauthorized]
  refine ⟨fun hempty => ?_, hother⟩
  have hlist := congrArg String.toList (Option.some.inj hempty)
  rw [String.toList_append] at hlist
  cases hlist

/-- A bad request with an empty payload, one whose payload overrides the status with 403, and a
forbidden request whose payload overrides it with 400 are rendered differently. -/
theorem renderers_differ :
    responseFromWorkerError (toWorkerError (badRequest (some ""))) ≠
        toResponse (badRequest (some "")) ∧
      responseFromWorkerError (toWorkerError (badRequest (some "__STATUS:403__x"))) ≠
        toResponse (badRequest (some "__STATUS:403__x")) ∧
      responseFromWorkerError (toWorkerError (forbidden (some "__STATUS:400__x"))) ≠
        toResponse (forbidden (some "__STATUS:400__x")) := by
  decide +kernel

end ApiError

end ProviiVerifier

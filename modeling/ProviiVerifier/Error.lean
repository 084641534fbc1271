/-
  `error.rs`: the API errors, the structured details carried inside their payload strings
  and the status a response gets.

  A structured detail travels as `__SD__|code|field|detail` in the payload of an ordinary
  variant; `unauthorized` puts the status override `__STATUS:401__` in front of it.
-/
import Mathlib.Data.List.Basic

namespace ProviiVerifier

/-- `ErrorDetail`. -/
structure ErrorDetail where
  code : Option String
  field : Option String
  detail : Option String
  deriving DecidableEq, Repr

/-- `ApiError`; `internal` keeps the text of the wrapped error. -/
inductive ApiError
  | badRequest (msg : Option String)
  | notFound
  | conflict (msg : Option String)
  | gone (msg : Option String)
  | verificationFailed
  | invalidProof
  | unauthorized
  | forbidden (msg : Option String)
  | payloadTooLarge (msg : Option String)
  | unsupportedMediaType
  | tooManyRequests (msg : Option String)
  | paymentRequired (msg : Option String)
  | serviceUnavailable (msg : Option String)
  | internal (msg : String)
  deriving DecidableEq, Repr

/-- A computation that may fail succeeds when its parts do. -/
theorem except_bind_ok {ε α β : Type} {r : Except ε α} {f : α → Except ε β} {b : β}
    (hok : (r >>= f) = .ok b) : ∃ a, r = .ok a ∧ f a = .ok b := by
  cases r with
  | error e => cases hok
  | ok a => exact ⟨a, rfl, hok⟩

/-- `str::replace('|', "/")`. -/
def replaceBars (s : String) : String :=
  String.ofList (s.toList.map fun c => if c = '|' then '/' else c)

/-- `STRUCTURED_DETAIL_SENTINEL`. -/
def structuredDetailSentinel : String := "__SD__"

def encodeStructuredDetail (d : ErrorDetail) : String :=
  structuredDetailSentinel ++ "|" ++ d.code.getD "" ++ "|" ++ replaceBars (d.field.getD "") ++
    "|" ++ replaceBars (d.detail.getD "")

namespace ApiError

/-! ## Structured constructors -/

/-- `ApiError::bad_request`. -/
def badRequestWith (code : String) (field : Option String) (detail : String) : ApiError :=
  badRequest (some (encodeStructuredDetail ⟨some code, field, some detail⟩))

/-- `ApiError::forbidden`. -/
def forbiddenWith (code detail : String) : ApiError :=
  forbidden (some (encodeStructuredDetail ⟨some code, none, some detail⟩))

/-- `ApiError::unauthorized`: a `BadRequest` whose payload overrides the status. -/
def unauthorizedWith (code detail : String) : ApiError :=
  badRequest (some ("__STATUS:401__" ++ encodeStructuredDetail ⟨some code, none, some detail⟩))

/-- `ApiError::gone`. -/
def goneWith (code detail : String) : ApiError :=
  gone (some (encodeStructuredDetail ⟨some code, none, some detail⟩))

/-- `ApiError::conflict`. -/
def conflictWith (code detail : String) : ApiError :=
  conflict (some (encodeStructuredDetail ⟨some code, none, some detail⟩))

end ApiError

end ProviiVerifier

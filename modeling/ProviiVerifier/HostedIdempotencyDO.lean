/-
  `hosted/durable_objects/hosted_idempotency_do.rs`: the Durable Object of the hosted flow that
  keeps responses by idempotency key.

  The records and the check are those of `IdempotencyDO`. The time to live of a set is clamped,
  and the object schedules no alarm.
-/
import ProviiVerifier.IdempotencyDO

namespace ProviiVerifier

namespace HostedIdempotencyDO

open IdempotencyDO (Entry Storage SetRequest Reply)

/-- How the storage operations of one request go. -/
structure Faults where
  get : Bool
  put : Bool
  list : Bool
  /-- `delete` of an entry succeeds. -/
  delete : String → Bool

/-- Every storage operation succeeds. -/
def Faults.none : Faults := ⟨true, true, true, fun _ => true⟩

/-- The same outcomes on the object with an alarm. -/
def Faults.withAlarm (f : Faults) : IdempotencyDO.Faults :=
  ⟨f.get, f.put, true, f.list, f.delete⟩

/-- `DEFAULT_IDEMPOTENCY_TTL_SECS`. -/
def defaultIdempotencyTtlSecs : Nat := 300

/-- `MAX_BODY_SIZE`. -/
def maxBodySize : Nat := 131072

/-- `MIN_TTL_SECS`. -/
def minTtlSecs : Nat := 60

/-- `MAX_TTL_SECS`. -/
def maxTtlSecs : Nat := 600

/-- `ttl_secs.unwrap_or(DEFAULT_IDEMPOTENCY_TTL_SECS).clamp(MIN_TTL_SECS, MAX_TTL_SECS)`. -/
def clampTtl (ttlSecs : Option Nat) : Nat :=
  max minTtlSecs (min (ttlSecs.getD defaultIdempotencyTtlSecs) maxTtlSecs)

/-- `check_idempotency_key`, as on `IdempotencyDO`. -/
def checkIdempotencyKey (s : Storage) (now : Nat) (f : Faults) (key : String) :
    Option Reply × Storage :=
  IdempotencyDO.checkIdempotencyKey s now f.withAlarm key

/-- `set_idempotency_key`. -/
def setIdempotencyKey (s : Storage) (now : Nat) (f : Faults) (key : String)
    (body : Body SetRequest) : Option Reply × Storage :=
  if body.size > maxBodySize then (some (.status 413), s)
  else
    match body.value with
    | none => (none, s)
    | some req =>
      match (if f.get then s key else none).filter fun entry => !entry.isExpired now with
      | some existing =>
        (some (.duplicateKey existing.responseBody existing.statusCode), s)
      | none =>
        let entry : Entry :=
          { responseBody := req.responseBody
            statusCode := req.statusCode
            createdAt := now
            expiresAt := NonceDO.satAdd now (clampTtl req.ttlSecs)
            endpoint := req.endpoint
            requestFingerprint := req.requestFingerprint }
        if f.put then
          let s := Function.update s key (some entry)
          if f.list then
            (some (.written true),
              fun k => (s k).filter fun e => !(e.isExpired now && f.delete k))
          else (none, s)
        else (none, s)

/-- The request with its time to live clamped. -/
def clamped (body : Body SetRequest) : Body SetRequest :=
  { size := body.size
    value := body.value.map fun req => { req with ttlSecs := some (clampTtl req.ttlSecs) } }

/-- **The two objects agree**: a set is one on `IdempotencyDO` with the time to live clamped and
an alarm that never fails. -/
theorem setIdempotencyKey_eq (s : Storage) (now : Nat) (f : Faults) (key : String)
    (body : Body SetRequest) :
    setIdempotencyKey s now f key body =
      IdempotencyDO.setIdempotencyKey s now f.withAlarm key (clamped body) := by
  obtain ⟨size, value⟩ := body
  unfold setIdempotencyKey IdempotencyDO.setIdempotencyKey
  cases value with
  | none => rfl
  | some req =>
    simp only [clamped, Option.map_some, Option.getD_some, Faults.withAlarm, IdempotencyDO.read,
      true_and]
    rfl

end HostedIdempotencyDO

end ProviiVerifier

/-
  `durable_objects/idempotency_do.rs`: the Durable Object that keeps responses by idempotency
  key.

  The key travels percent-encoded in the path. The object validates it as it stands there; it
  does not decode it.
-/
import ProviiVerifier.NonceDO

namespace ProviiVerifier

/-- `is_valid_uuid_v4`: 8-4-4-4-12 hexadecimal digits with version and variant. -/
def isValidUuidV4 (key : String) : Bool :=
  if byteLen key ≠ 36 then false
  else
    match (key.toList.splitOn '-').map String.ofList with
    | [p0, p1, p2, p3, p4] =>
      if byteLen p0 ≠ 8 ∨ byteLen p1 ≠ 4 ∨ byteLen p2 ≠ 4 ∨ byteLen p3 ≠ 4 ∨ byteLen p4 ≠ 12 then
        false
      else if !([p0, p1, p2, p3, p4].all fun p => p.toList.all isAsciiHexdigit) then false
      else if p2.toList.head? ≠ some '4' then false
      else
        match p3.toList.head? with
        | none => false
        | some c => ['8', '9', 'a', 'b'].contains c.toLower
    | _ => false

/-- `rfind(sep)`: what stands before and after the last `sep`. -/
def splitAtLast (sep : Char) (cs : List Char) : Option (List Char × List Char) :=
  if cs.contains sep then
    some ((cs.reverse.dropWhile (· ≠ sep)).tail.reverse, (cs.reverse.takeWhile (· ≠ sep)).reverse)
  else none

namespace IdempotencyDO

/-- `IdempotencyEntry`. -/
structure Entry where
  responseBody : String
  statusCode : Nat
  createdAt : Nat
  expiresAt : Nat
  endpoint : String
  requestFingerprint : String
  deriving DecidableEq

/-- `IdempotencyEntry::is_expired`. -/
def Entry.isExpired (e : Entry) (now : Nat) : Bool := now > e.expiresAt

/-- The `idem:{key}` entries. -/
abbrev Storage := String → Option Entry

/-- `SetIdempotencyRequest`. -/
structure SetRequest where
  responseBody : String
  statusCode : Nat
  ttlSecs : Option Nat
  endpoint : String
  requestFingerprint : String
  deriving DecidableEq

/-- The methods `fetch` routes. -/
inductive Method
  | get
  | post (body : Body SetRequest)
  | delete

/-- How the storage operations of one request go. -/
structure Faults where
  get : Bool
  put : Bool
  alarm : Bool
  list : Bool
  /-- `delete` of an entry succeeds. -/
  delete : String → Bool

/-- Every storage operation succeeds. -/
def Faults.none : Faults := ⟨true, true, true, true, fun _ => true⟩

/-- A response: a found entry or nothing, the verdict on a write with the response of an earlier
one, or a bare status. -/
inductive Reply
  | found (entry : Entry)
  | expired
  | absent
  | written (success : Bool)
  | duplicateKey (cachedResponse : String) (cachedStatusCode : Nat)
  | status (code : Nat)
  deriving DecidableEq

/-- `DEFAULT_IDEMPOTENCY_TTL_SECS`. -/
def defaultIdempotencyTtlSecs : Nat := 86400

/-- `MAX_IDEMPOTENCY_BODY_SIZE`. -/
def maxIdempotencyBodySize : Nat := 131072

/-- `is_valid_idempotency_key`: a version 4 UUID, or `{scope}:{uuid}`. -/
def isValidIdempotencyKey (key : String) : Bool :=
  match splitAtLast ':' key.toList with
  | some (scope, uuid) =>
    if scope = [] ∨ scope.all (fun c => isAsciiAlphanumeric c || c = '_' || c = '-') = false then
      false
    else isValidUuidV4 (String.ofList uuid)
  | none => isValidUuidV4 key

/-- `storage().get(..).await.unwrap_or(None)`. -/
def read (s : Storage) (f : Faults) (key : String) : Option Entry :=
  if f.get then s key else none

/-- `check_idempotency_key`: an expired entry is deleted when it is read. -/
def checkIdempotencyKey (s : Storage) (now : Nat) (f : Faults) (key : String) :
    Option Reply × Storage :=
  match read s f key with
  | some entry =>
    if entry.isExpired now then
      (some .expired, if f.delete key then Function.update s key none else s)
    else (some (.found entry), s)
  | none => (some .absent, s)

/-- `set_idempotency_key`: the first writer wins; expired entries are pruned. -/
def setIdempotencyKey (s : Storage) (now : Nat) (f : Faults) (key : String)
    (body : Body SetRequest) : Option Reply × Storage :=
  if body.size > maxIdempotencyBodySize then (some (.status 413), s)
  else
    match body.value with
    | none => (none, s)
    | some req =>
      match (read s f key).filter fun entry => !entry.isExpired now with
      | some existing =>
        (some (.duplicateKey existing.responseBody existing.statusCode), s)
      | none =>
        let ttlSecs := req.ttlSecs.getD defaultIdempotencyTtlSecs
        let entry : Entry :=
          { responseBody := req.responseBody
            statusCode := req.statusCode
            createdAt := now
            expiresAt := NonceDO.satAdd now ttlSecs
            endpoint := req.endpoint
            requestFingerprint := req.requestFingerprint }
        if f.put then
          let s := Function.update s key (some entry)
          if f.alarm ∧ f.list then
            (some (.written true),
              fun k => (s k).filter fun e => !(e.isExpired now && f.delete k))
          else (none, s)
        else (none, s)

/-- `cleanup_expired_entries`: the alarm lists the entries and deletes the expired ones. -/
def cleanupExpiredEntries (s : Storage) (now : Nat) (list : Bool) (delete : String → Bool) :
    Storage :=
  if list then fun k => (s k).filter fun e => !(e.isExpired now && delete k) else s

/-- `delete_idempotency_key`. -/
def deleteIdempotencyKey (s : Storage) (f : Faults) (key : String) : Option Reply × Storage :=
  if f.delete key then (some (.written (s key).isSome), Function.update s key none)
  else (some (.written false), s)

/-- `fetch`: one request on the object, at the path of its URL. -/
def fetch (s : Storage) (now : Nat) (f : Faults) (path : String) (method : Method) :
    Option Reply × Storage :=
  match stripPrefix "/idempotency/" path with
  | none => (some (.status 400), s)
  | some idempotencyKey =>
    if isValidIdempotencyKey idempotencyKey = false then (some (.status 400), s)
    else
      match method with
      | .get => checkIdempotencyKey s now f idempotencyKey
      | .post body => setIdempotencyKey s now f idempotencyKey body
      | .delete => deleteIdempotencyKey s f idempotencyKey

/-! ## A live entry -/

section Live

variable {s : Storage} {now : Nat} {f : Faults} {key : String} {entry : Entry}

theorem isExpired_live (hlive : now ≤ entry.expiresAt) : entry.isExpired now = false :=
  decide_eq_false (Nat.not_lt.mpr hlive)

/-- Pruning keeps a live entry. -/
theorem prune_live (hlive : now ≤ entry.expiresAt) {delete : Bool} :
    ((some entry).filter fun e => !(e.isExpired now && delete)) = some entry := by
  rw [Option.filter_some, isExpired_live hlive]
  rfl

/-- A check whose read works finds a live entry. -/
theorem checkIdempotencyKey_live (hread : read s f key = some entry)
    (hlive : now ≤ entry.expiresAt) :
    checkIdempotencyKey s now f key = (some (.found entry), s) := by
  unfold checkIdempotencyKey
  simp only [hread, isExpired_live hlive, Bool.false_eq_true, if_false]

/-- A check keeps every live entry. -/
theorem checkIdempotencyKey_keep {k : String} (hentry : s k = some entry)
    (hlive : now ≤ entry.expiresAt) : (checkIdempotencyKey s now f key).2 k = some entry := by
  unfold checkIdempotencyKey
  split
  · next e hread =>
    split
    · next hexp =>
      have hne : k ≠ key := by
        rintro rfl
        unfold read at hread
        split at hread
        · rw [hentry] at hread
          cases hread
          rw [isExpired_live hlive] at hexp
          cases hexp
        · cases hread
      show (if f.delete key then Function.update s key none else s) k = some entry
      split
      · rw [Function.update_of_ne hne, hentry]
      · exact hentry
    · exact hentry
  · exact hentry

/-- A set whose body is not a request stores nothing. -/
theorem setIdempotencyKey_malformed {body : Body SetRequest}
    (h : maxIdempotencyBodySize < body.size ∨ body.value = none) :
    (setIdempotencyKey s now f key body).2 = s := by
  unfold setIdempotencyKey
  split
  · rfl
  · next hsize =>
    rw [h.resolve_left hsize]

/-- A set whose read works answers with a live entry. -/
theorem setIdempotencyKey_live {body : Body SetRequest} {req : SetRequest}
    (hsize : body.size ≤ maxIdempotencyBodySize) (hreq : body.value = some req)
    (hread : read s f key = some entry) (hlive : now ≤ entry.expiresAt) :
    setIdempotencyKey s now f key body =
      (some (.duplicateKey entry.responseBody entry.statusCode), s) := by
  unfold setIdempotencyKey
  rw [if_neg (Nat.not_lt.mpr hsize), hreq]
  simp only [hread, Option.filter_some, isExpired_live hlive, Bool.not_false, if_true]

/-- A set that finds no live entry does not answer with one. -/
theorem setIdempotencyKey_blind {body : Body SetRequest} {responseBody : String}
    {statusCode : Nat} (hread : read s f key = none) :
    (setIdempotencyKey s now f key body).1 ≠ some (.duplicateKey responseBody statusCode) := by
  unfold setIdempotencyKey
  simp only [hread, Option.filter_none]
  split
  · simp
  · split
    · simp
    · split
      · split <;> simp
      · simp

/-- A set for another key keeps every live entry. -/
theorem setIdempotencyKey_keep {k : String} {body : Body SetRequest} (hne : k ≠ key)
    (hentry : s k = some entry) (hlive : now ≤ entry.expiresAt) :
    (setIdempotencyKey s now f key body).2 k = some entry := by
  unfold setIdempotencyKey
  split
  · exact hentry
  · split
    · exact hentry
    · split
      · exact hentry
      · dsimp only
        split
        · split
          · show ((Function.update s key _ k).filter _) = some entry
            rw [Function.update_of_ne hne, hentry, prune_live hlive]
          · show Function.update s key _ k = some entry
            rw [Function.update_of_ne hne, hentry]
        · exact hentry

/-- The entry a set stores. -/
def SetRequest.toEntry (req : SetRequest) (now ttlSecs : Nat) : Entry :=
  { responseBody := req.responseBody
    statusCode := req.statusCode
    createdAt := now
    expiresAt := NonceDO.satAdd now ttlSecs
    endpoint := req.endpoint
    requestFingerprint := req.requestFingerprint }

/-- A set that succeeds has stored its entry. -/
theorem setIdempotencyKey_written {body : Body SetRequest} (hnow : now ≤ maxClock)
    (h : (setIdempotencyKey s now f key body).1 = some (.written true)) :
    ∃ req, body.value = some req ∧ (setIdempotencyKey s now f key body).2 key =
      some (req.toEntry now (req.ttlSecs.getD defaultIdempotencyTtlSecs)) := by
  unfold setIdempotencyKey at h ⊢
  by_cases hsize : body.size > maxIdempotencyBodySize
  · rw [if_pos hsize] at h
    simp at h
  rw [if_neg hsize] at h ⊢
  cases hreq : body.value with
  | none => simp [hreq] at h
  | some req =>
    refine ⟨req, rfl, ?_⟩
    simp only [hreq] at h ⊢
    cases hfree : (read s f key).filter fun entry => !entry.isExpired now with
    | some existing => simp [hfree] at h
    | none =>
      simp only [hfree] at h ⊢
      by_cases hput : f.put = true
      · by_cases hboth : f.alarm = true ∧ f.list = true
        · rw [if_pos hput, if_pos hboth]
          show ((Function.update s key _ key).filter _) = _
          rw [Function.update_self]
          exact prune_live (NonceDO.le_satAdd hnow)
        · simp [hput, hboth] at h
      · simp [hput] at h

end Live

/-! ## The object and percent-encoded keys -/

theorem percentEncode_separators {s : String} {c : Char} (h : c ∈ (percentEncode s).toList) :
    c ≠ ':' ∧ c ≠ '-' := by
  constructor
  · rintro rfl
    exact absurd (NonceDO.mem_percentEncode h) (by decide)
  · rintro rfl
    exact absurd (NonceDO.mem_percentEncode h) (by decide)

theorem splitAtLast_none {sep : Char} {cs : List Char} (h : sep ∉ cs) :
    splitAtLast sep cs = none := by
  simp [splitAtLast, h]

theorem isValidUuidV4_no_hyphen {key : String} (h : '-' ∉ key.toList) :
    isValidUuidV4 key = false := by
  unfold isValidUuidV4
  rw [List.splitOn_eq_singleton h]
  simp

/-- **No percent-encoded key is valid**: it has neither a colon nor a hyphen. -/
theorem isValidIdempotencyKey_percentEncode (key : String) :
    isValidIdempotencyKey (percentEncode key) = false := by
  unfold isValidIdempotencyKey
  rw [splitAtLast_none fun h => (percentEncode_separators h).1 rfl]
  exact isValidUuidV4_no_hyphen fun h => (percentEncode_separators h).2 rfl

/-- The object answers 400 to every request at a percent-encoded key. -/
theorem fetch_percentEncode (s : Storage) (now : Nat) (f : Faults) (key : String)
    (method : Method) :
    fetch s now f ("/idempotency/" ++ percentEncode key) method = (some (.status 400), s) := by
  unfold fetch
  rw [stripPrefix_append]
  simp only [isValidIdempotencyKey_percentEncode, if_true]

end IdempotencyDO

end ProviiVerifier

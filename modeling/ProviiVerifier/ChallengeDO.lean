/-
  `durable_objects/challenge_do.rs`: the Durable Object that owns challenge records.

  One object handles one request at a time. `ChallengeDO.fetch` is a function of its storage,
  the clock, the outcome of each storage operation (`Faults`) and the request; `none` as a
  reply is an error thrown by the object. A storage write that fails leaves storage as it was.
-/
import ProviiVerifier.Challenge
import Mathlib.Logic.Function.Basic

namespace ProviiVerifier

/-- A request body: its size in bytes, and its value when it deserialises. -/
structure Body (α : Type) where
  size : Nat
  value : Option α

/-- `MAX_DO_BODY_SIZE`. -/
def maxDoBodySize : Nat := 65536

/-- `is_terminal_state`. -/
def isTerminalState : ChallengeState → Bool
  | .verified | .failed | .expired => true
  | .pending | .proofOkWaitingForRedeem => false

/-- `is_valid_transition`. -/
def isValidTransition (s t : ChallengeState) : Bool :=
  if s = t then true
  else
    match s with
    | .pending =>
      match t with
      | .proofOkWaitingForRedeem | .failed | .expired => true
      | _ => false
    | .proofOkWaitingForRedeem =>
      match t with
      | .verified | .failed | .expired => true
      | _ => false
    | .verified | .failed | .expired => false

/-- `ChallengeUpdate`: the lifecycle fields an update may carry. -/
structure ChallengeUpdate where
  state : ChallengeState
  proofSubmitted : Option Bool
  proofVerifiedAt : Option Nat
  verifiedAt : Option Nat
  issuerKid : Option String
  issuerVkBytes : Option Bytes
  deriving DecidableEq

/-- What a `ChallengeUpdate` reads of a serialised `CachedChallenge`. -/
def CachedChallenge.asUpdate (c : CachedChallenge) : ChallengeUpdate :=
  { state := c.state
    proofSubmitted := some c.proofSubmitted
    proofVerifiedAt := c.proofVerifiedAt
    verifiedAt := c.verifiedAt
    issuerKid := c.issuerKid
    issuerVkBytes := c.issuerVkBytes }

namespace ChallengeDO

/-- `ch:{uuid}` and `code:{short_code}` entries. -/
structure Storage where
  records : String → Option CachedChallenge
  codes : String → Option String

def Storage.empty : Storage := ⟨fun _ => none, fun _ => none⟩

/-- How the storage operations of one request go. -/
structure Faults where
  /-- `get` of a record succeeds. -/
  recordGet : Bool
  /-- `get` of a short-code entry succeeds. -/
  codeGet : Bool
  /-- Attempt `i` to `put` a record succeeds. -/
  recordPut : Nat → Bool
  /-- Attempt `i` to `put` a short-code entry succeeds. -/
  codePut : Nat → Bool
  /-- `delete` of a record succeeds. -/
  recordDelete : Bool
  /-- `delete` of a short-code entry succeeds. -/
  codeDelete : Bool

/-- Every storage operation succeeds. -/
def Faults.none : Faults :=
  { recordGet := true, codeGet := true, recordPut := fun _ => true, codePut := fun _ => true
    recordDelete := true, codeDelete := true }

/-- The requests `fetch` routes, with the path segment and the body they carry. -/
inductive Request
  | get (uuid : String)
  | getByCode (shortCode : String)
  | create (uuid : String) (body : Body CachedChallenge)
  | update (uuid : String) (body : Body ChallengeUpdate)
  | delete (uuid : String)

/-- A response: a record (200) or a bare status. -/
inductive Reply
  | record (c : CachedChallenge)
  | status (code : Nat)
  deriving DecidableEq

/-- `PUT_MAX_ATTEMPTS`. -/
def putMaxAttempts : Nat := 3

/-- `put_with_retry`: whether one of the attempts `1..=PUT_MAX_ATTEMPTS` succeeds. -/
def putWithRetry (ok : Nat → Bool) : Bool :=
  (List.range' 1 putMaxAttempts).any ok

def Storage.putRecord (s : Storage) (uuid : String) (c : CachedChallenge) : Storage :=
  { s with records := Function.update s.records uuid (some c) }

def Storage.putCode (s : Storage) (code uuid : String) : Storage :=
  { s with codes := Function.update s.codes code (some uuid) }

def Storage.deleteRecord (s : Storage) (uuid : String) : Storage :=
  { s with records := Function.update s.records uuid none }

def Storage.deleteCode (s : Storage) (code : String) : Storage :=
  { s with codes := Function.update s.codes code none }

/-- `storage().get(..).await.unwrap_or(None)`: a failed read looks like an absent entry. -/
def Storage.readRecord (s : Storage) (f : Faults) (uuid : String) : Option CachedChallenge :=
  if f.recordGet then s.records uuid else none

/-- The short code must be the one derived from the id. -/
def shortCodeMatches (uuid : String) (challenge : CachedChallenge) : Bool :=
  match parseUuid uuid with
  | some id => challenge.shortCode = generateShortCodeFromUuid id
  | none => true

/-- The checks `create_challenge` makes on its request before it touches storage. -/
def admitCreate (uuid : String) (body : Body CachedChallenge) :
    Except (Option Reply) CachedChallenge :=
  match validateChallengeId uuid with
  | .error _ => .error (some (.status 400))
  | .ok () =>
    if body.size > maxDoBodySize then .error (some (.status 413))
    else
      match body.value with
      | none => .error none
      | some challenge =>
        match validateShortCode challenge.shortCode with
        | .error _ => .error (some (.status 400))
        | .ok () =>
          if shortCodeMatches uuid challenge then .ok challenge
          else .error (some (.status 400))

/-- `create_challenge`. -/
def createChallenge (s : Storage) (f : Faults) (uuid : String) (body : Body CachedChallenge) :
    Option Reply × Storage :=
  match admitCreate uuid body with
  | .error reply => (reply, s)
  | .ok challenge =>
    match s.readRecord f uuid with
    | some _ => (some (.status 200), s)
    | none =>
      if putWithRetry f.recordPut then
        let s := s.putRecord uuid challenge
        if putWithRetry f.codePut then (some (.status 200), s.putCode challenge.shortCode uuid)
        else (some (.status 503), s)
      else (some (.status 503), s)

/-- `get_challenge`: an expired record is deleted when it is read. -/
def getChallenge (s : Storage) (now : Nat) (f : Faults) (uuid : String) :
    Option Reply × Storage :=
  match validateChallengeId uuid with
  | .error _ => (some (.status 400), s)
  | .ok () =>
    match s.readRecord f uuid with
    | some challenge =>
      if challenge.expiresAt > now then (some (.record challenge), s)
      else if f.recordDelete then
        let s := s.deleteRecord uuid
        if f.codeDelete then (some (.status 410), s.deleteCode challenge.shortCode)
        else (none, s)
      else (none, s)
    | none => (some (.status 404), s)

/-- `get_challenge_by_code`. -/
def getChallengeByCode (s : Storage) (now : Nat) (f : Faults) (shortCode : String) :
    Option Reply × Storage :=
  match validateShortCode shortCode with
  | .error _ => (some (.status 400), s)
  | .ok () =>
    match if f.codeGet then s.codes shortCode else none with
    | some uuid => getChallenge s now f uuid
    | none => (some (.status 404), s)

/-- The record after the merge of `update_challenge`; leaving `Pending` erases the secret. -/
def mergeUpdate (existing : CachedChallenge) (update : ChallengeUpdate) : CachedChallenge :=
  let existing :=
    if existing.state = .pending ∧ update.state ≠ .pending then existing.zeroizeSecret
    else existing
  { existing with
    state := update.state
    proofSubmitted := update.proofSubmitted.getD existing.proofSubmitted
    proofVerifiedAt := update.proofVerifiedAt.orElse fun _ => existing.proofVerifiedAt
    verifiedAt := update.verifiedAt.orElse fun _ => existing.verifiedAt
    issuerKid := update.issuerKid.orElse fun _ => existing.issuerKid
    issuerVkBytes := update.issuerVkBytes.orElse fun _ => existing.issuerVkBytes }

/-- `update_challenge`. -/
def updateChallenge (s : Storage) (now : Nat) (f : Faults) (uuid : String)
    (body : Body ChallengeUpdate) : Option Reply × Storage :=
  match validateChallengeId uuid with
  | .error _ => (some (.status 400), s)
  | .ok () =>
    if body.size > maxDoBodySize then (some (.status 413), s)
    else
      match s.readRecord f uuid with
      | none => (some (.status 404), s)
      | some existing =>
        match body.value with
        | none => (none, s)
        | some update =>
          if now ≥ existing.expiresAt ∧ isTerminalState update.state = false then
            (some (.status 410), s)
          else if existing.state ≠ update.state ∧
              isValidTransition existing.state update.state = false then
            (some (.status 409), s)
          else if putWithRetry f.recordPut then
            (some (.status 200), s.putRecord uuid (mergeUpdate existing update))
          else (some (.status 503), s)

/-- `delete_challenge`: evidence-bearing states cannot be deleted. -/
def deleteChallenge (s : Storage) (f : Faults) (uuid : String) : Option Reply × Storage :=
  match validateChallengeId uuid with
  | .error _ => (some (.status 400), s)
  | .ok () =>
    match s.readRecord f uuid with
    | some challenge =>
      if challenge.state = .verified ∨ challenge.state = .proofOkWaitingForRedeem then
        (some (.status 409), s)
      else if f.recordDelete then
        let s := s.deleteRecord uuid
        if f.codeDelete then (some (.status 200), s.deleteCode challenge.shortCode)
        else (none, s)
      else (none, s)
    | none => (some (.status 200), s)

/-- `fetch`: one request on the object. -/
def fetch (s : Storage) (now : Nat) (f : Faults) : Request → Option Reply × Storage
  | .get uuid => getChallenge s now f uuid
  | .getByCode code => getChallengeByCode s now f code
  | .create uuid body => createChallenge s f uuid body
  | .update uuid body => updateChallenge s now f uuid body
  | .delete uuid => deleteChallenge s f uuid

/-! ## What one request can do to a record -/

@[simp] theorem putRecord_records (s : Storage) (u v : String) (c : CachedChallenge) :
    (s.putRecord u c).records v = if v = u then some c else s.records v := by
  simp [Storage.putRecord, Function.update_apply]

@[simp] theorem putCode_records (s : Storage) (u v : String) :
    (s.putCode u v).records = s.records := rfl

@[simp] theorem deleteRecord_records (s : Storage) (u v : String) :
    (s.deleteRecord u).records v = if v = u then none else s.records v := by
  simp [Storage.deleteRecord, Function.update_apply]

@[simp] theorem deleteCode_records (s : Storage) (u : String) :
    (s.deleteCode u).records = s.records := rfl

theorem readRecord_some {s : Storage} {f : Faults} {u : String} {c : CachedChallenge}
    (h : s.readRecord f u = some c) : s.records u = some c := by
  unfold Storage.readRecord at h
  split at h
  · exact h
  · cases h

theorem readRecord_none {s : Storage} {f : Faults} {u : String}
    (h : s.readRecord f u = none) : s.records u = none ∨ f.recordGet = false := by
  unfold Storage.readRecord at h
  split at h
  · exact .inl h
  · next hf => exact .inr (by simpa using hf)

/-- The effect of one request on the record stored under `u`. -/
inductive RecordStep (now : Nat) (f : Faults) (req : Request) (u : String) :
    Option CachedChallenge → Option CachedChallenge → Prop
  | keep {r : Option CachedChallenge} : RecordStep now f req u r r
  | expire {c : CachedChallenge} (hexp : c.expiresAt ≤ now) :
      RecordStep now f req u (some c) none
  | delete {c : CachedChallenge} (hreq : req = .delete u) (hv : c.state ≠ .verified)
      (hp : c.state ≠ .proofOkWaitingForRedeem) : RecordStep now f req u (some c) none
  | create {r : Option CachedChallenge} {c : CachedChallenge} {body : Body CachedChallenge}
      (hreq : req = .create u body) (hval : body.value = some c)
      (habs : r = none ∨ f.recordGet = false) : RecordStep now f req u r (some c)
  | update {e : CachedChallenge} {body : Body ChallengeUpdate} {upd : ChallengeUpdate}
      (hreq : req = .update u body) (hval : body.value = some upd)
      (htime : now < e.expiresAt ∨ isTerminalState upd.state = true)
      (htrans : isValidTransition e.state upd.state = true) :
      RecordStep now f req u (some e) (some (mergeUpdate e upd))

theorem isValidTransition_self (s : ChallengeState) : isValidTransition s s = true := by
  simp [isValidTransition]

theorem admitCreate_ok {uuid : String} {body : Body CachedChallenge} {c : CachedChallenge}
    (h : admitCreate uuid body = .ok c) : body.value = some c := by
  unfold admitCreate at h
  cases hid : validateChallengeId uuid with
  | error e => simp [hid] at h
  | ok =>
    by_cases hsize : body.size > maxDoBodySize
    · simp [hid, hsize] at h
    · cases hval : body.value with
      | none => simp [hid, hsize, hval] at h
      | some d =>
        simp only [hid, if_neg hsize, hval] at h
        split at h
        · cases h
        · split at h
          · rw [Except.ok.inj h]
          · cases h

theorem createChallenge_recordStep (s : Storage) (now : Nat) (f : Faults) (u v : String)
    (body : Body CachedChallenge) :
    RecordStep now f (.create u body) v (s.records v)
      ((createChallenge s f u body).2.records v) := by
  unfold createChallenge
  cases haccepted : admitCreate u body with
  | error reply => exact .keep
  | ok c =>
    cases hread : s.readRecord f u with
    | some d => exact .keep
    | none =>
      by_cases hput : putWithRetry f.recordPut = true
      · have hrec : RecordStep now f (.create u body) v (s.records v)
            ((s.putRecord u c).records v) := by
          by_cases hv : v = u
          · subst hv
            simpa using RecordStep.create rfl (admitCreate_ok haccepted) (readRecord_none hread)
          · simpa [hv] using RecordStep.keep
        simp only [hput, if_true]
        split
        · exact hrec
        · exact hrec
      · simpa [hput] using RecordStep.keep

theorem getChallenge_recordStep (s : Storage) (now : Nat) (f : Faults) (req : Request)
    (u v : String) :
    RecordStep now f req v (s.records v) ((getChallenge s now f u).2.records v) := by
  unfold getChallenge
  repeat' split
  all_goals try exact .keep
  all_goals
    have hread := readRecord_some ‹s.readRecord f u = some _›
    by_cases hv : v = u
    · subst hv
      rw [hread]
      simpa using RecordStep.expire (by omega)
    · simpa [hv] using RecordStep.keep

theorem updateChallenge_recordStep (s : Storage) (now : Nat) (f : Faults) (u v : String)
    (body : Body ChallengeUpdate) :
    RecordStep now f (.update u body) v (s.records v)
      ((updateChallenge s now f u body).2.records v) := by
  unfold updateChallenge
  repeat' split
  all_goals try exact .keep
  next existing hread _ upd hval htime htrans hput =>
    by_cases hv : v = u
    · subst hv
      rw [readRecord_some hread]
      have htime' : now < existing.expiresAt ∨ isTerminalState upd.state = true := by
        by_contra h
        simp only [not_or, Nat.not_lt, Bool.not_eq_true] at h
        exact htime h
      have htrans' : isValidTransition existing.state upd.state = true := by
        by_cases heq : existing.state = upd.state
        · rw [heq]
          exact isValidTransition_self _
        · simpa [heq] using htrans
      simpa using RecordStep.update rfl hval htime' htrans'
    · simpa [hv] using RecordStep.keep

theorem deleteChallenge_recordStep (s : Storage) (now : Nat) (f : Faults) (u v : String) :
    RecordStep now f (.delete u) v (s.records v) ((deleteChallenge s f u).2.records v) := by
  unfold deleteChallenge
  repeat' split
  all_goals try exact .keep
  all_goals
    have hread := readRecord_some ‹s.readRecord f u = some _›
    have hstate := not_or.mp ‹¬(_ ∨ _)›
    by_cases hv : v = u
    · subst hv
      rw [hread]
      simpa using RecordStep.delete rfl hstate.1 hstate.2
    · simpa [hv] using RecordStep.keep

/-- **Inversion of a request**: how it can change the record under `v`. -/
theorem fetch_recordStep (s : Storage) (now : Nat) (f : Faults) (req : Request) (v : String) :
    RecordStep now f req v (s.records v) ((fetch s now f req).2.records v) := by
  cases req with
  | get u => exact getChallenge_recordStep s now f _ u v
  | getByCode code =>
    simp only [fetch, getChallengeByCode]
    repeat' split
    all_goals first | exact .keep | exact getChallenge_recordStep s now f _ _ v
  | create u body => exact createChallenge_recordStep s now f u v body
  | update u body => exact updateChallenge_recordStep s now f u v body
  | delete u => exact deleteChallenge_recordStep s now f u v

end ChallengeDO

end ProviiVerifier

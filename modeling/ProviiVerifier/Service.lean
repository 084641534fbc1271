/-
  The shared state of the service and the operations a request handler awaits.

  `AppState` holds what a deployment fixes and the code outside the repository: hashes, the
  SNARK verifier, Argon2id, serde sizes. `State` holds the Durable Objects, the KV
  namespaces, the clock and the credit service. `Op` lists the operations at which handlers
  interleave; `service` runs them.

  What the outside world decides is the `Choice` of an operation: a Durable Object may never
  get a request, get it after its sender gave up, or serve it with failing storage and a lost
  answer; a KV read may answer its stored content or anything else; bans, issuers and quotas
  are answered from outside.
-/
import ProviiVerifier.Interleaving.Pool
import ProviiVerifier.IdempotencyDO
import ProviiVerifier.Policy

namespace ProviiVerifier

open Interleaving

/-! ## The deployment -/

/-- The errors of `verify_age_snark` that the handler tells apart. -/
inductive SnarkError
  | verificationFailed
  | invalidFormat
  | verifierNotInitialized
  | other
  deriving DecidableEq, Repr

/-- What `verify_age_snark` returns for an accepted proof. -/
structure SnarkResult where
  cutoffDays : Int
  issuerVkBytes : Bytes
  deriving DecidableEq

/-- `OICreditCheck`. -/
structure OICreditCheck where
  meteringEnabled : Option Bool
  hasCredits : Option Bool
  deriving DecidableEq

/-- What a deployment fixes, and the code outside the repository. -/
structure AppState where
  environment : String
  uni : Unicode
  sha256 : Bytes → Bytes
  blake2s256 : Bytes → Bytes
  /-- Proof, direction, cutoff, challenge hash, issuer key, nullifier, verifying key id. -/
  verifyAgeSnark : Bytes → Bool → Int → Bytes → Bytes → Bytes → Nat →
    Except SnarkError SnarkResult
  /-- Argon2id: key, stored hash. -/
  verifyApiKey : String → String → Bool
  /-- Client, canonical message, supplied MAC. -/
  verifyHmac : ClientAuthConfig → String → String → Except ApiError Unit
  /-- `serde_json::to_string(&challenge).len()`. -/
  challengeJsonLen : CachedChallenge → Nat
  idempotencyJsonLen : IdempotencyDO.SetRequest → Nat
  /-- `OIMetering` of an `ORIGIN_INDEX` text: its `metering_enabled`. -/
  oiMetering : String → Option (Option Bool)
  oiCreditCheck : String → Option OICreditCheck
  /-- `OIEntry` of an `ORIGIN_INDEX` text: its `organization_id`. -/
  oiEntry : String → Option (Option String)
  base64Url : Bytes → String
  /-- HMAC-SHA-256 of the domain tag and the input, keyed by the salt: input, salt, tag. -/
  hashWithSalt : String → String → String → String
  ipHashSalt : String
  isControl : Char → Bool
  nonceShard : String → Nat
  idempotencyShard : String → Nat
  /-- `rp_challenge`: origin, nonce. -/
  rpChallenge : String → Bytes → FixedBytes 32
  /-- A JSON string with its quotes and escapes. -/
  jsonString : String → String
  /-- `KV_CONFIG` is bound. -/
  configBinding : Bool
  creditManagementClient : Bool
  idempotencyStore : Bool
  sessionTokenSecret : Option String
  apiBaseUrl : String

/-- The SHA-256 digests of the inputs that the samples hash: a code verifier, and the fingerprints
of a client at each route. -/
def sampleDigests : List (Bytes × Bytes) :=
  [(List.replicate 43 97, CachedChallenge.sampleDigest),
    ([9, 0, 0, 0] ++ utf8Bytes "challenge" ++ [4, 0, 0, 0] ++ utf8Bytes "shop",
      [102, 216, 46, 208, 245, 37, 146, 95, 174, 95, 209, 193, 158, 20, 155, 120,
        68, 37, 22, 236, 158, 101, 80, 49, 145, 98, 78, 220, 60, 66, 174, 254]),
    ([6, 0, 0, 0] ++ utf8Bytes "verify" ++ [4, 0, 0, 0] ++ utf8Bytes "shop",
      [26, 66, 183, 14, 57, 37, 196, 239, 139, 137, 255, 21, 132, 243, 78, 191,
        57, 194, 177, 69, 170, 39, 233, 152, 197, 104, 108, 253, 131, 194, 226, 121]),
    ([6, 0, 0, 0] ++ utf8Bytes "redeem" ++ [4, 0, 0, 0] ++ utf8Bytes "shop",
      [154, 16, 141, 254, 90, 196, 90, 244, 214, 93, 246, 69, 147, 223, 225, 209,
        183, 104, 31, 79, 179, 103, 120, 102, 40, 177, 100, 187, 229, 201, 55, 29])]

/-- The first 32 positive bytes. -/
def sampleRpChallenge : FixedBytes 32 := ⟨(List.range' 1 32).map UInt8.ofNat, rfl⟩

/-- A production deployment to replay runs with: what is outside the repository answers as the
real code does on the samples. -/
def AppState.sample : AppState :=
  { environment := "production"
    uni := .ascii
    sha256 := fun bytes => (sampleDigests.lookup bytes).getD []
    blake2s256 := fun bytes => bytes.take 32
    verifyAgeSnark := fun proof _ cutoffDays _ issuerVk _ _ =>
      if proof.length = 192 then .ok ⟨cutoffDays, issuerVk⟩ else .error .invalidFormat
    verifyApiKey := fun key hash => key = hash
    verifyHmac := fun _ _ _ => .ok ()
    challengeJsonLen := fun _ => 900
    idempotencyJsonLen := fun _ => 300
    oiMetering := fun text => if text = "metered" then some (some true) else none
    oiCreditCheck := fun text => if text = "metered" then some ⟨some true, some true⟩ else none
    oiEntry := fun text => if text = "metered" then some (some "org-shop") else none
    base64Url := fun bytes => String.ofList (bytes.map fun b => Char.ofNat b.toNat)
    hashWithSalt := fun input salt domain => domain ++ salt ++ input
    ipHashSalt := "salt"
    isControl := fun c => c.toNat < 32
    nonceShard := fun _ => 0
    idempotencyShard := fun _ => 0
    rpChallenge := fun _ _ => sampleRpChallenge
    jsonString := fun s => "\"" ++ s ++ "\""
    configBinding := true
    creditManagementClient := true
    idempotencyStore := false
    sessionTokenSecret := some "secret"
    apiBaseUrl := "https://verify.example" }

/-! ## Operations and answers -/

/-- What a read of a Workers KV namespace comes to. -/
inductive KvRead
  | value (text : String)
  | missing
  | failed
  | timedOut
  | bindingError
  deriving DecidableEq

/-- A stored value as a read answers it. -/
def KvRead.ofOption : Option String → KvRead
  | some text => value text
  | none => missing

/-- `IssuerMeta`: the fields the handlers read. -/
structure IssuerMeta where
  kid : String
  revoked : Bool
  deriving DecidableEq

/-- `SessionBindingMode`. -/
inductive SessionBindingMode
  | strict
  | relaxed
  | none
  deriving DecidableEq

/-- `SessionState`. -/
inductive SessionState
  | pending
  | proofOk
  | verified
  | expired
  | revoked
  deriving DecidableEq, Repr

/-- `HostedSession`: the fields the handlers read and write. -/
structure HostedSession where
  sessionId : String
  publicKey : String
  origin : String
  state : SessionState
  verifierChallengeId : String
  clientIpHash : Option String
  userAgent : Option String
  bindingMode : SessionBindingMode
  statusCheckCount : Nat
  redeemAttemptCount : Nat
  deriving DecidableEq

/-- `ConsumeCreditsRequest`. -/
structure ConsumeCreditsRequest where
  customerId : String
  verificationId : String
  origin : String
  issuerKid : Option String
  environment : String
  deriving DecidableEq

/-- An HTTP response of the credit service. -/
structure CreditReply where
  status : Nat
  contentType : Option String
  contentLength : Option Nat
  /-- Size of the text, when it can be read. -/
  textLen : Option Nat
  /-- The text deserialises as a `ConsumeCreditsResponse`. -/
  parses : Bool
  deriving DecidableEq

/-- A JSON response of the credit service with the given status. -/
def CreditReply.json (status : Nat) : CreditReply :=
  ⟨status, some "application/json", none, some 64, true⟩

/-- The operations a handler awaits. -/
inductive Op
  /-- `current_timestamp()`. -/
  | timestamp
  /-- `Uuid::new_v4()`. -/
  | newUuid
  /-- `generate_secure_random(n)`. -/
  | secureRandom (n : Nat)
  /-- A retry is still within `MAX_OPERATION_BUDGET_MS`. -/
  | budgetLeft
  | challengeDO (id : Uuid) (req : ChallengeDO.Request)
  | nonceDO (tag : String) (body : Body Nat)
  | idempotencyDO (shard : Nat) (path : String) (method : IdempotencyDO.Method)
  | isBanned (nullifier : Bytes)
  | getCachedPolicy (origin : String)
  | getPolicyDetail (origin : String)
  | configGet (key : String)
  | configPut (key value : String) (ttl : Nat)
  /-- `enforce_account_quota`. -/
  | accountQuota (clientId endpoint : String)
  | peekIssuer (hash : Bytes)
  | lookupIssuer (hash : Bytes)
  | originIndexGet (origin : String)
  /-- A consume request, over the service binding or over HTTP. -/
  | credits (binding : Bool) (req : ConsumeCreditsRequest)
  | getSession (sessionId : String)
  | putSession (sessionId : String) (session : HostedSession)
  /-- The `challenge_to_session:` entry of a challenge. -/
  | challengeToSession (challengeId : String)
  | apiKeyCacheGet (apiKey clientId : String)
  | apiKeyCachePut (apiKey clientId : String) (verified : Bool)

/-- What each operation answers; `none` for an object is a failed or timed out fetch. -/
abbrev Res : Op → Type
  | .timestamp => Nat
  | .newUuid => Uuid
  | .secureRandom n => { bytes : Bytes // bytes.length = n }
  | .budgetLeft => Bool
  | .challengeDO _ _ => Option ChallengeDO.Reply
  | .nonceDO _ _ => Option NonceDO.Reply
  | .idempotencyDO _ _ _ => Option IdempotencyDO.Reply
  | .isBanned _ => Except ApiError Bool
  | .getCachedPolicy _ => Except ApiError (Option OriginPolicy)
  | .getPolicyDetail _ => Except ApiError PolicyLookupResult
  | .configGet _ => KvRead
  | .configPut _ _ _ => Bool
  | .accountQuota _ _ => Except ApiError Unit
  | .peekIssuer _ => Option IssuerMeta
  | .lookupIssuer _ => Except ApiError IssuerMeta
  | .originIndexGet _ => KvRead
  | .credits _ _ => Option CreditReply
  | .getSession _ => Except ApiError (Option HostedSession)
  | .putSession _ _ => Bool
  | .challengeToSession _ => Option String
  | .apiKeyCacheGet _ _ => Option Bool
  | .apiKeyCachePut _ _ _ => Unit

/-- A request whose sender gave up before it was served. -/
inductive Message
  | challenge (id : Uuid) (req : ChallengeDO.Request)
  | nonce (tag : String) (body : Body Nat)
  | idempotency (shard : Nat) (path : String) (method : IdempotencyDO.Method)
  | credits (req : ConsumeCreditsRequest)

/-- How a fetch on a Durable Object goes. -/
inductive Delivery (Faults : Type)
  /-- The object never gets the request. -/
  | lost
  /-- The sender gives up first; the object may still get the request later. -/
  | late
  /-- The object serves the request; its answer may get lost. -/
  | served (f : Faults) (answered : Bool)

/-- How a consume request goes at the credit service. -/
inductive CreditChoice
  | lost
  | late
  /-- The service declines. -/
  | refused (reply : CreditReply)
  /-- The service deducts and answers 200, or finds that it already has and answers 409; the
  rest of the reply is as given, and the reply may get lost. -/
  | settled (reply : Option CreditReply)

/-- What the outside world decides at an operation. Where a store is read, `none` is its
content. -/
abbrev Choice : Op → Type
  | .timestamp => Unit
  | .newUuid => Uuid
  | .secureRandom n => { bytes : Bytes // bytes.length = n }
  | .budgetLeft => Bool
  | .challengeDO _ _ => Delivery ChallengeDO.Faults
  | .nonceDO _ _ => Delivery NonceDO.Faults
  | .idempotencyDO _ _ _ => Delivery IdempotencyDO.Faults
  | .isBanned _ => Except ApiError Bool
  | .getCachedPolicy _ => Option (Except ApiError (Option OriginPolicy))
  | .getPolicyDetail _ => Option (Except ApiError PolicyLookupResult)
  | .configGet _ => Option KvRead
  | .configPut _ _ _ => Bool × Bool
  | .accountQuota _ _ => Except ApiError Unit
  | .peekIssuer _ => Option IssuerMeta
  | .lookupIssuer _ => Except ApiError IssuerMeta
  | .originIndexGet _ => Option KvRead
  | .credits _ _ => CreditChoice
  | .getSession _ => Option (Except ApiError (Option HostedSession))
  | .putSession _ _ => Bool
  | .challengeToSession _ => Option String
  | .apiKeyCacheGet _ _ => Bool
  | .apiKeyCachePut _ _ _ => Unit

/-! ## The shared state -/

/-- The shared state. -/
structure State where
  clock : Nat
  /-- The ids `Uuid::new_v4` has returned. -/
  drawn : List Uuid
  challenges : Uuid → ChallengeDO.Storage
  inflight : List Message
  nonces : Nat → NonceDO.Storage
  idempotency : Nat → IdempotencyDO.Storage
  policies : String → PolicyLookupResult
  /-- `KV_CONFIG` entries with the time they expire. -/
  config : String → Option (String × Nat)
  originIndex : String → Option String
  sessions : String → Option HostedSession
  /-- The verification ids the credit service has deducted for. -/
  deducted : List String
  apiKeyCache : String × String → Option Bool

/-- The stores before anything is written: no object, no session, no policy. -/
def State.initial : State :=
  { clock := 0
    drawn := []
    challenges := fun _ => .empty
    inflight := []
    nonces := fun _ _ => none
    idempotency := fun _ _ => none
    policies := fun _ => .notFound
    config := fun _ => none
    originIndex := fun _ => none
    sessions := fun _ => none
    deducted := []
    apiKeyCache := fun _ => none }

namespace State

/-- A `ChallengeDO` serves a request. -/
def serveChallenge (s : State) (f : ChallengeDO.Faults) (id : Uuid) (req : ChallengeDO.Request) :
    Option ChallengeDO.Reply × State :=
  let r := ChallengeDO.fetch (s.challenges id) s.clock f req
  (r.1, { s with challenges := Function.update s.challenges id r.2 })

/-- The `NonceDO` shard of a tag serves a request. -/
def serveNonce (app : AppState) (s : State) (f : NonceDO.Faults) (tag : String)
    (body : Body Nat) : Option NonceDO.Reply × State :=
  let shard := app.nonceShard tag
  let r := NonceDO.setNonce app.uni (s.nonces shard) s.clock f tag body
  (r.1, { s with nonces := Function.update s.nonces shard r.2 })

/-- An `IdempotencyDO` serves a request. -/
def serveIdempotency (s : State) (f : IdempotencyDO.Faults) (shard : Nat) (path : String)
    (method : IdempotencyDO.Method) : Option IdempotencyDO.Reply × State :=
  let r := IdempotencyDO.fetch (s.idempotency shard) s.clock f path method
  (r.1, { s with idempotency := Function.update s.idempotency shard r.2 })

/-- The credit service deducts once for each verification id. -/
def deduct (s : State) (req : ConsumeCreditsRequest) : Nat × State :=
  if req.verificationId ∈ s.deducted then (409, s)
  else (200, { s with deducted := req.verificationId :: s.deducted })

/-- `KV_CONFIG` content that has not expired. -/
def configValue (s : State) (key : String) : Option String :=
  match s.config key with
  | some (text, expiry) => if s.clock < expiry then some text else none
  | none => none

def writeConfig (s : State) (key value : String) (ttl : Nat) : State :=
  { s with config := Function.update s.config key (some (value, s.clock + ttl)) }

def writeSession (s : State) (sessionId : String) (session : HostedSession) : State :=
  { s with sessions := Function.update s.sessions sessionId (some session) }

def cacheVerdict (s : State) (key : String × String) (verified : Bool) : State :=
  { s with apiKeyCache := Function.update s.apiKeyCache key (some verified) }

/-- A `NonceDO` alarm deletes the expired entries of its shard. -/
def nonceAlarm (s : State) (shard : Nat) : State :=
  let live := NonceDO.cleanupExpiredNonces (s.nonces shard) s.clock
  { s with nonces := Function.update s.nonces shard live }

/-- What `get_cached_policy` answers from the stored policies. -/
def cachedPolicy (s : State) (origin : String) : Option OriginPolicy :=
  match s.policies origin with
  | .found policy => some policy
  | .disabled | .notFound => none

end State

/-- Run an operation. -/
def perform (app : AppState) (s : State) : (op : Op) → Choice op → Res op × State
  | .timestamp, _ => (s.clock, s)
  | .newUuid, (id : Uuid) => (id, { s with drawn := id :: s.drawn })
  | .secureRandom _, bytes => (bytes, s)
  | .budgetLeft, (left : Bool) => (left, s)
  | .challengeDO _ _, .lost => (none, s)
  | .challengeDO id req, .late => (none, { s with inflight := .challenge id req :: s.inflight })
  | .challengeDO id req, .served f answered =>
    ((if answered then (s.serveChallenge f id req).1 else none), (s.serveChallenge f id req).2)
  | .nonceDO _ _, .lost => (none, s)
  | .nonceDO tag body, .late => (none, { s with inflight := .nonce tag body :: s.inflight })
  | .nonceDO tag body, .served f answered =>
    ((if answered then (s.serveNonce app f tag body).1 else none),
      (s.serveNonce app f tag body).2)
  | .idempotencyDO _ _ _, .lost => (none, s)
  | .idempotencyDO shard path method, .late =>
    (none, { s with inflight := .idempotency shard path method :: s.inflight })
  | .idempotencyDO shard path method, .served f answered =>
    ((if answered then (s.serveIdempotency f shard path method).1 else none),
      (s.serveIdempotency f shard path method).2)
  | .isBanned _, (answer : Except ApiError Bool) => (answer, s)
  | .getCachedPolicy origin, (answer : Option (Except ApiError (Option OriginPolicy))) =>
    (answer.getD (.ok (s.cachedPolicy origin)), s)
  | .getPolicyDetail origin, (answer : Option (Except ApiError PolicyLookupResult)) =>
    (answer.getD (.ok (s.policies origin)), s)
  | .configGet key, (answer : Option KvRead) =>
    (answer.getD (.ofOption (s.configValue key)), s)
  | .configPut key value ttl, (stored, acknowledged) =>
    (acknowledged, if stored then s.writeConfig key value ttl else s)
  | .accountQuota _ _, (answer : Except ApiError Unit) => (answer, s)
  | .peekIssuer _, (answer : Option IssuerMeta) => (answer, s)
  | .lookupIssuer _, (answer : Except ApiError IssuerMeta) => (answer, s)
  | .originIndexGet origin, (answer : Option KvRead) =>
    (answer.getD (.ofOption (s.originIndex origin)), s)
  | .credits _ _, .lost => (none, s)
  | .credits _ req, .late => (none, { s with inflight := .credits req :: s.inflight })
  | .credits _ _, .refused reply => (some reply, s)
  | .credits _ req, .settled reply =>
    (reply.map fun r => { r with status := (s.deduct req).1 }, (s.deduct req).2)
  | .getSession sessionId, (answer : Option (Except ApiError (Option HostedSession))) =>
    (answer.getD (.ok (s.sessions sessionId)), s)
  | .putSession sessionId session, (stored : Bool) =>
    (stored, if stored then s.writeSession sessionId session else s)
  | .challengeToSession _, (answer : Option String) => (answer, s)
  | .apiKeyCacheGet apiKey clientId, (fresh : Bool) =>
    (if fresh then s.apiKeyCache (apiKey, clientId) else none, s)
  | .apiKeyCachePut apiKey clientId verified, _ =>
    ((), s.cacheVerdict (apiKey, clientId) verified)

/-! ## Steps of the environment -/

/-- What happens without a request: time passes, a `NonceDO` alarm fires, a late request is
served. -/
inductive Env
  | tick (seconds : Nat)
  | nonceAlarm (shard : Nat)
  | deliver (i : Nat) (f : ChallengeDO.Faults) (g : NonceDO.Faults) (h : IdempotencyDO.Faults)

/-- Serve a late request; nobody waits for the answer. -/
def State.deliver (app : AppState) (s : State) (f : ChallengeDO.Faults) (g : NonceDO.Faults)
    (h : IdempotencyDO.Faults) : Message → State
  | .challenge id req => (s.serveChallenge f id req).2
  | .nonce tag body => (s.serveNonce app g tag body).2
  | .idempotency shard path method => (s.serveIdempotency h shard path method).2
  | .credits req => (s.deduct req).2

def envStep (app : AppState) (s : State) : Env → State
  | .tick seconds => { s with clock := s.clock + seconds }
  | .nonceAlarm shard => s.nonceAlarm shard
  | .deliver i f g h =>
    match s.inflight[i]? with
    | some m => State.deliver app { s with inflight := s.inflight.eraseIdx i } f g h m
    | none => s

/-- The service as a machine. -/
def service (app : AppState) : Machine Op Res :=
  { State := State
    Choice := Choice
    Env := Env
    perform := perform app
    envStep := envStep app }

/-- A request handler: errors become responses with their status. -/
abbrev Handler (α : Type) := Prog Op Res ApiError α

/-- Await an operation. -/
def await {ε : Type} (op : Op) : Prog Op Res ε (Res op) :=
  Prog.perform op

theorem guarded_await_bind {ε β : Type} {G : History Op Res → Op → Prop}
    {Q : History Op Res → Except ε β → Prop} {h : History Op Res} {op : Op}
    {f : Res op → Prog Op Res ε β} :
    (await op >>= f).Guarded G Q h ↔ G h op ∧ ∀ r, (f r).Guarded G Q (⟨op, r⟩ :: h) := Iff.rfl

theorem only_await_bind {ε β : Type} {P : Op → Prop} {op : Op}
    {f : Res op → Prog Op Res ε β} :
    (await op >>= f).Only P ↔ P op ∧ ∀ r, (f r).Only P := Iff.rfl

/-! ## What an operation can do to the state -/

/-- The message a late operation leaves behind. -/
def Op.message : Op → Option Message
  | .challengeDO id req => some (.challenge id req)
  | .nonceDO tag body => some (.nonce tag body)
  | .idempotencyDO shard path method => some (.idempotency shard path method)
  | .credits _ req => some (.credits req)
  | _ => none

/-- The states an operation can lead to. -/
inductive OpStep (app : AppState) (s : State) : Op → State → Prop
  | same {op : Op} : OpStep app s op s
  | drawn {id : Uuid} : OpStep app s .newUuid { s with drawn := id :: s.drawn }
  | late {op : Op} {m : Message} (hm : op.message = some m) :
      OpStep app s op { s with inflight := m :: s.inflight }
  | challenge {id : Uuid} {req : ChallengeDO.Request} {f : ChallengeDO.Faults} :
      OpStep app s (.challengeDO id req) (s.serveChallenge f id req).2
  | nonce {tag : String} {body : Body Nat} {f : NonceDO.Faults} :
      OpStep app s (.nonceDO tag body) (s.serveNonce app f tag body).2
  | idempotency {shard : Nat} {path : String} {method : IdempotencyDO.Method}
      {f : IdempotencyDO.Faults} :
      OpStep app s (.idempotencyDO shard path method) (s.serveIdempotency f shard path method).2
  | config {key value : String} {ttl : Nat} :
      OpStep app s (.configPut key value ttl) (s.writeConfig key value ttl)
  | credits {binding : Bool} {req : ConsumeCreditsRequest} :
      OpStep app s (.credits binding req) (s.deduct req).2
  | session {sessionId : String} {session : HostedSession} :
      OpStep app s (.putSession sessionId session) (s.writeSession sessionId session)
  | cache {apiKey clientId : String} {verified : Bool} :
      OpStep app s (.apiKeyCachePut apiKey clientId verified)
        (s.cacheVerdict (apiKey, clientId) verified)

variable {app : AppState} {s t : State} {op : Op}

/-- **Inversion of an operation.** -/
theorem perform_opStep (c : Choice op) : OpStep app s op (perform app s op c).2 := by
  cases op with
  | newUuid => exact .drawn
  | challengeDO id req =>
    cases c with
    | lost => exact .same
    | late => exact .late rfl
    | served f answered => exact .challenge
  | nonceDO tag body =>
    cases c with
    | lost => exact .same
    | late => exact .late rfl
    | served f answered => exact .nonce
  | idempotencyDO shard path method =>
    cases c with
    | lost => exact .same
    | late => exact .late rfl
    | served f answered => exact .idempotency
  | configPut key value ttl =>
    obtain ⟨stored, acknowledged⟩ := c
    cases stored with
    | false => exact .same
    | true => exact .config
  | credits binding req =>
    cases c with
    | lost => exact .same
    | late => exact .late rfl
    | refused reply => exact .same
    | settled reply => exact .credits
  | putSession sessionId session =>
    cases c with
    | false => exact .same
    | true => exact .session
  | apiKeyCachePut apiKey clientId verified => exact .cache
  | _ => exact .same

theorem deduct_eq (s : State) (req : ConsumeCreditsRequest) :
    (s.deduct req).2 = { s with deducted := (s.deduct req).2.deducted } := by
  unfold State.deduct
  split <;> rfl

theorem OpStep.clock (h : OpStep app s op t) : t.clock = s.clock := by
  cases h with
  | credits => rw [deduct_eq]
  | _ => rfl

theorem OpStep.originIndex (h : OpStep app s op t) : t.originIndex = s.originIndex := by
  cases h with
  | credits => rw [deduct_eq]
  | _ => rfl

theorem OpStep.nonces (h : OpStep app s op t) (hop : ∀ tag body, op ≠ .nonceDO tag body) :
    t.nonces = s.nonces := by
  cases h with
  | credits => rw [deduct_eq]
  | nonce => exact absurd rfl (hop _ _)
  | _ => rfl

theorem OpStep.challenges (h : OpStep app s op t) (hop : ∀ id req, op ≠ .challengeDO id req) :
    t.challenges = s.challenges := by
  cases h with
  | credits => rw [deduct_eq]
  | challenge => exact absurd rfl (hop _ _)
  | _ => rfl

theorem OpStep.deducted (h : OpStep app s op t)
    (hop : ∀ binding req, op ≠ .credits binding req) : t.deducted = s.deducted := by
  cases h with
  | credits => exact absurd rfl (hop _ _)
  | _ => rfl

theorem OpStep.sessions (h : OpStep app s op t)
    (hop : ∀ key session, op ≠ .putSession key session) :
    t.sessions = s.sessions := by
  cases h with
  | credits => rw [deduct_eq]
  | session => exact absurd rfl (hop _ _)
  | _ => rfl

/-- The ids drawn only grow. -/
theorem OpStep.drawn_subset (h : OpStep app s op t) : s.drawn ⊆ t.drawn := by
  cases h with
  | credits => rw [deduct_eq]; exact fun _ hm => hm
  | drawn => exact List.subset_cons_self _ _
  | _ => exact fun _ hm => hm

/-- A message in flight was there before or is the operation's own. -/
theorem OpStep.inflight (h : OpStep app s op t) {m : Message} (hm : m ∈ t.inflight) :
    m ∈ s.inflight ∨ op.message = some m := by
  cases h with
  | credits => rw [deduct_eq] at hm; exact .inl hm
  | late hop =>
    rcases List.mem_cons.mp hm with rfl | hm
    · exact .inr hop
    · exact .inl hm
  | _ => exact .inl hm

/-- The state with a message taken out of flight. -/
def State.received (s : State) (i : Nat) : State :=
  { s with inflight := s.inflight.eraseIdx i }

theorem envStep_deliver {i : Nat} {f : ChallengeDO.Faults} {g : NonceDO.Faults}
    {h : IdempotencyDO.Faults} {m : Message} (hm : s.inflight[i]? = some m) :
    envStep app s (.deliver i f g h) = State.deliver app (s.received i) f g h m := by
  simp only [envStep, hm]
  rfl

theorem envStep_deliver_none {i : Nat} {f : ChallengeDO.Faults} {g : NonceDO.Faults}
    {h : IdempotencyDO.Faults} (hm : s.inflight[i]? = none) :
    envStep app s (.deliver i f g h) = s := by
  simp only [envStep, hm]

/-- The states a step of the environment can lead to. -/
inductive EnvStep (app : AppState) (s : State) : State → Prop
  | same : EnvStep app s s
  | tick {seconds : Nat} : EnvStep app s { s with clock := s.clock + seconds }
  | nonceAlarm {shard : Nat} : EnvStep app s (s.nonceAlarm shard)
  | challenge {i : Nat} {id : Uuid} {req : ChallengeDO.Request} {f : ChallengeDO.Faults}
      (hm : .challenge id req ∈ s.inflight) :
      EnvStep app s ((s.received i).serveChallenge f id req).2
  | nonce {i : Nat} {tag : String} {body : Body Nat} {f : NonceDO.Faults}
      (hm : .nonce tag body ∈ s.inflight) :
      EnvStep app s ((s.received i).serveNonce app f tag body).2
  | idempotency {i shard : Nat} {path : String} {method : IdempotencyDO.Method}
      {f : IdempotencyDO.Faults} :
      EnvStep app s ((s.received i).serveIdempotency f shard path method).2
  | credits {i : Nat} {req : ConsumeCreditsRequest} (hm : .credits req ∈ s.inflight) :
      EnvStep app s ((s.received i).deduct req).2

/-- **Inversion of a step of the environment.** -/
theorem envStep_envStep (e : Env) : EnvStep app s (envStep app s e) := by
  cases e with
  | tick seconds => exact .tick
  | nonceAlarm shard => exact .nonceAlarm
  | deliver i f g h =>
    simp only [envStep]
    cases hm : s.inflight[i]? with
    | none => exact .same
    | some m =>
      have hmem := List.mem_of_getElem? hm
      cases m with
      | challenge id req => exact .challenge hmem
      | nonce tag body => exact .nonce hmem
      | idempotency shard path method => exact .idempotency
      | credits req => exact .credits hmem

theorem EnvStep.clock_le (h : EnvStep app s t) : s.clock ≤ t.clock := by
  cases h with
  | tick => exact Nat.le_add_right _ _
  | credits => rw [deduct_eq]; exact Nat.le_refl _
  | _ => exact Nat.le_refl _

theorem EnvStep.sessions (h : EnvStep app s t) : t.sessions = s.sessions := by
  cases h with
  | credits => rw [deduct_eq]; rfl
  | _ => rfl

/-- No id is drawn without a request. -/
theorem EnvStep.drawn (h : EnvStep app s t) : t.drawn = s.drawn := by
  cases h with
  | credits => rw [deduct_eq]; rfl
  | _ => rfl

/-- No message appears from outside. -/
theorem EnvStep.inflight (h : EnvStep app s t) {m : Message} (hm : m ∈ t.inflight) :
    m ∈ s.inflight := by
  cases h with
  | credits => rw [deduct_eq] at hm; exact List.mem_of_mem_eraseIdx hm
  | same => exact hm
  | tick => exact hm
  | nonceAlarm => exact hm
  | _ => exact List.mem_of_mem_eraseIdx hm

/-! ## What every run assumes -/

/-- The last second a JavaScript `Date` can hold. -/
def maxDate : Nat := 8640000000000

/-- `Uuid::new_v4` returns no id twice. -/
def freshIds (s : State) : (op : Op) → Choice op → Prop
  | .newUuid, (id : Uuid) => id ∉ s.drawn
  | _, _ => True

/-- The clock stays within the range of a `Date`. -/
def dateRange (s : State) : Env → Prop
  | .tick seconds => s.clock + seconds ≤ maxDate
  | _ => True

instance instDecidableFreshIds (s : State) (op : Op) (c : Choice op) :
    Decidable (freshIds s op c) := by
  revert c
  apply Op.casesOn (motive := fun op => ∀ c, Decidable (freshIds s op c)) op
  case newUuid => exact fun c => inferInstanceAs (Decidable ((c : Uuid) ∉ s.drawn))
  all_goals intros; exact .isTrue trivial

instance instDecidableDateRange (s : State) : (e : Env) → Decidable (dateRange s e)
  | .tick seconds => inferInstanceAs (Decidable (s.clock + seconds ≤ maxDate))
  | .nonceAlarm _ => .isTrue trivial
  | .deliver _ _ _ _ => .isTrue trivial

/-- Nothing goes wrong: stores answer their content and serve every request, the issuer is
registered, nobody is banned or over quota, and the credit service settles. -/
def healthy : (op : Op) → Choice op
  | .timestamp => ()
  | .newUuid => (0 : Uuid)
  | .secureRandom n => ⟨List.replicate n 0, List.length_replicate⟩
  | .budgetLeft => true
  | .challengeDO _ _ => .served .none true
  | .nonceDO _ _ => .served .none true
  | .idempotencyDO _ _ _ => .served .none true
  | .isBanned _ => Except.ok false
  | .getCachedPolicy _ => none
  | .getPolicyDetail _ => none
  | .configGet _ => none
  | .configPut _ _ _ => (true, true)
  | .accountQuota _ _ => Except.ok ()
  | .peekIssuer _ => some ⟨"issuer", false⟩
  | .lookupIssuer _ => Except.ok ⟨"issuer", false⟩
  | .originIndexGet _ => none
  | .credits _ _ => .settled (some (.json 200))
  | .getSession _ => none
  | .putSession _ _ => true
  | .challengeToSession _ => (none : Option String)
  | .apiKeyCacheGet _ _ => true
  | .apiKeyCachePut _ _ _ => ()

end ProviiVerifier

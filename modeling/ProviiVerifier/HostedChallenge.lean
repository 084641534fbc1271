/-
  `handle_hosted_challenge` of `hosted/endpoints/challenge.rs`, with the types of its request and
  response and the key checks of `hosted/keys.rs`.

  The handler shares the stores of the expert routes and has operations of its own. The record and
  the short code, and the session and the mapping, which the source writes together, are written
  one after the other. Audit, analytics, timing, the WebSocket ticket, the failure mode that is
  passed on from the policy, and the fields of a session that no modelled handler reads are left
  out. The 503 of the rate limiter, which has its own body, is a `ServiceUnavailable`. The random
  generators do not fail.

  Proved: whatever the answers are, the handler creates only records of the request's origin, for
  the first key of the stored policy or of the sandbox default (`guarded_handleHostedChallenge`).
-/
import ProviiVerifier.CreatedPolicies
import ProviiVerifier.OriginPatterns
import ProviiVerifier.HostedCounter

namespace ProviiVerifier

open Interleaving Prog

/-- `PublicKeyData`: the fields the handler reads. -/
structure PublicKeyData where
  allowedOrigins : List String
  enabled : Bool
  deriving DecidableEq

/-- `POST /v1/hosted/challenge`: the fields of the body that are checked or used, an absent one
being empty or its default, and the headers. -/
structure HostedChallengeRequest where
  headers : Headers
  publicKey : String
  origin : String
  codeChallenge : String
  codeChallengeMethod : String
  environment : String

/-- The response. -/
structure HostedChallengeResponse where
  sessionId : String
  challengeId : String
  qrCodeUrl : String
  challengeCode : String
  shortCode : String
  shortCodeFormatted : String
  expiresAt : Nat
  status : String
  rpChallenge : String
  submitSecret : String
  cutoffDays : Int
  verifyingKeyId : Nat
  statusUrl : String
  verifyUrl : String
  proofDirection : String
  deriving DecidableEq

/-- What a hosted deployment fixes besides, and the code outside the repository. -/
structure HostedConfig where
  app : AppState
  /-- `HOSTED_PUBLIC_KEYS` is bound. -/
  publicKeysBinding : Bool
  /-- `KV_RATE_LIMITS` is bound. -/
  rateLimitsBinding : Bool
  parseUrl : OriginPatterns.Parser
  /-- The length that the derived validation measures a field by. -/
  graphemes : String → Nat
  /-- The text of a failed derived validation. -/
  validationText : HostedChallengeRequest → String
  decodeBase64Url : String → Option Bytes
  /-- `SESSION_TTL_SEC`. -/
  sessionTtl : Nat
  /-- `DEFAULT_QUOTA_PER_HOUR`. -/
  defaultQuota : Nat
  hostedBaseUrl : String

/-! ## Operations -/

/-- The operations the handler awaits: those of the expert routes, and its own. -/
inductive HostedOp
  | service (op : Op)
  /-- `KeyManager::get_key`; every failure is answered alike. -/
  | getKey (publicKey : String)
  /-- `check_quota`. -/
  | checkQuota (publicKey endpoint : String) (defaultLimit : Nat)
  /-- `OriginPolicyStore::get_policy`. -/
  | getPolicy (origin : String)
  /-- `store_nonce_do`. -/
  | storeNonce (nonce : String) (ttl : Nat)
  /-- `store_session_kv`. -/
  | storeSession (session : HostedSession) (ttl : Nat)
  /-- `store_challenge_mapping_kv`. -/
  | storeMapping (challengeId sessionId : String) (ttl : Nat)

/-- What each operation answers; `none` and `false` are failures. -/
abbrev HostedRes : HostedOp → Type
  | .service op => Res op
  | .getKey _ => Option PublicKeyData
  | .checkQuota _ _ _ => HostedCounter.Verdict
  | .getPolicy _ => Except ApiError (Option OriginPolicy)
  | .storeNonce _ _ => Option Bool
  | .storeSession _ _ => Bool
  | .storeMapping _ _ _ => Bool

/-- A hosted handler. -/
abbrev HostedHandler (α : Type) := Prog HostedOp HostedRes ApiError α

/-- Await an operation. -/
def ask (op : HostedOp) : HostedHandler (HostedRes op) := Prog.perform op

theorem guarded_ask_bind {β : Type} {op : HostedOp} {f : HostedRes op → HostedHandler β}
    {G : History HostedOp HostedRes → HostedOp → Prop}
    {Q : History HostedOp HostedRes → Except ApiError β → Prop}
    {h : History HostedOp HostedRes} :
    Guarded G Q h (ask op >>= f) ↔ G h op ∧ ∀ r, Guarded G Q (⟨op, r⟩ :: h) (f r) := Iff.rfl

/-- A part of a handler that uses the stores of the expert routes. -/
def onService {α : Type} : Handler α → HostedHandler α
  | .ret a => .ret a
  | .fail e => .fail e
  | .call op k => .call (.service op) fun r => onService (k r)

namespace HostedChallenge

/-! ## The request -/

/-- `MAX_ORIGIN_LENGTH`. -/
def maxOriginLength : Nat := 2048

/-- `ChallengeRequest::validate`. -/
def validate (cfg : HostedConfig) (req : HostedChallengeRequest) : Except ApiError Unit :=
  if cfg.graphemes req.publicKey ≤ 128 ∧ cfg.graphemes req.origin ≤ 256 ∧
      cfg.graphemes req.codeChallenge ≤ 128 ∧ req.codeChallengeMethod = "S256" ∧
      (req.environment = "production" ∨ req.environment = "sandbox") then .ok ()
  else
    .error (.badRequestWith "BODY_SCHEMA_INVALID" (some "body")
      ("Request validation failed: " ++ cfg.validationText req))

/-- A field of the body, or else a header; neither may be empty. -/
def fieldOrHeader (headers : Headers) (field header name missing : String) :
    Except ApiError String :=
  if field.toList ≠ [] then .ok field
  else
    match headers header with
    | some value =>
      if value.toList ≠ [] then .ok value
      else .error (.badRequestWith "BODY_SCHEMA_INVALID" (some name) missing)
    | none => .error (.badRequestWith "BODY_SCHEMA_INVALID" (some name) missing)

/-- The public key of a request. -/
def publicKeyOf (req : HostedChallengeRequest) : Except ApiError String :=
  fieldOrHeader req.headers req.publicKey "X-Public-Key" "public_key"
    "public key is required (set the `public_key` body field or the `X-Public-Key` header)"

/-- The origin of a request. -/
def originOf (req : HostedChallengeRequest) : Except ApiError String :=
  fieldOrHeader req.headers req.origin "Origin" "origin"
    "origin is required (set the `origin` body field or the `Origin` header)"

def checkOriginLength (origin : String) : Except ApiError Unit :=
  if byteLen origin > maxOriginLength then
    .error (.badRequestWith "BODY_SCHEMA_INVALID" (some "origin")
      "origin exceeds the maximum allowed length (2048 bytes)")
  else .ok ()

/-- `validate_key_format`. -/
def validateKeyFormat (key : String) : Bool :=
  if startsWith key "pk_live_" = false ∧ startsWith key "pk_test_" = false then false
  else
    let hexPart := key.toList.drop 8
    byteLen (String.ofList hexPart) = 64 && hexPart.all isAsciiHexdigit

def checkKeyFormat (key : String) : Except ApiError Unit :=
  if validateKeyFormat key then .ok ()
  else
    .error (.badRequestWith "BODY_SCHEMA_INVALID" (some "public_key")
      "public_key is not a valid public-key identifier")

/-! ## Key, quota and policy -/

/-- The data of an enabled key. -/
def authenticateKey (cfg : HostedConfig) (publicKey : String) : HostedHandler PublicKeyData := do
  if cfg.publicKeysBinding = false then .fail (.serviceUnavailable none)
  else
    match ← ask (.getKey publicKey) with
    | none => .fail .unauthorized
    | some keyData => if keyData.enabled then return keyData else .fail .unauthorized

/-- A test key in the sandbox, for which origins are not enforced. -/
def isSandboxTestKey (cfg : HostedConfig) (publicKey : String) : Bool :=
  cfg.app.environment = "sandbox" && startsWith publicKey "pk_test_"

/-- The origins of the key. -/
def checkOrigin (cfg : HostedConfig) (publicKey : String) (keyData : PublicKeyData)
    (origin : String) : Except ApiError Unit :=
  if isSandboxTestKey cfg publicKey then .ok ()
  else if keyData.allowedOrigins.any fun allowed =>
      OriginPatterns.originMatchesPattern cfg.parseUrl allowed origin then .ok ()
  else .error (.forbidden (some "Origin not allowed for this key"))

/-- The hourly quota of the key. -/
def enforceQuota (cfg : HostedConfig) (publicKey : String) : HostedHandler Unit := do
  if cfg.rateLimitsBinding = false then .fail (.serviceUnavailable none)
  else
    let result ← ask (.checkQuota publicKey "challenge" cfg.defaultQuota)
    if result.kvUnavailable then .fail (.serviceUnavailable none)
    else if result.allowed = false then .fail (.tooManyRequests (some "Rate limit exceeded"))
    else return ()

/-- `VK_ID`. -/
def vkId : Nat := 914153247

/-- The policy of an origin without one, for a test key in the sandbox. -/
def sandboxDefaultPolicy : OriginPolicy :=
  { tenantId := "sandbox_default"
    minAgeYears := 18
    maxAgeYears := none
    proofDirection := none
    allowedVkIds := [vkId]
    allowedIssuers := []
    maxTtlSec := 300
    enabled := true
    clients := [] }

/-- The policy a request is judged by. -/
def resolvePolicy (cfg : HostedConfig) (publicKey origin : String) :
    HostedHandler OriginPolicy := do
  match ← ask (.getPolicy origin) with
  | .ok (some policy) => return policy
  | .ok none =>
    if isSandboxTestKey cfg publicKey then return sandboxDefaultPolicy
    else .fail (.forbidden (some "Origin not approved"))
  | .error e => .fail e.wrap

/-! ## The record -/

/-- The cutoff for an age threshold, with the conversions that saturate. -/
def cutoffDays (now ageYears : Nat) : Except ApiError CutoffDays :=
  let todayEpochDays : Nat := min (now / secondsPerDay) (2 ^ 32 - 1)
  let ageDays := calculateExactDaysForYears now ageYears
  let today : Nat := min todayEpochDays (2 ^ 31 - 1)
  let cutoffDaysRaw : Int := (today : Int) - (min ageDays (2 ^ 31 - 1) : Nat)
  (CutoffDays.new cutoffDaysRaw).mapError fun _ => .serviceUnavailable none

/-- The first key of a policy. -/
def firstVerifyingKey (policy : OriginPolicy) : Except ApiError VkId :=
  match policy.allowedVkIds.head?.bind VkId.new with
  | some firstVk => .ok firstVk
  | none => .error (.serviceUnavailable none)

/-- The code challenge of a request. -/
def codeChallengeBytes (cfg : HostedConfig) (req : HostedChallengeRequest) :
    Except ApiError Bytes :=
  match (cfg.decodeBase64Url req.codeChallenge).filter fun decoded => decoded.length = 32 with
  | some decoded => .ok decoded
  | none =>
    .error (.badRequestWith "BODY_SCHEMA_INVALID" (some "code_challenge")
      "code_challenge must decode to exactly 32 bytes from base64url (no padding)")

/-- What a policy and the origin index determine of a challenge. -/
structure Terms where
  direction : ProofDirection
  verifyingKeyId : VkId
  cutoffDays : CutoffDays
  tenantId : Option String
  ttl : Nat

/-- The direction, cutoff and key under a policy. -/
def terms (policy : OriginPolicy) (now : Nat) : Except ApiError Terms := do
  let ageYears ← policy.ageThreshold.mapError fun _ => .serviceUnavailable none
  let cutoffDays ← cutoffDays now ageYears
  let verifyingKeyId ← firstVerifyingKey policy
  return {
    direction := policy.effectiveProofDirection
    verifyingKeyId := verifyingKeyId
    cutoffDays := cutoffDays
    tenantId := if policy.tenantId.toList = [] then none else some policy.tenantId
    ttl := max CreateChallenge.minChallengeTtl
      (min CreateChallenge.maxChallengeTtl policy.maxTtlSec) }

/-- The record of a new challenge. -/
def newRecord (cfg : HostedConfig) (req : HostedChallengeRequest) (origin : String)
    (originIndexJson : Option String) (terms : Terms) (id : Uuid)
    (nonce submitSecret : FixedBytes 32) (codeChallengeBytes : Bytes) (now : Nat) :
    CachedChallenge :=
  { id := id
    shortCode := generateShortCodeFromUuid id
    rpChallenge := (cfg.app.rpChallenge origin nonce.val).val
    cutoffDays := terms.cutoffDays.val
    verifyingKeyId := terms.verifyingKeyId.val
    codeChallenge := req.codeChallenge
    codeChallengeBytes := codeChallengeBytes
    submitSecret := submitSecret.val
    origin := origin
    expiresAt := NonceDO.satAdd now terms.ttl
    createdAt := now
    state := .pending
    proofSubmitted := false
    verifiedAt := none
    proofVerifiedAt := none
    issuerKid := none
    issuerVkBytes := none
    clientId := some "provii-verifier"
    tenantId := (originIndexJson.bind cfg.app.oiEntry).join.orElse fun _ => terms.tenantId
    proofDirection := terms.direction }

/-- The session of a new challenge, bound to the client's address and user agent. -/
def newSession (cfg : HostedConfig) (req : HostedChallengeRequest) (sessionId publicKey : String)
    (cached : CachedChallenge) : HostedSession :=
  let clientIp := (req.headers "CF-Connecting-IP").getD "unknown"
  { sessionId := sessionId
    publicKey := publicKey
    origin := cached.origin
    state := .pending
    verifierChallengeId := cached.id.toString
    clientIpHash := some (cfg.app.hashWithSalt clientIp cfg.app.ipHashSalt "provii-ip-v0")
    userAgent := (req.headers "User-Agent").map fun ua =>
      cfg.app.hashWithSalt ua cfg.app.ipHashSalt "provii-ua-v0"
    bindingMode := .relaxed
    statusCheckCount := 0
    redeemAttemptCount := 0 }

/-- `format_short_code`. -/
def formatShortCode (shortCode : String) : String :=
  let clean := shortCode.toList.filter isAsciiDigit
  if clean.length = 12 then
    String.ofList (clean.take 4 ++ ['-'] ++ (clean.drop 4).take 4 ++ ['-'] ++
      (clean.drop 8).take 4)
  else String.ofList clean

/-- The response to a new challenge. -/
def newResponse (cfg : HostedConfig) (sessionId : String) (cached : CachedChallenge) :
    HostedChallengeResponse :=
  { sessionId := sessionId
    challengeId := cached.id.toString
    qrCodeUrl := cfg.hostedBaseUrl ++ "/challenge/" ++ cached.id.toString
    challengeCode := formatShortCode cached.shortCode
    shortCode := cached.shortCode
    shortCodeFormatted := shortCodeFormatted cached.shortCode
    expiresAt := cached.expiresAt
    status := "pending"
    rpChallenge := cfg.app.base64Url cached.rpChallenge
    submitSecret := cfg.app.base64Url cached.submitSecret
    cutoffDays := cached.cutoffDays
    verifyingKeyId := cached.verifyingKeyId
    statusUrl := cfg.hostedBaseUrl ++ "/v1/hosted/status/" ++ sessionId
    verifyUrl := cfg.hostedBaseUrl ++ "/v1/challenge/" ++ cached.id.toString ++ "/submit"
    proofDirection := cached.proofDirection.asStr }

/-! ## The handler -/

/-- The nonce gate. -/
def consumeNonce (cfg : HostedConfig) (nonce : FixedBytes 32) : HostedHandler Unit := do
  match ← ask (.storeNonce (cfg.app.base64Url nonce.val) nonceDedupTtl) with
  | none => .fail (.serviceUnavailable none)
  | some false => .fail (.conflict (some "Nonce already used (replay attack detected)"))
  | some true => return ()

/-- The writes: the record, the short code, the session and the mapping; only the last may fail. -/
def store (cfg : HostedConfig) (req : HostedChallengeRequest) (publicKey sessionId : String)
    (ttl : Nat) (cached : CachedChallenge) : HostedHandler HostedChallengeResponse := do
  if cfg.app.configBinding = false then .fail (.serviceUnavailable none)
  else
    match ← attempt (onService (ChallengeStore.put cfg.app cached.id cached)) with
    | .error _ => .fail (.internal "Service unavailable")
    | .ok () =>
      if ← ask (.service
          (.configPut (CreateChallenge.codeKey cached.shortCode) cached.id.toString ttl)) then
        let session := newSession cfg req sessionId publicKey cached
        let sessionStored ← ask (.storeSession session cfg.sessionTtl)
        let _ ← ask (.storeMapping cached.id.toString sessionId cfg.sessionTtl)
        if sessionStored then return newResponse cfg sessionId cached
        else .fail (.internal "Service unavailable")
      else .fail (.internal "Service unavailable")

/-- The part of the handler from the generation of the challenge on. -/
def publish (cfg : HostedConfig) (req : HostedChallengeRequest) (publicKey origin : String)
    (originIndexJson : Option String) (terms : Terms) :
    HostedHandler HostedChallengeResponse := do
  let id ← ask (.service .newUuid)
  let nonce ← ask (.service (.secureRandom 32))
  let submitSecret ← ask (.service (.secureRandom 32))
  let now ← ask (.service .timestamp)
  let sessionId ← ask (.service .newUuid)
  consumeNonce cfg nonce
  let codeChallengeBytes ← ofExcept (codeChallengeBytes cfg req)
  let cached := newRecord cfg req origin originIndexJson terms id nonce submitSecret
    codeChallengeBytes now
  store cfg req publicKey sessionId.toString terms.ttl cached

/-- `handle_hosted_challenge`. -/
def handleHostedChallenge (cfg : HostedConfig) (req : HostedChallengeRequest) :
    HostedHandler HostedChallengeResponse := do
  ofExcept (validate cfg req)
  let publicKey ← ofExcept (publicKeyOf req)
  let origin ← ofExcept (originOf req)
  ofExcept (checkOriginLength origin)
  ofExcept (checkKeyFormat publicKey)
  let keyData ← authenticateKey cfg publicKey
  ofExcept (checkOrigin cfg publicKey keyData origin)
  enforceQuota cfg publicKey
  let policy ← resolvePolicy cfg publicKey origin
  let now ← ask (.service .timestamp)
  let terms ← ofExcept (terms policy now)
  let originIndexJson := CreateChallenge.originIndexJson
    (← ask (.service (.originIndexGet origin)))
  ofExcept (CreateChallenge.checkCredits cfg.app originIndexJson)
  publish cfg req publicKey origin originIndexJson terms

/-! ## The record of a creation -/

section Spec

variable {cfg : HostedConfig} {req : HostedChallengeRequest} {h h' : History HostedOp HostedRes}
  {publicKey origin : String} {policy : OriginPolicy}

/-- Where the policy of a creation came from. -/
inductive Resolved (cfg : HostedConfig) (publicKey origin : String)
    (h : History HostedOp HostedRes) : OriginPolicy → Prop
  | stored {policy : OriginPolicy} (hread : ⟨.getPolicy origin, .ok (some policy)⟩ ∈ h) :
      Resolved cfg publicKey origin h policy
  | sandbox (hkey : isSandboxTestKey cfg publicKey = true)
      (hread : ⟨.getPolicy origin, .ok none⟩ ∈ h) :
      Resolved cfg publicKey origin h sandboxDefaultPolicy

theorem Resolved.mono (hs : h <:+ h') (hr : Resolved cfg publicKey origin h policy) :
    Resolved cfg publicKey origin h' policy := by
  cases hr with
  | stored hread => exact .stored (hs.subset hread)
  | sandbox hkey hread => exact .sandbox hkey (hs.subset hread)

/-- What the record of a creation says. -/
structure Records (cfg : HostedConfig) (req : HostedChallengeRequest)
    (h : History HostedOp HostedRes) (c : CachedChallenge) : Prop where
  origin : originOf req = .ok c.origin
  policy : ∃ publicKey policy vk, publicKeyOf req = .ok publicKey ∧
    Resolved cfg publicKey c.origin h policy ∧ firstVerifyingKey policy = .ok vk ∧
    c.verifyingKeyId = vk.val

theorem Records.mono {c : CachedChallenge} (hs : h <:+ h') (hr : Records cfg req h c) :
    Records cfg req h' c := by
  obtain ⟨publicKey, policy, vk, hkey, hresolved, hselect, hvk⟩ := hr.policy
  exact ⟨hr.origin, publicKey, policy, vk, hkey, hresolved.mono hs, hselect, hvk⟩

/-- How a hosted creation makes its record: under a policy that was resolved and the entry of
`ORIGIN_INDEX` that was read. -/
structure Made (cfg : HostedConfig) (req : HostedChallengeRequest)
    (h : History HostedOp HostedRes) (c : CachedChallenge) : Prop where
  origin : originOf req = .ok c.origin
  terms : ∃ publicKey policy entry readAt t, publicKeyOf req = .ok publicKey ∧
    Resolved cfg publicKey c.origin h policy ∧ ⟨.service (.originIndexGet c.origin), entry⟩ ∈ h ∧
    terms policy readAt = .ok t ∧
    ∃ id nonce submitSecret bytes now, c = newRecord cfg req c.origin
      (CreateChallenge.originIndexJson entry) t id nonce submitSecret bytes now

theorem Made.mono {c : CachedChallenge} (hs : h <:+ h') (hm : Made cfg req h c) :
    Made cfg req h' c := by
  obtain ⟨publicKey, policy, entry, readAt, t, hkey, hresolved, hentry, hmade⟩ := hm.terms
  exact ⟨hm.origin, publicKey, policy, entry, readAt, t, hkey, hresolved.mono hs,
    hs.subset hentry, hmade⟩

/-- The record that an operation asks an object to create. -/
def createdBy : HostedOp → Option CachedChallenge
  | .service op => CreateChallenge.createdBy op
  | _ => none

/-- The operation creates only a record as said. -/
def CreatesOnly (P : CachedChallenge → Prop) (op : HostedOp) : Prop :=
  ∀ c, createdBy op = some c → P c

/-- The operation creates no record. -/
def IsOther (op : HostedOp) : Prop := createdBy op = none

theorem createsOnly_other {P : CachedChallenge → Prop} {op : HostedOp} (hop : IsOther op) :
    CreatesOnly P op := by
  intro c hc
  rw [show createdBy op = none from hop] at hc
  cases hc

theorem only_onService {α : Type} {p : Handler α} {P : Op → Prop} (hp : p.Only P) :
    (onService p).Only fun op => ∃ o, op = .service o ∧ P o := by
  induction p with
  | ret a => trivial
  | fail e => trivial
  | call op k ih => exact ⟨⟨op, rfl, hp.1⟩, fun r => ih r (hp.2 r)⟩

/-- The policy that a request is judged by. -/
theorem guarded_resolvePolicy : Guarded (fun _ op => IsOther op)
    (fun h' r => ∀ policy, r = .ok policy → Resolved cfg publicKey origin h' policy) h
    (resolvePolicy cfg publicKey origin) := by
  unfold resolvePolicy
  refine guarded_ask_bind.mpr ⟨rfl, fun answer => ?_⟩
  cases answer with
  | error e => exact nofun
  | ok found =>
    cases found with
    | some policy =>
      intro p hp
      injection hp with hp
      rw [← hp]
      exact .stored List.mem_cons_self
    | none =>
      dsimp only
      split
      · next hkey =>
        intro p hp
        injection hp with hp
        rw [← hp]
        exact .sandbox hkey List.mem_cons_self
      · exact nofun

theorem only_authenticateKey : (authenticateKey cfg publicKey).Only IsOther := by
  unfold authenticateKey
  split
  · trivial
  · refine ⟨rfl, fun answer => ?_⟩
    cases answer with
    | none => trivial
    | some keyData =>
      show Only _ (if keyData.enabled = true then _ else _)
      split
      · trivial
      · trivial

theorem only_enforceQuota : (enforceQuota cfg publicKey).Only IsOther := by
  unfold enforceQuota
  split
  · trivial
  · refine ⟨rfl, fun result => ?_⟩
    show Only _ (if result.kvUnavailable = true then _ else _)
    split
    · trivial
    · split
      · trivial
      · trivial

theorem only_consumeNonce {nonce : FixedBytes 32} : (consumeNonce cfg nonce).Only IsOther := by
  refine ⟨rfl, fun answer => ?_⟩
  obtain _ | _ | _ := answer
  · trivial
  · trivial
  · trivial

/-- The writes create the record they are given. -/
theorem guarded_store {sessionId : String} {ttl : Nat} {c : CachedChallenge}
    {P : CachedChallenge → Prop} (hc : P c) :
    Guarded (fun _ op => CreatesOnly P op) (fun _ _ => True) h
      (store cfg req publicKey sessionId ttl c) := by
  unfold store
  split
  · trivial
  · have hput : (onService (ChallengeStore.put cfg.app c.id c)).Only fun op =>
        ∃ o, op = .service o ∧ ChallengeStore.PutOp cfg.app c.id c o :=
      only_onService (ChallengeStore.guarded_put (h := [])).only
    refine hput.attempt.seq ?_ ?_ fun _ _ => trivial
    · rintro h' op - ⟨o, rfl, ho⟩
      exact CreateChallenge.createsOnly_put ho hc
    · intro h' r _
      cases r with
      | error e => trivial
      | ok _ =>
        refine guarded_ask_bind.mpr ⟨createsOnly_other rfl, fun stored => ?_⟩
        split
        · refine guarded_ask_bind.mpr ⟨createsOnly_other rfl, fun sessionStored => ?_⟩
          refine guarded_ask_bind.mpr ⟨createsOnly_other rfl, fun _ => ?_⟩
          split
          · trivial
          · trivial
        · trivial

theorem guarded_publish {originIndexJson : Option String} {t : Terms}
    {P : CachedChallenge → Prop}
    (hP : ∀ id nonce submitSecret bytes now,
      P (newRecord cfg req origin originIndexJson t id nonce submitSecret bytes now)) :
    Guarded (fun _ op => CreatesOnly P op) (fun _ _ => True) h
      (publish cfg req publicKey origin originIndexJson t) := by
  refine guarded_ask_bind.mpr ⟨createsOnly_other rfl, fun id => ?_⟩
  refine guarded_ask_bind.mpr ⟨createsOnly_other rfl, fun nonce => ?_⟩
  refine guarded_ask_bind.mpr ⟨createsOnly_other rfl, fun submitSecret => ?_⟩
  refine guarded_ask_bind.mpr ⟨createsOnly_other rfl, fun now => ?_⟩
  refine guarded_ask_bind.mpr ⟨createsOnly_other rfl, fun sessionId => ?_⟩
  refine only_consumeNonce.seq (fun _ _ _ => createsOnly_other) ?_ fun _ _ => trivial
  intro h1 _ _
  refine guarded_ofExcept_bind (fun bytes _ => ?_) fun _ _ => trivial
  exact guarded_store (hP _ _ _ _ _)

attribute [irreducible] authenticateKey enforceQuota resolvePolicy publish

theorem terms_ok {now : Nat} {t : Terms} (hok : terms policy now = .ok t) :
    firstVerifyingKey policy = .ok t.verifyingKeyId := by
  unfold terms at hok
  obtain ⟨ageYears, -, hok⟩ := except_bind_ok hok
  obtain ⟨days, -, hok⟩ := except_bind_ok hok
  obtain ⟨vk, hselect, hok⟩ := except_bind_ok hok
  injection hok with hok
  rw [← hok]
  exact hselect

/-- **How every record of a hosted creation is made.** -/
theorem guarded_handleHostedChallenge_made (cfg : HostedConfig) (req : HostedChallengeRequest) :
    (handleHostedChallenge cfg req).Guarded (fun h op => CreatesOnly (Made cfg req h) op)
      (fun _ _ => True) [] := by
  unfold handleHostedChallenge
  refine guarded_ofExcept_bind (fun _ _ => ?_) fun _ _ => trivial
  refine guarded_ofExcept_bind (fun publicKey hkey => ?_) fun _ _ => trivial
  refine guarded_ofExcept_bind (fun origin horigin => ?_) fun _ _ => trivial
  refine guarded_ofExcept_bind (fun _ _ => ?_) fun _ _ => trivial
  refine guarded_ofExcept_bind (fun _ _ => ?_) fun _ _ => trivial
  refine only_authenticateKey.seq (fun _ _ _ => createsOnly_other) ?_ fun _ _ => trivial
  intro h1 keyData _
  refine guarded_ofExcept_bind (fun _ _ => ?_) fun _ _ => trivial
  refine only_enforceQuota.seq (fun _ _ _ => createsOnly_other) ?_ fun _ _ => trivial
  intro h2 _ _
  refine guarded_resolvePolicy.seq (fun _ _ _ => createsOnly_other) ?_ fun _ _ _ _ => trivial
  intro h3 policy _ hresolved
  refine guarded_ask_bind.mpr ⟨createsOnly_other rfl, fun now => ?_⟩
  refine guarded_ofExcept_bind (fun t ht => ?_) fun _ _ => trivial
  refine guarded_ask_bind.mpr ⟨createsOnly_other rfl, fun entry => ?_⟩
  refine guarded_ofExcept_bind (fun _ _ => ?_) fun _ _ => trivial
  have hmade : ∀ id nonce submitSecret bytes now', Made cfg req
      (⟨.service (.originIndexGet origin), entry⟩ :: ⟨.service .timestamp, now⟩ :: h3)
      (newRecord cfg req origin (CreateChallenge.originIndexJson entry) t id nonce submitSecret
        bytes now') := by
    intro id nonce submitSecret bytes now'
    have hs : h3 <:+ (⟨.service (.originIndexGet origin), entry⟩ :: ⟨.service .timestamp, now⟩ ::
        h3 : History HostedOp HostedRes) := ⟨[_, _], rfl⟩
    exact ⟨horigin, publicKey, policy, entry, now, t, hkey, (hresolved policy rfl).mono hs,
      List.mem_cons_self, ht, id, nonce, submitSecret, bytes, now', rfl⟩
  refine (guarded_publish hmade).suffix.imp ?_ fun _ _ _ => trivial
  rintro h' op ⟨hs', hcreates⟩ c hc
  exact (hcreates c hc).mono hs'

theorem Made.records {c : CachedChallenge} (hm : Made cfg req h c) : Records cfg req h c := by
  obtain ⟨publicKey, policy, entry, readAt, t, hkey, hresolved, -, ht, id, nonce, submitSecret,
    bytes, now, hc⟩ := hm.terms
  refine ⟨hm.origin, publicKey, policy, t.verifyingKeyId, hkey, hresolved, terms_ok ht, ?_⟩
  rw [hc]
  rfl

/-- **Every record a hosted creation creates** is for the request's origin, and for the first key
of the policy the request was judged by. -/
theorem guarded_handleHostedChallenge (cfg : HostedConfig) (req : HostedChallengeRequest) :
    (handleHostedChallenge cfg req).Guarded (fun h op => CreatesOnly (Records cfg req h) op)
      (fun _ _ => True) [] :=
  (guarded_handleHostedChallenge_made cfg req).imp
    (fun _ _ hcreates c hc => (hcreates c hc).records) fun _ _ _ => trivial

end Spec

end HostedChallenge

end ProviiVerifier

/-
  `create_challenge` of `routes/challenge.rs`, with the types of `types/strict.rs` its request
  and responses are made of.

  The policy and the `KV_CONFIG` namespace, which the source awaits together, are taken one after
  the other. Audit, analytics, timing and the `x-secret-version` header are left out. The random
  generators do not fail.

  Proved: whatever the answers are, the handler writes one record only: a `Pending` one of fresh
  fields under an id it drew, for a client whose signed request was authenticated; a new response
  shows this record, which its object took (`guarded_createChallenge`).
-/
import ProviiVerifier.Redeem
import ProviiVerifier.Auth
import ProviiVerifier.Calendar

namespace ProviiVerifier

open Interleaving Prog

/-! ## The request and the response -/

/-- `VkId`. -/
abbrev VkId := { id : Nat // 0 < id ∧ id < 2 ^ 32 }

/-- `VkId::new`. -/
def VkId.new (v : Nat) : Option VkId :=
  if h : 0 < v ∧ v < 2 ^ 32 then some ⟨v, h⟩ else none

/-- `CutoffDays`. -/
abbrev CutoffDays := { days : Int // -25000 ≤ days ∧ days ≤ 54750 }

/-- `CutoffDays::new`. -/
def CutoffDays.new (v : Int) : Except String CutoffDays :=
  if h : -25000 ≤ v ∧ v ≤ 54750 then .ok ⟨v, h⟩
  else .error s!"cutoff_days {v} out of range [-25000, 54750]"

/-- `ExpiresIn`. -/
abbrev ExpiresIn := { secs : Nat // 60 ≤ secs ∧ secs ≤ 300 }

/-- `CreateChallengeRequest` with the headers it comes with; the method is always `S256`. -/
structure CreateChallengeRequest where
  headers : Headers
  codeChallenge : FixedBytes 32
  verifyingKeyId : Option VkId
  expiresIn : ExpiresIn
  authorizer : Authorizer

/-- `ChallengeResponse`. -/
structure ChallengeResponse where
  challengeId : Uuid
  shortCode : String
  shortCodeFormatted : String
  rpChallenge : FixedBytes 32
  cutoffDays : CutoffDays
  verifyingKeyId : VkId
  submitSecret : FixedBytes 32
  expiresAt : Nat
  proofDirection : String
  statusUrl : String
  verifyUrl : String
  deriving DecidableEq

/-- `ProofDirection::as_str`. -/
def ProofDirection.asStr : ProofDirection → String
  | .overAge => "over_age"
  | .underAge => "under_age"

/-- `ShortCode::new`: a code without its whitespace. -/
def ShortCode.new (s : String) : Except String String :=
  let normalized := String.ofList (s.toList.filter fun c => !isWhitespace c)
  if byteLen normalized ≠ 12 then
    .error s!"short code must be exactly 12 digits, got {byteLen normalized}"
  else if normalized.toList.all isAsciiDigit = false then
    .error "short code must contain only numeric digits (0-9)"
  else .ok normalized

/-- `ShortCode::display_formatted`, or the code as it is when it is none. -/
def shortCodeFormatted (code : String) : String :=
  match ShortCode.new code with
  | .ok digits =>
    let cs := digits.toList
    String.ofList (cs.take 4 ++ [' '] ++ (cs.drop 4).take 4 ++ [' '] ++ (cs.drop 8).take 4)
  | .error _ => code

/-- `str::trim_end_matches('/')`. -/
def trimEndSlashes (s : String) : String :=
  String.ofList (s.toList.reverse.dropWhile (· = '/')).reverse

/-- `build_v1_base`. -/
def buildV1Base (apiBaseUrl : String) : String :=
  let trimmed := trimEndSlashes apiBaseUrl
  if "/v1".toList.isSuffixOf trimmed.toList then trimmed else trimmed ++ "/v1"

/-- The URL to poll a challenge at. -/
def statusUrl (app : AppState) (id : Uuid) : String :=
  buildV1Base app.apiBaseUrl ++ "/challenge/" ++ id.toString

/-- The URL to submit a proof to. -/
def verifyUrl (app : AppState) : String := buildV1Base app.apiBaseUrl ++ "/verify"

/-- The JSON of a `ChallengeResponse`. -/
def ChallengeResponse.toJson (app : AppState) (r : ChallengeResponse) : String :=
  "\x7b\"challenge_id\":\"" ++ r.challengeId.toString ++ "\",\"short_code\":\"" ++ r.shortCode ++
    "\",\"short_code_formatted\":\"" ++ r.shortCodeFormatted ++ "\",\"rp_challenge\":\"" ++
    app.base64Url r.rpChallenge.val ++ "\",\"cutoff_days\":" ++ toString r.cutoffDays.val ++
    ",\"verifying_key_id\":" ++ toString r.verifyingKeyId.val ++ ",\"submit_secret\":\"" ++
    app.base64Url r.submitSecret.val ++ "\",\"expires_at\":" ++ toString r.expiresAt ++
    ",\"proof_direction\":\"" ++ r.proofDirection ++ "\",\"status_url\":" ++
    app.jsonString r.statusUrl ++ ",\"verify_url\":" ++ app.jsonString r.verifyUrl ++ "\x7d"

namespace CreateChallenge

/-! ## Origin and policy -/

/-- The origin of the request, which every later phase needs. -/
def requireOrigin (headers : Headers) : Except ApiError String :=
  match headers "Origin" with
  | some origin =>
    if origin.toList = [] then
      .error (.badRequestWith "ORIGIN_MISSING" (some "Origin")
        "Origin header is required (set it to the registered relying-party origin, e.g. https://example.com)")
    else .ok origin
  | none =>
    .error (.badRequestWith "ORIGIN_MISSING" (some "Origin")
      "Origin header is required (set it to the registered relying-party origin, e.g. https://example.com)")

/-- Overlong origins and forbidden schemes. -/
def checkOriginText (origin : String) : Except ApiError Unit :=
  if byteLen origin > 2048 then
    .error (.badRequestWith "ORIGIN_TOO_LONG" (some "Origin") "Origin header exceeds 2048 bytes")
  else if containsSub origin "javascript:".toList || containsSub origin "data:".toList ||
      containsSub origin "vbscript:".toList || containsSub origin "blob:".toList then
    .error (.badRequestWith "ORIGIN_MALICIOUS" (some "Origin")
      "Origin contains a forbidden URI scheme")
  else .ok ()

/-- `should_skip_origin_check_for_rp_sandbox`. -/
def shouldSkipOriginCheckForRpSandbox (environment keyId : String) : Bool :=
  environment = "sandbox" && startsWith keyId "rp_sandbox_"

/-- `apply_sandbox_bypass_overrides`; the billing fields are not modelled. -/
def applySandboxBypassOverrides (policy : OriginPolicy) : OriginPolicy :=
  { policy with tenantId := "sandbox_default", minAgeYears := 18 }

/-- The policy of a registered and enabled origin. -/
def requirePolicy : PolicyLookupResult → Except ApiError OriginPolicy
  | .found policy => .ok policy
  | .disabled =>
    .error (.forbiddenWith "ORIGIN_DISABLED"
      "The policy registered for this Origin has been disabled")
  | .notFound =>
    .error (.forbiddenWith "ORIGIN_NOT_ALLOWED"
      "Origin is not registered with this verifier (register a sandbox origin via /v1/register-test-origin or contact your admin)")

/-- The policy of a sandbox client's registered origin. -/
def registeredPolicy (registeredOrigin : String) : Handler OriginPolicy := do
  match ← ofExcept (← await (.getPolicyDetail registeredOrigin)) with
  | .found policy => return applySandboxBypassOverrides policy
  | .disabled | .notFound =>
    .fail (.forbiddenWith "ORIGIN_NOT_ALLOWED"
      "Sandbox bypass lookup resolved to a registered origin that is no longer enabled")

/-- The policy a request is judged by: that of its origin or, for a sandbox client, that of the
origin registered for the client. -/
def resolvePolicy (app : AppState) (req : CreateChallengeRequest) (origin : String) :
    Handler OriginPolicy := do
  let policyDetailResult ← await (.getPolicyDetail origin)
  if shouldSkipOriginCheckForRpSandbox app.environment req.authorizer.keyId then
    if app.configBinding = false then .fail (.internal "Service unavailable")
    else
      match ← await (.configGet (clientLookupKey req.authorizer.keyId)) with
      | .value registeredOrigin =>
        if registeredOrigin.toList = [] then
          let detail ← ofExcept policyDetailResult
          ofExcept (requirePolicy detail)
        else registeredPolicy registeredOrigin
      | .missing =>
        let detail ← ofExcept policyDetailResult
        ofExcept (requirePolicy detail)
      | .failed | .timedOut | .bindingError => .fail (.internal "Service unavailable")
  else
    let detail ← ofExcept policyDetailResult
    ofExcept (requirePolicy detail)

/-- `create_canonical_message_for_challenge`. -/
def createCanonicalMessageForChallenge (app : AppState) (method path : String) (timestamp : Nat)
    (req : CreateChallengeRequest) : String :=
  let verifyingKeyId := match req.verifyingKeyId with
    | some v => toString v.val
    | none => "null"
  let payload := "\x7b\"code_challenge\":\"" ++ app.base64Url req.codeChallenge.val ++
    "\",\"method\":\"S256\",\"verifying_key_id\":" ++ verifyingKeyId ++ ",\"expires_in\":" ++
    toString req.expiresIn.val ++ "\x7d"
  toString timestamp ++ ":" ++ method ++ ":" ++ path ++ ":" ++ payload ++ ":" ++
    req.authorizer.nonce

/-! ## The record -/

/-- The text of an `ORIGIN_INDEX` entry; any failure shows none. -/
def originIndexJson : KvRead → Option String
  | .value text => some text
  | _ => none

/-- The early credit check. -/
def checkCredits (app : AppState) (originIndexJson : Option String) : Except ApiError Unit :=
  match originIndexJson.bind app.oiCreditCheck with
  | some entry =>
    if entry.meteringEnabled = some true ∧ entry.hasCredits ≠ some true then
      .error (.paymentRequired none)
    else .ok ()
  | none => .ok ()

/-- The verifying key: the requested one, or the policy's first. -/
def selectVerifyingKey (policy : OriginPolicy) : Option VkId → Except ApiError VkId
  | some requestedVk =>
    if policy.allowedVkIds.contains requestedVk.val then .ok requestedVk
    else .error (.badRequest (some "Verifying key not allowed for this origin"))
  | none =>
    match policy.allowedVkIds.head?.bind VkId.new with
    | some firstVk => .ok firstVk
    | none => .error (.internal "Service unavailable")

/-- The cutoff for an age threshold at a reading of the clock. -/
def cutoffDays (now ageYears : Nat) : Except ApiError CutoffDays :=
  let todayEpochDays : Nat := now / secondsPerDay % 2 ^ 32
  let ageDays := calculateExactDaysForYears now ageYears
  if todayEpochDays ≥ 2 ^ 31 then
    .error (.badRequest (some "today_epoch_days out of i32 range"))
  else if ageDays ≥ 2 ^ 31 then .error (.badRequest (some "age_days out of i32 range"))
  else (CutoffDays.new ((todayEpochDays : Int) - ageDays)).mapError fun e => .badRequest (some e)

/-- What the policy determines of a challenge. -/
structure Terms where
  direction : ProofDirection
  verifyingKeyId : VkId
  cutoffDays : CutoffDays
  tenantId : Option String
  ttl : Nat

/-- `MIN_CHALLENGE_TTL`. -/
def minChallengeTtl : Nat := 60

/-- `MAX_CHALLENGE_TTL`. -/
def maxChallengeTtl : Nat := 300

/-- The terms of a request under a policy. -/
def terms (app : AppState) (req : CreateChallengeRequest) (policy : OriginPolicy)
    (originIndexJson : Option String) (now : Nat) : Except ApiError Terms := do
  let ageYears ← policy.ageThreshold.mapError fun msg => .badRequest (some msg)
  let verifyingKeyId ← selectVerifyingKey policy req.verifyingKeyId
  let cutoffDays ← cutoffDays now ageYears
  let organizationId := (originIndexJson.bind app.oiEntry).join
  return {
    direction := policy.effectiveProofDirection
    verifyingKeyId := verifyingKeyId
    cutoffDays := cutoffDays
    tenantId := organizationId.orElse fun _ =>
      if policy.tenantId.toList = [] then none else some policy.tenantId
    ttl := max minChallengeTtl (min maxChallengeTtl (min req.expiresIn.val policy.maxTtlSec)) }

/-- The record of a new challenge. -/
def newRecord (app : AppState) (req : CreateChallengeRequest) (origin : String)
    (client : ClientAuthConfig) (terms : Terms) (id : Uuid) (nonce submitSecret : FixedBytes 32)
    (now : Nat) : CachedChallenge :=
  { id := id
    shortCode := generateShortCodeFromUuid id
    rpChallenge := (app.rpChallenge origin nonce.val).val
    cutoffDays := terms.cutoffDays.val
    verifyingKeyId := terms.verifyingKeyId.val
    codeChallenge := "[REDACTED]"
    codeChallengeBytes := req.codeChallenge.val
    submitSecret := submitSecret.val
    origin := origin
    expiresAt := NonceDO.satAdd now terms.ttl
    createdAt := now
    state := .pending
    proofSubmitted := false
    verifiedAt := none
    proofVerifiedAt := none
    issuerKid := none
    issuerVkBytes := none
    clientId := some client.clientId
    tenantId := terms.tenantId
    proofDirection := terms.direction }

/-- The response to a new challenge. -/
def newResponse (app : AppState) (origin : String) (terms : Terms) (id : Uuid)
    (nonce submitSecret : FixedBytes 32) (cached : CachedChallenge) : ChallengeResponse :=
  { challengeId := id
    shortCode := cached.shortCode
    shortCodeFormatted := shortCodeFormatted cached.shortCode
    rpChallenge := app.rpChallenge origin nonce.val
    cutoffDays := terms.cutoffDays
    verifyingKeyId := terms.verifyingKeyId
    submitSecret := submitSecret
    expiresAt := cached.expiresAt
    proofDirection := terms.direction.asStr
    statusUrl := statusUrl app id
    verifyUrl := verifyUrl app }

/-- The key of a short code's entry in `KV_CONFIG`. -/
def codeKey (shortCode : String) : String := "code:" ++ shortCode

/-! ## The handler -/

/-- The part of the handler from the generation of the challenge on. -/
def publish (app : AppState) (req : CreateChallengeRequest) (idempotencyKey : Option String)
    (origin : String) (client : ClientAuthConfig) (terms : Terms) :
    Handler (Answer ChallengeResponse) := do
  let id ← await .newUuid
  let nonce ← await (.secureRandom 32)
  let submitSecret ← await (.secureRandom 32)
  let now ← await .timestamp
  let cached := newRecord app req origin client terms id nonce submitSecret now
  match ← attempt (ChallengeStore.put app id cached) with
  | .error _ => .fail (.internal "Service unavailable")
  | .ok () =>
    if ← await (.configPut (codeKey cached.shortCode) id.toString terms.ttl) then
      let response := newResponse app origin terms id nonce submitSecret cached
      Idempotency.storeCached app idempotencyKey "challenge" client.clientId 201
        (response.toJson app) (some terms.ttl)
      return .fresh response
    else .fail (.internal "Service unavailable")

/-- `create_challenge`. -/
def createChallenge (app : AppState) (req : CreateChallengeRequest) :
    Handler (Answer ChallengeResponse) := do
  ofExcept (validateFetchMetadata app.uni req.headers)
  let origin ← ofExcept (requireOrigin req.headers)
  let idempotencyKey ← ofExcept
    (Idempotency.extractIdempotencyKey app.uni req.headers "POST" "/v1/challenge")
  ofExcept (checkOriginText origin)
  let policy ← resolvePolicy app req origin
  if app.configBinding = false then .fail (.internal "Service unavailable")
  else
    let canonicalMessage := createCanonicalMessageForChallenge app "POST" "/v1/challenge"
      req.authorizer.timestamp req
    let client ← ClientAuthenticator.authenticateTracked app policy (req.headers "X-API-Key")
      req.authorizer canonicalMessage
    match ← Idempotency.checkCached app idempotencyKey "challenge" client.clientId with
    | some response => return .cached response
    | none => do
      enforceAccountQuota client.clientId "challenge"
      let originIndexJson := originIndexJson (← await (.originIndexGet origin))
      ofExcept (checkCredits app originIndexJson)
      let now ← await .timestamp
      let terms ← ofExcept (terms app req policy originIndexJson now)
      publish app req idempotencyKey origin client terms

/-! ## What a creation writes -/

section Spec

variable {app : AppState} {req : CreateChallengeRequest} {h h' : History Op Res}

/-- No request to a challenge object so far. -/
def Unwritten (h : History Op Res) : Prop := ∀ x ∈ h, ∀ id r, x.1 ≠ .challengeDO id r

theorem unwritten_nil : Unwritten [] := by
  intro x hx
  cases hx

theorem Unwritten.grows {P : Op → Prop} (hu : Unwritten h) (hg : Grows P h h')
    (hP : ∀ id r, ¬ P (.challengeDO id r)) : Unwritten h' := by
  intro x hx id r heq
  rcases hg.entries x hx with hx | hop
  · exact hu x hx id r heq
  · exact hP id r (heq ▸ hop)

theorem Unwritten.cons {op : Op} {r : Res op} (hu : Unwritten h)
    (hop : ∀ id r, op ≠ .challengeDO id r) : Unwritten (⟨op, r⟩ :: h) := by
  intro x hx
  rcases List.mem_cons.mp hx with rfl | hx
  · exact hop
  · exact hu x hx

/-- The records a creation may write: one `Pending` record, for an authenticated client, under
an id the request drew. -/
structure Writes (app : AppState) (req : CreateChallengeRequest) (h : History Op Res)
    (id : Uuid) (c : CachedChallenge) : Prop where
  drawn : ⟨.newUuid, id⟩ ∈ h
  record : ∃ origin client terms nonce submitSecret now,
    c = newRecord app req origin client terms id nonce submitSecret now
  authenticated : ClientAuthenticator.Authenticated req.authorizer h
  once : ∀ id' c' r, ⟨.challengeDO id' (ChallengeStore.createRequest app id' c'), r⟩ ∈ h →
    id' = id ∧ c' = c

theorem Writes.pending {id : Uuid} {c : CachedChallenge} (h : Writes app req h' id c) :
    c.state = .pending := by
  obtain ⟨origin, client, terms, nonce, submitSecret, now, rfl⟩ := h.record
  rfl

theorem Writes.grows {P : Op → Prop} {id : Uuid} {c : CachedChallenge} (hw : Writes app req h id c)
    (hg : Grows P h h') (hP : ∀ id r, ¬ P (.challengeDO id r)) : Writes app req h' id c := by
  refine ⟨hg.suffix.subset hw.drawn, hw.record, hw.authenticated.mono hg.suffix, ?_⟩
  intro id' c' r hm
  rcases hg.entries _ hm with hm | hop
  · exact hw.once id' c' r hm
  · exact absurd hop (hP _ _)

theorem createRequest_ne_updateRequest {id id' : Uuid} {c c' : CachedChallenge} :
    ChallengeStore.createRequest app id c ≠ ChallengeStore.updateRequest app id' c' := nofun

/-- The record is the only one its own `put` writes. -/
theorem writtenOnce {id : Uuid} {c : CachedChallenge} (hu : Unwritten h)
    (hg : Grows (ChallengeStore.PutOp app id c) h h') {id' : Uuid} {c' : CachedChallenge}
    {r : Option ChallengeDO.Reply}
    (hm : ⟨.challengeDO id' (ChallengeStore.createRequest app id' c'), r⟩ ∈ h') :
    id' = id ∧ c' = c := by
  rcases hg.entries _ hm with hm | hop | hop | hop
  · exact absurd rfl (hu _ hm _ _)
  · injection hop with _ hreq
    exact absurd hreq createRequest_ne_updateRequest
  · injection hop with hid hreq
    injection hreq with _ hbody
    injection hbody with _ hc
    injection hc with hc
    exact ⟨hid, hc⟩
  · cases hop

/-- What a request with nothing written so far writes by the `put` of its record. -/
theorem writes_put {id : Uuid} {c : CachedChallenge} (hu : Unwritten h)
    (hdrawn : ⟨.newUuid, id⟩ ∈ h) (hauth : ClientAuthenticator.Authenticated req.authorizer h)
    (hrecord : ∃ origin client terms nonce submitSecret now,
      c = newRecord app req origin client terms id nonce submitSecret now)
    (hg : Grows (ChallengeStore.PutOp app id c) h h') : Writes app req h' id c :=
  { drawn := hg.suffix.subset hdrawn
    record := hrecord
    authenticated := hauth.mono hg.suffix
    once := fun _ _ _ hm => writtenOnce hu hg hm }

/-- A response shows the record of its challenge. -/
structure Agrees (app : AppState) (r : ChallengeResponse) (c : CachedChallenge) : Prop where
  challengeId : c.id = r.challengeId
  shortCode : c.shortCode = r.shortCode
  formatted : shortCodeFormatted c.shortCode = r.shortCodeFormatted
  rpChallenge : c.rpChallenge = r.rpChallenge.val
  cutoffDays : c.cutoffDays = r.cutoffDays.val
  verifyingKeyId : c.verifyingKeyId = r.verifyingKeyId.val
  submitSecret : c.state = .pending → c.submitSecret = r.submitSecret.val
  expiresAt : c.expiresAt = r.expiresAt
  proofDirection : c.proofDirection.asStr = r.proofDirection
  statusUrl : statusUrl app c.id = r.statusUrl
  verifyUrl : verifyUrl app = r.verifyUrl

/-- The response to a new challenge shows its record. -/
theorem agrees_newResponse {origin : String} {client : ClientAuthConfig} {terms : Terms}
    {id : Uuid} {nonce submitSecret : FixedBytes 32} {now : Nat} {c : CachedChallenge}
    (hc : c = newRecord app req origin client terms id nonce submitSecret now) :
    Agrees app (newResponse app origin terms id nonce submitSecret c) c := by
  have hid : c.id = id := by rw [hc, newRecord]
  have hrp : c.rpChallenge = (app.rpChallenge origin nonce.val).val := by rw [hc, newRecord]
  have hcutoff : c.cutoffDays = terms.cutoffDays.val := by rw [hc, newRecord]
  have hvk : c.verifyingKeyId = terms.verifyingKeyId.val := by rw [hc, newRecord]
  have hsecret : c.submitSecret = submitSecret.val := by rw [hc, newRecord]
  have hdirection : c.proofDirection = terms.direction := by rw [hc, newRecord]
  constructor
  · exact hid
  · simp only [newResponse]
  · simp only [newResponse]
  · exact hrp
  · exact hcutoff
  · exact hvk
  · exact fun _ => hsecret
  · simp only [newResponse]
  · simp only [newResponse, hdirection]
  · simp only [newResponse, hid]
  · simp only [newResponse]

/-- The record that a new response shows was written, and taken by its object. -/
structure Published (app : AppState) (req : CreateChallengeRequest) (h : History Op Res)
    (r : ChallengeResponse) (c : CachedChallenge) : Prop where
  writes : Writes app req h r.challengeId c
  agrees : Agrees app r c
  landed : ChallengeStore.Landed app r.challengeId c h

theorem Published.grows {P : Op → Prop} {r : ChallengeResponse} {c : CachedChallenge}
    (hp : Published app req h r c) (hg : Grows P h h') (hP : ∀ id r, ¬ P (.challengeDO id r)) :
    Published app req h' r c :=
  ⟨hp.writes.grows hg hP, hp.agrees, hp.landed.mono hg.suffix⟩

/-- What the answer to a creation says. -/
structure Answered (app : AppState) (req : CreateChallengeRequest) (h : History Op Res)
    (r : Except ApiError (Answer ChallengeResponse)) : Prop where
  replayed : ReplayOutcome h r
  published : ∀ response, r = .ok (.fresh response) → ∃ c, Published app req h response c

theorem Answered.error {e : ApiError} : Answered app req h (.error e) :=
  ⟨.error, fun _ hr => nomatch hr⟩

/-- The operations of the policy lookup. -/
def PolicyOp : Op → Prop
  | .getPolicyDetail _ | .configGet _ => True
  | _ => False

theorem guarded_resolvePolicy {origin : String} :
    Guarded (fun _ op => PolicyOp op) (fun _ _ => True) h (resolvePolicy app req origin) := by
  have hdetail : ∀ (h : History Op Res) (r : Except ApiError PolicyLookupResult),
      Guarded (fun _ op => PolicyOp op) (fun _ _ => True) h
        (ofExcept r >>= fun detail => (ofExcept (requirePolicy detail) : Handler OriginPolicy)) :=
    fun h r => guarded_ofExcept_bind (fun _ _ => guarded_ofExcept.mpr trivial) fun _ _ => trivial
  refine guarded_await_bind.mpr ⟨trivial, fun policyDetailResult => ?_⟩
  split
  · split
    · trivial
    · refine guarded_await_bind.mpr ⟨trivial, fun read => ?_⟩
      cases read with
      | value registeredOrigin =>
        simp only
        split
        · exact hdetail _ _
        · refine guarded_await_bind.mpr ⟨trivial, fun detail => ?_⟩
          refine guarded_ofExcept_bind (fun found _ => ?_) fun _ _ => trivial
          cases found <;> trivial
      | missing => exact hdetail _ _
      | failed => trivial
      | timedOut => trivial
      | bindingError => trivial
  · exact hdetail _ _

attribute [irreducible] resolvePolicy

theorem routeOp_policy {J : Uuid → CachedChallenge → Prop} {op : Op} (hop : PolicyOp op) :
    RouteOp app J op := by
  cases op <;> first | exact trivial | cases hop

theorem routeOp_auth {J : Uuid → CachedChallenge → Prop} {authorizer : Authorizer} {op : Op}
    (hop : ClientAuthenticator.AuthOp authorizer op) : RouteOp app J op := by
  rcases hop with rfl | hop | hop
  · trivial
  · cases op <;> first | exact trivial | cases hop
  · exact routeOp_check hop

theorem guarded_publish {idempotencyKey : Option String} {origin : String}
    {client : ClientAuthConfig} {terms : Terms} (hu : Unwritten h)
    (hauth : ClientAuthenticator.Authenticated req.authorizer h) :
    Guarded (fun h op => RouteOp app (Writes app req h) op) (Answered app req) h
      (publish app req idempotencyKey origin client terms) := by
  refine guarded_await_bind.mpr ⟨trivial, fun id => ?_⟩
  refine guarded_await_bind.mpr ⟨trivial, fun nonce => ?_⟩
  refine guarded_await_bind.mpr ⟨trivial, fun submitSecret => ?_⟩
  refine guarded_await_bind.mpr ⟨trivial, fun now => ?_⟩
  have hdraws : Unwritten (⟨.timestamp, now⟩ :: ⟨.secureRandom 32, submitSecret⟩ ::
      ⟨.secureRandom 32, nonce⟩ :: ⟨.newUuid, id⟩ :: h) :=
    (((hu.cons (by simp)).cons (by simp)).cons (by simp)).cons (by simp)
  have hdrawn : (⟨.newUuid, id⟩ : Sigma Res) ∈ (⟨.timestamp, now⟩ ::
      ⟨.secureRandom 32, submitSecret⟩ :: ⟨.secureRandom 32, nonce⟩ :: ⟨.newUuid, id⟩ :: h) := by
    simp
  have hauth : ClientAuthenticator.Authenticated req.authorizer
      (⟨.timestamp, now⟩ :: ⟨.secureRandom 32, submitSecret⟩ :: ⟨.secureRandom 32, nonce⟩ ::
        ⟨.newUuid, id⟩ :: h) := hauth.mono ⟨[_, _, _, _], rfl⟩
  refine ((ChallengeStore.guarded_put.and ChallengeStore.guarded_put_landed).imp
    (fun _ _ hop => hop.1) fun _ _ hr => hr).seq_attempt ?_ ?_
  · intro h1 op hg hop
    exact routeOp_put hop (writes_put hdraws hdrawn hauth
      ⟨origin, client, terms, nonce, submitSecret, now, rfl⟩ hg)
  · intro h1 r hg hr
    cases r with
    | error e => exact .error
    | ok _ =>
      have hpublished : Published app req h1
          (newResponse app origin terms id nonce submitSecret
            (newRecord app req origin client terms id nonce submitSecret now))
          (newRecord app req origin client terms id nonce submitSecret now) :=
        ⟨writes_put hdraws hdrawn hauth ⟨origin, client, terms, nonce, submitSecret, now, rfl⟩ hg,
          agrees_newResponse rfl, hr.2 rfl⟩
      refine guarded_await_bind.mpr ⟨trivial, fun stored => ?_⟩
      split
      · refine Idempotency.guarded_storeCached.seq (fun _ _ _ => routeOp_idempotency) ?_
          fun _ _ _ _ => .error
        intro h2 _ hg2 _
        refine ⟨.fresh, ?_⟩
        intro response hr
        cases hr
        have hput : Grows (fun op => ∀ id r, op ≠ .challengeDO id r) h1
            (⟨.configPut (codeKey _) id.toString terms.ttl, stored⟩ :: h1) :=
          (Grows.refl h1).cons (fun _ _ => nofun) stored
        exact ⟨_, (hpublished.grows hput fun id r hne => hne id r rfl).grows hg2 fun _ _ hop => hop⟩
      · exact .error

attribute [irreducible] publish

/-- **Creation of a challenge.** -/
theorem guarded_createChallenge (app : AppState) (req : CreateChallengeRequest) :
    (createChallenge app req).Guarded (fun h op => RouteOp app (Writes app req h) op)
      (Answered app req) [] := by
  refine guarded_ofExcept_bind (fun _ _ => ?_) fun _ _ => .error
  refine guarded_ofExcept_bind (fun origin _ => ?_) fun _ _ => .error
  refine guarded_ofExcept_bind (fun idempotencyKey _ => ?_) fun _ _ => .error
  refine guarded_ofExcept_bind (fun _ _ => ?_) fun _ _ => .error
  refine guarded_resolvePolicy.seq (fun _ _ _ => routeOp_policy) ?_ fun _ _ _ _ => .error
  intro h1 policy hg1 _
  have hu1 : Unwritten h1 := unwritten_nil.grows hg1 (by simp [PolicyOp])
  split
  · exact .error
  · refine ClientAuthenticator.guarded_authenticateTracked.seq (fun _ _ _ => routeOp_auth) ?_
      fun _ _ _ _ => .error
    intro h2 client hg2 hauth
    have hauth := (hauth client rfl).1
    have hu2 : Unwritten h2 := hu1.grows hg2
      (by simp [ClientAuthenticator.AuthOp, ClientAuthenticator.IsCache, NonceStore.IsCheck])
    refine Idempotency.guarded_checkCached.seq (fun _ _ _ => routeOp_idempotency) ?_
      fun _ _ _ _ => .error
    intro h3 response hg3 hreplay
    have hu3 : Unwritten h3 := hu2.grows hg3 (by simp [Idempotency.IsIdempotency])
    cases response with
    | some response =>
      refine ⟨fun _ _ => hreplay response rfl, fun _ hr => ?_⟩
      cases hr
    | none =>
      refine guarded_enforceAccountQuota.seq (fun _ _ _ => routeOp_quota) ?_
        fun _ _ _ _ => .error
      intro h4 _ hg4 _
      have hu4 : Unwritten h4 := hu3.grows hg4 (by simp [IsQuota])
      have hauth4 := hauth.mono (hg3.suffix.trans hg4.suffix)
      refine guarded_await_bind.mpr ⟨trivial, fun entry => ?_⟩
      refine guarded_ofExcept_bind (fun _ _ => ?_) fun _ _ => .error
      refine guarded_await_bind.mpr ⟨trivial, fun now => ?_⟩
      refine guarded_ofExcept_bind (fun terms _ => ?_) fun _ _ => .error
      exact guarded_publish ((hu4.cons (by simp)).cons (by simp))
        (hauth4.mono ⟨[_, _], rfl⟩)

attribute [irreducible] createChallenge

end Spec

end CreateChallenge

end ProviiVerifier

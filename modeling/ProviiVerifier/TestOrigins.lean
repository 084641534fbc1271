/-
  `POST /v1/register-test-origin` of `worker_routes.rs`, by which a developer registers an origin in
  the sandbox, with `generate_hosted_test_key`, and `crates/verifier-logic/src/docs_hmac.rs`.

  A registration writes a policy, an index entry from its client id to the origin, and a key of the
  hosted flow. It awaits KV, which may be stale or fail, so that registrations interleave. A policy
  in `VERIFIER_KV_CONFIG` is JSON (`KeyRotation.Text`); `readPolicy` reads it as the policy store
  does.

  The audit log, the message and the instructions of the answer, and the `name` and `metadata` of a
  hosted key are left out. Of a key that could not be generated the answer only shows the absence.

  Proved: whatever the answers are, the one policy that a registration writes is of a checked
  request, for an origin it was told is not registered; and what it answers is of this policy and of
  the hosted key it wrote (`guarded_registerTestOrigin`).
-/
import ProviiVerifier.ExpertCounter
import ProviiVerifier.HostedCors
import ProviiVerifier.HostedEncryption
import ProviiVerifier.NonceTags
import ProviiVerifier.OriginPolicyStore
import ProviiVerifier.CreateChallenge

namespace ProviiVerifier

namespace TestOrigins

open Interleaving Prog
open KeyRotation (Json Text encode decode)
open EnvelopeEncryption (Draws Drawn EncryptedSecret encryptHmacSecret)
open HostedCors (OriginIndexEntry)
open OriginPolicyStore (policyKey)

/-! ## The HMAC of the docs gateway -/

/-- `DocsHmacCheck`. -/
inductive DocsHmacCheck
  | ok
  | missingHeader
  | malformedHeader
  | mismatch
  deriving DecidableEq, Repr

/-- `hex::decode`. -/
def hexDecode : List Char → Option Bytes
  | [] => some []
  | [_] => none
  | a :: b :: rest =>
    if isAsciiHexdigit a && isAsciiHexdigit b then
      (hexDecode rest).map (UInt8.ofNat (16 * hexValue a + hexValue b) :: ·)
    else none

/-- `verify_docs_hmac`; `hmac` is HMAC-SHA-256 of a key and a message. -/
def verifyDocsHmac (hmac : Bytes → Bytes → Bytes) (headerValue : Option String)
    (body key : Bytes) : DocsHmacCheck :=
  match headerValue with
  | none => .missingHeader
  | some header =>
    if header = "" then .missingHeader
    else
      match hexDecode header.toList with
      | none => .malformedHeader
      | some suppliedTag =>
        if key = [] then .mismatch
        else if suppliedTag = hmac key body then .ok
        else .mismatch

/-- The loop over the keys: it ends at the first that verifies, or with the last outcome. -/
def tryKeys (hmac : Bytes → Bytes → Bytes) (headerValue : Option String) (body : Bytes)
    (outcome : DocsHmacCheck) : List Bytes → DocsHmacCheck
  | [] => outcome
  | key :: keys =>
    match verifyDocsHmac hmac headerValue body key with
    | .ok => .ok
    | failed => tryKeys hmac headerValue body failed keys

/-! ## Requests and answers -/

/-- `RegisterRequest`, an absent `min_age_years` being 18. -/
structure RegisterRequest where
  origin : String
  minAgeYears : Nat
  proofDirection : Option String
  maxAgeYears : Option Nat
  apiKey : String
  contactEmail : Option String

/-- A request: its headers and its body, if it can be read. -/
structure Request where
  headers : Headers
  body : Option Bytes

/-- What a hosted key is stored as. -/
structure HostedKeyData where
  id : String
  secretKey : String
  allowedOrigins : List String
  enabled : Bool
  createdAt : Nat
  updatedAt : Nat

/-- What a deployment fixes, and the code outside the repository. -/
structure Registrar where
  environment : String
  uni : Unicode
  sandboxApiKeyCached : Option String
  loadtestApiKeyCached : Option String
  rateLimitBinding : Bool
  configBinding : Bool
  mekCached : Option Bytes
  vkId : Nat
  hmac : Bytes → Bytes → Bytes
  sha256 : Bytes → Bytes
  blake3 : Bytes → FixedBytes 32
  /-- `hash_ip` with the salt of the deployment. -/
  hashIp : String → String
  /-- `serde_json::from_slice`. -/
  fromSlice : Bytes → Option RegisterRequest
  /-- `hash_api_key`: salt, key. -/
  hashApiKey : String → String → Option String
  aead : Aead
  /-- `serde_json::to_string`. -/
  keyDataText : HostedKeyData → String

/-- An answer that registers nothing. -/
inductive Rejection
  /-- `error_with_headers`. -/
  | plain (text : String) (code : Nat)
  | error (e : ApiError)
  /-- The handler itself fails. -/
  | worker (text : String)
  deriving DecidableEq

/-- The answer of a registration. -/
structure Registered where
  origin : String
  clientId : String
  hmacSecret : String
  publicKey : Option String
  minAgeYears : Nat
  maxAgeYears : Option Nat
  proofDirection : ProofDirection
  expiresAt : Nat
  deriving DecidableEq

/-- What is told of a policy that is there. -/
structure Existing where
  tenantId : String
  minAgeYears : Option Nat
  maxAgeYears : Option Nat
  proofDirection : Option String
  deriving DecidableEq

inductive Answer
  | registered (r : Registered)
  /-- `none` when the stored text is no JSON. -/
  | alreadyExisted (origin : String) (info : Option Existing)
  deriving DecidableEq

/-! ## Checks -/

def badField (field text : String) : Rejection :=
  .error (.badRequestWith "BODY_SCHEMA_INVALID" (some field) text)

def docsHmacInvalid (detail : String) : Rejection :=
  .error (.unauthorizedWith "DOCS_HMAC_INVALID" detail)

/-- `cl.parse::<usize>()` on `wasm32`. -/
def parseUsize (s : String) : Option Nat := (InternalReplay.parseU64 s).filter (· < 2 ^ 32)

/-- `read_limited_body`. -/
def readLimitedBody (req : Request) (max : Nat) : Option Bytes :=
  if ((req.headers "content-length").bind parseUsize).any (max < ·) then none
  else req.body.filter fun bytes => bytes.length ≤ max

variable (r : Registrar)

/-- The keys that sign for the docs gateway. -/
def candidateKeys : List Bytes :=
  ([r.sandboxApiKeyCached, r.loadtestApiKeyCached].filterMap id).map utf8Bytes

/-- The check of `X-Docs-Hmac`, before the body is parsed. -/
def requireDocsHmac (headers : Headers) (body : Bytes) : Except Rejection Unit :=
  if candidateKeys r = [] then
    .error (docsHmacInvalid
      "X-Docs-Hmac signature is required for this endpoint and could not be verified (server-side key not provisioned)")
  else
    match tryKeys r.hmac (headers "X-Docs-Hmac") body .missingHeader (candidateKeys r) with
    | .ok => .ok ()
    | .missingHeader => .error (docsHmacInvalid
      "X-Docs-Hmac header is required for the docs sandbox proxy route")
    | .malformedHeader => .error (docsHmacInvalid
      "X-Docs-Hmac header is not a valid hex-encoded HMAC-SHA256 tag")
    | .mismatch => .error (docsHmacInvalid
      "X-Docs-Hmac signature did not verify against the request body")

/-- The lengths of the text fields. -/
def checkLengths (body : RegisterRequest) : Except Rejection Unit :=
  if byteLen body.origin > 2048 then
    .error (badField "origin" "origin exceeds maximum length (2048 bytes)")
  else if byteLen body.apiKey > 256 then
    .error (badField "api_key" "api_key exceeds maximum length (256 bytes)")
  else if body.contactEmail.any fun email => byteLen email > 320 then
    .error (badField "contact_email" "contact_email exceeds maximum length (320 bytes)")
  else .ok ()

def parseDirection (direction : Option String) : Except Rejection ProofDirection :=
  match direction with
  | none => .ok .overAge
  | some "over_age" => .ok .overAge
  | some "under_age" => .ok .underAge
  | some _ => .error (badField "proof_direction"
    "proof_direction must be \"over_age\" or \"under_age\"")

/-- The ages, for a direction. -/
def checkAges (body : RegisterRequest) (direction : ProofDirection) : Except Rejection Unit :=
  if direction = .underAge ∧ body.maxAgeYears = none then
    .error (badField "max_age_years"
      "max_age_years is required when proof_direction is \"under_age\"")
  else if body.minAgeYears > 150 then
    .error (badField "min_age_years" "min_age_years must not exceed 150")
  else if body.maxAgeYears.any (150 < ·) then
    .error (badField "max_age_years" "max_age_years must not exceed 150")
  else .ok ()

/-- The supplied key has the digest of a cached one. -/
def matchesKey (apiKey : String) (cached : Option String) : Bool :=
  cached.any fun k => r.sha256 (utf8Bytes apiKey) = r.sha256 (utf8Bytes k)

def requireApiKey (apiKey : String) : Except Rejection Unit :=
  if r.sandboxApiKeyCached = none ∧ r.loadtestApiKeyCached = none then
    .error (.plain "Service configuration error" 500)
  else if matchesKey r apiKey r.sandboxApiKeyCached ||
      matchesKey r apiKey r.loadtestApiKeyCached then
    .ok ()
  else .error (.plain "Access denied" 403)

/-- What is checked before anything is awaited. -/
def checkRequest (req : Request) : Except Rejection (RegisterRequest × ProofDirection) :=
  if r.environment ≠ "sandbox" then .error (.plain "Not found" 404)
  else do
    (validateFetchMetadata r.uni req.headers).mapError .error
    match readLimitedBody req (4 * 1024) with
    | none => .error (.plain "Request too large" 413)
    | some bytes =>
      requireDocsHmac r req.headers bytes
      match r.fromSlice bytes with
      | none => .error (badField "body"
        "Request body could not be parsed as JSON or has unknown fields")
      | some body =>
        checkLengths body
        let direction ← parseDirection body.proofDirection
        checkAges body direction
        requireApiKey r body.apiKey
        return (body, direction)

/-! ## Operations -/

/-- A write of `provii-management`, or a deletion. -/
inductive Managed
  | config (key : String) (entry : Option (Expiring.Entry Text))
  | hosted (key : String) (entry : Option (Expiring.Entry String))
  | index (origin : String) (entry : Option (Expiring.Entry OriginIndexEntry))

/-- What a registration awaits. A read answers nothing when it fails. -/
inductive Op
  | countGet (key : String)
  | countPut (key : String) (count : Nat)
  | configGet (key : String)
  | configPut (key : String) (text : Text)
  | draw
  | drawEnvelope
  | drawIv
  | salt
  | now
  | hostedMek
  | hostedPut (key text : String)
  | indexPut (origin : String) (entry : OriginIndexEntry)
  /-- Another writer. -/
  | manage (write : Managed)

abbrev Res : Op → Type
  | .countGet _ => Option (Option Nat)
  | .countPut _ _ => Bool
  | .configGet _ => Option (Option Text)
  | .configPut _ _ => Bool
  | .draw => Drawn 32
  | .drawEnvelope => Draws
  | .drawIv => Drawn 12
  | .salt => String
  | .now => Nat
  | .hostedMek => Option Bytes
  | .hostedPut _ _ => Bool
  | .indexPut _ _ => Bool
  | .manage _ => Unit

abbrev Registering (α : Type) := Prog Op Res Rejection α

/-- Await an operation. -/
def await {ε : Type} (op : Op) : Prog Op Res ε (Res op) := .perform op

/-- The error of a namespace that fails. -/
def unavailable : Rejection := .plain "Service temporarily unavailable" 503

/-- `TTL_SECONDS`. -/
def ttlSeconds : Nat := 259200

/-! ## The handler -/

/-- The count of an address: ten registrations, each of which renews the hour. -/
def countRegistration (headers : Headers) : Registering Unit :=
  let rateKey := "origin_reg:" ++ r.hashIp ((headers "CF-Connecting-IP").getD "unknown")
  if r.rateLimitBinding = false then .fail unavailable
  else do
    match ← await (.countGet rateKey) with
    | none => .fail unavailable
    | some stored =>
      let currentCount := ExpertCounter.parseCount (stored.getD 0)
      if currentCount ≥ 10 then .fail (.plain "Rate limit exceeded. Try again in 1 hour." 429)
      else if ← await (.countPut rateKey (ExpertCounter.satSuccU32 currentCount)) then return ()
      else .fail unavailable

def checkScheme (origin : String) : Except Rejection Unit :=
  if startsWith origin "http://" || startsWith origin "https://" then .ok ()
  else .error (.plain "Origin must start with http:// or https://" 400)

/-- `as_u64`. -/
def asU64 : Json → Option Nat
  | .number n => if 0 ≤ n ∧ n < 2 ^ 64 then some n.toNat else none
  | _ => none

/-- What is told of a stored text. -/
def existingInfo : Text → Option Existing
  | .malformed _ => none
  | .json existing =>
    some
      { tenantId := (existing.stringField "tenant_id").getD "unknown"
        minAgeYears := (existing.field "min_age_years").bind asU64
        maxAgeYears := (existing.field "max_age_years").bind asU64
        proofDirection := existing.stringField "proof_direction" }

/-- The client id of an origin: six bytes of its hash. -/
def clientIdOf (origin : String) : String :=
  "rp_sandbox_" ++ Idempotency.hexEncode ((r.blake3 (utf8Bytes origin)).val.take 6)

/-- The client of a registered policy. -/
def clientJson (clientId apiKeyHash apiKey : String) (encrypted : EncryptedSecret) : Json :=
  .object
    [("client_id", .string clientId),
     ("api_key_hash", .string apiKeyHash),
     ("api_key_prefix", .string (String.ofList (apiKey.toList.take 8))),
     ("encrypted_hmac_secret", .string encrypted.encryptedSecret),
     ("dek_encrypted", .string encrypted.encryptedDek),
     ("encryption_version", .number encrypted.version),
     ("active", .bool true)]

/-- The policy that a registration stores. -/
def policyJson (body : RegisterRequest) (direction : ProofDirection) (origin apiKeyHash : String)
    (encrypted : EncryptedSecret) (nowSec : Nat) : Json :=
  .object
    [("tenant_id", .string ("test_" ++ Idempotency.hexEncode (r.blake3 (utf8Bytes origin)).val)),
     ("min_age_years", .number body.minAgeYears),
     ("max_age_years", match body.maxAgeYears with
       | none => .null
       | some age => .number age),
     ("proof_direction", .string direction.asStr),
     ("max_ttl_sec", .number 3600),
     ("allowed_vk_ids", .array [.number r.vkId]),
     ("allowed_issuers", .array []),
     ("billing", .object [("plan", .string "sandbox"), ("metering_enabled", .bool false)]),
     ("clients", .array [clientJson (clientIdOf r origin) apiKeyHash body.apiKey encrypted]),
     ("enabled", .bool true),
     ("created_at", .number nowSec),
     ("updated_at", .number nowSec)]

/-- `generate_hosted_test_key`; its error is only logged. -/
def generateHostedTestKey (origin : String) : Prog Op Res Unit String := do
  match ← await .draw, ← await .draw with
  | .ok publicBytes, .ok secretBytes =>
    let publicKey := "pk_test_" ++ Idempotency.hexEncode publicBytes.val
    let nowSec := (← await .now) / 1000
    let keyData : HostedKeyData :=
      { id := publicKey
        secretKey := "sk_test_" ++ Idempotency.hexEncode secretBytes.val
        allowedOrigins := [origin]
        enabled := true
        createdAt := nowSec
        updatedAt := nowSec }
    match ← await .hostedMek with
    | none => .fail ()
    | some mek =>
      match HostedEncryption.encryptWithMek r.aead (← await .drawIv) mek (r.keyDataText keyData)
          KeyRotation.publicKeyDataAad with
      | .error _ => .fail ()
      | .ok encrypted =>
        if ← await (.hostedPut publicKey encrypted) then
          let entry : OriginIndexEntry :=
            { keyIds := [publicKey]
              organizationId := none
              hasCredits := none
              meteringEnabled := some false }
          if ← await (.indexPut origin entry) then return publicKey
          else .fail ()
        else .fail ()
  | _, _ => .fail ()

/-- The registration of an origin that is not there. -/
def provision (body : RegisterRequest) (direction : ProofDirection) (origin : String) :
    Registering Registered := do
  match ← await .draw with
  | .error e => .fail (.worker ("Failed to generate HMAC secret: " ++ e))
  | .ok hmacSecretRaw =>
    match r.mekCached with
    | none => .fail (.plain "Service configuration error" 500)
    | some mek =>
      match encryptHmacSecret r.aead (← await .drawEnvelope) hmacSecretRaw.val mek with
      | .error _ => .fail (.plain "Internal encryption error" 500)
      | .ok encrypted =>
        match r.hashApiKey (← await .salt) body.apiKey with
        | none => .fail (.plain "Internal hashing error" 500)
        | some apiKeyHash =>
          let nowSec := (← await .now) / 1000
          if ← await (.configPut (policyKey origin)
              (.json (policyJson r body direction origin apiKeyHash encrypted nowSec))) then
            -- the answer does not depend on the index entry
            let _ ← await (.configPut (clientLookupKey (clientIdOf r origin)) (.malformed origin))
            let hosted ← attempt (generateHostedTestKey r origin)
            return {
              origin
              clientId := clientIdOf r origin
              hmacSecret := encode hmacSecretRaw.val
              publicKey := hosted.toOption
              minAgeYears := body.minAgeYears
              maxAgeYears := body.maxAgeYears
              proofDirection := direction
              expiresAt := nowSec + ttlSeconds }
          else .fail unavailable

/-- The route. -/
def registerTestOrigin (req : Request) : Registering Answer := do
  let (body, direction) ← ofExcept (checkRequest r req)
  countRegistration r req.headers
  ofExcept (checkScheme body.origin)
  let origin := trimEndSlashes body.origin
  if r.configBinding = false then .fail unavailable
  else
    match ← await (.configGet (policyKey origin)) with
    | none => .fail unavailable
    | some (some existing) => return .alreadyExisted origin (existingInfo existing)
    | some none => return .registered (← provision r body direction origin)

/-! ## What a registration goes through -/

/-- What a registration draws and makes. -/
structure Grant where
  body : RegisterRequest
  direction : ProofDirection
  secret : FixedBytes 32
  draws : Draws
  encrypted : EncryptedSecret
  salt : String
  apiKeyHash : String
  nowMs : Nat

namespace Grant

variable (g : Grant)

def origin : String := trimEndSlashes g.body.origin

def clientId : String := clientIdOf r g.origin

/-- The policy that is stored. -/
def text : Text :=
  .json (policyJson r g.body g.direction g.origin g.apiKeyHash g.encrypted (g.nowMs / 1000))

/-- The answer, with a hosted key. -/
def answer (publicKey : Option String) : Registered :=
  { origin := g.origin
    clientId := g.clientId r
    hmacSecret := encode g.secret.val
    publicKey
    minAgeYears := g.body.minAgeYears
    maxAgeYears := g.body.maxAgeYears
    proofDirection := g.direction
    expiresAt := g.nowMs / 1000 + ttlSeconds }

end Grant

variable {r} {req : Request} {h h' : History Op Res} {g : Grant} {origin : String}

/-- A write of the configuration or of a hosted key. -/
def Puts : Op → Prop
  | .configPut _ _ => True
  | .hostedPut _ _ => True
  | _ => False

/-- What precedes the write of a policy. -/
structure Granted (r : Registrar) (req : Request) (g : Grant) (h : History Op Res) : Prop where
  checked : checkRequest r req = .ok (g.body, g.direction)
  scheme : checkScheme g.body.origin = .ok ()
  absent : ⟨.configGet (policyKey g.origin), some none⟩ ∈ h
  encrypted : ∃ mek, r.mekCached = some mek ∧
    encryptHmacSecret r.aead g.draws g.secret.val mek = .ok g.encrypted
  hashed : r.hashApiKey g.salt g.body.apiKey = some g.apiKeyHash
  now : ⟨.now, g.nowMs⟩ ∈ h
  first : ∀ x ∈ h, ¬ Puts x.1

/-- The key data and its text that a hosted key is written with. -/
structure HostedWrite (r : Registrar) (origin : String) (key text : String) (h : History Op Res) :
    Prop where
  written : ∃ (publicBytes : FixedBytes 32) (data : HostedKeyData) (mek : Bytes) (iv : Drawn 12),
    key = "pk_test_" ++ Idempotency.hexEncode publicBytes.val ∧
    data.allowedOrigins = [origin] ∧ data.enabled = true ∧
    ⟨.hostedMek, some mek⟩ ∈ h ∧
    HostedEncryption.encryptWithMek r.aead iv mek (r.keyDataText data)
      KeyRotation.publicKeyDataAad = .ok text

/-- A write of a hosted key. -/
def PutsHosted (op : Op) : Prop := ∃ key text, op = .hostedPut key text

/-- The operations of a registration besides the writes of the configuration; it writes one hosted
key. -/
def Registers (origin : String) (h : History Op Res) : Op → Prop
  | .configPut _ _ => False
  | .manage _ => False
  | .hostedPut _ _ => ∀ x ∈ h, ¬ PutsHosted x.1
  | .indexPut o e => o = origin ∧ e.keyIds ≠ [] ∧ e.meteringEnabled = some false
  | _ => True

/-- A registration writes one policy, and otherwise to other keys. -/
def Guards (r : Registrar) (req : Request) (h : History Op Res) (op : Op) : Prop :=
  (∃ g, Granted r req g h ∧ op = .configPut (policyKey g.origin) (g.text r)) ∨
    (∃ clientId text, op = .configPut (clientLookupKey clientId) text) ∨
    ∃ origin, Registers origin h op

/-- The hosted key that was written after some history, and the index entry after it. -/
def HostedSince (r : Registrar) (origin : String) (h : History Op Res) (h' : History Op Res)
    (key : String) : Prop :=
  ∃ text entry past, Registers origin past (.indexPut origin entry) ∧
    ⟨.indexPut origin entry, true⟩ :: ⟨.hostedPut key text, true⟩ :: past <:+ h' ∧ h <:+ past ∧
    HostedWrite r origin key text past

/-- What a registration answers is of what it wrote. -/
def Tells (r : Registrar) (req : Request) (h : History Op Res) (a : Registered) : Prop :=
  ∃ g past, ⟨.configPut (policyKey g.origin) (g.text r), true⟩ :: past <:+ h ∧
    Granted r req g past ∧ a = g.answer r a.publicKey ∧
    ∀ key, a.publicKey = some key → HostedSince r g.origin past h key

theorem guarded_await_bind {ε β : Type} {G : History Op Res → Op → Prop}
    {Q : History Op Res → Except ε β → Prop} {op : Op} {f : Res op → Prog Op Res ε β} :
    (await op >>= f).Guarded G Q h ↔ G h op ∧ ∀ res, (f res).Guarded G Q (⟨op, res⟩ :: h) :=
  Iff.rfl

theorem guarded_countRegistration {headers : Headers} :
    Guarded (fun _ op => ¬ Puts op ∧ ∀ h', Registers origin h' op) (fun _ _ => True) h
      (countRegistration r headers) := by
  unfold countRegistration
  dsimp only
  split
  · trivial
  · refine guarded_await_bind.mpr ⟨⟨not_false, fun _ => trivial⟩, fun stored => ?_⟩
    cases stored with
    | none => trivial
    | some stored =>
      dsimp only
      split
      · trivial
      · refine guarded_await_bind.mpr ⟨⟨not_false, fun _ => trivial⟩, fun written => ?_⟩
        split <;> trivial

theorem guarded_generateHostedTestKey (origin : String) (hs : h <:+ h')
    (hfirst : ∀ x ∈ h', ¬ PutsHosted x.1) :
    Guarded (fun h₁ op => Registers origin h₁ op)
      (fun h₁ res => ∀ key, res = .ok key → HostedSince r origin h h₁ key) h'
      (generateHostedTestKey r origin) := by
  unfold generateHostedTestKey
  refine guarded_await_bind.mpr ⟨trivial, fun publicDrawn => ?_⟩
  refine guarded_await_bind.mpr ⟨trivial, fun secretDrawn => ?_⟩
  cases publicDrawn with
  | error e => exact nofun
  | ok publicBytes =>
    cases secretDrawn with
    | error e => exact nofun
    | ok secretBytes =>
      refine guarded_await_bind.mpr ⟨trivial, fun nowMs => ?_⟩
      refine guarded_await_bind.mpr ⟨trivial, fun mek => ?_⟩
      cases mek with
      | none => exact nofun
      | some mek =>
        refine guarded_await_bind.mpr ⟨trivial, fun iv => ?_⟩
        split
        · exact nofun
        · next encrypted hencrypted =>
          have hnone : ∀ x ∈ (⟨.drawIv, iv⟩ :: ⟨.hostedMek, some mek⟩ :: ⟨.now, nowMs⟩ ::
              ⟨.draw, .ok secretBytes⟩ :: ⟨.draw, .ok publicBytes⟩ :: h' : History Op Res),
              ¬ PutsHosted x.1 := by
            rintro x hx ⟨key, text, hop⟩
            simp only [List.mem_cons] at hx
            rcases hx with rfl | rfl | rfl | rfl | rfl | hx
            all_goals first | exact hfirst x hx ⟨key, text, hop⟩ | cases hop
          refine guarded_await_bind.mpr ⟨hnone, fun written => ?_⟩
          cases written with
          | false => exact nofun
          | true =>
            have hindex (key : String) (h₁ : History Op Res) : Registers origin h₁
                (.indexPut origin ⟨[key], none, none, some false⟩) :=
              ⟨rfl, List.cons_ne_nil _ _, rfl⟩
            refine guarded_await_bind.mpr ⟨hindex _ _, fun indexed => ?_⟩
            cases indexed with
            | false => exact nofun
            | true =>
              intro key hkey
              injection hkey with hkey
              subst hkey
              refine ⟨encrypted, _, _, hindex _ _, List.suffix_rfl, ?_, ?_⟩
              · exact hs.trans (List.suffix_append [_, _, _, _, _] h')
              · exact ⟨publicBytes, _, mek, iv, rfl, rfl, rfl, by simp, hencrypted⟩

/-- What leads to a registration. -/
structure Checked (r : Registrar) (req : Request) (body : RegisterRequest)
    (direction : ProofDirection) (h : History Op Res) : Prop where
  checked : checkRequest r req = .ok (body, direction)
  scheme : checkScheme body.origin = .ok ()
  absent : ⟨.configGet (policyKey (trimEndSlashes body.origin)), some none⟩ ∈ h
  first : ∀ x ∈ h, ¬ Puts x.1

theorem tells_of_error {e : Rejection} :
    ∀ a, (.error e : Except Rejection Registered) = .ok a → Tells r req h a := by
  intro a ha
  cases ha

theorem guarded_provision {body : RegisterRequest} {direction : ProofDirection}
    (hchk : Checked r req body direction h) :
    Guarded (Guards r req) (fun h' res => ∀ a, res = .ok a → Tells r req h' a) h
      (provision r body direction (trimEndSlashes body.origin)) := by
  have hother {h₁ : History Op Res} {op : Op} (hop : Registers "" h₁ op) : Guards r req h₁ op :=
    .inr (.inr ⟨"", hop⟩)
  unfold provision
  refine guarded_await_bind.mpr ⟨hother trivial, fun secretDrawn => ?_⟩
  cases secretDrawn with
  | error e => exact tells_of_error
  | ok secret =>
    dsimp only
    split
    · exact tells_of_error
    · next mek hmek =>
      refine guarded_await_bind.mpr ⟨hother trivial, fun draws => ?_⟩
      split
      · exact tells_of_error
      · next encrypted hencrypted =>
        refine guarded_await_bind.mpr ⟨hother trivial, fun salt => ?_⟩
        split
        · exact tells_of_error
        · next apiKeyHash hhash =>
          refine guarded_await_bind.mpr ⟨hother trivial, fun nowMs => ?_⟩
          let g : Grant := ⟨body, direction, secret, draws, encrypted, salt, apiKeyHash, nowMs⟩
          let past : History Op Res :=
            [⟨.now, nowMs⟩, ⟨.salt, salt⟩, ⟨.drawEnvelope, draws⟩, ⟨.draw, .ok secret⟩] ++ h
          have hgranted : Granted r req g past :=
            { checked := hchk.checked
              scheme := hchk.scheme
              absent := List.mem_append_right _ hchk.absent
              encrypted := ⟨mek, hmek, hencrypted⟩
              hashed := hhash
              now := List.mem_cons_self
              first := by
                intro x hx
                rcases List.mem_append.mp hx with hx | hx
                · simp only [List.mem_cons, List.not_mem_nil, or_false] at hx
                  rcases hx with rfl | rfl | rfl | rfl <;> exact not_false
                · exact hchk.first x hx }
          refine guarded_await_bind.mpr ⟨.inl ⟨g, hgranted, rfl⟩, fun written => ?_⟩
          cases written with
          | false => exact tells_of_error
          | true =>
            refine guarded_await_bind.mpr ⟨.inr (.inl ⟨_, _, rfl⟩), fun indexed => ?_⟩
            have hs : past <:+ ⟨.configPut (clientLookupKey (g.clientId r)) (.malformed g.origin),
                indexed⟩ :: ⟨.configPut (policyKey g.origin) (g.text r), true⟩ :: past :=
              List.suffix_append [_, _] past
            have hnone : ∀ x ∈ ⟨.configPut (clientLookupKey (g.clientId r)) (.malformed g.origin),
                indexed⟩ :: ⟨.configPut (policyKey g.origin) (g.text r), true⟩ :: past,
                ¬ PutsHosted x.1 := by
              rintro x hx ⟨key, text, hop⟩
              rcases List.mem_cons.mp hx with rfl | hx
              · cases hop
              · rcases List.mem_cons.mp hx with rfl | hx
                · cases hop
                · exact hgranted.first x hx (hop ▸ trivial)
            refine guarded_bind.mpr (guarded_attempt.mpr ?_)
            refine (guarded_generateHostedTestKey g.origin hs hnone).suffix.imp
              (fun _ _ hop => .inr (.inr ⟨_, hop.2⟩)) ?_
            rintro h₁ hosted ⟨hgrown, hhosted⟩ a ha
            injection ha with ha
            subst ha
            refine ⟨g, past, (List.suffix_cons _ _).trans hgrown, hgranted, rfl, ?_⟩
            intro key hkey
            cases hosted with
            | error e => cases hkey
            | ok key' =>
              injection hkey with hkey
              exact hhosted key (congrArg _ hkey)

/-- **What a registration goes through**: the one policy it writes is of a checked request, for an
origin it was told is absent, and what it answers is of this policy. -/
theorem guarded_registerTestOrigin (r : Registrar) (req : Request) :
    Guarded (Guards r req) (fun h' res => ∀ a, res = .ok (.registered a) → Tells r req h' a) []
      (registerTestOrigin r req) := by
  unfold registerTestOrigin
  refine guarded_ofExcept_bind ?_ fun _ _ => nofun
  rintro ⟨body, direction⟩ hchecked
  have hcount : Guarded (fun _ op => ¬ Puts op ∧ ∀ h', Registers "" h' op) (fun _ _ => True) []
      (countRegistration r req.headers) :=
    guarded_countRegistration
  refine hcount.seq (fun h₁ _ _ hop => .inr (.inr ⟨"", hop.2 h₁⟩)) ?_ fun _ _ _ _ => nofun
  intro h₁ _ hgrows _
  have hfirst : ∀ x ∈ h₁, ¬ Puts x.1 := by
    intro x hx hput
    rcases hgrows.entries x hx with hx | hop
    · cases hx
    · exact hop.1 hput
  refine guarded_ofExcept_bind (fun _ hscheme => ?_) fun _ _ => nofun
  dsimp only
  split
  · exact nofun
  · refine guarded_await_bind.mpr ⟨.inr (.inr ⟨"", trivial⟩), fun found => ?_⟩
    cases found with
    | none => exact nofun
    | some found =>
      cases found with
      | some existing => exact nofun
      | none =>
        have hchk : Checked r req body direction
            (⟨.configGet (policyKey (trimEndSlashes body.origin)), some none⟩ :: h₁) :=
          { checked := hchecked
            scheme := hscheme
            absent := List.mem_cons_self
            first := by
              intro x hx
              rcases List.mem_cons.mp hx with rfl | hx
              · exact not_false
              · exact hfirst x hx }
        refine (guarded_provision hchk).bind ?_ fun _ _ _ _ => nofun
        intro h₂ a _ htells a' ha
        injection ha with ha
        injection ha with ha
        exact htells a' (congrArg _ ha)

attribute [irreducible] registerTestOrigin

end TestOrigins

end ProviiVerifier

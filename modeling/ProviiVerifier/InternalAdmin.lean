/-
  `routes/internal_admin.rs`, and the `/_internal/` routes of `worker_routes.rs` that lead to it:
  the probe of `HOSTED_MEK`, the replay of a saved token, and the removal of test fixtures.

  Each route rejects what comes from outside, counts the request, authenticates it, and counts it
  again when it fails. A handler awaits KV, the status slots, the nonce objects and the Secrets
  Store, so that requests interleave: each attempt of `get_with_retry` is a step, and an isolate
  looks for the key that it holds before them and sets its `OnceLock` after them. The hosted flow
  takes keys in the same way, and the start of an isolate sets them (`preload_hosted_mek`).
  `authenticate_status_endpoint` is one step, with the slots as they are then; of the requests to
  the nonce objects the steps are those of the service.

  The clock is in seconds. Security headers, log lines and audit events are left out. The runtime
  ends a request that makes too many listings.

  Proved: what a request has done when it writes a counter, when it deletes a ban, and when it is
  answered (`guarded_serve`).
-/
import ProviiVerifier.BanStore
import ProviiVerifier.HostedEncryption
import ProviiVerifier.RateLimits
import ProviiVerifier.StatusAuth
import ProviiVerifier.TestOrigins

namespace ProviiVerifier

namespace InternalAdmin

open Interleaving Prog
open EnvelopeEncryption (EncryptedSecret RotationSlot decryptHmacSecretWithFallbackTracked)
open ExpertCounter (parseCount satSuccU32)
open HostedEncryption (EncryptionError mekUnbound readMek readMekSecondary)
open InternalReplay (enforceInternalReplayWindow)
open KeyRotation (Mek decodeMek)
open RateLimits (Label)
open StatusAuth (HeaderSource StatusAuthOutcome)
open StatusTokenCache (fingerprintUnset)
open TierLimits (hourTs)

/-! ## Requests and answers -/

/-- `ADMIN_RL_LIMIT_PER_HOUR`. -/
def adminRlLimitPerHour : Nat := 10

/-- `ADMIN_LOCKOUT_THRESHOLD`. -/
def adminLockoutThreshold : Nat := 5

/-- `ADMIN_LOCKOUT_TTL_SECS`. -/
def adminLockoutTtlSecs : Nat := 3600

/-- `BAN_TEST_PREFIX`. -/
def banTestPrefix : String := "ban:test:"

/-- The routes, the last with the class of the path. -/
inductive Route
  | mekDecryptProbe
  | replaySavedPreRotationToken
  | testFixtures
  | deleteTestFixtures (fixtureClass : String)
  deriving DecidableEq

/-- `role_tag`. -/
def Route.roleTag : Route → String
  | mekDecryptProbe => "admin-mek-probe"
  | replaySavedPreRotationToken => "admin-replay-token"
  | testFixtures => "admin-fixture-manifest"
  | deleteTestFixtures fixtureClass => "admin-fixture:" ++ fixtureClass

/-- A request to a route. -/
structure AdminRequest where
  route : Route
  request : TestOrigins.Request
  /-- The isolate that serves it. -/
  isolate : Nat

/-- `MekProbeRequest`. -/
structure MekProbeRequest where
  encryptedSecret : String
  expectedPlaintextFingerprint : String
  deriving DecidableEq

/-- `MekProbeResponse`. -/
structure MekProbeResponse where
  ok : Bool
  slot : Option RotationSlot
  actualFingerprint : String
  deriving DecidableEq

/-- `ReplayTokenResponse`. -/
structure ReplayTokenResponse where
  rejected : Bool
  reason : String
  deriving DecidableEq

/-- An answer. The manifest is fixed, and of the removal of fixtures only the count is not. -/
inductive Answer
  | probed (r : MekProbeResponse)
  | replayed (r : ReplayTokenResponse)
  | manifest
  | cleared (deleted : Nat)
  deriving DecidableEq

/-- A refusal. -/
inductive Refusal
  /-- `error_with_headers`. -/
  | plain (text : String) (code : Nat)
  | rateLimited (retryAfter : Nat)
  /-- The request did not authenticate. -/
  | unauthenticated (e : ApiError)
  /-- The handler of the route refuses. -/
  | error (e : ApiError)
  /-- The runtime ends the request. -/
  | cutOff
  deriving DecidableEq

/-- A page of `kv.list()`. -/
structure Listing where
  keys : List String
  listComplete : Bool
  cursor : Option String

/-- What a deployment fixes, and the code outside the repository. -/
structure Admin where
  app : AppState
  rateLimitBinding : Bool
  /-- The error of the binding of `VERIFIER_KV_BANLIST`. -/
  banlistError : Option String
  /-- `hash_ip` with the salt of the deployment. -/
  hashIp : String → Label
  /-- `serde_json::from_slice` of each body. -/
  parseProbe : Bytes → Except String MekProbeRequest
  parseEnvelope : Bytes → Except String EncryptedSecret
  parseReplay : Bytes → Except String String
  /-- Base64 with padding. -/
  decodeStandard : String → Option Bytes
  /-- `Headers::set`: the value that is then read, or the error. -/
  setHeader : String → Except String String
  /-- `{:?}` of an error. -/
  debug : ApiError → String
  /-- `{}` of an error. -/
  display : EncryptionError → String
  aead : Aead
  /-- The Base64 crate's text on what it refuses. -/
  refusal : String → String
  /-- The listings that the runtime lets a request make. -/
  listings : Nat

/-! ## Operations -/

/-- What a request awaits. -/
inductive Op
  /-- `Date::now`. -/
  | now
  | counterGet (key : String)
  | counterPut (key : String) (count ttlSecs : Nat)
  /-- `authenticate_status_endpoint`. -/
  | statusAuth (headers : HeaderSource)
  | service (op : ProviiVerifier.Op)
  /-- `OnceLock::get` of `HOSTED_MEK_CACHE` or `HOSTED_MEK_PREVIOUS_CACHE`. -/
  | mekCache (isolate : Nat) (slot : RotationSlot)
  /-- `OnceLock::set`; it does nothing where a key is held. -/
  | mekCacheSet (isolate : Nat) (slot : RotationSlot) (mek : Mek)
  /-- `env.secret_store`; it answers with the error. -/
  | secretStore (slot : RotationSlot)
  /-- An attempt of `get_with_retry`. -/
  | secretGet (slot : RotationSlot) (attempt : Nat)
  | listBans (keyPrefix : String) (cursor : Option String)
  /-- It answers with the error. -/
  | deleteBan (key : String)
  /-- Another writer of the ban list. -/
  | writeBan (key : String) (value : Option String)

abbrev Res : Op → Type
  | .now => Nat
  | .counterGet _ => Option (Option Nat)
  | .counterPut _ _ _ => Unit
  | .statusAuth _ => Except ApiError StatusAuthOutcome
  | .service op => ProviiVerifier.Res op
  | .mekCache _ _ => Option Mek
  | .mekCacheSet _ _ _ => Unit
  | .secretStore _ => Option String
  | .secretGet _ _ => Except String (Option String)
  | .listBans _ _ => Except String Listing
  | .deleteBan _ => Option String
  | .writeBan _ _ => Unit

abbrev Handling (ε α : Type) := Prog Op Res ε α

/-- Await an operation. -/
def await {ε : Type} (op : Op) : Handling ε (Res op) := .perform op

/-- A part of a handler that uses the stores of the service. -/
def onService {α : Type} : Handler α → Handling ApiError α
  | .ret a => .ret a
  | .fail e => .fail e
  | .call op k => .call (.service op) fun r => onService (k r)

/-! ## The gate -/

/-- The counter of the requests of an hour. -/
def hourKey (roleTag : String) (ipHash : Label) (hour : Nat) : String :=
  "admin_rl:" ++ roleTag ++ ":" ++ ipHash.text ++ ":" ++ toString hour

/-- The counter of the failures. -/
def lockKey (roleTag : String) (ipHash : Label) : String :=
  "admin_lock:" ++ roleTag ++ ":" ++ ipHash.text

/-- `admin_rate_limit_check`; its error is when to come back. -/
def adminRateLimitCheck (ipHash : Label) (roleTag : String) : Handling Nat Unit := do
  let nowSecs ← await .now
  let hour := hourTs nowSecs
  match ← await (.counterGet (hourKey roleTag ipHash hour)) with
  | none => .fail 60
  | some stored =>
    let current := parseCount (stored.getD 0)
    if current ≥ adminRlLimitPerHour then
      .fail ((NonceDO.satAdd hour 3600 - nowSecs) % 2 ^ 32)
    else
      match ← await (.counterGet (lockKey roleTag ipHash)) with
      | none => .fail 60
      | some stored =>
        if parseCount (stored.getD 0) ≥ adminLockoutThreshold then .fail adminLockoutTtlSecs
        else await (.counterPut (hourKey roleTag ipHash hour) (satSuccU32 current) 7200)

/-- The count that a read comes to; a read that fails counts for nothing. -/
def countIn (read : Option (Option Nat)) : Nat :=
  match read with
  | some stored => parseCount (stored.getD 0)
  | none => 0

/-- `record_admin_auth_failure`. -/
def recordAdminAuthFailure {ε : Type} (ipHash : Label) (roleTag : String) : Handling ε Unit := do
  let count := countIn (← await (.counterGet (lockKey roleTag ipHash)))
  await (.counterPut (lockKey roleTag ipHash) (satSuccU32 count) adminLockoutTtlSecs)

/-- `authenticate_admin_endpoint`. -/
def authenticateAdminEndpoint (headers : Headers) (roleTag : String) : Handling ApiError Unit := do
  match ← await (.statusAuth fun name => .ok (headers name)) with
  | .error e => .fail e
  | .ok _ =>
    let _ ← onService (enforceInternalReplayWindow headers roleTag)
    return ()

/-! ## The keys of an isolate -/

/-- `get_with_retry`. -/
def getWithRetry {ε : Type} (slot : RotationSlot) : Handling ε (Except String (Option String)) := do
  match ← await (.secretGet slot 1) with
  | .ok value => return .ok value
  | .error _ =>
    match ← await (.secretGet slot 2) with
    | .ok value => return .ok value
    | .error _ => await (.secretGet slot 3)

/-- What both getters do: the key that the isolate holds, or else the one that the Secrets Store
answers, which the isolate then holds if it still holds none. -/
def takeKey {ε : Type} (isolate : Nat) (slot : RotationSlot) (unbound : String → ε)
    (read : Except String (Option String) → Except ε Mek) : Handling ε Mek := do
  match ← await (.mekCache isolate slot) with
  | some mek => return mek
  | none =>
    match ← await (.secretStore slot) with
    | some e => .fail (unbound e)
    | none =>
      let answer ← getWithRetry slot
      let mek ← ofExcept (read answer)
      await (.mekCacheSet isolate slot mek)
      return mek

variable (a : Admin)

/-- `get_mek_from_secrets`. -/
def getMekFromSecrets (isolate : Nat) : Handling EncryptionError Mek :=
  takeKey isolate .current mekUnbound (readMek a.refusal)

/-- `get_mek_secondary_from_secrets`. -/
def getMekSecondaryFromSecrets {ε : Type} (isolate : Nat) : Handling ε (Option Mek) := do
  let taken ← attempt (takeKey isolate .previous (fun _ => ()) fun answer =>
    (readMekSecondary answer).elim (.error ()) .ok)
  return taken.toOption

/-- A call of a getter elsewhere in the isolate, in the hosted flow. -/
def takeHosted (isolate : Nat) : RotationSlot → Handling EncryptionError (Option Mek)
  | .current => getMekFromSecrets a isolate >>= fun mek => .ret (some mek)
  | .previous => getMekSecondaryFromSecrets isolate

/-- `fingerprint6_bytes`. -/
def fingerprint6Bytes (bytes : Bytes) : String :=
  if bytes = [] then fingerprintUnset
  else
    match a.app.sha256 bytes with
    | x :: y :: z :: _ => Idempotency.hexEncode [x, y, z]
    | _ => fingerprintUnset

/-- `decode_and_cache`: the fingerprint of the text, and whether it is a key. -/
def decodeAndCache {ε : Type} (isolate : Nat) (slot : RotationSlot) (rawB64 : String) :
    Handling ε (String × Bool) := do
  let fingerprint := fingerprint6Bytes a (utf8Bytes rawB64)
  match decodeMek rawB64 with
  | none => return (fingerprint, false)
  | some mek =>
    await (.mekCacheSet isolate slot mek)
    return (fingerprint, true)

/-- What `preload_hosted_mek` does for a slot. It never fails, and does not look whether a key is
held. -/
def preloadHostedMek (isolate : Nat) (slot : RotationSlot) :
    Handling Empty (Option (String × Bool)) := do
  match ← await (.secretStore slot) with
  | some _ => return none
  | none =>
    match ← getWithRetry slot with
    | .ok (some rawB64) =>
      if rawB64 = "" then return none
      else return some (← decodeAndCache a isolate slot rawB64)
    | _ => return none

/-! ## The handlers -/

/-- `decrypt_hmac_secret`. -/
def decryptHmacSecret (encrypted : EncryptedSecret) (mek : Bytes) : Except ApiError Bytes :=
  (decryptHmacSecretWithFallbackTracked a.aead a.refusal encrypted mek none none).1

/-- The response of the probe. -/
def probeResponse (req : MekProbeRequest) (found : Option (RotationSlot × Bytes)) :
    MekProbeResponse :=
  let actual := (found.map fun f => fingerprint6Bytes a f.2).getD fingerprintUnset
  { ok := decide (actual = req.expectedPlaintextFingerprint) && found.isSome
    slot := found.map Prod.fst
    actualFingerprint := actual }

/-- What the body of a probe holds. -/
def readProbe (body : Bytes) : Except ApiError (MekProbeRequest × EncryptedSecret) :=
  match a.parseProbe body with
  | .error e => .error (.badRequestWith "INVALID_BODY" none e)
  | .ok req =>
    match a.decodeStandard req.encryptedSecret with
    | none => .error (.badRequestWith "INVALID_BASE64" (some "encrypted_secret")
      "encrypted_secret must be standard-base64 of the EncryptedSecret JSON")
    | some envelopeBytes =>
      match a.parseEnvelope envelopeBytes with
      | .error e => .error (.badRequestWith "INVALID_ENVELOPE" (some "encrypted_secret")
        ("EncryptedSecret JSON parse failed: " ++ e))
      | .ok envelope => .ok (req, envelope)

/-- `handle_mek_decrypt_probe`. -/
def handleMekDecryptProbe (isolate : Nat) (body : Bytes) :
    Handling ApiError MekProbeResponse := do
  let (req, envelope) ← ofExcept (readProbe a body)
  match ← attempt (getMekFromSecrets a isolate) with
  | .error e => .fail (.internal ("HOSTED_MEK unavailable: " ++ a.display e))
  | .ok currentMek =>
    match decryptHmacSecret a envelope currentMek.val with
    | .ok plaintext => return probeResponse a req (some (.current, plaintext))
    | .error _ =>
      match ← getMekSecondaryFromSecrets isolate with
      | none => return probeResponse a req none
      | some prevMek =>
        match decryptHmacSecret a envelope prevMek.val with
        | .ok plaintext => return probeResponse a req (some (.previous, plaintext))
        | .error _ => return probeResponse a req none

/-- The headers that a saved token is replayed with. -/
def probeHeaders (authorization : String) : HeaderSource := fun name =>
  .ok (if name = "Authorization" then some authorization else none)

/-- `handle_replay_pre_rotation_token`. -/
def handleReplayPreRotationToken (body : Bytes) : Handling ApiError ReplayTokenResponse := do
  match a.parseReplay body with
  | .error e => .fail (.badRequestWith "INVALID_BODY" none e)
  | .ok token =>
    match a.setHeader ("Bearer " ++ token) with
    | .error e => .fail (.internal ("header build failed: " ++ e))
    | .ok bearer =>
      match ← await (.statusAuth (probeHeaders bearer)) with
      | .ok _ => return ⟨false, "token still accepted"⟩
      | .error e => return ⟨true, a.debug e⟩

/-- The deletions of a page, on from a count. -/
def deletePage : List String → Nat → Handling ApiError Nat
  | [], deleted => .ret deleted
  | name :: rest, deleted =>
    if startsWith name banTestPrefix then do
      match ← await (.deleteBan name) with
      | some e => .fail (.internal ("KV delete failed: " ++ e))
      | none => deletePage rest (satSuccU32 deleted)
    else deletePage rest deleted

/-- The loop over the pages; `none` when the runtime ends it. -/
def clearPages : Nat → Option String → Nat → Handling ApiError (Option Nat)
  | 0, _, _ => .ret none
  | listings + 1, cursor, deleted => do
    match ← await (.listBans banTestPrefix cursor) with
    | .error e => .fail (.internal ("KV list failed: " ++ e))
    | .ok page =>
      let deleted ← deletePage page.keys deleted
      if page.listComplete then return some deleted
      else
        match page.cursor with
        | none => return some deleted
        | some cursor => clearPages listings (some cursor) deleted

/-- `clear_bans_test_prefix`. -/
def clearBansTestPrefix : Handling ApiError (Option Nat) :=
  match a.banlistError with
  | some e => .fail (.internal ("VERIFIER_KV_BANLIST binding unavailable: " ++ e))
  | none => clearPages a.listings none 0

/-- `handle_delete_test_fixtures`. -/
def handleDeleteTestFixtures (fixtureClass : String) : Handling ApiError (Option Nat) :=
  if fixtureClass = "bans" then clearBansTestPrefix a
  else .fail (.badRequestWith "UNSUPPORTED_CLASS" (some "class")
    ("provii-verifier does not own fixture class '" ++ fixtureClass ++ "'"))

/-- A handler behind a limit on the body. -/
def withBody {α : Type} (req : TestOrigins.Request) (max : Nat)
    (handle : Bytes → Handling ApiError α) : Handling Refusal α := do
  match TestOrigins.readLimitedBody req max with
  | none => .fail (.plain "Request entity too large" 413)
  | some body =>
    match ← attempt (handle body) with
    | .error e => .fail (.error e)
    | .ok r => return r

/-- The handler of a route. -/
def handleRoute (r : AdminRequest) : Handling Refusal Answer := do
  match r.route with
  | .mekDecryptProbe =>
    return .probed (← withBody r.request (64 * 1024) (handleMekDecryptProbe a r.isolate))
  | .replaySavedPreRotationToken =>
    return .replayed (← withBody r.request (16 * 1024) (handleReplayPreRotationToken a))
  | .testFixtures => return .manifest
  | .deleteTestFixtures fixtureClass =>
    match ← attempt (handleDeleteTestFixtures a fixtureClass) with
    | .error e => .fail (.error e)
    | .ok none => .fail .cutOff
    | .ok (some deleted) => return .cleared deleted

/-- `get_client_ip`, hashed. -/
def ipHash (r : AdminRequest) : Label :=
  a.hashIp ((r.request.headers "CF-Connecting-IP").getD "unknown")

/-- A route, with what stands before it. -/
def serve (r : AdminRequest) : Handling Refusal Answer := do
  -- `reject_external_internal_traffic`
  if (r.request.headers "CF-Connecting-IP").getD "" ≠ "" then .fail (.plain "Unauthorized" 401)
  else if a.rateLimitBinding = false then
    .fail (.plain "Service temporarily unavailable" 503)
  else do
    match ← attempt (adminRateLimitCheck (ipHash a r) r.route.roleTag) with
    | .error retry => .fail (.rateLimited retry)
    | .ok () =>
      match ← attempt (authenticateAdminEndpoint r.request.headers r.route.roleTag) with
      | .error e =>
        recordAdminAuthFailure (ipHash a r) r.route.roleTag
        .fail (.unauthenticated e)
      | .ok () => handleRoute a r

/-! ## What a request goes through -/

section Guards

variable {a : Admin} {r : AdminRequest} {h h' : History Op Res} {key : String}

/-- Who is counted: the role and the address of a request. -/
def lockKeyOf (a : Admin) (r : AdminRequest) : String := lockKey r.route.roleTag (ipHash a r)

/-- A write of a counter. -/
def Puts (key : String) (op : Op) : Prop := ∃ count ttl, op = .counterPut key count ttl

/-- A request has found a counter below a limit, has not written it, and now adds one to what it
last read. -/
structure Metered (key : String) (limit : Nat) (h : History Op Res) (count : Nat) : Prop where
  below : ∃ stored, ⟨.counterGet key, some stored⟩ ∈ h ∧ countIn (some stored) < limit
  counted : ∃ read, ⟨.counterGet key, read⟩ ∈ h ∧ count = satSuccU32 (countIn read)
  first : ∀ x ∈ h, ¬ Puts key x.1

/-- The status slots have verified a request, and its nonce was new under its role. -/
structure Authenticated (r : AdminRequest) (h : History Op Res) : Prop where
  verified : ∃ outcome, ⟨.statusAuth fun name => .ok (r.request.headers name), .ok outcome⟩ ∈ h
  unused : ∃ nonce, r.request.headers "X-Nonce" = some nonce ∧
    ⟨.service (.nonceDO (InternalReplay.nonceTag r.route.roleTag nonce)
      (NonceStore.ttlBody InternalReplay.internalReplayNonceTtlSecs)),
      some (.verdict true)⟩ ∈ h

theorem Authenticated.mono (hs : h <:+ h') (ha : Authenticated r h) : Authenticated r h' := by
  obtain ⟨⟨outcome, hverified⟩, nonce, hnonce, hnew⟩ := ha
  exact ⟨⟨outcome, hs.subset hverified⟩, nonce, hnonce, hs.subset hnew⟩

/-- The request was counted in its hour. -/
def Counted (a : Admin) (r : AdminRequest) (h : History Op Res) : Prop :=
  ∃ hour count, ⟨.counterPut (hourKey r.route.roleTag (ipHash a r) hour) count 7200, ()⟩ ∈ h

/-- The request has found its failures below the limit, and has not added to them. -/
structure Open (a : Admin) (r : AdminRequest) (h : History Op Res) : Prop where
  below : ∃ stored, ⟨.counterGet (lockKeyOf a r), some stored⟩ ∈ h ∧
    countIn (some stored) < adminLockoutThreshold
  counted : Counted a r h
  first : ∀ x ∈ h, ¬ Puts (lockKeyOf a r) x.1

/-- The Secrets Store has answered the key. -/
def Fetched (slot : RotationSlot) (h : History Op Res) (mek : Mek) : Prop :=
  ∃ attempt mekB64, ⟨.secretGet slot attempt, .ok (some mekB64)⟩ ∈ h ∧ decodeMek mekB64 = some mek

theorem Fetched.mono {slot : RotationSlot} {mek : Mek} (hs : h <:+ h') (hf : Fetched slot h mek) :
    Fetched slot h' mek := by
  obtain ⟨attempt, mekB64, hanswer, hdecode⟩ := hf
  exact ⟨attempt, mekB64, hs.subset hanswer, hdecode⟩

/-- The key that a request has taken: its isolate held it, or held none, and the Secrets Store
answered it. -/
inductive Took (isolate : Nat) (slot : RotationSlot) (h : History Op Res) (mek : Mek) : Prop
  | held (hheld : ⟨.mekCache isolate slot, some mek⟩ ∈ h)
  | fetched (hnone : ⟨.mekCache isolate slot, none⟩ ∈ h) (hfetched : Fetched slot h mek)
      (hset : ⟨.mekCacheSet isolate slot mek, ()⟩ ∈ h)

theorem Took.mono {isolate : Nat} {slot : RotationSlot} {mek : Mek} (hs : h <:+ h')
    (ht : Took isolate slot h mek) : Took isolate slot h' mek := by
  cases ht with
  | held hheld => exact .held (hs.subset hheld)
  | fetched hnone hfetched hset =>
    exact .fetched (hs.subset hnone) (hfetched.mono hs) (hs.subset hset)

/-- What a request has done when it takes a step. -/
def Guards (a : Admin) (r : AdminRequest) (h : History Op Res) : Op → Prop
  | .counterPut key count ttl =>
    (∃ hour, key = hourKey r.route.roleTag (ipHash a r) hour ∧
      Metered key adminRlLimitPerHour h count ∧ ttl = 7200) ∨
    key = lockKeyOf a r ∧ Metered key adminLockoutThreshold h count ∧ ttl = adminLockoutTtlSecs
  | .statusAuth _ => Counted a r h
  | .mekCacheSet isolate slot mek => isolate = r.isolate ∧ Fetched slot h mek
  | .deleteBan key => startsWith key banTestPrefix = true ∧
      r.route = .deleteTestFixtures "bans" ∧ Authenticated r h
  | .writeBan _ _ => False
  | _ => True

/-- A page was listed, and then the bans of the tests on it were deleted. -/
def PageDone (h : History Op Res) (cursor : Option String) (page : Listing) : Prop :=
  ∃ later past, h = later ++ ⟨.listBans banTestPrefix cursor, .ok page⟩ :: past ∧
    ∀ key ∈ page.keys, startsWith key banTestPrefix = true → ⟨.deleteBan key, none⟩ ∈ later

/-- All pages from a cursor on are done. -/
inductive Swept (h : History Op Res) : Option String → Prop
  | last {cursor : Option String} {page : Listing} (hdone : PageDone h cursor page)
      (hlast : page.listComplete = true ∨ page.cursor = none) : Swept h cursor
  | more {cursor : Option String} {page : Listing} {next : String} (hdone : PageDone h cursor page)
      (hnext : page.cursor = some next) (hrest : Swept h (some next)) : Swept h cursor

/-- The response of a probe is of what the keys decrypt. -/
inductive Probed (a : Admin) (isolate : Nat) (h : History Op Res) (req : MekProbeRequest)
    (envelope : EncryptedSecret) : MekProbeResponse → Prop
  | current {mek : Mek} {plaintext : Bytes} (hmek : Took isolate .current h mek)
      (hdecrypt : decryptHmacSecret a envelope mek.val = .ok plaintext) :
      Probed a isolate h req envelope (probeResponse a req (some (.current, plaintext)))
  | previous {mek prev : Mek} {e : ApiError} {plaintext : Bytes}
      (hmek : Took isolate .current h mek) (hprev : Took isolate .previous h prev)
      (hfailed : decryptHmacSecret a envelope mek.val = .error e)
      (hdecrypt : decryptHmacSecret a envelope prev.val = .ok plaintext) :
      Probed a isolate h req envelope (probeResponse a req (some (.previous, plaintext)))
  | neither {mek : Mek} {prev : Option Mek} {e : ApiError}
      (hmek : Took isolate .current h mek) (hprev : ∀ m, prev = some m → Took isolate .previous h m)
      (hfailed : decryptHmacSecret a envelope mek.val = .error e)
      (hnone : ∀ m, prev = some m → ∃ e, decryptHmacSecret a envelope m.val = .error e) :
      Probed a isolate h req envelope (probeResponse a req none)

/-- What an answer tells of. -/
def Tells (a : Admin) (r : AdminRequest) (h : History Op Res) : Answer → Prop
  | .probed response => ∃ body req envelope,
      TestOrigins.readLimitedBody r.request (64 * 1024) = some body ∧
      readProbe a body = .ok (req, envelope) ∧ Probed a r.isolate h req envelope response
  | .replayed response => ∃ body token bearer outcome,
      TestOrigins.readLimitedBody r.request (16 * 1024) = some body ∧
      a.parseReplay body = .ok token ∧ a.setHeader ("Bearer " ++ token) = .ok bearer ∧
      ⟨.statusAuth (probeHeaders bearer), outcome⟩ ∈ h ∧
      (response.rejected = true ↔ ∃ e, outcome = .error e)
  | .manifest => r.route = .testFixtures
  | .cleared _ => r.route = .deleteTestFixtures "bans" ∧ Swept h none

/-- What a request has done when it ends. -/
def Ends (a : Admin) (r : AdminRequest) (h : History Op Res) : Except Refusal Answer → Prop
  | .ok answer => Authenticated r h ∧ Tells a r h answer
  | .error (.unauthenticated _) =>
    ∃ count, ⟨.counterPut (lockKeyOf a r) count adminLockoutTtlSecs, ()⟩ ∈ h
  | .error _ => True

theorem guarded_await_bind {ε β : Type} {G : History Op Res → Op → Prop}
    {Q : History Op Res → Except ε β → Prop} {op : Op} {f : Res op → Handling ε β} :
    (await op >>= f).Guarded G Q h ↔ G h op ∧ ∀ res, (f res).Guarded G Q (⟨op, res⟩ :: h) :=
  Iff.rfl

theorem hourKey_ne_lockKey {roleTag roleTag' : String} {ip ip' : Label} {hour : Nat} :
    hourKey roleTag ip hour ≠ lockKey roleTag' ip' := by
  intro heq
  have hlist := congrArg String.toList heq
  unfold hourKey lockKey at hlist
  simp only [String.toList_append, List.append_assoc] at hlist
  have hseventh := congrArg (fun l => l[6]?) hlist
  simp at hseventh

/-! ### The gate -/

theorem guarded_adminRateLimitCheck :
    Guarded (Guards a r) (fun h' res => res = .ok () → Open a r h') []
      (adminRateLimitCheck (ipHash a r) r.route.roleTag) := by
  unfold adminRateLimitCheck
  refine guarded_await_bind.mpr ⟨trivial, fun nowSecs => ?_⟩
  refine guarded_await_bind.mpr ⟨trivial, fun stored => ?_⟩
  cases stored with
  | none => exact nofun
  | some stored =>
    dsimp only
    split
    · exact nofun
    · next hroom =>
      refine guarded_await_bind.mpr ⟨trivial, fun locked => ?_⟩
      cases locked with
      | none => exact nofun
      | some locked =>
        dsimp only
        split
        · exact nofun
        · next hopen =>
          have hmetered : Metered (hourKey r.route.roleTag (ipHash a r) (hourTs nowSecs))
              adminRlLimitPerHour
              [⟨.counterGet (lockKeyOf a r), some locked⟩,
                ⟨.counterGet (hourKey r.route.roleTag (ipHash a r) (hourTs nowSecs)), some stored⟩,
                ⟨.now, nowSecs⟩] (satSuccU32 (parseCount (stored.getD 0))) :=
            { below := ⟨stored, by simp, Nat.lt_of_not_le hroom⟩
              counted := ⟨some stored, by simp, rfl⟩
              first := by
                rintro x hx ⟨count, ttl, hput⟩
                simp only [List.mem_cons, List.not_mem_nil, or_false] at hx
                rcases hx with rfl | rfl | rfl <;> cases hput }
          refine guarded_call.mpr ⟨.inl ⟨hourTs nowSecs, rfl, hmetered, rfl⟩, fun _ _ => ?_⟩
          refine ⟨⟨locked, by simp [lockKeyOf], Nat.lt_of_not_le hopen⟩,
            ⟨hourTs nowSecs, _, List.mem_cons_self⟩, ?_⟩
          rintro x hx ⟨count, ttl, hput⟩
          rcases List.mem_cons.mp hx with rfl | hx
          · injection hput with hkey
            exact hourKey_ne_lockKey hkey
          · simp only [List.mem_cons, List.not_mem_nil, or_false] at hx
            rcases hx with rfl | rfl | rfl <;> cases hput

/-- A history of the service as that of a request. -/
def ofService (h : History ProviiVerifier.Op ProviiVerifier.Res) : History Op Res :=
  h.map fun x => ⟨.service x.1, x.2⟩

theorem guarded_onService {α : Type} {p : Handler α}
    {Q : History ProviiVerifier.Op ProviiVerifier.Res → Except ApiError α → Prop}
    {past : History ProviiVerifier.Op ProviiVerifier.Res}
    (hp : p.Guarded (fun _ _ => True) Q past) :
    Guarded (fun _ op => ∃ o, op = .service o)
      (fun h' res => ∃ past', h' = ofService past' ++ h ∧ Q past' res) (ofService past ++ h)
      (onService p) := by
  induction p generalizing past with
  | ret a => exact ⟨past, rfl, hp⟩
  | fail e => exact ⟨past, rfl, hp⟩
  | call op k ih => exact ⟨⟨op, rfl⟩, fun res => ih res (hp.2 res)⟩

/-- The replay window is passed with a new nonce only. -/
theorem guarded_enforce {headers : Headers} {roleTag : String} :
    Guarded (fun _ _ => True) (fun past res => ∀ outcome, res = .ok outcome →
        ∃ nonce, headers "X-Nonce" = some nonce ∧
          (⟨.nonceDO (InternalReplay.nonceTag roleTag nonce)
            (NonceStore.ttlBody InternalReplay.internalReplayNonceTtlSecs),
            some (.verdict true)⟩ : Sigma ProviiVerifier.Res) ∈ past) []
      (enforceInternalReplayWindow headers roleTag) := by
  unfold enforceInternalReplayWindow
  split
  · exact nofun
  · split
    · exact nofun
    · next nonce hnonce =>
      split
      · exact nofun
      · split
        · exact nofun
        · refine ProviiVerifier.guarded_await_bind.mpr ⟨trivial, fun serverTime => ?_⟩
          split
          · exact nofun
          · refine guarded_bind.mpr (guarded_attempt.mpr ?_)
            have hcheck : Guarded (fun _ _ => True) (fun past res => res = .ok true →
                (⟨.nonceDO (InternalReplay.nonceTag roleTag nonce)
                  (NonceStore.ttlBody InternalReplay.internalReplayNonceTtlSecs),
                  some (.verdict true)⟩ : Sigma ProviiVerifier.Res) ∈ past)
                [⟨.timestamp, serverTime⟩]
                (NonceStore.checkAndSet (InternalReplay.nonceTag roleTag nonce)
                  InternalReplay.internalReplayNonceTtlSecs) := by
              unfold NonceStore.checkAndSet
              split
              · exact nofun
              · split
                · exact nofun
                · split
                  · exact nofun
                  · split
                    · exact nofun
                    · refine ProviiVerifier.guarded_await_bind.mpr ⟨trivial, fun reply => ?_⟩
                      rcases reply with _ | ⟨success | code⟩
                      · exact nofun
                      · intro hres
                        cases hres
                        exact List.mem_cons_self
                      · exact nofun
            refine hcheck.imp (fun _ _ g => g) ?_
            rintro past (e | success) hnew
            · exact nofun
            · cases success with
              | false => exact nofun
              | true => exact fun _ _ => ⟨nonce, (Option.filter_eq_some_iff.mp hnonce).1, hnew rfl⟩

/-- What a request asks to be authenticated. -/
def Asks (op : Op) : Prop := (∃ headers, op = .statusAuth headers) ∨ ∃ o, op = .service o

theorem guarded_authenticateAdminEndpoint :
    Guarded (fun _ op => Asks op) (fun h' res => res = .ok () → Authenticated r h') h
      (authenticateAdminEndpoint r.request.headers r.route.roleTag) := by
  unfold authenticateAdminEndpoint
  refine guarded_await_bind.mpr ⟨.inl ⟨_, rfl⟩, fun answer => ?_⟩
  cases answer with
  | error e => exact nofun
  | ok outcome =>
    refine guarded_bind.mpr ((guarded_onService guarded_enforce).imp
      (fun _ _ hop => .inr hop) ?_)
    rintro h' (e | checked) ⟨past, rfl, hpast⟩
    · exact nofun
    · intro _
      obtain ⟨nonce, hnonce, hnew⟩ := hpast checked rfl
      refine ⟨⟨outcome, List.mem_append_right _ List.mem_cons_self⟩, nonce, hnonce, ?_⟩
      exact List.mem_append_left _ (List.mem_map_of_mem hnew)

theorem guarded_recordAdminAuthFailure {ε : Type} (hopen : Open a r h) :
    Guarded (Guards a r)
      (fun h' _ => ∃ count, ⟨.counterPut (lockKeyOf a r) count adminLockoutTtlSecs, ()⟩ ∈ h') h
      (recordAdminAuthFailure (ipHash a r) r.route.roleTag : Handling ε Unit) := by
  unfold recordAdminAuthFailure
  refine guarded_await_bind.mpr ⟨trivial, fun read => ?_⟩
  obtain ⟨stored, hstored, hbelow⟩ := hopen.below
  have hmetered : Metered (lockKeyOf a r) adminLockoutThreshold
      (⟨.counterGet (lockKeyOf a r), read⟩ :: h) (satSuccU32 (countIn read)) :=
    { below := ⟨stored, List.mem_cons_of_mem _ hstored, hbelow⟩
      counted := ⟨read, List.mem_cons_self, rfl⟩
      first := by
        rintro x hx hput
        rcases List.mem_cons.mp hx with rfl | hx
        · obtain ⟨count, ttl, hput⟩ := hput
          cases hput
        · exact hopen.first x hx hput }
  refine guarded_call.mpr ⟨.inr ⟨rfl, hmetered, rfl⟩, fun _ => ?_⟩
  exact ⟨_, List.mem_cons_self⟩

/-! ### The handlers -/

theorem guarded_deletePage {names : List String} {deleted : Nat} :
    Guarded (fun _ op => ∃ key, op = .deleteBan key ∧ startsWith key banTestPrefix = true)
      (fun h' res => ∀ d, res = .ok d → ∃ later, h' = later ++ h ∧
        ∀ key ∈ names, startsWith key banTestPrefix = true → ⟨.deleteBan key, none⟩ ∈ later) h
      (deletePage names deleted) := by
  induction names generalizing h deleted with
  | nil => exact fun _ _ => ⟨[], rfl, fun _ hkey => absurd hkey List.not_mem_nil⟩
  | cons name rest ih =>
    unfold deletePage
    split
    · next htest =>
      refine guarded_await_bind.mpr ⟨⟨name, rfl, htest⟩, fun error => ?_⟩
      cases error with
      | some e => exact nofun
      | none =>
        refine ih.imp (fun _ _ hop => hop) ?_
        intro h' res hres d hd
        obtain ⟨later, rfl, hall⟩ := hres d hd
        refine ⟨later ++ [⟨.deleteBan name, none⟩], (List.append_cons later _ h), ?_⟩
        intro key hkey hstart
        rcases List.mem_cons.mp hkey with rfl | hkey
        · exact List.mem_append_right _ (List.mem_singleton_self _)
        · exact List.mem_append_left _ (hall key hkey hstart)
    · next htest =>
      refine ih.imp (fun _ _ hop => hop) ?_
      intro h' res hres d hd
      obtain ⟨later, rfl, hall⟩ := hres d hd
      refine ⟨later, rfl, fun key hkey hstart => ?_⟩
      rcases List.mem_cons.mp hkey with rfl | hkey
      · exact absurd hstart htest
      · exact hall key hkey hstart

theorem PageDone.mono {cursor : Option String} {page : Listing} (hs : h <:+ h')
    (hdone : PageDone h cursor page) : PageDone h' cursor page := by
  obtain ⟨more, rfl⟩ := hs
  obtain ⟨later, past, rfl, hall⟩ := hdone
  refine ⟨more ++ later, past, (List.append_assoc _ _ _).symm, ?_⟩
  exact fun key hkey hstart => List.mem_append_right _ (hall key hkey hstart)

theorem Swept.mono {cursor : Option String} (hs : h <:+ h') (hswept : Swept h cursor) :
    Swept h' cursor := by
  induction hswept with
  | last hdone hlast => exact .last (hdone.mono hs) hlast
  | more hdone hnext _ ih => exact .more (hdone.mono hs) hnext ih

/-- What the loop over the pages does. -/
def Clears (op : Op) : Prop :=
  (∃ cursor, op = .listBans banTestPrefix cursor) ∨
    ∃ key, op = .deleteBan key ∧ startsWith key banTestPrefix = true

/-- **The loop** is told the number when all pages are done. -/
theorem guarded_clearPages {listings deleted : Nat} {cursor : Option String} :
    Guarded (fun _ op => Clears op)
      (fun h' res => ∀ d, res = .ok (some d) → Swept h' cursor) h
      (clearPages listings cursor deleted) := by
  induction listings generalizing h cursor deleted with
  | zero => exact nofun
  | succ listings ih =>
    unfold clearPages
    refine guarded_await_bind.mpr ⟨.inl ⟨cursor, rfl⟩, fun answer => ?_⟩
    cases answer with
    | error e => exact nofun
    | ok page =>
      have hpage : Guarded (fun _ op => Clears op) (fun h' res => ∀ d, res = .ok d →
          PageDone h' cursor page) (⟨.listBans banTestPrefix cursor, .ok page⟩ :: h)
          (deletePage page.keys deleted) := by
        refine guarded_deletePage.imp (fun _ _ hop => .inr hop) ?_
        intro h' res hres d hd
        obtain ⟨later, hlater, hall⟩ := hres d hd
        exact ⟨later, h, hlater, hall⟩
      refine hpage.bind ?_ fun _ _ _ _ => nofun
      intro h' d _ hdone
      have hdone : PageDone h' cursor page := hdone d rfl
      split
      · next hcomplete => exact fun _ _ => .last hdone (.inl hcomplete)
      · split
        · next hnone => exact fun _ _ => .last hdone (.inr hnone)
        · next next hnext =>
          refine ih.suffix.imp (fun _ _ hop => hop.2) ?_
          rintro h₁ res ⟨hs, hres⟩ d' hd'
          exact .more (hdone.mono hs) hnext (hres d' hd')

theorem guarded_handleDeleteTestFixtures {fixtureClass : String} :
    Guarded (fun _ op => fixtureClass = "bans" ∧ Clears op)
      (fun h' res => ∀ d, res = .ok (some d) → fixtureClass = "bans" ∧ Swept h' none) h
      (handleDeleteTestFixtures a fixtureClass) := by
  unfold handleDeleteTestFixtures clearBansTestPrefix
  split
  · next hbans =>
    split
    · exact nofun
    · refine guarded_clearPages.imp (fun _ _ hop => ⟨hbans, hop⟩) ?_
      intro h' res hres d hd
      exact ⟨hbans, hres d hd⟩
  · exact nofun

/-- A step towards a key. A key is set once it was fetched. -/
def TakesKey (isolate : Nat) (h : History Op Res) : Op → Prop
  | .mekCache _ _ | .secretStore _ | .secretGet _ _ => True
  | .mekCacheSet n slot mek => n = isolate ∧ Fetched slot h mek
  | _ => False

theorem TakesKey.guards {op : Op} (hop : TakesKey r.isolate h op) : Guards a r h op := by
  cases op with
  | mekCache isolate slot => trivial
  | secretStore slot => trivial
  | secretGet slot attempt => trivial
  | mekCacheSet isolate slot mek => exact hop
  | _ => cases hop

theorem guarded_getWithRetry {ε : Type} {isolate : Nat} {slot : RotationSlot} :
    Guarded (TakesKey isolate) (fun h' res => ∀ mekB64, res = .ok (.ok (some mekB64)) →
        ∃ attempt, ⟨.secretGet slot attempt, .ok (some mekB64)⟩ ∈ h') h
      (getWithRetry slot : Handling ε _) := by
  have hanswered : ∀ {h : History Op Res} {attempt : Nat} {value : Option String} (mekB64 : String),
      (Except.ok (.ok value) : Except ε (Except String (Option String))) =
          .ok (.ok (some mekB64)) →
        ∃ n, ⟨.secretGet slot n, .ok (some mekB64)⟩ ∈
          (⟨.secretGet slot attempt, .ok value⟩ :: h : History Op Res) := by
    rintro h attempt value mekB64 ⟨⟩
    exact ⟨attempt, List.mem_cons_self⟩
  unfold getWithRetry
  refine guarded_await_bind.mpr ⟨trivial, fun first => ?_⟩
  cases first with
  | ok value => exact hanswered
  | error e =>
    refine guarded_await_bind.mpr ⟨trivial, fun second => ?_⟩
    cases second with
    | ok value => exact hanswered
    | error e' =>
      refine guarded_call.mpr ⟨trivial, fun third => ?_⟩
      cases third with
      | ok value => exact hanswered
      | error e'' => exact nofun

/-- **A key is taken** from the isolate or from the Secrets Store. -/
theorem guarded_takeKey {ε : Type} {isolate : Nat} {slot : RotationSlot} {unbound : String → ε}
    {read : Except String (Option String) → Except ε Mek}
    (hread : ∀ answer mek, read answer = .ok mek →
      ∃ mekB64, answer = .ok (some mekB64) ∧ decodeMek mekB64 = some mek) :
    Guarded (TakesKey isolate) (fun h' res => ∀ mek, res = .ok mek → Took isolate slot h' mek) h
      (takeKey isolate slot unbound read) := by
  unfold takeKey
  refine guarded_await_bind.mpr ⟨trivial, fun cached => ?_⟩
  cases cached with
  | some mek =>
    rintro mek' ⟨⟩
    exact .held List.mem_cons_self
  | none =>
    refine guarded_await_bind.mpr ⟨trivial, fun error => ?_⟩
    cases error with
    | some e => exact nofun
    | none =>
      refine guarded_getWithRetry.bind ?_ fun _ _ _ _ => nofun
      intro h₁ answer hs hanswer
      refine guarded_ofExcept_bind (fun mek hmek => ?_) fun _ _ => nofun
      obtain ⟨mekB64, rfl, hdecode⟩ := hread answer mek hmek
      obtain ⟨attempt, hgot⟩ := hanswer mekB64 rfl
      have hfetched : Fetched slot h₁ mek := ⟨attempt, mekB64, hgot, hdecode⟩
      refine guarded_await_bind.mpr ⟨⟨rfl, hfetched⟩, fun _ => ?_⟩
      rintro mek' ⟨⟩
      refine .fetched (List.mem_cons_of_mem _ (hs.subset ?_))
        (hfetched.mono (List.suffix_cons _ _)) List.mem_cons_self
      exact List.mem_cons_of_mem _ List.mem_cons_self

theorem readMek_ok {refusal : String → String} {answer : Except String (Option String)} {mek : Mek}
    (h : readMek refusal answer = .ok mek) :
    ∃ mekB64, answer = .ok (some mekB64) ∧ decodeMek mekB64 = some mek := by
  rcases answer with e | _ | mekB64
  · cases h
  · cases h
  · refine ⟨mekB64, rfl, ?_⟩
    unfold readMek at h
    dsimp only at h
    split at h
    · cases h
    · next bytes hbytes =>
      split at h
      · next hlen =>
        injection h with h
        unfold decodeMek
        rw [hbytes]
        dsimp only
        rw [dif_pos hlen, h]
      · cases h

theorem readMekSecondary_some {answer : Except String (Option String)} {mek : Mek}
    (h : readMekSecondary answer = some mek) :
    ∃ mekB64, answer = .ok (some mekB64) ∧ decodeMek mekB64 = some mek := by
  rcases answer with e | _ | mekB64
  · cases h
  · cases h
  · exact ⟨mekB64, rfl, h⟩

theorem guarded_getMekFromSecrets {isolate : Nat} :
    Guarded (TakesKey isolate)
      (fun h' res => ∀ mek, res = .ok mek → Took isolate .current h' mek) h
      (getMekFromSecrets a isolate) :=
  guarded_takeKey fun _ _ hread => readMek_ok hread

theorem guarded_getMekSecondaryFromSecrets {ε : Type} {isolate : Nat} :
    Guarded (TakesKey isolate)
      (fun h' res => ∀ mek, res = .ok (some mek) → Took isolate .previous h' mek) h
      (getMekSecondaryFromSecrets isolate : Handling ε _) := by
  have htaken : Guarded (TakesKey isolate)
      (fun h' res => ∀ mek, res = .ok mek → Took isolate .previous h' mek) h
      (takeKey isolate .previous (fun _ => ()) fun answer =>
        (readMekSecondary answer).elim (.error ()) .ok) := by
    refine guarded_takeKey fun answer mek hread => readMekSecondary_some ?_
    cases hfound : readMekSecondary answer with
    | none =>
      rw [hfound] at hread
      cases hread
    | some found =>
      rw [hfound] at hread
      injection hread with hread
      rw [hread]
  refine guarded_bind.mpr (guarded_attempt.mpr (htaken.imp (fun _ _ hop => hop) ?_))
  rintro h' (⟨⟩ | mek) htook
  · exact nofun
  · rintro mek' ⟨⟩
    exact htook mek rfl

theorem guarded_takeHosted {isolate : Nat} {slot : RotationSlot} :
    Guarded (TakesKey isolate) (fun _ _ => True) h (takeHosted a isolate slot) := by
  cases slot with
  | current =>
    exact guarded_getMekFromSecrets.bind (fun _ _ _ _ => trivial) fun _ _ _ _ => trivial
  | previous =>
    exact guarded_getMekSecondaryFromSecrets.imp (fun _ _ hop => hop) fun _ _ _ => trivial

/-- **A pre-load** sets a key that the Secrets Store answered. -/
theorem guarded_preloadHostedMek {isolate : Nat} {slot : RotationSlot} :
    Guarded (TakesKey isolate) (fun _ _ => True) h (preloadHostedMek a isolate slot) := by
  unfold preloadHostedMek
  refine guarded_await_bind.mpr ⟨trivial, fun error => ?_⟩
  cases error with
  | some e => trivial
  | none =>
    refine guarded_getWithRetry.bind ?_ fun _ _ _ _ => trivial
    rintro h₁ (e | _ | rawB64) - hanswer
    · trivial
    · trivial
    · obtain ⟨attempt, hgot⟩ := hanswer rawB64 rfl
      dsimp only
      split
      · trivial
      · unfold decodeAndCache
        dsimp only
        cases hdecode : decodeMek rawB64 with
        | none => trivial
        | some mek => exact ⟨⟨rfl, attempt, rawB64, hgot, hdecode⟩, fun _ => trivial⟩

theorem guarded_handleMekDecryptProbe {isolate : Nat} {body : Bytes} :
    Guarded (TakesKey isolate) (fun h' res => ∀ response, res = .ok response →
        ∃ req envelope, readProbe a body = .ok (req, envelope) ∧
          Probed a isolate h' req envelope response)
      h (handleMekDecryptProbe a isolate body) := by
  unfold handleMekDecryptProbe
  refine guarded_ofExcept_bind ?_ fun _ _ => nofun
  rintro ⟨req, envelope⟩ hread
  refine guarded_bind.mpr (guarded_attempt.mpr ?_)
  refine guarded_getMekFromSecrets.imp (fun _ _ hop => hop) ?_
  rintro h₁ (e | mek) hmek
  · exact nofun
  · have hmek : Took isolate .current h₁ mek := hmek mek rfl
    dsimp only [thenGuarded]
    split
    · next plaintext hdecrypt =>
      rintro response ⟨⟩
      exact ⟨req, envelope, hread, .current hmek hdecrypt⟩
    · next e hfailed =>
      refine guarded_getMekSecondaryFromSecrets.bind ?_ fun _ _ _ _ => nofun
      intro h₂ previous hs hprev
      have hmek : Took isolate .current h₂ mek := hmek.mono hs
      cases previous with
      | none =>
        have htook : ∀ m, none = some m → Took isolate .previous h₂ m := nofun
        rintro response ⟨⟩
        exact ⟨req, envelope, hread, .neither hmek htook hfailed nofun⟩
      | some prev =>
        have htook : ∀ m, some prev = some m → Took isolate .previous h₂ m := by
          rintro m ⟨⟩
          exact hprev prev rfl
        dsimp only
        split
        · next plaintext hdecrypt =>
          rintro response ⟨⟩
          exact ⟨req, envelope, hread, .previous hmek (htook prev rfl) hfailed hdecrypt⟩
        · next e' hboth =>
          rintro response ⟨⟩
          refine ⟨req, envelope, hread, .neither hmek htook hfailed ?_⟩
          rintro m ⟨⟩
          exact ⟨e', hboth⟩

theorem guarded_handleReplayPreRotationToken {body : Bytes} :
    Guarded (fun _ op => Asks op) (fun h' res => ∀ response, res = .ok response →
        ∃ token bearer outcome, a.parseReplay body = .ok token ∧
          a.setHeader ("Bearer " ++ token) = .ok bearer ∧
          ⟨.statusAuth (probeHeaders bearer), outcome⟩ ∈ h' ∧
          (response.rejected = true ↔ ∃ e, outcome = .error e))
      h (handleReplayPreRotationToken a body) := by
  unfold handleReplayPreRotationToken
  split
  · exact nofun
  · next token htoken =>
    split
    · exact nofun
    · next bearer hbearer =>
      refine guarded_await_bind.mpr ⟨.inl ⟨_, rfl⟩, fun outcome => ?_⟩
      cases outcome with
      | ok o =>
        rintro response ⟨⟩
        exact ⟨token, bearer, _, htoken, hbearer, List.mem_cons_self, nofun, nofun⟩
      | error e =>
        rintro response ⟨⟩
        exact ⟨token, bearer, _, htoken, hbearer, List.mem_cons_self, fun _ => ⟨e, rfl⟩,
          fun _ => rfl⟩

/-- A refusal of another kind. -/
def Passed {α : Type} (res : Except Refusal α) : Prop := ∀ e, res ≠ .error (.unauthenticated e)

/-- A handler behind the limit on its body. -/
theorem guarded_withBody {α : Type} {req : TestOrigins.Request} {max : Nat}
    {handle : Bytes → Handling ApiError α} {G : History Op Res → Op → Prop}
    {Q : Bytes → History Op Res → α → Prop}
    (hhandle : ∀ body, Guarded G (fun h' res => ∀ x, res = .ok x → Q body h' x) h (handle body)) :
    Guarded G (fun h' res => Passed res ∧ ∀ x, res = .ok x → ∃ body,
      TestOrigins.readLimitedBody req max = some body ∧ Q body h' x) h
      (withBody req max handle) := by
  unfold withBody
  split
  · exact ⟨nofun, nofun⟩
  · next body hbody =>
    refine guarded_bind.mpr (guarded_attempt.mpr ?_)
    refine (hhandle body).imp (fun _ _ hop => hop) ?_
    rintro h' (e | x) hres
    · exact ⟨nofun, nofun⟩
    · refine ⟨nofun, ?_⟩
      rintro y ⟨⟩
      exact ⟨body, hbody, hres x rfl⟩

theorem ends_of_passed {res : Except Refusal Answer} (hauth : Authenticated r h)
    (hpassed : Passed res) (htells : ∀ answer, res = .ok answer → Tells a r h answer) :
    Ends a r h res := by
  rcases res with (_ | _ | e | _ | _) | answer
  · trivial
  · trivial
  · exact absurd rfl (hpassed e)
  · trivial
  · trivial
  · exact ⟨hauth, htells answer rfl⟩

/-- The answer of a handler behind the limit on its body. -/
theorem guarded_answer {α : Type} {p : Handling Refusal α} {G : History Op Res → Op → Prop}
    {Q : History Op Res → α → Prop} {f : α → Answer} (hauth : Authenticated r h)
    (hp : Guarded G (fun h' res => Passed res ∧ ∀ x, res = .ok x → Q h' x) h p)
    (hG : ∀ h' op, h <:+ h' → G h' op → Guards a r h' op)
    (hQ : ∀ h' x, Q h' x → Tells a r h' (f x)) :
    Guarded (Guards a r) (Ends a r) h (p >>= fun x => .ret (f x)) := by
  refine guarded_bind.mpr (hp.suffix.imp (fun h' op hop => hG h' op hop.1 hop.2) ?_)
  rintro h' (e | x) ⟨hs, hpassed, hres⟩
  · refine ends_of_passed (hauth.mono hs) ?_ nofun
    rintro e' ⟨⟩
    exact hpassed e' rfl
  · exact ⟨hauth.mono hs, hQ h' x (hres x rfl)⟩

/-- What the handler of a route does once the request is authenticated. -/
theorem guarded_handleRoute (hauth : Authenticated r h) (hcounted : Counted a r h) :
    Guarded (Guards a r) (Ends a r) h (handleRoute a r) := by
  unfold handleRoute
  split
  · refine guarded_answer hauth (guarded_withBody fun _ => guarded_handleMekDecryptProbe) ?_ ?_
    · exact fun h' op _ hop => hop.guards
    · rintro h' response ⟨body, hbody, req, envelope, hread, hprobed⟩
      exact ⟨body, req, envelope, hbody, hread, hprobed⟩
  · refine guarded_answer hauth
      (guarded_withBody fun _ => guarded_handleReplayPreRotationToken) ?_ ?_
    · rintro h' op hs (⟨headers, rfl⟩ | ⟨o, rfl⟩)
      · obtain ⟨hour, count, hput⟩ := hcounted
        exact ⟨hour, count, hs.subset hput⟩
      · trivial
    · rintro h' response ⟨body, hbody, token, bearer, outcome, hrest⟩
      exact ⟨body, token, bearer, outcome, hbody, hrest⟩
  · next hroute => exact ⟨hauth, hroute⟩
  · next fixtureClass hroute =>
    refine guarded_bind.mpr (guarded_attempt.mpr ?_)
    refine guarded_handleDeleteTestFixtures.suffix.imp ?_ ?_
    · rintro h' op ⟨hs, hbans, ⟨cursor, rfl⟩ | ⟨key, rfl, hkey⟩⟩
      · trivial
      · exact ⟨hkey, hbans ▸ hroute, hauth.mono hs⟩
    · rintro h' (e | deleted) ⟨hs, hres⟩
      · trivial
      · cases deleted with
        | none => trivial
        | some deleted =>
          obtain ⟨hbans, hswept⟩ := hres deleted rfl
          exact ⟨hauth.mono hs, hbans ▸ hroute, hswept⟩

/-- **What a request goes through**, and what it has done when it is answered. -/
theorem guarded_serve (a : Admin) (r : AdminRequest) :
    Guarded (Guards a r) (Ends a r) [] (serve a r) := by
  unfold serve
  split
  · trivial
  · split
    · trivial
    · refine guarded_bind.mpr (guarded_attempt.mpr ?_)
      refine guarded_adminRateLimitCheck.imp (fun _ _ hop => hop) ?_
      rintro h₁ (retry | ⟨⟩) hopen
      · trivial
      · have hopen : Open a r h₁ := hopen rfl
        refine guarded_authenticateAdminEndpoint.seq_attempt ?_ ?_
        · rintro h' op hgrows (⟨headers, rfl⟩ | ⟨o, rfl⟩)
          · obtain ⟨hour, count, hput⟩ := hopen.counted
            exact ⟨hour, count, hgrows.suffix.subset hput⟩
          · trivial
        · rintro h₂ (e | ⟨⟩) hgrows hauth
          · have hopen : Open a r h₂ :=
              { below := by
                  obtain ⟨stored, hstored, hbelow⟩ := hopen.below
                  exact ⟨stored, hgrows.suffix.subset hstored, hbelow⟩
                counted := by
                  obtain ⟨hour, count, hput⟩ := hopen.counted
                  exact ⟨hour, count, hgrows.suffix.subset hput⟩
                first := by
                  rintro x hx hput
                  rcases hgrows.entries x hx with hold | hasks
                  · exact hopen.first x hold hput
                  · obtain ⟨count, ttl, hput⟩ := hput
                    rw [hput] at hasks
                    rcases hasks with ⟨headers, hasks⟩ | ⟨o, hasks⟩ <;> cases hasks }
            refine guarded_bind.mpr ((guarded_recordAdminAuthFailure hopen).imp
              (fun _ _ hop => hop) ?_)
            rintro h₃ (refusal | ⟨⟩) hput
            · cases refusal with
              | unauthenticated e' => exact hput
              | _ => trivial
            · exact hput
          · obtain ⟨hour, count, hput⟩ := hopen.counted
            exact guarded_handleRoute (hauth rfl) ⟨hour, count, hgrows.suffix.subset hput⟩

end Guards

end InternalAdmin

end ProviiVerifier

/-
  Registrations of test origins over runs: what becomes of the credentials that are handed out.

  The namespaces answer stale or fail as they like, a write may be applied without being
  acknowledged, and `provii-management` writes to them at any time. The clock is in milliseconds and
  is a `u64`.

  Proved: until the time it was told, a registered client is served: the policy of its origin is
  read as enabled and knows its key and its secret (`credentials_served`), and its hosted key is
  found and its origin passes the checks of the hosted flow (`hosted_key_served`). Each holds unless
  the entry was written again, by `provii-management` or by a registration that was told that the
  origin is not there.
-/
import ProviiVerifier.Interleaving.Clock
import ProviiVerifier.TestOrigins

namespace ProviiVerifier

namespace TestOrigins

open Interleaving Prog
open KeyRotation (Json Text decode)
open EnvelopeEncryption (Draws Drawn EncryptedSecret RotationSlot SlotOut)
open HostedCors (OriginIndexEntry IndexRead)
open OriginPolicyStore (policyKey enabledPolicy)

/-! ## Reading a policy -/

section Reading

def readText : Json → Option String
  | .string s => some s
  | _ => none

def readBool : Json → Option Bool
  | .bool b => some b
  | _ => none

/-- A number of `bits` bits. -/
def readUnsigned (bits : Nat) : Json → Option Nat
  | .number n => if 0 ≤ n ∧ n < 2 ^ bits then some n.toNat else none
  | _ => none

def readArray {α : Type} (read : Json → Option α) : Json → Option (List α)
  | .array items => items.mapM read
  | _ => none

def readOptional {α : Type} (read : Json → Option α) : Json → Option (Option α)
  | .null => some none
  | j => (read j).map some

def readDirection : Json → Option ProofDirection
  | .string "over_age" => some .overAge
  | .string "under_age" => some .underAge
  | _ => none

/-- A field that has to be there. -/
def required {α : Type} (read : Json → Option α) (name : String) (j : Json) : Option α :=
  (j.field name).bind read

/-- A field with `#[serde(default)]`. -/
def orDefault {α : Type} (read : Json → Option α) (default : α) (name : String) (j : Json) :
    Option α :=
  match j.field name with
  | none => some default
  | some value => read value

/-- `ClientAuthConfig`, deserialised from an object. -/
def readClient (j : Json) : Option ClientAuthConfig := do
  let clientId ← required readText "client_id" j
  let apiKeyHash ← required readText "api_key_hash" j
  let apiKeyPrefix ← orDefault (readOptional readText) none "api_key_prefix" j
  let encryptedHmacSecret ← required readText "encrypted_hmac_secret" j
  let dekEncrypted ← required readText "dek_encrypted" j
  let encryptionVersion ← orDefault (readUnsigned 8) 1 "encryption_version" j
  let active ← orDefault readBool true "active" j
  return { clientId, apiKeyHash, apiKeyPrefix, encryptedHmacSecret, dekEncrypted
           encryptionVersion, active }

/-- `BillingConfig`, of which no modelled function reads anything. -/
def readBilling (j : Json) : Option Unit := do
  let _ ← required readText "plan" j
  let _ ← required readBool "metering_enabled" j
  return ()

/-- `OriginPolicy`, deserialised from an object; the fields no modelled function reads are checked
and left out. -/
def readPolicy (j : Json) : Option OriginPolicy := do
  let tenantId ← required readText "tenant_id" j
  let minAgeYears ← required (readUnsigned 32) "min_age_years" j
  let maxAgeYears ← orDefault (readOptional (readUnsigned 32)) none "max_age_years" j
  let proofDirection ← orDefault (readOptional readDirection) none "proof_direction" j
  let allowedVkIds ← required (readArray (readUnsigned 32)) "allowed_vk_ids" j
  let allowedIssuers ← required (readArray readText) "allowed_issuers" j
  let maxTtlSec ← required (readUnsigned 64) "max_ttl_sec" j
  let _ ← required readBilling "billing" j
  let enabled ← required readBool "enabled" j
  let _ ← required (readUnsigned 64) "created_at" j
  let _ ← required (readUnsigned 64) "updated_at" j
  let clients ← orDefault (readArray readClient) [] "clients" j
  let _ ← orDefault (readOptional readText) none "provisioned_by" j
  let _ ← orDefault (readOptional readText) none "failure_mode" j
  let _ ← orDefault readBool false "failure_mode_locked" j
  return { tenantId, minAgeYears, maxAgeYears, proofDirection, allowedVkIds, allowedIssuers
           maxTtlSec, enabled, clients }

/-- `serde_json::from_str` for a policy; `refusal` is the text of its error. -/
def fromStr (refusal : Text → String) : Text → Except String OriginPolicy
  | .json j =>
    match readPolicy j with
    | some policy => .ok policy
    | none => .error (refusal (.json j))
  | .malformed raw => .error (refusal (.malformed raw))

end Reading

/-! ## The namespaces -/

/-- The namespaces and the clock. -/
structure State where
  counts : HostedCounter.Kv
  config : Expiring.Store String Text
  hosted : Expiring.Store String String
  index : Expiring.Store String OriginIndexEntry
  clock : Nat

/-- How a read goes. -/
inductive Reading (α : Type)
  | stored
  | stale (answer : Option α)
  | failed

/-- How a write goes. -/
inductive Writing
  | done
  | lost
  | unacknowledged
  deriving DecidableEq

abbrev Choice : Op → Type
  | .countGet _ => Reading Nat
  | .countPut _ _ => Writing
  | .configGet _ => Reading Text
  | .configPut _ _ => Writing
  | .draw => Drawn 32
  | .drawEnvelope => Draws
  | .drawIv => Drawn 12
  | .salt => String
  | .now => Unit
  | .hostedMek => Option Bytes
  | .hostedPut _ _ => Writing
  | .indexPut _ _ => Writing
  | .manage _ => Unit

/-- The answer of a read. -/
def Reading.answer {α : Type} (found : Option α) : Reading α → Option (Option α)
  | .stored => some found
  | .stale answer => some answer
  | .failed => none

/-- The store after a write. -/
def Writing.store {ε : Type} (kv : Expiring.Store String ε) (now : Nat) (key : String) (value : ε)
    (ttlSecs : Nat) : Writing → Expiring.Store String ε
  | .lost => kv
  | .done => Expiring.put kv now key value (1000 * ttlSecs)
  | .unacknowledged => Expiring.put kv now key value (1000 * ttlSecs)

def manage (s : State) : Managed → State
  | .config key entry => { s with config := Function.update s.config key entry }
  | .hosted key entry => { s with hosted := Function.update s.hosted key entry }
  | .index origin entry => { s with index := Function.update s.index origin entry }

def perform (s : State) : (op : Op) → Choice op → Res op × State
  | .countGet key, (c : Reading Nat) => (c.answer (Expiring.get s.counts s.clock key), s)
  | .countPut key count, (c : Writing) =>
    (decide (c = .done), { s with counts := c.store s.counts s.clock key count 3600 })
  | .configGet key, (c : Reading Text) => (c.answer (Expiring.get s.config s.clock key), s)
  | .configPut key text, (c : Writing) =>
    (decide (c = .done), { s with config := c.store s.config s.clock key text ttlSeconds })
  | .draw, (c : Drawn 32) => (c, s)
  | .drawEnvelope, (c : Draws) => (c, s)
  | .drawIv, (c : Drawn 12) => (c, s)
  | .salt, (c : String) => (c, s)
  | .now, _ => (s.clock, s)
  | .hostedMek, (c : Option Bytes) => (c, s)
  | .hostedPut key text, (c : Writing) =>
    (decide (c = .done), { s with hosted := c.store s.hosted s.clock key text ttlSeconds })
  | .indexPut origin entry, (c : Writing) =>
    (decide (c = .done), { s with index := c.store s.index s.clock origin entry ttlSeconds })
  | .manage w, _ => ((), manage s w)

/-- Time passes by milliseconds. -/
abbrev namespaces : Machine Op Res :=
  { State := State
    Choice := Choice
    Env := Nat
    perform := perform
    envStep := fun s ms => { s with clock := s.clock + ms } }

/-- Who writes to the namespaces. -/
inductive Caller
  | developer (req : Request)
  | management (w : Managed)

/-- What a caller does; a registration has an answer. -/
def handle (r : Registrar) : Caller → Registering (Option Answer)
  | .developer req => registerTestOrigin r req >>= fun a => .ret (some a)
  | .management w => await (.manage w) >>= fun _ => .ret none

/-- Callers may come and act at any time. -/
def anyCallers : Rules namespaces Caller :=
  { arrive := fun _ _ _ => True
    call := fun _ _ _ _ => True
    env := fun w ms => w.state.clock + ms < 2 ^ 64 }

/-- The clock of a start is a `u64` too. -/
def Started (s : State) : Prop := s.clock < 2 ^ 64

abbrev Callers := Pool namespaces Caller Rejection (Option Answer)

/-! ## Policies as they are read -/

variable {r : Registrar} {req : Request} {body : RegisterRequest} {direction : ProofDirection}
  {g : Grant} {p : Callers} {i : Nat} {a : Registered} {s : State} {op : Op} {c : Choice op}

theorem readUnsigned_number {bits n : Nat} (h : n < 2 ^ bits) :
    readUnsigned bits (.number n) = some n := by
  show (if 0 ≤ (n : Int) ∧ (n : Int) < 2 ^ bits then some (n : Int).toNat else none) = some n
  rw [if_pos ⟨Int.natCast_nonneg n, by exact_mod_cast h⟩, Int.toNat_natCast]

theorem readDirection_asStr (direction : ProofDirection) :
    readDirection (.string direction.asStr) = some direction := by
  cases direction with
  | overAge => rfl
  | underAge => rfl

/-- The policy of a grant, as the policy store reads it. -/
def Grant.policy (g : Grant) (r : Registrar) : OriginPolicy :=
  { tenantId := "test_" ++ Idempotency.hexEncode (r.blake3 (utf8Bytes g.origin)).val
    minAgeYears := g.body.minAgeYears
    maxAgeYears := g.body.maxAgeYears
    proofDirection := some g.direction
    allowedVkIds := [r.vkId]
    allowedIssuers := []
    maxTtlSec := 3600
    enabled := true
    clients :=
      [{ clientId := g.clientId r
         apiKeyHash := g.apiKeyHash
         apiKeyPrefix := some (String.ofList (g.body.apiKey.toList.take 8))
         encryptedHmacSecret := g.encrypted.encryptedSecret
         dekEncrypted := g.encrypted.encryptedDek
         encryptionVersion := g.encrypted.version
         active := true }] }

/-- The numbers of a grant fit where they are stored. -/
structure Grant.Fits (g : Grant) (r : Registrar) : Prop where
  minAge : g.body.minAgeYears < 2 ^ 32
  maxAge : ∀ age, g.body.maxAgeYears = some age → age < 2 ^ 32
  vkId : r.vkId < 2 ^ 32
  version : g.encrypted.version < 2 ^ 8
  now : g.nowMs / 1000 < 2 ^ 64

theorem required_eq {α : Type} {read : Json → Option α} {name : String} {j value : Json} {a : α}
    (hfield : j.field name = some value) (hread : read value = some a) :
    required read name j = some a := by
  unfold required
  rw [hfield]
  exact hread

theorem orDefault_eq {α : Type} {read : Json → Option α} {default : α} {name : String}
    {j value : Json} {a : α} (hfield : j.field name = some value) (hread : read value = some a) :
    orDefault read default name j = some a := by
  unfold orDefault
  rw [hfield]
  exact hread

theorem orDefault_none {α : Type} {read : Json → Option α} {default : α} {name : String}
    {j : Json} (hfield : j.field name = none) : orDefault read default name j = some default := by
  unfold orDefault
  rw [hfield]

theorem readClient_clientJson {clientId hash key : String} {encrypted : EncryptedSecret}
    (h : encrypted.version < 2 ^ 8) : readClient (clientJson clientId hash key encrypted) =
      some
        { clientId := clientId
          apiKeyHash := hash
          apiKeyPrefix := some (String.ofList (key.toList.take 8))
          encryptedHmacSecret := encrypted.encryptedSecret
          dekEncrypted := encrypted.encryptedDek
          encryptionVersion := encrypted.version
          active := true } := by
  let j := clientJson clientId hash key encrypted
  have hid : required readText "client_id" j = some clientId := required_eq rfl rfl
  have hhash : required readText "api_key_hash" j = some hash := required_eq rfl rfl
  have hprefix : orDefault (readOptional readText) none "api_key_prefix" j =
      some (some (String.ofList (key.toList.take 8))) := orDefault_eq rfl rfl
  have hsecret : required readText "encrypted_hmac_secret" j = some encrypted.encryptedSecret :=
    required_eq rfl rfl
  have hdek : required readText "dek_encrypted" j = some encrypted.encryptedDek :=
    required_eq rfl rfl
  have hversion : orDefault (readUnsigned 8) 1 "encryption_version" j = some encrypted.version :=
    orDefault_eq rfl (readUnsigned_number h)
  have hactive : orDefault readBool true "active" j = some true := orDefault_eq rfl rfl
  show readClient j = _
  unfold readClient
  rw [hid, hhash, hprefix, hsecret, hdek, hversion, hactive]
  rfl

theorem fromStr_json {j : Json} {policy : OriginPolicy} (h : readPolicy j = some policy)
    (refusal : Text → String) : fromStr refusal (.json j) = .ok policy := by
  unfold fromStr
  dsimp only
  rw [h]

/-- **Round trip**: the stored policy is read as it was meant. -/
theorem readPolicy_text (hfits : g.Fits r) (refusal : Text → String) :
    fromStr refusal (g.text r) = .ok (g.policy r) := by
  let j := policyJson r g.body g.direction g.origin g.apiKeyHash g.encrypted (g.nowMs / 1000)
  have htenant : required readText "tenant_id" j = some (g.policy r).tenantId := required_eq rfl rfl
  have hmin : required (readUnsigned 32) "min_age_years" j = some g.body.minAgeYears :=
    required_eq rfl (readUnsigned_number hfits.minAge)
  have hmax : orDefault (readOptional (readUnsigned 32)) none "max_age_years" j =
      some g.body.maxAgeYears := by
    refine orDefault_eq rfl ?_
    cases hage : g.body.maxAgeYears with
    | none => rfl
    | some age =>
      show (readUnsigned 32 (.number age)).map some = some (some age)
      rw [readUnsigned_number (hfits.maxAge age hage)]
      rfl
  have hdirection : orDefault (readOptional readDirection) none "proof_direction" j =
      some (some g.direction) := by
    refine orDefault_eq rfl ?_
    show (readDirection (.string g.direction.asStr)).map some = some (some g.direction)
    rw [readDirection_asStr]
    rfl
  have hvk : required (readArray (readUnsigned 32)) "allowed_vk_ids" j = some [r.vkId] := by
    refine required_eq rfl ?_
    show [Json.number r.vkId].mapM (readUnsigned 32) = some [r.vkId]
    rw [List.mapM_cons, readUnsigned_number hfits.vkId]
    rfl
  have hissuers : required (readArray readText) "allowed_issuers" j = some [] := required_eq rfl rfl
  have httl : required (readUnsigned 64) "max_ttl_sec" j = some 3600 :=
    required_eq rfl (readUnsigned_number (n := 3600) (by norm_num))
  have hbilling : required readBilling "billing" j = some () := required_eq rfl rfl
  have henabled : required readBool "enabled" j = some true := required_eq rfl rfl
  have hcreated : required (readUnsigned 64) "created_at" j = some (g.nowMs / 1000) :=
    required_eq rfl (readUnsigned_number hfits.now)
  have hupdated : required (readUnsigned 64) "updated_at" j = some (g.nowMs / 1000) :=
    required_eq rfl (readUnsigned_number hfits.now)
  have hclients : orDefault (readArray readClient) [] "clients" j = some (g.policy r).clients := by
    refine orDefault_eq rfl ?_
    show [clientJson (g.clientId r) g.apiKeyHash g.body.apiKey g.encrypted].mapM readClient = _
    rw [List.mapM_cons, readClient_clientJson hfits.version]
    rfl
  have hpartner : orDefault (readOptional readText) none "provisioned_by" j = some none :=
    orDefault_none rfl
  have hmode : orDefault (readOptional readText) none "failure_mode" j = some none :=
    orDefault_none rfl
  have hlocked : orDefault readBool false "failure_mode_locked" j = some false :=
    orDefault_none rfl
  have hread : readPolicy j = some (g.policy r) := by
    unfold readPolicy
    rw [htenant, hmin, hmax, hdirection, hvk, hissuers, httl, hbilling, henabled, hcreated,
      hupdated, hclients, hpartner, hmode, hlocked]
    rfl
  exact fromStr_json hread refusal

/-! ## What is checked of a request -/

/-- A request that passes the checks. -/
structure Admissible (r : Registrar) (req : Request) (body : RegisterRequest)
    (direction : ProofDirection) : Prop where
  sandbox : r.environment = "sandbox"
  signed : ∃ bytes key, req.body = some bytes ∧ key ∈ candidateKeys r ∧
    verifyDocsHmac r.hmac (req.headers "X-Docs-Hmac") bytes key = .ok ∧
    r.fromSlice bytes = some body
  ages : checkAges body direction = .ok ()
  apiKey : ∃ known, (r.sandboxApiKeyCached = some known ∨ r.loadtestApiKeyCached = some known) ∧
    r.sha256 (utf8Bytes body.apiKey) = r.sha256 (utf8Bytes known)

theorem tryKeys_ok {hmac : Bytes → Bytes → Bytes} {header : Option String} {bytes : Bytes}
    {outcome : DocsHmacCheck} {keys : List Bytes} (hne : outcome ≠ .ok)
    (h : tryKeys hmac header bytes outcome keys = .ok) :
    ∃ key ∈ keys, verifyDocsHmac hmac header bytes key = .ok := by
  induction keys generalizing outcome with
  | nil => exact absurd h hne
  | cons key keys ih =>
    unfold tryKeys at h
    split at h
    · next hok => exact ⟨key, List.mem_cons_self, hok⟩
    · next hfailed =>
      obtain ⟨key', hmem, hok⟩ := ih hfailed h
      exact ⟨key', List.mem_cons_of_mem _ hmem, hok⟩

theorem requireDocsHmac_ok {headers : Headers} {bytes : Bytes}
    (h : requireDocsHmac r headers bytes = .ok ()) : ∃ key ∈ candidateKeys r,
      verifyDocsHmac r.hmac (headers "X-Docs-Hmac") bytes key = .ok := by
  unfold requireDocsHmac at h
  split at h
  · cases h
  · split at h
    · next hok => exact tryKeys_ok DocsHmacCheck.noConfusion hok
    all_goals cases h

theorem matchesKey_iff {apiKey : String} {cached : Option String} :
    matchesKey r apiKey cached = true ↔
      ∃ known, cached = some known ∧ r.sha256 (utf8Bytes apiKey) = r.sha256 (utf8Bytes known) := by
  unfold matchesKey
  rw [Option.any_eq_true]
  simp only [decide_eq_true_eq]

theorem requireApiKey_ok {apiKey : String} (h : requireApiKey r apiKey = .ok ()) :
    ∃ known, (r.sandboxApiKeyCached = some known ∨ r.loadtestApiKeyCached = some known) ∧
      r.sha256 (utf8Bytes apiKey) = r.sha256 (utf8Bytes known) := by
  unfold requireApiKey at h
  split at h
  · cases h
  · split at h
    · next hmatch =>
      rcases (Bool.or_eq_true _ _).mp hmatch with hsandbox | hloadtest
      · obtain ⟨known, hknown, heq⟩ := matchesKey_iff.mp hsandbox
        exact ⟨known, .inl hknown, heq⟩
      · obtain ⟨known, hknown, heq⟩ := matchesKey_iff.mp hloadtest
        exact ⟨known, .inr hknown, heq⟩
    · cases h

theorem readLimitedBody_some {max : Nat} {bytes : Bytes}
    (h : readLimitedBody req max = some bytes) : req.body = some bytes := by
  unfold readLimitedBody at h
  split at h
  · cases h
  · exact (Option.filter_eq_some_iff.mp h).1

theorem checkRequest_ok (h : checkRequest r req = .ok (body, direction)) :
    Admissible r req body direction := by
  unfold checkRequest at h
  split at h
  · cases h
  · next hsandbox =>
    obtain ⟨-, -, h⟩ := except_bind_ok h
    split at h
    · cases h
    · next bytes hbytes =>
      obtain ⟨⟨⟩, hhmac, h⟩ := except_bind_ok h
      split at h
      · cases h
      · next body' hparse =>
        obtain ⟨-, -, h⟩ := except_bind_ok h
        obtain ⟨direction', -, h⟩ := except_bind_ok h
        obtain ⟨⟨⟩, hages, h⟩ := except_bind_ok h
        obtain ⟨⟨⟩, hkey, h⟩ := except_bind_ok h
        injection h with h
        injection h with hbody hdirection
        subst hbody hdirection
        obtain ⟨key, hmem, hverify⟩ := requireDocsHmac_ok hhmac
        exact
          { sandbox := not_not.mp hsandbox
            signed := ⟨bytes, key, readLimitedBody_some hbytes, hmem, hverify, hparse⟩
            ages := hages
            apiKey := requireApiKey_ok hkey }

theorem checkAges_ok (h : checkAges body direction = .ok ()) :
    (direction = .underAge → body.maxAgeYears ≠ none) ∧ body.minAgeYears ≤ 150 ∧
      ∀ age, body.maxAgeYears = some age → age ≤ 150 := by
  unfold checkAges at h
  split at h
  · cases h
  · next hmax =>
    split at h
    · cases h
    · next hmin =>
      split at h
      · cases h
      · next hbound =>
        refine ⟨fun hd hn => hmax ⟨hd, hn⟩, Nat.le_of_not_lt hmin, fun age hage => ?_⟩
        rw [hage] at hbound
        simpa using hbound

/-! ## What a policy serves -/

variable {verifyApiKey : String → String → Bool} {policy : OriginPolicy} {refusal : Text → String}

/-- A policy serves a registered client: its terms are those that were asked for, the API key of the
request is the client's, and so is the secret that was handed out, under the current key. -/
structure Serves (r : Registrar) (verifyApiKey : String → String → Bool) (apiKey : String)
    (a : Registered) (policy : OriginPolicy) : Prop where
  direction : policy.effectiveProofDirection = a.proofDirection
  age : ∃ age ≤ 150, policy.ageThreshold = .ok age ∧
    (a.proofDirection = .overAge → age = a.minAgeYears) ∧
    (a.proofDirection = .underAge → a.maxAgeYears = some age)
  apiKey : verifyAgainstPolicy verifyApiKey apiKey policy = some a.clientId
  secret : ∃ client secret mek, policy.clients = [client] ∧ client.clientId = a.clientId ∧
    client.active = true ∧ decode a.hmacSecret = some secret ∧ r.mekCached = some mek ∧
    ∀ refusal previousMek slotOut,
      EnvelopeEncryption.decryptHmacSecretWithFallbackTracked r.aead refusal
        ⟨client.encryptedHmacSecret, client.dekEncrypted, client.encryptionVersion⟩ mek previousMek
        slotOut = (.ok secret, slotOut.write .current)

/-- The index of a policy with one client has this client in a bucket or is empty there. -/
theorem buildApiKeyIndex_single {client : ClientAuthConfig} (h : policy.clients = [client])
    (key : String) :
    buildApiKeyIndex policy key = none ∨ buildApiKeyIndex policy key = some [0] := by
  unfold buildApiKeyIndex
  rw [h]
  by_cases hbucket : (client.active && decide (indexKey client = key)) = true
  · right
    simp [List.zipIdx, hbucket]
  · left
    simp [List.zipIdx, hbucket]

/-- **One active client** is found by its key, in whatever bucket it is. -/
theorem verifyAgainstPolicy_single {client : ClientAuthConfig} {apiKey : String}
    (h : policy.clients = [client]) (hactive : client.active = true)
    (hverify : verifyApiKey apiKey client.apiKeyHash = true) :
    verifyAgainstPolicy verifyApiKey apiKey policy = some client.clientId := by
  unfold verifyAgainstPolicy
  rcases buildApiKeyIndex_single h (prefix8 apiKey) with hnone | hsome
  · rcases buildApiKeyIndex_single h "PREFIX_UNKNOWN" with hnone' | hsome'
    · simp [hnone, hnone', h, hactive, hverify, maxFallbackScan]
    · simp [hnone, hsome', h, hactive, hverify]
  · simp [hsome, h, hactive, hverify]

theorem version_of_encrypt {aead : Aead} {draws : Draws} {secret mek : Bytes}
    {encrypted : EncryptedSecret}
    (h : EnvelopeEncryption.encryptHmacSecret aead draws secret mek = .ok encrypted) :
    encrypted.version = 1 := by
  unfold EnvelopeEncryption.encryptHmacSecret at h
  obtain ⟨dek, -, h⟩ := except_bind_ok h
  obtain ⟨secretIv, -, h⟩ := except_bind_ok h
  obtain ⟨secretCiphertext, -, h⟩ := except_bind_ok h
  obtain ⟨dekIv, -, h⟩ := except_bind_ok h
  obtain ⟨dekCiphertext, -, h⟩ := except_bind_ok h
  injection h with h
  rw [← h]
  rfl

variable {h : History Op Res} {hosted : Option String}

theorem Granted.fits (hg : Granted r req g h) (hvk : r.vkId < 2 ^ 32) (hnow : g.nowMs < 2 ^ 64) :
    g.Fits r := by
  obtain ⟨-, hmin, hmax⟩ := checkAges_ok (checkRequest_ok hg.checked).ages
  obtain ⟨mek, -, hencrypted⟩ := hg.encrypted
  refine ⟨by omega, fun age hage => ?_, hvk, ?_, by omega⟩
  · have hle := hmax age hage
    omega
  · rw [version_of_encrypt hencrypted]
    norm_num

theorem Granted.age (hg : Granted r req g h) : ∃ age ≤ 150, (g.policy r).ageThreshold = .ok age ∧
    (g.direction = .overAge → age = g.body.minAgeYears) ∧
    (g.direction = .underAge → g.body.maxAgeYears = some age) := by
  obtain ⟨hunder, hmin, hmax⟩ := checkAges_ok (checkRequest_ok hg.checked).ages
  unfold OriginPolicy.ageThreshold OriginPolicy.effectiveProofDirection Grant.policy
  dsimp only
  cases hdirection : g.direction with
  | overAge =>
    refine ⟨g.body.minAgeYears, hmin, ?_, fun _ => rfl, nofun⟩
    exact if_neg (Nat.not_lt.mpr hmin)
  | underAge =>
    obtain ⟨age, hage⟩ := Option.ne_none_iff_exists'.mp (hunder hdirection)
    refine ⟨age, hmax age hage, ?_, nofun, fun _ => hage⟩
    rw [hage]
    exact if_neg (Nat.not_lt.mpr (hmax age hage))

/-- **The policy of a registration** serves what was answered. -/
theorem Granted.serves (hg : Granted r req g h)
    (hverify : ∀ salt key hash, r.hashApiKey salt key = some hash → verifyApiKey key hash = true) :
    Serves r verifyApiKey g.body.apiKey (g.answer r hosted) (g.policy r) := by
  obtain ⟨mek, hmek, hencrypted⟩ := hg.encrypted
  obtain ⟨dek, hdek, hsecret⟩ := EnvelopeEncryption.encryptHmacSecret_ok hencrypted
  have hclients : (g.policy r).clients = [_] := rfl
  refine ⟨rfl, hg.age, verifyAgainstPolicy_single hclients rfl (hverify _ _ _ hg.hashed), ?_⟩
  refine ⟨_, g.secret.val, mek, rfl, rfl, rfl, KeyRotation.decode_encode _, hmek, ?_⟩
  intro refusal previousMek slotOut
  have hunder : EnvelopeEncryption.DekUnder r.aead g.encrypted.encryptedDek mek previousMek dek
      .current := EnvelopeEncryption.plaintextOf_of_isEncryption hdek
  exact EnvelopeEncryption.decrypt_eq hunder
    (EnvelopeEncryption.plaintextOf_of_isEncryption hsecret) refusal slotOut

/-- The policies as the policy store reads them. -/
def policies (refusal : Text → String) (s : State) : OriginPolicyStore.Kv :=
  fun key => (Expiring.get s.config s.clock key).map (fromStr refusal)

/-! ## Runs -/

section Runs

variable {ms : Nat} {key : String}

/-- What a caller goes through. -/
def CallerGuards (r : Registrar) : Caller → History Op Res → Op → Prop
  | .developer req => Guards r req
  | .management w => fun _ op => op = .manage w

/-- What a caller is answered. -/
def CallerTells (r : Registrar) (caller : Caller) (h : History Op Res)
    (res : Except Rejection (Option Answer)) : Prop :=
  ∀ a, res = .ok (some (.registered a)) → ∃ req, caller = .developer req ∧ Tells r req h a

theorem guarded_handle (r : Registrar) (caller : Caller) :
    Guarded (CallerGuards r caller) (CallerTells r caller) [] (handle r caller) := by
  cases caller with
  | developer req =>
    refine (guarded_registerTestOrigin r req).bind ?_ fun _ _ _ _ _ => nofun
    intro h' answer _ htells a ha
    injection ha with ha
    injection ha with ha
    exact ⟨req, rfl, htells a (congrArg _ ha)⟩
  | management w =>
    refine guarded_await_bind.mpr ⟨rfl, fun _ a => nofun⟩

theorem forward_clock : Forward namespaces State.clock := by
  refine ⟨fun s op c => ?_, fun s ms => Nat.le_add_right _ _⟩
  cases op with
  | manage w => cases w <;> exact Nat.le_refl _
  | _ => exact Nat.le_refl _

theorem Writing.store_ne {ε : Type} {kv : Expiring.Store String ε} {now ttl : Nat} {key' : String}
    {value : ε} (hkey : key' ≠ key) (w : Writing) : w.store kv now key' value ttl key = kv key := by
  cases w with
  | lost => rfl
  | done => exact Expiring.put_ne (Ne.symm hkey)
  | unacknowledged => exact Expiring.put_ne (Ne.symm hkey)

/-- What a write stores is its value. -/
theorem Writing.value_of_changed {ε : Type} {kv : Expiring.Store String ε} {now ttl : Nat}
    {value : ε} {entry : Expiring.Entry ε} {w : Writing}
    (hentry : w.store kv now key value ttl key = some entry)
    (hchanged : ¬ w.store kv now key value ttl key = kv key) : entry.value = value := by
  cases w with
  | lost => exact absurd rfl hchanged
  | done =>
    have hput := Option.some.inj (Expiring.put_self.symm.trans hentry)
    rw [← hput]
  | unacknowledged =>
    have hput := Option.some.inj (Expiring.put_self.symm.trans hentry)
    rw [← hput]

/-- Only writes to its key change an entry of the configuration. -/
theorem config_changed (h : (perform s op c).2.config key ≠ s.config key) :
    (∃ entry, op = .manage (.config key entry)) ∨ ∃ text, op = .configPut key text := by
  cases op with
  | manage w =>
    cases w with
    | config key' entry =>
      by_cases hkey : key' = key
      · exact .inl ⟨entry, by rw [hkey]⟩
      · exact absurd (Function.update_of_ne (Ne.symm hkey) _ _) h
    | hosted key' entry => exact absurd rfl h
    | index origin entry => exact absurd rfl h
  | configPut key' text =>
    by_cases hkey : key' = key
    · exact .inr ⟨text, by rw [hkey]⟩
    · exact absurd (Writing.store_ne hkey c) h
  | _ => exact absurd rfl h

/-- Only writes to its key change a hosted key. -/
theorem hosted_changed (h : (perform s op c).2.hosted key ≠ s.hosted key) :
    (∃ entry, op = .manage (.hosted key entry)) ∨ ∃ text, op = .hostedPut key text := by
  cases op with
  | manage w =>
    cases w with
    | config key' entry => exact absurd rfl h
    | hosted key' entry =>
      by_cases hkey : key' = key
      · exact .inl ⟨entry, by rw [hkey]⟩
      · exact absurd (Function.update_of_ne (Ne.symm hkey) _ _) h
    | index origin entry => exact absurd rfl h
  | hostedPut key' text =>
    by_cases hkey : key' = key
    · exact .inr ⟨text, by rw [hkey]⟩
    · exact absurd (Writing.store_ne hkey c) h
  | _ => exact absurd rfl h

/-- The clock of a run is a `u64`. -/
theorem clock_lt (hr : Run (handle r) anyCallers Started p) : p.world.state.clock < 2 ^ 64 := by
  have hstep : ∀ s op c, (perform s op c).2.clock = s.clock := by
    intro s op c
    cases op with
    | manage w => cases w <;> rfl
    | _ => rfl
  induction hr with
  | start hs => exact hs
  | arrive _ _ _ ih => exact ih
  | @call p i op k c _ _ _ ih =>
    show (perform p.world.state op c).2.clock < 2 ^ 64
    rw [hstep]
    exact ih
  | env _ hR _ => exact hR

/-- What was read of the clock is a `u64`. -/
theorem now_lt (hr : Run (handle r) anyCallers Started p) {n : Nat}
    (hnow : ⟨.now, n⟩ ∈ own i p.world.trace) : n < 2 ^ 64 := by
  obtain ⟨s, c, hm, hn⟩ := mem_own.mp hnow
  have hclock : s.clock = n := hn
  rw [← hclock]
  exact Nat.lt_of_le_of_lt ((hr.timed forward_clock).past i s _ c hm) (clock_lt hr)

/-- **An operation after a reading of the clock** ran at this time or later. -/
theorem ran_after_now (hr : Run (handle r) anyCallers Started p) {x : Sigma Res}
    {past : History Op Res} (hx : x :: past <:+ own i p.world.trace) {n : Nat}
    (hnow : ⟨.now, n⟩ ∈ past) : ∃ new s op c old, p.world.trace = new ++ .call i s op c :: old ∧
      x = ⟨op, (perform s op c).1⟩ ∧ n ≤ s.clock := by
  obtain ⟨new, s, op, c, old, htr, heq, hold⟩ := own_suffix hx
  rw [← hold] at hnow
  obtain ⟨s', c', hm, hn⟩ := mem_own.mp hnow
  have hclock : s'.clock = n := hn
  refine ⟨new, s, op, c, old, htr, heq, ?_⟩
  rw [← hclock]
  exact (hr.timed forward_clock).ordered new old i s op c htr i s' _ c' hm

theorem policyKey_ne (origin clientId : String) : policyKey origin ≠ clientLookupKey clientId := by
  intro h
  have hchars := congrArg String.toList h
  unfold policyKey clientLookupKey at hchars
  rw [String.toList_append, String.toList_append] at hchars
  injection hchars with hhead
  exact absurd hhead (by decide)

/-- **The policy is written again** after caller `i` wrote it, by `provii-management` or by a
registration that was told that the origin is not there. -/
def PolicyReplaced (tr : List (Event namespaces Caller)) (i : Nat) (origin : String) : Prop :=
  ∃ newer older j s, ∃ (op : Op) (c : Choice op), tr = newer ++ .call j s op c :: older ∧ j ≠ i ∧
    (∃ text, (⟨.configPut (policyKey origin) text, true⟩ : Sigma Res) ∈ own i older) ∧
    ((∃ entry, op = .manage (.config (policyKey origin) entry)) ∨
      (∃ text, op = .configPut (policyKey origin) text) ∧
        (⟨.configGet (policyKey origin), some none⟩ : Sigma Res) ∈ own j older)

/-- A registration that writes a policy writes it once, and only after it was told that there is
none. -/
theorem guards_policy {caller : Caller} {h : History Op Res} {origin : String} {text : Text}
    (hguard : CallerGuards r caller h (.configPut (policyKey origin) text)) :
    ⟨.configGet (policyKey origin), some none⟩ ∈ h ∧ ∀ x ∈ h, ¬ Puts x.1 := by
  cases caller with
  | management w => cases hguard
  | developer req =>
    rcases hguard with ⟨g, hgranted, hop⟩ | ⟨clientId, text', hop⟩ | ⟨o, hop⟩
    · injection hop with hkey
      rw [hkey]
      exact ⟨hgranted.absent, hgranted.first⟩
    · injection hop with hkey
      exact absurd hkey (policyKey_ne origin clientId)
    · exact hop.elim

theorem guards_manage {caller : Caller} {h : History Op Res} {w : Managed}
    (hguard : CallerGuards r caller h (.manage w)) : caller = .management w := by
  cases caller with
  | management w' =>
    injection hguard with hw
    rw [hw]
  | developer req =>
    rcases hguard with ⟨g, -, hop⟩ | ⟨clientId, text, hop⟩ | ⟨o, hop⟩
    · cases hop
    · cases hop
    · exact hop.elim

/-- An entry is read until its time is over. -/
theorem get_of_ends {ε : Type} {kv : Expiring.Store String ε} {value : ε} {now nowMs t : Nat}
    (hentry : kv key = some ⟨value, t + 1000 * ttlSeconds⟩) (hnow : nowMs ≤ t)
    (hlive : now / 1000 < nowMs / 1000 + ttlSeconds) : Expiring.get kv now key = some value := by
  refine Expiring.get_eq_some.mpr ⟨_, hentry, ?_⟩
  omega

/-- What an answered operation did. -/
theorem performed {op' : Op} {res : Res op'}
    (hx : (⟨op', res⟩ : Sigma Res) = ⟨op, (perform s op c).1⟩) :
    ∃ c', (perform s op' c').1 = res ∧ (perform s op c).2 = (perform s op' c').2 := by
  injection hx with hop hres
  subst hop
  exact ⟨c, (eq_of_heq hres).symm, rfl⟩

/-- An acknowledged write of the configuration is there. -/
theorem config_put {text : Text}
    (hx : (⟨.configPut key text, true⟩ : Sigma Res) = ⟨op, (perform s op c).1⟩) :
    (perform s op c).2.config key = some ⟨text, s.clock + 1000 * ttlSeconds⟩ := by
  obtain ⟨w, hres, hstate⟩ := performed hx
  have hdone : w = .done := of_decide_eq_true hres
  rw [hstate, hdone]
  exact Expiring.put_self

/-- What is known of an operation after one of caller `i`. -/
structure Later (r : Registrar) (p : Callers) (i : Nat) (x : Sigma Res) (s : State)
    (newer : List (Event namespaces Caller)) (j : Nat) (s' : State) (op' : Op) (c' : Choice op')
    (older : List (Event namespaces Caller)) (caller : Caller) : Prop where
  trace : p.world.trace = newer ++ .call j s' op' c' :: older
  before : x ∈ own i older
  arrive : .arrive j caller ∈ p.world.trace
  guard : CallerGuards r caller (own j older) op'
  clock : s.clock ≤ s'.clock

theorem later_of_call (hr : Run (handle r) anyCallers Started p)
    {new old newer older : List (Event namespaces Caller)} {x : Sigma Res} {j : Nat} {s' : State}
    {op' : Op} {c' : Choice op'} (htr : p.world.trace = new ++ .call i s op c :: old)
    (hx : x = ⟨op, (perform s op c).1⟩) (hnew : new = newer ++ .call j s' op' c' :: older) :
    ∃ caller, Later r p i x s newer j s' op' c' (older ++ .call i s op c :: old) caller := by
  have hevent : p.world.trace = newer ++ .call j s' op' c' :: (older ++ .call i s op c :: old) := by
    rw [htr, hnew, List.append_assoc, List.cons_append]
  obtain ⟨-, -, caller, harrive, hguard⟩ := hr.call_event (guarded_handle r) hevent
  refine ⟨caller, hevent, ?_, ?_, hguard, ?_⟩
  · rw [hx]
    exact own_suffix_call.subset List.mem_cons_self
  · rw [hevent]
    exact List.mem_append_right _ (List.mem_cons_of_mem _ harrive)
  · have hmem : .call i s op c ∈ older ++ .call i s op c :: old :=
      List.mem_append_right _ List.mem_cons_self
    exact (hr.timed forward_clock).ordered newer _ j s' op' c' hevent i s op c hmem

/-- **Registered credentials are served**: until the time it was told, a client that was registered
finds its policy enabled and serving it, unless the policy was written again. -/
theorem credentials_served (r : Registrar) (hvk : r.vkId < 2 ^ 32)
    (verifyApiKey : String → String → Bool)
    (hverify : ∀ salt key hash, r.hashApiKey salt key = some hash → verifyApiKey key hash = true)
    (refusal : Text → String) (hr : Run (handle r) anyCallers Started p)
    (ho : p.outcome i = some (.ok (some (.registered a))))
    (hlive : p.world.state.clock / 1000 < a.expiresAt) :
    ∃ req body, .arrive i (.developer req) ∈ p.world.trace ∧
      Admissible r req body a.proofDirection ∧
      (PolicyReplaced p.world.trace i a.origin ∨
        ∃ policy, enabledPolicy (policies refusal p.world.state) a.origin = some policy ∧
          Serves r verifyApiKey body.apiKey a policy) := by
  obtain ⟨caller, harrive, htells⟩ := hr.outcome (guarded_handle r) ho
  obtain ⟨req, rfl, g, past, hput, hgranted, ha, -⟩ := htells a rfl
  obtain ⟨new, s, op, c, old, htr, hx, hle⟩ := ran_after_now hr hput hgranted.now
  have hnow : g.nowMs < 2 ^ 64 :=
    now_lt hr (hput.subset (List.mem_cons_of_mem _ hgranted.now))
  have horigin : a.origin = g.origin := congrArg Registered.origin ha
  have hexpires : a.expiresAt = g.nowMs / 1000 + ttlSeconds := congrArg Registered.expiresAt ha
  have hdirection : a.proofDirection = g.direction := congrArg Registered.proofDirection ha
  refine ⟨req, g.body, harrive, ?_, ?_⟩
  · rw [hdirection]
    exact checkRequest_ok hgranted.checked
  · rw [horigin]
    let entry : Expiring.Entry Text := ⟨g.text r, s.clock + 1000 * ttlSeconds⟩
    rcases hr.since (P := fun s : State => s.config (policyKey g.origin) = some entry)
      (fun _ _ => id) htr (config_put hx) with
      hstands | ⟨newer, older, j, s', op', c', hnew, hbefore, hafter⟩
    · right
      have hget : Expiring.get p.world.state.config p.world.state.clock (policyKey g.origin) =
          some (g.text r) :=
        get_of_ends hstands hle (hexpires ▸ hlive)
      refine ⟨g.policy r, ?_, ?_⟩
      · unfold enabledPolicy policies
        rw [hget, Option.map_some, readPolicy_text (hgranted.fits hvk hnow)]
        rfl
      · rw [ha]
        exact hgranted.serves hverify
    · left
      have hchanged : (perform s' op' c').2.config (policyKey g.origin) ≠
          s'.config (policyKey g.origin) := hbefore ▸ hafter
      obtain ⟨caller, hlater⟩ := later_of_call hr htr hx hnew
      refine ⟨newer, _, j, s', op', c', hlater.trace, ?_, ⟨_, hlater.before⟩, ?_⟩
      · rintro rfl
        have hcaller := hr.arrive_unique hlater.arrive harrive
        subst hcaller
        rcases config_changed hchanged with ⟨entry, rfl⟩ | ⟨text, rfl⟩
        · cases guards_manage hlater.guard
        · exact (guards_policy hlater.guard).2 _ hlater.before trivial
      · rcases config_changed hchanged with hmanage | ⟨text, rfl⟩
        · exact .inl hmanage
        · exact .inr ⟨⟨text, rfl⟩, (guards_policy hlater.guard).1⟩

/-! ## Where policies come from -/

/-- The stored text is the policy of a signed registration of the origin. -/
def Authentic (r : Registrar) (refusal : Text → String) (tr : List (Event namespaces Caller))
    (origin : String) (text : Text) : Prop :=
  ∃ j req body direction policy, .arrive j (.developer req) ∈ tr ∧
    Admissible r req body direction ∧ trimEndSlashes body.origin = origin ∧
    fromStr refusal text = .ok policy ∧ policy.enabled = true ∧
    policy.effectiveProofDirection = direction ∧ (∃ age ≤ 150, policy.ageThreshold = .ok age) ∧
    policy.clients.map (·.clientId) = [clientIdOf r origin]

/-- `provii-management` stored the text. -/
def Provisioned (tr : List (Event namespaces Caller)) (origin : String) (text : Text) : Prop :=
  ∃ j ends, .arrive j (.management (.config (policyKey origin) (some ⟨text, ends⟩))) ∈ tr

/-- No policy is stored at first. -/
def Unused (s : State) : Prop := Started s ∧ ∀ origin, s.config (policyKey origin) = none

theorem Authentic.mono {tr : List (Event namespaces Caller)} {origin : String} {text : Text}
    (h : Authentic r refusal tr origin text) (e : Event namespaces Caller) :
    Authentic r refusal (e :: tr) origin text := by
  obtain ⟨j, req, body, direction, policy, harrive, hrest⟩ := h
  exact ⟨j, req, body, direction, policy, List.mem_cons_of_mem _ harrive, hrest⟩

theorem Provisioned.mono {tr : List (Event namespaces Caller)} {origin : String} {text : Text}
    (h : Provisioned tr origin text) (e : Event namespaces Caller) :
    Provisioned (e :: tr) origin text := by
  obtain ⟨j, ends, harrive⟩ := h
  exact ⟨j, ends, List.mem_cons_of_mem _ harrive⟩

theorem policyKey_injective {origin origin' : String} (h : policyKey origin = policyKey origin') :
    origin = origin' := by
  have hchars := congrArg String.toList h
  unfold policyKey at hchars
  rw [String.toList_append, String.toList_append] at hchars
  exact String.toList_injective (List.append_cancel_left hchars)

/-- A policy that a registration writes is authentic. -/
theorem Granted.authentic (hr : Run (handle r) anyCallers Started p) (hvk : r.vkId < 2 ^ 32)
    (refusal : Text → String) (hg : Granted r req g (own i p.world.trace))
    (harrive : .arrive i (.developer req) ∈ p.world.trace) :
    Authentic r refusal p.world.trace g.origin (g.text r) := by
  obtain ⟨age, hage, hthreshold, -⟩ := hg.age
  exact ⟨i, req, g.body, g.direction, g.policy r, harrive, checkRequest_ok hg.checked, rfl,
    readPolicy_text (hg.fits hvk (now_lt hr hg.now)) refusal, rfl, rfl, ⟨age, hage, hthreshold⟩,
    rfl⟩

/-- Every stored policy has a source. -/
def Sourced (r : Registrar) (refusal : Text → String) (w : World namespaces Caller) : Prop :=
  ∀ origin entry, w.state.config (policyKey origin) = some entry →
    Provisioned w.trace origin entry.value ∨ Authentic r refusal w.trace origin entry.value

/-- **Where policies come from**: in a run that starts without policies, a stored policy was put
there by `provii-management`, or registered by a request that was signed with a key of the docs
gateway and presented one. -/
theorem stored_policy_authentic (r : Registrar) (hvk : r.vkId < 2 ^ 32) (refusal : Text → String)
    (hr : Run (handle r) anyCallers Unused p) (origin : String) (entry : Expiring.Entry Text)
    (hstored : p.world.state.config (policyKey origin) = some entry) :
    Provisioned p.world.trace origin entry.value ∨
      Authentic r refusal p.world.trace origin entry.value := by
  suffices hsourced : Sourced r refusal p.world from hsourced origin entry hstored
  refine hr.invariant (guarded_handle r) ?_ ?_ ?_ fun _ _ _ ih _ => ih
  · intro s hs origin entry hentry
    rw [hs.2 origin] at hentry
    cases hentry
  · intro w j caller _ ih _ origin entry hentry
    exact (ih origin entry hentry).imp (·.mono _) (·.mono _)
  · intro w j op c caller hreached ih harrive hguard _ origin entry hentry
    obtain ⟨q, hq, rfl⟩ := hreached
    by_cases hsame : (perform q.world.state op c).2.config (policyKey origin) =
        q.world.state.config (policyKey origin)
    · exact (ih origin entry (hsame.symm.trans hentry)).imp (·.mono _) (·.mono _)
    · rcases config_changed hsame with ⟨entry', rfl⟩ | ⟨text, rfl⟩
      · left
        rw [guards_manage hguard] at harrive
        have hput : (perform q.world.state (.manage (.config (policyKey origin) entry')) c).2.config
            (policyKey origin) = entry' := Function.update_self _ _ _
        rw [hput.symm.trans hentry] at harrive
        exact ⟨j, entry.ends, List.mem_cons_of_mem _ harrive⟩
      · right
        have htext : entry.value = text := Writing.value_of_changed hentry hsame
        cases caller with
        | management w => cases hguard
        | developer req =>
          rcases hguard with ⟨g, hgranted, hop⟩ | ⟨clientId, text', hop⟩ | ⟨o, hop⟩
          · injection hop with hkey hgtext
            rw [htext, hgtext, policyKey_injective hkey]
            exact (hgranted.authentic (hq.mono (fun _ hs => hs.1) (fun _ _ _ h => h)
              (fun _ _ _ _ h => h) (fun _ _ h => h)) hvk refusal harrive).mono _
          · injection hop with hkey
            exact absurd hkey (policyKey_ne origin clientId)
          · exact hop.elim

end Runs

/-! ## Hosted keys -/

section Hosted

open HostedKeys (validateKeyFormat getKey Slots)
open KeyRotation (Mek publicKeyDataAad)

variable {key : String} {aead : Aead} {parse : String → Option PublicKeyData}

theorem mem_hexEncode {bytes : Bytes} {ch : Char}
    (h : ch ∈ (Idempotency.hexEncode bytes).toList) : isAsciiHexdigit ch = true := by
  unfold Idempotency.hexEncode at h
  rw [String.toList_ofList] at h
  obtain ⟨b, -, hb⟩ := List.mem_flatMap.mp h
  simp only [List.mem_cons, List.not_mem_nil, or_false] at hb
  rcases hb with rfl | rfl <;> exact isAsciiHexdigit_hexDigit _

theorem length_hexEncode (bytes : Bytes) :
    (Idempotency.hexEncode bytes).toList.length = 2 * bytes.length := by
  unfold Idempotency.hexEncode
  rw [String.toList_ofList]
  induction bytes with
  | nil => rfl
  | cons b bytes ih =>
    rw [List.flatMap_cons, List.length_append, ih, List.length_cons]
    simp
    omega

/-- A generated key has the format of a key. -/
theorem validateKeyFormat_generated (bytes : FixedBytes 32) :
    validateKeyFormat ("pk_test_" ++ Idempotency.hexEncode bytes.val) = .ok () := by
  have htest : stripPrefix "pk_test_" ("pk_test_" ++ Idempotency.hexEncode bytes.val) =
      some (Idempotency.hexEncode bytes.val) := stripPrefix_append _ _
  have hdrop : ("pk_test_" ++ Idempotency.hexEncode bytes.val).toList.drop 8 =
      (Idempotency.hexEncode bytes.val).toList := by
    rw [String.toList_append]
    rfl
  have hhex : (Idempotency.hexEncode bytes.val).toList.all isAsciiHexdigit = true :=
    List.all_eq_true.mpr fun _ => mem_hexEncode
  have hlen : byteLen (String.ofList (Idempotency.hexEncode bytes.val).toList) = 64 := by
    rw [byteLen_ofList fun ch hch => Use.isAsciiHexdigit_ascii (mem_hexEncode hch),
      length_hexEncode, bytes.property]
  unfold validateKeyFormat
  rw [htest, if_neg (by simp), hdrop]
  simp only [hlen, hhex]
  rfl

/-- **The hosted key is written again** after caller `i` wrote it: by `provii-management`, or by
another registration that drew the same bytes. -/
def KeyReplaced (tr : List (Event namespaces Caller)) (i : Nat) (key : String) : Prop :=
  ∃ newer older j s, ∃ (op : Op) (c : Choice op), tr = newer ++ .call j s op c :: older ∧ j ≠ i ∧
    (∃ text, (⟨.hostedPut key text, true⟩ : Sigma Res) ∈ own i older) ∧
    ((∃ entry, op = .manage (.hosted key entry)) ∨ ∃ text, op = .hostedPut key text)

/-- **The index entry of an origin is managed** after caller `i` wrote it. -/
def IndexManaged (tr : List (Event namespaces Caller)) (i : Nat) (origin : String) : Prop :=
  ∃ newer older j s entry c, tr = newer ++ .call j s (.manage (.index origin entry)) c :: older ∧
    ∃ entry', (⟨.indexPut origin entry', true⟩ : Sigma Res) ∈ own i older

/-- The hosted keys that can be read. -/
def hostedKeys (s : State) : KeyRotation.HostedStore := Expiring.get s.hosted s.clock

/-- An entry that passes the checks of the hosted flow is read until a time. -/
def AllowedUntil (t : Nat) (origin : String) (s : State) : Prop :=
  ∃ entry ends, s.index origin = some ⟨entry, ends⟩ ∧ t ≤ ends ∧
    HostedCors.validateOriginFromKv (.entry entry) = .allowed

theorem hosted_put {text : String}
    (hx : (⟨.hostedPut key text, true⟩ : Sigma Res) = ⟨op, (perform s op c).1⟩) :
    (perform s op c).2.hosted key = some ⟨text, s.clock + 1000 * ttlSeconds⟩ := by
  obtain ⟨w, hres, hstate⟩ := performed hx
  have hdone : w = .done := of_decide_eq_true hres
  rw [hstate, hdone]
  exact Expiring.put_self

theorem index_put {origin : String} {entry : OriginIndexEntry}
    (hx : (⟨.indexPut origin entry, true⟩ : Sigma Res) = ⟨op, (perform s op c).1⟩) :
    (perform s op c).2.index origin = some ⟨entry, s.clock + 1000 * ttlSeconds⟩ := by
  obtain ⟨w, hres, hstate⟩ := performed hx
  have hdone : w = .done := of_decide_eq_true hres
  rw [hstate, hdone]
  exact Expiring.put_self

theorem guards_hosted {caller : Caller} {h : History Op Res} {text : String}
    (hguard : CallerGuards r caller h (.hostedPut key text)) : ∀ x ∈ h, ¬ PutsHosted x.1 := by
  cases caller with
  | management w => cases hguard
  | developer req =>
    rcases hguard with ⟨g, -, hop⟩ | ⟨clientId, text', hop⟩ | ⟨o, hop⟩
    · cases hop
    · cases hop
    · exact hop

theorem registers_allowed {origin origin' : String} {entry : OriginIndexEntry}
    {h : History Op Res} (hreg : Registers origin h (.indexPut origin' entry)) :
    HostedCors.validateOriginFromKv (.entry entry) = .allowed := by
  obtain ⟨-, hkeys, hmetering⟩ := hreg
  unfold HostedCors.validateOriginFromKv
  dsimp only
  rw [if_pos hkeys, hmetering]
  rfl

theorem guards_index {caller : Caller} {h : History Op Res} {origin : String}
    {entry : OriginIndexEntry} (hguard : CallerGuards r caller h (.indexPut origin entry)) :
    HostedCors.validateOriginFromKv (.entry entry) = .allowed := by
  cases caller with
  | management w => cases hguard
  | developer req =>
    rcases hguard with ⟨g, -, hop⟩ | ⟨clientId, text', hop⟩ | ⟨o, hop⟩
    · cases hop
    · cases hop
    · exact registers_allowed hop

/-- Only `provii-management` takes an allowed entry away. -/
theorem managed_of_broken {t : Nat} {origin : String} {caller : Caller} {h : History Op Res}
    (hguard : CallerGuards r caller h op) (ht : t ≤ s.clock + 1000 * ttlSeconds)
    (hbefore : AllowedUntil t origin s) (hafter : ¬ AllowedUntil t origin (perform s op c).2) :
    ∃ entry, op = .manage (.index origin entry) := by
  have hchanged (hsame : (perform s op c).2.index origin = s.index origin) : False := by
    unfold AllowedUntil at hbefore hafter
    rw [hsame] at hafter
    exact hafter hbefore
  cases op with
  | manage w =>
    cases w with
    | config key' entry => exact (hchanged rfl).elim
    | hosted key' entry => exact (hchanged rfl).elim
    | index origin' entry =>
      by_cases horigin : origin' = origin
      · exact ⟨entry, by rw [horigin]⟩
      · exact (hchanged (Function.update_of_ne (Ne.symm horigin) _ _)).elim
  | indexPut origin' entry =>
    by_cases horigin : origin' = origin
    · subst horigin
      have hput (hstored : (perform s (.indexPut origin' entry) c).2.index origin' =
          some ⟨entry, s.clock + 1000 * ttlSeconds⟩) : False :=
        hafter ⟨entry, _, hstored, ht, guards_index hguard⟩
      cases c with
      | lost => exact (hchanged rfl).elim
      | done => exact (hput Expiring.put_self).elim
      | unacknowledged => exact (hput Expiring.put_self).elim
    · exact (hchanged (Writing.store_ne horigin c)).elim
  | _ => exact (hchanged rfl).elim

theorem HostedWrite.format {origin text : String} {h : History Op Res}
    (hw : HostedWrite r origin key text h) : validateKeyFormat key = .ok () := by
  obtain ⟨bytes, -, -, -, rfl, -⟩ := hw.written
  exact validateKeyFormat_generated bytes

/-- What was written is read as what it was made of, under its master key. -/
theorem HostedWrite.readable {origin text : String} {h : History Op Res}
    (hw : HostedWrite r origin key text h)
    (hparse : ∀ data, parse (r.keyDataText data) = some ⟨data.allowedOrigins, data.enabled⟩) :
    ∃ mek : Mek, (⟨.hostedMek, some mek.val⟩ : Sigma Res) ∈ h ∧ ∃ plaintext,
      HostedKeys.Readable r.aead (fun _ => true) parse mek text plaintext ⟨[origin], true⟩ := by
  obtain ⟨-, data, mek, drawn, -, horigins, henabled, hmem, hencrypt⟩ := hw.written
  cases drawn with
  | error e =>
    unfold HostedEncryption.encryptWithMek at hencrypt
    dsimp only at hencrypt
    split at hencrypt <;> cases hencrypt
  | ok iv =>
    have hlen : mek.length = 32 := (HostedEncryption.encryptWithMek_ok_iff.mp hencrypt).1
    refine ⟨⟨mek, hlen⟩, hmem, utf8Bytes (r.keyDataText data), ?_, rfl, ?_⟩
    · exact EnvelopeEncryption.plaintextOf_of_isEncryption
        (HostedEncryption.isEncryption_of_encryptWithMek hencrypt)
    · rw [HostedKeys.fromUtf8_utf8Bytes, Option.bind_some, hparse, horigins, henabled]

/-- **A hosted key that was handed out is served**: until the time the client was told, the key is
found under the master key that it was written with and no other, unless it was written again; and
its origin passes the checks of the hosted flow, unless `provii-management` changed its entry. -/
theorem hosted_key_served (r : Registrar) (parse : String → Option PublicKeyData)
    (hparse : ∀ data, parse (r.keyDataText data) = some ⟨data.allowedOrigins, data.enabled⟩)
    (hr : Run (handle r) anyCallers Started p)
    (ho : p.outcome i = some (.ok (some (.registered a)))) (hkey : a.publicKey = some key)
    (hlive : p.world.state.clock / 1000 < a.expiresAt) :
    (KeyReplaced p.world.trace i key ∨
      ∃ mek : Mek, (⟨.hostedMek, some mek.val⟩ : Sigma Res) ∈ own i p.world.trace ∧
        ∀ slots : Slots, getKey r.aead parse slots (hostedKeys p.world.state) key =
          .ok ⟨[a.origin], true⟩ ↔ slots.current = mek) ∧
      (IndexManaged p.world.trace i a.origin ∨
        ∃ entry, Expiring.get p.world.state.index p.world.state.clock a.origin = some entry ∧
          HostedCors.validateOriginFromKv (.entry entry) = .allowed) := by
  obtain ⟨caller, harrive, htells⟩ := hr.outcome (guarded_handle r) ho
  obtain ⟨req, rfl, g, past, -, hgranted, ha, hhosted⟩ := htells a rfl
  obtain ⟨text, entry, past', hreg, hindexed, hpast, hwrite⟩ := hhosted key hkey
  have horigin : a.origin = g.origin := congrArg Registered.origin ha
  have hexpires : a.expiresAt = g.nowMs / 1000 + ttlSeconds := congrArg Registered.expiresAt ha
  have hlive : p.world.state.clock / 1000 < g.nowMs / 1000 + ttlSeconds := hexpires ▸ hlive
  have hnow : (⟨.now, g.nowMs⟩ : Sigma Res) ∈ past' := hpast.subset hgranted.now
  rw [horigin]
  constructor
  · have hput := (List.suffix_cons _ _).trans hindexed
    obtain ⟨new, s, op, c, old, htr, hx, hle⟩ := ran_after_now hr hput hnow
    let entry : Expiring.Entry String := ⟨text, s.clock + 1000 * ttlSeconds⟩
    rcases hr.since (P := fun s : State => s.hosted key = some entry)
      (fun _ _ => id) htr (hosted_put hx) with
      hstands | ⟨newer, older, j, s', op', c', hnew, hbefore, hafter⟩
    · right
      have hraw : hostedKeys p.world.state key = some text := get_of_ends hstands hle hlive
      obtain ⟨mek, hmem, plaintext, hread⟩ := hwrite.readable hparse
      refine ⟨mek, ?_, HostedKeys.getKey_iff hwrite.format hraw hread⟩
      exact hput.subset (List.mem_cons_of_mem _ hmem)
    · left
      have hchanged : (perform s' op' c').2.hosted key ≠ s'.hosted key := hbefore ▸ hafter
      obtain ⟨caller, hlater⟩ := later_of_call hr htr hx hnew
      refine ⟨newer, _, j, s', op', c', hlater.trace, ?_, ⟨_, hlater.before⟩,
        hosted_changed hchanged⟩
      rintro rfl
      have hcaller := hr.arrive_unique hlater.arrive harrive
      subst hcaller
      rcases hosted_changed hchanged with ⟨entry, rfl⟩ | ⟨text', rfl⟩
      · cases guards_manage hlater.guard
      · exact guards_hosted hlater.guard _ hlater.before ⟨_, _, rfl⟩
  · obtain ⟨new, s, op, c, old, htr, hx, hle⟩ :=
      ran_after_now hr hindexed (List.mem_cons_of_mem _ hnow)
    have hallowed : AllowedUntil (s.clock + 1000 * ttlSeconds) g.origin (perform s op c).2 :=
      ⟨entry, _, index_put hx, Nat.le_refl _, registers_allowed hreg⟩
    rcases hr.since (fun _ _ => id) htr hallowed with
      ⟨entry', ends, hentry, hends, hvalid⟩ | ⟨newer, older, j, s', op', c', hnew, hbefore, hafter⟩
    · right
      refine ⟨entry', Expiring.get_eq_some.mpr ⟨ends, hentry, ?_⟩, hvalid⟩
      omega
    · left
      obtain ⟨caller, hlater⟩ := later_of_call hr htr hx hnew
      have hends := Nat.add_le_add_right hlater.clock (1000 * ttlSeconds)
      obtain ⟨entry', rfl⟩ := managed_of_broken hlater.guard hends hbefore hafter
      exact ⟨newer, _, j, s', entry', c', hlater.trace, entry, hlater.before⟩

end Hosted

/-! ## Samples -/

section Samples

/-- The text of key data in the samples: whether it is enabled, and each origin with a mark before
every character and another one at its end. -/
def sampleText (data : HostedKeyData) : String :=
  String.ofList ((if data.enabled then 'y' else 'n') ::
    data.allowedOrigins.flatMap fun o => o.toList.flatMap (fun ch => ['+', ch]) ++ ['.'])

/-- The origins of such a text; `read` is what was read of the first. -/
def sampleOrigins (read : List Char) : List Char → Option (List String)
  | [] => if read = [] then some [] else none
  | '.' :: rest => (sampleOrigins [] rest).map (String.ofList read :: ·)
  | '+' :: ch :: rest => sampleOrigins (read ++ [ch]) rest
  | _ => none

def sampleParse (text : String) : Option PublicKeyData :=
  match text.toList with
  | 'y' :: rest => (sampleOrigins [] rest).map (⟨·, true⟩)
  | 'n' :: rest => (sampleOrigins [] rest).map (⟨·, false⟩)
  | _ => none

theorem sampleOrigins_cons (cs read rest : List Char) :
    sampleOrigins read (cs.flatMap (fun ch => ['+', ch]) ++ '.' :: rest) =
      (sampleOrigins [] rest).map (String.ofList (read ++ cs) :: ·) := by
  induction cs generalizing read with
  | nil =>
    rw [List.append_nil]
    rfl
  | cons ch cs ih =>
    refine (ih (read ++ [ch])).trans ?_
    rw [List.append_assoc]
    rfl

theorem sampleParse_text (data : HostedKeyData) :
    sampleParse (sampleText data) = some ⟨data.allowedOrigins, data.enabled⟩ := by
  have horigins (os : List String) : sampleOrigins []
      (os.flatMap fun o => o.toList.flatMap (fun ch => ['+', ch]) ++ ['.']) = some os := by
    induction os with
    | nil => rfl
    | cons o os ih =>
      rw [List.flatMap_cons, List.append_assoc]
      refine (sampleOrigins_cons o.toList [] _).trans ?_
      refine (congrArg _ ih).trans ?_
      rw [List.nil_append, String.ofList_toList]
      rfl
  unfold sampleParse sampleText
  rw [String.toList_ofList]
  cases data.enabled with
  | true => exact congrArg (Option.map _) (horigins data.allowedOrigins)
  | false => exact congrArg (Option.map _) (horigins data.allowedOrigins)

def sampleBytes (n : Nat) (b : UInt8) : FixedBytes n := ⟨List.replicate n b, List.length_replicate⟩

def sampleBody : RegisterRequest :=
  { origin := "https://dev.example/", minAgeYears := 18, proofDirection := none
    maxAgeYears := none, apiKey := "docs-key", contactEmail := none }

/-- A sandbox of the docs gateway. -/
def sampleRegistrar : Registrar :=
  { environment := "sandbox"
    uni := Unicode.ascii
    sandboxApiKeyCached := some "docs-key"
    loadtestApiKeyCached := none
    rateLimitBinding := true
    configBinding := true
    mekCached := some (sampleBytes 32 1).val
    vkId := 914153247
    hmac := fun _ _ => [1]
    sha256 := id
    blake3 := fun _ => sampleBytes 32 7
    hashIp := id
    fromSlice := fun _ => some sampleBody
    hashApiKey := fun salt key => some (salt ++ key)
    aead := Aead.labelled
    keyDataText := sampleText }

/-- The stored hash ends with the key. -/
def sampleVerify (key hash : String) : Bool := key.toList.isSuffixOf hash.toList

theorem sampleVerify_hash (salt key hash : String)
    (h : sampleRegistrar.hashApiKey salt key = some hash) : sampleVerify key hash = true := by
  injection h with h
  unfold sampleVerify
  rw [← h, String.toList_append, List.isSuffixOf_iff_suffix]
  exact List.suffix_append _ _

def sampleRequest : Request :=
  { headers := fun name => if name = "X-Docs-Hmac" then some "01" else none
    body := some [] }

def sampleState : State :=
  { counts := fun _ => none, config := fun _ => none, hosted := fun _ => none
    index := fun _ => none, clock := 5000 }

/-- Nothing fails. -/
def healthy : (op : Op) → namespaces.Choice op
  | .countGet _ => Reading.stored
  | .countPut _ _ => Writing.done
  | .configGet _ => Reading.stored
  | .configPut _ _ => Writing.done
  | .draw => .ok (sampleBytes 32 9)
  | .drawEnvelope => ⟨.ok (sampleBytes 32 3), .ok (sampleBytes 12 4), .ok (sampleBytes 12 5)⟩
  | .drawIv => .ok (sampleBytes 12 6)
  | .salt => "salt"
  | .now => ()
  | .hostedMek => some (sampleBytes 32 2).val
  | .hostedPut _ _ => Writing.done
  | .indexPut _ _ => Writing.done
  | .manage _ => ()

instance : DecidableRules anyCallers where
  arrive := fun _ _ _ => .isTrue trivial
  call := fun _ _ _ _ => .isTrue trivial
  env := fun w ms => inferInstanceAs (Decidable (w.state.clock + ms < 2 ^ 64))

/-- A developer registers an origin, and a day passes. -/
def sampleActs : List (Act namespaces Caller) :=
  .arrive 0 (.developer sampleRequest) :: List.replicate 16 (.call 0 healthy) ++ [.env 86400000]

/-- The answer of a registration that is done. -/
def registered (p : Callers) (i : Nat) : Option Registered :=
  match p.outcome i with
  | some (.ok (some (.registered a))) => some a
  | _ => none

theorem outcome_of_registered (h : registered p i = some a) :
    p.outcome i = some (.ok (some (.registered a))) := by
  unfold registered at h
  split at h
  · next a' heq =>
    injection h with h
    rw [heq, h]
  · cases h

theorem unused_sampleState : Unused sampleState := by
  refine ⟨?_, fun _ => rfl⟩
  unfold Started sampleState
  norm_num

theorem sampleRun : ∃ p : Callers, Run (handle sampleRegistrar) anyCallers Started p ∧
    ∃ a key, p.outcome 0 = some (.ok (some (.registered a))) ∧ a.publicKey = some key ∧
      p.world.state.clock / 1000 < a.expiresAt := by
  obtain ⟨p, hr, hdone⟩ : ∃ p : Callers, Run (handle sampleRegistrar) anyCallers Started p ∧
      (registered p 0).any (fun a => a.publicKey.isSome &&
        decide (p.world.state.clock / 1000 < a.expiresAt)) = true :=
    Run.of_replay sampleState sampleActs unused_sampleState.1 (by decide +kernel)
  obtain ⟨a, ha, hboth⟩ := (Option.any_eq_true _ _).mp hdone
  obtain ⟨hkey, hlive⟩ := (Bool.and_eq_true _ _).mp hboth
  obtain ⟨key, hkey⟩ := Option.isSome_iff_exists.mp hkey
  exact ⟨p, hr, a, key, outcome_of_registered ha, hkey, of_decide_eq_true hlive⟩

/-- A day after it was registered, a client is served. -/
theorem credentials_served_day : ∃ p : Callers,
    Run (handle sampleRegistrar) anyCallers Started p ∧ ∃ a req body,
      p.outcome 0 = some (.ok (some (.registered a))) ∧
      Admissible sampleRegistrar req body a.proofDirection ∧
      (PolicyReplaced p.world.trace 0 a.origin ∨
        ∃ policy, enabledPolicy (policies (fun _ => "") p.world.state) a.origin = some policy ∧
          Serves sampleRegistrar sampleVerify body.apiKey a policy) := by
  obtain ⟨p, hr, a, key, ho, -, hlive⟩ := sampleRun
  obtain ⟨req, body, -, hadmissible, hserved⟩ := credentials_served sampleRegistrar
    (by decide) sampleVerify sampleVerify_hash (fun _ => "") hr ho hlive
  exact ⟨p, hr, a, req, body, ho, hadmissible, hserved⟩

/-- A day after it was handed out, a hosted key is found under its master key. -/
theorem hosted_key_served_day : ∃ p : Callers,
    Run (handle sampleRegistrar) anyCallers Started p ∧ ∃ a key,
      p.outcome 0 = some (.ok (some (.registered a))) ∧ a.publicKey = some key ∧
      (KeyReplaced p.world.trace 0 key ∨
        ∃ mek : KeyRotation.Mek, ∀ slots : HostedKeys.Slots,
          HostedKeys.getKey sampleRegistrar.aead sampleParse slots (hostedKeys p.world.state) key =
            .ok ⟨[a.origin], true⟩ ↔ slots.current = mek) := by
  obtain ⟨p, hr, a, key, ho, hkey, hlive⟩ := sampleRun
  refine ⟨p, hr, a, key, ho, hkey, ?_⟩
  rcases (hosted_key_served sampleRegistrar sampleParse sampleParse_text hr ho hkey hlive).1 with
    hreplaced | ⟨mek, -, hread⟩
  · exact .inl hreplaced
  · exact .inr ⟨mek, hread⟩

/-- The policy of the registered origin has a source. -/
theorem stored_policy_authentic_day : ∃ p : Callers,
    Run (handle sampleRegistrar) anyCallers Unused p ∧ ∃ entry,
      p.world.state.config (policyKey "https://dev.example") = some entry ∧
      (Provisioned p.world.trace "https://dev.example" entry.value ∨
        Authentic sampleRegistrar (fun _ => "") p.world.trace "https://dev.example"
          entry.value) := by
  obtain ⟨p, hr, hstored⟩ : ∃ p : Callers, Run (handle sampleRegistrar) anyCallers Unused p ∧
      (p.world.state.config (policyKey "https://dev.example")).isSome = true :=
    Run.of_replay sampleState sampleActs unused_sampleState (by decide +kernel)
  obtain ⟨entry, hentry⟩ := Option.isSome_iff_exists.mp hstored
  exact ⟨p, hr, entry, hentry, stored_policy_authentic sampleRegistrar (by decide) _ hr _ entry
    hentry⟩

end Samples

end TestOrigins

end ProviiVerifier

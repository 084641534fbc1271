/-
  `verify_api_key_cached` in `security/auth.rs`: the verdicts of an isolate on API keys.

  An entry is stored under the hash of the key and the client, with the verdict, the client and
  the time in milliseconds. `Auth` takes the cache as two operations of the service; here its
  contents are followed over a sequence of calls, between which a client may get another hash.
  What is assumed of SHA-256 is that the inputs of the calls do not collide.

  Proved: a call accepts only a key that verified against a hash its client had in the last
  thirty seconds (`verified_recently`); together with that, a key that verifies is accepted
  exactly when no refusal that is still cached stands in its way (`cache_safe_iff`), which takes
  a new hash within thirty seconds (`acceptsValid_of_constant`, `valid_key_refused`).
-/
import ProviiVerifier.Auth
import ProviiVerifier.NonceDO

namespace ProviiVerifier

namespace ApiKeyCache

/-- `API_KEY_CACHE_TTL_MS`. -/
def apiKeyCacheTtlMs : Nat := 30000

/-- `VerificationCacheEntry`. -/
structure VerificationCacheEntry where
  verified : Bool
  clientId : String
  cachedAt : Nat
  deriving DecidableEq

/-- What `make_cache_key` hashes. -/
def cacheKeyInput (apiKey clientId : String) : Bytes :=
  utf8Bytes apiKey ++ utf8Bytes ":" ++ utf8Bytes clientId

/-- `make_cache_key`. -/
def makeCacheKey (app : AppState) (apiKey clientId : String) : String :=
  Idempotency.hexEncode (app.sha256 (cacheKeyInput apiKey clientId))

/-- `API_KEY_CACHE`. -/
abbrev Cache := String → Option VerificationCacheEntry

/-- `verify_api_key`. -/
def verifyApiKey (app : AppState) (client : ClientAuthConfig) (apiKey : String) :
    Except ApiError Unit :=
  if app.verifyApiKey apiKey client.apiKeyHash then .ok ()
  else .error (.unauthorizedWith "API_KEY_INVALID"
    "API key did not match the stored hash for this client")

/-- The verdict that is cached for the client and has not expired. -/
def cachedVerdict (app : AppState) (cache : Cache) (now : Nat) (client : ClientAuthConfig)
    (apiKey : String) : Option Bool :=
  match cache (makeCacheKey app apiKey client.clientId) with
  | some cached =>
    if cached.clientId = client.clientId ∧ now - cached.cachedAt < apiKeyCacheTtlMs then
      some cached.verified
    else none
  | none => none

/-- `verify_api_key_cached`. -/
def verifyApiKeyCached (app : AppState) (cache : Cache) (now : Nat) (client : ClientAuthConfig)
    (apiKey : String) : Except ApiError Unit × Cache :=
  match cachedVerdict app cache now client apiKey with
  | some true => (.ok (), cache)
  | some false => (.error .unauthorized, cache)
  | none =>
    let result := verifyApiKey app client apiKey
    (result, Function.update cache (makeCacheKey app apiKey client.clientId)
      (some ⟨result.isOk, client.clientId, now⟩))

/-! ## Cache keys -/

/-- The separator does not confuse the keys of one client. -/
theorem cacheKeyInput_injective {apiKey apiKey' clientId : String}
    (h : cacheKeyInput apiKey clientId = cacheKeyInput apiKey' clientId) : apiKey = apiKey' := by
  unfold cacheKeyInput at h
  rw [List.append_assoc, List.append_assoc] at h
  exact utf8Bytes_injective (List.append_cancel_right h)

/-! ## Sequences of calls -/

/-- A call, with the client as it is stored at that time. -/
structure Call where
  now : Nat
  client : ClientAuthConfig
  apiKey : String

/-- The cache after calls, newest first. -/
def cacheAfter (app : AppState) : List Call → Cache
  | [] => fun _ => none
  | c :: old => (verifyApiKeyCached app (cacheAfter app old) c.now c.client c.apiKey).2

/-- What a call answers after earlier ones. -/
def answer (app : AppState) (c : Call) (old : List Call) : Except ApiError Unit :=
  (verifyApiKeyCached app (cacheAfter app old) c.now c.client c.apiKey).1

/-- The key of a call verifies against the hash its client has at another call. -/
def VerifiesAt (app : AppState) (c c' : Call) : Prop :=
  c'.client.clientId = c.client.clientId ∧ app.verifyApiKey c.apiKey c'.client.apiKeyHash = true

/-- An accepted key verified against a hash the client had in the last thirty seconds. -/
def AcceptsVerified (app : AppState) (c : Call) (old : List Call) : Prop :=
  answer app c old = .ok () →
    ∃ c' ∈ c :: old, VerifiesAt app c c' ∧ c.now ≤ c'.now + apiKeyCacheTtlMs

/-- A key that verifies against the client's hash is accepted. -/
def AcceptsValid (app : AppState) (c : Call) (old : List Call) : Prop :=
  app.verifyApiKey c.apiKey c.client.apiKeyHash = true → answer app c old = .ok ()

/-- A refusal of the key is cached for the client. -/
def MeetsRefusal (app : AppState) (c : Call) (old : List Call) : Prop :=
  cachedVerdict app (cacheAfter app old) c.now c.client c.apiKey = some false

/-- The inputs of the calls do not collide under SHA-256. -/
def NoCollision (app : AppState) (calls : List Call) : Prop :=
  ∀ c ∈ calls, ∀ c' ∈ calls,
    app.sha256 (cacheKeyInput c.apiKey c.client.clientId) =
        app.sha256 (cacheKeyInput c'.apiKey c'.client.clientId) →
      cacheKeyInput c.apiKey c.client.clientId = cacheKeyInput c'.apiKey c'.client.clientId

variable {app : AppState} {c : Call} {old calls : List Call} {key : String}
  {entry : VerificationCacheEntry}

/-- An entry is the verdict of one of the calls. -/
theorem cacheAfter_some (h : cacheAfter app old key = some entry) :
    ∃ c' ∈ old, key = makeCacheKey app c'.apiKey c'.client.clientId ∧
      entry = ⟨app.verifyApiKey c'.apiKey c'.client.apiKeyHash, c'.client.clientId, c'.now⟩ := by
  induction old with
  | nil => cases h
  | cons c old ih =>
    have hold : cacheAfter app old key = some entry → ∃ c' ∈ c :: old,
        key = makeCacheKey app c'.apiKey c'.client.clientId ∧
          entry = ⟨app.verifyApiKey c'.apiKey c'.client.apiKeyHash, c'.client.clientId,
            c'.now⟩ := by
      intro h
      obtain ⟨c', hm, hkey, hentry⟩ := ih h
      exact ⟨c', List.mem_cons_of_mem _ hm, hkey, hentry⟩
    unfold cacheAfter verifyApiKeyCached at h
    split at h
    · exact hold h
    · exact hold h
    · by_cases hkey : key = makeCacheKey app c.apiKey c.client.clientId
      · rw [hkey] at h
        simp only [Function.update_self, Option.some.injEq] at h
        refine ⟨c, List.mem_cons_self, hkey, ?_⟩
        rw [← h]
        unfold verifyApiKey
        cases app.verifyApiKey c.apiKey c.client.apiKeyHash <;> rfl
      · dsimp only at h
        rw [Function.update_of_ne hkey] at h
        exact hold h

/-- A cached verdict is that of an earlier call with the same key for the same client. -/
theorem cachedVerdict_some (hno : NoCollision app (c :: old)) {verdict : Bool}
    (h : cachedVerdict app (cacheAfter app old) c.now c.client c.apiKey = some verdict) :
    ∃ c' ∈ old, c'.client.clientId = c.client.clientId ∧
      app.verifyApiKey c.apiKey c'.client.apiKeyHash = verdict ∧
      c.now < c'.now + apiKeyCacheTtlMs := by
  unfold cachedVerdict at h
  split at h
  · next cached hcached =>
    split at h
    · next hfresh =>
      obtain ⟨c', hm, hkey, rfl⟩ := cacheAfter_some hcached
      injection h with hverdict
      have hclient : c'.client.clientId = c.client.clientId := hfresh.1
      have hage : c.now - c'.now < apiKeyCacheTtlMs := hfresh.2
      -- one digest is one input, and for one client that is one key
      have hinput := hno c List.mem_cons_self c' (List.mem_cons_of_mem _ hm)
        (Idempotency.hexEncode_injective hkey)
      rw [← hclient] at hinput
      have hsame := cacheKeyInput_injective hinput
      refine ⟨c', hm, hclient, ?_, by omega⟩
      rw [hsame]
      exact hverdict
    · cases h
  · cases h

/-- **What is accepted was verified**, and not long ago. -/
theorem verified_recently (hno : NoCollision app (c :: old)) : AcceptsVerified app c old := by
  intro hok
  unfold answer verifyApiKeyCached at hok
  cases hverdict : cachedVerdict app (cacheAfter app old) c.now c.client c.apiKey with
  | none =>
    rw [hverdict] at hok
    refine ⟨c, List.mem_cons_self, ⟨rfl, ?_⟩, Nat.le_add_right _ _⟩
    unfold verifyApiKey at hok
    dsimp only at hok
    split at hok
    · next h => exact h
    · cases hok
  | some verdict =>
    cases verdict with
    | false =>
      rw [hverdict] at hok
      cases hok
    | true =>
      obtain ⟨c', hm, hclient, hverified, hage⟩ := cachedVerdict_some hno hverdict
      exact ⟨c', List.mem_cons_of_mem _ hm, ⟨hclient, hverified⟩, hage.le⟩

/-- A refusal that is met was given to the same key less than thirty seconds ago. -/
theorem MeetsRefusal.cause (hno : NoCollision app (c :: old)) (h : MeetsRefusal app c old) :
    ∃ c' ∈ old, c'.client.clientId = c.client.clientId ∧
      app.verifyApiKey c.apiKey c'.client.apiKeyHash = false ∧
      c.now < c'.now + apiKeyCacheTtlMs :=
  cachedVerdict_some hno h

/-- While a client keeps its hash, no valid key of it is refused. -/
theorem acceptsValid_of_constant (hno : NoCollision app (c :: old))
    (hkeeps : ∀ c' ∈ old, c'.client.clientId = c.client.clientId →
      c'.client.apiKeyHash = c.client.apiKeyHash) (h : MeetsRefusal app c old) :
    app.verifyApiKey c.apiKey c.client.apiKeyHash = false := by
  obtain ⟨c', hm, hclient, hrefused, -⟩ := h.cause hno
  rw [← hkeeps c' hm hclient]
  exact hrefused

/-- A valid key is refused exactly when a cached refusal stands in its way. -/
theorem acceptsValid_iff : AcceptsValid app c old ↔
    (MeetsRefusal app c old → app.verifyApiKey c.apiKey c.client.apiKeyHash = false) := by
  unfold AcceptsValid MeetsRefusal answer verifyApiKeyCached verifyApiKey
  cases cachedVerdict app (cacheAfter app old) c.now c.client c.apiKey with
  | none =>
    cases app.verifyApiKey c.apiKey c.client.apiKeyHash with
    | false => simp
    | true => simp
  | some verdict =>
    cases verdict with
    | false =>
      cases app.verifyApiKey c.apiKey c.client.apiKeyHash with
      | false => simp
      | true => simp
    | true => simp

theorem NoCollision.of_suffix (h : NoCollision app calls) (hs : old <:+ calls) :
    NoCollision app old :=
  fun c hc c' hc' => h c (hs.subset hc) c' (hs.subset hc')

/-- **The cache.** Over a sequence of calls, newest first: what is accepted was verified in the
last thirty seconds and what is valid is accepted, exactly when no call presents a valid key while
a refusal of it is cached. -/
theorem cache_safe_iff (app : AppState) (calls : List Call) (hno : NoCollision app calls) :
    (∀ c old, c :: old <:+ calls → AcceptsVerified app c old ∧ AcceptsValid app c old) ↔
      ∀ c old, c :: old <:+ calls → MeetsRefusal app c old →
        app.verifyApiKey c.apiKey c.client.apiKeyHash = false := by
  constructor
  · intro h c old hs
    exact acceptsValid_iff.mp (h c old hs).2
  · intro h c old hs
    exact ⟨verified_recently (hno.of_suffix hs), acceptsValid_iff.mpr (h c old hs)⟩

/-- The SHA-256 digest of the key `key` of the client `shop`. -/
def sampleKeyDigest : Bytes :=
  [144, 133, 236, 72, 5, 114, 253, 40, 68, 129, 210, 14, 54, 104, 135, 0, 3, 143, 81, 216, 207, 25,
    156, 168, 11, 169, 162, 175, 104, 67, 67, 150]

/-- A service whose keys are their own hashes. -/
def sampleApp : AppState :=
  { AppState.sample with
    sha256 := fun bytes => if bytes = cacheKeyInput "key" "shop" then sampleKeyDigest else [] }

/-- A call of the client `shop` with the key `key`. -/
def sampleCall (now : Nat) (apiKeyHash : String) : Call where
  now := now
  client :=
    { clientId := "shop"
      apiKeyHash := apiKeyHash
      apiKeyPrefix := none
      encryptedHmacSecret := ""
      dekEncrypted := ""
      encryptionVersion := 1
      active := true }
  apiKey := "key"

theorem noCollision_sampleCalls (hash : String) :
    NoCollision sampleApp [sampleCall 10000 "key", sampleCall 0 hash] := by
  intro c hc c' hc' _
  simp only [List.mem_cons, List.not_mem_nil, or_false] at hc hc'
  obtain rfl | rfl := hc <;> obtain rfl | rfl := hc' <;> rfl

/-- A key that is the client's from the first call on is accepted again from the cache. -/
theorem cache_safe_steady :
    answer sampleApp (sampleCall 10000 "key") [sampleCall 0 "key"] = .ok () ∧
      cachedVerdict sampleApp (cacheAfter sampleApp [sampleCall 0 "key"]) 10000
        (sampleCall 10000 "key").client "key" = some true := by
  have hno := noCollision_sampleCalls "key"
  have h := (cache_safe_iff sampleApp _ hno).mpr ?_
  · exact ⟨(h _ _ (List.suffix_refl _)).2 (by decide +kernel), by decide +kernel⟩
  · intro c old hs
    refine acceptsValid_of_constant (hno.of_suffix hs) fun c' hc' _ => ?_
    have hall : ∀ c ∈ [sampleCall 10000 "key", sampleCall 0 "key"],
        c.client.apiKeyHash = "key" := by
      intro c hc
      simp only [List.mem_cons, List.not_mem_nil, or_false] at hc
      obtain rfl | rfl := hc <;> rfl
    rw [hall c' (hs.subset (List.mem_cons_of_mem _ hc')),
      hall c (hs.subset List.mem_cons_self)]

/-- A key is refused although it became the client's in the ten seconds since the last call. -/
theorem valid_key_refused :
    NoCollision sampleApp [sampleCall 10000 "key", sampleCall 0 "other"] ∧
      ¬ AcceptsValid sampleApp (sampleCall 10000 "key") [sampleCall 0 "other"] := by
  refine ⟨noCollision_sampleCalls "other", fun h => ?_⟩
  have hrefused : (answer sampleApp (sampleCall 10000 "key") [sampleCall 0 "other"]).isOk =
      false := by
    decide +kernel
  rw [h (by decide +kernel)] at hrefused
  cases hrefused

end ApiKeyCache

end ProviiVerifier

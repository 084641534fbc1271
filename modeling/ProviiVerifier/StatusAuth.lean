/-
  `authenticate_status_endpoint_with_resolved_slots` of `security/status_auth.rs`: who may read the
  status endpoints.

  Argon2id is the `argon2` crate's and is a parameter (`verifyPassword`), as is what the origin
  policy store answers. Log lines and audit events are left out.

  The sources of a request are the bearer token, `X-Status-Token` and `X-API-Key`, in this order. A
  bearer token takes the place of `X-Status-Token`, whether it verifies or not, and an empty API key
  is not tried.

  Proved: the endpoint accepts exactly when a source that is tried verifies, and answers with the
  slot of the first that does (`status_endpoint_accepts`).
-/
import ProviiVerifier.SessionCookie
import ProviiVerifier.StatusTokenCache

namespace ProviiVerifier

namespace StatusAuth

open OriginPatterns (splitOnce toAsciiLowercase)
open SessionCookie (trimStart)
open StatusTokenCache (CachedSlot fingerprintUnset)

/-! ## The source -/

/-- `HeaderSource::get`. -/
abbrev HeaderSource := String → Except String (Option String)

/-- `headers.get(name).ok().flatten()`. -/
def headerValue (headers : HeaderSource) (name : String) : Option String :=
  match headers name with
  | .ok value => value
  | .error _ => none

/-- `StatusAuthSlot`. -/
inductive StatusAuthSlot
  | current
  | previous
  | apiKey
  deriving DecidableEq

/-- `StatusAuthOutcome`. -/
structure StatusAuthOutcome where
  slot : StatusAuthSlot
  fingerprint : String
  deriving DecidableEq

/-- What the function is given besides the headers. -/
structure Endpoint where
  /-- `PasswordHash::new` and `verify_password`. -/
  verifyPassword : String → String → Bool
  current : CachedSlot
  previous : CachedSlot
  /-- `get_policy` of the store, when there is one. -/
  policyStore : Option (String → Except ApiError (Option OriginPolicy))

/-- `extract_bearer_token`. -/
def extractBearerToken (authorization : String) : Option String :=
  match splitOnce " " authorization with
  | none => none
  | some (scheme, rest) =>
    if toAsciiLowercase scheme ≠ toAsciiLowercase "Bearer" then none
    else
      let credential := trimStart rest
      if credential = "" then none else some credential

/-- `ARGON2ID_PREFIX`. -/
def argon2idPrefix : String := "$argon2id$"

variable (e : Endpoint) (headers : HeaderSource)

/-- `verify_api_key` of `security/hash.rs`. -/
def verifyApiKey (apiKey storedHash : String) : Bool :=
  if OriginPatterns.startsWith argon2idPrefix storedHash then e.verifyPassword apiKey storedHash
  else false

/-- One slot of the dual-slot verify. -/
def slotVerifies (slot : CachedSlot) (token : String) : Bool :=
  match slot.argon2Hash with
  | some hash => verifyApiKey e token hash
  | none => false

/-- The token that is verified: the bearer token, or else `X-Status-Token`. -/
def providedToken : Option String :=
  match (headerValue headers "Authorization").bind extractBearerToken with
  | some token => some token
  | none => headerValue headers "X-Status-Token"

/-- The dual-slot verify. -/
def verifyToken (token : String) : Option StatusAuthOutcome :=
  if slotVerifies e e.current token then some ⟨.current, e.current.fingerprint⟩
  else if slotVerifies e e.previous token then some ⟨.previous, e.previous.fingerprint⟩
  else none

/-- The loop over the clients of a policy. -/
def clientsVerify (apiKey : String) : List ClientAuthConfig → Bool
  | [] => false
  | client :: rest =>
    if client.active = false then clientsVerify apiKey rest
    else if verifyApiKey e apiKey client.apiKeyHash then true
    else clientsVerify apiKey rest

/-- The `X-API-Key` path. -/
def verifyKey : Option StatusAuthOutcome :=
  match headers "X-API-Key", e.policyStore with
  | .ok (some apiKey), some getPolicy =>
    if apiKey = "" then none
    else
      match headerValue headers "Origin" with
      | none => none
      | some origin =>
        match getPolicy origin with
        | .ok (some policy) =>
          if clientsVerify e apiKey policy.clients then some ⟨.apiKey, fingerprintUnset⟩ else none
        | _ => none
  | _, _ => none

/-- `authenticate_status_endpoint_with_resolved_slots`. -/
def authenticateStatusEndpoint : Except ApiError StatusAuthOutcome :=
  match (providedToken headers).bind (verifyToken e) with
  | some outcome => .ok outcome
  | none =>
    match verifyKey e headers with
    | some outcome => .ok outcome
    | none => .error .unauthorized

example : extractBearerToken "bearer   abc" = some "abc" := by decide +kernel

example : extractBearerToken "Basic abc" = none := by decide +kernel

/-! ## The documented order -/

/-- Where a credential comes from. -/
inductive Source
  | bearer
  | statusToken
  | apiKey
  deriving DecidableEq

/-- What a source presents. -/
def credential : Source → Option String
  | .bearer => (headerValue headers "Authorization").bind extractBearerToken
  | .statusToken => headerValue headers "X-Status-Token"
  | .apiKey => headerValue headers "X-API-Key"

/-- The credential of a source verifies against a slot, or against an active client of the policy of
the presented origin. -/
def Verifies (source : Source) : StatusAuthSlot → Prop
  | .current => ∃ token, credential headers source = some token ∧
      slotVerifies e e.current token = true
  | .previous => ∃ token, credential headers source = some token ∧
      slotVerifies e e.previous token = true
  | .apiKey => ∃ key origin getPolicy policy client, credential headers source = some key ∧
      headerValue headers "Origin" = some origin ∧ e.policyStore = some getPolicy ∧
      getPolicy origin = .ok (some policy) ∧ client ∈ policy.clients ∧ client.active = true ∧
      verifyApiKey e key client.apiKeyHash = true

/-- The outcome of a slot. -/
def Endpoint.outcome (e : Endpoint) : StatusAuthSlot → StatusAuthOutcome
  | .current => ⟨.current, e.current.fingerprint⟩
  | .previous => ⟨.previous, e.previous.fingerprint⟩
  | .apiKey => ⟨.apiKey, fingerprintUnset⟩

/-- The sources with their slots, in the documented order. -/
def documentedOrder : List (Source × StatusAuthSlot) :=
  [(.bearer, .current), (.bearer, .previous), (.statusToken, .current), (.statusToken, .previous),
    (.apiKey, .apiKey)]

/-- A source is tried: not `X-Status-Token` beside a bearer token, and no empty API key. -/
def tried : Source → Bool
  | .bearer => true
  | .statusToken => (credential headers .bearer).isNone
  | .apiKey => credential headers .apiKey ≠ some ""

/-- The sources that are tried, with their slots, in the documented order. -/
def triedOrder : List (Source × StatusAuthSlot) :=
  documentedOrder.filter fun p => tried headers p.1

/-- The first source and slot of a list that verifies. -/
def FirstVerified (order : List (Source × StatusAuthSlot)) (p : Source × StatusAuthSlot) : Prop :=
  ∃ before after, order = before ++ p :: after ∧ Verifies e headers p.1 p.2 ∧
    ∀ q ∈ before, ¬ Verifies e headers q.1 q.2

/-! ## Computing what verifies -/

/-- `Verifies`, computed. -/
def verifies (source : Source) : StatusAuthSlot → Bool
  | .current => (credential headers source).any (slotVerifies e e.current)
  | .previous => (credential headers source).any (slotVerifies e e.previous)
  | .apiKey => (credential headers source).any fun key =>
      (headerValue headers "Origin").any fun origin =>
        e.policyStore.any fun getPolicy =>
          match getPolicy origin with
          | .ok (some policy) => clientsVerify e key policy.clients
          | _ => false

/-- A source and slot that is tried and verifies, the first of its kind. -/
def found : Option (Source × StatusAuthSlot) :=
  (triedOrder headers).find? fun p => verifies e headers p.1 p.2

variable {e headers}

theorem clientsVerify_iff {apiKey : String} {clients : List ClientAuthConfig} :
    clientsVerify e apiKey clients = true ↔
      ∃ client ∈ clients, client.active = true ∧
        verifyApiKey e apiKey client.apiKeyHash = true := by
  induction clients with
  | nil => simp [clientsVerify]
  | cons client rest ih =>
    unfold clientsVerify
    rw [List.exists_mem_cons_iff, ← ih]
    by_cases hactive : client.active = false
    · simp [hactive]
    · have hactive : client.active = true := by simpa using hactive
      simp [hactive]

theorem verifies_iff {source : Source} {slot : StatusAuthSlot} :
    verifies e headers source slot = true ↔ Verifies e headers source slot := by
  cases slot with
  | current => exact Option.any_eq_true _ _
  | previous => exact Option.any_eq_true _ _
  | apiKey =>
    unfold verifies Verifies
    simp only [Option.any_eq_true]
    constructor
    · intro ⟨key, hkey, origin, horigin, getPolicy, hstore, hclients⟩
      split at hclients
      · next policy hpolicy =>
        obtain ⟨client, hmem, hactive, hverify⟩ := clientsVerify_iff.mp hclients
        exact ⟨key, origin, getPolicy, policy, client, hkey, horigin, hstore, hpolicy, hmem,
          hactive, hverify⟩
      · cases hclients
    · intro ⟨key, origin, getPolicy, policy, client, hkey, horigin, hstore, hpolicy, hclient⟩
      refine ⟨key, hkey, origin, horigin, getPolicy, hstore, ?_⟩
      rw [hpolicy]
      exact clientsVerify_iff.mpr ⟨client, hclient⟩

/-- The token of a source, through both slots. -/
theorem token_eq (source : Source) :
    (credential headers source).bind (verifyToken e) =
      if verifies e headers source .current then some (e.outcome .current)
      else if verifies e headers source .previous then some (e.outcome .previous)
      else none := by
  unfold verifies
  cases credential headers source with
  | none => rfl
  | some token => rfl

theorem providedToken_bearer {token : String} (h : credential headers .bearer = some token) :
    providedToken headers = credential headers .bearer := by
  have hbearer : (headerValue headers "Authorization").bind extractBearerToken = some token := h
  rw [h]
  unfold providedToken
  rw [hbearer]

theorem providedToken_statusToken (h : credential headers .bearer = none) :
    providedToken headers = credential headers .statusToken := by
  have hbearer : (headerValue headers "Authorization").bind extractBearerToken = none := h
  unfold providedToken
  rw [hbearer]
  rfl

/-- The API key, when it is not empty. -/
theorem verifyKey_eq :
    verifyKey e headers =
      if tried headers .apiKey && verifies e headers .apiKey .apiKey then
        some (e.outcome .apiKey) else none := by
  unfold verifyKey tried verifies credential headerValue
  rcases headers "X-API-Key" with _ | _ | key
  · simp
  · simp
  · cases e.policyStore with
    | none => simp
    | some getPolicy =>
      by_cases hempty : key = ""
      · simp [hempty]
      · rcases headers "Origin" with _ | _ | origin
        · simp [hempty]
        · simp [hempty]
        · rcases hpolicy : getPolicy origin with _ | _ | policy
          · simp [hempty, hpolicy]
          · simp [hempty, hpolicy]
          · simp [hempty, hpolicy, Endpoint.outcome]

theorem found_eq :
    found e headers =
      documentedOrder.find? fun p => tried headers p.1 && verifies e headers p.1 p.2 := by
  unfold found triedOrder
  rw [List.find?_filter]
  simp

/-- Without a bearer token nothing verifies as one. -/
theorem verifies_bearer_none (e : Endpoint) (h : credential headers .bearer = none) :
    verifies e headers .bearer .current = false ∧ verifies e headers .bearer .previous = false := by
  unfold verifies
  rw [h]
  exact ⟨rfl, rfl⟩

/-- The endpoint answers with what is found. -/
theorem authenticate_eq :
    authenticateStatusEndpoint e headers =
      match found e headers with
      | some p => .ok (e.outcome p.2)
      | none => .error .unauthorized := by
  unfold authenticateStatusEndpoint
  rw [verifyKey_eq, found_eq]
  simp only [documentedOrder, List.find?_cons, List.find?_nil]
  cases hbearer : credential headers .bearer with
  | none =>
    have htried : tried headers .statusToken = true := by simp [tried, hbearer]
    obtain ⟨hcurrent, hprevious⟩ := verifies_bearer_none e hbearer
    rw [providedToken_statusToken hbearer, token_eq, htried, hcurrent, hprevious]
    cases verifies e headers .statusToken .current <;>
      cases verifies e headers .statusToken .previous <;>
      cases tried headers .apiKey && verifies e headers .apiKey .apiKey <;> simp
  | some token =>
    have htried : tried headers .statusToken = false := by simp [tried, hbearer]
    have hfirst : tried headers .bearer = true := rfl
    rw [providedToken_bearer hbearer, token_eq, htried, hfirst]
    cases verifies e headers .bearer .current <;>
      cases verifies e headers .bearer .previous <;>
      cases tried headers .apiKey && verifies e headers .apiKey .apiKey <;> simp

theorem found_iff {p : Source × StatusAuthSlot} :
    found e headers = some p ↔
      FirstVerified e headers (triedOrder headers) p := by
  unfold found FirstVerified
  rw [List.find?_eq_some_iff_append, verifies_iff]
  constructor
  · intro ⟨hp, before, after, horder, hbefore⟩
    refine ⟨before, after, horder, hp, fun q hq hverifies => ?_⟩
    have hnot := hbefore q hq
    rw [verifies_iff.mpr hverifies] at hnot
    cases hnot
  · intro ⟨before, after, horder, hp, hbefore⟩
    refine ⟨hp, before, after, horder, fun q hq => ?_⟩
    rw [Bool.not_eq_true', Bool.eq_false_iff]
    exact fun hverifies => hbefore q hq (verifies_iff.mp hverifies)

/-! ## Who is accepted -/

/-- **Acceptance.** The endpoint accepts when a source that is tried verifies and not else, and then
answers with the slot of the first source and slot that verifies. -/
theorem status_endpoint_accepts (e : Endpoint) (headers : HeaderSource) :
    ((∃ outcome, authenticateStatusEndpoint e headers = .ok outcome) ↔
      ∃ p ∈ triedOrder headers, Verifies e headers p.1 p.2) ∧
    ∀ outcome, authenticateStatusEndpoint e headers = .ok outcome ↔
      ∃ p, FirstVerified e headers (triedOrder headers) p ∧ outcome = e.outcome p.2 := by
  have houtcome : ∀ outcome, authenticateStatusEndpoint e headers = .ok outcome ↔
      ∃ p, FirstVerified e headers (triedOrder headers) p ∧ outcome = e.outcome p.2 := by
    intro outcome
    rw [authenticate_eq]
    simp only [← found_iff]
    cases found e headers with
    | none => simp
    | some p => simp [eq_comm]
  refine ⟨?_, houtcome⟩
  constructor
  · intro ⟨outcome, hok⟩
    obtain ⟨p, ⟨before, after, horder, hp, -⟩, -⟩ := (houtcome outcome).mp hok
    exact ⟨p, by rw [horder]; simp, hp⟩
  · intro ⟨p, hmem, hp⟩
    have hfound : (found e headers).isSome = true :=
      List.find?_isSome.mpr ⟨p, hmem, verifies_iff.mpr hp⟩
    obtain ⟨q, hq⟩ := Option.isSome_iff_exists.mp hfound
    exact ⟨_, (houtcome _).mpr ⟨q, found_iff.mp hq, rfl⟩⟩

/-- A crate that knows one password for each hash, and a bound current slot. -/
def sampleEndpoint : Endpoint :=
  { verifyPassword := fun password hash => "$argon2id$" ++ password = hash
    current := ⟨some "$argon2id$smoke", "3f9a1c"⟩
    previous := StatusTokenCache.unsetSlot
    policyStore := none }

/-- A request with a stale bearer token beside the current `X-Status-Token`. -/
def staleBearer : HeaderSource := fun name =>
  .ok (if name = "Authorization" then some "Bearer stale"
    else if name = "X-Status-Token" then some "smoke" else none)

/-- **A bearer token hides `X-Status-Token`**: the endpoint rejects a request with a source that
verifies. -/
theorem stale_bearer_rejected :
    authenticateStatusEndpoint sampleEndpoint staleBearer = .error .unauthorized ∧
      (.statusToken, .current) ∈ documentedOrder ∧
      Verifies sampleEndpoint staleBearer .statusToken .current ∧
      ¬ ((∃ outcome, authenticateStatusEndpoint sampleEndpoint staleBearer = .ok outcome) ↔
        ∃ p ∈ documentedOrder, Verifies sampleEndpoint staleBearer p.1 p.2) := by
  have hrejected :
      authenticateStatusEndpoint sampleEndpoint staleBearer = .error .unauthorized := by
    decide +kernel
  have hmem : (.statusToken, .current) ∈ documentedOrder := by decide
  have hverifies : Verifies sampleEndpoint staleBearer .statusToken .current :=
    ⟨"smoke", rfl, by decide +kernel⟩
  refine ⟨hrejected, hmem, hverifies, fun hiff => ?_⟩
  obtain ⟨outcome, hok⟩ := hiff.mpr ⟨_, hmem, hverifies⟩
  rw [hrejected] at hok
  cases hok

end StatusAuth

end ProviiVerifier

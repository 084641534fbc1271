/-
  What a request passes before a handler acts on its challenge: `security/fetch_metadata.rs`,
  `routes/api_key_auth.rs`, `routes/ownership.rs` and the session binding of the hosted flow.

  Proved: a client id that `authenticate_api_key` returns is that of an active client of a policy
  the store answered, whose stored hash the request's API key verifies against, or the stored id
  of the mobile flow (`guarded_authenticateApiKey`).
-/
import ProviiVerifier.Stores

namespace ProviiVerifier

open Interleaving Prog

/-- Request headers, by name. -/
abbrev Headers := Idempotency.Headers

/-! ## Fetch metadata -/

/-- `validate_sec_fetch_site`. -/
def validateSecFetchSite (uni : Unicode) (headers : Headers) : Except ApiError Unit :=
  match headers "Sec-Fetch-Site" with
  | none => .ok ()
  | some site =>
    let site := uni.toLowercase site
    if site = "same-origin" ∨ site = "same-site" ∨ site = "none" then .ok ()
    else if site = "cross-site" then
      .error (.forbidden (some "Cross-site requests not allowed"))
    else .error (.forbidden (some "Invalid Sec-Fetch-Site value"))

/-- `validate_sec_fetch_mode`. -/
def validateSecFetchMode (uni : Unicode) (headers : Headers) : Except ApiError Unit :=
  match headers "Sec-Fetch-Mode" with
  | none => .ok ()
  | some mode =>
    let mode := uni.toLowercase mode
    if mode = "cors" ∨ mode = "same-origin" then .ok ()
    else if mode = "navigate" then
      .error (.forbidden (some "Navigate mode not allowed on API endpoints"))
    else if mode = "no-cors" then .error (.forbidden (some "no-cors requests not allowed"))
    else if mode = "websocket" then .error (.forbidden (some "WebSocket requests not allowed"))
    else .error (.forbidden (some "Invalid Sec-Fetch-Mode value"))

/-- `validate_sec_fetch_dest`. -/
def validateSecFetchDest (uni : Unicode) (headers : Headers) : Except ApiError Unit :=
  match headers "Sec-Fetch-Dest" with
  | none => .ok ()
  | some dest =>
    let dest := uni.toLowercase dest
    if dest = "empty" ∨ dest = "document" then .ok ()
    else .error (.forbidden (some "Unexpected Sec-Fetch-Dest value"))

/-- `validate_fetch_metadata`. -/
def validateFetchMetadata (uni : Unicode) (headers : Headers) : Except ApiError Unit := do
  validateSecFetchSite uni headers
  validateSecFetchMode uni headers
  validateSecFetchDest uni headers

/-! ## API keys -/

/-- `str::starts_with`. -/
def startsWith (s start : String) : Bool := (stripPrefix start s).isSome

/-- The key under which a sandbox client's registered origin is kept. -/
def clientLookupKey (clientId : String) : String := "client_lookup/" ++ clientId

/-- `resolve_origin`: the request's origin when it has a policy; in sandbox, the registered
origin of the challenge's owner. -/
def resolveOrigin (app : AppState) (headers : Headers) (expectedOwnerId : Option String) :
    Handler (Option String) := do
  match headers "Origin" with
  | none => return none
  | some origin =>
    match ← await (.getCachedPolicy origin) with
    | .ok (some _) => return some origin
    | _ =>
      if app.environment ≠ "sandbox" then return none
      else
        match expectedOwnerId.filter fun id => startsWith id "rp_sandbox_" with
        | none => return none
        | some ownerId =>
          match ← await (.configGet (clientLookupKey ownerId)) with
          | .value reg => return if reg.toList = [] then none else some reg
          | _ => return none

/-- `ApiKeyAuthOptions`. -/
structure ApiKeyAuthOptions where
  expectedOwnerId : Option String
  allowMobileFlow : Bool
  storedClientId : Option String

/-- `ApiKeyAuthResult`. -/
structure ApiKeyAuthResult where
  clientId : Option String
  isMobileFlow : Bool
  deriving DecidableEq

/-- The client the API key of a request belongs to, at the origin it resolved to. -/
def extractClientId (app : AppState) (headers : Headers) :
    Option String → Handler (Option String)
  | none => return none
  | some origin => do
    match ← await (.getCachedPolicy origin) with
    | .ok (some policy) =>
      match headers "X-API-Key" with
      | some apiKey => return verifyAgainstPolicy app.verifyApiKey apiKey policy
      | none => return none
    | _ => return none

/-- `authenticate_api_key`. -/
def authenticateApiKey (app : AppState) (headers : Headers) (options : ApiKeyAuthOptions) :
    Handler ApiKeyAuthResult := do
  let resolved ← resolveOrigin app headers options.expectedOwnerId
  let extracted ← extractClientId app headers resolved
  if extracted = none ∧ options.allowMobileFlow = true ∧ headers "Origin" = none then
    match options.storedClientId with
    | some stored => return ⟨some stored, true⟩
    | none => return ⟨none, false⟩
  else return ⟨extracted, false⟩

/-- `enforce_account_quota`. -/
def enforceAccountQuota (clientId endpoint : String) : Handler Unit := do
  ofExcept (← await (.accountQuota clientId endpoint))

/-- The operations of an authentication. -/
def AuthLookup : Op → Prop
  | .getCachedPolicy _ => True
  | .configGet _ => True
  | _ => False

/-- The request's API key belongs to an active client, of that id, of a policy the store
answered. -/
def AuthenticatedAs (app : AppState) (headers : Headers) (clientId : String)
    (h : History Op Res) : Prop :=
  ∃ origin policy apiKey client, ⟨.getCachedPolicy origin, .ok (some policy)⟩ ∈ h ∧
    headers "X-API-Key" = some apiKey ∧ client ∈ policy.clients ∧ client.active = true ∧
      app.verifyApiKey apiKey client.apiKeyHash = true ∧ client.clientId = clientId

theorem AuthenticatedAs.mono {app : AppState} {headers : Headers} {clientId : String}
    {h h' : History Op Res} (hs : h <:+ h') (ha : AuthenticatedAs app headers clientId h) :
    AuthenticatedAs app headers clientId h' := by
  obtain ⟨origin, policy, apiKey, client, hm, hrest⟩ := ha
  exact ⟨origin, policy, apiKey, client, hs.subset hm, hrest⟩

/-- The client a key belongs to is an active client of the policy. -/
theorem verifyAgainstPolicy_some {verify : String → String → Bool} {apiKey : String}
    {policy : OriginPolicy} {clientId : String}
    (h : verifyAgainstPolicy verify apiKey policy = some clientId) :
    ∃ client ∈ policy.clients, client.active = true ∧
      verify apiKey client.apiKeyHash = true ∧ client.clientId = clientId := by
  unfold verifyAgainstPolicy at h
  simp only at h
  split at h
  · next idxs _ =>
    obtain ⟨client, hfind, hid⟩ := Option.map_eq_some_iff.mp h
    have hmem := List.mem_of_find?_eq_some hfind
    obtain ⟨i, -, hi⟩ := List.mem_filterMap.mp hmem
    have hmatch := List.find?_some hfind
    simp only [Bool.and_eq_true] at hmatch
    exact ⟨client, List.mem_of_getElem? hi, hmatch.1, hmatch.2, hid⟩
  · obtain ⟨client, hfind, hid⟩ := Option.map_eq_some_iff.mp h
    have hmem := List.mem_of_mem_take (List.mem_of_find?_eq_some hfind)
    have hmatch := List.find?_some hfind
    simp only [Bool.and_eq_true] at hmatch
    exact ⟨client, (List.mem_filter.mp hmem).1, hmatch.1, hmatch.2, hid⟩

variable {app : AppState} {headers : Headers} {h : History Op Res}

theorem guarded_resolveOrigin {owner : Option String} :
    Guarded (fun _ op => AuthLookup op) (fun _ r => ∃ origin, r = .ok origin) h
      (resolveOrigin app headers owner) := by
  unfold resolveOrigin
  split
  · exact ⟨_, rfl⟩
  · refine guarded_await_bind.mpr ⟨trivial, fun r => ?_⟩
    split
    · exact ⟨_, rfl⟩
    · split
      · exact ⟨_, rfl⟩
      · split
        · exact ⟨_, rfl⟩
        · refine guarded_await_bind.mpr ⟨trivial, fun r => ?_⟩
          split
          · exact ⟨_, rfl⟩
          · exact ⟨_, rfl⟩

theorem guarded_extractClientId {origin : Option String} :
    Guarded (fun _ op => AuthLookup op)
      (fun h' r => ∃ id, r = .ok id ∧ ∀ clientId, id = some clientId →
        AuthenticatedAs app headers clientId h') h
      (extractClientId app headers origin) := by
  cases origin with
  | none => exact ⟨none, rfl, nofun⟩
  | some origin =>
    refine guarded_await_bind.mpr ⟨trivial, fun r => ?_⟩
    split
    · next policy =>
      split
      · next apiKey hkey =>
        refine ⟨_, rfl, ?_⟩
        intro clientId hid
        obtain ⟨client, hmem, hactive, hverify, hclient⟩ := verifyAgainstPolicy_some hid
        exact ⟨origin, policy, apiKey, client, List.mem_cons_self, hkey, hmem, hactive, hverify,
          hclient⟩
      · exact ⟨none, rfl, nofun⟩
    · exact ⟨none, rfl, nofun⟩

/-- What `authenticate_api_key` comes to. -/
def AuthOutcome (app : AppState) (headers : Headers) (options : ApiKeyAuthOptions)
    (h : History Op Res) (r : Except ApiError ApiKeyAuthResult) : Prop :=
  ∃ result, r = .ok result ∧ ∀ clientId, result.clientId = some clientId →
    result.isMobileFlow = false ∧ AuthenticatedAs app headers clientId h ∨
      result.isMobileFlow = true ∧ options.allowMobileFlow = true ∧
        options.storedClientId = some clientId ∧ headers "Origin" = none

/-- **Authentication**: a client id comes from a verified key or from the mobile flow. -/
theorem guarded_authenticateApiKey {options : ApiKeyAuthOptions} :
    Guarded (fun _ op => AuthLookup op) (AuthOutcome app headers options) h
      (authenticateApiKey app headers options) := by
  refine guarded_resolveOrigin.bind ?_ ?_
  · intro h1 resolved _ _
    refine guarded_extractClientId.bind ?_ ?_
    · rintro h2 extracted _ ⟨_, hid, hauth⟩
      cases hid
      split
      · next hmobile =>
        split
        · next stored hstored =>
          refine ⟨_, rfl, ?_⟩
          intro clientId hid
          exact .inr ⟨rfl, hmobile.2.1, hstored.trans hid, hmobile.2.2⟩
        · exact ⟨_, rfl, nofun⟩
      · refine ⟨_, rfl, ?_⟩
        intro clientId hid
        exact .inl ⟨rfl, hauth clientId hid⟩
    · rintro h2 e _ ⟨_, hid, -⟩
      cases hid
  · rintro h1 e _ ⟨_, hr⟩
    cases hr

/-- The operation of a quota check. -/
def IsQuota : Op → Prop
  | .accountQuota _ _ => True
  | _ => False

theorem guarded_enforceAccountQuota {clientId endpoint : String} :
    Guarded (fun _ op => IsQuota op)
      (fun h' r => r = .ok () → ⟨.accountQuota clientId endpoint, .ok ()⟩ ∈ h') h
      (enforceAccountQuota clientId endpoint) := by
  refine guarded_await_bind.mpr ⟨trivial, fun r => ?_⟩
  cases r with
  | error e => exact nofun
  | ok _ => exact fun _ => List.mem_cons_self

attribute [irreducible] authenticateApiKey enforceAccountQuota

/-! ## Ownership -/

/-- `verify_ownership`. -/
def verifyOwnership (challengeOwnerId authenticatedClientId : Option String) :
    Except ApiError Unit :=
  match challengeOwnerId, authenticatedClientId with
  | some owner, some client =>
    if owner = client then .ok ()
    else .error (.forbidden (some "Access denied: you do not own this challenge"))
  | none, _ => .error (.forbidden (some "Access denied: challenge ownership not established"))
  | some _, none => .error (.forbidden (some "Access denied: you do not own this challenge"))

theorem verifyOwnership_ok {owner client : Option String}
    (h : verifyOwnership owner client = .ok ()) : owner = client ∧ owner.isSome = true := by
  unfold verifyOwnership at h
  repeat' split at h
  all_goals simp_all

/-- Whom a request acts for that may come from the mobile flow: the owner, by its API key or from no
web origin. -/
theorem AuthOutcome.owner {owner : Option String} {auth : ApiKeyAuthResult} {clientId : String}
    (hauth : AuthOutcome app headers ⟨owner, true, owner⟩ h (.ok auth))
    (hclient : auth.clientId = some clientId)
    (howner : (if auth.isMobileFlow then .ok () else verifyOwnership owner (some clientId)) =
      (.ok () : Except ApiError Unit)) :
    owner = some clientId ∧
      (headers "Origin" = none ∨ AuthenticatedAs app headers clientId h) := by
  obtain ⟨_, hr, hcases⟩ := hauth
  cases hr
  rcases hcases clientId hclient with ⟨hkeyed, hauth⟩ | ⟨-, -, hstored, horigin⟩
  · rw [hkeyed, if_neg Bool.false_ne_true] at howner
    exact ⟨(verifyOwnership_ok howner).1, .inr hauth⟩
  · exact ⟨hstored, .inl horigin⟩

/-! ## Session binding -/

/-- `verify_session_binding`; a mismatch passes in the relaxed mode. -/
def verifySessionBinding (app : AppState) (currentIp : String) (currentUa : Option String)
    (storedIpHash storedUaHash : Option String) (mode : SessionBindingMode) :
    Except ApiError Unit :=
  let mismatch : Except ApiError Unit :=
    match mode with
    | .strict => .error (.forbidden (some "Session binding mismatch"))
    | .relaxed | .none => .ok ()
  let hash (input domain : String) := app.hashWithSalt input app.ipHashSalt domain
  let ipMismatch : Bool := match storedIpHash with
    | some expected => hash currentIp "provii-ip-v0" != expected
    | none => false
  let uaMismatch : Bool := match storedUaHash, currentUa with
    | some expected, some ua => hash ua "provii-ua-v0" != expected
    | _, _ => false
  if mode = .none then .ok ()
  else if ipMismatch then mismatch
  else if uaMismatch then mismatch
  else .ok ()

end ProviiVerifier

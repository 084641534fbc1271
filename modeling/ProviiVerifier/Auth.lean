/-
  `security/auth.rs` and `types/auth.rs`: HMAC authentication of challenge requests.

  The API key prefix index is never configured in the source and is left out; so are the audit
  log and the MEK slot, which no result depends on.

  Proved: what a successful authentication went through (`guarded_authenticateTracked`): the
  timestamp was within 300 seconds of a reading of the clock and the nonce store accepted the
  tag of the key id and the nonce.
-/
import ProviiVerifier.Stores

namespace ProviiVerifier

open Interleaving Prog

/-- `Authorizer`. -/
structure Authorizer where
  keyId : String
  timestamp : Nat
  nonce : String
  hmac : String
  deriving DecidableEq

/-- `char::is_ascii_graphic`. -/
def isAsciiGraphic (c : Char) : Bool := 33 ≤ c.toNat && c.toNat ≤ 126

/-- `Authorizer::validate`. -/
def Authorizer.validate (a : Authorizer) : Except String Unit :=
  if a.keyId.toList.all isWhitespace then .error "keyId must not be empty"
  else if byteLen a.keyId > 128 then .error "keyId too long"
  else if a.keyId.toList.all isAsciiGraphic = false then
    .error "keyId contains invalid characters"
  else if byteLen a.hmac ≠ 64 ∨ a.hmac.toList.all isAsciiHexdigit = false then
    .error "hmac must be a 64-character hex string"
  else if byteLen a.nonce ≠ 64 then
    .error "nonce must be exactly 64 hex characters (256 bits)"
  else if a.nonce.toList.all isAsciiHexdigit = false then .error "nonce must be a hex string"
  else .ok ()

namespace ClientAuthenticator

/-- The largest accepted distance of a timestamp from the clock. -/
def maxSkew : Nat := 300

/-- The distance of the server's time from a timestamp. -/
def skew (serverTime timestamp : Nat) : Nat :=
  if serverTime ≥ timestamp then serverTime - timestamp else timestamp - serverTime

/-- `verify_api_key_cached`: a verdict of the last thirty seconds, or a fresh one. -/
def verifyApiKeyCached (app : AppState) (client : ClientAuthConfig) (apiKey : String) :
    Handler Unit := do
  match ← await (.apiKeyCacheGet apiKey client.clientId) with
  | some true => return ()
  | some false => .fail .unauthorized
  | none =>
    let verified := app.verifyApiKey apiKey client.apiKeyHash
    await (.apiKeyCachePut apiKey client.clientId verified)
    if verified then return ()
    else .fail (.unauthorizedWith "API_KEY_INVALID"
      "API key did not match the stored hash for this client")

/-- The tag a nonce is consumed under. -/
def nonceTag (keyId nonce : String) : String := "auth:" ++ keyId ++ ":" ++ nonce

/-- `verify_nonce`. -/
def verifyNonce (nonce keyId : String) : Handler Unit := do
  match ← attempt (NonceStore.checkAndSet (nonceTag keyId nonce) nonceDedupTtl) with
  | .ok true => return ()
  | .ok false =>
    .fail (.unauthorizedWith "NONCE_REPLAY"
      "authorizer.nonce has already been used within the replay window (300s)")
  | .error _ => .fail (.internal "Nonce verification failed")

/-- `authenticate_tracked`: the client the request is signed by. -/
def authenticateTracked (app : AppState) (policy : OriginPolicy) (apiKey : Option String)
    (authorizer : Authorizer) (canonicalMessage : String) : Handler ClientAuthConfig := do
  match authorizer.validate with
  | .error e => .fail (.badRequest (some e))
  | .ok () =>
    let serverTime ← await .timestamp
    if skew serverTime authorizer.timestamp > maxSkew then
      .fail (.badRequestWith "TIMESTAMP_SKEW" (some "authorizer.timestamp")
        "Request timestamp exceeds maximum clock skew (300s)")
    else
      match apiKey with
      | none => .fail (.unauthorizedWith "API_KEY_MISSING" "X-API-Key header is required")
      | some apiKey =>
        match policy.clients.find? fun c => c.clientId = authorizer.keyId && c.active with
        | none =>
          .fail (.unauthorizedWith "CLIENT_UNKNOWN" "key_id does not match an active client")
        | some client => do
          verifyApiKeyCached app client apiKey
          verifyNonce authorizer.nonce authorizer.keyId
          ofExcept (app.verifyHmac client canonicalMessage authorizer.hmac)
          return client

/-! ## What a successful authentication went through -/

variable {app : AppState} {h : History Op Res}

/-- The operations on the verdict cache. -/
def IsCache : Op → Prop
  | .apiKeyCacheGet _ _ | .apiKeyCachePut _ _ _ => True
  | _ => False

theorem guarded_verifyApiKeyCached {client : ClientAuthConfig} {apiKey : String} :
    Guarded (fun _ op => IsCache op) (fun _ _ => True) h
      (verifyApiKeyCached app client apiKey) := by
  refine guarded_await_bind.mpr ⟨trivial, fun r => ?_⟩
  rcases r with _ | _ | _
  · refine guarded_await_bind.mpr ⟨trivial, fun _ => ?_⟩
    split <;> trivial
  · trivial
  · trivial

theorem guarded_verifyNonce {nonce keyId : String} :
    Guarded (fun _ op => NonceStore.IsCheck (nonceTag keyId nonce) op)
      (fun h' r => r = .ok () → NonceStore.Accepted (nonceTag keyId nonce) h') h
      (verifyNonce nonce keyId) :=
  NonceStore.guarded_gate rfl ⟨_, rfl⟩ fun _ => ⟨_, rfl⟩

/-- What a successful authentication went through. -/
structure Authenticated (authorizer : Authorizer) (h : History Op Res) : Prop where
  skew : ∃ serverTime, ⟨.timestamp, serverTime⟩ ∈ h ∧
    skew serverTime authorizer.timestamp ≤ maxSkew
  nonce : NonceStore.Accepted (nonceTag authorizer.keyId authorizer.nonce) h

theorem Authenticated.mono {authorizer : Authorizer} {h' : History Op Res} (hs : h <:+ h')
    (ha : Authenticated authorizer h) : Authenticated authorizer h' := by
  obtain ⟨serverTime, hm, hskew⟩ := ha.skew
  exact ⟨⟨serverTime, hs.subset hm, hskew⟩, ha.nonce.mono hs⟩

/-- The operations of an authentication. -/
def AuthOp (authorizer : Authorizer) (op : Op) : Prop :=
  op = .timestamp ∨ IsCache op ∨
    NonceStore.IsCheck (nonceTag authorizer.keyId authorizer.nonce) op

theorem guarded_authenticateTracked {policy : OriginPolicy} {apiKey : Option String}
    {authorizer : Authorizer} {canonicalMessage : String} :
    Guarded (fun _ op => AuthOp authorizer op)
      (fun h' r => ∀ client, r = .ok client →
        Authenticated authorizer h' ∧ client.clientId = authorizer.keyId) h
      (authenticateTracked app policy apiKey authorizer canonicalMessage) := by
  unfold authenticateTracked
  split
  · exact nofun
  · refine guarded_await_bind.mpr ⟨.inl rfl, fun serverTime => ?_⟩
    split
    · exact nofun
    · next hskew =>
      split
      · exact nofun
      · split
        · exact nofun
        · next client hfind =>
          have hid : client.clientId = authorizer.keyId := by
            have hmatch := List.find?_some hfind
            simp only [Bool.and_eq_true, decide_eq_true_eq] at hmatch
            exact hmatch.1
          have htime : (⟨.timestamp, serverTime⟩ : Sigma Res) ∈ ⟨.timestamp, serverTime⟩ :: h :=
            List.mem_cons_self
          refine guarded_verifyApiKeyCached.seq (fun _ _ _ hop => .inr (.inl hop)) ?_
            (fun _ _ _ _ => nofun)
          intro h1 _ hg1 _
          refine guarded_verifyNonce.seq (fun _ _ _ hop => .inr (.inr hop)) ?_
            (fun _ _ _ _ => nofun)
          intro h2 _ hg2 hnonce
          refine guarded_ofExcept_bind (fun _ _ => ?_) fun _ _ => nofun
          intro _ hr
          cases hr
          exact ⟨⟨⟨serverTime, hg2.suffix.subset (hg1.suffix.subset htime),
            Nat.le_of_not_lt hskew⟩, hnonce rfl⟩, hid⟩

attribute [irreducible] authenticateTracked

end ClientAuthenticator

end ProviiVerifier

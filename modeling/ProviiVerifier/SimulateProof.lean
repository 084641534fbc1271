/-
  `hosted/endpoints/simulate.rs`: the sandbox simulator of a proof submission.

  The simulator takes no part in the nonce gate of a submission; the secret of the challenge is its
  only key. A challenge that is past its expiry is written as `Expired` with its secret still in the
  record, where a submission erases it. The push to WebSocket clients is left out, as in
  `HostedStatus.lean`.

  Proved: whatever the answers are, the simulator writes only in a sandbox and only on a record it
  read as `Pending`; it writes `ProofOkWaitingForRedeem` only for a secret that is the record's, in
  time and when asked for the outcome "verified" (`guarded_handleSimulateProof`).
-/
import ProviiVerifier.HostedStatus
import ProviiVerifier.Verify
import ProviiVerifier.Encoding.Base64Url

namespace ProviiVerifier

open Interleaving Prog

/-- `SimulateProofRequest`. -/
structure SimulateProofRequest where
  challengeId : String
  submitSecret : String
  outcome : String

/-- `SimulateProofResponse`. -/
structure SimulateProofResponse where
  result : String
  state : String
  deriving DecidableEq

/-- A request body that passed validation. -/
structure Simulation where
  challengeId : Uuid
  submitSecret : FixedBytes 32
  /-- The outcome is "verified", and not "age_not_met". -/
  verified : Bool
  deriving DecidableEq

namespace CachedChallenge

/-- The record a simulation after the expiry leaves; the secret stays. -/
def lapse (c : CachedChallenge) : CachedChallenge := { c with state := .expired }

/-- The record a simulated proof leaves. -/
def simulateProof (c : CachedChallenge) (now : Nat) : CachedChallenge :=
  { c.zeroizeSecret with
    state := .proofOkWaitingForRedeem
    proofSubmitted := true
    proofVerifiedAt := some now }

end CachedChallenge

namespace SimulateProof

/-- `SCHEMA_HINT`. -/
def schemaHint : String :=
  "expected body shape: \x7b\"challenge_id\":\"<uuid>\",\"submit_secret\":" ++
    "\"<base64url 32 bytes>\",\"outcome\":\"verified\" or \"age_not_met\"\x7d"

/-- A 400 that names a field of the body. -/
def schemaError (field detail : String) : ApiError :=
  .badRequestWith "BODY_SCHEMA_INVALID" (some field) detail

/-- `submit_secret` as 32 bytes. -/
def decodeSecret (text : String) : Except ApiError (FixedBytes 32) :=
  match Base64Url.decode text.toList with
  | none => .error (schemaError "submit_secret" "submit_secret is not valid base64url")
  | some decoded =>
    if h : decoded.length = 32 then .ok ⟨decoded, h⟩
    else .error (schemaError "submit_secret" "submit_secret must be base64url-encoded 32 bytes")

/-- The validation of the fields, in the order of the handler. -/
def validate (body : SimulateProofRequest) : Except ApiError Simulation := do
  match parseUuid body.challengeId with
  | none => .error (schemaError "challenge_id" "challenge_id is not a valid UUID")
  | some challengeId =>
    let submitSecret ← decodeSecret body.submitSecret
    if body.outcome ≠ "verified" ∧ body.outcome ≠ "age_not_met" then
      .error (schemaError "outcome" "outcome must be \"verified\" or \"age_not_met\"")
    else .ok ⟨challengeId, submitSecret, body.outcome = "verified"⟩

/-- The stored record. -/
def loadChallenge (challengeId : Uuid) : Handler CachedChallenge := do
  match ← attempt (ChallengeStore.get challengeId) with
  | .ok (some challenge) => return challenge
  | .ok none => .fail .notFound
  | .error e => .fail e.wrap

/-- The state and the expiry of the record; a lapsed record is written as expired, best effort. -/
def checkOpen (app : AppState) (challengeId : Uuid) (cached : CachedChallenge) :
    Handler Nat := do
  if cached.state ≠ .pending then
    .fail (.goneWith "CHALLENGE_GONE" ("Challenge is no longer in the pending state " ++
      "(proof already submitted, redeemed, failed or expired)"))
  else
    let now ← await .timestamp
    if now > cached.expiresAt then
      let _ ← attempt (ChallengeStore.put app challengeId cached.lapse)
      .fail (.goneWith "CHALLENGE_GONE" "Challenge has passed its expiry timestamp")
    else return now

/-- The comparison of the secrets; a wrong secret fails the challenge, best effort. -/
def checkSecret (app : AppState) (sim : Simulation) (cached : CachedChallenge) :
    Handler Unit := do
  if cached.submitSecret.length ≠ 32 then .fail (.internal "Service unavailable")
  else if sim.submitSecret.val ≠ cached.submitSecret then
    let _ ← attempt (ChallengeStore.put app sim.challengeId cached.fail)
    .fail (.forbiddenWith "INVALID_SUBMIT_SECRET" ("submit_secret did not match the value " ++
      "bound to this challenge_id at creation"))
  else return ()

/-- The write of an outcome. -/
def persist (app : AppState) (challengeId : Uuid) (cached : CachedChallenge) : Handler Unit := do
  match ← attempt (ChallengeStore.put app challengeId cached) with
  | .ok () => return ()
  | .error _ => .fail (.internal "Service unavailable")

/-- The outcome that was asked for. -/
def applyOutcome (app : AppState) (sim : Simulation) (cached : CachedChallenge) (now : Nat) :
    Handler SimulateProofResponse := do
  if sim.verified then
    persist app sim.challengeId (cached.simulateProof now)
    HostedNotify.notifyProofVerified sim.challengeId.toString
    return ⟨"ok", "proof_ok_waiting_for_redeem"⟩
  else
    persist app sim.challengeId cached.fail
    HostedNotify.notifyProofFailed sim.challengeId.toString
    return ⟨"ok", "failed"⟩

/-- The handler after the validation of its body. -/
def simulate (app : AppState) (sim : Simulation) : Handler SimulateProofResponse := do
  let cached ← loadChallenge sim.challengeId
  let now ← checkOpen app sim.challengeId cached
  checkSecret app sim cached
  applyOutcome app sim cached now

/-- `handle_simulate_proof`; `none` is a body that is no such JSON. -/
def handleSimulateProof (app : AppState) (body : Option SimulateProofRequest) :
    Handler SimulateProofResponse := do
  if app.environment ≠ "sandbox" then .fail .notFound
  else
    match body with
    | none => .fail (schemaError "body"
        ("Request body could not be parsed as JSON or has unknown fields. " ++ schemaHint))
    | some body =>
      let sim ← ofExcept (validate body)
      simulate app sim

/-! ## What a simulated outcome rests on -/

/-- The body asks for the simulation. -/
def Asks (body : Option SimulateProofRequest) (sim : Simulation) : Prop :=
  ∃ request, body = some request ∧ validate request = .ok sim

section Spec

variable {app : AppState} {sim : Simulation} {id : Uuid} {c : CachedChallenge} {now : Nat}
  {h h' : History Op Res}

/-- The pending record of the simulation. -/
structure Opened (sim : Simulation) (c : CachedChallenge) (h : History Op Res) : Prop where
  read : ChallengeStore.Read sim.challengeId c h
  pending : c.state = .pending

theorem Opened.mono (hs : h <:+ h') (ho : Opened sim c h) : Opened sim c h' :=
  ⟨ho.read.mono hs, ho.pending⟩

/-- What a simulated proof went through. -/
structure Grounds (sim : Simulation) (c : CachedChallenge) (now : Nat)
    (h : History Op Res) : Prop where
  opened : Opened sim c h
  time : OnTime c now h
  secret : sim.submitSecret.val = c.submitSecret
  verified : sim.verified = true

theorem Grounds.mono (hs : h <:+ h') (hg : Grounds sim c now h) : Grounds sim c now h' :=
  ⟨hg.opened.mono hs, hg.time.mono hs, hg.secret, hg.verified⟩

/-- The records a simulation may write. -/
inductive Writes (sim : Simulation) (h : History Op Res) (id : Uuid) : CachedChallenge → Prop
  | lapse {c : CachedChallenge} (hid : id = sim.challengeId) (hopened : Opened sim c h) :
      Writes sim h id c.lapse
  | fail {c : CachedChallenge} (hid : id = sim.challengeId) (hopened : Opened sim c h) :
      Writes sim h id c.fail
  | verify {c : CachedChallenge} {now : Nat} (hid : id = sim.challengeId)
      (hgrounds : Grounds sim c now h) : Writes sim h id (c.simulateProof now)

theorem guarded_loadChallenge (id : Uuid) :
    Guarded (fun _ op => ChallengeStore.Fetch id (.get id.toString) op)
      (fun h' r => ∀ c, r = .ok c → ChallengeStore.Read id c h') h (loadChallenge id) :=
  ChallengeStore.guarded_load (fun _ => rfl) ⟨_, rfl⟩ fun _ => ⟨_, rfl⟩

/-- What is known of a record that is open. -/
theorem guarded_checkOpen (hread : ChallengeStore.Read sim.challengeId c h) :
    Guarded (fun h' op => RouteOp app (Writes sim h') op)
      (fun h' r => ∀ now, r = .ok now → Opened sim c h' ∧ OnTime c now h') h
      (checkOpen app sim.challengeId c) := by
  unfold checkOpen
  split
  · exact fun _ hr => nomatch hr
  · next hstate =>
    have hopened : Opened sim c h := ⟨hread, not_not.mp hstate⟩
    refine guarded_await_bind.mpr ⟨trivial, fun now => ?_⟩
    have hopened := hopened.mono (List.suffix_cons ⟨.timestamp, now⟩ h)
    split
    · refine ChallengeStore.guarded_put.seq_attempt ?_ ?_
      · exact fun _ _ hg hop => routeOp_put hop (.lapse rfl (hopened.mono hg.suffix))
      · exact fun _ _ _ _ => fun _ hr => nomatch hr
    · next htime =>
      intro now' hr
      cases hr
      exact ⟨hopened, List.mem_cons_self, Nat.le_of_not_lt htime⟩

theorem guarded_checkSecret (hopened : Opened sim c h) :
    Guarded (fun h' op => RouteOp app (Writes sim h') op)
      (fun _ r => r = .ok () → sim.submitSecret.val = c.submitSecret) h
      (checkSecret app sim c) := by
  unfold checkSecret
  split
  · exact nofun
  · split
    · refine ChallengeStore.guarded_put.seq_attempt ?_ ?_
      · exact fun _ _ hg hop => routeOp_put hop (.fail rfl (hopened.mono hg.suffix))
      · exact fun _ _ _ _ => nofun
    · next hsecret => exact fun _ => not_not.mp hsecret

/-- The operations of a notification write no record. -/
theorem guarded_notify_route {J : History Op Res → Uuid → CachedChallenge → Prop}
    (challengeId : String) (target : SessionState) :
    Guarded (fun h' op => RouteOp app (J h') op) (fun _ _ => True) h
      (HostedNotify.notify challengeId target) := by
  refine guarded_await_bind.mpr ⟨trivial, fun sessionId => ?_⟩
  cases sessionId with
  | none => trivial
  | some sessionId =>
    refine guarded_await_bind.mpr ⟨trivial, fun answer => ?_⟩
    rcases answer with e | _ | session
    · trivial
    · trivial
    · dsimp only
      split
      · trivial
      · refine SessionStore.guarded_updateSessionKvChecked.seq_attempt ?_ fun _ _ _ _ => trivial
        rintro h' op - ⟨rfl, -⟩
        trivial

/-- A write of an outcome the simulation may leave. -/
theorem guarded_persist {d : CachedChallenge} (hw : ∀ h', h <:+ h' → Writes sim h' id d) :
    Guarded (fun h' op => RouteOp app (Writes sim h') op) (fun _ _ => True) h
      (persist app id d) := by
  unfold persist
  refine ChallengeStore.guarded_put.seq_attempt ?_ ?_
  · exact fun h' _ hg hop => routeOp_put hop (hw h' hg.suffix)
  · intro h' r _ _
    cases r <;> trivial

theorem guarded_applyOutcome (hopened : Opened sim c h) (htime : OnTime c now h)
    (hsecret : sim.submitSecret.val = c.submitSecret) :
    Guarded (fun h' op => RouteOp app (Writes sim h') op) (fun _ _ => True) h
      (applyOutcome app sim c now) := by
  unfold applyOutcome
  split
  · next hverified =>
    have hgrounds : Grounds sim c now h := ⟨hopened, htime, hsecret, hverified⟩
    refine (guarded_persist fun _ hs => .verify rfl (hgrounds.mono hs)).bind ?_
      fun _ _ _ _ => trivial
    intro h1 _ _ _
    exact (guarded_notify_route _ _).bind (fun _ _ _ _ => trivial) fun _ _ _ _ => trivial
  · refine (guarded_persist fun _ hs => .fail rfl (hopened.mono hs)).bind ?_
      fun _ _ _ _ => trivial
    intro h1 _ _ _
    exact (guarded_notify_route _ _).bind (fun _ _ _ _ => trivial) fun _ _ _ _ => trivial

attribute [irreducible] loadChallenge checkOpen checkSecret persist applyOutcome

theorem guarded_simulate (sim : Simulation) :
    Guarded (fun h' op => RouteOp app (Writes sim h') op) (fun _ _ => True) h
      (simulate app sim) := by
  unfold simulate
  refine (guarded_loadChallenge sim.challengeId).seq (fun _ _ _ hop => routeOp_get hop) ?_
    fun _ _ _ _ => trivial
  intro h1 cached _ hread
  refine (guarded_checkOpen (hread cached rfl)).bind ?_ fun _ _ _ _ => trivial
  intro h2 now _ hopen
  obtain ⟨hopened, htime⟩ := hopen now rfl
  refine (guarded_checkSecret hopened).bind ?_ fun _ _ _ _ => trivial
  intro h3 _ hs hsecret
  exact guarded_applyOutcome (hopened.mono hs) (htime.mono hs) (hsecret rfl)

/-- **A simulation** writes in a sandbox only, what its validated body may write. -/
theorem guarded_handleSimulateProof (app : AppState) (body : Option SimulateProofRequest) :
    (handleSimulateProof app body).Guarded
      (fun h' op => app.environment = "sandbox" ∧
        RouteOp app (fun id c => ∃ sim, Asks body sim ∧ Writes sim h' id c) op)
      (fun _ _ => True) [] := by
  unfold handleSimulateProof
  split
  · trivial
  · next hsandbox =>
    cases body with
    | none => trivial
    | some request =>
      refine guarded_ofExcept_bind (fun sim hvalid => ?_) fun _ _ => trivial
      refine (guarded_simulate sim).imp ?_ fun _ _ hr => hr
      intro h' op hop
      exact ⟨not_not.mp hsandbox, hop.imp fun id c hw => ⟨sim, ⟨request, rfl, hvalid⟩, hw⟩⟩

end Spec

end SimulateProof

end ProviiVerifier

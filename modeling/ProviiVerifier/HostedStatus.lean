/-
  `hosted/endpoints/status.rs` and `hosted/endpoints/notify.rs`: the status poll of a hosted
  session and the notifications a proof sends to it.

  A notification runs in the background of the request that verified the proof. The push to
  WebSocket clients is left out.

  Proved: whatever the answers are, a poll, a notification and a redemption write a session only
  as a step from the session they read (`guarded_handleHostedStatus`, `guarded_notify`,
  `guarded_handleHostedRedeem_session`).
-/
import ProviiVerifier.HostedRedeem

namespace ProviiVerifier

open Interleaving Prog

/-- `HostedSessionState`. -/
inductive HostedSessionState
  | pending
  | proofOk
  | verified
  | expired
  deriving DecidableEq, Repr

/-- `HostedSessionState::from_challenge_state`. -/
def HostedSessionState.fromChallengeState : ChallengeState → HostedSessionState
  | .pending => .pending
  | .proofOkWaitingForRedeem => .proofOk
  | .verified => .verified
  | .failed | .expired => .expired

/-- `StatusResponse`. -/
structure StatusResponse where
  sessionId : String
  state : HostedSessionState
  createdAt : Nat
  expiresAt : Nat
  proofVerified : Bool
  complete : Option Bool
  error : Option String
  pollAfter : Option Nat
  remainingChecks : Option Nat
  deriving DecidableEq

/-- `GET /v1/hosted/status/:session_id`. -/
structure StatusRequest where
  headers : Idempotency.Headers
  sessionId : String

namespace HostedStatus

/-- `DEFAULT_MAX_STATUS_CHECKS`. -/
def defaultMaxStatusChecks : Nat := 120

/-- The gates on the session: public key, origin, session binding. -/
def checkSession (app : AppState) (headers : Idempotency.Headers) (session : HostedSession) :
    Except ApiError Unit :=
  if (headers "X-Public-Key").getD "" ≠ session.publicKey then
    .error (.forbidden (some "Access denied"))
  else if HostedRedeem.originOf headers ≠ session.origin then
    .error (.forbidden (some "Origin does not match session origin"))
  else
    verifySessionBinding app ((headers "CF-Connecting-IP").getD "unknown")
      (headers "User-Agent") session.clientIpHash session.userAgent session.bindingMode

/-- The response to a poll at `now`. -/
def response (sessionId : String) (session : HostedSession) (entry : CachedChallenge)
    (now : Nat) : StatusResponse :=
  let isExpired := now > entry.expiresAt ∧ entry.state ≠ .verified
  let effectiveState :=
    if isExpired then .expired else HostedSessionState.fromChallengeState entry.state
  { sessionId := sessionId
    state := effectiveState
    createdAt := entry.createdAt
    expiresAt := entry.expiresAt
    proofVerified := entry.state = .proofOkWaitingForRedeem ∨ entry.state = .verified
    complete := some (effectiveState ≠ .pending)
    error := if effectiveState = .expired then some "Session expired" else none
    pollAfter := if effectiveState = .pending then some (NonceDO.satAdd now 2) else none
    remainingChecks := some (defaultMaxStatusChecks - session.statusCheckCount) }

/-- The part of the handler after the poll is counted. -/
def reportChallenge (sessionId : String) (session : HostedSession) :
    Handler StatusResponse := do
  match parseUuid session.verifierChallengeId with
  | none => .fail (.internal "corrupt session data")
  | some challengeId =>
    match ← attempt (ChallengeStore.get challengeId) with
    | .error e => .fail e.wrap
    | .ok none => .fail .notFound
    | .ok (some entry) =>
      let now ← await .timestamp
      return response sessionId session entry now

/-- `handle_hosted_status`. -/
def handleHostedStatus (app : AppState) (req : StatusRequest) : Handler StatusResponse := do
  if (parseUuid req.sessionId).isNone then
    .fail (.badRequest (some "Invalid session_id format"))
  else if (HostedRedeem.originOf req.headers).toList = [] then
    .fail (.badRequest (some "Missing Origin header"))
  else if ((req.headers "X-Public-Key").getD "").toList = [] then
    .fail (.forbidden (some "Access denied"))
  else
    match ← await (.getSession req.sessionId) with
    | .error e => .fail e.wrap
    | .ok none => .fail .notFound
    | .ok (some session) =>
      ofExcept (checkSession app req.headers session)
      let counted := session.incrementStatusChecks
      if counted.statusCheckCount > defaultMaxStatusChecks then
        .fail (.tooManyRequests (some "Status check rate limit exceeded"))
      else
        let _ ← attempt (SessionStore.updateSessionKvChecked counted (some counted.state))
        reportChallenge req.sessionId counted

end HostedStatus

namespace HostedNotify

/-- `update_session_state` and `update_session_state_expired`: a pending session moves to the
target; failures are logged only. -/
def updateSessionState (sessionId : String) (target : SessionState) : Handler Unit := do
  match ← await (.getSession sessionId) with
  | .ok (some session) =>
    if session.state ≠ .pending then return ()
    else
      let _ ← attempt
        (SessionStore.updateSessionKvChecked { session with state := target } (some .pending))
      return ()
  | .ok none | .error _ => return ()

/-- A notification for a challenge; one without a session is dropped. -/
def notify (challengeId : String) (target : SessionState) : Handler Unit := do
  match ← await (.challengeToSession challengeId) with
  | some sessionId => updateSessionState sessionId target
  | none => return ()

/-- `notify_proof_verified`. -/
def notifyProofVerified (challengeId : String) : Handler Unit := notify challengeId .proofOk

/-- `notify_proof_failed`. -/
def notifyProofFailed (challengeId : String) : Handler Unit := notify challengeId .expired

end HostedNotify

/-! ## What the handlers write -/

/-- One step of a session: its state stays or follows an edge, and its counters do not fall. -/
structure HostedSession.Advances (old new : HostedSession) : Prop where
  sessionId : new.sessionId = old.sessionId
  state : old.state = new.state ∨ old.state.isValidTransition new.state = true
  redeemAttempts : old.redeemAttemptCount ≤ new.redeemAttemptCount
  statusChecks : old.statusCheckCount ≤ new.statusCheckCount

/-- A write of a session is a step from one that was read. -/
def SessionOp (h : History Op Res) : Op → Prop
  | .putSession key session => ∃ key' read, ⟨.getSession key', .ok (some read)⟩ ∈ h ∧
      key = read.sessionId ∧ read.Advances session
  | _ => True

/-- The operation writes no session. -/
def KeepsSessions (op : Op) : Prop := ∀ key session, op ≠ .putSession key session

/-- A write of a session makes such a change of one that was read. -/
def SessionWrite (change : HostedSession → HostedSession → Prop) (h : History Op Res)
    (op : Op) : Prop :=
  ∀ key session, op = .putSession key session → ∃ key' read,
    ⟨.getSession key', .ok (some read)⟩ ∈ h ∧ key = session.sessionId ∧ change read session

section Writes

variable {app : AppState} {h h' : History Op Res} {op : Op} {key : String}
  {read session : HostedSession}

theorem KeepsSessions.sessionOp (hop : KeepsSessions op) : SessionOp h op := by
  cases op <;> first | exact trivial | exact absurd rfl (hop _ _)

theorem keepsSessions_fetch {id : Uuid} {req : ChallengeDO.Request}
    (hop : ChallengeStore.Fetch id req op) : KeepsSessions op := by
  rcases hop with rfl | rfl
  · exact nofun
  · exact nofun

theorem keepsSessions_grant {id : Uuid} {origin : String} {c : CachedChallenge} {now : Nat}
    (hop : GrantOp app id origin c now h op) : KeepsSessions op := by
  rcases hop with (rfl | ⟨_, rfl⟩) | ⟨-, rfl | rfl | rfl⟩
  all_goals exact nofun

theorem HostedSession.Advances.incrementStatusChecks (session : HostedSession) :
    session.Advances session.incrementStatusChecks :=
  ⟨rfl, .inl rfl, Nat.le_refl _, le_satSucc _⟩

theorem HostedSession.Advances.incrementRedeemAttempts (session : HostedSession) :
    session.Advances session.incrementRedeemAttempts :=
  ⟨rfl, .inl rfl, le_satSucc _, Nat.le_refl _⟩

theorem KeepsSessions.sessionWrite {change : HostedSession → HostedSession → Prop}
    (hop : KeepsSessions op) : SessionWrite change h op :=
  fun key session heq => absurd heq (hop key session)

/-- A checked update of a session that was read. -/
theorem sessionWrite_update {change : HostedSession → HostedSession → Prop}
    {prior : SessionState} (hread : ⟨.getSession key, .ok (some read)⟩ ∈ h)
    (hchange : prior = session.state ∨ prior.isValidTransition session.state = true →
      change read session)
    (hop : SessionStore.IsUpdate session prior op) : SessionWrite change h op := by
  obtain ⟨rfl, hstate⟩ := hop
  intro key' session' heq
  cases heq
  exact ⟨key, read, hread, rfl, hchange hstate⟩

/-- A change that is a step of the session. -/
theorem SessionWrite.sessionOp {change : HostedSession → HostedSession → Prop}
    (hop : SessionWrite change h op) (hadv : ∀ read session, change read session →
      read.Advances session) : SessionOp h op := by
  by_cases hput : ∃ key session, op = .putSession key session
  · obtain ⟨key, session, rfl⟩ := hput
    obtain ⟨key', read, hread, hkey, hchange⟩ := hop key session rfl
    have hadvances := hadv read session hchange
    exact ⟨key', read, hread, hkey.trans hadvances.sessionId, hadvances⟩
  · exact KeepsSessions.sessionOp fun key session heq => hput ⟨key, session, heq⟩

theorem guarded_redeemRecord_keepsSessions {req : HostedRedeemRequest} {id : Uuid} :
    Guarded (fun _ op => KeepsSessions op) (fun _ _ => True) h
      (HostedRedeem.redeemRecord app req id) := by
  unfold HostedRedeem.redeemRecord
  refine (HostedRedeem.guarded_loadChallenge id).seq (fun _ _ _ => keepsSessions_fetch) ?_
    fun _ _ _ _ => trivial
  intro h1 loaded _ hload
  dsimp only
  split
  · trivial
  · refine guarded_await_bind.mpr ⟨nofun, fun now => ?_⟩
    split
    · trivial
    · have hread := (hload loaded rfl).mono (List.suffix_cons ⟨.timestamp, now⟩ h1)
      refine (HostedRedeem.guarded_rereadPending hread).seq
        (fun _ _ _ => keepsSessions_fetch) ?_ fun _ _ _ _ => trivial
      intro h2 cached _ _
      refine guarded_ofExcept_bind (fun _ _ => ?_) fun _ _ => trivial
      split
      · trivial
      · refine guarded_bind.mpr (guarded_grantVerdict.imp (fun _ _ => keepsSessions_grant) ?_)
        intro h3 r _
        cases r <;> trivial

/-- A redemption counts an attempt on the session it read. -/
theorem guarded_handleHostedRedeem_attempt (req : HostedRedeemRequest) :
    (HostedRedeem.handleHostedRedeem app req).Guarded
      (SessionWrite fun read session => session = read.incrementRedeemAttempts)
      (fun _ _ => True) [] := by
  unfold HostedRedeem.handleHostedRedeem
  split
  · trivial
  · split
    · trivial
    · refine guarded_ofExcept_bind (fun _ _ => ?_) fun _ _ => trivial
      refine guarded_await_bind.mpr ⟨KeepsSessions.sessionWrite nofun, fun answer => ?_⟩
      rcases answer with e | _ | session
      · trivial
      · trivial
      · refine guarded_ofExcept_bind (fun _ _ => ?_) fun _ _ => trivial
        dsimp only
        split
        · trivial
        · refine SessionStore.guarded_updateSessionKvChecked.seq_attempt ?_ ?_
          · intro h1 op hg hop
            exact sessionWrite_update (hg.suffix.subset List.mem_cons_self) (fun _ => rfl) hop
          · intro h1 _ _ _
            split
            · trivial
            · refine (HostedRedeem.guarded_consumeNonce _).seq ?_ ?_ fun _ _ _ _ => trivial
              · rintro h2 op - rfl
                exact KeepsSessions.sessionWrite nofun
              · intro h2 _ _ _
                exact guarded_redeemRecord_keepsSessions.imp
                  (fun _ _ hop => hop.sessionWrite) fun _ _ h => h

/-- **Redemption** counts an attempt on the session it read. -/
theorem guarded_handleHostedRedeem_session (req : HostedRedeemRequest) :
    (HostedRedeem.handleHostedRedeem app req).Guarded SessionOp (fun _ _ => True) [] := by
  refine (guarded_handleHostedRedeem_attempt req).imp (fun h op hop => ?_) fun _ _ h => h
  refine hop.sessionOp fun read session heq => ?_
  rw [heq]
  exact .incrementRedeemAttempts read

theorem guarded_reportChallenge {sessionId : String} :
    Guarded (fun _ op => KeepsSessions op) (fun _ _ => True) h
      (HostedStatus.reportChallenge sessionId session) := by
  unfold HostedStatus.reportChallenge
  split
  · trivial
  · refine ChallengeStore.guarded_get.seq_attempt (fun _ _ _ => keepsSessions_fetch) ?_
    intro h1 r _ _
    rcases r with e | _ | entry
    · trivial
    · trivial
    · exact guarded_await_bind.mpr ⟨nofun, fun _ => trivial⟩

/-- A poll counts a check on the session it read. -/
theorem guarded_handleHostedStatus_check (req : StatusRequest) :
    (HostedStatus.handleHostedStatus app req).Guarded
      (SessionWrite fun read session => session = read.incrementStatusChecks)
      (fun _ _ => True) [] := by
  unfold HostedStatus.handleHostedStatus
  split
  · trivial
  · split
    · trivial
    · split
      · trivial
      · refine guarded_await_bind.mpr ⟨KeepsSessions.sessionWrite nofun, fun answer => ?_⟩
        rcases answer with e | _ | session
        · trivial
        · trivial
        · refine guarded_ofExcept_bind (fun _ _ => ?_) fun _ _ => trivial
          dsimp only
          split
          · trivial
          · refine SessionStore.guarded_updateSessionKvChecked.seq_attempt ?_ ?_
            · intro h1 op hg hop
              exact sessionWrite_update (hg.suffix.subset List.mem_cons_self) (fun _ => rfl) hop
            · intro h1 _ _ _
              exact guarded_reportChallenge.imp (fun _ _ hop => hop.sessionWrite) fun _ _ h => h

/-- **A status poll** counts a check on the session it read. -/
theorem guarded_handleHostedStatus (req : StatusRequest) :
    (HostedStatus.handleHostedStatus app req).Guarded SessionOp (fun _ _ => True) [] := by
  refine (guarded_handleHostedStatus_check req).imp (fun h op hop => ?_) fun _ _ h => h
  refine hop.sessionOp fun read session heq => ?_
  rw [heq]
  exact .incrementStatusChecks read

/-- **A notification** moves a session it read as pending. -/
theorem guarded_notify (challengeId : String) (target : SessionState) :
    (HostedNotify.notify challengeId target).Guarded SessionOp (fun _ _ => True) [] := by
  refine guarded_await_bind.mpr ⟨trivial, fun sessionId => ?_⟩
  cases sessionId with
  | none => trivial
  | some sessionId =>
    refine guarded_await_bind.mpr ⟨trivial, fun answer => ?_⟩
    rcases answer with e | _ | session
    · trivial
    · trivial
    · dsimp only
      split
      · trivial
      · next hstate =>
        have hstate : session.state = .pending := not_not.mp hstate
        refine SessionStore.guarded_updateSessionKvChecked.seq_attempt ?_ fun _ _ _ _ => trivial
        intro h1 op hg hop
        have hwrite : SessionWrite HostedSession.Advances h1 op := by
          refine sessionWrite_update (hg.suffix.subset List.mem_cons_self) (fun hvalid => ?_) hop
          rw [← hstate] at hvalid
          exact ⟨rfl, hvalid, Nat.le_refl _, Nat.le_refl _⟩
        exact hwrite.sessionOp fun _ _ h => h

end Writes

end ProviiVerifier

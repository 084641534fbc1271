/-
  `hosted/storage/kv.rs` and `hosted/types/session.rs`: hosted sessions in the `HOSTED_SESSIONS`
  namespace.

  Encryption, the time to live of an entry and the push to WebSocket clients are left out. An
  update is validated against the state its caller says the session had.
-/
import ProviiVerifier.Service

namespace ProviiVerifier

open Interleaving Prog

/-- `SessionState::is_valid_transition`. -/
def SessionState.isValidTransition (state target : SessionState) : Bool :=
  if state = target then false
  else
    match state, target with
    | .pending, .proofOk | .pending, .expired | .pending, .revoked => true
    | .proofOk, .verified | .proofOk, .expired | .proofOk, .revoked => true
    | _, _ => false

/-- The derived `Debug` text. -/
def SessionState.debug : SessionState → String
  | .pending => "Pending"
  | .proofOk => "ProofOk"
  | .verified => "Verified"
  | .expired => "Expired"
  | .revoked => "Revoked"

/-- `u32::saturating_add(1)`. -/
def satSucc (n : Nat) : Nat := if n + 1 < 2 ^ 32 then n + 1 else n

theorem le_satSucc (n : Nat) : n ≤ satSucc n := by
  unfold satSucc
  split
  · omega
  · exact Nat.le_refl n

namespace HostedSession

/-- `increment_status_checks`. -/
def incrementStatusChecks (session : HostedSession) : HostedSession :=
  { session with statusCheckCount := satSucc session.statusCheckCount }

/-- `increment_redeem_attempts`. -/
def incrementRedeemAttempts (session : HostedSession) : HostedSession :=
  { session with redeemAttemptCount := satSucc session.redeemAttemptCount }

end HostedSession

namespace SessionStore

/-- `validate_transition`. -/
def validateTransition (prior : Option SessionState) (new : SessionState) :
    Except ApiError Unit :=
  match prior with
  | some priorState =>
    if priorState ≠ new ∧ priorState.isValidTransition new = false then
      .error (.internal
        s!"Invalid session state transition from {priorState.debug} to {new.debug}")
    else .ok ()
  | none => .ok ()

/-- `update_session_kv_checked`. -/
def updateSessionKvChecked (session : HostedSession) (priorState : Option SessionState) :
    Handler Unit := do
  ofExcept (validateTransition priorState session.state)
  if ← await (.putSession session.sessionId session) then return ()
  else .fail (.internal "Failed to store session")

variable {session : HostedSession} {prior : SessionState} {h : History Op Res}

theorem validateTransition_ok {new : SessionState}
    (hok : validateTransition (some prior) new = .ok ()) :
    prior = new ∨ prior.isValidTransition new = true := by
  unfold validateTransition at hok
  simp only at hok
  split at hok
  · cases hok
  · next hvalid =>
    by_contra hno
    obtain ⟨hne, hinvalid⟩ := not_or.mp hno
    exact hvalid ⟨hne, Bool.eq_false_of_not_eq_true hinvalid⟩

/-- The operation of an update: the session's state follows that of its caller. -/
def IsUpdate (session : HostedSession) (prior : SessionState) (op : Op) : Prop :=
  op = .putSession session.sessionId session ∧
    (prior = session.state ∨ prior.isValidTransition session.state = true)

theorem guarded_updateSessionKvChecked :
    Guarded (fun _ op => IsUpdate session prior op) (fun _ _ => True) h
      (updateSessionKvChecked session (some prior)) := by
  refine guarded_ofExcept_bind (fun _ hok => ?_) fun _ _ => trivial
  refine guarded_await_bind.mpr ⟨⟨rfl, validateTransition_ok hok⟩, fun stored => ?_⟩
  cases stored <;> trivial

attribute [irreducible] updateSessionKvChecked

end SessionStore

end ProviiVerifier

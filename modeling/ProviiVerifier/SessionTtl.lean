/-
  `hosted/storage/kv.rs`: how long a hosted session can be read.

  `SessionStore` leaves the time to live of an entry out; here it is the subject. A session
  carries the expiry it was created with, every write asks the namespace to keep it for some
  seconds, and a read does not look at the expiry again. Times are seconds.

  An update asks for what is left until the expiry, but for no less than sixty seconds.

  Proved: no state of a run lets a session be read after its expiry exactly when the creation and
  every update that is written end in time for it, the updates by coming sixty seconds before the
  expiry (`unreadable_after_expiry_iff`).
-/
import ProviiVerifier.SessionStore
import ProviiVerifier.Retention.Expiring

namespace ProviiVerifier

/-- A session and its `expires_at`. -/
structure DatedSession extends HostedSession where
  expiresAt : Nat
  deriving DecidableEq

namespace SessionTtl

/-- `HOSTED_SESSIONS`. -/
abbrev Sessions := Expiring.Store String DatedSession

/-! ## The calls -/

/-- What becomes of a call of `store_session_kv`. A write that times out may have been made. -/
inductive StoreFate
  | stored
  | mekUnavailable
  | encryptionFailed
  | namespaceUnavailable
  | putFailed
  | timedOut (written : Bool)
  deriving DecidableEq

namespace StoreFate

/-- The namespace stores the session. -/
def written : StoreFate → Bool
  | .stored => true
  | .timedOut written => written
  | _ => false

def answer : StoreFate → Except ApiError Unit
  | .stored => .ok ()
  | .mekUnavailable => .error (.serviceUnavailable (some "Encryption key unavailable"))
  | .encryptionFailed => .error (.internal "Failed to encrypt session")
  | .namespaceUnavailable => .error (.internal "Failed to access session storage")
  | .putFailed => .error (.internal "Failed to store session")
  | .timedOut _ => .error (.internal "Session storage timed out")

end StoreFate

/-- `format!("session:{}", session_id)`. -/
def sessionKey (sessionId : String) : String := "session:" ++ sessionId

/-- `store_session_kv`. -/
def storeSessionKv (kv : Sessions) (now : Nat) (session : DatedSession) (ttlSeconds : Nat)
    (fate : StoreFate) : Except ApiError Unit × Sessions :=
  (fate.answer,
    if fate.written then Expiring.put kv now (sessionKey session.sessionId) session ttlSeconds
    else kv)

/-- `update_session_kv_checked`. -/
def updateSessionKvChecked (kv : Sessions) (now : Nat) (session : DatedSession)
    (priorState : Option SessionState) (fate : StoreFate) : Except ApiError Unit × Sessions :=
  match SessionStore.validateTransition priorState session.state with
  | .error e => (.error e, kv)
  | .ok () =>
    -- `saturating_sub`, then the floor
    let remaining := max (session.expiresAt - now) 60
    storeSessionKv kv now session remaining fate

/-- Why a read fails before the namespace answers. -/
inductive ReadFault
  | namespaceUnavailable
  | failed
  | timedOut
  deriving DecidableEq

def ReadFault.error : ReadFault → ApiError
  | .namespaceUnavailable => .internal "Failed to access session storage"
  | .failed => .internal "Failed to retrieve session"
  | .timedOut => .internal "Session retrieval timed out"

/-- Why a stored session cannot be opened. -/
inductive OpenFault
  | mekUnavailable
  | undecryptable
  | unparsable
  deriving DecidableEq

def OpenFault.error : OpenFault → ApiError
  | .mekUnavailable => .serviceUnavailable (some "Encryption key unavailable")
  | .undecryptable => .internal "Failed to decrypt session"
  | .unparsable => .internal "Failed to parse session"

/-- `get_session_kv`. -/
def getSessionKv (kv : Sessions) (now : Nat) (sessionId : String) (readFault : Option ReadFault)
    (openFault : Option OpenFault) : Except ApiError (Option DatedSession) :=
  match readFault with
  | some fault => .error fault.error
  | none =>
    match Expiring.get kv now (sessionKey sessionId) with
    | none => .ok none
    | some session =>
      match openFault with
      | some fault => .error fault.error
      | none => .ok (some session)

theorem sessionKey_injective {a b : String} (h : sessionKey a = sessionKey b) : a = b := by
  have h := congrArg String.toList h
  rw [sessionKey, sessionKey, String.toList_append, String.toList_append] at h
  exact String.toList_inj.mp (List.append_cancel_left h)

theorem getSessionKv_some {kv : Sessions} {now : Nat} {sessionId : String}
    {readFault : Option ReadFault} {openFault : Option OpenFault} {session : DatedSession}
    (h : getSessionKv kv now sessionId readFault openFault = .ok (some session)) :
    Expiring.get kv now (sessionKey sessionId) = some session := by
  unfold getSessionKv at h
  cases readFault with
  | some fault => cases h
  | none =>
    cases hget : Expiring.get kv now (sessionKey sessionId) with
    | none => simp [hget] at h
    | some stored =>
      cases openFault with
      | some fault => simp [hget] at h
      | none => simpa [hget] using h

/-! ## Runs -/

/-- The session as it is created: `store_session_kv` with the configured time to live. -/
structure Creation where
  session : DatedSession
  time : Nat
  ttlSeconds : Nat
  fate : StoreFate

/-- A later call. -/
inductive Act
  | update (session : DatedSession) (priorState : Option SessionState) (fate : StoreFate)
  | get (sessionId : String) (readFault : Option ReadFault) (openFault : Option OpenFault)

/-- The namespace after a call at a time. -/
def next (kv : Sessions) (now : Nat) : Act → Sessions
  | .update session priorState fate =>
    (updateSessionKvChecked kv now session priorState fate).2
  | .get _ _ _ => kv

/-- The namespace after a creation and the calls that follow, newest first. -/
def after (kv : Sessions) (c : Creation) : List (Nat × Act) → Sessions
  | [] => (storeSessionKv kv c.time c.session c.ttlSeconds c.fate).2
  | (now, act) :: old => next (after kv c old) now act

/-- The act writes the session. -/
def Act.Writes (sessionId : String) : Act → Prop
  | .update session priorState fate => session.sessionId = sessionId ∧
      SessionStore.validateTransition priorState session.state = .ok () ∧ fate.written = true
  | .get _ _ _ => False

/-- Calls in the order of the clock, on a session that keeps its expiry. -/
structure Creation.Follows (c : Creation) (acts : List (Nat × Act)) : Prop where
  ordered : acts.Pairwise fun later earlier => earlier.1 ≤ later.1
  start : ∀ a ∈ acts, c.time ≤ a.1
  expiresAt : ∀ now session priorState fate, (now, .update session priorState fate) ∈ acts →
    session.sessionId = c.session.sessionId → session.expiresAt = c.session.expiresAt

/-- In no state of the run can the session be read at a time after its expiry. -/
def UnreadableAfterExpiry (kv : Sessions) (c : Creation) (acts : List (Nat × Act)) : Prop :=
  ∀ old, old <:+ acts → ∀ now, c.time ≤ now → (∀ a ∈ old, a.1 ≤ now) →
    c.session.expiresAt < now → ∀ readFault openFault session,
      getSessionKv (after kv c old) now c.session.sessionId readFault openFault ≠
        .ok (some session)

/-- What is written ends in time: the creation asks for no more than is left until the expiry, and
every update comes while the floor of sixty seconds does not reach past it. -/
structure EndsInTime (c : Creation) (acts : List (Nat × Act)) : Prop where
  created : c.fate.written = true →
    c.time + c.ttlSeconds ≤ max c.time (c.session.expiresAt + 1)
  updated : ∀ now act, (now, act) ∈ acts → act.Writes c.session.sessionId →
    now + 60 ≤ c.session.expiresAt + 1

variable {kv : Sessions} {c : Creation} {acts old : List (Nat × Act)} {now : Nat} {act : Act}

theorem Creation.Follows.of_suffix (h : c.Follows acts) (hs : old <:+ acts) : c.Follows old :=
  { ordered := h.ordered.sublist hs.sublist
    start := fun a ha => h.start a (hs.subset ha)
    expiresAt := fun now session priorState fate hm =>
      h.expiresAt now session priorState fate (hs.subset hm) }

/-- An act that does not write the session leaves its entry. -/
theorem next_of_not_writes {id : String} (h : ¬ act.Writes id) :
    next kv now act (sessionKey id) = kv (sessionKey id) := by
  cases act with
  | get sessionId readFault openFault => rfl
  | update session priorState fate =>
    simp only [Act.Writes] at h
    simp only [next, updateSessionKvChecked]
    split
    · rfl
    · next hvalid =>
      simp only [storeSessionKv]
      split
      · next hwritten =>
        refine Expiring.put_ne fun hkey => ?_
        exact h ⟨(sessionKey_injective hkey).symm, hvalid, hwritten⟩
      · rfl

/-- An act that writes the session keeps it for what is left, or for the floor. -/
theorem next_of_writes (kv : Sessions) (now : Nat) {id : String} {expiresAt : Nat}
    (h : act.Writes id)
    (hexp : ∀ session priorState fate, act = .update session priorState fate →
      session.sessionId = id → session.expiresAt = expiresAt) :
    ∃ session, next kv now act (sessionKey id) =
      some ⟨session, now + max (expiresAt - now) 60⟩ := by
  cases act with
  | get sessionId readFault openFault => exact h.elim
  | update session priorState fate =>
    obtain ⟨hid, hvalid, hwritten⟩ := h
    have hexpiry := hexp session priorState fate rfl hid
    subst hid hexpiry
    refine ⟨session, ?_⟩
    simp [next, updateSessionKvChecked, hvalid, storeSessionKv, hwritten]

/-- The time of the newest call. -/
def lastTime (c : Creation) : List (Nat × Act) → Nat
  | [] => c.time
  | a :: _ => a.1

theorem Creation.Follows.le_lastTime (h : c.Follows acts) :
    c.time ≤ lastTime c acts ∧ ∀ a ∈ acts, a.1 ≤ lastTime c acts := by
  cases acts with
  | nil => exact ⟨Nat.le_refl _, fun a ha => absurd ha List.not_mem_nil⟩
  | cons a old =>
    refine ⟨h.start a List.mem_cons_self, fun b hb => ?_⟩
    rcases List.mem_cons.mp hb with rfl | hb
    · exact Nat.le_refl _
    · exact (List.pairwise_cons.mp h.ordered).1 b hb

/-- **The end of the entry.** When everything ends in time, so does what is stored. -/
theorem EndsInTime.ends (hkv : kv (sessionKey c.session.sessionId) = none)
    (hrun : c.Follows acts) (h : EndsInTime c acts) {e : Expiring.Entry DatedSession}
    (he : after kv c acts (sessionKey c.session.sessionId) = some e) :
    e.ends ≤ max c.time (c.session.expiresAt + 1) := by
  induction acts with
  | nil =>
    simp only [after, storeSessionKv] at he
    split at he
    · next hwritten =>
      rw [Expiring.put_self] at he
      injection he with he
      rw [← he]
      exact h.created hwritten
    · rw [hkv] at he
      cases he
  | cons a old ih =>
    obtain ⟨now, act⟩ := a
    have he' : next (after kv c old) now act (sessionKey c.session.sessionId) = some e := he
    by_cases hw : act.Writes c.session.sessionId
    · obtain ⟨session, hnext⟩ := next_of_writes (after kv c old) now hw
        fun s p f hact => hrun.expiresAt now s p f (by rw [hact]; exact List.mem_cons_self)
      have htime := h.updated now act List.mem_cons_self hw
      rw [hnext] at he'
      injection he' with he'
      rw [← he']
      show now + max (c.session.expiresAt - now) 60 ≤ max c.time (c.session.expiresAt + 1)
      omega
    · rw [next_of_not_writes hw] at he'
      have hold : EndsInTime c old :=
        ⟨h.created, fun n b hb => h.updated n b (List.mem_cons_of_mem _ hb)⟩
      exact ih (hrun.of_suffix (List.suffix_cons _ _)) hold he'

/-- What cannot be read after the expiry has ended by then, or by the last call. -/
theorem UnreadableAfterExpiry.ends (h : UnreadableAfterExpiry kv c acts) (hs : old <:+ acts)
    (hrun : c.Follows old) {session : DatedSession} {ends : Nat}
    (he : after kv c old (sessionKey c.session.sessionId) = some ⟨session, ends⟩) :
    ends ≤ max (lastTime c old) (c.session.expiresAt + 1) := by
  by_contra hlt
  obtain ⟨hstart, hlast⟩ := hrun.le_lastTime
  -- a read at the later of the two still finds the session
  have hget : Expiring.get (after kv c old) (max (lastTime c old) (c.session.expiresAt + 1))
      (sessionKey c.session.sessionId) = some session :=
    Expiring.get_eq_some.mpr ⟨ends, he, by omega⟩
  refine h old hs (max (lastTime c old) (c.session.expiresAt + 1)) (by omega) ?_ (by omega)
    none none session ?_
  · intro a ha
    exact Nat.le_trans (hlast a ha) (Nat.le_max_left _ _)
  · simp [getSessionKv, hget]

/-- **A session cannot be read after its expiry** exactly when everything that is written ends in
time for it. -/
theorem unreadable_after_expiry_iff (kv : Sessions) (c : Creation) (acts : List (Nat × Act))
    (hkv : kv (sessionKey c.session.sessionId) = none) (hrun : c.Follows acts) :
    UnreadableAfterExpiry kv c acts ↔ EndsInTime c acts := by
  constructor
  · intro h
    refine ⟨?_, ?_⟩
    · intro hwritten
      have he : after kv c [] (sessionKey c.session.sessionId) =
          some ⟨c.session, c.time + c.ttlSeconds⟩ := by
        simp [after, storeSessionKv, hwritten]
      exact h.ends List.nil_suffix (hrun.of_suffix List.nil_suffix) he
    · intro now act hm hw
      obtain ⟨new, old, rfl⟩ := List.append_of_mem hm
      have hs : (now, act) :: old <:+ new ++ (now, act) :: old := List.suffix_append _ _
      obtain ⟨session, hnext⟩ := next_of_writes (after kv c old) now hw
        fun s p f hact => hrun.expiresAt now s p f (by rw [← hact]; exact hm)
      have hends := h.ends hs (hrun.of_suffix hs) hnext
      have htime : lastTime c ((now, act) :: old) = now := rfl
      rw [htime] at hends
      omega
  · intro h old hs now hstart _ hlate readFault openFault session hget
    obtain ⟨ends, he, hlt⟩ := Expiring.get_eq_some.mp (getSessionKv_some hget)
    have hold : EndsInTime c old :=
      ⟨h.created, fun n b hb => h.updated n b (hs.subset hb)⟩
    have hends := hold.ends hkv (hrun.of_suffix hs) he
    dsimp only at hends
    omega

/-! ## A poll just before the expiry -/

namespace Sample

def session : DatedSession :=
  { sessionId := "s", publicKey := "pk_test_a", origin := "https://a.example",
    state := .pending, verifierChallengeId := "c", clientIpHash := none, userAgent := none,
    bindingMode := .relaxed, statusCheckCount := 0, redeemAttemptCount := 0, expiresAt := 1300 }

/-- Created at 1000 for 300 seconds. -/
def creation : Creation := ⟨session, 1000, 300, .stored⟩

/-- A poll writes its count at the time. -/
def poll (now : Nat) : List (Nat × Act) := [(now, .update session (some .pending) .stored)]

theorem poll_follows {now : Nat} (h : 1000 ≤ now) : creation.Follows (poll now) := by
  refine ⟨List.pairwise_singleton _ _, ?_, ?_⟩
  · intro a ha
    rw [List.mem_singleton.mp ha]
    exact h
  · intro t s prior fate hm _
    have heq := List.mem_singleton.mp hm
    injection heq with _ hact
    injection hact with hs
    rw [hs]
    rfl

theorem poll_endsInTime {now : Nat} (h : now ≤ 1241) : EndsInTime creation (poll now) := by
  refine ⟨fun _ => by decide, ?_⟩
  intro t act hm _
  have heq := List.mem_singleton.mp hm
  injection heq with ht _
  rw [ht]
  show now + 60 ≤ 1300 + 1
  omega

end Sample

theorem unreadable_after_expiry_iff_early_poll :
    Sample.creation.Follows (Sample.poll 1200) ∧
      UnreadableAfterExpiry (fun _ => none) Sample.creation (Sample.poll 1200) := by
  have hrun : Sample.creation.Follows (Sample.poll 1200) := Sample.poll_follows (by decide)
  exact ⟨hrun, (unreadable_after_expiry_iff _ _ _ rfl hrun).mpr
    (Sample.poll_endsInTime (by decide))⟩

/-- A poll ten seconds before the expiry keeps the session fifty seconds past it. -/
theorem read_after_expiry :
    ∃ (kv : Sessions) (c : Creation) (acts : List (Nat × Act)) (now : Nat),
      kv (sessionKey c.session.sessionId) = none ∧ c.Follows acts ∧
        c.time + c.ttlSeconds = c.session.expiresAt ∧ (∀ a ∈ acts, a.1 ≤ now) ∧
          c.session.expiresAt + 49 ≤ now ∧
            getSessionKv (after kv c acts) now c.session.sessionId none none =
              .ok (some c.session) := by
  refine ⟨fun _ => none, Sample.creation, Sample.poll 1290, 1349, rfl,
    Sample.poll_follows (by decide), rfl, ?_, by decide, by decide +kernel⟩
  intro a ha
  rw [List.mem_singleton.mp ha]
  decide

end SessionTtl

end ProviiVerifier

/-
  The record of a hosted session over interleaved polls, redemptions and notifications.

  Each of them reads the whole record, changes it and writes it back, and the write is validated
  against what its own caller read. The source accepts that concurrent writers may overwrite each
  other: the record is a cache, and the nonce store serialises what matters.

  Proved: every write is a step of the session machine from a record that was stored when its
  writer read it; in the runs in which every write still finds that record, the stored records
  follow the edges of the machine and their counters never fall (`session_advances`).
-/
import ProviiVerifier.HostedStatus
import Mathlib.Data.List.Chain

namespace ProviiVerifier

open Interleaving Prog

namespace SessionRecord

/-- What reads and writes a session. -/
inductive SessionRequest
  | status (req : StatusRequest)
  | redeem (req : HostedRedeemRequest)
  | proofVerified (challengeId : String)
  | proofFailed (challengeId : String)

/-- Serve a request; its response is not looked at. -/
def serve (app : AppState) : SessionRequest → Handler Unit
  | .status req => do
    let _ ← HostedStatus.handleHostedStatus app req
    return ()
  | .redeem req => do
    let _ ← HostedRedeem.handleHostedRedeem app req
    return ()
  | .proofVerified challengeId => HostedNotify.notifyProofVerified challengeId
  | .proofFailed challengeId => HostedNotify.notifyProofFailed challengeId

/-- A read of a session answers what is stored, or fails. -/
def linearizable : (op : Op) → Choice op → Prop
  | .getSession _, some (.ok _) => False
  | _, _ => True

/-- All runs over a linearizable namespace. -/
def anyOrder (app : AppState) : Rules (service app) SessionRequest :=
  { arrive := fun _ _ _ => True
    call := fun _ _ op c => linearizable op c
    env := fun _ _ => True }

/-- Every session is stored under its id. -/
def Keyed (s : State) : Prop := ∀ key session, s.sessions key = some session →
  session.sessionId = key

/-- What an event stores under the key. -/
def written {app : AppState} (key : String) :
    Event (service app) SessionRequest → Option HostedSession
  | .call _ _ (.putSession key' session) stored =>
    if key' = key ∧ (show Bool from stored) = true then some session else none
  | _ => none

/-- The records stored under the key, newest first, from the first on. -/
def storedRecords {app : AppState} (key : String) (first : HostedSession)
    (tr : List (Event (service app) SessionRequest)) : List HostedSession :=
  tr.filterMap (written key) ++ [first]

/-- Every write under the key still finds the record its writer read. -/
def Undisturbed {app : AppState} (key : String)
    (tr : List (Event (service app) SessionRequest)) : Prop :=
  ∀ (new old : List (Event (service app) SessionRequest)) (i : Nat) (s : State) (op : Op)
    (c : (service app).Choice op), tr = new ++ .call i s op c :: old →
    (written key (.call i s op c : Event (service app) SessionRequest)).isSome = true →
    ∀ key' read, (⟨.getSession key', .ok (some read)⟩ : Sigma Res) ∈ own i old →
      s.sessions key = some read

variable {app : AppState} {init : State → Prop} {key : String} {first session : HostedSession}
  {p : Pool (service app) SessionRequest ApiError Unit} {i : Nat} {s : State} {op : Op}
  {c : Choice op}

theorem guarded_serve (req : SessionRequest) :
    (serve app req).Guarded SessionOp (fun _ _ => True) [] := by
  cases req with
  | status req =>
    refine guarded_bind.mpr ((guarded_handleHostedStatus req).imp (fun _ _ hop => hop) ?_)
    intro h r _
    cases r <;> trivial
  | redeem req =>
    refine guarded_bind.mpr ((guarded_handleHostedRedeem_session req).imp (fun _ _ hop => hop) ?_)
    intro h r _
    cases r <;> trivial
  | proofVerified challengeId => exact guarded_notify challengeId .proofOk
  | proofFailed challengeId => exact guarded_notify challengeId .expired

/-! ## One operation -/

theorem perform_put {key' : String} {session : HostedSession}
    {c : Choice (.putSession key' session)} :
    (perform app s (.putSession key' session) c).2.sessions key =
      if key' = key ∧ (show Bool from c) = true then some session else s.sessions key := by
  cases c with
  | false => simp [perform]
  | true =>
    show Function.update s.sessions key' (some session) key = _
    by_cases hkey : key' = key
    · subst hkey
      simp
    · simp [Function.update_of_ne (Ne.symm hkey), hkey]

/-- The operation of an event that stores a session. -/
theorem written_some
    (h : written key (.call i s op c : Event (service app) SessionRequest) = some session) :
    op = .putSession key session ∧ (perform app s op c).2.sessions key = some session := by
  cases op with
  | putSession key' session' =>
    rw [perform_put]
    simp only [written] at h
    split at h
    · next hkey =>
      cases h
      rw [hkey.1, if_pos ⟨rfl, hkey.2⟩]
      exact ⟨rfl, rfl⟩
    · cases h
  | _ => cases h

/-- Other events leave the record. -/
theorem written_none
    (h : written key (.call i s op c : Event (service app) SessionRequest) = none) :
    (perform app s op c).2.sessions key = s.sessions key := by
  by_cases hop : ∃ key' session', op = .putSession key' session'
  · obtain ⟨key', session', rfl⟩ := hop
    rw [perform_put]
    simp only [written] at h
    split at h
    · cases h
    · next hkey => rw [if_neg hkey]
  · have hstep : OpStep app s op (perform app s op c).2 := perform_opStep c
    exact congrFun (hstep.sessions fun key' session' heq => hop ⟨key', session', heq⟩) key

/-! ## Runs -/

/-- What a request read of a session. -/
theorem linearizable_read (app : AppState) {key' : String} {read : HostedSession}
    {c : Choice (.getSession key')} (hrule : linearizable (.getSession key') c)
    (hread : (perform app s (.getSession key') c).1 = .ok (some read)) :
    s.sessions key' = some read := by
  rcases c with _ | _ | answer
  · exact Except.ok.inj hread
  · cases hread
  · exact absurd hrule id

/-- A record in a request's history was stored when it was read. -/
theorem read_stored (hr : Run (serve app) (anyOrder app) init p) {key' : String}
    {read : HostedSession}
    (hm : (⟨.getSession key', .ok (some read)⟩ : Sigma Res) ∈ own i p.world.trace) :
    ∃ (s : State) (c : (service app).Choice (.getSession key')),
      .call i s (.getSession key') c ∈ p.world.trace ∧ s.sessions key' = some read ∧
        ∃ old, Reached (serve app) (anyOrder app) init ⟨s, old⟩ := by
  obtain ⟨s, c, hevent, hread⟩ := mem_own.mp hm
  obtain ⟨new, old, htr⟩ := List.append_of_mem hevent
  obtain ⟨hreached, hrule, -⟩ := hr.call_event guarded_serve htr
  exact ⟨s, c, hevent, linearizable_read app hrule hread, old, hreached⟩

/-- Sessions stay under their ids. -/
theorem keyed (hinit : ∀ s, init s → Keyed s) (hr : Run (serve app) (anyOrder app) init p) :
    Keyed p.world.state := by
  -- a write keeps the id of a session that was stored under it
  refine hr.invariant (I := fun w => Keyed w.state) guarded_serve hinit ?_ ?_ ?_
  · intro w i req _ hI _
    exact hI
  · intro w i op c req hreached hI _ hguard _ key session hsession
    cases hw : written key (.call i w.state op c : Event (service app) SessionRequest) with
    | none =>
      have hkept : (perform app w.state op c).2.sessions key = w.state.sessions key :=
        written_none hw
      exact hI key session (hkept.symm.trans hsession)
    | some session' =>
      obtain ⟨rfl, hstored⟩ := written_some hw
      have heq : session' = session := Option.some.inj (hstored.symm.trans hsession)
      obtain ⟨key', read, -, hkey, hadv⟩ := hguard
      rw [← heq, hadv.sessionId, hkey]
  · intro w e _ hI _ key session hsession
    have hkept : (envStep app w.state e).sessions = w.state.sessions :=
      (envStep_envStep e).sessions
    exact hI key session (hkept ▸ hsession)

/-- A write under a key is a step from a record that was stored under it. -/
theorem write_advances (hinit : ∀ s, init s → Keyed s)
    (hr : Run (serve app) (anyOrder app) init p)
    (hguard : SessionOp (own i p.world.trace) (.putSession key session)) :
    ∃ read, (⟨.getSession key, .ok (some read)⟩ : Sigma Res) ∈ own i p.world.trace ∧
      (∃ (s : State) (c : (service app).Choice (.getSession key)),
        .call i s (.getSession key) c ∈ p.world.trace ∧ s.sessions key = some read) ∧
      read.Advances session := by
  obtain ⟨key', read, hm, hkey, hadv⟩ := hguard
  obtain ⟨s, c, hevent, hstored, old, q, hq, hqw⟩ := read_stored hr hm
  have hid : read.sessionId = key' := by
    have hkeyed := keyed hinit hq
    rw [hqw] at hkeyed
    exact hkeyed key' read hstored
  rw [hid] at hkey
  subst hkey
  exact ⟨read, hm, ⟨s, c, hevent, hstored⟩, hadv⟩

theorem Undisturbed.old {e : Event (service app) SessionRequest}
    {tr : List (Event (service app) SessionRequest)} (h : Undisturbed key (e :: tr)) :
    Undisturbed key tr := by
  intro new old i s op c htr
  exact h (e :: new) old i s op c (by rw [htr, List.cons_append])

/-- The stored records of an undisturbed run are a chain that ends in the current one. -/
theorem chain (hinit : ∀ s, init s → Keyed s ∧ s.sessions key = some first)
    (hr : Run (serve app) (anyOrder app) init p) (hu : Undisturbed key p.world.trace) :
    (storedRecords key first p.world.trace).IsChain (fun new old => old.Advances new) ∧
      (storedRecords key first p.world.trace).head? = p.world.state.sessions key := by
  revert hu
  refine hr.invariant (I := fun w => Undisturbed key w.trace →
      (storedRecords key first w.trace).IsChain (fun new old => old.Advances new) ∧
        (storedRecords key first w.trace).head? = w.state.sessions key) guarded_serve ?_ ?_ ?_ ?_
  · intro s hs _
    exact ⟨List.isChain_singleton _, (hinit s hs).2.symm⟩
  · intro w i req _ hI _ hu
    exact hI hu.old
  · intro w i op c req hreached hI _ hguard _ hu
    obtain ⟨hchain, hhead⟩ := hI hu.old
    cases hw : written key (.call i w.state op c : Event (service app) SessionRequest) with
    | none =>
      have hkept : (perform app w.state op c).2.sessions key = w.state.sessions key :=
        written_none hw
      have hsame : storedRecords key first (w.after i op c).trace =
          storedRecords key first w.trace := by
        simp [storedRecords, hw]
      rw [hsame]
      exact ⟨hchain, hhead.trans hkept.symm⟩
    | some session =>
      obtain ⟨rfl, hstored⟩ := written_some hw
      obtain ⟨q, hq, rfl⟩ := hreached
      obtain ⟨read, hm, -, hadv⟩ := write_advances (fun s hs => (hinit s hs).1) hq hguard
      have hnow : q.world.state.sessions key = some read :=
        hu [] _ i _ _ c rfl (by rw [hw]; rfl) key read hm
      have hnew : storedRecords key first (q.world.after i (.putSession key session) c).trace =
          session :: storedRecords key first q.world.trace := by
        simp [storedRecords, hw]
      rw [hnew]
      refine ⟨hchain.cons ?_, hstored.symm⟩
      intro old hold
      rw [hhead, hnow] at hold
      cases hold
      exact hadv
  · intro w e _ hI _ hu
    have hkept : (envStep app w.state e).sessions = w.state.sessions :=
      (envStep_envStep e).sessions
    obtain ⟨hchain, hhead⟩ := hI hu
    refine ⟨hchain, hhead.trans ?_⟩
    show _ = (envStep app w.state e).sessions key
    rw [hkept]

/-- **The session record.** In every run, a session is written as a step of the session machine
from a record that was stored when its writer read it. When every write still finds that record,
the stored records follow the edges of the machine, or stay put, and their counters never fall. -/
theorem session_advances (app : AppState) (s₀ : State) (key : String) (first : HostedSession)
    (p : Pool (service app) SessionRequest ApiError Unit) (hkeyed : Keyed s₀)
    (hfirst : s₀.sessions key = some first)
    (hr : Run (serve app) (anyOrder app) (fun s => s = s₀) p) :
    (∀ (new old : List (Event (service app) SessionRequest)) (i : Nat) (s : State) (op : Op)
      (c : (service app).Choice op) (session : HostedSession),
      p.world.trace = new ++ .call i s op c :: old →
      written key (.call i s op c : Event (service app) SessionRequest) = some session →
      ∃ (s' : State) (c' : (service app).Choice (.getSession key)) (read : HostedSession),
        .call i s' (.getSession key) c' ∈ old ∧ s'.sessions key = some read ∧
          read.Advances session) ∧
    (Undisturbed key p.world.trace →
      (storedRecords key first p.world.trace).IsChain (fun new old => old.Advances new) ∧
        (storedRecords key first p.world.trace).head? = p.world.state.sessions key) := by
  have hinit : ∀ s, s = s₀ → Keyed s ∧ s.sessions key = some first := by
    rintro s rfl
    exact ⟨hkeyed, hfirst⟩
  refine ⟨?_, chain hinit hr⟩
  intro new old i s op c session htr hw
  obtain ⟨hreached, -, req, -, hguard⟩ := hr.call_event guarded_serve htr
  obtain ⟨rfl, -⟩ := written_some hw
  obtain ⟨q, hq, hqw⟩ := hreached
  obtain rfl : q.world.trace = old := by rw [hqw]
  obtain ⟨read, -, ⟨s', c', hevent, hstored⟩, hadv⟩ :=
    write_advances (fun s hs => (hinit s hs).1) hq hguard
  exact ⟨s', c', read, hevent, hstored, hadv⟩

/-! ## Checking a trace -/

/-- A read of a session returned what is stored under the key. -/
def stillFinds (s : State) (key : String) : Sigma Res → Bool
  | ⟨.getSession _, .ok (some read)⟩ => s.sessions key = some read
  | _ => true

/-- `Undisturbed`, evaluated. -/
def undisturbed {app : AppState} (key : String) :
    List (Event (service app) SessionRequest) → Bool
  | [] => true
  | .arrive _ _ :: tr => undisturbed key tr
  | .call i s op c :: tr =>
    ((written key (.call i s op c : Event (service app) SessionRequest)).isNone ||
      (own i tr).all (stillFinds s key)) && undisturbed key tr

theorem all_stillFinds {h : History Op Res} (hall : h.all (stillFinds s key) = true)
    {key' : String} {read : HostedSession}
    (hm : (⟨.getSession key', .ok (some read)⟩ : Sigma Res) ∈ h) :
    s.sessions key = some read :=
  of_decide_eq_true (List.all_eq_true.mp hall _ hm)

theorem undisturbed_call {tr : List (Event (service app) SessionRequest)}
    {c : (service app).Choice op} :
    undisturbed key (.call i s op c :: tr : List (Event (service app) SessionRequest)) = true ↔
      ((written key (.call i s op c : Event (service app) SessionRequest)).isNone = true ∨
        (own i tr).all (stillFinds s key) = true) ∧ undisturbed key tr = true :=
  Bool.and_eq_true_iff.trans (and_congr_left fun _ => Bool.or_eq_true_iff)

theorem undisturbed_of_check {tr : List (Event (service app) SessionRequest)}
    (h : undisturbed key tr = true) : Undisturbed key tr := by
  induction tr with
  | nil =>
    intro new old i s op c htr
    simp at htr
  | cons e tr ih =>
    intro new old i s op c htr hw key' read hm
    cases new with
    | nil =>
      injection htr with he htr
      subst he htr
      rcases (undisturbed_call.mp h).1 with hnone | hall
      · rw [Option.isNone_iff_eq_none.mp hnone] at hw
        cases hw
      · exact all_stillFinds hall hm
    | cons e' new =>
      injection htr with _ htr
      refine ih ?_ new old i s op c htr hw key' read hm
      cases e with
      | arrive j req => exact h
      | call j s' op' c' => exact (undisturbed_call.mp h).2

/-! ## A stale write -/

/-- A session waiting for its proof. -/
def waiting : HostedSession :=
  { sessionId := "00000000-0000-4000-8000-000000000001"
    publicKey := "pk_shop"
    origin := "https://shop.example"
    state := .pending
    verifierChallengeId := "00000000-0000-4000-8000-000000000002"
    clientIpHash := none
    userAgent := none
    bindingMode := .relaxed
    statusCheckCount := 0
    redeemAttemptCount := 0 }

/-- Only the waiting session is stored. -/
def oneSession : State :=
  { State.initial with
    sessions := fun key => if key = waiting.sessionId then some waiting else none }

theorem keyed_oneSession : Keyed oneSession := by
  intro key session hsession
  simp only [oneSession] at hsession
  split at hsession
  · next hkey =>
    cases hsession
    exact hkey.symm
  · cases hsession

/-- A poll of the shop's page. -/
def poll : SessionRequest :=
  .status
    { headers := fun name =>
        if name = "Origin" then some "https://shop.example"
        else if name = "X-Public-Key" then some "pk_shop"
        else none
      sessionId := waiting.sessionId }

/-- Every operation goes well; the challenge is mapped to the waiting session. -/
def mapped : (op : Op) → Choice op
  | .challengeToSession _ => some waiting.sessionId
  | op => healthy op

/-- The notification that the proof verified. -/
def notification : SessionRequest := .proofVerified waiting.verifierChallengeId

/-- A poll and a notification arrive together; the notification reads the session once the poll has
written it. -/
def pollThenNotification : List (Act (service .sample) SessionRequest) :=
  [.arrive 0 poll, .arrive 1 notification, .call 1 mapped, .call 0 mapped, .call 0 mapped,
    .call 1 mapped, .call 1 mapped]

/-- The notification comes between the poll's read and its write. -/
def pollAround : List (Act (service .sample) SessionRequest) :=
  [.arrive 0 poll, .call 0 mapped, .arrive 1 notification, .call 1 mapped, .call 1 mapped,
    .call 1 mapped, .call 0 mapped]

instance (app : AppState) : DecidableRules (anyOrder app) :=
  { arrive := fun _ _ _ => .isTrue trivial
    call := fun w i op => by
      apply Op.casesOn (motive := fun op => ∀ c, Decidable ((anyOrder app).call w i op c)) op
      case getSession =>
        intro key (c : Option (Except ApiError (Option HostedSession)))
        exact match c with
        | none | some (.error _) => .isTrue trivial
        | some (.ok _) => .isFalse id
      all_goals intros; exact .isTrue trivial
    env := fun _ _ => .isTrue trivial }

/-- A poll is counted, and the notification that was waiting meanwhile has the session proven. -/
theorem session_advances_notified :
    ∃ p : Pool (service .sample) SessionRequest ApiError Unit,
      Run (serve .sample) (anyOrder .sample) (fun s => s = oneSession) p ∧
        storedRecords waiting.sessionId waiting p.world.trace =
          [{ waiting.incrementStatusChecks with state := .proofOk },
            waiting.incrementStatusChecks, waiting] ∧
        (storedRecords waiting.sessionId waiting p.world.trace).IsChain
          (fun new old => old.Advances new) := by
  have hrun : ∃ p : Pool (service .sample) SessionRequest ApiError Unit,
      Run (serve .sample) (anyOrder .sample) (fun s => s = oneSession) p ∧
        storedRecords waiting.sessionId waiting p.world.trace =
          [{ waiting.incrementStatusChecks with state := .proofOk },
            waiting.incrementStatusChecks, waiting] ∧
        undisturbed waiting.sessionId p.world.trace = true :=
    Run.of_replay oneSession pollThenNotification rfl (by decide +kernel)
  obtain ⟨p, hr, hstored, hu⟩ := hrun
  refine ⟨p, hr, hstored, ?_⟩
  exact ((session_advances .sample oneSession waiting.sessionId waiting p keyed_oneSession rfl hr).2
    (undisturbed_of_check hu)).1

/-- A notification between the poll's read and its write is undone: the session goes from
`proofOk` back to `pending`. -/
theorem poll_undoes_proof :
    ∃ p : Pool (service .sample) SessionRequest ApiError Unit,
      Run (serve .sample) (anyOrder .sample) (fun s => s = oneSession) p ∧
        storedRecords waiting.sessionId waiting p.world.trace =
          [waiting.incrementStatusChecks, { waiting with state := .proofOk }, waiting] ∧
        ¬ (storedRecords waiting.sessionId waiting p.world.trace).IsChain
          (fun new old => old.Advances new) := by
  have hrun : ∃ p : Pool (service .sample) SessionRequest ApiError Unit,
      Run (serve .sample) (anyOrder .sample) (fun s => s = oneSession) p ∧
        storedRecords waiting.sessionId waiting p.world.trace =
          [waiting.incrementStatusChecks, { waiting with state := .proofOk }, waiting] :=
    Run.of_replay oneSession pollAround rfl (by decide +kernel)
  obtain ⟨p, hr, hstored⟩ := hrun
  refine ⟨p, hr, hstored, fun hchain => ?_⟩
  rw [hstored] at hchain
  have hadv := (List.isChain_cons_cons.mp hchain).1
  rcases hadv.state with hsame | hedge
  · cases hsame
  · cases hedge

end SessionRecord

end ProviiVerifier

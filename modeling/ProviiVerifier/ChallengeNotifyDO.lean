/-
  `hosted/durable_objects/challenge_notify_do.rs`: the object of a session that pushes its status to
  the WebSockets of the browser.

  A connection stays in the list of the object after its close was sent, until the client has left.
  Sending on it then fails, and the failure is ignored. The alarm is set when none is pending; when
  it fires it is pending no longer. Times are in milliseconds.

  Proved: over any order of requests, messages, alarms and disconnects, a connection is told the
  first status that the object accepts while it is open, and nothing after it; until then it is sent
  one answer to each of its pings, and nothing else. While it is open, an alarm is due within five
  minutes of an upgrade that was answered (`connection_told`).
-/
import Mathlib.Data.List.Basic
import Mathlib.Data.List.Infix
import ProviiVerifier.Interleaving.System

namespace ProviiVerifier

namespace ChallengeNotifyDO

open Interleaving

/-! ## Statuses -/

/-- `SUCCESS_STATES`. -/
def successStates : List String := ["proof_ok_waiting_for_redeem", "verified"]

/-- `FAILURE_STATES`. -/
def failureStates : List String := ["pending", "failed", "expired"]

/-- `SESSION_TTL_MS`. -/
def sessionTtlMs : Nat := 300000

/-- A status that a notification may name. -/
def isKnownState (state : String) : Bool :=
  successStates.contains state || failureStates.contains state

/-- The message to the browser. -/
def statusMessage (state : String) : String :=
  "\x7b\"type\":\"status_change\",\"status\":\"" ++ state ++ "\",\"proof_verified\":" ++
    (if successStates.contains state then "true" else "false") ++ "\x7d"

/-! ## Connections -/

/-- A connection is open, has been closed by the object, or the client has left. -/
inductive Phase
  | opened
  | closing
  | gone
  deriving DecidableEq, Repr

/-- A connection with what it was sent, newest first. -/
structure Conn where
  phase : Phase
  frames : List String
  deriving DecidableEq, Repr

namespace Conn

/-- `send_with_str`; it fails on a connection that is not open. -/
def send (c : Conn) (text : String) : Conn :=
  if c.phase = .opened then { c with frames := text :: c.frames } else c

/-- `close`. -/
def close (c : Conn) : Conn := if c.phase = .opened then { c with phase := .closing } else c

/-- The client leaves. -/
def leave (c : Conn) : Conn := { c with phase := .gone }

/-- The send and the close of a notification. -/
def notify (message : String) (c : Conn) : Conn := (c.send message).close

/-- `websocket_message`; binary messages have no text. -/
def receive (text : Option String) (c : Conn) : Conn :=
  if text = some "ping" then c.send "pong" else c

end Conn

/-! ## The object -/

/-- The object: its connections, oldest first, its alarm and the clock. -/
structure Hub where
  conns : List Conn
  alarm : Option Nat
  clock : Nat
  deriving DecidableEq, Repr

/-- How the operations of an upgrade go. -/
structure Faults where
  pair : Bool
  getAlarm : Bool
  setAlarm : Bool

/-- A request to the object. The body of a notification may be no JSON, and its `state` absent or
no string. -/
inductive Request
  | ws (f : Faults)
  | notify (body : Option (Option String))
  | other

/-- What a request is answered. -/
inductive Reply
  | websocket
  | error (text : String) (code : Nat)
  | notified (count : Nat) (status : String)
  deriving DecidableEq

namespace Hub

/-- `get_websockets`. -/
def getWebsockets (h : Hub) : List Conn := h.conns.filter fun c => c.phase ≠ .gone

/-- `ensure_alarm_scheduled`; whether the storage answered, and the object after it. -/
def ensureAlarmScheduled (h : Hub) (f : Faults) : Bool × Hub :=
  if f.getAlarm then
    match h.alarm with
    | some _ => (true, h)
    | none =>
      if f.setAlarm then (true, { h with alarm := some (h.clock + sessionTtlMs) })
      else (false, h)
  else (false, h)

/-- `handle_ws_upgrade`; `none` is a handler that failed. -/
def handleWsUpgrade (h : Hub) (f : Faults) : Option Reply × Hub :=
  if f.pair then
    let (scheduled, h') :=
      { h with conns := h.conns ++ [⟨.opened, []⟩] : Hub }.ensureAlarmScheduled f
    (if scheduled then some .websocket else none, h')
  else (none, h)

/-- `handle_notify`. -/
def handleNotify (h : Hub) : Option (Option String) → Option Reply × Hub
  | none => (none, h)
  | some none => (some (.error "Missing required 'state' field" 400), h)
  | some (some state) =>
    if isKnownState state then
      let count := h.getWebsockets.length
      if count = 0 then (some (.notified 0 "no_connections"), h)
      else
        (some (.notified count "delivered"),
          { h with conns := h.conns.map (Conn.notify (statusMessage state)) })
    else (some (.error "Unknown state value" 400), h)

/-- `fetch`. -/
def fetch (h : Hub) : Request → Option Reply × Hub
  | .ws f => h.handleWsUpgrade f
  | .notify body => h.handleNotify body
  | .other => (some (.error "Not Found" 404), h)

/-- `alarm`. -/
def fireAlarm (h : Hub) : Hub := { h with conns := h.conns.map Conn.close, alarm := none }

/-- One connection changes. -/
def modify (h : Hub) (k : Nat) (f : Conn → Conn) : Hub := { h with conns := h.conns.modify k f }

end Hub

/-! ## Runs -/

/-- What happens to the object. -/
inductive Event
  | fetch (req : Request)
  | message (k : Nat) (text : Option String)
  | disconnect (k : Nat)
  | alarm
  | tick (ms : Nat)

/-- The object after an event. -/
def step (h : Hub) : Event → Hub
  | .fetch req => (h.fetch req).2
  | .message k text => h.modify k (Conn.receive text)
  | .disconnect k => h.modify k Conn.leave
  | .alarm => h.fireAlarm
  | .tick ms => { h with clock := h.clock + ms }

/-- An alarm fires when it is pending and due. -/
def Due (h : Hub) : Event → Prop
  | .alarm => ∃ t, h.alarm = some t ∧ t ≤ h.clock
  | _ => True

/-- The object as a system; it starts without connections. -/
def hub : System Hub Event :=
  { init := fun h => h.conns = [] ∧ h.alarm = none
    next := step
    allowed := Due }

/-- The status a connection is told by what happens after its upgrade: the first one accepted,
unless the client leaves or the alarm closes the connection before. -/
def verdict (k : Nat) : List Event → Option String
  | [] => none
  | .fetch (.notify (some (some state))) :: es =>
    if isKnownState state then some state else verdict k es
  | .disconnect j :: es => if j = k then none else verdict k es
  | .alarm :: _ => none
  | _ :: es => verdict k es

/-- How many pings a connection sends before it is told a status, its client leaves or the alarm
closes it. -/
def pings (k : Nat) : List Event → Nat
  | [] => 0
  | .fetch (.notify (some (some state))) :: es => if isKnownState state then 0 else pings k es
  | .message j text :: es => if j = k ∧ text = some "ping" then pings k es + 1 else pings k es
  | .disconnect j :: es => if j = k then 0 else pings k es
  | .alarm :: _ => 0
  | _ :: es => pings k es

/-! ## One connection -/

/-- What an event does to connection `k`. -/
def effect (k : Nat) (c : Conn) : Event → Conn
  | .fetch (.notify (some (some state))) =>
    if isKnownState state then c.notify (statusMessage state) else c
  | .message j text => if j = k then c.receive text else c
  | .disconnect j => if j = k then c.leave else c
  | .alarm => c.close
  | _ => c

section Conn

variable {h : Hub} {k : Nat} {c : Conn} {e : Event}

theorem Conn.close_of_ne (hc : c.phase ≠ .opened) : c.close = c := if_neg hc

theorem Conn.send_of_ne (hc : c.phase ≠ .opened) (text : String) : c.send text = c := if_neg hc

/-- A connection of a client that has left is not listed; its notification would change nothing. -/
theorem Conn.notify_of_ne (hc : c.phase ≠ .opened) (message : String) : c.notify message = c := by
  unfold Conn.notify
  rw [c.send_of_ne hc, c.close_of_ne hc]

theorem map_notify_of_none (hnone : h.getWebsockets.length = 0) (message : String) :
    h.conns.map (Conn.notify message) = h.conns := by
  have hgone : ∀ c ∈ h.conns, c.phase = .gone := by
    intro c hc
    by_contra hne
    have hlisted : c ∈ h.getWebsockets := List.mem_filter.mpr ⟨hc, decide_eq_true hne⟩
    rw [List.length_eq_zero_iff.mp hnone] at hlisted
    cases hlisted
  refine (List.map_congr_left fun c hc => ?_).trans (List.map_id _)
  exact Conn.notify_of_ne (by rw [hgone c hc]; exact nofun) message

/-- The connections after a status was accepted. -/
theorem handleNotify_conns {state : String} (hknown : isKnownState state = true) :
    (h.handleNotify (some (some state))).2.conns =
      h.conns.map (Conn.notify (statusMessage state)) := by
  unfold Hub.handleNotify
  dsimp only
  rw [if_pos hknown]
  split
  · next hnone => exact (map_notify_of_none hnone _).symm
  · rfl

theorem handleWsUpgrade_conns {f : Faults} : (h.handleWsUpgrade f).2.conns =
    if f.pair then h.conns ++ [⟨.opened, []⟩] else h.conns := by
  unfold Hub.handleWsUpgrade Hub.ensureAlarmScheduled
  cases f.pair with
  | false => rfl
  | true =>
    dsimp only
    rw [if_pos rfl, if_pos rfl]
    cases f.getAlarm with
    | false => rfl
    | true =>
      cases h.alarm with
      | some t => rfl
      | none => cases f.setAlarm <;> rfl

/-- **A step** changes a connection by its effect. -/
theorem step_conn (hc : h.conns[k]? = some c) : (step h e).conns[k]? = some (effect k c e) := by
  cases e with
  | fetch req =>
    cases req with
    | ws f =>
      have hlt : k < h.conns.length := (List.getElem?_eq_some_iff.mp hc).1
      have hconns : (step h (.fetch (.ws f))).conns = _ := handleWsUpgrade_conns
      rw [hconns]
      split
      · rw [List.getElem?_append_left hlt]
        exact hc
      · exact hc
    | notify body =>
      rcases body with _ | _ | state
      · exact hc
      · exact hc
      · have heffect : effect k c (.fetch (.notify (some (some state)))) =
            if isKnownState state then c.notify (statusMessage state) else c := rfl
        rw [heffect]
        split
        · next hknown =>
          have hconns : (step h (.fetch (.notify (some (some state))))).conns = _ :=
            handleNotify_conns hknown
          rw [hconns, List.getElem?_map, hc]
          rfl
        · next hunknown =>
          have hsame : h.handleNotify (some (some state)) =
              (some (.error "Unknown state value" 400), h) := if_neg hunknown
          have hconns : (step h (.fetch (.notify (some (some state))))).conns =
              (h.handleNotify (some (some state))).2.conns := rfl
          rw [hconns, hsame]
          exact hc
    | other => exact hc
  | message j text =>
    have hconns : (step h (.message j text)).conns = h.conns.modify j (Conn.receive text) := rfl
    have heffect : effect k c (.message j text) = if j = k then c.receive text else c := rfl
    rw [hconns, List.getElem?_modify, hc, heffect]
    split <;> rfl
  | disconnect j =>
    have hconns : (step h (.disconnect j)).conns = h.conns.modify j Conn.leave := rfl
    have heffect : effect k c (.disconnect j) = if j = k then c.leave else c := rfl
    rw [hconns, List.getElem?_modify, hc, heffect]
    split <;> rfl
  | alarm =>
    have hconns : (step h .alarm).conns = h.conns.map Conn.close := rfl
    rw [hconns, List.getElem?_map, hc]
    rfl
  | tick ms => exact hc

/-- **A run** changes a connection by the effects of its events. -/
theorem run_conn {es : List Event} (hc : h.conns[k]? = some c) :
    (hub.run h es).conns[k]? = some (es.foldl (effect k) c) := by
  induction es generalizing h c with
  | nil => exact hc
  | cons e es ih => exact ih (step_conn hc)

/-- A connection that is not open is sent nothing and opens no more. -/
theorem effect_of_ne (hc : c.phase ≠ .opened) :
    (effect k c e).frames = c.frames ∧ (effect k c e).phase ≠ .opened := by
  unfold effect
  split
  · split
    · rw [c.notify_of_ne hc]
      exact ⟨rfl, hc⟩
    · exact ⟨rfl, hc⟩
  · split
    · unfold Conn.receive
      split
      · rw [c.send_of_ne hc]
        exact ⟨rfl, hc⟩
      · exact ⟨rfl, hc⟩
    · exact ⟨rfl, hc⟩
  · split
    · exact ⟨rfl, nofun⟩
    · exact ⟨rfl, hc⟩
  · rw [c.close_of_ne hc]
    exact ⟨rfl, hc⟩
  · exact ⟨rfl, hc⟩

theorem effects_of_ne (es : List Event) (hc : c.phase ≠ .opened) :
    (es.foldl (effect k) c).frames = c.frames ∧ (es.foldl (effect k) c).phase ≠ .opened := by
  induction es generalizing c with
  | nil => exact ⟨rfl, hc⟩
  | cons e es ih =>
    obtain ⟨hframes, hphase⟩ := effect_of_ne (k := k) (e := e) hc
    obtain ⟨hframes', hphase'⟩ := ih hphase
    exact ⟨hframes'.trans hframes, hphase'⟩

theorem Conn.notify_opened (hc : c.phase = .opened) (message : String) :
    c.notify message = ⟨.closing, message :: c.frames⟩ := by
  unfold Conn.notify Conn.send
  rw [if_pos hc]
  exact if_pos hc

/-- What an open connection is sent: an answer to each of its pings, and then the status of the
verdict. -/
def Sent (k : Nat) (es : List Event) (c : Conn) : Prop :=
  (es.foldl (effect k) c).frames = (verdict k es).toList.map statusMessage ++
      (List.replicate (pings k es) "pong" ++ c.frames) ∧
    ((es.foldl (effect k) c).phase = .opened → verdict k es = none)

/-- A connection that the event closes keeps the frames it has then. -/
theorem sent_closed {es : List Event} (hphase : (effect k c e).phase ≠ .opened)
    (hpings : pings k (e :: es) = 0)
    (hframes : (effect k c e).frames =
      (verdict k (e :: es)).toList.map statusMessage ++ c.frames) : Sent k (e :: es) c := by
  obtain ⟨hkept, hstill⟩ := effects_of_ne (k := k) es hphase
  refine ⟨?_, fun hopened => absurd hopened hstill⟩
  rw [List.foldl_cons, hkept, hframes, hpings]
  rfl

theorem sent_notify {es : List Event} (hc : c.phase = .opened) (state : String)
    (ih : Sent k es c) : Sent k (.fetch (.notify (some (some state))) :: es) c := by
  have heffect : effect k c (.fetch (.notify (some (some state)))) =
      if isKnownState state then c.notify (statusMessage state) else c := rfl
  have hverdict : verdict k (.fetch (.notify (some (some state))) :: es) =
      if isKnownState state then some state else verdict k es := rfl
  have hpings : pings k (.fetch (.notify (some (some state))) :: es) =
      if isKnownState state then 0 else pings k es := rfl
  by_cases hknown : isKnownState state = true
  · rw [if_pos hknown] at heffect hverdict hpings
    rw [c.notify_opened hc] at heffect
    refine sent_closed ?_ hpings ?_
    · rw [heffect]
      exact nofun
    · rw [heffect, hverdict]
      rfl
  · rw [if_neg hknown] at heffect hverdict hpings
    unfold Sent
    rw [List.foldl_cons, heffect, hverdict, hpings]
    exact ih

theorem sent_message {es : List Event} (hc : c.phase = .opened) (j : Nat) (text : Option String)
    (ih : ∀ c, c.phase = .opened → Sent k es c) : Sent k (.message j text :: es) c := by
  have heffect : effect k c (.message j text) = if j = k then c.receive text else c := rfl
  have hverdict : verdict k (.message j text :: es) = verdict k es := rfl
  have hpings : pings k (.message j text :: es) =
      if j = k ∧ text = some "ping" then pings k es + 1 else pings k es := rfl
  unfold Sent
  rw [List.foldl_cons, heffect, hverdict, hpings]
  by_cases hj : j = k
  · rw [if_pos hj, Conn.receive]
    by_cases hping : text = some "ping"
    · rw [if_pos hping, if_pos ⟨hj, hping⟩, Conn.send, if_pos hc, List.replicate_succ',
        List.append_assoc]
      exact ih _ hc
    · rw [if_neg hping, if_neg fun hboth => hping hboth.2]
      exact ih _ hc
  · rw [if_neg hj, if_neg fun hboth => hj hboth.1]
    exact ih _ hc

theorem sent_disconnect {es : List Event} (j : Nat) (ih : Sent k es c) :
    Sent k (.disconnect j :: es) c := by
  have heffect : effect k c (.disconnect j) = if j = k then c.leave else c := rfl
  have hverdict : verdict k (.disconnect j :: es) = if j = k then none else verdict k es := rfl
  have hpings : pings k (.disconnect j :: es) = if j = k then 0 else pings k es := rfl
  by_cases hj : j = k
  · rw [if_pos hj] at heffect hverdict hpings
    refine sent_closed ?_ hpings ?_
    · rw [heffect]
      exact nofun
    · rw [heffect, hverdict]
      rfl
  · rw [if_neg hj] at heffect hverdict hpings
    unfold Sent
    rw [List.foldl_cons, heffect, hverdict, hpings]
    exact ih

/-- **Every run** sends an open connection that. -/
theorem effects_opened (es : List Event) (hc : c.phase = .opened) : Sent k es c := by
  induction es generalizing c with
  | nil => exact ⟨rfl, fun _ => rfl⟩
  | cons e es ih =>
    cases e with
    | fetch req =>
      cases req with
      | ws f => exact ih hc
      | other => exact ih hc
      | notify body =>
        rcases body with _ | _ | state
        · exact ih hc
        · exact ih hc
        · exact sent_notify hc state (ih hc)
    | message j text => exact sent_message hc j text fun _ => ih
    | disconnect j => exact sent_disconnect j (ih hc)
    | alarm =>
      have heffect : effect k c .alarm = ⟨.closing, c.frames⟩ := if_pos hc
      refine sent_closed ?_ rfl ?_
      · rw [heffect]
        exact nofun
      · rw [heffect]
        rfl
    | tick ms => exact ih hc

/-- An open connection was open before the event, and the event was no alarm. -/
theorem opened_before (h : (effect k c e).phase = .opened) : c.phase = .opened ∧ e ≠ .alarm := by
  refine ⟨by_contra fun hne => (effect_of_ne hne).2 h, ?_⟩
  rintro rfl
  have hclose : effect k c .alarm = c.close := rfl
  rw [hclose, Conn.close] at h
  split at h
  · cases h
  · next hne => exact hne h

end Conn

/-! ## The alarm -/

section Alarm

variable {h h₀ : Hub} {e : Event} {f : Faults} {t : Nat}

/-- An upgrade sets an alarm where none is pending, when it can. -/
theorem ensureAlarmScheduled_alarm : (h.ensureAlarmScheduled f).2.alarm = h.alarm ∨
    (h.ensureAlarmScheduled f).2.alarm = some (h.clock + sessionTtlMs) ∧ h.alarm = none := by
  unfold Hub.ensureAlarmScheduled
  split
  · split
    · exact .inl rfl
    · next hnone =>
      split
      · exact .inr ⟨rfl, hnone⟩
      · exact .inl rfl
  · exact .inl rfl

theorem ensureAlarmScheduled_clock : (h.ensureAlarmScheduled f).2.clock = h.clock := by
  unfold Hub.ensureAlarmScheduled
  repeat' split
  all_goals rfl

/-- How a step changes the alarm. -/
theorem step_alarm (h : Hub) (e : Event) : (step h e).alarm = h.alarm ∨ e = .alarm ∨
    (step h e).alarm = some (h.clock + sessionTtlMs) ∧ h.alarm = none := by
  cases e with
  | fetch req =>
    cases req with
    | ws f =>
      unfold step Hub.fetch Hub.handleWsUpgrade
      dsimp only
      split
      · exact ensureAlarmScheduled_alarm.imp id .inr
      · exact .inl rfl
    | notify body =>
      unfold step Hub.fetch Hub.handleNotify
      dsimp only
      repeat' split
      all_goals exact .inl rfl
    | other => exact .inl rfl
  | message j text => exact .inl rfl
  | disconnect j => exact .inl rfl
  | alarm => exact .inr (.inl rfl)
  | tick ms => exact .inl rfl

theorem step_clock (h : Hub) (e : Event) : h.clock ≤ (step h e).clock := by
  cases e with
  | fetch req =>
    cases req with
    | ws f =>
      unfold step Hub.fetch Hub.handleWsUpgrade
      dsimp only
      split
      · rw [ensureAlarmScheduled_clock]
      · exact Nat.le_refl _
    | notify body =>
      unfold step Hub.fetch Hub.handleNotify
      dsimp only
      repeat' split
      all_goals exact Nat.le_refl _
    | other => exact Nat.le_refl _
  | message j text => exact Nat.le_refl _
  | disconnect j => exact Nat.le_refl _
  | alarm => exact Nat.le_refl _
  | tick ms => exact Nat.le_add_right _ _

/-- **A pending alarm** is due within the lifetime of a session. -/
theorem alarm_le (hr : hub.Reached h) (hpending : h.alarm = some t) :
    t ≤ h.clock + sessionTtlMs := by
  refine hr.invariant (I := fun h => ∀ t, h.alarm = some t → t ≤ h.clock + sessionTtlMs)
    ?_ ?_ t hpending
  · rintro h ⟨-, hnone⟩ t hsome
    rw [hnone] at hsome
    cases hsome
  · intro h e _ ih _ t hsome
    have hsome : (step h e).alarm = some t := hsome
    have hclock : h.clock ≤ (hub.next h e).clock := step_clock h e
    rcases step_alarm h e with hkept | rfl | ⟨hset, -⟩
    · have := ih t (hkept.symm.trans hsome)
      omega
    · cases hsome
    · rw [hset, Option.some.injEq] at hsome
      omega

/-- An upgrade that was answered leaves an alarm pending. -/
theorem upgrade_alarm (hanswered : (h.handleWsUpgrade f).1 = some .websocket) :
    ∃ t, (h.handleWsUpgrade f).2.alarm = some t ∧
      (h.alarm = some t ∨ t = h.clock + sessionTtlMs) := by
  unfold Hub.handleWsUpgrade Hub.ensureAlarmScheduled at *
  dsimp only at *
  cases hpair : f.pair with
  | false => simp [hpair] at hanswered
  | true =>
    cases hget : f.getAlarm with
    | false => simp [hpair, hget] at hanswered
    | true =>
      cases hpending : h.alarm with
      | some t => exact ⟨t, by simp, .inl rfl⟩
      | none =>
        cases hset : f.setAlarm with
        | false => simp [hpair, hget, hpending, hset] at hanswered
        | true => exact ⟨_, by simp, .inr rfl⟩

/-- While a connection stays open, the pending alarm stays. -/
theorem alarm_kept {k : Nat} {c : Conn} {es : List Event} (hc : h.conns[k]? = some c)
    (hpending : h.alarm = some t) (hopened : (es.foldl (effect k) c).phase = .opened) :
    (hub.run h es).alarm = some t := by
  induction es generalizing h c with
  | nil => exact hpending
  | cons e es ih =>
    have heffect : (effect k c e).phase = .opened := by
      by_contra hne
      exact (effects_of_ne es hne).2 hopened
    refine ih (step_conn hc) ?_ hopened
    rcases step_alarm h e with hkept | halarm | ⟨-, hnone⟩
    · exact hkept.trans hpending
    · exact absurd halarm (opened_before heffect).2
    · rw [hnone] at hpending
      cases hpending

end Alarm

/-! ## What a browser is told -/

/-- **A connection is told the first status** that is accepted after its upgrade, unless its client
leaves or the alarm closes it before; until then it is sent one answer to each of its own pings, and
after it nothing. While it is open, and its upgrade was answered, an alarm is due within the
lifetime of a session from the upgrade. -/
theorem connection_told {h₀ : Hub} (hinit : hub.init h₀) {es₁ es₂ : List Event} {f : Faults}
    (hpair : f.pair = true) (hpermits : hub.Permits h₀ (es₁ ++ .fetch (.ws f) :: es₂)) :
    ∃ c, (hub.run h₀ (es₁ ++ .fetch (.ws f) :: es₂)).conns[(hub.run h₀ es₁).conns.length]? =
        some c ∧
      c.frames = (verdict (hub.run h₀ es₁).conns.length es₂).toList.map statusMessage ++
        List.replicate (pings (hub.run h₀ es₁).conns.length es₂) "pong" ∧
      (c.phase = .opened → verdict (hub.run h₀ es₁).conns.length es₂ = none ∧
        (((hub.run h₀ es₁).fetch (.ws f)).1 = some .websocket →
          ∃ t, (hub.run h₀ (es₁ ++ .fetch (.ws f) :: es₂)).alarm = some t ∧
            t ≤ (hub.run h₀ es₁).clock + sessionTtlMs)) := by
  have hreached : hub.Reached (hub.run h₀ es₁) :=
    (System.Reached.init hinit).run (System.permits_append.mp hpermits).1
  rw [System.run_append]
  generalize hub.run h₀ es₁ = h at hreached
  have hrun : hub.run h (.fetch (.ws f) :: es₂) = hub.run (step h (.fetch (.ws f))) es₂ := rfl
  have hconns : (step h (.fetch (.ws f))).conns = h.conns ++ [⟨.opened, []⟩] :=
    handleWsUpgrade_conns.trans (if_pos hpair)
  have hnew : (step h (.fetch (.ws f))).conns[h.conns.length]? = some ⟨.opened, []⟩ := by
    rw [hconns]
    exact List.getElem?_concat_length
  obtain ⟨hframes, hverdict⟩ :=
    effects_opened (k := h.conns.length) (c := ⟨.opened, []⟩) es₂ rfl
  rw [List.append_nil] at hframes
  rw [hrun]
  refine ⟨_, run_conn hnew, hframes, fun hopened => ⟨hverdict hopened, fun hanswered => ?_⟩⟩
  obtain ⟨t, hpending, ht⟩ := upgrade_alarm hanswered
  refine ⟨t, alarm_kept hnew hpending hopened, ?_⟩
  rcases ht with hbefore | rfl
  · exact alarm_le hreached hbefore
  · exact Nat.le_refl _

/-! ## A browser -/

/-- An object without connections. -/
def sampleHub : Hub := ⟨[], none, 1000⟩

/-- What follows an upgrade: another one, a ping of each connection, the notification of a proof,
and then a late ping and a late notification. -/
def sampleEvents : List Event :=
  [.fetch (.ws ⟨true, true, true⟩), .message 0 (some "ping"), .message 1 (some "ping"),
    .fetch (.notify (some (some "proof_ok_waiting_for_redeem"))), .message 0 (some "ping"),
    .fetch (.notify (some (some "expired")))]

/-- The browser is answered its one ping and told of the proof, and of nothing else. -/
theorem connection_told_browser : ∃ c,
    (hub.run sampleHub (.fetch (.ws ⟨true, true, true⟩) :: sampleEvents)).conns[0]? = some c ∧
      c.frames = [statusMessage "proof_ok_waiting_for_redeem", "pong"] := by
  have hinit : hub.init sampleHub := ⟨rfl, rfl⟩
  have hpermits : hub.Permits sampleHub ([] ++ .fetch (.ws ⟨true, true, true⟩) :: sampleEvents) :=
    ⟨trivial, trivial, trivial, trivial, trivial, trivial, trivial, trivial⟩
  obtain ⟨c, hc, hframes, -⟩ := connection_told hinit rfl hpermits
  exact ⟨c, hc, hframes⟩

end ChallengeNotifyDO

end ProviiVerifier

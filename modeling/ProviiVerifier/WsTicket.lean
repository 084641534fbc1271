/-
  `hosted/endpoints/ws.rs`: the upgrade to a WebSocket, and its ticket.

  A ticket is an HMAC over the session and its expiry. An upgrade reads the session, then the
  marker `ws_ticket_used:{session}`, writes the marker, compares the origin and goes to the object
  of the session. Reads and writes of KV are steps of their own, and the marker is kept for five
  minutes.

  Proved: in every run in which an upgrade writes the marker only where it is still absent and none
  has ended, has the origin of its session when it does, and is then accepted by the object, one
  upgrade of a session is accepted at most, and none that is refused has written the marker
  (`ticket_single_use`). Two upgrades side by side are both accepted, and one from another origin
  uses the client's ticket up (`ticket_not_single_use`).
-/
import ProviiVerifier.Encoding.Base64Url
import ProviiVerifier.Ids
import ProviiVerifier.Interleaving.Pool
import ProviiVerifier.Retention.Expiring

namespace ProviiVerifier

namespace WsTicket

open Interleaving Prog

/-! ## The ticket -/

/-- `u32::to_le_bytes`. -/
def leBytes (n : Nat) : List UInt8 :=
  [UInt8.ofNat n, UInt8.ofNat (n / 2 ^ 8), UInt8.ofNat (n / 2 ^ 16), UInt8.ofNat (n / 2 ^ 24)]

/-- What an upgrade needs of the service: HMAC-SHA256, the Unicode tables and the cached
`SESSION_TOKEN_SECRET`. -/
structure Config where
  hmac : List UInt8 → List UInt8 → List UInt8
  uni : Unicode
  sessionTokenSecret : Option String

/-- What a ticket authenticates. -/
def ticketMessage (sessionId : String) (expiresAt : Nat) : List UInt8 :=
  utf8Bytes "provii-ws-ticket-v1" ++ leBytes (byteLen sessionId) ++ utf8Bytes sessionId ++
    utf8Bytes (toString expiresAt)

/-- `generate_ws_ticket`. -/
def generateWsTicket (cfg : Config) (sessionId : String) (expiresAt : Nat) (secret : String) :
    Option String :=
  if byteLen sessionId < 2 ^ 32 then
    some (String.ofList (Base64Url.encode
      (cfg.hmac (utf8Bytes secret) (ticketMessage sessionId expiresAt))))
  else none

/-- `validate_ws_ticket`. -/
def validateWsTicket (cfg : Config) (ticket sessionId : String) (expiresAt : Nat)
    (secret : String) : Option Bool :=
  (generateWsTicket cfg sessionId expiresAt secret).map fun expected => decide (expected = ticket)

/-! ## The upgrade -/

/-- What the upgrade reads of a session. -/
structure WsSession where
  origin : String
  expiresAt : Nat
  deriving DecidableEq

/-- The operations of an upgrade. -/
inductive WsOp
  | getSession (sessionId : String)
  | getMarker (key : String)
  | putMarker (key : String) (ttl : Nat)
  /-- The request to the object of the session. -/
  | connect (sessionId : String)
  deriving DecidableEq

abbrev WsRes : WsOp → Type
  | .getSession _ => Option (Option WsSession)
  | .getMarker _ => Option Bool
  | .putMarker _ _ => Bool
  | .connect _ => Bool

/-- A request for `GET /v1/hosted/ws/:session_id`. -/
structure WsRequest where
  secFetchDest : Option String
  upgrade : String
  origin : String
  sessionId : String
  ticket : Option String
  deriving DecidableEq

/-- `error_json`, or an error for the router. -/
inductive Refusal
  | json (message : String) (status : Nat)
  | worker
  deriving DecidableEq

abbrev WsHandler (α : Type) := Prog WsOp WsRes Refusal α

/-- `TICKET_CONSUMED_TTL`. -/
def ticketConsumedTtl : Nat := 300

/-- `format!("ws_ticket_used:{}", session_id)`. -/
def ticketKey (sessionId : String) : String := "ws_ticket_used:" ++ sessionId

/-- The gates on the headers and the session id. -/
def checkRequest (cfg : Config) (req : WsRequest) : Except Refusal Unit :=
  if req.secFetchDest.any fun dest =>
      cfg.uni.toLowercase dest ≠ "websocket" ∧ cfg.uni.toLowercase dest ≠ "empty" then
    .error (.json "Access denied" 403)
  else if cfg.uni.toLowercase req.upgrade ≠ "websocket" then
    .error (.json "Expected WebSocket upgrade" 426)
  else if (parseUuid req.sessionId).isNone then .error (.json "Invalid session_id format" 400)
  else .ok ()

/-- The gate on the ticket. -/
def checkTicket (cfg : Config) (req : WsRequest) (session : WsSession) : Except Refusal Unit :=
  match req.ticket with
  | none => .error (.json "Access denied" 403)
  | some ticket =>
    if ticket = "" then .error (.json "Access denied" 403)
    else
      match cfg.sessionTokenSecret with
      | none => .error (.json "Internal error" 500)
      | some secret =>
        match validateWsTicket cfg ticket req.sessionId session.expiresAt secret with
        | none => .error .worker
        | some valid => if valid then .ok () else .error (.json "Access denied" 403)

/-- The part of the upgrade from the marker on. -/
def consumeTicket (req : WsRequest) (session : WsSession) : WsHandler Unit :=
  .call (.getMarker (ticketKey req.sessionId)) fun
    | none => .fail (.json "Internal error" 500)
    | some true => .fail (.json "Access denied" 403)
    | some false =>
      .call (.putMarker (ticketKey req.sessionId) ticketConsumedTtl) fun
        | false => .fail (.json "Internal error" 500)
        | true =>
          if req.origin ≠ session.origin then .fail (.json "Origin mismatch" 403)
          else
            .call (.connect req.sessionId) fun
              | false => .fail .worker
              | true => .ret ()

/-- `handle_hosted_ws_upgrade`. -/
def handleHostedWsUpgrade (cfg : Config) (req : WsRequest) : WsHandler Unit :=
  match checkRequest cfg req with
  | .error e => .fail e
  | .ok () =>
    .call (.getSession req.sessionId) fun
      | none => .fail (.json "Internal error" 500)
      | some none => .fail (.json "Not found" 404)
      | some (some session) =>
        match checkTicket cfg req session with
        | .error e => .fail e
        | .ok () => consumeTicket req session

/-! ## The stores -/

/-- The clock in seconds, the sessions and the markers. -/
structure State where
  clock : Nat
  sessions : Expiring.Store String WsSession
  markers : Expiring.Store String Unit

/-- Steps no upgrade takes: time passes, a challenge request or an update stores a session. -/
inductive Env
  | tick (seconds : Nat)
  | putSession (sessionId : String) (session : WsSession) (ttl : Nat)

/-- Run an operation; the choice is whether it succeeds. -/
def perform (s : State) : (op : WsOp) → Bool → WsRes op × State
  | .getSession id, ok => (if ok then some (Expiring.get s.sessions s.clock id) else none, s)
  | .getMarker key, ok =>
    (if ok then some (Expiring.get s.markers s.clock key).isSome else none, s)
  | .putMarker key ttl, ok =>
    (ok, if ok then { s with markers := Expiring.put s.markers s.clock key () ttl } else s)
  | .connect _, ok => (ok, s)

def envStep (s : State) : Env → State
  | .tick seconds => { s with clock := s.clock + seconds }
  | .putSession id session ttl =>
    { s with sessions := Expiring.put s.sessions s.clock id session ttl }

def stores : Machine WsOp WsRes :=
  { State := State
    Choice := fun _ => Bool
    Env := Env
    perform := perform
    envStep := envStep }

/-! ## What a run has to keep to -/

/-- The request that wrote the marker at the key, and when. -/
def marking (key : String) : Event stores WsRequest → Option (Nat × Nat)
  | .call i s (.putMarker k ttl) ok =>
    if k = key ∧ (perform s (.putMarker k ttl) ok).1 = true then some (i, s.clock) else none
  | _ => none

/-- The request has the origin of the session it read. -/
def sameOrigin (tr : List (Event stores WsRequest)) (i : Nat) : Bool :=
  tr.all fun e =>
    match e with
    | .arrive j req =>
      j ≠ i || (own i tr).all fun x =>
        match x with
        | ⟨.getSession _, some (some session)⟩ => session.origin = req.origin
        | _ => true
    | _ => true

/-- The marker is absent as it is written, and none that was written has ended. -/
def Unmarked (w : World stores WsRequest) (key : String) : Prop :=
  Expiring.get w.state.markers w.state.clock key = none ∧
    ∀ m ∈ w.trace.filterMap (marking key), w.state.clock < m.2 + ticketConsumedTtl

/-- What the condition says of an operation. -/
def OrderlyStep (w : World stores WsRequest) (i : Nat) : WsOp → Bool → Prop
  | .putMarker key _, ok => ok = true → Unmarked w key ∧ sameOrigin w.trace i = true
  | .connect _, ok => ok = true
  | .getMarker _, _ => True
  | .getSession _, _ => True

/-- Upgrades arrive and interleave in any order. -/
def anyUpgrades : Rules stores WsRequest :=
  { arrive := fun _ _ _ => True
    call := fun _ _ _ _ => True
    env := fun _ _ => True }

/-- Upgrades that keep to the condition. -/
def orderlyUpgrades : Rules stores WsRequest :=
  { anyUpgrades with call := fun w i op ok => OrderlyStep w i op ok }

instance : DecidableRules anyUpgrades :=
  { arrive := fun _ _ _ => .isTrue trivial
    call := fun _ _ _ _ => .isTrue trivial
    env := fun _ _ => .isTrue trivial }

instance (w : World stores WsRequest) (key : String) : Decidable (Unmarked w key) :=
  inferInstanceAs (Decidable (_ ∧ _))

instance decidableOrderlyStep (w : World stores WsRequest) (i : Nat) :
    (op : WsOp) → (ok : Bool) → Decidable (OrderlyStep w i op ok)
  | .putMarker key _, ok =>
    inferInstanceAs (Decidable (ok = true → Unmarked w key ∧ sameOrigin w.trace i = true))
  | .connect _, ok => inferInstanceAs (Decidable (ok = true))
  | .getMarker _, _ => .isTrue trivial
  | .getSession _, _ => .isTrue trivial

instance : DecidableRules orderlyUpgrades :=
  { arrive := fun _ _ _ => .isTrue trivial
    call := fun w i op ok => decidableOrderlyStep w i op ok
    env := fun _ _ => .isTrue trivial }

/-! ## Along one upgrade -/

/-- The answers before an upgrade asks for the marker. -/
def Asked (cfg : Config) (req : WsRequest) (session : WsSession) : History WsOp WsRes → Prop :=
  fun h => h = [⟨.getSession req.sessionId, some (some session)⟩] ∧
    checkTicket cfg req session = .ok ()

/-- The answers before an upgrade writes the marker. -/
def Unused (cfg : Config) (req : WsRequest) (session : WsSession) (h : History WsOp WsRes) :
    Prop :=
  ∃ h', Asked cfg req session h' ∧ h = ⟨.getMarker (ticketKey req.sessionId), some false⟩ :: h'

/-- What an upgrade has done where it writes the marker. -/
def UpgradeGuard (cfg : Config) (req : WsRequest) (h : History WsOp WsRes) : WsOp → Prop
  | .putMarker key ttl =>
    key = ticketKey req.sessionId ∧ ttl = ticketConsumedTtl ∧ ∃ session, Unused cfg req session h
  | _ => True

/-- What an upgrade has done when it is over. -/
def UpgradePost (cfg : Config) (req : WsRequest) (h : History WsOp WsRes) :
    Except Refusal Unit → Prop
  | .ok () => ∃ session past, Unused cfg req session past ∧
      ⟨.putMarker (ticketKey req.sessionId) ticketConsumedTtl, true⟩ :: past <:+ h
  | .error _ => (∀ key ttl, ⟨.putMarker key ttl, true⟩ ∉ h) ∨
      (∃ session past, Unused cfg req session past ∧ req.origin ≠ session.origin ∧
        ⟨.putMarker (ticketKey req.sessionId) ticketConsumedTtl, true⟩ :: past <:+ h) ∨
      ∃ id, ⟨.connect id, false⟩ ∈ h

theorem not_written_of_unused {cfg : Config} {req : WsRequest} {session : WsSession}
    {h : History WsOp WsRes} (hu : Unused cfg req session h) (key : String) (ttl : Nat) (r : Bool) :
    ⟨.putMarker key ttl, r⟩ ∉ h := by
  obtain ⟨h', ⟨rfl, -⟩, rfl⟩ := hu
  simp

theorem consumeTicket_guarded {cfg : Config} {req : WsRequest} {session : WsSession}
    {h : History WsOp WsRes} (hask : Asked cfg req session h) :
    (consumeTicket req session).Guarded (UpgradeGuard cfg req) (UpgradePost cfg req) h := by
  have hnone : ∀ r : Option Bool, ∀ key ttl,
      ⟨.putMarker key ttl, true⟩ ∉ ⟨.getMarker (ticketKey req.sessionId), r⟩ :: h := by
    obtain ⟨rfl, -⟩ := hask
    simp
  refine ⟨trivial, fun used => ?_⟩
  obtain _ | _ | _ := used
  · exact .inl (hnone none)
  · have hunused : Unused cfg req session
        (⟨.getMarker (ticketKey req.sessionId), some false⟩ :: h) := ⟨h, hask, rfl⟩
    refine ⟨⟨rfl, rfl, session, hunused⟩, fun written => ?_⟩
    cases written with
    | false =>
      refine .inl fun key ttl hm => ?_
      obtain hm | hm := List.mem_cons.mp hm
      · simp at hm
      · exact not_written_of_unused hunused key ttl true hm
    | true =>
      dsimp only
      split
      · next horigin => exact .inr (.inl ⟨session, _, hunused, horigin, List.suffix_rfl⟩)
      · refine ⟨trivial, fun connected => ?_⟩
        cases connected with
        | false => exact .inr (.inr ⟨req.sessionId, List.mem_cons_self⟩)
        | true => exact ⟨session, _, hunused, List.suffix_cons _ _⟩
  · exact .inl (hnone (some true))

/-- What one upgrade does, whatever it is answered. -/
theorem handleHostedWsUpgrade_guarded (cfg : Config) (req : WsRequest) :
    (handleHostedWsUpgrade cfg req).Guarded (UpgradeGuard cfg req) (UpgradePost cfg req) [] := by
  unfold handleHostedWsUpgrade
  split
  · exact .inl (by simp)
  · refine ⟨trivial, fun found => ?_⟩
    obtain _ | _ | session := found
    · exact .inl (by simp)
    · exact .inl (by simp)
    · dsimp only
      split
      · exact .inl (by simp)
      · next hticket => exact consumeTicket_guarded ⟨rfl, hticket⟩

/-! ## Over a run -/

/-- The markers and who wrote them. -/
structure Marked (w : World stores WsRequest) (key : String) : Prop where
  once : (w.trace.filterMap (marking key)).length ≤ 1
  kept : ∀ m ∈ w.trace.filterMap (marking key), ∃ e, w.state.markers key = some e ∧
    e.ends = m.2 + ticketConsumedTtl

/-- One key, one mark. -/
theorem Marked.unique {w : World stores WsRequest} {key : String} (hw : Marked w key)
    {m m' : Nat × Nat} (hm : m ∈ w.trace.filterMap (marking key))
    (hm' : m' ∈ w.trace.filterMap (marking key)) : m = m' := by
  have honce := hw.once
  generalize w.trace.filterMap (marking key) = ms at hm hm' honce
  match ms, honce with
  | [x], _ =>
    rw [List.mem_singleton] at hm hm'
    rw [hm, hm']

theorem marking_put {key : String} {i : Nat} {s : State} {ttl : Nat} :
    marking key (.call i s (.putMarker key ttl) true : Event stores WsRequest) =
      some (i, s.clock) := by
  simp [marking, perform]

/-- An unmarked key has not been written. -/
theorem Marked.none_of_unmarked {w : World stores WsRequest} {key : String} (hw : Marked w key)
    (hun : Unmarked w key) : w.trace.filterMap (marking key) = [] := by
  refine List.eq_nil_iff_forall_not_mem.mpr fun m hm => ?_
  obtain ⟨e, he, hends⟩ := hw.kept m hm
  have hlive := hun.2 m hm
  have hget : Expiring.get w.state.markers w.state.clock key = some e.value :=
    Expiring.get_eq_some.mpr ⟨e.ends, he, by omega⟩
  rw [hun.1] at hget
  cases hget

theorem marking_ne {key k : String} (hk : k ≠ key) {i : Nat} {s : State} {ttl : Nat} {ok : Bool} :
    marking key (.call i s (.putMarker k ttl) ok : Event stores WsRequest) = none := by
  simp [marking, hk]

/-- **One step**: an operation within the condition keeps a marker for one upgrade. -/
theorem Marked.call {cfg : Config} {w : World stores WsRequest} {key : String} (hw : Marked w key)
    {i : Nat} {req : WsRequest} {op : WsOp} {ok : Bool}
    (hG : UpgradeGuard cfg req (own i w.trace) op) (hR : OrderlyStep w i op ok) :
    Marked (w.after i op (ok : stores.Choice op)) key := by
  have hsame : ∀ o : WsOp, ∀ c : stores.Choice o, marking key (.call i w.state o c) = none →
      (stores.perform w.state o c).2.markers key = w.state.markers key →
      Marked (w.after i o c) key := by
    intro o c hmark hstore
    have htrace : (w.after i o c).trace.filterMap (marking key) =
        w.trace.filterMap (marking key) := by
      rw [World.after_trace, List.filterMap_cons_none hmark]
    constructor
    · rw [htrace]
      exact hw.once
    · intro m hm
      rw [htrace] at hm
      rw [World.after_state, hstore]
      exact hw.kept m hm
  cases op with
  | getSession id => exact hsame (.getSession id) ok rfl rfl
  | getMarker k => exact hsame (.getMarker k) ok rfl rfl
  | connect id => exact hsame (.connect id) ok rfl rfl
  | putMarker k ttl =>
    obtain ⟨-, rfl, -⟩ := hG
    by_cases hk : k = key
    · subst hk
      cases ok with
      | false => exact hsame (.putMarker k ticketConsumedTtl) false (by simp [marking, perform]) rfl
      | true =>
        have hnone := hw.none_of_unmarked (hR rfl).1
        have htrace : (w.after i (.putMarker k ticketConsumedTtl)
            (true : stores.Choice (.putMarker k ticketConsumedTtl))).trace.filterMap (marking k) =
              [(i, w.state.clock)] := by
          exact (List.filterMap_cons_some marking_put).trans (by rw [hnone])
        constructor
        · rw [htrace]
          exact le_rfl
        · intro m hm
          rw [htrace, List.mem_singleton] at hm
          subst hm
          exact ⟨⟨(), w.state.clock + ticketConsumedTtl⟩, Expiring.put_self, rfl⟩
    · refine hsame (.putMarker k ticketConsumedTtl) ok (marking_ne hk) ?_
      cases ok with
      | false => rfl
      | true => exact Expiring.put_ne (Ne.symm hk)

variable {cfg : Config} {p : Pool stores WsRequest Refusal Unit}

/-- **A whole run**: a key has a marker of one upgrade at most. -/
theorem run_marked (hr : Run (handleHostedWsUpgrade cfg) orderlyUpgrades (fun _ => True) p)
    (key : String) : Marked p.world key := by
  refine Run.invariant (I := fun w => Marked w key) (handleHostedWsUpgrade_guarded cfg)
    ?_ ?_ ?_ ?_ hr
  · intro s _
    exact ⟨Nat.zero_le 1, fun m hm => by cases hm⟩
  · intro w i req _ hw _
    exact ⟨hw.once, hw.kept⟩
  · intro w i op c req _ hw _ hG hR
    exact hw.call hG hR
  · intro w e _ hw _
    cases e with
    | tick seconds => exact ⟨hw.once, hw.kept⟩
    | putSession id session ttl => exact ⟨hw.once, hw.kept⟩

/-! ## What a ticket authenticates -/

theorem leBytes_injective {n m : Nat} (hn : n < 2 ^ 32) (hm : m < 2 ^ 32)
    (h : leBytes n = leBytes m) : n = m := by
  simp only [leBytes, List.cons.injEq, and_true, ← UInt8.toNat_inj, UInt8.toNat_ofNat'] at h
  omega

/-- The messages of two sessions differ. -/
theorem ticketMessage_session {sid sid' : String} {e e' : Nat} (hs : byteLen sid < 2 ^ 32)
    (hs' : byteLen sid' < 2 ^ 32) (h : ticketMessage sid e = ticketMessage sid' e') :
    sid = sid' := by
  simp only [ticketMessage, List.append_assoc] at h
  have h := List.append_cancel_left h
  obtain ⟨hlen, hrest⟩ := List.append_inj h rfl
  have hlen : byteLen sid = byteLen sid' := leBytes_injective hs hs' hlen
  exact utf8Bytes_injective (List.append_inj hrest hlen).1

/-- Two sessions have a ticket in common: their messages differ, their MACs do not. -/
def Collide (cfg : Config) (sid sid' : String) : Prop :=
  sid ≠ sid' ∧ ∃ secret e e', ticketMessage sid e ≠ ticketMessage sid' e' ∧
    cfg.hmac (utf8Bytes secret) (ticketMessage sid e) =
      cfg.hmac (utf8Bytes secret) (ticketMessage sid' e')

theorem generateWsTicket_some {sid ticket secret : String} {e : Nat}
    (h : generateWsTicket cfg sid e secret = some ticket) : byteLen sid < 2 ^ 32 ∧
      Base64Url.decode ticket.toList =
        some (cfg.hmac (utf8Bytes secret) (ticketMessage sid e)) := by
  unfold generateWsTicket at h
  split at h
  · next hlen =>
    cases h
    refine ⟨hlen, ?_⟩
    rw [String.toList_ofList]
    exact Base64Url.decode_encode _
  · cases h

theorem checkTicket_ok {req : WsRequest} {session : WsSession}
    (h : checkTicket cfg req session = .ok ()) : ∃ ticket secret, req.ticket = some ticket ∧
      cfg.sessionTokenSecret = some secret ∧
      generateWsTicket cfg req.sessionId session.expiresAt secret = some ticket := by
  simp only [checkTicket] at h
  split at h
  · cases h
  · next ticket hticket =>
    split at h
    · cases h
    · split at h
      · cases h
      · next secret hsecret =>
        split at h
        · cases h
        · next valid hvalid =>
          split at h
          · next hv =>
            obtain ⟨expected, hexp, rfl⟩ := Option.map_eq_some_iff.mp hvalid
            refine ⟨ticket, secret, hticket, hsecret, ?_⟩
            rw [hexp, of_decide_eq_true hv]
          · cases h

/-- One ticket is for one session, unless MACs collide. -/
theorem ticket_session {req req' : WsRequest} {session session' : WsSession}
    (h : checkTicket cfg req session = .ok ()) (h' : checkTicket cfg req' session' = .ok ())
    (hticket : req.ticket = req'.ticket) :
    req.sessionId = req'.sessionId ∨ Collide cfg req.sessionId req'.sessionId := by
  obtain ⟨ticket, secret, ht, hsecret, hgen⟩ := checkTicket_ok h
  obtain ⟨ticket', secret', ht', hsecret', hgen'⟩ := checkTicket_ok h'
  rw [ht, ht', Option.some.injEq] at hticket
  rw [hsecret, Option.some.injEq] at hsecret'
  subst hticket hsecret'
  obtain ⟨hlen, hdec⟩ := generateWsTicket_some hgen
  obtain ⟨hlen', hdec'⟩ := generateWsTicket_some hgen'
  rw [hdec, Option.some.injEq] at hdec'
  by_cases hsid : req.sessionId = req'.sessionId
  · exact .inl hsid
  · refine .inr ⟨hsid, secret, session.expiresAt, session'.expiresAt, ?_, hdec'⟩
    intro hmsg
    exact hsid (ticketMessage_session hlen hlen' hmsg)

/-! ## Single use -/

/-- The upgrade wrote a marker. -/
def Consumed (p : Pool stores WsRequest Refusal Unit) (i : Nat) : Prop :=
  ∃ key ttl, ⟨.putMarker key ttl, true⟩ ∈ own i p.world.trace

/-- Of the upgrades with one ticket, or for one session, one is accepted, and none that is refused
has consumed the ticket. -/
def SingleUse (cfg : Config) (p : Pool stores WsRequest Refusal Unit) : Prop :=
  (∀ i j req req', .arrive i req ∈ p.world.trace → .arrive j req' ∈ p.world.trace →
    p.outcome i = some (.ok ()) → p.outcome j = some (.ok ()) →
    req.ticket = req'.ticket ∨ req.sessionId = req'.sessionId →
    i = j ∨ Collide cfg req.sessionId req'.sessionId) ∧
  ∀ i e, p.outcome i = some (.error e) → ¬ Consumed p i

/-- An accepted upgrade has written the marker of its session. -/
theorem accepted_marking (hr : Run (handleHostedWsUpgrade cfg) orderlyUpgrades (fun _ => True) p)
    {i : Nat} {req : WsRequest} (harr : .arrive i req ∈ p.world.trace)
    (hout : p.outcome i = some (.ok ())) :
    (∃ session, checkTicket cfg req session = .ok ()) ∧
      ∃ t, (i, t) ∈ p.world.trace.filterMap (marking (ticketKey req.sessionId)) := by
  obtain ⟨req', harr', session, past, ⟨h', ⟨-, hticket⟩, -⟩, hput⟩ :=
    hr.outcome (handleHostedWsUpgrade_guarded cfg) hout
  obtain rfl := hr.arrive_unique harr harr'
  obtain ⟨s, c, hcall, hres⟩ := mem_own.mp (hput.subset List.mem_cons_self)
  refine ⟨⟨session, hticket⟩, s.clock, List.mem_filterMap.mpr ⟨_, hcall, ?_⟩⟩
  exact if_pos ⟨rfl, hres⟩

/-- A refused upgrade has written no marker. -/
theorem refused_not_consumed
    (hr : Run (handleHostedWsUpgrade cfg) orderlyUpgrades (fun _ => True) p) {i : Nat} {e : Refusal}
    (hout : p.outcome i = some (.error e)) : ¬ Consumed p i := by
  rintro ⟨key, ttl, hput⟩
  obtain ⟨req, harr, hpost⟩ := hr.outcome (handleHostedWsUpgrade_guarded cfg) hout
  rcases hpost with hnone | ⟨session, past, ⟨h', ⟨rfl, -⟩, rfl⟩, horigin, hsuf⟩ | ⟨id, hconn⟩
  · exact hnone key ttl hput
  · obtain ⟨new, s, op, c, old, htrace, hx, hold⟩ := own_suffix hsuf
    injection hx with hop hres
    subst hop
    obtain ⟨-, hR, req', harr', -⟩ := hr.call_event (handleHostedWsUpgrade_guarded cfg) htrace
    have harr'' : .arrive i req' ∈ p.world.trace := by
      rw [htrace]
      exact List.mem_append_right _ (List.mem_cons_of_mem _ harr')
    obtain rfl := hr.arrive_unique harr harr''
    have hok : c = true := (eq_of_heq hres).symm
    have hsame := List.all_eq_true.mp (hR hok).2 _ harr'
    simp [hold, Ne.symm horigin] at hsame
  · obtain ⟨s, c, hcall, hres⟩ := mem_own.mp hconn
    obtain ⟨new, old, htrace⟩ := List.append_of_mem hcall
    obtain ⟨-, hR, -⟩ := hr.call_event (handleHostedWsUpgrade_guarded cfg) htrace
    have hok : c = true := hR
    rw [hok] at hres
    cases hres

/-- **WebSocket tickets are single use** in every run whose upgrades write a marker only where it is
still absent and none has ended, have the origin of their session when they do, and are accepted by
the object. -/
theorem ticket_single_use (cfg : Config) {p : Pool stores WsRequest Refusal Unit}
    (hr : Run (handleHostedWsUpgrade cfg) orderlyUpgrades (fun _ => True) p) : SingleUse cfg p := by
  refine ⟨?_, fun i e hout => refused_not_consumed hr hout⟩
  intro i j req req' harr harr' hout hout' hsame
  obtain ⟨⟨session, hticket⟩, t, hm⟩ := accepted_marking hr harr hout
  obtain ⟨⟨session', hticket'⟩, t', hm'⟩ := accepted_marking hr harr' hout'
  have hsid : req.sessionId = req'.sessionId ∨ Collide cfg req.sessionId req'.sessionId := by
    rcases hsame with hsame | hsame
    · exact ticket_session hticket hticket' hsame
    · exact .inl hsame
  rcases hsid with hsid | hcollide
  · rw [← hsid] at hm'
    exact .inl (congrArg Prod.fst ((run_marked hr (ticketKey req.sessionId)).unique hm hm'))
  · exact .inr hcollide

/-! ## Samples -/

/-- The key of the samples. -/
def sampleSecret : String := "test-secret-key-32-bytes-long!!!"

def sampleSessionId : String := "0b8c5b5e-52f4-4c1f-9f0e-3d1a6f7c2e90"

/-- The MAC of the sample's ticket. -/
def sampleMac : List UInt8 :=
  [33, 142, 51, 38, 139, 126, 18, 215, 92, 201, 131, 84, 198, 215, 169, 254,
    30, 233, 174, 68, 186, 28, 13, 234, 14, 84, 219, 225, 194, 230, 159, 219]

def sampleConfig : Config :=
  { hmac := fun _ _ => sampleMac
    uni := Unicode.ascii
    sessionTokenSecret := some sampleSecret }

/-- One session, live for five minutes. -/
def sampleState : State :=
  { clock := 1699999700
    sessions := Expiring.put (fun _ => none) 1699999700 sampleSessionId
      { origin := "https://shop.example", expiresAt := 1700000000 } 300
    markers := fun _ => none }

/-- The upgrade of the client, or of a page with another origin. -/
def sampleUpgrade (origin : String) : WsRequest :=
  { secFetchDest := some "websocket"
    upgrade := "websocket"
    origin := origin
    sessionId := sampleSessionId
    ticket := some "IY4zJot-EtdcyYNUxtep_h7prkS6HA3qDlTb4cLmn9s" }

/-- The shop's page. -/
def shopUpgrade : WsRequest := sampleUpgrade "https://shop.example"

/-- All goes well. -/
def succeeding : (op : WsOp) → stores.Choice op := fun _ => true

/-- An upgrade takes its steps, then another one begins. -/
def oneByOne (req : WsRequest) (steps : Nat) : List (Act stores WsRequest) :=
  (.arrive 0 req :: List.replicate steps (.call 0 succeeding)) ++
    .arrive 1 shopUpgrade :: List.replicate 2 (.call 1 succeeding)

/-- Two upgrades read the marker before either writes it. -/
def sideBySide : List (Act stores WsRequest) :=
  [.arrive 0 shopUpgrade, .arrive 1 shopUpgrade] ++ List.replicate 2 (.call 0 succeeding) ++
    List.replicate 4 (.call 1 succeeding) ++ List.replicate 2 (.call 0 succeeding)

/-- The first of two upgrades is accepted. -/
theorem ticket_used_once :
    ∃ p : Pool stores WsRequest Refusal Unit,
      Run (handleHostedWsUpgrade sampleConfig) orderlyUpgrades (fun _ => True) p ∧
      p.outcome 0 = some (.ok ()) ∧ p.outcome 1 = some (.error (.json "Access denied" 403)) ∧
      SingleUse sampleConfig p := by
  have hrun : ∃ p : Pool stores WsRequest Refusal Unit,
      Run (handleHostedWsUpgrade sampleConfig) orderlyUpgrades (fun _ => True) p ∧
      p.outcome 0 = some (.ok ()) ∧ p.outcome 1 = some (.error (.json "Access denied" 403)) :=
    Run.of_replay sampleState (oneByOne shopUpgrade 4) trivial (by decide +kernel)
  obtain ⟨p, hr, hfirst, hsecond⟩ := hrun
  exact ⟨p, hr, hfirst, hsecond, ticket_single_use sampleConfig hr⟩

/-- What wrote a marker has consumed it. -/
theorem consumed_of_marking {p : Pool stores WsRequest Refusal Unit} {key : String} {i t : Nat}
    (hm : (i, t) ∈ p.world.trace.filterMap (marking key)) : Consumed p i := by
  obtain ⟨e, he, hmark⟩ := List.mem_filterMap.mp hm
  match e, hmark with
  | .call j s (.putMarker k ttl) ok, hmark =>
    simp only [marking] at hmark
    split at hmark
    · next hput =>
      cases hmark
      exact ⟨k, ttl, mem_own.mpr ⟨s, ok, he, hput.2⟩⟩
    · cases hmark

/-- **A ticket used twice, and one lost**: two upgrades that read the marker before either writes it
are both accepted; an upgrade refused for its origin has written it, and the client's is refused. -/
theorem ticket_not_single_use :
    (∃ p : Pool stores WsRequest Refusal Unit,
      Run (handleHostedWsUpgrade sampleConfig) anyUpgrades (fun _ => True) p ∧
      p.outcome 0 = some (.ok ()) ∧ p.outcome 1 = some (.ok ()) ∧ ¬ SingleUse sampleConfig p) ∧
    ∃ p : Pool stores WsRequest Refusal Unit,
      Run (handleHostedWsUpgrade sampleConfig) anyUpgrades (fun _ => True) p ∧
      p.outcome 0 = some (.error (.json "Origin mismatch" 403)) ∧
      p.outcome 1 = some (.error (.json "Access denied" 403)) ∧ ¬ SingleUse sampleConfig p := by
  constructor
  · have hrun : ∃ p : Pool stores WsRequest Refusal Unit,
        Run (handleHostedWsUpgrade sampleConfig) anyUpgrades (fun _ => True) p ∧
        p.outcome 0 = some (.ok ()) ∧ p.outcome 1 = some (.ok ()) ∧
        .arrive 0 shopUpgrade ∈ p.world.trace ∧ .arrive 1 shopUpgrade ∈ p.world.trace :=
      Run.of_replay sampleState sideBySide trivial (by decide +kernel)
    obtain ⟨p, hr, hfirst, hsecond, harr, harr'⟩ := hrun
    refine ⟨p, hr, hfirst, hsecond, fun h => ?_⟩
    rcases h.1 0 1 _ _ harr harr' hfirst hsecond (.inl rfl) with h | h
    · exact absurd h (by decide)
    · exact h.1 rfl
  · have hrun : ∃ p : Pool stores WsRequest Refusal Unit,
        Run (handleHostedWsUpgrade sampleConfig) anyUpgrades (fun _ => True) p ∧
        p.outcome 0 = some (.error (.json "Origin mismatch" 403)) ∧
        p.outcome 1 = some (.error (.json "Access denied" 403)) ∧
        (0, 1699999700) ∈ p.world.trace.filterMap (marking (ticketKey sampleSessionId)) :=
      Run.of_replay sampleState (oneByOne (sampleUpgrade "https://evil.example") 3) trivial
        (by decide +kernel)
    obtain ⟨p, hr, hfirst, hsecond, hmark⟩ := hrun
    exact ⟨p, hr, hfirst, hsecond, fun h => h.2 0 _ hfirst (consumed_of_marking hmark)⟩

end WsTicket

end ProviiVerifier

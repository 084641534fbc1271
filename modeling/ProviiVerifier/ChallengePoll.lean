/-
  `poll_challenge` of `routes/challenge.rs`: a client asks for the status of its challenge.

  A poll reads the record, authenticates the caller for the client that the record names, and
  tells the state of the record unless it has expired. Audit events are left out.

  Proved:
    `poll_sound`: in every run, a poll is answered to the client that created the challenge only,
      with the state of a record it read; a proof it tells of was submitted, or simulated in a
      sandbox, and a verdict it tells of was redeemed.
    `polls_forward`: where the objects can read their storage, what a poll was told leads on to the
      stored record until the challenge expires, and to what every later poll is told.
-/
import ProviiVerifier.HostedPolls
import ProviiVerifier.SimulatedProofs

namespace ProviiVerifier

open Interleaving Prog

/-! ## The route -/

/-- `ChallengeState::as_str`. -/
def ChallengeState.asStr : ChallengeState → String
  | .pending => "pending"
  | .proofOkWaitingForRedeem => "proof_ok_waiting_for_redeem"
  | .verified => "verified"
  | .failed => "failed"
  | .expired => "expired"

/-- `GET /v1/challenge/:sid`. -/
structure PollRequest where
  headers : Headers
  sid : Uuid

/-- `StatusDto`. -/
structure StatusDto where
  state : String
  status : String
  verified : Bool
  proofVerified : Bool
  deriving DecidableEq

namespace ChallengePoll

/-- The answer to a poll that finds the record in a state. -/
def statusDto (s : ChallengeState) : StatusDto :=
  { state := s.asStr
    status := s.asStr
    verified := s = .verified
    proofVerified := s = .proofOkWaitingForRedeem ∨ s = .verified }

/-- `try_extract_client_id`. -/
def tryExtractClientId (app : AppState) (headers : Headers) (expectedOwnerId : Option String) :
    Handler (Option String) := do
  match ← attempt (authenticateApiKey app headers ⟨expectedOwnerId, false, none⟩) with
  | .ok result => return result.clientId
  | .error _ => return none

/-- The record that was polled, or the error that its absence is. -/
def loadEntry (sid : Uuid) : Handler CachedChallenge := do
  match ← attempt (ChallengeStore.get sid) with
  | .ok (some entry) => return entry
  | .ok none => .fail .notFound
  | .error e => .fail e.wrap

/-- What a record is told as at a time. -/
def report (entry : CachedChallenge) (now : Nat) : Except ApiError StatusDto :=
  if now > entry.expiresAt ∧ entry.state ≠ .verified then
    .error (.goneWith "CHALLENGE_EXPIRED"
      "Challenge has passed its expiry timestamp; create a new one via POST /v1/challenge")
  else .ok (statusDto entry.state)

/-- `poll_challenge`. -/
def pollChallenge (app : AppState) (req : PollRequest) : Handler StatusDto := do
  let entry ← loadEntry req.sid
  match ← tryExtractClientId app req.headers entry.clientId with
  | none =>
    .fail (.unauthorizedWith "POLL_AUTH_FAILED"
      ("Origin + X-API-Key did not match the client that created this challenge. In sandbox " ++
        "the X-API-Key must match the credential returned from /v1/register-test-origin for " ++
        "this challenge's owner."))
  | some clientId => do
    ofExcept (verifyOwnership entry.clientId (some clientId))
    ofExcept (report entry (← await .timestamp))

/-! ## What a poll does -/

section Poll

variable {app : AppState} {h h' : History Op Res} {sid : Uuid} {headers : Headers}

theorem verified_statusDto (s : ChallengeState) :
    (statusDto s).verified = true ↔ s = .verified := by
  simp [statusDto]

theorem proofVerified_statusDto (s : ChallengeState) :
    (statusDto s).proofVerified = true ↔ Positive s := by
  simp [statusDto, Positive]

/-- A record that is told is told in its state. -/
theorem report_ok {entry : CachedChallenge} {now : Nat} {a : StatusDto}
    (hok : report entry now = .ok a) : a = statusDto entry.state := by
  unfold report at hok
  split at hok
  · cases hok
  · cases hok
    rfl

theorem guarded_loadEntry : Guarded (fun _ op => ChallengeStore.Fetch sid (.get sid.toString) op)
    (fun h' r => ∀ entry, r = .ok entry → ChallengeStore.Read sid entry h') h
    (loadEntry sid) := by
  refine ChallengeStore.guarded_get.seq_attempt (fun _ _ _ hop => hop) ?_
  intro h1 r _ hread
  rcases r with e | _ | entry
  · exact fun _ hr => nomatch hr
  · exact fun _ hr => nomatch hr
  · intro entry' hr
    cases hr
    exact hread

/-- An extracted client authenticated itself. -/
theorem guarded_tryExtractClientId {owner : Option String} :
    Guarded (fun _ op => AuthLookup op) (fun h' r => ∃ extracted, r = .ok extracted ∧
        ∀ clientId, extracted = some clientId → AuthenticatedAs app headers clientId h') h
      (tryExtractClientId app headers owner) := by
  refine guarded_authenticateApiKey.seq_attempt (fun _ _ _ hop => hop) ?_
  rintro h1 r _ ⟨result, rfl, hauth⟩
  refine ⟨result.clientId, rfl, ?_⟩
  intro clientId hclient
  rcases hauth clientId hclient with ⟨-, hauth⟩ | ⟨-, hmobile, -⟩
  · exact hauth
  · cases hmobile

/-- What an answered poll rests on. -/
structure Answered (app : AppState) (req : PollRequest) (a : StatusDto)
    (h : History Op Res) (entry : CachedChallenge) : Prop where
  read : ChallengeStore.Read req.sid entry h
  owner : ∃ clientId, entry.clientId = some clientId ∧
    AuthenticatedAs app req.headers clientId h
  told : a = statusDto entry.state

/-- **A poll** reads records, and is answered to the client of the one that it tells of. -/
theorem guarded_pollChallenge (app : AppState) (req : PollRequest) :
    (pollChallenge app req).Guarded (fun _ op => RouteOp app (fun _ _ => False) op)
      (fun h r => ∀ a, r = .ok a → ∃ entry, Answered app req a h entry) [] := by
  refine guarded_loadEntry.seq (fun _ _ _ => routeOp_get) ?_ (fun _ _ _ _ _ hr => nomatch hr)
  intro h1 entry hg1 hread
  refine guarded_tryExtractClientId.seq (fun _ _ _ => AuthLookup.routeOp) ?_
    (fun _ _ _ _ _ hr => nomatch hr)
  rintro h2 _ hg2 ⟨extracted, hr, hauth⟩
  cases hr
  split
  · exact fun _ hr => nomatch hr
  · next clientId =>
    refine guarded_ofExcept_bind (fun _ hown => ?_) fun e _ _ hr => nomatch hr
    refine guarded_await_bind.mpr ⟨trivial, fun now => ?_⟩
    cases hreport : report entry now with
    | error e => exact fun _ hr => nomatch hr
    | ok a =>
      intro a' hr
      cases hr
      refine ⟨entry, ?_, ⟨clientId, (verifyOwnership_ok hown).1, ?_⟩, report_ok hreport⟩
      · exact ((hread entry rfl).mono hg2.suffix).mono (List.suffix_cons _ _)
      · exact (hauth clientId rfl).mono (List.suffix_cons _ _)

end Poll

/-! ## Polls among the other requests -/

open SimulatedProofs (Call Reply Sourced SourcedUpdate OriginalOf ProvedBySubmission
  ProvedBySimulation)

/-- A request of the service or to the simulator, or a poll. -/
inductive Visit
  | call (c : Call)
  | poll (req : PollRequest)

/-- What a visit is answered. -/
inductive VisitReply
  | replied (r : Reply)
  | polled (a : StatusDto)
  deriving DecidableEq

/-- The handler of a visit. -/
def Visit.handle (app : AppState) : Visit → Handler VisitReply
  | .call c => do return .replied (← c.handle app)
  | .poll req => do return .polled (← pollChallenge app req)

/-- The call of a visit that is no poll. -/
def Visit.asCall : Visit → Option Call
  | .call c => some c
  | .poll _ => none

/-- The records a visit may write. -/
def Visit.Writes (app : AppState) : Visit → History Op Res → Uuid → CachedChallenge → Prop
  | .call c => c.Writes app
  | .poll _ => fun _ _ _ => False

/-- What a visit comes to. -/
def Visit.Outcome (app : AppState) : Visit → History Op Res → Except ApiError VisitReply → Prop
  | .call _ => fun _ r => ∀ a, r ≠ .ok (.polled a)
  | .poll req => fun h r => ∀ a, r = .ok (.polled a) → ∃ entry, Answered app req a h entry

/-- The events of the calls of a run. -/
def calls {app : AppState} (tr : List (Event (service app) Visit)) :
    List (Event (service app) Call) :=
  project Visit.asCall tr

variable {app : AppState} {s₀ : State} {R : Rules (service app) Visit}
  {w : World (service app) Visit} {p : Pool (service app) Visit ApiError VisitReply}

/-- **What every visit does.** -/
theorem guarded_visit (app : AppState) (visit : Visit) :
    (visit.handle app).Guarded (fun h op => RouteOp app (visit.Writes app h) op)
      (visit.Outcome app) [] := by
  cases visit with
  | call c =>
    refine ((SimulatedProofs.guarded_call app c).wrap VisitReply.replied).imp
      (fun _ _ hop => hop) ?_
    rintro h _ ⟨r, -, rfl⟩ a hr
    cases r with
    | error e => cases hr
    | ok reply => cases hr
  | poll req =>
    refine ((guarded_pollChallenge app req).wrap VisitReply.polled).imp (fun _ _ hop => hop) ?_
    rintro h _ ⟨r, hanswered, rfl⟩ a hr
    cases r with
    | error e => cases hr
    | ok a' =>
      cases hr
      exact hanswered a rfl

/-! ## The records -/

/-- The calls of a world. -/
def callWorld (w : World (service app) Visit) : World (service app) Call :=
  w.project Visit.asCall

theorem callWorld_arrived (w : World (service app) Visit) (i : Nat) (visit : Visit) :
    callWorld (w.arrived i visit) = callWorld w ∨
      ∃ c, callWorld (w.arrived i visit) = (callWorld w).arrived i c := by
  rcases project_arrive (f := Visit.asCall) i visit w.trace with hsame | ⟨c, hmore⟩
  · exact .inl (congrArg (World.mk w.state) hsame)
  · exact .inr ⟨c, congrArg (World.mk w.state) hmore⟩

/-- A call that arrived is among the calls. -/
theorem mem_calls {i : Nat} {c : Call} {tr : List (Event (service app) Visit)}
    (h : .arrive i (.call c) ∈ tr) : .arrive i c ∈ calls tr :=
  List.mem_filterMap.mpr ⟨_, h, rfl⟩

theorem own_calls (i : Nat) (tr : List (Event (service app) Visit)) :
    own i (calls tr) = own i tr :=
  own_project i tr

/-- A trace with one more event has at most one more event of a call. -/
theorem calls_cons (e : Event (service app) Visit) (tr : List (Event (service app) Visit)) :
    calls (e :: tr) = calls tr ∨ ∃ e', calls (e :: tr) = e' :: calls tr := by
  cases e with
  | arrive i visit =>
    rcases project_arrive (f := Visit.asCall) i visit tr with hsame | ⟨c, hmore⟩
    · exact .inl hsame
    · exact .inr ⟨_, hmore⟩
  | call i s op ch => exact .inr ⟨_, project_call i s op ch tr⟩

/-- **A challenge has one original**, with polls among the visits. -/
theorem Run.original (hfresh : Fresh s₀) (hcall : ∀ w i op c, R.call w i op c →
    freshIds w.state op c) (hr : Run (Visit.handle app) R (· = s₀) p) :
    OriginalInv s₀ ((callWorld p.world).project Call.request) := by
  refine Run.invariant (I := fun w => OriginalInv s₀ ((callWorld w).project Call.request))
    (guarded_visit app) ?_ ?_ ?_ ?_ hr
  · rintro s rfl
    exact originalInv_start
  · intro w i visit _ h _
    rcases callWorld_arrived w i visit with hsame | ⟨c, hmore⟩
    · rw [hsame]
      exact h
    · rw [hmore]
      exact SimulatedProofs.original_arrived h i c
  · intro w i op c visit _ h _ hg hR
    have hafter : callWorld (w.after i op c) = (callWorld w).after i op c :=
      project_after w i op c
    rw [hafter, project_after]
    refine h.after hfresh hg ?_ (hcall w i op c hR)
    intro id d hw
    have hown : own i ((callWorld w).project Call.request).trace = own i w.trace :=
      (own_project i _).trans (own_project i _)
    rw [hown]
    cases visit with
    | call c => exact (Call.Writes.cases hw).imp (fun hw => hw) And.left
    | poll req => exact False.elim hw
  · intro w e _ h _
    exact h.moved e

/-- What holds of the records of a run holds of them in the run of its calls. -/
theorem recordInv_calls {P : List (Event (service app) Call) → Uuid → CachedChallenge → Prop}
    {U : List (Event (service app) Call) → Uuid → ChallengeUpdate → Prop}
    (h : RecordInv (fun tr => P (calls tr)) (fun tr => U (calls tr)) w) :
    RecordInv P U (callWorld w) := by
  refine ⟨h.stored, fun i id c hread => h.read i id c ?_, h.inflight⟩
  unfold ReadBy at hread ⊢
  rw [← own_calls]
  exact hread

/-- **Every record is sourced**: polls write none. -/
theorem Run.sourced (hfresh : Fresh s₀) (hcall : ∀ w i op c, R.call w i op c →
    freshIds w.state op c) (hr : Run (Visit.handle app) R (· = s₀) p) :
    RecordInv (fun tr => Sourced s₀ (calls tr)) (fun tr => SourcedUpdate s₀ (calls tr))
      p.world := by
  have horiginals : ∀ w, Reached (Visit.handle app) R (· = s₀) w →
      OriginalInv s₀ ((callWorld w).project Call.request) := by
    rintro w ⟨q, hq, rfl⟩
    exact Run.original hfresh hcall hq
  have hwrites : ∀ {w : World (service app) Visit} {i : Nat} {visit : Visit} {id : Uuid}
      {c : CachedChallenge}, .arrive i visit ∈ w.trace → visit.Writes app (own i w.trace) id c →
      ∃ call, .arrive i call ∈ (callWorld w).trace ∧
        call.Writes app (own i (callWorld w).trace) id c := by
    intro w i visit id c harrive hw
    cases visit with
    | call call => exact ⟨call, mem_calls harrive, (own_calls i w.trace).symm ▸ hw⟩
    | poll req => exact False.elim hw
  refine Run.recordInv (guarded_visit app) ⟨?_, ?_, ?_, ?_, ?_, ?_⟩ hr
  · intro e tr id c h
    rcases calls_cons e tr with hsame | ⟨e', hmore⟩
    · exact hsame ▸ h
    · exact hmore ▸ h.cons e'
  · intro e tr id upd h
    rcases calls_cons e tr with hsame | ⟨e', hmore⟩
    · exact hsame ▸ h
    · exact hmore ▸ h.cons e'
  · rintro s rfl
    exact ⟨hfresh.inflight, fun id c hc => .start hfresh hc⟩
  · intro w i visit id c hreach hinv harrive hw
    obtain ⟨call, harrive, hw⟩ := hwrites harrive hw
    exact SimulatedProofs.update_sourced (horiginals w hreach) (recordInv_calls hinv) harrive hw
  · intro w i visit id c ch hreach hinv harrive hw
    obtain ⟨call, harrive, hw⟩ := hwrites harrive hw
    have hcalls : calls (.call i w.state
        (.challengeDO id (ChallengeStore.createRequest app id c)) ch :: w.trace) =
        .call i w.state (.challengeDO id (ChallengeStore.createRequest app id c)) ch ::
          calls w.trace := project_call i w.state _ ch w.trace
    rw [hcalls]
    exact SimulatedProofs.created_sourced (w := callWorld w) (horiginals w hreach)
      (recordInv_calls hinv) harrive hw
  · intro w id e upd hreach he hupd _ _
    exact SimulatedProofs.merged_sourced (w := callWorld w) (horiginals w hreach) he hupd

/-- Two records of a challenge, each stored or read, expire together. -/
theorem expiresAt_eq {id : Uuid} {tr : List (Event (service app) Call)} {c d : CachedChallenge}
    (hunique : ∀ c d, OriginalOf s₀ tr id c → OriginalOf s₀ tr id d → c = d)
    (hc : Sourced s₀ tr id c) (hd : Sourced s₀ tr id d) : c.expiresAt = d.expiresAt := by
  obtain ⟨c₀, horiginal, hkept, -⟩ := hc
  obtain ⟨d₀, horiginal', hkept', -⟩ := hd
  have hsame : c₀ = d₀ := hunique c₀ d₀ horiginal horiginal'
  subst hsame
  exact hkept.same.expiresAt.trans hkept'.same.expiresAt.symm

/-! ## What a poll is told -/

/-- **Soundness of a poll.** In every run, an answered poll was authenticated as the client that
its challenge was created for and is told the state of a record of the challenge that it read. If
it is told of a proof, a submission of the run passed every check against the original, or the
service is a sandbox and a simulation asked for the outcome with the original's secret; if it is
told of a verdict, the challenge was redeemed against the original. -/
theorem poll_sound (hfresh : Fresh s₀)
    (hr : Run (Visit.handle app) (anyOrder app Visit) (· = s₀) p) {i : Nat} {req : PollRequest}
    {a : StatusDto} (harrive : .arrive i (.poll req) ∈ p.world.trace)
    (ha : p.outcome i = some (.ok (.polled a))) :
    ∃ c₀ c, OriginalOf s₀ (calls p.world.trace) req.sid c₀ ∧
      (∀ d, OriginalOf s₀ (calls p.world.trace) req.sid d → d = c₀) ∧
      (∃ clientId, c₀.clientId = some clientId ∧
        AuthenticatedAs app req.headers clientId (own i p.world.trace)) ∧
      ChallengeStore.Read req.sid c (own i p.world.trace) ∧ c.SameChallenge c₀ ∧
      a = statusDto c.state ∧
      (a.proofVerified = true → ProvedBySubmission c₀ (calls p.world.trace) req.sid ∨
        ProvedBySimulation c₀ (calls p.world.trace) req.sid) ∧
      (a.verified = true → SimulatedProofs.RedeemedBy c₀ (calls p.world.trace) req.sid) := by
  obtain ⟨visit, hvisit, hout⟩ := hr.outcome (guarded_visit app) ha
  have hreq : visit = .poll req := hr.arrive_unique hvisit harrive
  subst hreq
  obtain ⟨c, hread, ⟨clientId, howner, hauth⟩, rfl⟩ := hout a rfl
  have horiginals := Run.original hfresh (fun _ _ _ _ h => h) hr
  obtain ⟨c₀, horiginal, hkept, hgrounded⟩ :=
    (Run.sourced hfresh (fun _ _ _ _ h => h) hr).read i req.sid c hread.1
  refine ⟨c₀, c, horiginal, fun d hd => horiginals.unique req.sid d c₀ hd horiginal,
    ⟨clientId, hkept.same.clientId.symm.trans howner, hauth⟩, hread, hkept.same, rfl, ?_, ?_⟩
  · intro hproof
    exact hgrounded.proved ((proofVerified_statusDto c.state).mp hproof)
  · intro hverified
    exact hgrounded.redeemed ((verified_statusDto c.state).mp hverified)

/-! ## What became of what a poll was told -/

/-- Where a record in a state can get to. -/
def Leads (s t : ChallengeState) : Prop :=
  s = t ∨ s = .pending ∨ s = .proofOkWaitingForRedeem ∧ t ≠ .pending

/-- **One update** leads on. -/
theorem Leads.step {s t u : ChallengeState} (h : Leads s t)
    (hvalid : isValidTransition t u = true) : Leads s u := by
  rcases h with rfl | rfl | ⟨rfl, ht⟩
  · by_cases hterm : isTerminalState s = true
    · exact .inl (ChallengeDO.transition_of_terminal hterm hvalid).symm
    · cases s with
      | pending => exact .inr (.inl rfl)
      | proofOkWaitingForRedeem =>
        refine .inr (.inr ⟨rfl, ?_⟩)
        rintro rfl
        cases hvalid
      | _ => exact absurd rfl hterm
  · exact .inr (.inl rfl)
  · refine .inr (.inr ⟨rfl, ?_⟩)
    rintro rfl
    cases t with
    | pending => exact ht rfl
    | _ => cases hvalid

/-- What the later of two polls takes back of the earlier one: nothing but a proof, by the failure
or the expiry of the challenge. -/
structure Onward (a b : StatusDto) : Prop where
  left : a.state ≠ "pending" → b.state ≠ "pending"
  proof : a.proofVerified = true →
    b.proofVerified = true ∨ b.state = "failed" ∨ b.state = "expired"
  final : a.state ≠ "pending" → a.state ≠ "proof_ok_waiting_for_redeem" → b = a

theorem Leads.onward {s t : ChallengeState} (h : Leads s t) :
    Onward (statusDto s) (statusDto t) := by
  rcases h with rfl | rfl | ⟨rfl, ht⟩
  · exact ⟨fun h => h, .inl, fun _ _ => rfl⟩
  · exact ⟨fun h => absurd rfl h, nofun, fun h _ => absurd rfl h⟩
  · refine ⟨fun _ => ?_, fun _ => ?_, fun _ h => absurd rfl h⟩
    · cases t with
      | pending => exact absurd rfl ht
      | _ => decide
    · cases t with
      | pending => exact absurd rfl ht
      | _ => decide

/-- An object that serves a request can read its storage. -/
def readable : (op : Op) → Choice op → Prop
  | .challengeDO _ _, .served f _ => f.recordGet = true
  | _, _ => True

def readableEnv : Env → Prop
  | .deliver _ f _ _ => f.recordGet = true
  | _ => True

/-- The runs in any order in which the challenge objects can read their storage; their writes may
fail, and requests to them may be lost, late or unanswered. -/
def readableOrder (app : AppState) : Rules (service app) Visit :=
  { arrive := fun _ _ _ => True
    call := fun w _ op c => freshIds w.state op c ∧ readable op c
    env := fun w e => dateRange w.state e ∧ readableEnv e }

theorem freshIds_of_readable {w : World (service app) Visit} {i : Nat} {op : Op} {c : Choice op}
    (h : (readableOrder app).call w i op c) : freshIds w.state op c := h.1

/-- What became of a record that was read: it expired, or it led on to the stored one. -/
def Follows (s : State) (id : Uuid) (c : CachedChallenge) : Prop :=
  c.expiresAt ≤ s.clock ∨ ∃ d, s.record id = some d ∧ Leads c.state d.state

/-- **A request to an object** that deletes nothing keeps what became of a record. -/
theorem Follows.served {s : State} {f : ChallengeDO.Faults} {id id' : Uuid}
    {r : ChallengeDO.Request} {c : CachedChallenge} (h : Follows s id c)
    (hget : f.recordGet = true) (hr : ∀ v, r ≠ .delete v)
    (hsame : ∀ d, s.record id = some d → d.expiresAt = c.expiresAt) :
    Follows (s.serveChallenge f id' r).2 id c := by
  rcases h with h | ⟨d, hd, hleads⟩
  · exact .inl h
  · by_cases hid : id = id'
    · subst hid
      have hstep := serveChallenge_recordStep s f id r
      rw [hd] at hstep
      unfold Follows
      generalize (s.serveChallenge f id r).2.record id = after at hstep
      cases hstep with
      | keep => exact .inr ⟨d, rfl, hleads⟩
      | expire hexp => exact .inl (hsame d hd ▸ hexp)
      | delete hdelete => exact absurd hdelete (hr _)
      | create _ _ habsent =>
        rcases habsent with hnone | hunread
        · cases hnone
        · rw [hget] at hunread
          cases hunread
      | update _ _ _ hvalid => exact .inr ⟨_, rfl, hleads.step hvalid⟩
    · exact .inr ⟨d, (serveChallenge_record_ne hid).trans hd, hleads⟩

/-- What is in flight to an object, and what became of every record that was read. -/
structure PollInv (w : World (service app) Visit) : Prop where
  inflight : ∀ id req, .challenge id req ∈ State.inflight w.state → ∀ v, req ≠ .delete v
  follows : ∀ i id c, ReadBy w.trace i id c → Follows w.state id c

theorem Follows.congr {s t : State} {id : Uuid} {c : CachedChallenge} (h : Follows s id c)
    (hclock : s.clock ≤ t.clock) (hchallenges : t.challenges = s.challenges) :
    Follows t id c := by
  rcases h with h | ⟨d, hd, hleads⟩
  · exact .inl (Nat.le_trans h hclock)
  · exact .inr ⟨d, (record_congr hchallenges id).trans hd, hleads⟩

/-- **One operation** keeps what became of a record. -/
theorem Follows.call {s : State} {id : Uuid} {c : CachedChallenge} (h : Follows s id c) {op : Op}
    {ch : Choice op} (hch : readable op ch) (hdelete : ∀ id v, op ≠ .challengeDO id (.delete v))
    (hsame : ∀ d, s.record id = some d → d.expiresAt = c.expiresAt) :
    Follows (perform app s op ch).2 id c := by
  have hstep : OpStep app s op (perform app s op ch).2 := perform_opStep ch
  by_cases hdo : ∃ id' r, op = .challengeDO id' r
  · obtain ⟨id', r, rfl⟩ := hdo
    cases ch with
    | lost => exact h
    | late => exact h
    | served f answered =>
      have hr : ∀ v, r ≠ .delete v := fun v heq => hdelete id' v (by rw [heq])
      exact h.served hch hr hsame
  · exact h.congr (Nat.le_of_eq hstep.clock.symm)
      (hstep.challenges fun id r heq => hdo ⟨id, r, heq⟩)

/-- **A step of the environment** keeps it. -/
theorem Follows.moved {s : State} {id : Uuid} {c : CachedChallenge} (h : Follows s id c) {e : Env}
    (he : readableEnv e)
    (hinflight : ∀ id req, .challenge id req ∈ s.inflight → ∀ v, req ≠ .delete v)
    (hsame : ∀ d, s.record id = some d → d.expiresAt = c.expiresAt) :
    Follows (envStep app s e) id c := by
  cases e with
  | tick seconds => exact h.congr (Nat.le_add_right _ _) rfl
  | nonceAlarm shard => exact h.congr (Nat.le_refl _) rfl
  | deliver i f g hf =>
    cases hm : s.inflight[i]? with
    | none =>
      rw [envStep_deliver_none hm]
      exact h
    | some m =>
      rw [envStep_deliver hm]
      have hreceived : Follows (s.received i) id c := h
      cases m with
      | challenge id' req =>
        exact hreceived.served he (hinflight id' req (List.mem_of_getElem? hm)) hsame
      | nonce tag body => exact hreceived.congr (Nat.le_refl _) rfl
      | idempotency shard path method => exact hreceived.congr (Nat.le_refl _) rfl
      | credits req =>
        have hdeduct : State.deliver app (s.received i) f g hf (.credits req) =
            { s.received i with deducted := ((s.received i).deduct req).2.deducted } :=
          deduct_eq (s.received i) req
        rw [hdeduct]
        exact hreceived

/-- The records of one challenge expire together. -/
theorem Run.expiresAt (hfresh : Fresh s₀)
    (hr : Run (Visit.handle app) (readableOrder app) (· = s₀) p) {i : Nat} {id : Uuid}
    {c d : CachedChallenge} (hc : ReadBy p.world.trace i id c)
    (hd : State.record p.world.state id = some d) : d.expiresAt = c.expiresAt := by
  have hinv := Run.sourced hfresh (fun _ _ _ _ => freshIds_of_readable) hr
  have horiginals := Run.original hfresh (fun _ _ _ _ => freshIds_of_readable) hr
  exact expiresAt_eq (horiginals.unique id) (hinv.stored id d hd) (hinv.read i id c hc)

/-- **What became of the records that a run read.** -/
theorem Run.pollInv (hfresh : Fresh s₀)
    (hr : Run (Visit.handle app) (readableOrder app) (· = s₀) p) : PollInv p.world := by
  refine hr.invariant (guarded_visit app) ?_ ?_ ?_ ?_
  · rintro s rfl
    refine ⟨fun id req hm => ?_, fun i id c hread => absurd hread List.not_mem_nil⟩
    have hm : .challenge id req ∈ s.inflight := hm
    rw [hfresh.inflight] at hm
    exact absurd hm List.not_mem_nil
  · intro w i visit _ h _
    exact ⟨h.inflight, h.follows⟩
  · rintro w i op ch visit ⟨q, hq, rfl⟩ h _ hop hR
    have hstep : OpStep app q.world.state op (perform app q.world.state op ch).2 :=
      perform_opStep ch
    have hdelete : ∀ id v, op ≠ .challengeDO id (.delete v) := by
      rintro id v rfl
      exact HostedPolls.routeOp_ne_delete hop v rfl
    refine ⟨?_, ?_⟩
    · rintro id req hm v rfl
      rcases hstep.inflight hm with hm | hmsg
      · exact h.inflight id _ hm v rfl
      · cases op <;> simp only [Op.message, Option.some.injEq, reduceCtorEq] at hmsg
        cases hmsg
        exact hdelete id v rfl
    · intro j id c hread
      rcases mem_own_call hread with hread | ⟨rfl, hnew⟩
      · -- a record that was read before
        exact (h.follows j id c hread).call hR.2 hdelete
          fun d hd => Run.expiresAt hfresh hq hread hd
      · -- the record that is read now
        injection hnew with hop' hres
        subst hop'
        exact .inr ⟨c, HostedPolls.record_performed (eq_of_heq hres).symm, .inl rfl⟩
  · rintro w e ⟨q, hq, rfl⟩ h hR
    have hstep : EnvStep app q.world.state (envStep app q.world.state e) := envStep_envStep e
    refine ⟨fun id req hm => h.inflight id req (hstep.inflight hm), ?_⟩
    intro i id c hread
    exact (h.follows i id c hread).moved hR.2 h.inflight
      fun d hd => Run.expiresAt hfresh hq hread hd

/-- All that poll `i` reads of the challenge it had read at a time when poll `j` had read
nothing of it. -/
def ReadBefore (tr : List (Event (service app) Visit)) (id : Uuid) (i j : Nat) : Prop :=
  ∃ old, old <:+ tr ∧ (∀ c, ReadBy tr i id c → ReadBy old i id c) ∧ ∀ d, ¬ ReadBy old j id d

/-- **A later read** finds a record that the earlier one leads to. -/
theorem leads_of_readBefore (hfresh : Fresh s₀)
    (hr : Run (Visit.handle app) (readableOrder app) (· = s₀) p) {i j : Nat} {id : Uuid}
    {c d : CachedChallenge} (hc : ReadBy p.world.trace i id c)
    (hd : ReadBy p.world.trace j id d) (hbefore : ReadBefore p.world.trace id i j) :
    Leads c.state d.state := by
  obtain ⟨old, hold, hall, hnone⟩ := hbefore
  obtain ⟨s, ch, hm, hres⟩ := mem_own.mp hd
  obtain ⟨new, past, htr⟩ := List.append_of_mem hm
  -- the later read happens after the time at which the earlier one was done
  have hafter : old <:+ past := by
    have hsuffix : .call j s (.challengeDO id (.get id.toString)) ch :: past <:+
        p.world.trace := ⟨new, htr.symm⟩
    rcases List.suffix_or_suffix_of_suffix hold hsuffix with hs | hs
    · rcases List.suffix_cons_iff.mp hs with heq | hs
      · refine absurd ?_ (hnone d)
        rw [heq]
        exact mem_own.mpr ⟨s, ch, List.mem_cons_self, hres⟩
      · exact hs
    · refine absurd ?_ (hnone d)
      exact mem_own.mpr ⟨s, ch, hs.subset List.mem_cons_self, hres⟩
  obtain ⟨⟨q, hq, hworld⟩, -, -⟩ := hr.call_event (guarded_visit app) htr
  have hread : ReadBy q.world.trace i id c := by
    rw [hworld]
    exact (own_mono hafter).subset (hall c hc)
  obtain ⟨hstored, hlive⟩ := perform_get hres
  have hstored : State.record q.world.state id = some d := by
    rw [hworld]
    exact hstored
  have hsame := Run.expiresAt hfresh hq hread hstored
  rcases (Run.pollInv hfresh hq).follows i id c hread with hlapsed | ⟨e, he, hleads⟩
  · have hclock : State.clock q.world.state = s.clock := by rw [hworld]
    omega
  · rw [hstored] at he
    cases he
    exact hleads

/-- **Polls go forward.** In every run whose challenge objects can read their storage, the record
that an answered poll told of leads on to the stored one until the challenge expires; and of two
answered polls of one challenge whose reads come in this order, the later one takes nothing back
but a proof, by the failure or the expiry of the challenge. -/
theorem polls_forward (hfresh : Fresh s₀)
    (hr : Run (Visit.handle app) (readableOrder app) (· = s₀) p) {i : Nat} {req : PollRequest}
    {a : StatusDto} (harrive : .arrive i (.poll req) ∈ p.world.trace)
    (ha : p.outcome i = some (.ok (.polled a))) :
    (∃ c, ReadBy p.world.trace i req.sid c ∧ a = statusDto c.state ∧
      (State.clock p.world.state < c.expiresAt →
        ∃ d, State.record p.world.state req.sid = some d ∧ Leads c.state d.state)) ∧
    ∀ j req' b, .arrive j (.poll req') ∈ p.world.trace →
      p.outcome j = some (.ok (.polled b)) → req'.sid = req.sid →
      ReadBefore p.world.trace req.sid i j → Onward a b := by
  have hanswered : ∀ j req b, .arrive j (.poll req) ∈ p.world.trace →
      p.outcome j = some (.ok (.polled b)) →
      ∃ c, ReadBy p.world.trace j req.sid c ∧ b = statusDto c.state := by
    intro j req b harrive hb
    obtain ⟨visit, hvisit, hout⟩ := hr.outcome (guarded_visit app) hb
    have hreq : visit = .poll req := hr.arrive_unique hvisit harrive
    subst hreq
    obtain ⟨c, hread, -, htold⟩ := hout b rfl
    exact ⟨c, hread.1, htold⟩
  obtain ⟨c, hread, rfl⟩ := hanswered i req a harrive ha
  refine ⟨⟨c, hread, rfl, ?_⟩, ?_⟩
  · intro hlive
    rcases (Run.pollInv hfresh hr).follows i req.sid c hread with hlapsed | hstored
    · exact absurd hlive (Nat.not_lt.mpr hlapsed)
    · exact hstored
  · intro j req' b harrive' hb hsid hbefore
    obtain ⟨d, hread', rfl⟩ := hanswered j req' b harrive' hb
    rw [hsid] at hread'
    exact (leads_of_readBefore hfresh hr hread hread' hbefore).onward

/-! ## Samples -/

instance (e : Env) : Decidable (readableEnv e) := by
  cases e with
  | deliver _ f _ _ => exact inferInstanceAs (Decidable (f.recordGet = true))
  | tick _ => exact .isTrue trivial
  | nonceAlarm _ => exact .isTrue trivial

instance (app : AppState) : DecidableRules (readableOrder app) :=
  { arrive := fun _ _ _ => .isTrue trivial
    call := fun w i op => by
      apply Op.casesOn (motive := fun op => ∀ c, Decidable ((readableOrder app).call w i op c)) op
      case challengeDO =>
        intro id req (c : Delivery ChallengeDO.Faults)
        cases c with
        | served f answered => exact inferInstanceAs (Decidable (True ∧ f.recordGet = true))
        | lost => exact .isTrue ⟨trivial, trivial⟩
        | late => exact .isTrue ⟨trivial, trivial⟩
      case newUuid =>
        intro (c : Uuid)
        exact inferInstanceAs (Decidable (c ∉ State.drawn w.state ∧ True))
      all_goals intros; exact .isTrue ⟨trivial, trivial⟩
    env := fun w e => @instDecidableAnd _ _ (instDecidableDateRange w.state e)
      (instDecidableReadableEnv e) }

/-- The order of two polls, from the numbers of operations that they have done at some time. -/
theorem readBefore_of_drop {tr : List (Event (service app) Visit)} {id : Uuid} {i j : Nat} (n : Nat)
    (hi : (own i tr).length ≤ (own i (tr.drop n)).length)
    (hj : (own j (tr.drop n)).length = 0) : ReadBefore tr id i j := by
  have hs : tr.drop n <:+ tr := List.drop_suffix n tr
  have hsame : own i (tr.drop n) = own i tr := (own_mono (i := i) hs).eq_of_length_le hi
  refine ⟨tr.drop n, hs, ?_, ?_⟩
  · intro c hread
    unfold ReadBy at hread ⊢
    rw [hsame]
    exact hread
  · intro d hread
    unfold ReadBy at hread
    rw [List.eq_nil_of_length_eq_zero hj] at hread
    cases hread

namespace Sample

/-- The poll by the shop's server. -/
def poll : PollRequest :=
  { headers := ProviiVerifier.Sample.shopHeaders
    sid := CachedChallenge.sample.id }

/-- A visit arrives and performs `n` operations that all go well. -/
def performs (i : Nat) (visit : Visit) (n : Nat) : List (Act (service .sample) Visit) :=
  .arrive i visit :: List.replicate n (.call i healthy)

/-- The wallet's submission and the redemption by the shop's server, with a poll after each. -/
def followed : List (Act (service .sample) Visit) :=
  performs 0 (.call (.serve (.verify ProviiVerifier.Sample.submission))) 9 ++
    performs 1 (.poll poll) 4 ++
    performs 2 (.call (.serve (.redeem ProviiVerifier.Sample.redemption))) 8 ++
    performs 3 (.poll poll) 4

/-- What the two polls are told. -/
def proofTold : StatusDto := statusDto .proofOkWaitingForRedeem

def verdictTold : StatusDto := statusDto .verified

theorem followed_arrivals : followed.filterMap Act.arrival =
    [(0, .call (.serve (.verify ProviiVerifier.Sample.submission))), (1, .poll poll),
      (2, .call (.serve (.redeem ProviiVerifier.Sample.redemption))), (3, .poll poll)] := rfl

/-- The run, as one in any order and as one whose objects can read their storage. -/
theorem followed_run {R : Rules (service .sample) Visit} [DecidableRules R]
    (h : ((Pool.start ProviiVerifier.Sample.state).replay (Visit.handle .sample) R
      followed).any (fun p => decide (p.outcome 1 = some (.ok (.polled proofTold)) ∧
        p.outcome 3 = some (.ok (.polled verdictTold)) ∧
        (own 1 p.world.trace).length ≤ (own 1 (p.world.trace.drop 14)).length ∧
        (own 3 (p.world.trace.drop 14)).length = 0)) = true) :
    ∃ p : Pool (service .sample) Visit ApiError VisitReply,
      Run (Visit.handle .sample) R (· = ProviiVerifier.Sample.state) p ∧
        p.outcome 1 = some (.ok (.polled proofTold)) ∧
        p.outcome 3 = some (.ok (.polled verdictTold)) ∧
        .arrive 1 (.poll poll) ∈ p.world.trace ∧ .arrive 3 (.poll poll) ∈ p.world.trace ∧
        ReadBefore p.world.trace poll.sid 1 3 := by
  have hrun : ∃ p : Pool (service .sample) Visit ApiError VisitReply,
      Run (Visit.handle .sample) R (· = ProviiVerifier.Sample.state) p ∧ _ ∧ _ :=
    Run.of_replay_arrivals ProviiVerifier.Sample.state followed rfl h
  obtain ⟨p, hr, ⟨hfirst, hsecond, hdone, hnone⟩, harrivals⟩ := hrun
  rw [followed_arrivals] at harrivals
  obtain ⟨visit, hm, -⟩ := hr.outcome (guarded_visit .sample) hfirst
  obtain ⟨visit', hm', -⟩ := hr.outcome (guarded_visit .sample) hsecond
  have hvisit : visit = .poll poll := by simpa using harrivals 1 visit hm
  have hvisit' : visit' = .poll poll := by simpa using harrivals 3 visit' hm'
  subst hvisit hvisit'
  exact ⟨p, hr, hfirst, hsecond, hm, hm', readBefore_of_drop 14 hdone hnone⟩

end Sample

/-- The poll after the redemption tells the shop of the verdict. -/
theorem poll_sound_followed : ∃ (p : Pool (service .sample) Visit ApiError VisitReply)
    (c₀ : CachedChallenge),
    Run (Visit.handle .sample) (anyOrder .sample Visit) (· = ProviiVerifier.Sample.state) p ∧
      p.outcome 3 = some (.ok (.polled Sample.verdictTold)) ∧
      OriginalOf ProviiVerifier.Sample.state (calls p.world.trace) Sample.poll.sid c₀ ∧
      (ProvedBySubmission c₀ (calls p.world.trace) Sample.poll.sid ∨
        ProvedBySimulation c₀ (calls p.world.trace) Sample.poll.sid) ∧
      SimulatedProofs.RedeemedBy c₀ (calls p.world.trace) Sample.poll.sid := by
  obtain ⟨p, hr, -, hout, -, harrive, -⟩ := Sample.followed_run (R := anyOrder .sample Visit)
    (by decide +kernel)
  obtain ⟨c₀, c, horiginal, -, -, -, -, -, hproved, hredeemed⟩ :=
    poll_sound ProviiVerifier.Sample.fresh_state hr harrive hout
  exact ⟨p, c₀, hr, hout, horiginal, hproved rfl, hredeemed rfl⟩

/-- The poll after the redemption goes on from the one before it. -/
theorem polls_forward_followed : ∃ p : Pool (service .sample) Visit ApiError VisitReply,
    Run (Visit.handle .sample) (readableOrder .sample) (· = ProviiVerifier.Sample.state) p ∧
      p.outcome 1 = some (.ok (.polled Sample.proofTold)) ∧
      p.outcome 3 = some (.ok (.polled Sample.verdictTold)) ∧
      Onward Sample.proofTold Sample.verdictTold := by
  obtain ⟨p, hr, hfirst, hsecond, harrive, harrive', hbefore⟩ :=
    Sample.followed_run (R := readableOrder .sample) (by decide +kernel)
  obtain ⟨-, honward⟩ := polls_forward ProviiVerifier.Sample.fresh_state hr harrive hfirst
  exact ⟨p, hr, hfirst, hsecond, honward 3 Sample.poll _ harrive' hsecond rfl hbefore⟩

end ChallengePoll

end ProviiVerifier

/-
  The answers to the status polls of a hosted session, over interleaved runs with submissions and
  redemptions.

  A poll reads the record of the challenge and then the clock. The object hides a record that has
  expired, so an answer is made from a record that was there before its expiry and a time that may
  be after it.

  Proved: an answer with a verified proof says `expired` exactly when the clock passed the expiry
  of a record with a proof between the two; of two polls of a session whose reads and whose answers
  come in the same order, the later one never takes anything back (`polls_truthful`). A poll that
  another one overtakes may (`expired_with_proof`).
-/
import ProviiVerifier.Interleaving.Clock
import ProviiVerifier.Original
import ProviiVerifier.Readers
import ProviiVerifier.SessionRecord

namespace ProviiVerifier

open Interleaving Prog

namespace HostedPolls

open Reader (Counted Reported PollOutcome)

variable {app : AppState} {s₀ : State}

/-! ## Runs -/

/-- No request to a challenge object is late, its storage can be read, and a read of a session
answers what is stored, or fails. -/
def faultless : (op : Op) → Choice op → Prop
  | .challengeDO _ _, .served f _ => f.recordGet = true
  | .challengeDO _ _, .late => False
  | .getSession _, some (.ok _) => False
  | _, _ => True

/-- A record with a proof keeps it, or is verified. -/
def keepsProof : Option CachedChallenge → Option CachedChallenge → Prop
  | some c, some d => c.state = .proofOkWaitingForRedeem →
      d.state = .proofOkWaitingForRedeem ∨ d.state = .verified
  | _, _ => True

/-- An operation keeps the proof of the record that it is on. -/
def proofKept (app : AppState) (s : State) : (op : Op) → Choice op → Prop
  | .challengeDO id req, c =>
    keepsProof (s.record id) ((perform app s (.challengeDO id req) c).2.record id)
  | _, _ => True

/-- The runs of submissions, redemptions and polls, in any order. -/
def anyOrder (app : AppState) : Rules (service app) Reader :=
  { arrive := fun _ _ _ => True
    call := fun w _ op c => faultless op c ∧ proofKept app w.state op c
    env := fun _ _ => True }

/-- A state that runs start from: nothing is in flight, and every session is stored under its
id. -/
structure Settled (s : State) : Prop where
  inflight : s.inflight = []
  keyed : ∀ key session, s.sessions key = some session → session.sessionId = key

variable {w : World (service app) Reader} {p : Pool (service app) Reader ApiError Told}

/-! ## The record -/

/-- Where a record can get to that keeps its proof. -/
def Leads (s t : ChallengeState) : Prop :=
  s = t ∨ s = .pending ∨ s = .proofOkWaitingForRedeem ∧ t = .verified

theorem Leads.refl (s : ChallengeState) : Leads s s := .inl rfl

/-- **One update** leads on. -/
theorem Leads.step {s t u : ChallengeState} (h : Leads s t) (hvalid : isValidTransition t u = true)
    (hkeep : t = .proofOkWaitingForRedeem → u = .proofOkWaitingForRedeem ∨ u = .verified) :
    Leads s u := by
  rcases h with rfl | rfl | ⟨rfl, rfl⟩
  · by_cases hterm : isTerminalState s = true
    · exact .inl (ChallengeDO.transition_of_terminal hterm hvalid).symm
    · by_cases hpending : s = .pending
      · exact .inr (.inl hpending)
      · have hproof : s = .proofOkWaitingForRedeem := by
          cases s with
          | pending => exact absurd rfl hpending
          | proofOkWaitingForRedeem => rfl
          | _ => exact absurd rfl hterm
        rcases hkeep hproof with hu | hu
        · exact .inl (hproof.trans hu.symm)
        · exact .inr (.inr ⟨hproof, hu⟩)
  · exact .inr (.inl rfl)
  · exact .inr (.inr ⟨rfl, ChallengeDO.transition_of_terminal rfl hvalid⟩)

/-- The record is the one that was stored for the challenge at the start, in a later state. -/
def Stems (s₀ : State) (id : Uuid) (c : CachedChallenge) : Prop :=
  ∃ c₀, s₀.record id = some c₀ ∧ c.SameChallenge c₀

theorem Stems.expiresAt {id : Uuid} {c d : CachedChallenge} (hc : Stems s₀ id c)
    (hd : Stems s₀ id d) : c.expiresAt = d.expiresAt := by
  obtain ⟨c₀, hc₀, hc⟩ := hc
  obtain ⟨d₀, hd₀, hd⟩ := hd
  rw [hc₀] at hd₀
  cases hd₀
  exact hc.expiresAt.trans hd.expiresAt.symm

theorem writes_derived {reader : Reader} {h : History Op Res} {id : Uuid} {c : CachedChallenge}
    (hw : reader.Writes app h id c) : ∃ d, ChallengeStore.Read id d h ∧ Derived d c := by
  cases reader with
  | verify req => exact Verify.Writes.derived hw
  | redeem req => exact Redeem.Writes.derived hw
  | hostedRedeem req => exact HostedRedeem.Writes.derived hw
  | hostedStatus req => exact False.elim hw

theorem recordRule_stems (hs : Settled s₀) :
    RecordRule (Reader.handle app) (anyOrder app) (· = s₀) (Reader.Writes app)
      (fun _ => Stems s₀) (fun _ _ _ => True) := by
  refine ⟨fun _ _ _ _ h => h, fun _ _ _ _ _ => trivial, ?_, fun _ _ _ _ _ _ _ _ _ => trivial,
    ?_, ?_⟩
  · rintro s rfl
    exact ⟨hs.inflight, fun id c hc => ⟨c, hc, .refl c⟩⟩
  · intro w i req id c ch _ hinv _ hw
    obtain ⟨d, hread, hderived⟩ := writes_derived hw
    obtain ⟨c₀, hc₀, hsame⟩ := hinv.read i id d hread.1
    exact ⟨c₀, hc₀, hderived.same.trans hsame⟩
  · intro w id e upd _ he _ _ _
    obtain ⟨c₀, hc₀, hsame⟩ := he
    exact ⟨c₀, hc₀, (ChallengeDO.mergeUpdate_same e upd).trans hsame⟩

/-- **Every record of a run** stems from the start. -/
theorem Run.stems (hs : Settled s₀) (hr : Run (Reader.handle app) (anyOrder app) (· = s₀) p) :
    RecordInv (fun _ => Stems s₀) (fun _ _ _ => True) p.world :=
  Run.recordInv (Reader.routeOp_reader app) (recordRule_stems hs) hr

/-- What is in flight, and what became of every record that was read. -/
structure PollInv (w : World (service app) Reader) : Prop where
  inflight : ∀ id req, .challenge id req ∉ State.inflight w.state
  follows : ∀ i id c, ReadBy w.trace i id c → c.expiresAt ≤ State.clock w.state ∨
    ∃ d, State.record w.state id = some d ∧ Leads c.state d.state

/-- A message that an operation leaves behind is not one to a challenge object. -/
theorem inflight_call {s : State} {op : Op} {c : Choice op} (hc : faultless op c)
    (h : ∀ id req, .challenge id req ∉ s.inflight) :
    ∀ id req, .challenge id req ∉ (perform app s op c).2.inflight := by
  intro id req hm
  have hstep : OpStep app s op (perform app s op c).2 := perform_opStep c
  by_cases hop : ∃ id r, op = .challengeDO id r
  · obtain ⟨id', r, rfl⟩ := hop
    cases c with
    | lost => exact h id req hm
    | late => exact hc
    | served f answered => exact h id req hm
  · rcases hstep.inflight hm with hm | hmsg
    · exact h id req hm
    · cases op <;> simp only [Op.message, Option.some.injEq, reduceCtorEq] at hmsg
      exact hop ⟨_, _, rfl⟩

/-- **A request to an object** keeps what became of a record. -/
theorem follows_served {s : State} {f : ChallengeDO.Faults} {id : Uuid}
    {r : ChallengeDO.Request} {c : CachedChallenge} (hget : f.recordGet = true)
    (hr : ∀ v, r ≠ .delete v)
    (hkeep : keepsProof (s.record id) ((s.serveChallenge f id r).2.record id))
    (hsame : ∀ d, s.record id = some d → d.expiresAt = c.expiresAt)
    (h : c.expiresAt ≤ s.clock ∨ ∃ d, s.record id = some d ∧ Leads c.state d.state) :
    c.expiresAt ≤ s.clock ∨
      ∃ d, (s.serveChallenge f id r).2.record id = some d ∧ Leads c.state d.state := by
  rcases h with h | ⟨d, hd, hleads⟩
  · exact .inl h
  · have hstep := serveChallenge_recordStep s f id r
    rw [hd] at hstep hkeep
    generalize (s.serveChallenge f id r).2.record id = after at hstep hkeep
    cases hstep with
    | keep => exact .inr ⟨d, rfl, hleads⟩
    | expire hexp => exact .inl (hsame d hd ▸ hexp)
    | delete hdelete => exact absurd hdelete (hr _)
    | create _ _ habsent =>
      rcases habsent with hnone | hunread
      · cases hnone
      · rw [hget] at hunread
        cases hunread
    | update _ _ _ hvalid => exact .inr ⟨_, rfl, hleads.step hvalid hkeep⟩

/-- A record that was just read is still stored. -/
theorem record_read {s : State} {f : ChallengeDO.Faults} {id : Uuid} {c : CachedChallenge}
    (h : (s.serveChallenge f id (.get id.toString)).1 = some (.record c)) :
    (s.serveChallenge f id (.get id.toString)).2.record id = some c := by
  obtain ⟨hstored, hlive⟩ := serveChallenge_get h
  have hstep := serveChallenge_recordStep s f id (.get id.toString)
  rw [hstored] at hstep
  generalize (s.serveChallenge f id (.get id.toString)).2.record id = after at hstep ⊢
  cases hstep with
  | keep => rfl
  | expire hexp => exact absurd hexp (Nat.not_le.mpr hlive)
  | delete hdelete => cases hdelete
  | create hcreate => cases hcreate
  | update hupdate => cases hupdate

theorem record_performed {s : State} {id : Uuid} {c : CachedChallenge}
    {ch : Choice (.challengeDO id (.get id.toString))}
    (h : (perform app s (.challengeDO id (.get id.toString)) ch).1 = some (.record c)) :
    (perform app s (.challengeDO id (.get id.toString)) ch).2.record id = some c := by
  cases ch with
  | lost => simp only [perform, reduceCtorEq] at h
  | late => simp only [perform, reduceCtorEq] at h
  | served f answered =>
    cases answered with
    | false => simp only [perform, Bool.false_eq_true, if_false, reduceCtorEq] at h
    | true =>
      simp only [perform, if_true] at h ⊢
      exact record_read h

/-- The readers delete no record. -/
theorem routeOp_ne_delete {J : Uuid → CachedChallenge → Prop} {id : Uuid}
    {r : ChallengeDO.Request} (hop : RouteOp app J (.challengeDO id r)) :
    ∀ v, r ≠ .delete v := by
  intro v hdelete
  rcases hop with hget | ⟨c, -, hupdate | hcreate⟩
  · rw [hdelete] at hget
    cases hget
  · rw [hdelete] at hupdate
    cases hupdate
  · rw [hdelete] at hcreate
    cases hcreate

/-- **One operation** keeps what became of a record. -/
theorem follows_call {s : State} {op : Op} {ch : Choice op} {id : Uuid} {c : CachedChallenge}
    (hch : faultless op ch) (hkept : proofKept app s op ch)
    (hdelete : ∀ id v, op ≠ .challengeDO id (.delete v))
    (hsame : ∀ d, s.record id = some d → d.expiresAt = c.expiresAt)
    (h : c.expiresAt ≤ s.clock ∨ ∃ d, s.record id = some d ∧ Leads c.state d.state) :
    c.expiresAt ≤ (perform app s op ch).2.clock ∨
      ∃ d, (perform app s op ch).2.record id = some d ∧ Leads c.state d.state := by
  have hstep : OpStep app s op (perform app s op ch).2 := perform_opStep ch
  rw [hstep.clock]
  by_cases hdo : ∃ id' r, op = .challengeDO id' r
  · obtain ⟨id', r, rfl⟩ := hdo
    cases ch with
    | lost => exact h
    | late => exact False.elim hch
    | served f answered =>
      by_cases hid : id = id'
      · subst hid
        have hr : ∀ v, r ≠ .delete v := fun v heq => hdelete id v (by rw [heq])
        exact follows_served hch hr hkept hsame h
      · have hne : (s.serveChallenge f id' r).2.record id = s.record id :=
          serveChallenge_record_ne hid
        rcases h with h | ⟨d, hd, hleads⟩
        · exact .inl h
        · exact .inr ⟨d, hne.trans hd, hleads⟩
  · have hrecord : (perform app s op ch).2.record id = s.record id :=
      record_congr (hstep.challenges fun id r heq => hdo ⟨id, r, heq⟩) id
    rw [hrecord]
    exact h

theorem PollInv.call (hs : Settled s₀)
    (hreach : Reached (Reader.handle app) (anyOrder app) (· = s₀) w) (h : PollInv w) {i : Nat}
    {op : Op} {c : (service app).Choice op} {J : Uuid → CachedChallenge → Prop}
    (hop : RouteOp app J op) (hR : (anyOrder app).call w i op c) : PollInv (w.after i op c) := by
  obtain ⟨q, hq, rfl⟩ := hreach
  have hstems := Run.stems hs hq
  refine ⟨inflight_call hR.1 h.inflight, ?_⟩
  intro j id d hread
  rcases mem_own_call hread with hread | ⟨rfl, hnew⟩
  · -- a record that was read before
    have hdelete : ∀ id v, op ≠ .challengeDO id (.delete v) := by
      rintro id v rfl
      exact routeOp_ne_delete hop v rfl
    exact follows_call hR.1 hR.2 hdelete
      (fun e he => (hstems.stored id e he).expiresAt (hstems.read j id d hread))
      (h.follows j id d hread)
  · -- the record that is read now
    injection hnew with hop' hres
    subst hop'
    have hres := eq_of_heq hres
    exact .inr ⟨d, record_performed hres.symm, .refl d.state⟩

/-- **A step of the environment.** -/
theorem PollInv.moved (h : PollInv w) (e : Env) : PollInv (w.moved e) := by
  have hstep : EnvStep app w.state (envStep app w.state e) := envStep_envStep e
  refine ⟨fun id req hm => h.inflight id req (hstep.inflight hm), ?_⟩
  intro i id c hread
  have hclock : State.clock w.state ≤ (envStep app w.state e).clock := hstep.clock_le
  have hrecord : (envStep app w.state e).record id = State.record w.state id := by
    generalize envStep app w.state e = t at hstep
    cases hstep with
    | challenge hm => exact absurd hm (h.inflight _ _)
    | credits =>
      rw [deduct_eq]
      rfl
    | _ => rfl
  rcases h.follows i id c hread with hold | ⟨d, hd, hleads⟩
  · exact .inl (Nat.le_trans hold hclock)
  · exact .inr ⟨d, hrecord.trans hd, hleads⟩

/-- **What became of the records that a run read.** -/
theorem Run.pollInv (hs : Settled s₀)
    (hr : Run (Reader.handle app) (anyOrder app) (· = s₀) p) : PollInv p.world := by
  refine hr.invariant (Reader.routeOp_reader app) ?_ ?_ ?_ ?_
  · rintro s rfl
    refine ⟨fun id req hm => ?_, fun i id c hread => ?_⟩
    · rw [hs.inflight] at hm
      exact absurd hm List.not_mem_nil
    · rw [ReadBy, own_nil] at hread
      exact absurd hread List.not_mem_nil
  · intro w i req _ h _
    exact ⟨h.inflight, h.follows⟩
  · intro w i op c req hreach h _ hop hR
    exact h.call hs hreach hop hR
  · intro w e _ h _
    exact h.moved e

/-- **A later read** finds a record that the earlier one leads to. -/
theorem leads_of_read (hs : Settled s₀)
    (hr : Run (Reader.handle app) (anyOrder app) (· = s₀) p)
    {new old : List (Event (service app) Reader)} {i j : Nat} {s : State} {id : Uuid}
    {ch : (service app).Choice (.challengeDO id (.get id.toString))} {c d : CachedChallenge}
    (ht : p.world.trace = new ++ .call j s (.challengeDO id (.get id.toString)) ch :: old)
    (hd : (perform app s (.challengeDO id (.get id.toString)) ch).1 = some (.record d))
    (hc : ReadBy old i id c) : Leads c.state d.state ∧ c.expiresAt = d.expiresAt := by
  obtain ⟨⟨q, hq, hworld⟩, -, -⟩ := hr.call_event (Reader.routeOp_reader app) ht
  have hinv := Run.pollInv hs hq
  have hstems := Run.stems hs hq
  rw [hworld] at hinv hstems
  obtain ⟨hstored, hlive⟩ := perform_get hd
  have hsame : c.expiresAt = d.expiresAt :=
    (hstems.read i id c hc).expiresAt (hstems.stored id d hstored)
  refine ⟨?_, hsame⟩
  rcases hinv.follows i id c hc with hlapsed | ⟨e, he, hleads⟩
  · have hlapsed : c.expiresAt ≤ s.clock := hlapsed
    omega
  · have he : s.record id = some e := he
    rw [hstored] at he
    cases he
    exact hleads

/-! ## The session -/

/-- The session is the one that was stored under the key at the start, with other counters. -/
def Names (s₀ : State) (key : String) (session : HostedSession) : Prop :=
  session.sessionId = key ∧ ∃ session₀, s₀.sessions key = some session₀ ∧
    session.verifierChallengeId = session₀.verifierChallengeId

/-- Every session that is stored or was read names the challenge it named at the start. -/
structure SessionInv (s₀ : State) (w : World (service app) Reader) : Prop where
  stored : ∀ key session, State.sessions w.state key = some session → Names s₀ key session
  read : ∀ i key session, (⟨.getSession key, .ok (some session)⟩ : Sigma Res) ∈ own i w.trace →
    Names s₀ key session

theorem names_counted {key : String} {read session : HostedSession} (h : Names s₀ key read)
    (hc : Counted read session) : Names s₀ key session := by
  rcases hc with rfl | rfl
  · exact h
  · exact h

variable (app) in
/-- A read of a session answers what is stored. -/
theorem getSession_stored {s : State} {key : String} {c : Choice (.getSession key)}
    {session : HostedSession} (hc : faultless (.getSession key) c)
    (h : (perform app s (.getSession key) c).1 = .ok (some session)) :
    s.sessions key = some session := by
  cases c with
  | none => exact Except.ok.inj h
  | some answer =>
    cases answer with
    | ok _ => exact False.elim hc
    | error e => cases h

variable (app) in
/-- A write of a session, and what is stored under a key after it. -/
theorem sessions_put {s : State} {key key' : String} {session session' : HostedSession}
    {c : Choice (.putSession key' session')}
    (h : (perform app s (.putSession key' session') c).2.sessions key = some session) :
    key' = key ∧ session' = session ∨ s.sessions key = some session := by
  rw [SessionRecord.perform_put] at h
  split at h
  · next hk => exact .inl ⟨hk.1, Option.some.inj h⟩
  · exact .inr h

theorem SessionInv.call (h : SessionInv s₀ w) {i : Nat} {op : Op} {c : (service app).Choice op}
    (hop : SessionWrite Counted (own i w.trace) op) (hR : (anyOrder app).call w i op c) :
    SessionInv s₀ (w.after i op c) := by
  have hstep : OpStep app w.state op (perform app w.state op c).2 := perform_opStep c
  refine ⟨?_, ?_⟩
  · intro key session hsession
    by_cases hput : ∃ key' session', op = .putSession key' session'
    · obtain ⟨key', session', rfl⟩ := hput
      obtain ⟨key₀, read, hread, hkey, hcounted⟩ := hop key' session' rfl
      have hnames := names_counted (h.read i key₀ read hread) hcounted
      have hkey : key' = key₀ := hkey.trans hnames.1
      rcases sessions_put app hsession with ⟨rfl, rfl⟩ | hsession
      · rw [hkey]
        exact hnames
      · exact h.stored key session hsession
    · have hsame := hstep.sessions fun key session heq => hput ⟨key, session, heq⟩
      have hsession : (perform app w.state op c).2.sessions key = some session := hsession
      rw [hsame] at hsession
      exact h.stored key session hsession
  · intro j key session hread
    rcases mem_own_call hread with hread | ⟨-, hnew⟩
    · exact h.read j key session hread
    · injection hnew with hop' hres
      subst hop'
      have hres := eq_of_heq hres
      exact h.stored key session (getSession_stored app hR.1 hres.symm)

/-- **Every session of a run** names the challenge it named at the start. -/
theorem Run.sessionInv (hs : Settled s₀)
    (hr : Run (Reader.handle app) (anyOrder app) (· = s₀) p) : SessionInv s₀ p.world := by
  refine hr.invariant (Reader.sessionWrite_reader app) ?_ ?_ ?_ ?_
  · rintro s rfl
    refine ⟨fun key session hsession => ?_, fun i key session hread => ?_⟩
    · exact ⟨hs.keyed key session hsession, session, hsession, rfl⟩
    · rw [own_nil] at hread
      exact absurd hread List.not_mem_nil
  · intro w i req _ h _
    exact ⟨h.stored, h.read⟩
  · intro w i op c req _ h _ hop hR
    exact h.call hop hR
  · intro w e _ h _
    have hstep : EnvStep app w.state (envStep app w.state e) := envStep_envStep e
    refine ⟨fun key session hsession => ?_, h.read⟩
    have hsession : (envStep app w.state e).sessions key = some session := hsession
    rw [hstep.sessions] at hsession
    exact h.stored key session hsession

/-! ## The answers -/

/-- A poll found a record with a proof, and read the clock when the record had expired. -/
def Lapsing (tr : List (Event (service app) Reader)) (i : Nat) : Prop :=
  ∃ id c now, Reported (own i tr) id c now ∧ c.state = .proofOkWaitingForRedeem ∧
    c.expiresAt < now

/-- An answer with a verified proof is in a state that has one. -/
def Truthful (a : StatusResponse) : Prop :=
  a.proofVerified = true → a.state = .proofOk ∨ a.state = .verified

/-- The later answer takes nothing back. -/
structure Steady (a b : StatusResponse) : Prop where
  complete : a.complete = some true → b.complete = some true
  verified : a.state = .verified → b.state = .verified
  proof : a.proofVerified = true → b.proofVerified = true

section Response

variable {key key' : String} {session session' : HostedSession} {c d : CachedChallenge}
  {now now' : Nat}

theorem proofVerified_iff : (HostedStatus.response key session c now).proofVerified = true ↔
    c.state = .proofOkWaitingForRedeem ∨ c.state = .verified := by
  simp [HostedStatus.response]

theorem verified_iff : (HostedStatus.response key session c now).state = .verified ↔
    c.state = .verified := by
  unfold HostedStatus.response
  dsimp only
  split
  · next hexpired =>
    constructor
    · exact nofun
    · exact fun hstate => absurd hstate hexpired.2
  · cases c.state <;> simp [HostedSessionState.fromChallengeState]

theorem complete_iff : (HostedStatus.response key session c now).complete = some true ↔
    c.state ≠ .pending ∨ c.expiresAt < now := by
  unfold HostedStatus.response
  dsimp only
  split
  · next hexpired => simp [hexpired.1]
  · next hnot =>
    cases hstate : c.state <;> simp [HostedSessionState.fromChallengeState]
    have hlate : ¬ now > c.expiresAt := fun hlate => hnot ⟨hlate, by rw [hstate]; nofun⟩
    omega

theorem truthful_iff : Truthful (HostedStatus.response key session c now) ↔
    (c.state = .proofOkWaitingForRedeem → now ≤ c.expiresAt) := by
  unfold Truthful
  rw [proofVerified_iff, verified_iff]
  unfold HostedStatus.response
  dsimp only
  split
  · next hexpired =>
    cases hstate : c.state <;> simp
    · have hlate := hexpired.1
      omega
  · next hnot =>
    cases hstate : c.state <;> simp [HostedSessionState.fromChallengeState]
    have hlate : ¬ now > c.expiresAt := fun hlate => hnot ⟨hlate, by rw [hstate]; nofun⟩
    omega

/-- **Two responses** from records in order, at times in order. -/
theorem steady_response (hleads : Leads c.state d.state) (hsame : c.expiresAt = d.expiresAt)
    (htime : now ≤ now') : Steady (HostedStatus.response key session c now)
      (HostedStatus.response key' session' d now') := by
  refine ⟨?_, ?_, ?_⟩
  · rw [complete_iff, complete_iff]
    rintro (hstate | hexpired)
    · rcases hleads with heq | hpending | ⟨-, hverified⟩
      · exact .inl (heq ▸ hstate)
      · exact absurd hpending hstate
      · exact .inl (by rw [hverified]; nofun)
    · exact .inr (by omega)
  · rw [verified_iff, verified_iff]
    intro hstate
    rcases hleads with heq | hpending | ⟨-, hverified⟩
    · exact heq ▸ hstate
    · rw [hpending] at hstate
      cases hstate
    · exact hverified
  · rw [proofVerified_iff, proofVerified_iff]
    rintro hstate
    rcases hleads with heq | hpending | ⟨-, hverified⟩
    · exact heq ▸ hstate
    · rw [hpending] at hstate
      rcases hstate with hstate | hstate
      · cases hstate
      · cases hstate
    · exact .inr hverified

end Response

theorem forward_service (app : AppState) : Forward (service app) State.clock :=
  ⟨fun _ _ c => Nat.le_of_eq (perform_opStep c).clock.symm,
    fun _ e => (envStep_envStep e).clock_le⟩

/-- The poll of an answer. -/
theorem answered_poll (hr : Run (Reader.handle app) (anyOrder app) (· = s₀) p) {i : Nat}
    {a : StatusResponse} (ha : p.outcome i = some (.ok (.status a))) :
    ∃ session id c now,
      (⟨.getSession a.sessionId, .ok (some session)⟩ : Sigma Res) ∈ own i p.world.trace ∧
      parseUuid session.verifierChallengeId = some id ∧
      Reported (own i p.world.trace) id c now ∧
      a = HostedStatus.response a.sessionId session.incrementStatusChecks c now := by
  obtain ⟨reader, -, hout⟩ := hr.outcome (Reader.routeOp_reader app) ha
  cases reader with
  | hostedStatus req =>
    obtain ⟨r, hpoll, hr⟩ := hout
    cases r with
    | error e => cases hr
    | ok a' =>
      cases hr
      obtain ⟨session, id, c, now, hread, hnames, hreported, heq⟩ := hpoll a rfl
      have hkey : a.sessionId = req.sessionId := by rw [heq]; rfl
      rw [hkey]
      exact ⟨session, id, c, now, hread, hnames, hreported, heq⟩
  | verify req => exact absurd rfl (hout a)
  | redeem req => exact absurd rfl (hout a)
  | hostedRedeem req => exact absurd rfl (hout a)

/-- The report of a poll is one. -/
theorem Reported.unique {h : History Op Res} {id id' : Uuid} {c d : CachedChallenge}
    {now now' : Nat} (hc : Reported h id c now) (hd : Reported h id' d now') :
    c = d ∧ now = now' := by
  obtain ⟨past, rfl⟩ := hc
  obtain ⟨past', heq⟩ := hd
  injection heq with hnow heq
  injection heq with hrecord _
  injection hnow with _ hnow
  injection hrecord with hop hrecord
  subst hnow
  injection hop with hid
  subst hid
  cases hrecord
  exact ⟨rfl, rfl⟩

/-- **One answer**: it is truthful exactly when its poll was not lapsing. -/
theorem truthful_poll (hr : Run (Reader.handle app) (anyOrder app) (· = s₀) p) {i : Nat}
    {a : StatusResponse} (ha : p.outcome i = some (.ok (.status a))) :
    Truthful a ↔ ¬ Lapsing p.world.trace i := by
  obtain ⟨session, id, c, now, -, -, hreported, heq⟩ := answered_poll hr ha
  rw [heq, truthful_iff]
  constructor
  · rintro htime ⟨id', d, now', hreported', hproof, hlate⟩
    obtain ⟨rfl, rfl⟩ := Reported.unique hreported hreported'
    exact absurd (htime hproof) (Nat.not_le.mpr hlate)
  · intro hnot hproof
    by_contra hlate
    exact hnot ⟨id, c, now, hreported, hproof, Nat.lt_of_not_le hlate⟩

/-- **Two answers**: reads and answers in order take nothing back. -/
theorem steady_polls (hs : Settled s₀)
    (hr : Run (Reader.handle app) (anyOrder app) (· = s₀) p) {i j : Nat} {a b : StatusResponse}
    (ha : p.outcome i = some (.ok (.status a))) (hb : p.outcome j = some (.ok (.status b)))
    (hsession : a.sessionId = b.sessionId) (hread : DoneBefore 1 p.world.trace i j)
    (hanswer : DoneBefore 0 p.world.trace i j) : Steady a b := by
  obtain ⟨session, id, c, now, hfound, hnames, ⟨past, hown⟩, heq⟩ := answered_poll hr ha
  obtain ⟨session', id', d, now', hfound', hnames', ⟨past', hown'⟩, heq'⟩ := answered_poll hr hb
  have hinv := Run.sessionInv hs hr
  -- both polls are of one challenge
  have hid : id' = id := by
    obtain ⟨-, first, hfirst, hsame⟩ := hinv.read i _ _ hfound
    obtain ⟨-, first', hfirst', hsame'⟩ := hinv.read j _ _ hfound'
    rw [hsession, hfirst'] at hfirst
    cases hfirst
    rw [hsame', ← hsame, hnames] at hnames'
    exact (Option.some.inj hnames').symm
  subst hid
  have hdrop : (own i p.world.trace).drop 1 =
      ⟨.challengeDO id' (.get id'.toString), some (.record c)⟩ :: past := by rw [hown]; rfl
  have hdrop' : (own j p.world.trace).drop 1 =
      ⟨.challengeDO id' (.get id'.toString), some (.record d)⟩ :: past' := by rw [hown']; rfl
  have hleads : Leads c.state d.state ∧ c.expiresAt = d.expiresAt := by
    obtain ⟨new, s, op, ch, old, ht, hop, -, hdone⟩ := hread.past hdrop'
    injection hop with hop hres
    subst hop
    have hres := (eq_of_heq hres).symm
    rw [hdrop] at hdone
    exact leads_of_read hs hr ht hres (hdone.subset List.mem_cons_self)
  have htime : now ≤ now' := by
    obtain ⟨s, op, ch, s', op', ch', hop, hop', hle⟩ :=
      hanswer.clock_le (forward_service app) hr hown hown'
    injection hop with hop hnow
    injection hop' with hop' hnow'
    subst hop hop'
    have hnow : now = s.clock := eq_of_heq hnow
    have hnow' : now' = s'.clock := eq_of_heq hnow'
    rw [hnow, hnow']
    exact hle
  rw [heq, heq']
  exact steady_response hleads.1 hleads.2 htime

/-- **What the polls of a session are told.** In every run, an answer with a verified proof is in a
state that has one exactly when the poll was not lapsing; and of two answers to polls of one
session, whose reads of the record and whose answers came in this order, the later one takes
nothing back. -/
theorem polls_truthful (hs : Settled s₀)
    (hr : Run (Reader.handle app) (anyOrder app) (· = s₀) p) :
    (∀ i a, p.outcome i = some (.ok (.status a)) →
      (Truthful a ↔ ¬ Lapsing p.world.trace i)) ∧
    ∀ i j a b, p.outcome i = some (.ok (.status a)) → p.outcome j = some (.ok (.status b)) →
      a.sessionId = b.sessionId → DoneBefore 1 p.world.trace i j →
      DoneBefore 0 p.world.trace i j → Steady a b := by
  refine ⟨fun i a ha => truthful_poll hr ha, ?_⟩
  intro i j a b ha hb hsession hread hanswer
  exact steady_polls hs hr ha hb hsession hread hanswer

/-! ## Samples -/

instance : ∀ c d, Decidable (keepsProof c d)
  | none, _ => .isTrue trivial
  | some _, none => .isTrue trivial
  | some c, some d => inferInstanceAs (Decidable (c.state = .proofOkWaitingForRedeem →
      d.state = .proofOkWaitingForRedeem ∨ d.state = .verified))

instance (app : AppState) : DecidableRules (anyOrder app) :=
  { arrive := fun _ _ _ => .isTrue trivial
    call := fun w i op => by
      apply Op.casesOn (motive := fun op => ∀ c, Decidable ((anyOrder app).call w i op c)) op
      case challengeDO =>
        intro id req (c : Delivery ChallengeDO.Faults)
        exact match c with
        | .lost => inferInstanceAs (Decidable (True ∧ keepsProof _ _))
        | .late => .isFalse fun h => h.1
        | .served f answered => inferInstanceAs (Decidable (f.recordGet = true ∧ keepsProof _ _))
      case getSession =>
        intro key (c : Option (Except ApiError (Option HostedSession)))
        exact match c with
        | none | some (.error _) => .isTrue ⟨trivial, trivial⟩
        | some (.ok _) => .isFalse fun h => h.1
      all_goals intros; exact .isTrue ⟨trivial, trivial⟩
    env := fun _ _ => .isTrue trivial }

/-- Request `i` arrives, and performs `n` operations that all go well. -/
def performs (i : Nat) (reader : Reader) (n : Nat) : List (Act (service .sample) Reader) :=
  .arrive i reader :: List.replicate n (.call i healthy)

/-- A poll of the shop's page. -/
def poll : Reader :=
  .hostedStatus
    { headers := Sample.hostedRedemption.headers
      sessionId := Sample.session.sessionId }

theorem settled_state : Settled Sample.state := by
  refine ⟨rfl, fun key session hsession => ?_⟩
  simp only [Sample.state] at hsession
  split at hsession
  · next hkey =>
    cases hsession
    exact hkey.symm
  · cases hsession

/-- The proof comes; a poll reads the record a second before its expiry, and the clock a second
after it. -/
def lateClock : List (Act (service .sample) Reader) :=
  performs 0 (.verify Sample.submission) 9 ++ .env (.tick 299) :: performs 1 poll 3 ++
    [.env (.tick 2), .call 1 healthy]

/-- A poll reads the pending record and waits; the proof comes, a second poll is answered, and then
the first one. -/
def overtaking : List (Act (service .sample) Reader) :=
  performs 1 poll 3 ++ performs 0 (.verify Sample.submission) 9 ++ performs 2 poll 4 ++
    [.call 1 healthy]

/-- One poll after the other, with the proof between them. -/
def oneByOne : List (Act (service .sample) Reader) :=
  performs 1 poll 4 ++ performs 0 (.verify Sample.submission) 9 ++ performs 2 poll 4

/-- What the sample session is told in a state. -/
def told (state : HostedSessionState) (proofVerified : Bool) (error : Option String)
    (pollAfter : Option Nat) (remainingChecks : Nat) : Told :=
  .status
    { sessionId := Sample.session.sessionId
      state := state
      createdAt := 1000
      expiresAt := 1300
      proofVerified := proofVerified
      complete := some (state ≠ .pending)
      error := error
      pollAfter := pollAfter
      remainingChecks := some remainingChecks }

/-- The polls before and after the proof, one after the other. -/
theorem polls_truthful_oneByOne :
    ∃ (p : Pool (service .sample) Reader ApiError Told) (a b : StatusResponse),
      Run (Reader.handle .sample) (anyOrder .sample) (· = Sample.state) p ∧
      p.outcome 1 = some (.ok (.status a)) ∧ p.outcome 2 = some (.ok (.status b)) ∧
      a.complete = some false ∧ b.complete = some true ∧
      (Truthful b ↔ ¬ Lapsing p.world.trace 2) ∧ Steady a b := by
  have hrun : ∃ p : Pool (service .sample) Reader ApiError Told,
      Run (Reader.handle .sample) (anyOrder .sample) (· = Sample.state) p ∧
        p.outcome 1 = some (.ok (told .pending false none (some 1002) 119)) ∧
        p.outcome 2 = some (.ok (told .proofOk true none none 118)) ∧
        (own 1 p.world.trace).length = 4 ∧ (own 2 p.world.trace).length = 4 ∧
        (own 1 (p.world.trace.drop 15)).length = 4 ∧ (own 2 (p.world.trace.drop 15)).length = 0 :=
    Run.of_replay Sample.state oneByOne rfl (by decide +kernel)
  obtain ⟨p, hr, ha, hb, hone, htwo, hdone, hnone⟩ := hrun
  have h := polls_truthful settled_state hr
  have hbefore : ∀ k, k < 4 → DoneBefore k p.world.trace 1 2 :=
    fun k hk => doneBefore_of_drop 15 (by omega) (by omega)
  exact ⟨p, _, _, hr, ha, hb, rfl, rfl, h.1 2 _ hb,
    h.2 1 2 _ _ ha hb rfl (hbefore 1 (by omega)) (hbefore 0 (by omega))⟩

/-- A record with a proof that expires between a poll's read and its clock is told as expired, with
its proof verified; and a poll that another one overtakes tells the session as pending again. -/
theorem expired_with_proof :
    (∃ p : Pool (service .sample) Reader ApiError Told,
      Run (Reader.handle .sample) (anyOrder .sample) (· = Sample.state) p ∧
        p.outcome 1 = some (.ok (told .expired true (some "Session expired") none 119))) ∧
    ∃ p : Pool (service .sample) Reader ApiError Told,
      Run (Reader.handle .sample) (anyOrder .sample) (· = Sample.state) p ∧
        p.outcome 2 = some (.ok (told .proofOk true none none 118)) ∧
        p.outcome 1 = some (.ok (told .pending false none (some 1002) 119)) ∧
        DoneBefore 0 p.world.trace 2 1 := by
  refine ⟨Run.of_replay Sample.state lateClock rfl (by decide +kernel), ?_⟩
  have hrun : ∃ p : Pool (service .sample) Reader ApiError Told,
      Run (Reader.handle .sample) (anyOrder .sample) (· = Sample.state) p ∧
        p.outcome 2 = some (.ok (told .proofOk true none none 118)) ∧
        p.outcome 1 = some (.ok (told .pending false none (some 1002) 119)) ∧
        (own 2 p.world.trace).length ≤ (own 2 (p.world.trace.drop 1)).length + 0 ∧
        (own 1 (p.world.trace.drop 1)).length + 0 + 1 ≤ (own 1 p.world.trace).length :=
    Run.of_replay Sample.state overtaking rfl (by decide +kernel)
  obtain ⟨p, hr, hsecond, hfirst, hdone, hleft⟩ := hrun
  exact ⟨p, hr, hsecond, hfirst, doneBefore_of_drop 1 hdone hleft⟩

end HostedPolls

end ProviiVerifier

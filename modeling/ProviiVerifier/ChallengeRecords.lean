/-
  What holds of every challenge record of a run.

  A record changes through the updates and creates that reach its object, at once or after their
  sender gave up. A property of records that every write keeps therefore holds of what is stored,
  of what a read answers and of what is still in flight.

  Proved: `Run.recordInv`, the rule that turns a fact about the writes of each handler into one
  about the records of a run.
-/
import ProviiVerifier.Requests
import ProviiVerifier.ChallengeFrame

namespace ProviiVerifier

open Interleaving Prog

/-! ## One request on an object -/

section Serve

variable {s : State} {f : ChallengeDO.Faults} {id : Uuid} {req : ChallengeDO.Request}

theorem serveChallenge_record_ne {id' : Uuid} (h : id' ≠ id) :
    (s.serveChallenge f id req).2.record id' = s.record id' := by
  simp [State.serveChallenge, State.record, h]

/-- **How a request can change the record** of its challenge. -/
theorem serveChallenge_recordStep (s : State) (f : ChallengeDO.Faults) (id : Uuid)
    (req : ChallengeDO.Request) : ChallengeDO.RecordStep s.clock f req id.toString
      (s.record id) ((s.serveChallenge f id req).2.record id) := by
  have hstep := ChallengeDO.fetch_recordStep (s.challenges id) s.clock f req id.toString
  simpa [State.serveChallenge, State.record] using hstep

/-- A property of the stored record, after a request that keeps it. -/
theorem serveChallenge_record {p p' : CachedChallenge → Prop}
    (hp : ∀ c, s.record id = some c → p c) (hkeep : ∀ c, p c → p' c)
    (hcreate : ∀ body c, req = .create id.toString body → body.value = some c → p' c)
    (hupdate : ∀ body upd e, req = .update id.toString body → body.value = some upd → p e →
      s.clock < e.expiresAt ∨ isTerminalState upd.state = true →
      isValidTransition e.state upd.state = true → p' (ChallengeDO.mergeUpdate e upd))
    {c : CachedChallenge} (hc : (s.serveChallenge f id req).2.record id = some c) : p' c := by
  have hstep := serveChallenge_recordStep s f id req
  generalize hr : s.record id = r at hstep
  rw [hc] at hstep
  cases hstep with
  | keep => exact hkeep c (hp c hr)
  | create hreq hval habs => exact hcreate _ c hreq hval
  | update hreq hval htime htrans => exact hupdate _ _ _ hreq hval (hp _ hr) htime htrans

/-- A record that a get answers is the stored one, before its expiry. -/
theorem getChallenge_record {st : ChallengeDO.Storage} {now : Nat} {u : String}
    {c : CachedChallenge} (h : (ChallengeDO.getChallenge st now f u).1 = some (.record c)) :
    st.records u = some c ∧ now < c.expiresAt := by
  unfold ChallengeDO.getChallenge at h
  repeat' split at h
  all_goals
    simp only [Option.some.injEq, ChallengeDO.Reply.record.injEq, reduceCtorEq] at h
  next hread hexp =>
    rw [← h]
    exact ⟨ChallengeDO.readRecord_some hread, hexp⟩

theorem serveChallenge_get {c : CachedChallenge}
    (h : (s.serveChallenge f id (.get id.toString)).1 = some (.record c)) :
    s.record id = some c ∧ s.clock < c.expiresAt := by
  simp only [State.serveChallenge, ChallengeDO.fetch] at h
  exact getChallenge_record h

end Serve

/-- What a get of a run answered was stored. -/
theorem perform_get {app : AppState} {s : State} {id : Uuid} {c : CachedChallenge}
    {ch : Choice (.challengeDO id (.get id.toString))}
    (h : (perform app s (.challengeDO id (.get id.toString)) ch).1 = some (.record c)) :
    s.record id = some c ∧ s.clock < c.expiresAt := by
  cases ch with
  | lost => simp only [perform, reduceCtorEq] at h
  | late => simp only [perform, reduceCtorEq] at h
  | served f answered =>
    cases answered with
    | false => simp only [perform, Bool.false_eq_true, if_false, reduceCtorEq] at h
    | true =>
      simp only [perform, if_true] at h
      exact serveChallenge_get h

/-! ## The rule -/

variable {app : AppState} {Req α : Type}

/-- The record was answered to request `i`. -/
def ReadBy (tr : List (Event (service app) Req)) (i : Nat) (id : Uuid)
    (c : CachedChallenge) : Prop :=
  (⟨.challengeDO id (.get id.toString), some (.record c)⟩ : Sigma Res) ∈ own i tr

/-- A request to an object that fits `P` for the records it creates and `U` for the updates. -/
def Sound (P : CachedChallenge → Prop) (U : ChallengeUpdate → Prop) (id : Uuid)
    (req : ChallengeDO.Request) : Prop :=
  (∀ body c, req = .create id.toString body → body.value = some c → P c) ∧
    ∀ body upd, req = .update id.toString body → body.value = some upd → U upd

/-- `P` holds of every record in a world, and `U` of every update under way. -/
structure RecordInv (P : List (Event (service app) Req) → Uuid → CachedChallenge → Prop)
    (U : List (Event (service app) Req) → Uuid → ChallengeUpdate → Prop)
    (w : World (service app) Req) : Prop where
  stored : ∀ id c, State.record w.state id = some c → P w.trace id c
  read : ∀ i id c, ReadBy w.trace i id c → P w.trace id c
  inflight : ∀ id req, .challenge id req ∈ State.inflight w.state →
    Sound (P w.trace id) (U w.trace id) id req

variable {handler : Req → Handler α} {R : Rules (service app) Req} {init : State → Prop}
  {J : Req → History Op Res → Uuid → CachedChallenge → Prop}
  {Q : Req → History Op Res → Except ApiError α → Prop}
  {P : List (Event (service app) Req) → Uuid → CachedChallenge → Prop}
  {U : List (Event (service app) Req) → Uuid → ChallengeUpdate → Prop}
  {p : Pool (service app) Req ApiError α}

/-- What makes `P` a property of every record: it is kept by the start, by every record a handler
may write and by the merge of an update. -/
structure RecordRule (handler : Req → Handler α) (R : Rules (service app) Req)
    (init : State → Prop) (J : Req → History Op Res → Uuid → CachedChallenge → Prop)
    (P : List (Event (service app) Req) → Uuid → CachedChallenge → Prop)
    (U : List (Event (service app) Req) → Uuid → ChallengeUpdate → Prop) : Prop where
  record_cons : ∀ e tr id c, P tr id c → P (e :: tr) id c
  update_cons : ∀ e tr id upd, U tr id upd → U (e :: tr) id upd
  start : ∀ s, init s → s.inflight = [] ∧ ∀ id c, s.record id = some c → P [] id c
  update : ∀ w i req id c, Reached handler R init w → RecordInv P U w →
    .arrive i req ∈ w.trace → J req (own i w.trace) id c → U w.trace id c.asUpdate
  create : ∀ w i req id c ch, Reached handler R init w → RecordInv P U w →
    .arrive i req ∈ w.trace → J req (own i w.trace) id c →
    P (.call i w.state (.challengeDO id (ChallengeStore.createRequest app id c)) ch :: w.trace)
      id c
  merge : ∀ w id e upd, Reached handler R init w → P w.trace id e → U w.trace id upd →
    State.clock w.state < e.expiresAt ∨ isTerminalState upd.state = true →
    isValidTransition e.state upd.state = true → P w.trace id (ChallengeDO.mergeUpdate e upd)

theorem Sound.imp {P P' : CachedChallenge → Prop} {U U' : ChallengeUpdate → Prop} {id : Uuid}
    {req : ChallengeDO.Request} (h : Sound P U id req) (hP : ∀ c, P c → P' c)
    (hU : ∀ upd, U upd → U' upd) : Sound P' U' id req := by
  refine ⟨?_, ?_⟩
  · intro body c hreq hval
    exact hP c (h.1 body c hreq hval)
  · intro body upd hreq hval
    exact hU upd (h.2 body upd hreq hval)

theorem sound_get {P : CachedChallenge → Prop} {U : ChallengeUpdate → Prop} {id : Uuid} :
    Sound P U id (.get id.toString) := by
  refine ⟨?_, ?_⟩
  · intro body c hreq
    simp only [reduceCtorEq] at hreq
  · intro body upd hreq
    simp only [reduceCtorEq] at hreq

theorem sound_create {P : CachedChallenge → Prop} {U : ChallengeUpdate → Prop} {id : Uuid}
    {c : CachedChallenge} (h : P c) : Sound P U id (ChallengeStore.createRequest app id c) := by
  refine ⟨?_, ?_⟩
  · intro body d hreq hval
    simp only [createRequest_eq, ChallengeDO.Request.create.injEq, true_and] at hreq
    rw [← hreq, Option.some.injEq] at hval
    exact hval ▸ h
  · intro body upd hreq
    simp only [createRequest_eq, reduceCtorEq] at hreq

theorem sound_update {P : CachedChallenge → Prop} {U : ChallengeUpdate → Prop} {id : Uuid}
    {c : CachedChallenge} (h : U c.asUpdate) :
    Sound P U id (ChallengeStore.updateRequest app id c) := by
  refine ⟨?_, ?_⟩
  · intro body d hreq
    simp only [updateRequest_eq, reduceCtorEq] at hreq
  · intro body upd hreq hval
    simp only [updateRequest_eq, ChallengeDO.Request.update.injEq, true_and] at hreq
    rw [← hreq, Option.some.injEq] at hval
    exact hval ▸ h

/-- A request that a route sends is sound once it is in the trace. -/
theorem RecordRule.sound (hrule : RecordRule handler R init J P U)
    {w : World (service app) Req} (hreach : Reached handler R init w) (hinv : RecordInv P U w)
    {i : Nat} {req : Req} (harrive : .arrive i req ∈ w.trace) {id : Uuid}
    {r : ChallengeDO.Request} {ch : (service app).Choice (.challengeDO id r)}
    (hop : RouteOp app (J req (own i w.trace)) (.challengeDO id r)) :
    Sound (P (.call i w.state (.challengeDO id r) ch :: w.trace) id) (U w.trace id) id r := by
  rcases hop with rfl | ⟨c, hJ, rfl | rfl⟩
  · exact sound_get
  · exact sound_update (hrule.update w i req id c hreach hinv harrive hJ)
  · exact sound_create (hrule.create w i req id c ch hreach hinv harrive hJ)

/-- The records after an object served a sound request. -/
theorem RecordRule.served (hrule : RecordRule handler R init J P U)
    {w : World (service app) Req} (hreach : Reached handler R init w)
    {s : State} {tr : List (Event (service app) Req)} (hclock : s.clock = State.clock w.state)
    (hstored : ∀ id c, s.record id = some c → P w.trace id c)
    (hcons : ∀ id c, P w.trace id c → P tr id c)
    {f : ChallengeDO.Faults} {id : Uuid} {r : ChallengeDO.Request}
    (hsound : Sound (P tr id) (U w.trace id) id r) (id' : Uuid) (c : CachedChallenge)
    (hc : (s.serveChallenge f id r).2.record id' = some c) : P tr id' c := by
  by_cases hid : id' = id
  · subst hid
    refine serveChallenge_record (hstored id') (hcons id') hsound.1 ?_ hc
    intro body upd e hreq hval he htime htrans
    rw [hclock] at htime
    exact hcons _ _ (hrule.merge w id' e upd hreach he (hsound.2 body upd hreq hval) htime htrans)
  · rw [serveChallenge_record_ne hid] at hc
    exact hcons _ _ (hstored id' c hc)

theorem record_congr {s t : State} (h : t.challenges = s.challenges) (id : Uuid) :
    t.record id = s.record id := by
  unfold State.record
  rw [h]

/-- An operation that is no request to an object keeps the records. -/
theorem RecordInv.other (hrule : RecordRule handler R init J P U) {w : World (service app) Req}
    (h : RecordInv P U w) {i : Nat} {op : Op} {c : (service app).Choice op}
    (hop : ∀ id req, op ≠ .challengeDO id req) : RecordInv P U (w.after i op c) := by
  have hstep : OpStep app w.state op (perform app w.state op c).2 := perform_opStep c
  refine ⟨?_, ?_, ?_⟩
  · intro id d hd
    have hsame : State.record (w.after i op c).state id = State.record w.state id :=
      record_congr (hstep.challenges hop) id
    exact hrule.record_cons _ _ _ _ (h.stored id d (hsame.symm.trans hd))
  · intro j id d hd
    refine hrule.record_cons _ _ _ _ (h.read j id d ?_)
    by_cases hij : i = j
    · subst hij
      unfold ReadBy at hd
      rw [World.after_trace, own_call_self] at hd
      rcases List.mem_cons.mp hd with heq | hd
      · injection heq with heq
        exact absurd heq.symm (hop _ _)
      · exact hd
    · unfold ReadBy at hd
      rwa [World.after_trace, own_call_ne hij] at hd
  · intro id req hm
    rcases hstep.inflight hm with hm | hmsg
    · exact (h.inflight id req hm).imp (hrule.record_cons _ _ _) (hrule.update_cons _ _ _)
    · have hop' : op = .challengeDO id req := by
        cases op <;> simp only [Op.message, Option.some.injEq, reduceCtorEq] at hmsg
        cases hmsg
        rfl
      exact absurd hop' (hop id req)

/-- A request of a route to an object keeps the records. -/
theorem RecordInv.challengeDO (hrule : RecordRule handler R init J P U)
    {w : World (service app) Req} (hreach : Reached handler R init w) (h : RecordInv P U w)
    {i : Nat} {id : Uuid} {r : ChallengeDO.Request} {c : (service app).Choice (.challengeDO id r)}
    (hsound : Sound (P (.call i w.state (.challengeDO id r) c :: w.trace) id) (U w.trace id) id r)
    (hget : ∀ d, (perform app w.state (.challengeDO id r) c).1 = some (.record d) →
      r = .get id.toString → State.record w.state id = some d) :
    RecordInv P U (w.after i (.challengeDO id r) c) := by
  have hcons : ∀ id' d, P w.trace id' d →
      P (.call i w.state (.challengeDO id r) c :: w.trace) id' d :=
    fun id' d hd => hrule.record_cons _ _ _ _ hd
  refine ⟨?_, ?_, ?_⟩
  · intro id' d hd
    cases c with
    | lost => exact hcons _ _ (h.stored id' d hd)
    | late => exact hcons _ _ (h.stored id' d hd)
    | served f answered => exact hrule.served hreach rfl h.stored hcons hsound id' d hd
  · intro j id' d hd
    by_cases hij : i = j
    · subst hij
      unfold ReadBy at hd
      rw [World.after_trace, own_call_self] at hd
      rcases List.mem_cons.mp hd with heq | hd
      · injection heq with hop hans
        injection hop with hid hr
        subst hid hr
        exact hcons _ _ (h.stored _ d (hget d hans.symm rfl))
      · exact hcons _ _ (h.read i id' d hd)
    · unfold ReadBy at hd
      rw [World.after_trace, own_call_ne hij] at hd
      exact hcons _ _ (h.read j id' d hd)
  · intro id' req' hm
    have hstep : OpStep app w.state (.challengeDO id r)
        (perform app w.state (.challengeDO id r) c).2 :=
      @perform_opStep app w.state (.challengeDO id r) c
    rcases hstep.inflight hm with hm | hmsg
    · exact (h.inflight id' req' hm).imp (hcons id') (hrule.update_cons _ _ _)
    · cases hmsg
      exact hsound.imp (fun _ hd => hd) (hrule.update_cons _ _ _)

/-- A step of the environment keeps the records. -/
theorem RecordInv.moved (hrule : RecordRule handler R init J P U) {w : World (service app) Req}
    (hreach : Reached handler R init w) (h : RecordInv P U w) (e : Env) :
    RecordInv P U (w.moved e) := by
  have hstep : EnvStep app w.state (envStep app w.state e) := envStep_envStep e
  refine ⟨?_, h.read, fun id req hm => h.inflight id req (hstep.inflight hm)⟩
  intro id c hc
  have hc : State.record (envStep app w.state e) id = some c := hc
  generalize envStep app w.state e = t at hstep hc
  cases hstep with
  | @challenge i id' req f hm =>
    have hstored : ∀ id c, (State.received w.state i).record id = some c → P w.trace id c :=
      h.stored
    exact hrule.served hreach rfl hstored (fun _ _ hd => hd) (h.inflight id' req hm) id c hc
  | credits =>
    rw [deduct_eq] at hc
    exact h.stored id c hc
  | _ => exact h.stored id c hc

/-- **The records of a run**: what holds at the start, of every record a handler may write and
after every merge holds of every record. -/
theorem Run.recordInv
    (hG : ∀ req, (handler req).Guarded (fun h op => RouteOp app (J req h) op) (Q req) [])
    (hrule : RecordRule handler R init J P U) (hr : Run handler R init p) :
    RecordInv P U p.world := by
  refine hr.invariant hG ?_ ?_ ?_ ?_
  · intro s hs
    obtain ⟨hinflight, hstored⟩ := hrule.start s hs
    refine ⟨hstored, ?_, ?_⟩
    · intro i id c hread
      rw [ReadBy, own_nil] at hread
      exact absurd hread List.not_mem_nil
    · intro id req hm
      have hm : .challenge id req ∈ s.inflight := hm
      rw [hinflight] at hm
      exact absurd hm List.not_mem_nil
  · intro w i req _ h _
    exact ⟨fun id c hc => hrule.record_cons _ _ _ _ (h.stored id c hc),
      fun j id c hc => hrule.record_cons _ _ _ _ (h.read j id c hc),
      fun id r hm =>
        (h.inflight id r hm).imp (hrule.record_cons _ _ _) (hrule.update_cons _ _ _)⟩
  · intro w i op c req hreach h harrive hg _
    by_cases hop : ∃ id r, op = .challengeDO id r
    · obtain ⟨id, r, rfl⟩ := hop
      refine h.challengeDO hrule hreach (hrule.sound hreach h harrive hg) ?_
      intro d hd hget
      subst hget
      exact (perform_get hd).1
    · exact h.other hrule fun id r heq => hop ⟨id, r, heq⟩
  · intro w e hreach h _
    exact h.moved hrule hreach e

end ProviiVerifier

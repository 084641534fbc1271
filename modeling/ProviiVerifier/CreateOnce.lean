/-
  Creations that share an idempotency key, over a correct idempotency store.

  A creation checks its key, makes the challenge out of random values, writes its record and then
  stores its response. Two creations that both check before either has stored make two challenges,
  and each returns its own; the comment on the lost race says that both responses are the same.

  Proved: in every run in which a creation that was told that its key is new has sent its record
  and stored its response before the next one looks, one record at most is created and every
  successful response has the same body (`created_once`).
-/
import ProviiVerifier.IdempotentReplay
import ProviiVerifier.Original

namespace ProviiVerifier

open Interleaving Prog CreateChallenge

variable {app : AppState} {Req : Type}

/-! ## Taking turns -/

/-- The request that sent something to the object of a challenge. -/
def sender : Event (keyedService app) Req → Option Nat
  | .call i _ (.challengeDO _ _) _ => some i
  | _ => none

/-- The store holds no response for the key. -/
def IdempotencyDO.Reply.isNew : IdempotencyDO.Reply → Bool
  | .absent | .expired => true
  | _ => false

/-- The request that was told that its key is new. -/
def toldNew : Event (keyedService app) Req → Option Nat
  | .call i s (.idempotencyDO shard path .get) c =>
    if (performKeyed app s (.idempotencyDO shard path .get) c).1.any (·.isNew) then some i
    else none
  | _ => none

/-- The store holds an entry at the path that has not expired. -/
def LiveEntry (s : State) (shard : Nat) (path : String) : Prop :=
  (s.idempotency shard path).any (fun entry => !entry.isExpired s.clock) = true

/-- Creations take turns: none looks while another has sent its record and has no live response
in the store, and none sends its record when another was told later that the key is new. -/
def Turn (w : World (keyedService app) Req) (i : Nat) : Op → Prop
  | .idempotencyDO shard path .get =>
    (∀ j ∈ w.trace.filterMap sender, j = i) ∨ LiveEntry w.state shard path
  | .challengeDO _ _ => ∀ j ∈ (w.trace.filterMap toldNew).head?, j = i
  | _ => True

instance instDecidableLiveEntry (s : State) (shard : Nat) (path : String) :
    Decidable (LiveEntry s shard path) :=
  inferInstanceAs (Decidable (_ = true))

instance instDecidableTurn (w : World (keyedService app) Req) (i : Nat) (op : Op) :
    Decidable (Turn w i op) := by
  apply Op.casesOn (motive := fun op => Decidable (Turn w i op)) op
  case idempotencyDO =>
    intro shard path method
    exact match method with
    | .get => @instDecidableOr _ _ inferInstance (instDecidableLiveEntry w.state shard path)
    | .post _ | .delete => .isTrue trivial
  case challengeDO =>
    exact fun _ _ => (inferInstance : Decidable (∀ j ∈ (w.trace.filterMap toldNew).head?, j = i))
  all_goals intros; exact .isTrue trivial

/-- The request is a creation with the key. -/
def WithKey (app : AppState) (k : String) (req : CreateChallengeRequest) : Prop :=
  app.idempotencyStore = true ∧
    Idempotency.extractIdempotencyKey app.uni req.headers "POST" "/v1/challenge" = .ok (some k)

instance (k : String) (req : CreateChallengeRequest) : Decidable (WithKey app k req) :=
  inferInstanceAs (Decidable (_ ∧ _))

/-- Creations with one key arrive in any order, and take turns. -/
def takingTurns (app : AppState) (k : String) : Rules (keyedService app) CreateChallengeRequest :=
  { arrive := fun _ _ req => WithKey app k req
    call := fun w i op c => freshIds w.state op c ∧ Turn w i op
    env := fun w e => dateRange w.state e }

instance (k : String) : DecidableRules (takingTurns app k) :=
  { arrive := fun _ _ req => inferInstanceAs (Decidable (WithKey app k req))
    call := fun w i op c =>
      @instDecidableAnd _ _ (instDecidableFreshIds w.state op c) (instDecidableTurn w i op)
    env := fun w e => instDecidableDateRange w.state e }

/-! ## One writer -/

theorem WithKey.keyed {k : String} {req : CreateChallengeRequest} (h : WithKey app k req) :
    Keyed app (.create req) "challenge" k :=
  .create h.1 h.2

/-- A request that was told that its key is new is in the list. -/
theorem mem_toldNew {tr : List (Event (keyedService app) Req)} {i : Nat} {endpoint k : String}
    (h : Idempotency.ToldNew app endpoint k (own i tr)) : i ∈ tr.filterMap toldNew := by
  obtain ⟨reply, hreply, hm⟩ := h
  obtain ⟨s, c, hm, hanswer⟩ := mem_own.mp hm
  refine List.mem_filterMap.mpr ⟨_, hm, ?_⟩
  have hanswer : (performKeyed app s (Idempotency.checkOp app (Idempotency.scopedKey endpoint k))
    c).1 = some reply := hanswer
  unfold Idempotency.checkOp at hanswer
  simp only [Idempotency.checkOp, toldNew, hanswer]
  rcases hreply with rfl | rfl
  · rfl
  · rfl

/-- Who sent something to an object is in the list. -/
theorem mem_sender {tr : List (Event (keyedService app) Req)} {i : Nat}
    (h : Recorded (own i tr)) : i ∈ tr.filterMap sender := by
  obtain ⟨id, r, answer, hm⟩ := h
  obtain ⟨s, c, hm, -⟩ := mem_own.mp hm
  exact List.mem_filterMap.mpr ⟨_, hm, rfl⟩

/-- Where an entry is live, no key is new. -/
theorem not_live_of_new {s : State} {shard : Nat} {path : String}
    {c : Choice (.idempotencyDO shard path .get)}
    (h : (performKeyed app s (.idempotencyDO shard path .get) c).1.any (·.isNew) = true) :
    ¬ LiveEntry s shard path := by
  have hserve : (s.serveKeyed shard path .get).1.any (·.isNew) = true := by
    cases c with
    | lost => cases h
    | late => cases h
    | served f answered =>
      cases answered with
      | false => cases h
      | true => exact h
  unfold State.serveKeyed IdempotencyDO.checkIdempotencyKey IdempotencyDO.read at hserve
  simp only [IdempotencyDO.Faults.none, if_true] at hserve
  unfold LiveEntry
  cases hentry : s.idempotency shard path with
  | none => simp
  | some entry =>
    rw [hentry] at hserve
    intro hlive
    simp only [Option.any_some, Bool.not_eq_true'] at hlive
    simp only [hlive, Bool.false_eq_true, if_false] at hserve
    cases hserve

/-- Whoever sent a record is the one that was told last that the key is new. -/
structure WriterInv (k : String) (w : World (keyedService app) CreateChallengeRequest) :
    Prop where
  keys : ∀ i req, .arrive i req ∈ w.trace → WithKey app k req
  writer : ∀ i ∈ w.trace.filterMap sender, (w.trace.filterMap toldNew).head? = some i

variable {s₀ : State} {k : String}
  {p : Pool (keyedService app) CreateChallengeRequest ApiError (Answer ChallengeResponse)}

/-- An operation that is a creation's turn keeps the writer. -/
theorem WriterInv.after {w : World (keyedService app) CreateChallengeRequest} (h : WriterInv k w)
    {i : Nat} {op : Op} {c : (keyedService app).Choice op} {req : CreateChallengeRequest}
    (harrive : .arrive i req ∈ w.trace) (hop : CreateOp app req (own i w.trace) op)
    (hturn : Turn w i op) : WriterInv k (w.after i op c) := by
  refine ⟨?_, ?_⟩
  · intro j r hm
    rcases List.mem_cons.mp hm with heq | hm
    · cases heq
    · exact h.keys j r hm
  · rw [World.after_trace, List.filterMap_cons, List.filterMap_cons]
    cases op with
    | challengeDO id r =>
      -- the sender was told that its key is new, and nobody was told so later
      have htold : i ∈ w.trace.filterMap toldNew := by
        cases hop with
        | plain hop => exact absurd hop fun h => h
        | record hnew => exact mem_toldNew (hnew k (h.keys i req harrive).keyed)
      obtain ⟨j, hj⟩ := Option.ne_none_iff_exists'.mp
        fun hnone => List.ne_nil_of_mem htold (List.head?_eq_none_iff.mp hnone)
      have hji : j = i := hturn j hj
      rw [hji] at hj
      intro n hn
      rcases List.mem_cons.mp hn with rfl | hn
      · exact hj
      · exact h.writer n hn
    | idempotencyDO shard path method =>
      cases method with
      | get =>
        intro n hn
        by_cases hnew : (performKeyed app w.state (.idempotencyDO shard path .get) c).1.any
            (·.isNew) = true
        · have hothers := hturn.resolve_right (not_live_of_new hnew)
          have htold : toldNew (.call i w.state (.idempotencyDO shard path .get) c :
              Event (keyedService app) CreateChallengeRequest) = some i := if_pos hnew
          rw [htold, hothers n hn]
          rfl
        · have htold : toldNew (.call i w.state (.idempotencyDO shard path .get) c :
              Event (keyedService app) CreateChallengeRequest) = none := if_neg hnew
          rw [htold]
          exact h.writer n hn
      | post body => exact h.writer
      | delete => exact h.writer
    | _ => exact h.writer

/-- **One writer**: of creations that take turns, one at most sends a record. -/
theorem Run.writerInv (hr : Run (createChallenge app) (takingTurns app k) (· = s₀) p) :
    WriterInv k p.world := by
  refine hr.invariant (guarded_createChallenge_keyed app) ?_ ?_ ?_ ?_
  · intro s _
    exact ⟨fun i req hm => absurd hm List.not_mem_nil, fun i hm => absurd hm List.not_mem_nil⟩
  · intro w i req _ h hR
    refine ⟨?_, h.writer⟩
    intro j r hm
    rcases List.mem_cons.mp hm with heq | hm
    · cases heq
      exact hR
    · exact h.keys j r hm
  · intro w i op c req _ h harrive hg hR
    exact h.after harrive hg hR.2
  · intro w e _ h _
    exact ⟨h.keys, h.writer⟩

theorem Run.writer_unique (hr : Run (createChallenge app) (takingTurns app k) (· = s₀) p)
    {i j : Nat} (hi : i ∈ p.world.trace.filterMap sender)
    (hj : j ∈ p.world.trace.filterMap sender) : i = j := by
  have hinv := Run.writerInv hr
  exact Option.some.inj ((hinv.writer i hi).symm.trans (hinv.writer j hj))

/-! ## One record -/

/-- A request sent a create request for the id to its object. -/
def CreateSent (app : AppState) (tr : List (Event (keyedService app) Req)) (i : Nat) (id : Uuid)
    (c : CachedChallenge) : Prop :=
  ChallengeStore.Attempted id (ChallengeStore.createRequest app id c) (own i tr)

theorem CreateSent.cons {tr : List (Event (keyedService app) Req)} {i : Nat} {id : Uuid}
    {c : CachedChallenge} (h : CreateSent app tr i id c) (e : Event (keyedService app) Req) :
    CreateSent app (e :: tr) i id c :=
  h.mono (own_suffix_cons i e tr)

theorem CreateSent.sender {tr : List (Event (keyedService app) Req)} {i : Nat} {id : Uuid}
    {c : CachedChallenge} (h : CreateSent app tr i id c) : i ∈ tr.filterMap sender := by
  obtain ⟨answer, hm⟩ := h
  exact mem_sender ⟨id, _, answer, hm⟩

/-- Only a create request fills an empty object. -/
theorem serveChallenge_fills {s : State} {f : ChallengeDO.Faults} {id id' : Uuid}
    {r : ChallengeDO.Request} (hnone : s.record id' = none)
    (hsome : (s.serveChallenge f id r).2.record id' ≠ none) :
    id' = id ∧ ∃ body, r = .create id.toString body := by
  by_cases hid : id' = id
  · subst hid
    have hstep := serveChallenge_recordStep s f id' r
    rw [hnone] at hstep
    generalize (s.serveChallenge f id' r).2.record id' = after at hstep hsome
    cases hstep with
    | keep => exact absurd rfl hsome
    | create hreq => exact ⟨rfl, _, hreq⟩
  · rw [serveChallenge_record_ne hid] at hsome
    exact absurd hnone hsome

/-- What holds of the records a run creates: they were sent, and a request sends one only. -/
structure OnceInv (s₀ : State) (w : World (keyedService app) Req) : Prop where
  stored : ∀ id, s₀.record id = none → State.record w.state id ≠ none →
    ∃ i c, CreateSent app w.trace i id c
  inflight : ∀ id body, .challenge id (.create id.toString body) ∈ State.inflight w.state →
    ∃ i c, CreateSent app w.trace i id c
  once : ∀ i id id' c c', CreateSent app w.trace i id c → CreateSent app w.trace i id' c' →
    id = id' ∧ c = c'

/-- A create request of a creation is for a record it may write. -/
theorem createSent_of_create {w : World (keyedService app) CreateChallengeRequest} {i : Nat}
    {req : CreateChallengeRequest} {id : Uuid} {body : Body CachedChallenge}
    {ch : (keyedService app).Choice (.challengeDO id (.create id.toString body))}
    (hg : RouteOp app (CreateChallenge.Writes app req (own i w.trace))
      (.challengeDO id (.create id.toString body))) :
    ∃ c, CreateSent app
      (w.after i (.challengeDO id (.create id.toString body)) ch).trace i id c := by
  rcases hg with hreq | ⟨c, -, hreq | hreq⟩
  · simp only [reduceCtorEq] at hreq
  · simp only [updateRequest_eq, reduceCtorEq] at hreq
  · refine ⟨c, ((keyedService app).perform w.state _ ch).1, ?_⟩
    rw [World.after_trace, own_call_self, ← hreq]
    exact List.mem_cons_self

/-- A new create request is for the record of the earlier ones. -/
theorem OnceInv.once_after {w : World (keyedService app) CreateChallengeRequest}
    (h : OnceInv s₀ w) {i : Nat} {op : Op} {c : (keyedService app).Choice op}
    {req : CreateChallengeRequest}
    (hg : RouteOp app (CreateChallenge.Writes app req (own i w.trace)) op) :
    ∀ j id id' d d', CreateSent app (w.after i op c).trace j id d →
      CreateSent app (w.after i op c).trace j id' d' → id = id' ∧ d = d' := by
  -- a create request is an earlier one, or the operation and all earlier ones are for its record
  have hnew : ∀ j id d, CreateSent app (w.after i op c).trace j id d →
      CreateSent app w.trace j id d ∨ j = i ∧
        op = .challengeDO id (ChallengeStore.createRequest app id d) ∧
        ∀ id' d', CreateSent app w.trace i id' d' → id' = id ∧ d' = d := by
    rintro j id d ⟨answer, hm⟩
    rcases mem_own_call hm with hm | ⟨rfl, heq⟩
    · exact .inl ⟨answer, hm⟩
    · injection heq with hop _
      subst hop
      refine .inr ⟨rfl, rfl, ?_⟩
      rintro id' d' ⟨answer', hm'⟩
      exact (routeOp_create hg).once id' d' answer' hm'
  intro j id id' d d' hd hd'
  rcases hnew j id d hd with hold | ⟨rfl, hop, hothers⟩
  · rcases hnew j id' d' hd' with hold' | ⟨rfl, -, hothers⟩
    · exact h.once j id id' d d' hold hold'
    · exact hothers id d hold
  · rcases hnew j id' d' hd' with hd' | ⟨-, hop', -⟩
    · obtain ⟨hid, hc⟩ := hothers id' d' hd'
      exact ⟨hid.symm, hc.symm⟩
    · rw [hop, Op.challengeDO.injEq] at hop'
      obtain ⟨rfl, hreq⟩ := hop'
      exact ⟨rfl, createRequest_inj hreq⟩

/-- An operation of a creation keeps the invariant. -/
theorem OnceInv.after {w : World (keyedService app) CreateChallengeRequest} (h : OnceInv s₀ w)
    {i : Nat} {op : Op} {c : (keyedService app).Choice op} {req : CreateChallengeRequest}
    (hg : RouteOp app (CreateChallenge.Writes app req (own i w.trace)) op) :
    OnceInv s₀ (w.after i op c) := by
  have hold : ∀ {id : Uuid}, (∃ j d, CreateSent app w.trace j id d) →
      ∃ j d, CreateSent app (w.after i op c).trace j id d := by
    rintro id ⟨j, d, hsent⟩
    exact ⟨j, d, hsent.cons _⟩
  refine ⟨?_, ?_, h.once_after hg⟩
  · intro id hempty hsome
    by_cases hbefore : State.record w.state id = none
    · by_cases hop : ∃ id' r, op = .challengeDO id' r
      · obtain ⟨id', r, rfl⟩ := hop
        cases c with
        | lost => exact absurd hbefore hsome
        | late => exact absurd hbefore hsome
        | served f answered =>
          obtain ⟨rfl, body, rfl⟩ := serveChallenge_fills hbefore hsome
          exact ⟨i, createSent_of_create hg⟩
      · have hsame : State.record (w.after i op c).state id = State.record w.state id :=
          record_congr (performKeyed_challenges (fun id' r heq => hop ⟨id', r, heq⟩) c) id
        exact absurd (hsame.trans hbefore) hsome
    · exact hold (h.stored id hempty hbefore)
  · intro id body hm
    rcases performKeyed_inflight hm with hm | hmsg
    · exact hold (h.inflight id body hm)
    · cases op <;> simp only [Op.message, Option.some.injEq, reduceCtorEq] at hmsg
      cases hmsg
      exact ⟨i, createSent_of_create hg⟩

/-- A step of the environment keeps it. -/
theorem OnceInv.moved {w : World (keyedService app) Req} (h : OnceInv s₀ w) (e : Env) :
    OnceInv s₀ (w.moved e) := by
  have hstep : EnvStep app w.state (envStep app w.state e) := envStep_envStep e
  refine ⟨?_, fun id body hm => h.inflight id body (hstep.inflight hm), h.once⟩
  intro id hempty hsome
  have hsome : State.record (envStep app w.state e) id ≠ none := hsome
  by_cases hbefore : State.record w.state id = none
  · generalize envStep app w.state e = t at hstep hsome
    cases hstep with
    | @challenge i id' r f hm =>
      obtain ⟨rfl, body, rfl⟩ :=
        serveChallenge_fills (s := State.received w.state i) hbefore hsome
      exact h.inflight id body hm
    | credits =>
      rw [deduct_eq] at hsome
      exact absurd hbefore hsome
    | _ => exact absurd hbefore hsome
  · exact h.stored id hempty hbefore

/-- **One record for each sender.** -/
theorem Run.onceInv {R : Rules (keyedService app) CreateChallengeRequest}
    (hstart : NothingStored s₀) (hr : Run (createChallenge app) R (· = s₀) p) :
    OnceInv s₀ p.world := by
  refine hr.invariant (guarded_createChallenge app) ?_ ?_ ?_ ?_
  · rintro s rfl
    refine ⟨fun id hempty hsome => absurd hempty hsome, ?_, ?_⟩
    · intro id body hm
      have hm : .challenge id (.create id.toString body) ∈ s.inflight := hm
      rw [hstart.inflight] at hm
      exact absurd hm List.not_mem_nil
    · rintro i id id' c c' ⟨answer, hm⟩
      exact absurd hm List.not_mem_nil
  · intro w i req _ h _
    refine ⟨?_, ?_, h.once⟩
    · intro id hempty hsome
      obtain ⟨j, c, hsent⟩ := h.stored id hempty hsome
      exact ⟨j, c, hsent.cons _⟩
    · intro id body hm
      obtain ⟨j, c, hsent⟩ := h.inflight id body hm
      exact ⟨j, c, hsent.cons _⟩
  · intro w i op c req _ h _ hg _
    exact h.after hg
  · intro w e _ h _
    exact h.moved e

/-! ## One response -/

/-- The body of a response to a creation. -/
def bodyOf (app : AppState) : Answer ChallengeResponse → String
  | .fresh response => response.toJson app
  | .cached response => response.responseBody

/-- What a creation stores it stores after its record, and it is what it stored before. -/
theorem CreateChallenge.CreateOp.post {req : CreateChallengeRequest} {h : History Op Res}
    {op : Op} {shard : Nat} {path : String} {body : Body IdempotencyDO.SetRequest}
    (hop : CreateOp app req h op) (heq : op = .idempotencyDO shard path (.post body)) :
    Recorded h ∧ ∀ body', Stored h body' → body'.value = body.value := by
  cases hop with
  | plain hop =>
    subst heq
    exact absurd hop fun h => h
  | check hkey =>
    unfold Idempotency.checkOp at heq
    injection heq with _ _ hmethod
    cases hmethod
  | record hnew => cases heq
  | store hkey hrecorded hsame =>
    unfold Idempotency.storeOp at heq
    injection heq with _ _ hmethod
    injection hmethod with hbody
    refine ⟨hrecorded, fun body' hbody' => ?_⟩
    rw [hsame body' hbody', ← hbody]

/-- The body of the success response of a request, once it has one. -/
def successBody (p : Pool (keyedService app) CreateChallengeRequest ApiError
    (Answer ChallengeResponse)) (i : Nat) : Option String :=
  ((p.outcome i).bind Except.toOption).map (bodyOf app)

theorem successBody_some {i : Nat} {body : String} (h : successBody p i = some body) :
    ∃ a, p.outcome i = some (.ok a) ∧ body = bodyOf app a := by
  obtain ⟨a, ha, rfl⟩ := Option.map_eq_some_iff.mp h
  obtain ⟨r, hr, hok⟩ := Option.bind_eq_some_iff.mp ha
  cases r with
  | error e => cases hok
  | ok a' =>
    cases hok
    exact ⟨a, hr, rfl⟩

/-- A request stores one response. -/
theorem Run.stored_once {R : Rules (keyedService app) CreateChallengeRequest}
    (hr : Run (createChallenge app) R (· = s₀) p) :
    ∀ i body body', Stored (own i p.world.trace) body → Stored (own i p.world.trace) body' →
      body.value = body'.value := by
  refine hr.invariant (I := fun w => ∀ i body body', Stored (own i w.trace) body →
    Stored (own i w.trace) body' → body.value = body'.value)
    (guarded_createChallenge_keyed app) ?_ ?_ ?_ ?_
  · intro s _ i body body' hbody
    exact absurd hbody (not_stored_nil body)
  · intro w i req _ h _
    exact h
  · intro w i op c req _ h _ hg _ j body body' hbody hbody'
    -- what is stored was stored before, or by the operation, like everything before
    have hnew : ∀ b, Stored (own j (w.after i op c).trace) b → Stored (own j w.trace) b ∨
        j = i ∧ (∃ shard path, op = .idempotencyDO shard path (.post b)) ∧
          ∀ b', Stored (own j w.trace) b' → b'.value = b.value := by
      rintro b ⟨shard, path, answer, hm⟩
      rcases mem_own_call hm with hm | ⟨rfl, heq⟩
      · exact .inl ⟨shard, path, answer, hm⟩
      · injection heq with hop _
        subst hop
        refine .inr ⟨rfl, ⟨shard, path, rfl⟩, ?_⟩
        intro b' hb'
        exact (hg.post rfl).2 b' hb'
    rcases hnew body hbody with hold | ⟨rfl, ⟨shard, path, hop⟩, hothers⟩
    · rcases hnew body' hbody' with hold' | ⟨rfl, -, hothers⟩
      · exact h j body body' hold hold'
      · exact hothers body hold
    · rcases hnew body' hbody' with hold' | ⟨-, ⟨shard', path', hop'⟩, -⟩
      · exact (hothers body' hold').symm
      · rw [hop, Op.idempotencyDO.injEq, IdempotencyDO.Method.post.injEq] at hop'
        rw [hop'.2.2]
  · intro w e _ h _
    exact h

/-- What a request stored was stored after it sent its record. -/
theorem Run.sent_recorded {R : Rules (keyedService app) CreateChallengeRequest}
    (hr : Run (createChallenge app) R (· = s₀) p) {i shard : Nat} {path : String}
    {body : Body IdempotencyDO.SetRequest} (hsent : SentToStore p.world.trace i shard path body) :
    Recorded (own i p.world.trace) := by
  obtain ⟨answer, hm⟩ := hsent
  obtain ⟨s, c, hm, -⟩ := mem_own.mp hm
  obtain ⟨new, old, htrace⟩ := List.append_of_mem hm
  obtain ⟨-, -, req, -, hop⟩ := hr.call_event (guarded_createChallenge_keyed app) htrace
  have hsuffix : old <:+ p.world.trace := by
    rw [htrace]
    exact (List.suffix_cons _ _).trans (List.suffix_append _ _)
  exact (hop.post rfl).1.mono (hsuffix.filterMap _)

/-- A replayed response was stored by a request of the run. -/
theorem Run.cached_stored {R : Rules (keyedService app) CreateChallengeRequest}
    (hstart : NothingStored s₀) (hr : Run (createChallenge app) R (· = s₀) p) {j : Nat}
    {cached : Idempotency.CachedResponse} (hout : p.outcome j = some (.ok (.cached cached))) :
    ∃ i body set, Stored (own i p.world.trace) body ∧ Recorded (own i p.world.trace) ∧
      body.value = some set ∧ cached.responseBody = set.responseBody := by
  obtain ⟨req, -, -, k, -, entry, hfound, -, rfl⟩ :=
    hr.outcome (guarded_createChallenge_keyed app) hout
  have hinit : ∀ s, s = s₀ → NothingStored s := by
    rintro s rfl
    exact hstart
  obtain ⟨new, old, s, c, htrace, -, i, body, set, hsent, hset, hkeeps⟩ :=
    Run.found_stored hinit hr hfound
  have hold : old <:+ p.world.trace := by
    rw [htrace]
    exact (List.suffix_cons _ _).trans (List.suffix_append _ _)
  have hsent := hsent.mono hold
  obtain ⟨answer, hm⟩ := hsent
  exact ⟨i, body, set, ⟨_, _, answer, hm⟩, Run.sent_recorded hr ⟨answer, hm⟩, hset, hkeeps.body⟩

/-- Every response of a creation is in what the one sender stored. -/
theorem Run.body_unique (hstart : NothingStored s₀)
    (hr : Run (createChallenge app) (takingTurns app k) (· = s₀) p) {i j : Nat}
    {a b : Answer ChallengeResponse} (ha : p.outcome i = some (.ok a))
    (hb : p.outcome j = some (.ok b)) : bodyOf app a = bodyOf app b := by
  have hone : ∀ {m n : Nat}, Recorded (own m p.world.trace) → Recorded (own n p.world.trace) →
      m = n := fun hm hn => Run.writer_unique hr (mem_sender hm) (mem_sender hn)
  -- a new response is what its request stored, as far as it stored something
  have hfresh : ∀ {m : Nat} {r : ChallengeResponse}, p.outcome m = some (.ok (.fresh r)) →
      Recorded (own m p.world.trace) ∧ ∀ body, Stored (own m p.world.trace) body →
        ∃ set, body.value = some set ∧ set.responseBody = r.toJson app := by
    intro m r hout
    obtain ⟨req, -, hrecorded, hstored⟩ := hr.outcome (guarded_createChallenge_keyed app) hout
    exact ⟨hrecorded, hstored⟩
  -- a new response and a replayed one
  have hmixed : ∀ {m n : Nat} {r : ChallengeResponse} {cached : Idempotency.CachedResponse},
      p.outcome m = some (.ok (.fresh r)) → p.outcome n = some (.ok (.cached cached)) →
        r.toJson app = cached.responseBody := by
    intro m n r cached hm hn
    obtain ⟨hrecorded, hstored⟩ := hfresh hm
    obtain ⟨l, body, set, hbody, hsender, hset, hcached⟩ := Run.cached_stored hstart hr hn
    rw [hone hsender hrecorded] at hbody
    obtain ⟨set', hset', hjson⟩ := hstored body hbody
    rw [hset] at hset'
    cases hset'
    rw [hcached, hjson]
  cases a with
  | fresh r =>
    cases b with
    | fresh r' =>
      have hij := hone (hfresh ha).1 (hfresh hb).1
      rw [hij, hb] at ha
      cases ha
      rfl
    | cached cached => exact hmixed ha hb
  | cached cached =>
    cases b with
    | fresh r => exact (hmixed hb ha).symm
    | cached cached' =>
      obtain ⟨m, body, set, hbody, hsender, hset, hcached⟩ := Run.cached_stored hstart hr ha
      obtain ⟨n, body', set', hbody', hsender', hset', hcached'⟩ := Run.cached_stored hstart hr hb
      rw [hone hsender' hsender] at hbody'
      have hsame := Run.stored_once hr m body body' hbody hbody'
      rw [hset, hset'] at hsame
      cases hsame
      show cached.responseBody = cached'.responseBody
      rw [hcached, hcached']

/-- **Creation once.** Over a correct store, creations with one key that take turns send one
create request at most, which creates the only new record, and their success responses have the
same body. -/
theorem created_once (hstart : NothingStored s₀)
    (hr : Run (createChallenge app) (takingTurns app k) (· = s₀) p) :
    (∀ i j id id' c c', CreateSent app p.world.trace i id c →
      CreateSent app p.world.trace j id' c' → i = j ∧ id = id' ∧ c = c') ∧
    (∀ id, s₀.record id = none → State.record p.world.state id ≠ none →
      ∃ i c, CreateSent app p.world.trace i id c) ∧
    ∀ i j body body', successBody p i = some body → successBody p j = some body' →
      body = body' := by
  have hinv := Run.onceInv hstart hr
  refine ⟨?_, hinv.stored, ?_⟩
  · intro i j id id' c c' hsent hsent'
    have hij := Run.writer_unique hr hsent.sender hsent'.sender
    subst hij
    exact ⟨rfl, hinv.once i id id' c c' hsent hsent'⟩
  · intro i j body body' hbody hbody'
    obtain ⟨a, ha, rfl⟩ := successBody_some hbody
    obtain ⟨b, hb, rfl⟩ := successBody_some hbody'
    exact Run.body_unique hstart hr ha hb

/-! ## Samples -/

namespace Sample

/-- A creation by the shop, always with the same key and body, and with its own nonce. -/
def creation (digit : Char) : CreateChallengeRequest :=
  { headers := fun name =>
      if name = "Idempotency-Key" then some "550e8400-e29b-41d4-a716-446655440000"
      else shopHeaders name
    codeChallenge := codeChallenge
    verifyingKeyId := none
    expiresIn := twoMinutes
    authorizer :=
      { keyId := "shop", timestamp := 1000, nonce := String.ofList (List.replicate 64 digit)
        hmac := String.ofList (List.replicate 64 'b') } }

/-- The ids that are drawn. -/
def firstId : Uuid := 0x650e8400e29b41d4a716446655440000#128

def secondId : Uuid := 0x750e8400e29b41d4a716446655440000#128

/-- All goes well, and the id is drawn. -/
def drawing (id : Uuid) (op : Op) : Choice op :=
  match op with
  | .newUuid => id
  | op => healthy op

/-- A creation checks its key; another one goes on to its last operation; then so does the first. -/
def bothCreations : List (Act (keyedService keyedApp) CreateChallengeRequest) :=
  (.arrive 0 (creation '1') :: List.replicate 6 (.call 0 healthy)) ++
    (.arrive 1 (creation '2') :: List.replicate 15 (.call 1 (drawing secondId))) ++
      List.replicate 10 (.call 0 (drawing firstId))

/-- A creation goes on to its last operation while another one comes up to its check. -/
def creationTurn : List (Act (keyedService keyedApp) CreateChallengeRequest) :=
  (.arrive 0 (creation '1') :: List.replicate 16 (.call 0 (drawing firstId))) ++
    .arrive 1 (creation '2') :: List.replicate 4 (.call 1 healthy)

theorem nothingStored_state : NothingStored state := ⟨fun _ _ => rfl, rfl⟩

end Sample

/-- Two creations that take turns so far: the record of the first is the only one. -/
theorem created_once_turn :
    ∃ p : Pool (keyedService Sample.keyedApp) CreateChallengeRequest ApiError
        (Answer ChallengeResponse),
      Run (createChallenge Sample.keyedApp) (takingTurns Sample.keyedApp
        "POST:/v1/challenge:550e8400-e29b-41d4-a716-446655440000") (· = Sample.state) p ∧
      (State.record p.world.state Sample.firstId).isSome ∧
      (∀ i j id id' c c', CreateSent Sample.keyedApp p.world.trace i id c →
        CreateSent Sample.keyedApp p.world.trace j id' c' → i = j ∧ id = id' ∧ c = c') ∧
      (∀ id, State.record Sample.state id = none → State.record p.world.state id ≠ none →
        ∃ i c, CreateSent Sample.keyedApp p.world.trace i id c) ∧
      ∀ i j body body', successBody p i = some body → successBody p j = some body' →
        body = body' := by
  have hrun : ∃ p : Pool (keyedService Sample.keyedApp) CreateChallengeRequest ApiError
      (Answer ChallengeResponse),
      Run (createChallenge Sample.keyedApp) (takingTurns Sample.keyedApp
        "POST:/v1/challenge:550e8400-e29b-41d4-a716-446655440000") (· = Sample.state) p ∧
      (State.record p.world.state Sample.firstId).isSome :=
    Run.of_replay Sample.state Sample.creationTurn rfl (by decide +kernel)
  obtain ⟨p, hr, hrecord⟩ := hrun
  exact ⟨p, hr, hrecord, created_once Sample.nothingStored_state hr⟩

/-- Two creations by the shop with one key and body, and with nonces of their own, check the key
before either has stored its response: two records are created. -/
theorem created_twice :
    ∃ p : Pool (keyedService Sample.keyedApp) CreateChallengeRequest ApiError
        (Answer ChallengeResponse),
      Run (createChallenge Sample.keyedApp) (anyOrderKeyed Sample.keyedApp CreateChallengeRequest)
        (· = Sample.state) p ∧
      ((State.record p.world.state Sample.firstId).map (·.state) = some .pending ∧
        (State.record p.world.state Sample.secondId).map (·.state) = some .pending) ∧
      ∀ i req, .arrive i req ∈ p.world.trace →
        (i, req) ∈ [(0, Sample.creation '1'), (1, Sample.creation '2')] :=
  Run.of_replay_arrivals Sample.state Sample.bothCreations rfl (by decide +kernel)

end ProviiVerifier

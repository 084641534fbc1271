/-
  The service over a correct idempotency store.

  The object of the store turns every key of the routes away. `keyedService` is the service in
  which it does not: a request to the store is lost, or served at once and without faults at its
  path, as `check_idempotency_key` and `set_idempotency_key` have it. Everything else is as in
  `service`.

  Proved: an entry of the store was sent to it by a request of the run (`Run.entryInv`), and an
  entry that a request found was sent before (`Run.found_stored`).
-/
import ProviiVerifier.IdempotentRoutes

namespace ProviiVerifier

open Interleaving Prog

/-! ## The machine -/

namespace State

/-- The store serves a request at its path. -/
def serveKeyed (s : State) (shard : Nat) (path : String) (method : IdempotencyDO.Method) :
    Option IdempotencyDO.Reply × State :=
  let r := match method with
    | .get => IdempotencyDO.checkIdempotencyKey (s.idempotency shard) s.clock .none path
    | .post body => IdempotencyDO.setIdempotencyKey (s.idempotency shard) s.clock .none path body
    | .delete => IdempotencyDO.deleteIdempotencyKey (s.idempotency shard) .none path
  (r.1, { s with idempotency := Function.update s.idempotency shard r.2 })

end State

/-- Run an operation over a correct store. -/
def performKeyed (app : AppState) (s : State) : (op : Op) → Choice op → Res op × State
  | .idempotencyDO _ _ _, .lost => (none, s)
  | .idempotencyDO shard path method, .late => (none, (s.serveKeyed shard path method).2)
  | .idempotencyDO shard path method, .served _ answered =>
    ((if answered then (s.serveKeyed shard path method).1 else none),
      (s.serveKeyed shard path method).2)
  | op, c => perform app s op c

/-- The service over a correct store. -/
def keyedService (app : AppState) : Machine Op Res :=
  { State := State
    Choice := Choice
    Env := Env
    perform := performKeyed app
    envStep := envStep app }

variable {app : AppState} {s : State} {Req α : Type}

theorem performKeyed_quiet {op : Op} (hop : Quiet op) (c : Choice op) :
    performKeyed app s op c = perform app s op c := by
  cases op with
  | idempotencyDO shard path method => exact absurd trivial hop
  | _ => rfl

/-- Whatever the store does, it does to its own entries. -/
theorem performKeyed_idempotencyDO (app : AppState) (s : State) {shard : Nat} {path : String}
    {method : IdempotencyDO.Method} (c : Choice (.idempotencyDO shard path method)) :
    (performKeyed app s (.idempotencyDO shard path method) c).2 = s ∨
      (performKeyed app s (.idempotencyDO shard path method) c).2 =
        (s.serveKeyed shard path method).2 := by
  cases c with
  | lost => exact .inl rfl
  | late => exact .inr rfl
  | served f answered => exact .inr rfl

/-- Only a request to an object changes records. -/
theorem performKeyed_challenges {op : Op} (hop : ∀ id r, op ≠ .challengeDO id r) (c : Choice op) :
    (performKeyed app s op c).2.challenges = s.challenges := by
  by_cases hq : Quiet op
  · rw [performKeyed_quiet hq]
    exact (perform_opStep c).challenges hop
  · cases op with
    | idempotencyDO shard path method =>
      rcases performKeyed_idempotencyDO app s c with h | h
      · rw [h]
      · rw [h]
        rfl
    | _ => exact absurd (fun h => h) hq

/-- A message in flight was there before or is the operation's own. -/
theorem performKeyed_inflight {op : Op} {c : Choice op} {m : Message}
    (hm : m ∈ (performKeyed app s op c).2.inflight) : m ∈ s.inflight ∨ op.message = some m := by
  by_cases hq : Quiet op
  · rw [performKeyed_quiet hq] at hm
    exact (perform_opStep c).inflight hm
  · cases op with
    | idempotencyDO shard path method =>
      rcases performKeyed_idempotencyDO app s c with h | h
      · rw [h] at hm
        exact .inl hm
      · rw [h] at hm
        exact .inl hm
    | _ => exact absurd (fun h => h) hq

/-- Requests arrive and interleave in any order, over a correct store. -/
def anyOrderKeyed (app : AppState) (Req : Type) : Rules (keyedService app) Req :=
  { arrive := fun _ _ _ => True
    call := fun w _ op c => freshIds w.state op c
    env := fun w e => dateRange w.state e }

instance (app : AppState) (Req : Type) : DecidableRules (anyOrderKeyed app Req) :=
  { arrive := fun _ _ _ => .isTrue trivial
    call := fun w _ op c => instDecidableFreshIds w.state op c
    env := fun w e => instDecidableDateRange w.state e }

/-- The store is empty, and nothing is on its way to it. -/
structure NothingStored (s : State) : Prop where
  empty : ∀ shard path, s.idempotency shard path = none
  inflight : s.inflight = []

/-! ## Entries -/

/-- Request `i` sent the body to the store, at the path. -/
def SentToStore (tr : List (Event (keyedService app) Req)) (i shard : Nat) (path : String)
    (body : Body IdempotencyDO.SetRequest) : Prop :=
  ∃ answer, (⟨.idempotencyDO shard path (.post body), answer⟩ : Sigma Res) ∈ own i tr

theorem SentToStore.mono {tr tr' : List (Event (keyedService app) Req)} {i shard : Nat}
    {path : String} {body : Body IdempotencyDO.SetRequest} (hs : tr <:+ tr')
    (h : SentToStore tr i shard path body) : SentToStore tr' i shard path body := by
  obtain ⟨answer, hm⟩ := h
  exact ⟨answer, (hs.filterMap _).subset hm⟩

theorem SentToStore.cons {tr : List (Event (keyedService app) Req)} {i shard : Nat}
    {path : String} {body : Body IdempotencyDO.SetRequest} (h : SentToStore tr i shard path body)
    (e : Event (keyedService app) Req) : SentToStore (e :: tr) i shard path body :=
  h.mono (List.suffix_cons e tr)

/-- The entry keeps what the request asked to store. -/
structure Keeps (set : IdempotencyDO.SetRequest) (entry : IdempotencyDO.Entry) : Prop where
  body : entry.responseBody = set.responseBody
  status : entry.statusCode = set.statusCode
  fingerprint : entry.requestFingerprint = set.requestFingerprint

/-- The entry was sent to the store by a request of the run. -/
def StoredBy (tr : List (Event (keyedService app) Req)) (shard : Nat) (path : String)
    (entry : IdempotencyDO.Entry) : Prop :=
  ∃ i body set, SentToStore tr i shard path body ∧ body.value = some set ∧ Keeps set entry

theorem StoredBy.cons {tr : List (Event (keyedService app) Req)} {shard : Nat} {path : String}
    {entry : IdempotencyDO.Entry} (h : StoredBy tr shard path entry)
    (e : Event (keyedService app) Req) : StoredBy (e :: tr) shard path entry := by
  obtain ⟨i, body, set, hsent, hrest⟩ := h
  exact ⟨i, body, set, hsent.cons e, hrest⟩

section Object

variable {st : IdempotencyDO.Storage} {now : Nat} {key k : String} {entry : IdempotencyDO.Entry}

/-- A check leaves no entry that was not there. -/
theorem checkIdempotencyKey_entry
    (h : (IdempotencyDO.checkIdempotencyKey st now .none key).2 k = some entry) :
    st k = some entry := by
  unfold IdempotencyDO.checkIdempotencyKey at h
  split at h
  · split at h
    · have h : Function.update st key none k = some entry := h
      by_cases hk : k = key
      · rw [hk, Function.update_self] at h
        cases h
      · rw [Function.update_of_ne hk] at h
        exact h
    · exact h
  · exact h

/-- A set leaves the entries that were there, and the one it stores. -/
theorem setIdempotencyKey_entry {body : Body IdempotencyDO.SetRequest}
    (h : (IdempotencyDO.setIdempotencyKey st now .none key body).2 k = some entry) :
    st k = some entry ∨ k = key ∧ ∃ set, body.value = some set ∧ Keeps set entry := by
  unfold IdempotencyDO.setIdempotencyKey at h
  split at h
  · exact .inl h
  · split at h
    · exact .inl h
    · next set hset =>
      split at h
      · exact .inl h
      · simp only [IdempotencyDO.Faults.none, and_self, if_true] at h
        have h := (Option.filter_eq_some_iff.mp h).1
        by_cases hk : k = key
        · rw [hk, Function.update_self] at h
          cases h
          exact .inr ⟨hk, set, hset, rfl, rfl, rfl⟩
        · rw [Function.update_of_ne hk] at h
          exact .inl h

theorem deleteIdempotencyKey_entry
    (h : (IdempotencyDO.deleteIdempotencyKey st .none key).2 k = some entry) :
    st k = some entry := by
  have h : Function.update st key none k = some entry := h
  by_cases hk : k = key
  · rw [hk, Function.update_self] at h
    cases h
  · rw [Function.update_of_ne hk] at h
    exact h

end Object

/-- The entries after the store served a request. -/
theorem serveKeyed_entry {shard shard' : Nat} {path path' : String}
    {method : IdempotencyDO.Method} {entry : IdempotencyDO.Entry}
    (h : (s.serveKeyed shard path method).2.idempotency shard' path' = some entry) :
    s.idempotency shard' path' = some entry ∨ shard' = shard ∧ path' = path ∧
      ∃ body set, method = .post body ∧ body.value = some set ∧ Keeps set entry := by
  unfold State.serveKeyed at h
  by_cases hshard : shard' = shard
  · subst hshard
    dsimp only at h
    rw [Function.update_self] at h
    cases method with
    | get => exact .inl (checkIdempotencyKey_entry h)
    | post body =>
      rcases setIdempotencyKey_entry h with h | ⟨hpath, set, hset, hkeeps⟩
      · exact .inl h
      · exact .inr ⟨rfl, hpath, body, set, rfl, hset, hkeeps⟩
    | delete => exact .inl (deleteIdempotencyKey_entry h)
  · dsimp only at h
    rw [Function.update_of_ne hshard] at h
    exact .inl h

theorem OpStep.entries {t : State} {op : Op} (h : OpStep app s op t) (hop : Quiet op) :
    t.idempotency = s.idempotency := by
  cases h with
  | credits => rw [deduct_eq]
  | idempotency => exact absurd trivial hop
  | _ => rfl

/-- A step of the environment changes no entry, when nothing is on its way to the store. -/
theorem envStep_idempotency {e : Env}
    (h : ∀ shard path method, .idempotency shard path method ∉ s.inflight) :
    (envStep app s e).idempotency = s.idempotency := by
  cases e with
  | tick seconds => rfl
  | nonceAlarm shard => rfl
  | deliver i f g k =>
    cases hm : s.inflight[i]? with
    | none => rw [envStep_deliver_none hm]
    | some m =>
      rw [envStep_deliver hm]
      have hmem := List.mem_of_getElem? hm
      cases m with
      | challenge id req => rfl
      | nonce tag body => rfl
      | idempotency shard path method => exact absurd hmem (h shard path method)
      | credits req =>
        simp only [State.deliver]
        rw [deduct_eq]
        rfl

/-! ## Runs -/

/-- What holds of the store in every world. -/
structure EntryInv (w : World (keyedService app) Req) : Prop where
  inflight : ∀ shard path method, .idempotency shard path method ∉ State.inflight w.state
  stored : ∀ shard path entry, State.idempotency w.state shard path = some entry →
    StoredBy w.trace shard path entry

variable {handler : Req → Handler α} {R : Rules (keyedService app) Req} {init : State → Prop}
  {p : Pool (keyedService app) Req ApiError α}

/-- A request to the store keeps the invariant. -/
theorem EntryInv.store {w : World (keyedService app) Req} (h : EntryInv w) {i shard : Nat}
    {path : String} {method : IdempotencyDO.Method}
    {c : (keyedService app).Choice (.idempotencyDO shard path method)} :
    EntryInv (w.after i (.idempotencyDO shard path method) c) := by
  have hstate : (w.after i (.idempotencyDO shard path method) c).state = w.state ∨
      (w.after i (.idempotencyDO shard path method) c).state =
        (State.serveKeyed w.state shard path method).2 := performKeyed_idempotencyDO _ _ c
  refine ⟨?_, ?_⟩
  · intro shard' path' method' hm
    refine h.inflight shard' path' method' ?_
    rcases hstate with hstate | hstate
    · rw [hstate] at hm
      exact hm
    · rw [hstate] at hm
      exact hm
  · intro shard' path' entry hentry
    rcases hstate with hstate | hstate
    · rw [hstate] at hentry
      exact (h.stored shard' path' entry hentry).cons _
    · rw [hstate] at hentry
      rcases serveKeyed_entry hentry with hentry | ⟨rfl, rfl, body, set, rfl, hset, hkeeps⟩
      · exact (h.stored shard' path' entry hentry).cons _
      · refine ⟨i, body, set, ⟨(performKeyed app w.state _ c).1, ?_⟩, hset, hkeeps⟩
        rw [World.after_trace, own_call_self]
        exact List.mem_cons_self

/-- Any other operation keeps it. -/
theorem EntryInv.quiet {w : World (keyedService app) Req} (h : EntryInv w) {i : Nat} {op : Op}
    {c : (keyedService app).Choice op} (hop : Quiet op) : EntryInv (w.after i op c) := by
  have hperform : (w.after i op c).state = (perform app w.state op c).2 :=
    congrArg Prod.snd (performKeyed_quiet hop c)
  have hstep : OpStep app w.state op (perform app w.state op c).2 := perform_opStep c
  refine ⟨?_, ?_⟩
  · intro shard path method hm
    rw [hperform] at hm
    rcases hstep.inflight hm with hm | hmsg
    · exact h.inflight shard path method hm
    · cases op <;> simp only [Op.message, Option.some.injEq, reduceCtorEq] at hmsg
      exact hop trivial
  · intro shard path entry hentry
    rw [hperform, hstep.entries hop] at hentry
    exact (h.stored shard path entry hentry).cons _

/-- **The entries of a run** were sent to the store by its requests. -/
theorem Run.entryInv (hinit : ∀ s, init s → NothingStored s) (hr : Run handler R init p) :
    EntryInv p.world := by
  refine hr.invariant (fun req => guarded_trivial [] (handler req)) ?_ ?_ ?_ ?_
  · intro s hs
    refine ⟨?_, ?_⟩
    · intro shard path method hm
      have hm : .idempotency shard path method ∈ s.inflight := hm
      rw [(hinit s hs).inflight] at hm
      exact absurd hm List.not_mem_nil
    · intro shard path entry hentry
      have hentry : s.idempotency shard path = some entry := hentry
      rw [(hinit s hs).empty] at hentry
      cases hentry
  · intro w i req _ h _
    exact ⟨h.inflight, fun shard path entry hentry => (h.stored shard path entry hentry).cons _⟩
  · intro w i op c req _ h _ _ _
    by_cases hop : Quiet op
    · exact h.quiet hop
    · cases op with
      | idempotencyDO shard path method => exact h.store
      | _ => exact absurd (fun h => h) hop
  · intro w e _ h _
    have hstep : EnvStep app w.state (envStep app w.state e) := envStep_envStep e
    refine ⟨?_, ?_⟩
    · intro shard path method hm
      exact h.inflight shard path method (hstep.inflight hm)
    · intro shard path entry hentry
      have hsame : (envStep app w.state e).idempotency = State.idempotency w.state :=
        envStep_idempotency h.inflight
      have hentry : (envStep app w.state e).idempotency shard path = some entry := hentry
      rw [hsame] at hentry
      exact h.stored shard path entry hentry

/-- A found entry is in the store. -/
theorem performKeyed_found {shard : Nat} {path : String} {entry : IdempotencyDO.Entry}
    {c : Choice (.idempotencyDO shard path .get)}
    (h : (performKeyed app s (.idempotencyDO shard path .get) c).1 = some (.found entry)) :
    s.idempotency shard path = some entry := by
  have hserve : (s.serveKeyed shard path .get).1 = some (.found entry) := by
    cases c with
    | lost => cases h
    | late => cases h
    | served f answered =>
      cases answered with
      | false => cases h
      | true => exact h
  unfold State.serveKeyed IdempotencyDO.checkIdempotencyKey IdempotencyDO.read at hserve
  simp only [IdempotencyDO.Faults.none, if_true] at hserve
  cases hentry : s.idempotency shard path with
  | none =>
    rw [hentry] at hserve
    cases hserve
  | some e =>
    rw [hentry] at hserve
    dsimp only at hserve
    split at hserve
    · cases hserve
    · cases hserve
      rfl

/-- **An entry that a request found** was sent to the store before the request looked. -/
theorem Run.found_stored (hinit : ∀ s, init s → NothingStored s) (hr : Run handler R init p)
    {j shard : Nat} {path : String} {entry : IdempotencyDO.Entry}
    (hfound : (⟨.idempotencyDO shard path .get, some (.found entry)⟩ : Sigma Res) ∈
      own j p.world.trace) :
    ∃ new old s c, p.world.trace = new ++ .call j s (.idempotencyDO shard path .get) c :: old ∧
      (performKeyed app s (.idempotencyDO shard path .get) c).1 = some (.found entry) ∧
      StoredBy old shard path entry := by
  obtain ⟨s, c, hm, hanswer⟩ := mem_own.mp hfound
  obtain ⟨new, old, htrace⟩ := List.append_of_mem hm
  obtain ⟨⟨q, hq, hworld⟩, -⟩ :=
    hr.call_event (fun req => guarded_trivial [] (handler req)) htrace
  have hinv := Run.entryInv hinit hq
  rw [hworld] at hinv
  exact ⟨new, old, s, c, htrace, hanswer,
    hinv.stored shard path entry (performKeyed_found hanswer)⟩

end ProviiVerifier

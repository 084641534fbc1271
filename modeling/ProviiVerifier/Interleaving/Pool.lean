import ProviiVerifier.Interleaving.Prog
import Mathlib.Logic.Function.Basic

/-
  Interleaved runs of request handlers over shared stores.

  A `Machine` says what each operation does to the shared state. What the outside world
  decides at an operation (a lost request, a failed write, the answer of a foreign service)
  is an explicit `Choice`, so that a step is a function and a run can be replayed.

  A `Pool` holds the shared state, the trace of everything that happened and one residual
  handler for each request that arrived. `Run` interleaves arrivals, single operations and
  steps of the environment in any order, subject to `Rules`.

  Proved:
    `Run.guarded`: what `Guarded` says of a handler holds of every request of a run, with the
      request's own part of the trace as its history.
    `Run.invariant`: to show an invariant of all runs, show that an operation keeps it
      whenever the handler's guard allows the operation.
    `Run.call_event`: every operation in the trace was guarded and permitted when it ran.
    `Run.replay`: a list of acts that replays is a run.
-/

namespace Interleaving

/-- What operations do to the shared state. -/
structure Machine (Op : Type) (Res : Op → Type) where
  State : Type
  /-- What the outside world decides when an operation runs. -/
  Choice : Op → Type
  /-- Steps no request takes: the clock, alarms, expiring entries. -/
  Env : Type
  perform : State → (op : Op) → Choice op → Res op × State
  envStep : State → Env → State

variable {Op : Type} {Res : Op → Type}

/-- What a run records. An operation is recorded with the state it ran in. -/
inductive Event (M : Machine Op Res) (Req : Type)
  | arrive (i : Nat) (req : Req)
  | call (i : Nat) (before : M.State) (op : Op) (choice : M.Choice op)

/-- The shared state and the events so far, newest first. -/
structure World (M : Machine Op Res) (Req : Type) where
  state : M.State
  trace : List (Event M Req)

/-- The shared world and the residual handler of each request that arrived. -/
structure Pool (M : Machine Op Res) (Req ε α : Type) where
  world : World M Req
  procs : Nat → Option (Prog Op Res ε α)

/-- Which steps a family of runs may take. -/
structure Rules (M : Machine Op Res) (Req : Type) where
  arrive : World M Req → Nat → Req → Prop
  call : World M Req → Nat → (op : Op) → M.Choice op → Prop
  env : World M Req → M.Env → Prop

section Steps

variable {M : Machine Op Res} {Req ε α : Type}

/-! ## Histories -/

/-- The operation of an event, with its answer, when request `i` performed it. -/
def Event.ofProc (i : Nat) : Event M Req → Option (Sigma Res)
  | .arrive _ _ => none
  | .call j s op c => if j = i then some ⟨op, (M.perform s op c).1⟩ else none

/-- Request `i`'s own part of a trace. -/
def own (i : Nat) (tr : List (Event M Req)) : History Op Res :=
  tr.filterMap (Event.ofProc i)

@[simp] theorem own_nil (i : Nat) : own i ([] : List (Event M Req)) = [] := rfl

@[simp] theorem own_arrive (i j : Nat) (req : Req) (tr : List (Event M Req)) :
    own i (.arrive j req :: tr) = own i tr := rfl

@[simp] theorem own_call_self (i : Nat) (s : M.State) (op : Op) (c : M.Choice op)
    (tr : List (Event M Req)) :
    own i (.call i s op c :: tr) = ⟨op, (M.perform s op c).1⟩ :: own i tr := by
  simp [own, Event.ofProc]

theorem own_call_ne {i j : Nat} (hij : j ≠ i) (s : M.State) (op : Op) (c : M.Choice op)
    (tr : List (Event M Req)) : own i (.call j s op c :: tr) = own i tr := by
  simp [own, Event.ofProc, hij]

/-- An entry of a request's history is an event of the trace. -/
theorem mem_own {i : Nat} {tr : List (Event M Req)} {op : Op} {r : Res op} :
    (⟨op, r⟩ : Sigma Res) ∈ own i tr ↔
      ∃ s c, .call i s op c ∈ tr ∧ (M.perform s op c).1 = r := by
  constructor
  · intro hm
    obtain ⟨e, he, hx⟩ := List.mem_filterMap.mp hm
    cases e with
    | arrive j req => simp [Event.ofProc] at hx
    | call j s op' c =>
      simp only [Event.ofProc] at hx
      split at hx
      · next hj =>
        injection hx with hx
        injection hx with hop hx
        subst hop hj
        exact ⟨s, c, he, eq_of_heq hx⟩
      · cases hx
  · rintro ⟨s, c, he, rfl⟩
    exact List.mem_filterMap.mpr ⟨_, he, by simp [Event.ofProc]⟩

/-- A request's own part of a trace grows with the trace. -/
theorem own_suffix_cons (i : Nat) (e : Event M Req) (tr : List (Event M Req)) :
    own i tr <:+ own i (e :: tr) := by
  cases e with
  | arrive j req => exact List.suffix_rfl
  | call j s op c =>
    by_cases hij : j = i
    · subst hij
      rw [own_call_self]
      exact List.suffix_cons _ _
    · exact ⟨[], (own_call_ne hij _ _ _ _).symm⟩

/-- An entry of a request's history after one more operation is old or that operation. -/
theorem mem_own_call {i j : Nat} {s : M.State} {op : Op} {c : M.Choice op}
    {tr : List (Event M Req)} {x : Sigma Res} (h : x ∈ own i (.call j s op c :: tr)) :
    x ∈ own i tr ∨ j = i ∧ x = ⟨op, (M.perform s op c).1⟩ := by
  by_cases hij : j = i
  · subst hij
    rw [own_call_self] at h
    rcases List.mem_cons.mp h with h | h
    · exact .inr ⟨rfl, h⟩
    · exact .inl h
  · rw [own_call_ne hij] at h
    exact .inl h

/-- What a request's history goes back to is the event that the trace goes back to. -/
theorem own_suffix {i : Nat} {tr : List (Event M Req)} {x : Sigma Res} {past : History Op Res}
    (h : x :: past <:+ own i tr) : ∃ new s op c old, tr = new ++ .call i s op c :: old ∧
      x = ⟨op, (M.perform s op c).1⟩ ∧ own i old = past := by
  induction tr with
  | nil => exact absurd (List.suffix_nil.mp h) (List.cons_ne_nil _ _)
  | cons e tr ih =>
    have hlater : x :: past <:+ own i tr → ∃ new s op c old,
        e :: tr = new ++ .call i s op c :: old ∧ x = ⟨op, (M.perform s op c).1⟩ ∧
          own i old = past := by
      intro hs
      obtain ⟨new, s, op, c, old, rfl, hx, hold⟩ := ih hs
      exact ⟨e :: new, s, op, c, old, rfl, hx, hold⟩
    cases e with
    | arrive j req => exact hlater h
    | call j s op c =>
      by_cases hij : j = i
      · subst hij
        rw [own_call_self] at h
        rcases List.suffix_cons_iff.mp h with heq | hs
        · injection heq with hx hold
          exact ⟨[], s, op, c, tr, rfl, hx, hold.symm⟩
        · exact hlater hs
      · rw [own_call_ne hij] at h
        exact hlater h

theorem own_suffix_call {i : Nat} {s : M.State} {op : Op} {c : M.Choice op}
    {new old : List (Event M Req)} :
    ⟨op, (M.perform s op c).1⟩ :: own i old <:+ own i (new ++ .call i s op c :: old) := by
  induction new with
  | nil =>
    exact ⟨[], (own_call_self i s op c old).symm⟩
  | cons e new ih => exact ih.trans (own_suffix_cons i e _)

/-- Of two entries of a history, one is in the past of the other. -/
theorem mem_past {h past past' : History Op Res} {x y : Sigma Res} (hx : x :: past <:+ h)
    (hy : y :: past' <:+ h) (hne : x ≠ y) (hnot : y ∉ past) : x ∈ past' := by
  rcases List.suffix_or_suffix_of_suffix hx hy with hs | hs
  · rcases List.suffix_cons_iff.mp hs with heq | hs
    · injection heq with heq
      exact absurd heq hne
    · exact hs.subset List.mem_cons_self
  · rcases List.suffix_cons_iff.mp hs with heq | hs
    · injection heq with heq
      exact absurd heq.symm hne
    · exact absurd (hs.subset List.mem_cons_self) hnot

/-! ## Steps -/

/-- The world after request `i` performed an operation. -/
def World.after (w : World M Req) (i : Nat) (op : Op) (c : M.Choice op) : World M Req :=
  ⟨(M.perform w.state op c).2, .call i w.state op c :: w.trace⟩

/-- The world after a request arrived. -/
def World.arrived (w : World M Req) (i : Nat) (req : Req) : World M Req :=
  ⟨w.state, .arrive i req :: w.trace⟩

/-- The world after a step of the environment. -/
def World.moved (w : World M Req) (e : M.Env) : World M Req :=
  ⟨M.envStep w.state e, w.trace⟩

@[simp] theorem World.after_state (w : World M Req) (i : Nat) (op : Op) (c : M.Choice op) :
    (w.after i op c).state = (M.perform w.state op c).2 := rfl

@[simp] theorem World.after_trace (w : World M Req) (i : Nat) (op : Op) (c : M.Choice op) :
    (w.after i op c).trace = .call i w.state op c :: w.trace := rfl

@[simp] theorem World.arrived_state (w : World M Req) (i : Nat) (req : Req) :
    (w.arrived i req).state = w.state := rfl

@[simp] theorem World.arrived_trace (w : World M Req) (i : Nat) (req : Req) :
    (w.arrived i req).trace = .arrive i req :: w.trace := rfl

@[simp] theorem World.moved_state (w : World M Req) (e : M.Env) :
    (w.moved e).state = M.envStep w.state e := rfl

@[simp] theorem World.moved_trace (w : World M Req) (e : M.Env) :
    (w.moved e).trace = w.trace := rfl

/-- Give request `i` a residual handler. -/
def Pool.put (p : Pool M Req ε α) (w : World M Req) (i : Nat) (q : Prog Op Res ε α) :
    Pool M Req ε α :=
  ⟨w, Function.update p.procs i (some q)⟩

@[simp] theorem Pool.put_world (p : Pool M Req ε α) (w : World M Req) (i : Nat)
    (q : Prog Op Res ε α) : (p.put w i q).world = w := rfl

@[simp] theorem Pool.put_procs_self (p : Pool M Req ε α) (w : World M Req) (i : Nat)
    (q : Prog Op Res ε α) : (p.put w i q).procs i = some q := by
  simp [Pool.put]

theorem Pool.put_procs_ne (p : Pool M Req ε α) (w : World M Req) {i j : Nat} (hij : i ≠ j)
    (q : Prog Op Res ε α) : (p.put w j q).procs i = p.procs i := by
  simp [Pool.put, hij]

/-- The outcome of request `i`, once it has one. -/
def Pool.outcome (p : Pool M Req ε α) (i : Nat) : Option (Except ε α) :=
  (p.procs i).bind Prog.outcome

/-- The pool before any request arrived. -/
def Pool.start (s : M.State) : Pool M Req ε α :=
  ⟨⟨s, []⟩, fun _ => none⟩

/-- The interleaved runs of `handler` that keep to the rules, from a state in `init`. -/
inductive Run (handler : Req → Prog Op Res ε α) (R : Rules M Req) (init : M.State → Prop) :
    Pool M Req ε α → Prop
  | start {s : M.State} (hs : init s) : Run handler R init (.start s)
  | arrive {p : Pool M Req ε α} {i : Nat} {req : Req} (hr : Run handler R init p)
      (hfree : p.procs i = none) (hR : R.arrive p.world i req) :
      Run handler R init (p.put (p.world.arrived i req) i (handler req))
  | call {p : Pool M Req ε α} {i : Nat} {op : Op} {k : Res op → Prog Op Res ε α}
      {c : M.Choice op} (hr : Run handler R init p) (hp : p.procs i = some (.call op k))
      (hR : R.call p.world i op c) :
      Run handler R init
        (p.put (p.world.after i op c) i (k (M.perform p.world.state op c).1))
  | env {p : Pool M Req ε α} {e : M.Env} (hr : Run handler R init p)
      (hR : R.env p.world e) : Run handler R init ⟨p.world.moved e, p.procs⟩

/-- One step of a run. -/
inductive Next (handler : Req → Prog Op Res ε α) (R : Rules M Req) (p : Pool M Req ε α) :
    Pool M Req ε α → Prop
  | arrive {i : Nat} {req : Req} (hfree : p.procs i = none) (hR : R.arrive p.world i req) :
      Next handler R p (p.put (p.world.arrived i req) i (handler req))
  | call {i : Nat} {op : Op} {k : Res op → Prog Op Res ε α} {c : M.Choice op}
      (hp : p.procs i = some (.call op k)) (hR : R.call p.world i op c) :
      Next handler R p (p.put (p.world.after i op c) i (k (M.perform p.world.state op c).1))
  | env {e : M.Env} (hR : R.env p.world e) : Next handler R p ⟨p.world.moved e, p.procs⟩

/-- The worlds that runs reach. -/
def Reached (handler : Req → Prog Op Res ε α) (R : Rules M Req) (init : M.State → Prop)
    (w : World M Req) : Prop :=
  ∃ p, Run handler R init p ∧ p.world = w

variable {handler : Req → Prog Op Res ε α} {R R' : Rules M Req} {init init' : M.State → Prop}
  {p : Pool M Req ε α}

theorem Run.reached (hr : Run handler R init p) : Reached handler R init p.world :=
  ⟨p, hr, rfl⟩

theorem Run.next {q : Pool M Req ε α} (hr : Run handler R init p) (h : Next handler R p q) :
    Run handler R init q := by
  cases h with
  | arrive hfree hR => exact .arrive hr hfree hR
  | call hp hR => exact .call hr hp hR
  | env hR => exact .env hr hR

/-- A run under stricter rules is a run. -/
theorem Run.mono (hr : Run handler R init p) (hi : ∀ s, init s → init' s)
    (ha : ∀ w i req, R.arrive w i req → R'.arrive w i req)
    (hc : ∀ w i op c, R.call w i op c → R'.call w i op c)
    (he : ∀ w e, R.env w e → R'.env w e) : Run handler R' init' p := by
  induction hr with
  | start hs => exact .start (hi _ hs)
  | arrive _ hfree hR ih => exact .arrive ih hfree (ha _ _ _ hR)
  | call _ hp hR ih => exact .call ih hp (hc _ _ _ _ hR)
  | env _ hR ih => exact .env ih (he _ _ hR)

/-! ## Guards along runs -/

/-- A request that has not arrived has no event in the trace. -/
theorem Run.no_event (hr : Run handler R init p) {i : Nat} (hi : p.procs i = none) :
    own i p.world.trace = [] ∧ ∀ req, .arrive i req ∉ p.world.trace := by
  induction hr with
  | start hs => simp [Pool.start]
  | @arrive p j req _ hfree hR ih =>
    have hij : i ≠ j := by
      rintro rfl
      simp at hi
    rw [Pool.put_procs_ne _ _ hij] at hi
    simpa [hij] using ih hi
  | @call p j op k c _ hp hR ih =>
    have hij : i ≠ j := by
      rintro rfl
      simp at hi
    rw [Pool.put_procs_ne _ _ hij] at hi
    simpa [own_call_ne (Ne.symm hij)] using ih hi
  | env _ hR ih => exact ih hi

variable {G : Req → History Op Res → Op → Prop}
  {Q : Req → History Op Res → Except ε α → Prop}

/-- **Guards of handlers are guards of runs**: the residual handler of a request is guarded
from the request's own history on. -/
theorem Run.guarded (hG : ∀ req, (handler req).Guarded (G req) (Q req) [])
    (hr : Run handler R init p) {i : Nat} {q : Prog Op Res ε α} (hq : p.procs i = some q) :
    ∃ req, .arrive i req ∈ p.world.trace ∧
      q.Guarded (G req) (Q req) (own i p.world.trace) := by
  induction hr generalizing q with
  | start hs => simp [Pool.start] at hq
  | @arrive p j req hr hfree hR ih =>
    by_cases hij : i = j
    · subst hij
      simp only [Pool.put_procs_self, Option.some.injEq] at hq
      subst hq
      refine ⟨req, by simp, ?_⟩
      simpa [(hr.no_event hfree).1] using hG req
    · rw [Pool.put_procs_ne _ _ hij] at hq
      obtain ⟨req', hm, hg⟩ := ih hq
      exact ⟨req', List.mem_cons_of_mem _ hm, by simpa using hg⟩
  | @call p j op k c hr hp hR ih =>
    by_cases hij : i = j
    · subst hij
      simp only [Pool.put_procs_self, Option.some.injEq] at hq
      subst hq
      obtain ⟨req', hm, hg⟩ := ih hp
      refine ⟨req', List.mem_cons_of_mem _ hm, ?_⟩
      simpa using hg.2 _
    · rw [Pool.put_procs_ne _ _ hij] at hq
      obtain ⟨req', hm, hg⟩ := ih hq
      refine ⟨req', List.mem_cons_of_mem _ hm, ?_⟩
      simpa [own_call_ne (Ne.symm hij)] using hg
  | env _ hR ih => exact ih hq

/-- The outcome of a finished request meets its postcondition. -/
theorem Run.outcome (hG : ∀ req, (handler req).Guarded (G req) (Q req) [])
    (hr : Run handler R init p) {i : Nat} {r : Except ε α} (ho : p.outcome i = some r) :
    ∃ req, .arrive i req ∈ p.world.trace ∧ Q req (own i p.world.trace) r := by
  obtain ⟨q, hq, hout⟩ := Option.bind_eq_some_iff.mp ho
  obtain ⟨req, hm, hg⟩ := hr.guarded hG hq
  exact ⟨req, hm, hg.of_outcome hout⟩

/-- **Invariant rule.** An invariant that the start, an arrival, a step of the environment
and every guarded operation keep holds in every world a run reaches. -/
theorem Run.invariant {I : World M Req → Prop}
    (hG : ∀ req, (handler req).Guarded (G req) (Q req) [])
    (hstart : ∀ s, init s → I ⟨s, []⟩)
    (harrive : ∀ w i req, Reached handler R init w → I w → R.arrive w i req →
      I (w.arrived i req))
    (hcall : ∀ w i op c req, Reached handler R init w → I w → .arrive i req ∈ w.trace →
      G req (own i w.trace) op → R.call w i op c → I (w.after i op c))
    (henv : ∀ w e, Reached handler R init w → I w → R.env w e → I (w.moved e))
    (hr : Run handler R init p) : I p.world := by
  induction hr with
  | start hs => exact hstart _ hs
  | arrive hr _ hR ih => exact harrive _ _ _ hr.reached ih hR
  | call hr hp hR ih =>
    obtain ⟨req, hm, hg⟩ := hr.guarded hG hp
    exact hcall _ _ _ _ req hr.reached ih hm hg.1 hR
  | env hr hR ih => exact henv _ _ hr.reached ih hR

/-- Every operation in the trace ran in a reached world, guarded and permitted there. -/
theorem Run.call_event (hG : ∀ req, (handler req).Guarded (G req) (Q req) [])
    (hr : Run handler R init p) {new old : List (Event M Req)} {i : Nat} {s : M.State}
    {op : Op} {c : M.Choice op} (ht : p.world.trace = new ++ .call i s op c :: old) :
    Reached handler R init ⟨s, old⟩ ∧ R.call ⟨s, old⟩ i op c ∧
      ∃ req, .arrive i req ∈ old ∧ G req (own i old) op := by
  induction hr generalizing new with
  | start hs => simp [Pool.start] at ht
  | arrive hr _ hR ih =>
    cases new with
    | nil => simp at ht
    | cons e new =>
      simp only [Pool.put_world, World.arrived_trace, List.cons_append, List.cons.injEq] at ht
      exact ih ht.2
  | @call q j op' k c' hr hp hR ih =>
    cases new with
    | nil =>
      simp only [Pool.put_world, World.after_trace, List.nil_append, List.cons.injEq,
        Event.call.injEq] at ht
      obtain ⟨⟨rfl, rfl, rfl, hc⟩, rfl⟩ := ht
      cases hc
      obtain ⟨req, hm, hg⟩ := hr.guarded hG hp
      exact ⟨hr.reached, hR, req, hm, hg.1⟩
    | cons e new =>
      simp only [Pool.put_world, World.after_trace, List.cons_append, List.cons.injEq] at ht
      exact ih ht.2
  | env _ hR ih => exact ih ht

/-- A request arrives once. -/
theorem Run.arrive_unique (hr : Run handler R init p) {i : Nat} {req req' : Req}
    (h : .arrive i req ∈ p.world.trace) (h' : .arrive i req' ∈ p.world.trace) :
    req = req' := by
  induction hr with
  | start hs => simp [Pool.start] at h
  | @arrive p j r hr hfree hR ih =>
    have hno := (hr.no_event hfree).2
    simp only [Pool.put_world, World.arrived_trace, List.mem_cons, Event.arrive.injEq] at h h'
    rcases h with ⟨rfl, rfl⟩ | h
    · rcases h' with ⟨-, rfl⟩ | h'
      · rfl
      · exact absurd h' (hno _)
    · rcases h' with ⟨rfl, rfl⟩ | h'
      · exact absurd h (hno _)
      · exact ih h h'
  | call _ _ _ ih =>
    simp only [Pool.put_world, World.after_trace, List.mem_cons, reduceCtorEq,
      false_or] at h h'
    exact ih h h'
  | env _ _ ih => exact ih h h'

end Steps

/-! ## Replaying a run -/

section Replay

variable (M : Machine Op Res) (Req : Type)

/-- One step of a run to replay; `pick` decides for the operation the request is at. -/
inductive Act
  | arrive (i : Nat) (req : Req)
  | call (i : Nat) (pick : (op : Op) → M.Choice op)
  | env (e : M.Env)

variable {M Req} {ε α : Type}

/-- Rules that can be checked. -/
class DecidableRules (R : Rules M Req) where
  arrive : ∀ w i req, Decidable (R.arrive w i req)
  call : ∀ w i op c, Decidable (R.call w i op c)
  env : ∀ w e, Decidable (R.env w e)

instance {R : Rules M Req} [D : DecidableRules R] (w : World M Req) (i : Nat) (req : Req) :
    Decidable (R.arrive w i req) := D.arrive w i req

instance {R : Rules M Req} [D : DecidableRules R] (w : World M Req) (i : Nat) (op : Op)
    (c : M.Choice op) : Decidable (R.call w i op c) := D.call w i op c

instance {R : Rules M Req} [D : DecidableRules R] (w : World M Req) (e : M.Env) :
    Decidable (R.env w e) := D.env w e

variable (handler : Req → Prog Op Res ε α) (R : Rules M Req) [DecidableRules R]

/-- Replay one act; `none` when no run can take it. -/
def Pool.act (p : Pool M Req ε α) : Act M Req → Option (Pool M Req ε α)
  | .arrive i req =>
    match p.procs i with
    | none =>
      if R.arrive p.world i req then
        some (p.put (p.world.arrived i req) i (handler req))
      else none
    | some _ => none
  | .call i pick =>
    match p.procs i with
    | some (.call op k) =>
      if R.call p.world i op (pick op) then
        some (p.put (p.world.after i op (pick op)) i (k (M.perform p.world.state op (pick op)).1))
      else none
    | _ => none
  | .env e => if R.env p.world e then some ⟨p.world.moved e, p.procs⟩ else none

/-- Replay a list of acts. -/
def Pool.replay (p : Pool M Req ε α) : List (Act M Req) → Option (Pool M Req ε α)
  | [] => some p
  | a :: as => (p.act handler R a).bind fun q => q.replay as

variable {handler R} {init : M.State → Prop}

theorem Run.act {p q : Pool M Req ε α} {a : Act M Req} (hr : Run handler R init p)
    (h : p.act handler R a = some q) : Run handler R init q := by
  cases a with
  | arrive i req =>
    simp only [Pool.act] at h
    split at h
    · next hfree =>
      split at h
      · next hR =>
        cases h
        exact .arrive hr hfree hR
      · cases h
    · cases h
  | call i pick =>
    simp only [Pool.act] at h
    split at h
    · next op k hp =>
      split at h
      · next hR =>
        cases h
        exact .call hr hp hR
      · cases h
    · cases h
  | env e =>
    simp only [Pool.act] at h
    split at h
    · next hR =>
      cases h
      exact .env hr hR
    · cases h

/-- **Replay rule**: what a list of acts leads to is reached by a run. -/
theorem Run.replay {p q : Pool M Req ε α} {as : List (Act M Req)}
    (hr : Run handler R init p) (h : p.replay handler R as = some q) :
    Run handler R init q := by
  induction as generalizing p with
  | nil =>
    cases h
    exact hr
  | cons a as ih =>
    obtain ⟨q', hq', hrest⟩ := Option.bind_eq_some_iff.mp h
    exact ih (hr.act hq') hrest

/-- The request of an arrival. -/
def Event.arrival : Event M Req → Option (Nat × Req)
  | .arrive i req => some (i, req)
  | .call _ _ _ _ => none

theorem mem_arrivals {i : Nat} {req : Req} {tr : List (Event M Req)} :
    (i, req) ∈ tr.filterMap Event.arrival ↔ .arrive i req ∈ tr := by
  constructor
  · intro hm
    obtain ⟨e, he, hx⟩ := List.mem_filterMap.mp hm
    cases e with
    | arrive j r =>
      cases hx
      exact he
    | call j s op c => cases hx
  · intro hm
    exact List.mem_filterMap.mpr ⟨_, hm, rfl⟩

instance [DecidableEq Req] (i : Nat) (req : Req) (tr : List (Event M Req)) :
    Decidable (.arrive i req ∈ tr) :=
  decidable_of_iff _ mem_arrivals

/-- The request of an act that lets one arrive. -/
def Act.arrival : Act M Req → Option (Nat × Req)
  | .arrive i req => some (i, req)
  | _ => none

theorem Pool.act_arrivals {p q : Pool M Req ε α} {a : Act M Req}
    (h : p.act handler R a = some q) : q.world.trace.filterMap Event.arrival =
      a.arrival.toList ++ p.world.trace.filterMap Event.arrival := by
  cases a with
  | arrive i req =>
    simp only [Pool.act] at h
    split at h
    · split at h
      · cases h
        rfl
      · cases h
    · cases h
  | call i pick =>
    simp only [Pool.act] at h
    split at h
    · split at h
      · cases h
        rfl
      · cases h
    · cases h
  | env e =>
    simp only [Pool.act] at h
    split at h
    · cases h
      rfl
    · cases h

/-- The requests that arrive in a replay are those of its acts. -/
theorem Pool.replay_arrivals {p q : Pool M Req ε α} {as : List (Act M Req)}
    (h : p.replay handler R as = some q) : q.world.trace.filterMap Event.arrival =
      (as.filterMap Act.arrival).reverse ++ p.world.trace.filterMap Event.arrival := by
  induction as generalizing p with
  | nil =>
    cases h
    rfl
  | cons a as ih =>
    obtain ⟨q', hq', hrest⟩ := Option.bind_eq_some_iff.mp h
    rw [ih hrest, Pool.act_arrivals hq', List.filterMap_cons]
    cases a.arrival with
    | none => rfl
    | some x => simp

/-- A list of acts whose replay passes a test leads to a pool that passes it, in which the requests
of the acts arrived. -/
theorem Run.of_replay_arrivals (s : M.State) (as : List (Act M Req))
    {test : Pool M Req ε α → Prop} [DecidablePred test] (hs : init s)
    (h : ((Pool.start s).replay handler R as).any (fun p => decide (test p)) = true) :
    ∃ p, Run handler R init p ∧ test p ∧
      ∀ i req, .arrive i req ∈ p.world.trace → (i, req) ∈ as.filterMap Act.arrival := by
  obtain ⟨p, hp, htest⟩ := (Option.any_eq_true _ _).mp h
  refine ⟨p, (Run.start hs).replay hp, of_decide_eq_true htest, ?_⟩
  intro i req hm
  have hm := mem_arrivals.mpr hm
  rw [Pool.replay_arrivals hp] at hm
  simpa [Pool.start] using hm

/-- A list of acts whose replay passes a test leads to a pool that passes it. -/
theorem Run.of_replay (s : M.State) (as : List (Act M Req))
    {test : Pool M Req ε α → Prop} [DecidablePred test] (hs : init s)
    (h : ((Pool.start s).replay handler R as).any (fun p => decide (test p)) = true) :
    ∃ p, Run handler R init p ∧ test p := by
  obtain ⟨p, hr, htest, -⟩ := Run.of_replay_arrivals s as hs h
  exact ⟨p, hr, htest⟩

end Replay

end Interleaving

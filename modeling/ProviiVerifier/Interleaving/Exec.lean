import ProviiVerifier.Interleaving.Pool

/-
  A handler running alone.

  `exec` runs a handler to its end on a state, with a fixed decision of the outside world for each
  operation. It is the run in which nothing else happens.

  Proved: the laws of `exec` for sequencing, and `Run.exec`: a request of a pool may run to its end
  alone, and the run then reaches what `exec` computes.
-/

namespace Interleaving

variable {Op : Type} {Res : Op → Type} {ε ε' α β Req : Type} {M : Machine Op Res}
  {pick : (op : Op) → M.Choice op}

namespace Prog

variable (M) in
/-- Run a handler to its end: its outcome and the state it leaves. -/
def exec (pick : (op : Op) → M.Choice op) : Prog Op Res ε α → M.State → Except ε α × M.State
  | ret a, s => (.ok a, s)
  | fail e, s => (.error e, s)
  | call op k, s =>
    (k (M.perform s op (pick op)).1).exec pick (M.perform s op (pick op)).2

variable {s s' : M.State}

@[simp] theorem exec_ret (a : α) : (ret a : Prog Op Res ε α).exec M pick s = (.ok a, s) := rfl

@[simp] theorem exec_fail (e : ε) : (fail e : Prog Op Res ε α).exec M pick s = (.error e, s) :=
  rfl

@[simp] theorem exec_call (op : Op) (k : Res op → Prog Op Res ε α) :
    (call op k).exec M pick s =
      (k (M.perform s op (pick op)).1).exec M pick (M.perform s op (pick op)).2 := rfl

/-- **Sequencing**: the rest runs on what the first part leaves. -/
theorem exec_bind (p : Prog Op Res ε α) (f : α → Prog Op Res ε β) :
    (p >>= f).exec M pick s =
      match p.exec M pick s with
      | (.ok a, s') => (f a).exec M pick s'
      | (.error e, s') => (.error e, s') := by
  induction p generalizing s with
  | ret a => rfl
  | fail e => rfl
  | call op k ih => exact ih _

/-- A first part that succeeds. -/
theorem exec_bind_ok {p : Prog Op Res ε α} {f : α → Prog Op Res ε β} {a : α}
    (h : p.exec M pick s = (.ok a, s')) :
    (p >>= f).exec M pick s = (f a).exec M pick s' := by
  rw [exec_bind, h]

/-- A first part that leaves the handler. -/
theorem exec_bind_error {p : Prog Op Res ε α} {f : α → Prog Op Res ε β} {e : ε}
    (h : p.exec M pick s = (.error e, s')) : (p >>= f).exec M pick s = (.error e, s') := by
  rw [exec_bind, h]

/-- An outcome that is handed on. -/
theorem exec_attempt {p : Prog Op Res ε α} {r : Except ε α} (h : p.exec M pick s = (r, s')) :
    (attempt p : Prog Op Res ε' (Except ε α)).exec M pick s = (.ok r, s') := by
  induction p generalizing s with
  | ret a =>
    cases h
    rfl
  | fail e =>
    cases h
    rfl
  | call op k ih => exact ih _ h

/-- An outcome handed on to the rest. -/
theorem exec_attempt_bind {p : Prog Op Res ε α} {f : Except ε α → Prog Op Res ε' β}
    {r : Except ε α} (h : p.exec M pick s = (r, s')) :
    (attempt p >>= f).exec M pick s = (f r).exec M pick s' :=
  exec_bind_ok (exec_attempt h)

/-- **Frame**: operations that leave the state alone leave it alone to the end. -/
theorem Only.exec_state {P : Op → Prop} {p : Prog Op Res ε α} (h : p.Only P)
    (hP : ∀ op, P op → ∀ s, (M.perform s op (pick op)).2 = s) : (p.exec M pick s).2 = s := by
  induction p with
  | ret a => rfl
  | fail e => rfl
  | call op k ih =>
    have hstate : (M.perform s op (pick op)).2 = s := hP op h.1 s
    rw [exec_call, hstate]
    exact ih _ (h.2 _)

/-- **The outcome** of a handler is one that its postcondition allows. -/
theorem Guarded.exec_outcome {G : History Op Res → Op → Prop}
    {Q : History Op Res → Except ε α → Prop} {h : History Op Res} {p : Prog Op Res ε α}
    (hp : Guarded G Q h p) : ∃ h', Q h' (p.exec M pick s).1 := by
  induction p generalizing h s with
  | ret a => exact ⟨h, hp⟩
  | fail e => exact ⟨h, hp⟩
  | call op k ih => exact ih _ (hp.2 _)

end Prog

variable {handler : Req → Prog Op Res ε α} {R : Rules M Req} {init : M.State → Prop}

/-- **A request runs to its end alone**: the run reaches what `exec` computes. -/
theorem Run.exec {p : Pool M Req ε α} (hr : Run handler R init p) {i : Nat}
    {q : Prog Op Res ε α} (hq : p.procs i = some q)
    (hR : q.Guarded (fun _ op => ∀ w : World M Req, R.call w i op (pick op)) (fun _ _ => True) []) :
    ∃ p', Run handler R init p' ∧ p'.outcome i = some (q.exec M pick p.world.state).1 ∧
      p'.world.state = (q.exec M pick p.world.state).2 := by
  -- the guard does not look at the history, so it may be any
  suffices ∀ h, q.Guarded (fun _ op => ∀ w : World M Req, R.call w i op (pick op))
      (fun _ _ => True) h → ∃ p', Run handler R init p' ∧
        p'.outcome i = some (q.exec M pick p.world.state).1 ∧
        p'.world.state = (q.exec M pick p.world.state).2 from this [] hR
  clear hR
  induction q generalizing p with
  | ret a => exact fun _ _ => ⟨p, hr, by simp [Pool.outcome, hq, Prog.outcome], rfl⟩
  | fail e => exact fun _ _ => ⟨p, hr, by simp [Pool.outcome, hq, Prog.outcome], rfl⟩
  | call op k ih =>
    intro h hg
    have hstep := Run.call hr hq (hg.1 p.world)
    exact ih _ hstep (Pool.put_procs_self _ _ _ _) _ (hg.2 _)

end Interleaving

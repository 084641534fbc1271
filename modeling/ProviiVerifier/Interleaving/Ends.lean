import ProviiVerifier.Interleaving.Exec

/-
  A handler running alone, whatever the outside world decides.

  `Ends M C p s r s'`: the handler `p` may end with the outcome `r` and leave the state `s'` when it
  starts on `s`; at every operation the world decides in any way that `C` allows. `exec` is the one
  of these runs in which the decisions are fixed.

  Proved: `exec` is such a run (`ends_exec`), and so is a run whose decisions depend on the state
  (`ends_follow`); the runs of a sequence are those of its parts
  (`Ends.of_bind`, `Ends.of_attempt`); what `Guarded` says of a handler holds of its runs, in
  which every answer was given by a state that satisfies an invariant of the operations
  (`Ends.guarded`).
-/

namespace Interleaving

namespace Prog

variable {Op : Type} {Res : Op → Type} {ε α β : Type} {M : Machine Op Res}
  {C : (op : Op) → M.Choice op → Prop}

/-- The outcomes of a handler that runs alone, and the states it leaves. -/
inductive Ends (M : Machine Op Res) (C : (op : Op) → M.Choice op → Prop) :
    Prog Op Res ε α → M.State → Except ε α → M.State → Prop
  | ret {a : α} {s : M.State} : Ends M C (ret a) s (.ok a) s
  | fail {e : ε} {s : M.State} : Ends M C (fail e) s (.error e) s
  | call {op : Op} {k : Res op → Prog Op Res ε α} {s s' : M.State} {r : Except ε α}
      {c : M.Choice op} (hc : C op c)
      (hrest : Ends M C (k (M.perform s op c).1) (M.perform s op c).2 r s') :
      Ends M C (call op k) s r s'

/-- The run with fixed decisions. -/
theorem ends_exec {pick : (op : Op) → M.Choice op} (hpick : ∀ op, C op (pick op))
    (p : Prog Op Res ε α) (s : M.State) :
    Ends M C p s (p.exec M pick s).1 (p.exec M pick s).2 := by
  induction p generalizing s with
  | ret a => exact .ret
  | fail e => exact .fail
  | call op k ih => exact .call (hpick op) (ih _ _)

variable (M) in
/-- Run a handler to its end, with decisions that depend on the state. -/
def follow (pick : M.State → (op : Op) → M.Choice op) :
    Prog Op Res ε α → M.State → Except ε α × M.State
  | ret a, s => (.ok a, s)
  | fail e, s => (.error e, s)
  | call op k, s =>
    (k (M.perform s op (pick s op)).1).follow pick (M.perform s op (pick s op)).2

/-- The run with these decisions. -/
theorem ends_follow {pick : M.State → (op : Op) → M.Choice op} (hpick : ∀ s op, C op (pick s op))
    (p : Prog Op Res ε α) (s : M.State) :
    Ends M C p s (p.follow M pick s).1 (p.follow M pick s).2 := by
  induction p generalizing s with
  | ret a => exact .ret
  | fail e => exact .fail
  | call op k ih => exact .call (hpick s op) (ih _ _)

theorem ends_ret {a : α} {s s' : M.State} {r : Except ε α} :
    Ends M C (ret a) s r s' ↔ r = .ok a ∧ s' = s := by
  constructor
  · intro h
    cases h with
    | ret => exact ⟨rfl, rfl⟩
  · rintro ⟨rfl, rfl⟩
    exact .ret

theorem ends_fail {e : ε} {s s' : M.State} {r : Except ε α} :
    Ends M C (fail e) s r s' ↔ r = .error e ∧ s' = s := by
  constructor
  · intro h
    cases h with
    | fail => exact ⟨rfl, rfl⟩
  · rintro ⟨rfl, rfl⟩
    exact .fail

theorem ends_call {op : Op} {k : Res op → Prog Op Res ε α} {s s' : M.State} {r : Except ε α} :
    Ends M C (call op k) s r s' ↔
      ∃ c, C op c ∧ Ends M C (k (M.perform s op c).1) (M.perform s op c).2 r s' := by
  constructor
  · intro h
    cases h with
    | call hc hrest => exact ⟨_, hc, hrest⟩
  · intro ⟨c, hc, hrest⟩
    exact .call hc hrest

/-- The first part of a sequence ends, and the rest runs on what it leaves. -/
theorem Ends.of_bind {p : Prog Op Res ε α} {f : α → Prog Op Res ε β} {s s' : M.State}
    {r : Except ε β} (h : Ends M C (p >>= f) s r s') :
    (∃ a s₁, Ends M C p s (.ok a) s₁ ∧ Ends M C (f a) s₁ r s') ∨
      ∃ e, r = .error e ∧ Ends M C p s (.error e) s' := by
  induction p generalizing s with
  | ret a => exact .inl ⟨a, s, .ret, h⟩
  | fail e =>
    obtain ⟨rfl, rfl⟩ := ends_fail.mp h
    exact .inr ⟨e, rfl, .fail⟩
  | call op k ih =>
    obtain ⟨c, hc, hrest⟩ := ends_call.mp h
    rcases ih _ hrest with ⟨a, s₁, hfirst, hthen⟩ | ⟨e, hr, hfirst⟩
    · exact .inl ⟨a, s₁, .call hc hfirst, hthen⟩
    · exact .inr ⟨e, hr, .call hc hfirst⟩

theorem Ends.of_attempt {ε' : Type} {p : Prog Op Res ε α} {s s' : M.State}
    {r : Except ε' (Except ε α)} (h : Ends M C (attempt p) s r s') :
    ∃ r', r = .ok r' ∧ Ends M C p s r' s' := by
  induction p generalizing s with
  | ret a =>
    obtain ⟨rfl, rfl⟩ := ends_ret.mp h
    exact ⟨.ok a, rfl, .ret⟩
  | fail e =>
    obtain ⟨rfl, rfl⟩ := ends_ret.mp h
    exact ⟨.error e, rfl, .fail⟩
  | call op k ih =>
    obtain ⟨c, hc, hrest⟩ := ends_call.mp h
    obtain ⟨r', hr, hends⟩ := ih _ hrest
    exact ⟨r', hr, .call hc hends⟩

theorem ends_ofExcept {x r : Except ε α} {s s' : M.State} :
    Ends M C (ofExcept x : Prog Op Res ε α) s r s' ↔ r = x ∧ s' = s := by
  cases x with
  | ok a => exact ends_ret
  | error e => exact ends_fail

/-- An entry of a history that a state with `I` answered. -/
def AnsweredUnder (M : Machine Op Res) (C : (op : Op) → M.Choice op → Prop) (I : M.State → Prop)
    (x : Sigma Res) : Prop :=
  ∃ s c, I s ∧ C x.1 c ∧ x.2 = (M.perform s x.1 c).1

/-- **Every run of a guarded handler**: the outcome is as said, of a history whose answers come from
states with the invariant. -/
theorem Ends.guarded {P : Op → Prop} {Q : History Op Res → Except ε α → Prop} {I : M.State → Prop}
    (hI : ∀ s op c, P op → C op c → I s → I (M.perform s op c).2)
    {p : Prog Op Res ε α} {s s' : M.State} {r : Except ε α} (h : Ends M C p s r s')
    {past : History Op Res} (hp : p.Guarded (fun _ op => P op) Q past)
    (hpast : ∀ x ∈ past, AnsweredUnder M C I x) (hs : I s) :
    I s' ∧ ∃ full, Q full r ∧ ∀ x ∈ full, AnsweredUnder M C I x := by
  induction h generalizing past with
  | ret => exact ⟨hs, past, hp, hpast⟩
  | fail => exact ⟨hs, past, hp, hpast⟩
  | @call op k s s' r c hc _ ih =>
    refine ih (hp.2 _) ?_ (hI s op c hp.1 hc hs)
    intro x hx
    rcases List.mem_cons.mp hx with rfl | hx
    · exact ⟨s, c, hs, hc, rfl⟩
    · exact hpast x hx

end Prog

end Interleaving

/-
  Request handlers as trees of operations, and reasoning along one handler.

  A handler stops (`ret`, or `fail` for an error that leaves it early) or performs one
  operation and goes on with the answer. Between two operations nothing is shared, so an
  operation is the unit of interleaving.

  `Guarded G Q h p`: whatever the answers are, every operation `p` performs meets `G` at the
  history it is performed at, and every outcome meets `Q`. The history is the list of the
  operations performed so far with their answers, newest first. This is the whole of what
  is proved about one handler; `Pool.lean` turns it into facts about interleaved runs.
-/
import Mathlib.Data.List.Basic
import Mathlib.Tactic.Common

namespace Interleaving

/-- A handler over the operations `Op` with answers `Res`: errors in `ε`, results in `α`. -/
inductive Prog (Op : Type) (Res : Op → Type) (ε α : Type) : Type
  | ret (a : α)
  | fail (e : ε)
  | call (op : Op) (k : Res op → Prog Op Res ε α)

/-- The operations performed so far with their answers, newest first. -/
abbrev History (Op : Type) (Res : Op → Type) := List (Sigma Res)

namespace Prog

variable {Op : Type} {Res : Op → Type} {ε α β : Type}

/-! ## Sequencing -/

/-- Run `p`, then `f` on its result; an error of `p` is the error of the whole. -/
def bind (p : Prog Op Res ε α) (f : α → Prog Op Res ε β) : Prog Op Res ε β :=
  match p with
  | ret a => f a
  | fail e => fail e
  | call op k => call op fun r => (k r).bind f

instance : Monad (Prog Op Res ε) where
  pure := ret
  bind := bind

/-- Perform one operation and return its answer. -/
def perform (op : Op) : Prog Op Res ε (Res op) :=
  call op ret

/-- Leave with the error of a failed computation, or go on with its value. -/
def ofExcept : Except ε α → Prog Op Res ε α
  | .ok a => ret a
  | .error e => fail e

/-- Run `p` and hand its outcome, error or not, to the caller. -/
def attempt {ε' : Type} (p : Prog Op Res ε α) : Prog Op Res ε' (Except ε α) :=
  match p with
  | ret a => ret (.ok a)
  | fail e => ret (.error e)
  | call op k => call op fun r => (k r).attempt

/-- The outcome of a handler that has stopped. -/
def outcome : Prog Op Res ε α → Option (Except ε α)
  | ret a => some (.ok a)
  | fail e => some (.error e)
  | call _ _ => none

@[simp] theorem pure_eq (a : α) : (pure a : Prog Op Res ε α) = ret a := rfl

@[simp] theorem ret_bind (a : α) (f : α → Prog Op Res ε β) : (ret a >>= f) = f a := rfl

@[simp] theorem fail_bind (e : ε) (f : α → Prog Op Res ε β) : (fail e >>= f) = fail e := rfl

@[simp] theorem call_bind (op : Op) (k : Res op → Prog Op Res ε α)
    (f : α → Prog Op Res ε β) :
    (call op k >>= f) = call op fun r => k r >>= f := rfl

@[simp] theorem perform_bind (op : Op) (f : Res op → Prog Op Res ε β) :
    (perform op >>= f) = call op f := rfl

@[simp] theorem ofExcept_ok (a : α) : (ofExcept (.ok a) : Prog Op Res ε α) = ret a := rfl

@[simp] theorem ofExcept_error (e : ε) :
    (ofExcept (.error e) : Prog Op Res ε α) = fail e := rfl

/-! ## What every path of a handler does -/

/-- Every operation of `p` meets `G` and every outcome meets `Q`, for all answers. -/
def Guarded (G : History Op Res → Op → Prop) (Q : History Op Res → Except ε α → Prop) :
    History Op Res → Prog Op Res ε α → Prop
  | h, ret a => Q h (.ok a)
  | h, fail e => Q h (.error e)
  | h, call op k => G h op ∧ ∀ r, Guarded G Q (⟨op, r⟩ :: h) (k r)

variable {G G' : History Op Res → Op → Prop} {h : History Op Res}

@[simp] theorem guarded_ret {Q : History Op Res → Except ε α → Prop} {a : α} :
    Guarded G Q h (ret a) ↔ Q h (.ok a) := Iff.rfl

@[simp] theorem guarded_fail {Q : History Op Res → Except ε α → Prop} {e : ε} :
    Guarded G Q h (fail e) ↔ Q h (.error e) := Iff.rfl

@[simp] theorem guarded_call {Q : History Op Res → Except ε α → Prop} {op : Op}
    {k : Res op → Prog Op Res ε α} :
    Guarded G Q h (call op k) ↔ G h op ∧ ∀ r, Guarded G Q (⟨op, r⟩ :: h) (k r) := Iff.rfl

/-- The outcome of a handler that has stopped meets `Q`. -/
theorem Guarded.of_outcome {Q : History Op Res → Except ε α → Prop} {p : Prog Op Res ε α}
    (hp : Guarded G Q h p) {r : Except ε α} (hr : p.outcome = some r) : Q h r := by
  cases p with
  | ret a => cases hr; exact hp
  | fail e => cases hr; exact hp
  | call op k => cases hr

/-- **Consequence rule**: weaker guards and outcomes. -/
theorem Guarded.imp {Q Q' : History Op Res → Except ε α → Prop} {p : Prog Op Res ε α}
    (hG : ∀ h op, G h op → G' h op) (hQ : ∀ h r, Q h r → Q' h r)
    (hp : Guarded G Q h p) : Guarded G' Q' h p := by
  induction p generalizing h with
  | ret a => exact hQ _ _ hp
  | fail e => exact hQ _ _ hp
  | call op k ih => exact ⟨hG _ _ hp.1, fun r => ih r (hp.2 r)⟩

/-- Two facts about one handler. -/
theorem Guarded.and {Q Q' : History Op Res → Except ε α → Prop} {p : Prog Op Res ε α}
    (hp : Guarded G Q h p) (hp' : Guarded G' Q' h p) :
    Guarded (fun h' op => G h' op ∧ G' h' op) (fun h' r => Q h' r ∧ Q' h' r) h p := by
  induction p generalizing h with
  | ret a => exact ⟨hp, hp'⟩
  | fail e => exact ⟨hp, hp'⟩
  | call op k ih => exact ⟨⟨hp.1, hp'.1⟩, fun r => ih r (hp.2 r) (hp'.2 r)⟩

/-- Any handler does what it does. -/
theorem guarded_trivial (h : History Op Res) (p : Prog Op Res ε α) :
    Guarded (fun _ _ => True) (fun _ _ => True) h p := by
  induction p generalizing h with
  | ret a => trivial
  | fail e => trivial
  | call op k ih => exact ⟨trivial, fun r => ih r _⟩

/-- What follows an outcome: the rest of the handler, or its early exit. -/
def thenGuarded (G : History Op Res → Op → Prop) (Q : History Op Res → Except ε β → Prop)
    (f : α → Prog Op Res ε β) (h : History Op Res) : Except ε α → Prop
  | .ok a => Guarded G Q h (f a)
  | .error e => Q h (.error e)

/-- **Sequencing rule.** -/
theorem guarded_bind {Q : History Op Res → Except ε β → Prop} {p : Prog Op Res ε α}
    {f : α → Prog Op Res ε β} :
    Guarded G Q h (p >>= f) ↔ Guarded G (thenGuarded G Q f) h p := by
  induction p generalizing h with
  | ret a => exact Iff.rfl
  | fail e => exact Iff.rfl
  | call op k ih =>
    simp only [call_bind, guarded_call]
    exact and_congr_right fun _ => forall_congr' fun r => ih r

@[simp] theorem guarded_attempt {ε' : Type} {Q : History Op Res → Except ε' (Except ε α) → Prop}
    {p : Prog Op Res ε α} :
    Guarded G Q h (attempt p : Prog Op Res ε' (Except ε α)) ↔
      Guarded G (fun h r => Q h (.ok r)) h p := by
  induction p generalizing h with
  | ret a => exact Iff.rfl
  | fail e => exact Iff.rfl
  | call op k ih =>
    simp only [attempt, guarded_call]
    exact and_congr_right fun _ => forall_congr' fun r => ih r

theorem guarded_ofExcept {Q : History Op Res → Except ε α → Prop} {r : Except ε α} :
    Guarded G Q h (ofExcept r) ↔ Q h r := by
  cases r <;> exact Iff.rfl

/-- An `ofExcept` in front: go on with the value, or leave with the error. -/
theorem guarded_ofExcept_bind {Q : History Op Res → Except ε β → Prop} {r : Except ε α}
    {f : α → Prog Op Res ε β} (hok : ∀ a, r = .ok a → Guarded G Q h (f a))
    (herr : ∀ e, r = .error e → Q h (.error e)) : Guarded G Q h (ofExcept r >>= f) := by
  cases r with
  | ok a => exact hok a rfl
  | error e => exact herr e rfl

/-- Along a path the history only grows. -/
theorem Guarded.suffix {Q : History Op Res → Except ε α → Prop} {p : Prog Op Res ε α}
    (hp : Guarded G Q h p) :
    Guarded (fun h' op => h <:+ h' ∧ G h' op) (fun h' r => h <:+ h' ∧ Q h' r) h p := by
  suffices ∀ h' : History Op Res, h <:+ h' → Guarded G Q h' p →
      Guarded (fun h' op => h <:+ h' ∧ G h' op) (fun h' r => h <:+ h' ∧ Q h' r) h' p from
    this h List.suffix_rfl hp
  clear hp
  induction p with
  | ret a => exact fun h' hs hp => ⟨hs, hp⟩
  | fail e => exact fun h' hs hp => ⟨hs, hp⟩
  | call op k ih =>
    exact fun h' hs hp =>
      ⟨⟨hs, hp.1⟩, fun r => ih r _ (hs.trans (List.suffix_cons _ _)) (hp.2 r)⟩

/-- **Sequencing with a named middle condition.** -/
theorem Guarded.bind {R : History Op Res → Except ε α → Prop}
    {Q : History Op Res → Except ε β → Prop} {p : Prog Op Res ε α}
    {f : α → Prog Op Res ε β} (hp : Guarded G R h p)
    (hok : ∀ h' a, h <:+ h' → R h' (.ok a) → Guarded G Q h' (f a))
    (herr : ∀ h' e, h <:+ h' → R h' (.error e) → Q h' (.error e)) :
    Guarded G Q h (p >>= f) := by
  refine guarded_bind.mpr (hp.suffix.imp (fun _ _ g => g.2) ?_)
  rintro h' (e | a) ⟨hs, hr⟩
  · exact herr h' e hs hr
  · exact hok h' a hs hr

/-- The outcome of a handler whose result is wrapped. -/
theorem Guarded.wrap {Q : History Op Res → Except ε α → Prop} {p : Prog Op Res ε α}
    (hp : Guarded G Q h p) (f : α → β) :
    Guarded G (fun h' r => ∃ r', Q h' r' ∧ r = r'.map f) h (p >>= fun a => ret (f a)) := by
  refine hp.bind ?_ ?_
  · intro h' a _ ha
    exact ⟨.ok a, ha, rfl⟩
  · intro h' e _ he
    exact ⟨.error e, he, rfl⟩

/-! ## Alphabets -/

/-- The history grew by operations in `P` only. -/
structure Grows (P : Op → Prop) (h h' : History Op Res) : Prop where
  suffix : h <:+ h'
  entries : ∀ x ∈ h', x ∈ h ∨ P x.1

theorem Grows.refl {P : Op → Prop} (h : History Op Res) : Grows P h h :=
  ⟨List.suffix_rfl, fun _ hx => .inl hx⟩

theorem Grows.cons {P : Op → Prop} {h h' : History Op Res} (hg : Grows P h h') {op : Op}
    (hop : P op) (r : Res op) : Grows P h (⟨op, r⟩ :: h') := by
  refine ⟨hg.suffix.trans (List.suffix_cons _ _), fun x hx => ?_⟩
  rcases List.mem_cons.mp hx with rfl | hx
  · exact .inr hop
  · exact hg.entries x hx

/-- A handler whose operations are in `P` grows the history by `P`. -/
theorem Guarded.grows {P : Op → Prop} {Q : History Op Res → Except ε α → Prop}
    {p : Prog Op Res ε α} (hp : Guarded (fun _ op => P op) Q h p) :
    Guarded (fun h' op => Grows P h h' ∧ P op) (fun h' r => Grows P h h' ∧ Q h' r) h p := by
  suffices ∀ h', Grows P h h' → Guarded (fun _ op => P op) Q h' p →
      Guarded (fun h' op => Grows P h h' ∧ P op) (fun h' r => Grows P h h' ∧ Q h' r) h' p from
    this h (.refl h) hp
  clear hp
  induction p with
  | ret a => exact fun h' hg hp => ⟨hg, hp⟩
  | fail e => exact fun h' hg hp => ⟨hg, hp⟩
  | call op k ih =>
    exact fun h' hg hp => ⟨⟨hg, hp.1⟩, fun r => ih r _ (hg.cons hp.1 r) (hp.2 r)⟩

/-- **Sequencing after a part with its own alphabet.** -/
theorem Guarded.seq {P : Op → Prop} {R : History Op Res → Except ε α → Prop}
    {Q : History Op Res → Except ε β → Prop} {p : Prog Op Res ε α}
    {f : α → Prog Op Res ε β} (hp : Guarded (fun _ op => P op) R h p)
    (hG : ∀ h' op, Grows P h h' → P op → G h' op)
    (hok : ∀ h' a, Grows P h h' → R h' (.ok a) → Guarded G Q h' (f a))
    (herr : ∀ h' e, Grows P h h' → R h' (.error e) → Q h' (.error e)) :
    Guarded G Q h (p >>= f) := by
  refine guarded_bind.mpr (hp.grows.imp (fun h' op g => hG h' op g.1 g.2) ?_)
  rintro h' (e | a) ⟨hg, hr⟩
  · exact herr h' e hg hr
  · exact hok h' a hg hr

/-- `Guarded.seq` where the outcome of the first part is handed on. -/
theorem Guarded.seq_attempt {ε' : Type} {P : Op → Prop}
    {R : History Op Res → Except ε α → Prop} {Q : History Op Res → Except ε' β → Prop}
    {p : Prog Op Res ε α} {f : Except ε α → Prog Op Res ε' β}
    (hp : Guarded (fun _ op => P op) R h p)
    (hG : ∀ h' op, Grows P h h' → P op → G h' op)
    (hf : ∀ h' r, Grows P h h' → R h' r → Guarded G Q h' (f r)) :
    Guarded G Q h (attempt p >>= f) := by
  refine guarded_bind.mpr (guarded_attempt.mpr ?_)
  refine hp.grows.imp (fun h' op g => hG h' op g.1 g.2) ?_
  rintro h' r ⟨hg, hr⟩
  exact hf h' r hg hr

/-! ## Programs that keep to an alphabet -/

/-- The program performs operations in `P` only. -/
def Only (P : Op → Prop) : Prog Op Res ε α → Prop
  | ret _ => True
  | fail _ => True
  | call op k => P op ∧ ∀ r, (k r).Only P

variable {P P' : Op → Prop} {p : Prog Op Res ε α}

theorem Guarded.only {Q : History Op Res → Except ε α → Prop}
    (hp : Guarded (fun _ op => P op) Q h p) : p.Only P := by
  induction p generalizing h with
  | ret a => trivial
  | fail e => trivial
  | call op k ih => exact ⟨hp.1, fun r => ih r (hp.2 r)⟩

theorem Only.guarded (hp : p.Only P) :
    Guarded (fun _ op => P op) (fun _ _ => True) h p := by
  induction p generalizing h with
  | ret a => trivial
  | fail e => trivial
  | call op k ih => exact ⟨hp.1, fun r => ih r (hp.2 r)⟩

theorem Only.imp (hP : ∀ op, P op → P' op) (hp : p.Only P) : p.Only P' :=
  (hp.guarded (h := [])).imp (fun _ _ g => hP _ g) (fun _ _ g => g) |>.only

theorem Only.bind {f : α → Prog Op Res ε β} (hp : p.Only P) (hf : ∀ a, (f a).Only P) :
    (p >>= f).Only P := by
  induction p with
  | ret a => exact hf a
  | fail e => trivial
  | call op k ih => exact ⟨hp.1, fun r => ih r (hp.2 r)⟩

theorem Only.attempt {ε' : Type} (hp : p.Only P) :
    (attempt p : Prog Op Res ε' (Except ε α)).Only P := by
  induction p with
  | ret a => trivial
  | fail e => trivial
  | call op k ih => exact ⟨hp.1, fun r => ih r (hp.2 r)⟩

theorem only_ofExcept {r : Except ε α} : (ofExcept r : Prog Op Res ε α).Only P := by
  cases r with
  | ok a => trivial
  | error e => trivial

/-- **Sequencing after a part of which only its alphabet matters.** -/
theorem Only.seq {G : History Op Res → Op → Prop} {Q : History Op Res → Except ε β → Prop}
    {f : α → Prog Op Res ε β} (hp : p.Only P) (hG : ∀ h' op, Grows P h h' → P op → G h' op)
    (hok : ∀ h' a, Grows P h h' → Guarded G Q h' (f a)) (herr : ∀ h' e, Q h' (.error e)) :
    Guarded G Q h (p >>= f) :=
  hp.guarded.seq hG (fun h' a hg _ => hok h' a hg) fun h' e _ _ => herr h' e

/-! ## Programs that follow an answer up -/

/-- The operation a program performs next. -/
def first : Prog Op Res ε α → Option Op
  | ret _ => none
  | fail _ => none
  | call op _ => some op

/-- Where `next` asks for an operation after an answer, that operation comes next. -/
def Follows (next : Sigma Res → Option Op) : Prog Op Res ε α → Prop
  | ret _ => True
  | fail _ => True
  | call op k => ∀ r, (k r).Follows next ∧ ∀ op', next ⟨op, r⟩ = some op' → (k r).first = some op'

variable {next : Sigma Res → Option Op}

theorem first_bind {f : α → Prog Op Res ε β} {op : Op} (h : p.first = some op) :
    (p >>= f).first = some op := by
  cases p with
  | ret a => cases h
  | fail e => cases h
  | call op' k => exact h

theorem first_attempt {ε' : Type} {op : Op} (h : p.first = some op) :
    (attempt p : Prog Op Res ε' (Except ε α)).first = some op := by
  cases p with
  | ret a => cases h
  | fail e => cases h
  | call op' k => exact h

theorem Follows.bind {f : α → Prog Op Res ε β} (hp : p.Follows next)
    (hf : ∀ a, (f a).Follows next) : (p >>= f).Follows next := by
  induction p with
  | ret a => exact hf a
  | fail e => trivial
  | call op k ih =>
    intro r
    obtain ⟨hk, hfirst⟩ := hp r
    exact ⟨ih r hk, fun op' hop' => first_bind (hfirst op' hop')⟩

theorem Follows.attempt {ε' : Type} (hp : p.Follows next) :
    (attempt p : Prog Op Res ε' (Except ε α)).Follows next := by
  induction p with
  | ret a => trivial
  | fail e => trivial
  | call op k ih =>
    intro r
    obtain ⟨hk, hfirst⟩ := hp r
    exact ⟨ih r hk, fun op' hop' => first_attempt (hfirst op' hop')⟩

/-- A program whose answers ask for nothing. -/
theorem Only.follows (hp : p.Only P) (hP : ∀ op r, P op → next ⟨op, r⟩ = none) :
    p.Follows next := by
  induction p with
  | ret a => trivial
  | fail e => trivial
  | call op k ih =>
    intro r
    refine ⟨ih r (hp.2 r), ?_⟩
    intro op' hop'
    rw [hP op r hp.1] at hop'
    cases hop'

/-- **What follows up along a path**: an operation is the one its latest answer asks for, and no
answer is left behind. -/
theorem Follows.guarded (hp : p.Follows next)
    (hh : ∀ x ∈ h.head?, ∀ op, next x = some op → p.first = some op) :
    Guarded (fun h' op => ∀ x ∈ h'.head?, ∀ op', next x = some op' → op = op')
      (fun h' _ => ∀ x ∈ h'.head?, next x = none) h p := by
  have hstop : p.first = none → ∀ x ∈ h.head?, next x = none := by
    intro hnone x hx
    by_contra hne
    obtain ⟨op, hop⟩ := Option.ne_none_iff_exists'.mp hne
    rw [hh x hx op hop] at hnone
    cases hnone
  induction p generalizing h with
  | ret a => exact hstop rfl
  | fail e => exact hstop rfl
  | call op k ih =>
    refine ⟨fun x hx op' hop' => Option.some.inj (hh x hx op' hop'), fun r => ?_⟩
    obtain ⟨hk, hfirst⟩ := hp r
    have hhead : ∀ x ∈ ((⟨op, r⟩ : Sigma Res) :: h).head?, ∀ op', next x = some op' →
        (k r).first = some op' := by
      intro x hx op' hop'
      have hx : ⟨op, r⟩ = x := Option.some.inj hx
      rw [← hx] at hop'
      exact hfirst op' hop'
    refine ih r hk hhead ?_
    intro hnone x hx
    by_contra hne
    obtain ⟨op', hop'⟩ := Option.ne_none_iff_exists'.mp hne
    rw [hhead x hx op' hop'] at hnone
    cases hnone

end Prog

end Interleaving

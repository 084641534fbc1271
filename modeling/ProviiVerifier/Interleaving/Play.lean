import ProviiVerifier.Interleaving.Prog

/-
  A handler played against whatever answers its operations.

  `play` runs a handler to its end. What answers an operation may depend on everything before it,
  so every path of a handler is a play.

  Proved: what `Guarded` says of a handler holds of its plays (`Guarded.play`, and over the play
  itself `Guarded.play_part`).
-/

namespace Interleaving

namespace Prog

variable {Op : Type} {Res : Op → Type} {ε α : Type}
  {answer : History Op Res → (op : Op) → Res op} {h : History Op Res}

/-- Run a handler to its end: its outcome and what it performed. -/
def play (answer : History Op Res → (op : Op) → Res op) :
    Prog Op Res ε α → History Op Res → Except ε α × History Op Res
  | ret a, h => (.ok a, h)
  | fail e, h => (.error e, h)
  | call op k, h => (k (answer h op)).play answer (⟨op, answer h op⟩ :: h)

@[simp] theorem play_ret (a : α) : (ret a : Prog Op Res ε α).play answer h = (.ok a, h) := rfl

@[simp] theorem play_fail (e : ε) : (fail e : Prog Op Res ε α).play answer h = (.error e, h) := rfl

@[simp] theorem play_call (op : Op) (k : Res op → Prog Op Res ε α) :
    (call op k).play answer h = (k (answer h op)).play answer (⟨op, answer h op⟩ :: h) := rfl

/-- Every entry of a history was answered so. -/
def Answered (answer : History Op Res → (op : Op) → Res op) (h : History Op Res) : Prop :=
  ∀ x ∈ h, ∃ before, x.2 = answer before x.1

theorem answered_nil : Answered answer [] := by
  intro x hx
  cases hx

theorem Answered.cons (ha : Answered answer h) (op : Op) :
    Answered answer (⟨op, answer h op⟩ :: h) := by
  intro x hx
  obtain rfl | hx := List.mem_cons.mp hx
  · exact ⟨h, rfl⟩
  · exact ha x hx

/-- **Every play of a guarded handler**: the outcome is as said, and every operation met the guard
at the answers before it. -/
theorem Guarded.play {G : History Op Res → Op → Prop} {Q : History Op Res → Except ε α → Prop}
    {p : Prog Op Res ε α} (hp : Guarded G Q h p) (ha : Answered answer h) :
    Q (p.play answer h).2 (p.play answer h).1 ∧
      ∀ x ∈ (p.play answer h).2, x ∈ h ∨ ∃ before, Answered answer before ∧ G before x.1 := by
  induction p generalizing h with
  | ret a => exact ⟨hp, fun _ hx => .inl hx⟩
  | fail e => exact ⟨hp, fun _ hx => .inl hx⟩
  | call op k ih =>
    obtain ⟨hQ, hentries⟩ := ih _ (hp.2 (answer h op)) (ha.cons op)
    refine ⟨hQ, fun x hx => ?_⟩
    obtain hx | hx := hentries x hx
    · obtain rfl | hx := List.mem_cons.mp hx
      · exact .inr ⟨h, ha, hp.1⟩
      · exact .inl hx
    · exact .inr hx

theorem play_suffix (p : Prog Op Res ε α) (h : History Op Res) : h <:+ (p.play answer h).2 := by
  induction p generalizing h with
  | ret a => exact List.suffix_rfl
  | fail e => exact List.suffix_rfl
  | call op k ih => exact (List.suffix_cons _ _).trans (ih _ _)

/-- What met the guard of a play met it at a part of the play. -/
theorem Guarded.play_part {G : History Op Res → Op → Prop} {Q : History Op Res → Except ε α → Prop}
    {p : Prog Op Res ε α} (hp : Guarded G Q h p) :
    ∀ x ∈ (p.play answer h).2, x ∈ h ∨ ∃ before, before <:+ (p.play answer h).2 ∧ G before x.1 := by
  induction p generalizing h with
  | ret a => exact fun _ hx => .inl hx
  | fail e => exact fun _ hx => .inl hx
  | call op k ih =>
    intro x hx
    obtain hx | hx := ih _ (hp.2 (answer h op)) x hx
    · obtain rfl | hx := List.mem_cons.mp hx
      · exact .inr ⟨h, play_suffix (call op k) h, hp.1⟩
      · exact .inl hx
    · exact .inr hx

end Prog

end Interleaving

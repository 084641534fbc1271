/-
  First writer wins: the law behind every store that keeps an entry until its expiry and hands it
  to whoever looks.

  An act is given right when it gets what the entry says, and it is so when its look at the entry
  works. Acts that do not look are right in any case.

  Proved: from a stored entry on, all acts before a deadline are right and leave the entry exactly
  when the looks of those acts work (`Register.Lawful.protected_iff`).
-/
import Mathlib.Data.List.Pairwise
import Mathlib.Order.Basic

namespace FirstWriter

/-- A store as seen from one key; `ε` are the entries, `β` the answers. -/
structure Register (σ α β ε : Type) where
  /-- The time of an act. -/
  now : α → Nat
  next : σ → α → σ
  answer : σ → α → β
  /-- The entry stored for the key. -/
  entry : σ → Option ε
  expiry : ε → Nat
  /-- The act looks at the entry and the look fails. -/
  fails : α → Bool
  /-- The answer is what the entry says. -/
  right : ε → α → β → Prop

namespace Register

variable {σ α β ε : Type} (R : Register σ α β ε)

/-- The state after a sequence of acts, newest first. -/
def after (s : σ) : List α → σ
  | [] => s
  | a :: old => R.next (after s old) a

/-- The acts come in the order of the clock; one that meets a live entry is right exactly when
its look works, and then it leaves the entry. -/
structure Lawful (acts : List α) : Prop where
  ordered : acts.Pairwise fun later earlier => R.now earlier ≤ R.now later
  right_iff : ∀ a ∈ acts, ∀ s e, R.entry s = some e → R.now a ≤ R.expiry e →
    (R.right e a (R.answer s a) ↔ R.fails a = false)
  keep : ∀ a ∈ acts, ∀ s e, R.entry s = some e → R.now a ≤ R.expiry e → R.fails a = false →
    R.entry (R.next s a) = some e

/-- Every act before the deadline is right and leaves the entry. -/
def Protected (s : σ) (e : ε) (deadline : Nat) (acts : List α) : Prop :=
  ∀ a old, a :: old <:+ acts → R.now a < deadline →
    R.right e a (R.answer (R.after s old) a) ∧ R.entry (R.after s (a :: old)) = some e

variable {R} {s : σ} {e : ε} {deadline : Nat} {acts : List α}

theorem Lawful.old {a : α} {old : List α} (h : R.Lawful (a :: old)) : R.Lawful old :=
  { ordered := (List.pairwise_cons.mp h.ordered).2
    right_iff := fun b hb => h.right_iff b (List.mem_cons_of_mem _ hb)
    keep := fun b hb => h.keep b (List.mem_cons_of_mem _ hb) }

/-- The entry is kept as long as the looks work. -/
theorem Lawful.kept (h : R.Lawful acts) (h₀ : R.entry s = some e)
    (hexp : ∀ a ∈ acts, R.now a ≤ R.expiry e) (hsees : ∀ a ∈ acts, R.fails a = false) :
    R.entry (R.after s acts) = some e := by
  induction acts with
  | nil => exact h₀
  | cons a old ih =>
    have hold := ih h.old (fun b hb => hexp b (List.mem_cons_of_mem _ hb))
      fun b hb => hsees b (List.mem_cons_of_mem _ hb)
    exact h.keep a List.mem_cons_self _ e hold (hexp a List.mem_cons_self)
      (hsees a List.mem_cons_self)

theorem Protected.old {a : α} {old : List α} (h : R.Protected s e deadline (a :: old)) :
    R.Protected s e deadline old :=
  fun b old' hs => h b old' (hs.trans (List.suffix_cons _ _))

/-- **First writer wins.** All acts before the deadline are right and leave the entry exactly when
the looks of those acts work. -/
theorem Lawful.protected_iff (h : R.Lawful acts) (h₀ : R.entry s = some e)
    (hexp : ∀ a ∈ acts, R.now a < deadline → R.now a ≤ R.expiry e) :
    R.Protected s e deadline acts ↔ ∀ a ∈ acts, R.now a < deadline → R.fails a = false := by
  induction acts with
  | nil =>
    constructor
    · intro _ a ha
      cases ha
    · intro _ a old hs
      simp at hs
  | cons a old ih =>
    have ih := ih h.old fun b hb => hexp b (List.mem_cons_of_mem _ hb)
    have hearlier : R.now a < deadline → ∀ b ∈ old, R.now b < deadline := fun ha b hb =>
      Nat.lt_of_le_of_lt ((List.pairwise_cons.mp h.ordered).1 b hb) ha
    -- before the deadline, the entry is there when `a` comes
    have hentry : (∀ b ∈ old, R.now b < deadline → R.fails b = false) → R.now a < deadline →
        R.entry (R.after s old) = some e := by
      intro hsees ha
      refine h.old.kept h₀ ?_ fun b hb => hsees b hb (hearlier ha b hb)
      exact fun b hb => hexp b (List.mem_cons_of_mem _ hb) (hearlier ha b hb)
    constructor
    · intro hp b hb hlt
      have hold := ih.mp hp.old
      rcases List.mem_cons.mp hb with rfl | hb
      · exact (h.right_iff b List.mem_cons_self _ e (hentry hold hlt)
          (hexp b List.mem_cons_self hlt)).mp (hp b old List.suffix_rfl hlt).1
      · exact hold b hb hlt
    · intro hsees b old' hs hlt
      have hold : ∀ b ∈ old, R.now b < deadline → R.fails b = false := fun b hb =>
        hsees b (List.mem_cons_of_mem _ hb)
      rcases List.suffix_cons_iff.mp hs with heq | hs
      · injection heq with ha hold'
        subst ha hold'
        have ha := hsees b List.mem_cons_self hlt
        have hle := hexp b List.mem_cons_self hlt
        exact ⟨(h.right_iff b List.mem_cons_self _ e (hentry hold hlt) hle).mpr ha,
          h.keep b List.mem_cons_self _ e (hentry hold hlt) hle ha⟩
      · exact ih.mpr hold b old' hs hlt

theorem after_append (s : σ) (later old : List α) :
    R.after s (later ++ old) = R.after (R.after s old) later := by
  induction later with
  | nil => rfl
  | cons a later ih => rw [List.cons_append, after, after, ih]

theorem Lawful.later {old : List α} (h : R.Lawful (acts ++ old)) : R.Lawful acts :=
  { ordered := (List.pairwise_append.mp h.ordered).1
    right_iff := fun a ha => h.right_iff a (List.mem_append_left old ha)
    keep := fun a ha => h.keep a (List.mem_append_left old ha) }

/-- Every act since the entry was stored, before the deadline, is right and leaves the entry. -/
def ProtectedSince (s : σ) (e : ε) (deadline : Nat) (later old : List α) : Prop :=
  ∀ a mid, a :: mid <:+ later → R.now a < deadline →
    R.right e a (R.answer (R.after s (mid ++ old)) a) ∧
      R.entry (R.after s (a :: mid ++ old)) = some e

/-- First writer wins, for the acts after those that stored the entry. -/
theorem Lawful.protectedSince_iff {later old : List α} (h : R.Lawful (later ++ old))
    (h₀ : R.entry (R.after s old) = some e)
    (hexp : ∀ a ∈ later, R.now a < deadline → R.now a ≤ R.expiry e) :
    R.ProtectedSince s e deadline later old ↔
      ∀ a ∈ later, R.now a < deadline → R.fails a = false := by
  rw [← h.later.protected_iff h₀ hexp]
  unfold ProtectedSince Protected
  simp only [after_append]

end Register

end FirstWriter

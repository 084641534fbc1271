/-
  Single use of a token by retention: the law behind every store that accepts a token once and
  keeps an entry for it until an expiry.

  What is stored for one token is the expiry of its entry, or nothing. A step looks at the entry
  and accepts the token only if there is none that has not expired (`accept`), or it accepts
  without a look (`blind`). Clocks are natural numbers up to `cap`, and adding to a clock
  saturates there.

  Proved: acceptances are more than the time to live apart exactly when the blind ones are
  (`Trace.separated_iff`), and so for every store whose acts take such steps
  (`Store.separated_iff`); they are so when every blind act meets a free token
  (`Store.Lawful.separated`).
-/
import Mathlib.Data.List.Pairwise
import Mathlib.Order.Basic

namespace SingleUse

/-- What a step does for the token: nothing to speak of, an acceptance, or a blind one. -/
inductive Outcome
  | other
  | accept
  | blind
  deriving DecidableEq, Repr

/-- The token was accepted. -/
def Outcome.accepts : Outcome → Bool
  | .other => false
  | .accept | .blind => true

/-- `a + b`, at most `cap`. -/
def addUpTo (cap a b : Nat) : Nat := min (a + b) cap

/-- The effect of a step at time `now` on the expiry stored for the token. -/
inductive Step (cap ttl now : Nat) : Option Nat → Option Nat → Outcome → Prop
  | keep {e : Option Nat} : Step cap ttl now e e .other
  | drop {x : Nat} (hexp : x < now) : Step cap ttl now (some x) none .other
  | refresh {e : Option Nat} : Step cap ttl now e (some (addUpTo cap now ttl)) .other
  | accept {e : Option Nat} (hfree : ∀ x, e = some x → x < now) :
      Step cap ttl now e (some (addUpTo cap now ttl)) .accept
  | blind {e : Option Nat} : Step cap ttl now e (some (addUpTo cap now ttl)) .blind

/-- A sequence of steps with their times, newest first, and the expiry it leaves. -/
inductive Trace (cap ttl : Nat) : List (Nat × Outcome) → Option Nat → Prop
  | nil {e : Option Nat} : Trace cap ttl [] e
  | cons {old : List (Nat × Outcome)} {e e' : Option Nat} {now : Nat} {o : Outcome}
      (ht : Trace cap ttl old e) (hclock : ∀ p ∈ old, p.1 ≤ now) (hcap : now ≤ cap)
      (hstep : Step cap ttl now e e' o) : Trace cap ttl ((now, o) :: old) e'

/-- The times the token was accepted, newest first. -/
def acceptances (evs : List (Nat × Outcome)) : List Nat :=
  (evs.filter fun p => p.2.accepts).map (·.1)

/-- Acceptances are more than `ttl` apart. -/
def Separated (ttl : Nat) (times : List Nat) : Prop :=
  times.Pairwise fun later earlier => earlier + ttl < later

theorem acceptances_cons_other {old : List (Nat × Outcome)} {now : Nat} :
    acceptances ((now, .other) :: old) = acceptances old := rfl

theorem acceptances_cons {old : List (Nat × Outcome)} {now : Nat} {o : Outcome}
    (h : o.accepts = true) : acceptances ((now, o) :: old) = now :: acceptances old := by
  simp [acceptances, h]

theorem mem_acceptances {evs : List (Nat × Outcome)} {T : Nat} (h : T ∈ acceptances evs) :
    ∃ o, (T, o) ∈ evs := by
  obtain ⟨⟨t, o⟩, hp, rfl⟩ := List.mem_map.mp h
  exact ⟨o, (List.mem_filter.mp hp).1⟩

variable {cap ttl : Nat}

/-- **Retention.** An accepted token has an entry that lasts for the time to live, unless that
time is over. -/
theorem Trace.retained {evs : List (Nat × Outcome)} {e : Option Nat} (ht : Trace cap ttl evs e)
    {T : Nat} (hT : T ∈ acceptances evs) :
    (∃ x, e = some x ∧ addUpTo cap T ttl ≤ x) ∨ ∃ p ∈ evs, T + ttl < p.1 := by
  induction ht with
  | nil => cases hT
  | @cons old e e' now o ht hclock hcap hstep ih =>
    -- a stored entry that starts at `now` lasts at least as long as one that started earlier
    have hlater : T ≤ now → addUpTo cap T ttl ≤ addUpTo cap now ttl := by
      intro hle
      unfold addUpTo
      omega
    have hold : T ∈ acceptances old →
        (∃ x, e = some x ∧ addUpTo cap T ttl ≤ x) ∨ ∃ p ∈ (now, o) :: old, T + ttl < p.1 := by
      intro hT
      rcases ih hT with h | ⟨p, hp, hlt⟩
      · exact .inl h
      · exact .inr ⟨p, List.mem_cons_of_mem _ hp, hlt⟩
    have hbefore : T ∈ acceptances old → T ≤ now := by
      intro hT
      obtain ⟨o', hm⟩ := mem_acceptances hT
      exact hclock _ hm
    have hnow : T ∈ acceptances ((now, o) :: old) → o ≠ .other → T ≤ now := by
      intro hT ho
      have haccepts : o.accepts = true := by
        cases o with
        | other => exact absurd rfl ho
        | accept => rfl
        | blind => rfl
      rw [acceptances_cons haccepts] at hT
      rcases List.mem_cons.mp hT with rfl | hT
      · exact Nat.le_refl _
      · exact hbefore hT
    cases hstep with
    | keep => exact hold hT
    | @drop x hexp =>
      rcases hold hT with ⟨y, hy, hle⟩ | h
      · cases hy
        refine .inr ⟨_, List.mem_cons_self, ?_⟩
        unfold addUpTo at hle
        simp only
        omega
      · exact .inr h
    | refresh => exact .inl ⟨_, rfl, hlater (hbefore hT)⟩
    | accept hfree => exact .inl ⟨_, rfl, hlater (hnow hT (by simp))⟩
    | blind => exact .inl ⟨_, rfl, hlater (hnow hT (by simp))⟩

/-- A step that looked and accepted is separated from every earlier acceptance. -/
theorem Trace.accept_separated {old : List (Nat × Outcome)} {e : Option Nat}
    (ht : Trace cap ttl old e) {now : Nat} (hclock : ∀ p ∈ old, p.1 ≤ now) (hcap : now ≤ cap)
    (hfree : ∀ x, e = some x → x < now) {T : Nat} (hT : T ∈ acceptances old) :
    T + ttl < now := by
  rcases ht.retained hT with ⟨x, hx, hle⟩ | ⟨p, hp, hlt⟩
  · have hexp := hfree x hx
    unfold addUpTo at hle
    omega
  · exact Nat.lt_of_lt_of_le hlt (hclock p hp)

/-- **Single use.** All acceptances are more than the time to live apart exactly when every blind
acceptance is so from the earlier ones. -/
theorem Trace.separated_iff {evs : List (Nat × Outcome)} {e : Option Nat}
    (ht : Trace cap ttl evs e) :
    Separated ttl (acceptances evs) ↔
      ∀ now old, (now, .blind) :: old <:+ evs → ∀ T ∈ acceptances old, T + ttl < now := by
  induction ht with
  | nil =>
    constructor
    · intro _ now old hs
      simp at hs
    · intro _
      exact List.Pairwise.nil
  | @cons old e e' now o ht hclock hcap hstep ih =>
    have hsuffix : (∀ now' old', (now', .blind) :: old' <:+ (now, o) :: old →
        ∀ T ∈ acceptances old', T + ttl < now') ↔
        (o = .blind → ∀ T ∈ acceptances old, T + ttl < now) ∧
          ∀ now' old', (now', .blind) :: old' <:+ old → ∀ T ∈ acceptances old', T + ttl < now' := by
      constructor
      · intro h
        refine ⟨?_, fun now' old' hs => h now' old' (hs.trans (List.suffix_cons _ _))⟩
        rintro rfl
        exact h now old List.suffix_rfl
      · rintro ⟨hnow, hold⟩ now' old' hs
        rcases List.suffix_cons_iff.mp hs with heq | hs
        · cases heq
          exact hnow rfl
        · exact hold now' old' hs
    rw [hsuffix]
    cases o with
    | other => simpa [acceptances_cons_other] using ih
    | accept =>
      rw [acceptances_cons rfl, Separated, List.pairwise_cons]
      have hsep : ∀ T ∈ acceptances old, T + ttl < now := by
        cases hstep with
        | accept hfree => exact fun T hT => ht.accept_separated hclock hcap hfree hT
      exact ⟨fun h => ⟨nofun, ih.mp h.2⟩, fun h => ⟨hsep, ih.mpr h.2⟩⟩
    | blind =>
      rw [acceptances_cons rfl, Separated, List.pairwise_cons]
      exact ⟨fun h => ⟨fun _ => h.1, ih.mp h.2⟩, fun h => ⟨h.1 rfl, ih.mpr h.2⟩⟩

/-! ## Stores -/

/-- A store as seen from one token. -/
structure Store (σ α : Type) where
  /-- The time of an act. -/
  now : α → Nat
  next : σ → α → σ
  /-- The act asks for the token and is answered with success. -/
  succeeds : σ → α → Bool
  /-- The act asks for the token without a look at its entry, and goes through. -/
  blind : α → Bool
  /-- The expiry stored for the token. -/
  expiry : σ → Option Nat

namespace Store

variable {σ α : Type} (S : Store σ α)

/-- The state after a sequence of acts, newest first. -/
def after (s : σ) : List α → σ
  | [] => s
  | a :: old => S.next (after s old) a

/-- The times of the acts that succeed, newest first. -/
def successes (s : σ) : List α → List Nat
  | [] => []
  | a :: old =>
    if S.succeeds (S.after s old) a then S.now a :: successes s old else successes s old

/-- What an act does for the token. -/
def outcome (s : σ) (a : α) : Outcome :=
  if S.succeeds s a then if S.blind a then .blind else .accept else .other

/-- The outcomes of a sequence with their times, newest first. -/
def events (s : σ) : List α → List (Nat × Outcome)
  | [] => []
  | a :: old => (S.now a, S.outcome (S.after s old) a) :: events s old

/-- The acts come in the order of a clock up to `cap`, and each takes a step. -/
structure Lawful (cap ttl : Nat) (acts : List α) : Prop where
  ordered : acts.Pairwise fun later earlier => S.now earlier ≤ S.now later
  inRange : ∀ a ∈ acts, S.now a ≤ cap
  step : ∀ a ∈ acts, ∀ s, Step cap ttl (S.now a) (S.expiry s) (S.expiry (S.next s a))
    (S.outcome s a)
  blind : ∀ s a, S.blind a = true → S.succeeds s a = true

variable {S} {s : σ} {acts : List α}

theorem acceptances_events (acts : List α) :
    acceptances (S.events s acts) = S.successes s acts := by
  induction acts with
  | nil => rfl
  | cons a old ih =>
    unfold events successes outcome
    split
    · rw [acceptances_cons (by split <;> rfl), ih]
    · rw [acceptances_cons_other, ih]

theorem Lawful.old {a : α} {old : List α} (h : S.Lawful cap ttl (a :: old)) :
    S.Lawful cap ttl old :=
  { ordered := (List.pairwise_cons.mp h.ordered).2
    inRange := fun b hb => h.inRange b (List.mem_cons_of_mem _ hb)
    step := fun b hb => h.step b (List.mem_cons_of_mem _ hb)
    blind := h.blind }

theorem mem_events {p : Nat × Outcome} (h : p ∈ S.events s acts) :
    ∃ a ∈ acts, S.now a = p.1 := by
  induction acts with
  | nil => cases h
  | cons a old ih =>
    rcases List.mem_cons.mp h with rfl | h
    · exact ⟨a, List.mem_cons_self, rfl⟩
    · obtain ⟨b, hb, hnow⟩ := ih h
      exact ⟨b, List.mem_cons_of_mem _ hb, hnow⟩

/-- The outcomes of a lawful sequence are a trace. -/
theorem Lawful.trace (h : S.Lawful cap ttl acts) :
    Trace cap ttl (S.events s acts) (S.expiry (S.after s acts)) := by
  induction acts with
  | nil => exact .nil
  | cons a old ih =>
    refine .cons (ih h.old) ?_ (h.inRange a List.mem_cons_self)
      (h.step a List.mem_cons_self _)
    intro p hp
    obtain ⟨b, hb, hnow⟩ := mem_events hp
    rw [← hnow]
    exact (List.pairwise_cons.mp h.ordered).1 b hb

theorem outcome_other {a : α} (h : S.succeeds s a ≠ true) : S.outcome s a = .other :=
  if_neg h

theorem outcome_accept {a : α} (h : S.succeeds s a = true) (hblind : S.blind a ≠ true) :
    S.outcome s a = .accept := by
  unfold outcome
  rw [if_pos h, if_neg hblind]

theorem outcome_blind {a : α} (h : S.succeeds s a = true) (hblind : S.blind a = true) :
    S.outcome s a = .blind := by
  unfold outcome
  rw [if_pos h, if_pos hblind]

theorem outcome_eq_blind (hblind : ∀ s a, S.blind a = true → S.succeeds s a = true) {a : α} :
    S.outcome s a = .blind ↔ S.blind a = true := by
  unfold outcome
  constructor
  · intro h
    split at h
    · split at h
      · assumption
      · cases h
    · cases h
  · intro h
    simp [hblind s a h, h]

/-- **Single use in a store.** The successes are more than the time to live apart exactly when the
blind acts are so from the earlier ones. -/
theorem separated_iff (h : S.Lawful cap ttl acts) :
    Separated ttl (S.successes s acts) ↔
      ∀ a old, a :: old <:+ acts → S.blind a = true →
        ∀ T ∈ S.successes s old, T + ttl < S.now a := by
  rw [← acceptances_events, h.trace.separated_iff]
  have hblind := h.blind
  clear h
  induction acts with
  | nil => simp [events]
  | cons a old ih =>
    simp only [events, List.suffix_cons_iff]
    constructor
    · intro h b old' hs hb
      rcases hs with heq | hs
      · cases heq
        rw [← acceptances_events]
        refine h (S.now a) _ (.inl ?_)
        rw [(outcome_eq_blind hblind).mpr hb]
      · exact ih.mp (fun now old' hs' => h now old' (.inr hs')) b old' hs hb
    · intro h now old' hs
      rcases hs with heq | hs
      · injection heq with hhead hold
        injection hhead with hnow hb
        subst hnow hold
        rw [acceptances_events]
        exact h a old (.inl rfl) ((outcome_eq_blind hblind).mp hb.symm)
      · exact ih.mpr (fun b old' hs' => h b old' (.inr hs')) now old' hs

theorem Lawful.suffix {old : List α} (h : S.Lawful cap ttl acts) (hs : old <:+ acts) :
    S.Lawful cap ttl old := by
  induction acts with
  | nil =>
    rw [List.suffix_nil.mp hs]
    exact h
  | cons a acts ih =>
    rcases List.suffix_cons_iff.mp hs with rfl | hs
    · exact h
    · exact ih h.old hs

/-- The successes of earlier acts are the earlier successes. -/
theorem successes_suffix {old : List α} (hs : old <:+ acts) :
    S.successes s old <:+ S.successes s acts := by
  induction acts with
  | nil =>
    obtain rfl := List.suffix_nil.mp hs
    exact List.suffix_rfl
  | cons a acts ih =>
    rcases List.suffix_cons_iff.mp hs with rfl | hs
    · exact List.suffix_rfl
    · conv => rhs; unfold successes
      split
      · exact (ih hs).trans (List.suffix_cons _ _)
      · exact ih hs

/-- A store whose blind acts all meet a free token accepts it once in its time to live. -/
theorem Lawful.separated (h : S.Lawful cap ttl acts)
    (hfree : ∀ a old, a :: old <:+ acts → S.blind a = true →
      ∀ x, S.expiry (S.after s old) = some x → x < S.now a) :
    Separated ttl (S.successes s acts) := by
  rw [separated_iff h]
  intro a old hs hblind T hT
  have hcons := h.suffix hs
  rw [← acceptances_events] at hT
  refine hcons.old.trace.accept_separated ?_ (hcons.inRange a List.mem_cons_self)
    (hfree a old hs hblind) hT
  intro p hp
  obtain ⟨b, hb, hnow⟩ := mem_events hp
  rw [← hnow]
  exact (List.pairwise_cons.mp hcons.ordered).1 b hb

end Store

end SingleUse

/-
  Splitting a list at the first occurrence of a separator, and trimming its ends.

  Over any type. The separator of `splitOnce` is a list; what `trim` takes away at both ends is a
  decidable class of elements.
-/
import Mathlib.Data.List.DropRight
import Mathlib.Data.List.Infix

namespace Splitting

variable {α : Type} [DecidableEq α] {sep l a b : List α} {x : α}

/-- What stands before and after the first occurrence of `sep`. -/
def splitOnce (sep : List α) : List α → Option (List α × List α)
  | [] => if sep = [] then some ([], []) else none
  | c :: cs =>
    if sep.isPrefixOf (c :: cs) then some ([], (c :: cs).drop sep.length)
    else (splitOnce sep cs).map fun parts => (c :: parts.1, parts.2)

theorem splitOnce_some (h : splitOnce sep l = some (a, b)) : l = a ++ (sep ++ b) := by
  induction l generalizing a b with
  | nil =>
    unfold splitOnce at h
    split at h
    · next hsep =>
      cases h
      simp [hsep]
    · cases h
  | cons c cs ih =>
    unfold splitOnce at h
    split at h
    · next hpre =>
      obtain ⟨rest, hrest⟩ := List.isPrefixOf_iff_prefix.mp hpre
      injection h with h
      injection h with ha hb
      rw [← hb, ← ha, ← hrest, List.drop_left]
      rfl
    · obtain ⟨⟨a', b'⟩, hparts, heq⟩ := Option.map_eq_some_iff.mp h
      injection heq with ha hb
      rw [← ha, ← hb, ih hparts]
      rfl

/-- A separator that begins with an element the list does not have before. -/
theorem splitOnce_append (hx : x ∉ a) :
    splitOnce (x :: sep) (a ++ (x :: sep ++ b)) = some (a, b) := by
  induction a with
  | nil =>
    have hpre : (x :: sep).isPrefixOf (x :: sep ++ b) = true :=
      List.isPrefixOf_iff_prefix.mpr (List.prefix_append _ _)
    rw [List.nil_append]
    show (if (x :: sep).isPrefixOf (x :: sep ++ b) then _ else _) = _
    rw [if_pos hpre]
    have hdrop : (x :: sep ++ b).drop (x :: sep).length = b := List.drop_left
    rw [show x :: (sep.append b) = x :: sep ++ b from rfl, hdrop]
  | cons c a ih =>
    obtain ⟨hne, hx⟩ := List.ne_and_not_mem_of_not_mem_cons hx
    have hpre : ¬ (x :: sep).isPrefixOf (c :: (a ++ (x :: sep ++ b))) = true := by
      intro hpre
      obtain ⟨rest, hrest⟩ := List.isPrefixOf_iff_prefix.mp hpre
      injection hrest with hhead
      exact hne hhead
    show (if (x :: sep).isPrefixOf (c :: (a ++ (x :: sep ++ b))) then _ else _) = _
    rw [if_neg hpre, show a.append (x :: sep ++ b) = a ++ (x :: sep ++ b) from rfl, ih hx]
    rfl

/-- A list without the first element of the separator is not split. -/
theorem splitOnce_eq_none (hx : x ∉ l) : splitOnce (x :: sep) l = none := by
  cases h : splitOnce (x :: sep) l with
  | none => rfl
  | some parts =>
    have hl : l = parts.1 ++ (x :: sep ++ parts.2) := splitOnce_some h
    rw [hl] at hx
    exact absurd (List.mem_append_right _ List.mem_cons_self) hx

/-- A split at one element is the split at its first occurrence. -/
theorem splitOnce_singleton : splitOnce [x] l = some (a, b) ↔ l = a ++ x :: b ∧ x ∉ a := by
  constructor
  · intro h
    refine ⟨splitOnce_some h, fun hx => ?_⟩
    have hl := splitOnce_some h
    obtain ⟨a', b', ha, hx'⟩ := List.eq_append_cons_of_mem hx
    have hfirst : splitOnce [x] (a' ++ ([x] ++ (b' ++ ([x] ++ b)))) =
        some (a', b' ++ ([x] ++ b)) := splitOnce_append hx'
    have hsame : a' ++ ([x] ++ (b' ++ ([x] ++ b))) = l := by
      rw [hl, ha]
      simp
    rw [hsame, h] at hfirst
    injection hfirst with hfirst
    injection hfirst with ha' _
    have hlen := congrArg List.length (ha'.symm.trans ha)
    simp only [List.length_append, List.length_cons] at hlen
    omega
  · rintro ⟨rfl, hx⟩
    exact splitOnce_append hx

/-- At most `n` parts between separators; the last part keeps those that are left. -/
def splitN (sep : List α) : Nat → List α → List (List α)
  | 0, _ => []
  | 1, l => [l]
  | n + 2, l =>
    match splitOnce sep l with
    | none => [l]
    | some (a, b) => a :: splitN sep (n + 1) b

omit [DecidableEq α] in
/-- Two ways to split a list at an element: the same one, or one is left of the other. -/
theorem separated_eq {c d : List α} (h : a ++ x :: b = c ++ x :: d) :
    (a = c ∧ b = d) ∨ (∃ part, c = a ++ x :: part ∧ b = part ++ x :: d) ∨
      ∃ part, a = c ++ x :: part ∧ d = part ++ x :: b := by
  obtain ⟨rest, hc, hb⟩ | ⟨rest, ha, hd⟩ := List.append_eq_append_iff.mp h
  · cases rest with
    | nil =>
      rw [List.append_nil] at hc
      injection hb with _ hb
      exact .inl ⟨hc.symm, hb⟩
    | cons y part =>
      injection hb with hy hb
      subst hy
      exact .inr (.inl ⟨part, hc, hb⟩)
  · cases rest with
    | nil =>
      rw [List.append_nil] at ha
      injection hd with _ hd
      exact .inl ⟨ha, hd.symm⟩
    | cons y part =>
      injection hd with hy hd
      subst hy
      exact .inr (.inr ⟨part, ha, hd⟩)

omit [DecidableEq α] in
/-- Split at the first occurrence of the element. -/
theorem separated_first {c d : List α} (ha : x ∉ a) (hc : x ∉ c)
    (h : a ++ x :: b = c ++ x :: d) : a = c ∧ b = d := by
  obtain hsame | ⟨part, rfl, -⟩ | ⟨part, rfl, -⟩ := separated_eq h
  · exact hsame
  · exact absurd (List.mem_append_right _ List.mem_cons_self) hc
  · exact absurd (List.mem_append_right _ List.mem_cons_self) ha

omit [DecidableEq α] in
/-- Split at the last occurrence of the element. -/
theorem separated_last {c d : List α} (hb : x ∉ b) (hd : x ∉ d)
    (h : a ++ x :: b = c ++ x :: d) : a = c ∧ b = d := by
  obtain hsame | ⟨part, -, rfl⟩ | ⟨part, -, rfl⟩ := separated_eq h
  · exact hsame
  · exact absurd (List.mem_append_right _ List.mem_cons_self) hb
  · exact absurd (List.mem_append_right _ List.mem_cons_self) hd

/-! ## Trimming -/

variable {p : α → Bool}

/-- The list without what satisfies `p` at its end. -/
def trimEnd (p : α → Bool) (l : List α) : List α := (l.reverse.dropWhile p).reverse

/-- The list without what satisfies `p` at its ends. -/
def trim (p : α → Bool) (l : List α) : List α := trimEnd p (l.dropWhile p)

omit [DecidableEq α] in
theorem trimEnd_append (hx : p x = false) (l : List α) :
    trimEnd p (a ++ x :: l) = a ++ x :: trimEnd p l := by
  unfold trimEnd
  rw [List.reverse_append, List.reverse_cons, List.append_assoc, List.dropWhile_append]
  split
  · next hnil =>
    rw [List.isEmpty_iff] at hnil
    rw [hnil]
    simp [hx]
  · simp

omit [DecidableEq α] in
theorem trimEnd_eq_self (h : ∀ x ∈ l, p x = false) : trimEnd p l = l := by
  unfold trimEnd
  have hdrop : l.reverse.dropWhile p = l.reverse := by
    cases hl : l.reverse with
    | nil => rfl
    | cons y ys =>
      have hy : y ∈ l := List.mem_reverse.mp (hl ▸ List.mem_cons_self)
      simp [h y hy]
  rw [hdrop, List.reverse_reverse]

omit [DecidableEq α] in
theorem trimEnd_subset : trimEnd p l ⊆ l := by
  intro y hy
  unfold trimEnd at hy
  rw [List.mem_reverse] at hy
  exact List.mem_reverse.mp ((List.dropWhile_suffix p).subset hy)

omit [DecidableEq α] in
theorem mem_trimEnd (hx : p x = false) (h : x ∈ l) : x ∈ trimEnd p l := by
  obtain ⟨a, b, rfl⟩ := List.append_of_mem h
  rw [trimEnd_append hx]
  simp

omit [DecidableEq α] in
theorem trimEnd_length_le (l : List α) : (trimEnd p l).length ≤ l.length := by
  unfold trimEnd
  rw [List.length_reverse]
  have hle := (List.dropWhile_suffix p (l := l.reverse)).length_le
  rw [List.length_reverse] at hle
  exact hle

omit [DecidableEq α] in
/-- A trimmed list loses nothing at either end. -/
theorem ends_of_trim (h : trim p l = l) : l.dropWhile p = l ∧ trimEnd p l = l := by
  have hstart : l.dropWhile p = l := by
    apply (List.dropWhile_suffix p).eq_of_length_le
    have hle := trimEnd_length_le (p := p) (l.dropWhile p)
    unfold trim at h
    rw [h] at hle
    exact hle
  unfold trim at h
  rw [hstart] at h
  exact ⟨hstart, h⟩

omit [DecidableEq α] in
theorem dropWhile_append_of_trim (h : trim p l = l) (hl : l ≠ []) (b : List α) :
    (l ++ b).dropWhile p = l ++ b := by
  obtain ⟨x, l, rfl⟩ := List.exists_cons_of_ne_nil hl
  have hx : p x = false := by
    have hdrop := List.dropWhile_eq_self_iff.mp (ends_of_trim h).1
    exact Bool.eq_false_iff.mpr (hdrop (Nat.zero_lt_succ _))
  rw [List.cons_append, List.dropWhile_cons_of_neg (Bool.eq_false_iff.mp hx)]

omit [DecidableEq α] in
/-- What is left of the end of a trimmed list, when its start is dropped, does not begin with what
comes after the list. -/
theorem dropWhile_ne_cons (h : trim p (a ++ b) = a ++ b) (hb : b ≠ []) (hx : x ∉ b) (l t : List α) :
    (b ++ x :: l).dropWhile p ≠ x :: t := by
  have hlast : ¬ p ((a ++ b).getLast (List.append_ne_nil_of_right_ne_nil a hb)) = true :=
    List.rdropWhile_eq_self_iff.mp (ends_of_trim h).2 _
  rw [List.getLast_append_of_ne_nil _ hb] at hlast
  have hrest : b.dropWhile p ≠ [] := by
    intro hnil
    exact hlast (List.dropWhile_eq_nil_iff.mp hnil _ (List.getLast_mem hb))
  obtain ⟨y, rest, hy⟩ := List.exists_cons_of_ne_nil hrest
  intro heq
  rw [List.dropWhile_append, if_neg (by rw [List.isEmpty_iff]; exact hrest), hy] at heq
  injection heq with hhead
  have hmem : y ∈ b := (List.dropWhile_suffix p).subset (hy ▸ List.mem_cons_self)
  rw [hhead] at hmem
  exact hx hmem

omit [DecidableEq α] in
theorem trim_eq_self (h : ∀ x ∈ l, p x = false) : trim p l = l := by
  have hstart : l.dropWhile p = l := by
    cases l with
    | nil => rfl
    | cons x l =>
      rw [List.dropWhile_cons_of_neg (Bool.eq_false_iff.mp (h x List.mem_cons_self))]
  unfold trim
  rw [hstart]
  exact trimEnd_eq_self h

omit [DecidableEq α] in
theorem head_of_dropWhile (h : (l.dropWhile p).head? = some x) : p x = false := by
  have hnot := List.head?_dropWhile_not p l
  rw [h] at hnot
  exact hnot

omit [DecidableEq α] in
/-- A trimmed list does not begin with what was trimmed. -/
theorem head_of_trim (h : (trim p l).head? = some x) : p x = false := by
  cases hl : l.dropWhile p with
  | nil =>
    unfold trim at h
    rw [hl] at h
    cases h
  | cons y rest =>
    have hy : p y = false := head_of_dropWhile (congrArg List.head? hl)
    have hcons := trimEnd_append (a := []) hy rest
    rw [List.nil_append, List.nil_append] at hcons
    unfold trim at h
    rw [hl, hcons] at h
    injection h with h
    rw [← h]
    exact hy

omit [DecidableEq α] in
/-- A trimmed list does not end with what was trimmed. -/
theorem last_of_trim (h : (trim p l).getLast? = some x) : p x = false := by
  unfold trim trimEnd at h
  rw [List.getLast?_reverse] at h
  exact head_of_dropWhile h

omit [DecidableEq α] in
/-- A list that neither begins nor ends so is trimmed. -/
theorem trim_of_ends (hhead : ∀ x, l.head? = some x → p x = false)
    (hlast : ∀ x, l.getLast? = some x → p x = false) : trim p l = l := by
  have hstart : l.dropWhile p = l := by
    cases l with
    | nil => rfl
    | cons x l => rw [List.dropWhile_cons_of_neg (Bool.eq_false_iff.mp (hhead x rfl))]
  have hend : l.reverse.dropWhile p = l.reverse := by
    cases hl : l.reverse with
    | nil => rfl
    | cons x rest =>
      have hx : l.getLast? = some x := by
        rw [← List.head?_reverse, hl]
        rfl
      rw [List.dropWhile_cons_of_neg (Bool.eq_false_iff.mp (hlast x hx))]
  unfold trim trimEnd
  rw [hstart, hend, List.reverse_reverse]

end Splitting

/-
  Anniversaries in a calendar whose years have one of two lengths, a day apart.

  A day has a place: a year and a day of it, counted from 0. The anniversary of a place keeps the
  day of the year; the last day of a long year runs on into the next one when the other year is
  short.

  Proved: comparing a day with the one of the same date `n` years before today is comparing its
  `n`th anniversary with today, except on the last day of a long year when the year `n` years
  before is short (`Calendar.anniversaries_iff`).
-/
import Mathlib.Data.Int.Basic
import Mathlib.Tactic.Common

namespace Years

/-- The first day of each year. -/
structure Calendar where
  start : Int → Int
  /-- The days of a short year. -/
  short : Int
  short_pos : 0 < short
  start_succ : ∀ y, start (y + 1) = start y + short ∨ start (y + 1) = start y + short + 1

namespace Calendar

variable (C : Calendar)

def IsLong (y : Int) : Prop := C.start (y + 1) = C.start y + C.short + 1

/-- A day of a year. -/
structure Place where
  year : Int
  day : Int
  day_nonneg : 0 ≤ day
  day_lt : C.start year + day < C.start (year + 1)

variable {C}

namespace Place

/-- The number of the day. -/
def number (p : C.Place) : Int := C.start p.year + p.day

/-- The same day of the year, `n` years later. -/
def anniversary (p : C.Place) (n : Int) : Int := C.start (p.year + n) + p.day

end Place

theorem start_lt_succ (y : Int) : C.start y + C.short ≤ C.start (y + 1) := by
  rcases C.start_succ y with h | h <;> omega

/-- Years follow each other. -/
theorem start_le {y z : Int} (h : y ≤ z) : C.start y ≤ C.start z := by
  obtain ⟨k, rfl⟩ := Int.le.dest h
  induction k with
  | zero => simp
  | succ k ih =>
    have hstep := C.start_lt_succ (y + k)
    have hpos := C.short_pos
    have hk := ih (by omega)
    rw [Int.natCast_succ, ← Int.add_assoc]
    omega

theorem succ_le_of_lt {y z : Int} (h : y < z) : C.start (y + 1) ≤ C.start z := start_le (by omega)

theorem Place.day_le (p : C.Place) : p.day ≤ C.short := by
  have hlt := p.day_lt
  rcases C.start_succ p.year with h | h <;> omega

/-- A day has one place. -/
theorem Place.unique {p q : C.Place} (h : p.number = q.number) :
    p.year = q.year ∧ p.day = q.day := by
  have hp := p.day_lt
  have hq := q.day_lt
  have hp0 := p.day_nonneg
  have hq0 := q.day_nonneg
  unfold number at h
  rcases Int.lt_trichotomy p.year q.year with hlt | heq | hgt
  · have hle := C.succ_le_of_lt hlt
    omega
  · rw [heq] at h
    exact ⟨heq, by omega⟩
  · have hle := C.succ_le_of_lt hgt
    omega

/-- On any day but the last of a long year over a short one, the two comparisons agree. -/
theorem anniversary_le_iff {p : C.Place} {n : Int}
    (h : p.day = C.short → C.IsLong (p.year - n)) (q : C.Place) :
    q.number ≤ p.anniversary (-n) ↔ q.anniversary n ≤ p.number := by
  have hp := p.day_lt
  have hp0 := p.day_nonneg
  have hple := p.day_le
  have hq := q.day_lt
  have hq0 := q.day_nonneg
  have hqle := q.day_le
  have hyear : p.year + -n = p.year - n := by omega
  unfold Place.number Place.anniversary
  rw [hyear]
  rcases Int.lt_trichotomy q.year (p.year - n) with hlt | heq | hgt
  · -- an earlier year: both hold
    have hbefore := C.succ_le_of_lt hlt
    have hafter := C.succ_le_of_lt (show q.year + n < p.year by omega)
    have hlong := C.start_lt_succ (q.year + n)
    constructor
    · intro _
      omega
    · intro _
      omega
  · have heq' : q.year + n = p.year := by omega
    rw [heq', heq]
    omega
  · -- a later year: neither holds
    have hbefore := C.succ_le_of_lt hgt
    have hafter := C.succ_le_of_lt (show p.year < q.year + n by omega)
    have hday : C.start (p.year - n) + p.day < C.start (p.year - n + 1) := by
      have hlong := C.start_lt_succ (p.year - n)
      by_cases hlast : p.day = C.short
      · have hl : C.start (p.year - n + 1) = C.start (p.year - n) + C.short + 1 := h hlast
        omega
      · omega
    constructor
    · intro _
      omega
    · intro _
      omega

/-- The first day after the short year that the last day of the long one runs into. -/
theorem anniversary_gap {p : C.Place} {n : Int} (hlast : p.day = C.short)
    (hshort : ¬ C.IsLong (p.year - n)) (q : C.Place) (hyear : q.year = p.year - n + 1)
    (hday : q.day = 0) : q.number ≤ p.anniversary (-n) ∧ p.number < q.anniversary n := by
  have hstart : C.start (p.year - n + 1) = C.start (p.year - n) + C.short :=
    (C.start_succ _).resolve_right hshort
  have hp := p.day_lt
  have hyear' : p.year + -n = p.year - n := by omega
  have hnext : p.year - n + 1 + n = p.year + 1 := by omega
  unfold Place.number Place.anniversary
  rw [hyear, hday, hyear', hnext]
  omega

/-- **Anniversaries.** -/
theorem anniversaries_iff (p : C.Place) (n : Int) :
    (∀ q : C.Place, q.number ≤ p.anniversary (-n) ↔ q.anniversary n ≤ p.number) ↔
      (p.day = C.short → C.IsLong (p.year - n)) := by
  constructor
  · intro h hlast
    by_contra hshort
    have hfirst : C.start (p.year - n + 1) + 0 < C.start (p.year - n + 1 + 1) := by
      have hstep := C.start_lt_succ (p.year - n + 1)
      have hpos := C.short_pos
      omega
    obtain ⟨hle, hlt⟩ := anniversary_gap hlast hshort
      ⟨p.year - n + 1, 0, Int.le_refl _, hfirst⟩ rfl rfl
    exact absurd ((h _).mp hle) (by omega)
  · intro h q
    exact anniversary_le_iff h q

theorem Place.anniversary_neg_le (p : C.Place) {n : Int} (hn : 0 ≤ n) :
    p.anniversary (-n) ≤ p.number := by
  have hle := C.start_le (show p.year + -n ≤ p.year by omega)
  unfold number anniversary
  omega

end Calendar

end Years

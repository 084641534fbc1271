/-
  `calculate_exact_days_for_years` in `utils/mod.rs` and the cutoff that `create_challenge`
  computes with it: who is old enough.

  The cutoff is today's date some years ago, as `set_full_year` computes it. A person is old
  enough when the birthday with that number has come; a birthday on 29 February falls on 1 March
  in a year without one, as `set_full_year` has it too.

  Proved: day numbers and dates agree (`daysFromCivil_civilFromDays`); the cutoff lets exactly
  those in who are old enough, unless today is 29 February and that year had none
  (`age_cutoff_iff`). Then it lets in who was born on 1 March of that year, a day early
  (`day_too_young`).
-/
import ProviiVerifier.CreateChallenge
import ProviiVerifier.Encoding.Years

namespace ProviiVerifier

namespace AgeCutoff

open Years

/-! ## Years from March -/

/-- The day number of 1 March of a year. -/
def marchStart (year : Int) : Int :=
  365 * year + year / 4 - year / 100 + year / 400 - 719468

/-- The Gregorian rule. -/
def isLeapYear (year : Int) : Bool :=
  year % 4 = 0 ∧ (year % 100 ≠ 0 ∨ year % 400 = 0)

theorem marchStart_succ (year : Int) :
    marchStart (year + 1) = marchStart year + 365 + if isLeapYear (year + 1) then 1 else 0 := by
  unfold marchStart isLeapYear
  by_cases h4 : (year + 1) % 4 = 0
  · by_cases h100 : (year + 1) % 100 = 0
    · by_cases h400 : (year + 1) % 400 = 0
      · simp only [h4, h100, h400, decide_true, ne_eq, not_true_eq_false, false_or, and_self,
          if_true]
        omega
      · simp only [h4, h100, h400, decide_false, ne_eq, not_true_eq_false, false_or, and_false,
          Bool.false_eq_true, if_false]
        omega
    · simp only [h4, h100, ne_eq, not_false_eq_true, true_or, and_self, decide_true, if_true]
      omega
  · simp only [h4, false_and, decide_false, Bool.false_eq_true, if_false]
    omega

/-- Gregorian years from March to February. -/
def gregorian : Calendar :=
  { start := marchStart
    short := 365
    short_pos := by decide
    start_succ := by
      intro year
      rw [marchStart_succ]
      split
      · exact .inr rfl
      · exact .inl (Int.add_zero _) }

theorem isLong_iff {year : Int} : gregorian.IsLong year ↔ isLeapYear (year + 1) = true := by
  show marchStart (year + 1) = marchStart year + 365 + 1 ↔ _
  rw [marchStart_succ]
  cases isLeapYear (year + 1) with
  | true => simp
  | false => simp

/-! ## Dates -/

/-- The year from March that a date is in. -/
def marchYear (date : CivilDate) : Int := if date.month ≤ 2 then date.year - 1 else date.year

/-- The day of that year, from 0. -/
def marchDay (date : CivilDate) : Int :=
  (153 * (if date.month > 2 then date.month - 3 else date.month + 9) + 2) / 5 + date.day - 1

theorem daysFromCivil_eq (date : CivilDate) :
    daysFromCivil date = marchStart (marchYear date) + marchDay date := by
  unfold daysFromCivil marchStart marchDay marchYear
  dsimp only
  generalize (if date.month ≤ 2 then date.year - 1 else date.year) = year
  omega

/-- A date some years later. -/
theorem daysFromCivil_years (date : CivilDate) (n : Int) :
    daysFromCivil { date with year := date.year + n } =
      marchStart (marchYear date + n) + marchDay date := by
  rw [daysFromCivil_eq]
  have hyear : marchYear { date with year := date.year + n } = marchYear date + n := by
    unfold marchYear
    dsimp only
    split <;> omega
  rw [hyear]
  rfl

section Era

variable (dayOfEra : Int)

/-- The year of a day in an era of 400 years. -/
def yearOfEra : Int :=
  (dayOfEra - dayOfEra / 1460 + dayOfEra / 36524 - dayOfEra / 146096) / 365

def dayOfYear : Int :=
  dayOfEra - (365 * yearOfEra dayOfEra + yearOfEra dayOfEra / 4 - yearOfEra dayOfEra / 100)

variable {dayOfEra}

theorem century (h₀ : 0 ≤ dayOfEra) (h₁ : dayOfEra < 146097) :
    yearOfEra dayOfEra / 100 = dayOfEra / 36524 - dayOfEra / 146096 := by
  unfold yearOfEra
  have hcentury : dayOfEra / 36524 = 0 ∨ dayOfEra / 36524 = 1 ∨ dayOfEra / 36524 = 2 ∨
      dayOfEra / 36524 = 3 ∨ dayOfEra / 36524 = 4 := by omega
  have hlast : dayOfEra / 146096 = 0 ∨ dayOfEra / 146096 = 1 := by omega
  rcases hcentury with h | h | h | h | h <;> rcases hlast with h' | h' <;> omega

theorem cycle (h₀ : 0 ≤ dayOfEra) (h₁ : dayOfEra < 146097) :
    yearOfEra dayOfEra / 4 = dayOfEra / 1460 ∨ yearOfEra dayOfEra / 4 = dayOfEra / 1460 - 1 := by
  unfold yearOfEra
  omega

theorem yearOfEra_bounds (dayOfEra : Int) : 365 * yearOfEra dayOfEra ≤
      dayOfEra - dayOfEra / 1460 + dayOfEra / 36524 - dayOfEra / 146096 ∧
    dayOfEra - dayOfEra / 1460 + dayOfEra / 36524 - dayOfEra / 146096 <
      365 * yearOfEra dayOfEra + 365 := by
  unfold yearOfEra
  omega

theorem dayOfYear_bounds (h₀ : 0 ≤ dayOfEra) (h₁ : dayOfEra < 146097) :
    0 ≤ yearOfEra dayOfEra ∧ yearOfEra dayOfEra < 400 ∧ 0 ≤ dayOfYear dayOfEra ∧
      dayOfYear dayOfEra ≤ 365 := by
  have hcentury := century h₀ h₁
  have hbounds := yearOfEra_bounds dayOfEra
  unfold dayOfYear
  rcases cycle h₀ h₁ with h | h
  · refine ⟨?_, ?_, ?_, ?_⟩ <;> omega
  · refine ⟨?_, ?_, ?_, ?_⟩ <;> omega

theorem dayOfYear_bounds_of (days : Int) :
    0 ≤ yearOfEra ((days + 719468) % 146097) ∧ yearOfEra ((days + 719468) % 146097) < 400 ∧
      0 ≤ dayOfYear ((days + 719468) % 146097) ∧ dayOfYear ((days + 719468) % 146097) ≤ 365 :=
  dayOfYear_bounds (by omega) (by omega)

/-- Only a leap day is the last of its year. -/
theorem leap_of_dayOfYear (h₀ : 0 ≤ dayOfEra) (h₁ : dayOfEra < 146097)
    (h : dayOfYear dayOfEra = 365) : isLeapYear (yearOfEra dayOfEra + 1) = true := by
  have hcentury := century h₀ h₁
  have hbounds := yearOfEra_bounds dayOfEra
  unfold dayOfYear at h
  have hleap : (yearOfEra dayOfEra + 1) % 4 = 0 ∧
      ((yearOfEra dayOfEra + 1) % 100 ≠ 0 ∨ (yearOfEra dayOfEra + 1) % 400 = 0) := by
    rcases cycle h₀ h₁ with hcycle | hcycle
    · omega
    · have hle : dayOfEra / 1460 ≤ 100 := by omega
      have hyear : yearOfEra dayOfEra = 4 * (dayOfEra / 1460) - 1 := by omega
      exact ⟨by omega, by omega⟩
  simpa [isLeapYear] using hleap

end Era

/-- The date of a day of a year from March. -/
def ofMarch (year day : Int) : CivilDate :=
  let month := (5 * day + 2) / 153
  let civilMonth := if month < 10 then month + 3 else month - 9
  ⟨if civilMonth ≤ 2 then year + 1 else year, civilMonth, day - (153 * month + 2) / 5 + 1⟩

theorem ofMarch_late {year day : Int} (h₀ : 0 ≤ day) (h : (5 * day + 2) / 153 < 10) :
    ofMarch year day = ⟨year, (5 * day + 2) / 153 + 3,
      day - (153 * ((5 * day + 2) / 153) + 2) / 5 + 1⟩ := by
  have hlate : ¬ (5 * day + 2) / 153 + 3 ≤ 2 := by omega
  simp [ofMarch, h, hlate]

theorem ofMarch_early {year day : Int} (h₁ : day ≤ 365) (h : ¬ (5 * day + 2) / 153 < 10) :
    ofMarch year day = ⟨year + 1, (5 * day + 2) / 153 - 9,
      day - (153 * ((5 * day + 2) / 153) + 2) / 5 + 1⟩ := by
  have hearly : (5 * day + 2) / 153 ≤ 11 := by omega
  simp [ofMarch, h, hearly]

theorem march_ofMarch {year day : Int} (h₀ : 0 ≤ day) (h₁ : day ≤ 365) :
    marchYear (ofMarch year day) = year ∧ marchDay (ofMarch year day) = day := by
  unfold marchYear marchDay
  by_cases hmonth : (5 * day + 2) / 153 < 10
  · rw [ofMarch_late h₀ hmonth]
    dsimp only
    have hlate : ¬ (5 * day + 2) / 153 + 3 ≤ 2 := by omega
    rw [if_neg hlate, if_pos (by omega)]
    exact ⟨rfl, by omega⟩
  · rw [ofMarch_early h₁ hmonth]
    dsimp only
    have hearly : (5 * day + 2) / 153 - 9 ≤ 2 := by omega
    rw [if_pos hearly, if_neg (by omega)]
    exact ⟨by omega, by omega⟩

/-- 29 February is the last day of a year from March. -/
theorem ofMarch_leapDay {year day : Int} (h₀ : 0 ≤ day) (h₁ : day ≤ 365) :
    (ofMarch year day).month = 2 ∧ (ofMarch year day).day = 29 ↔ day = 365 := by
  by_cases hmonth : (5 * day + 2) / 153 < 10
  · rw [ofMarch_late h₀ hmonth]
    dsimp only
    omega
  · rw [ofMarch_early h₁ hmonth]
    dsimp only
    omega

theorem civilFromDays_eq (days : Int) :
    civilFromDays days = ofMarch
      (yearOfEra ((days + 719468) % 146097) + (days + 719468) / 146097 * 400)
      (dayOfYear ((days + 719468) % 146097)) := rfl

/-- The year and the day that `civilFromDays` finds make up the day number. -/
theorem marchStart_add (days : Int) :
    marchStart (yearOfEra ((days + 719468) % 146097) + (days + 719468) / 146097 * 400) +
      dayOfYear ((days + 719468) % 146097) = days := by
  obtain ⟨hlow, hhigh, -, -⟩ := dayOfYear_bounds_of days
  unfold marchStart dayOfYear
  omega

theorem march_civilFromDays (days : Int) :
    marchYear (civilFromDays days) =
        yearOfEra ((days + 719468) % 146097) + (days + 719468) / 146097 * 400 ∧
      marchDay (civilFromDays days) = dayOfYear ((days + 719468) % 146097) := by
  have hbounds := dayOfYear_bounds_of days
  rw [civilFromDays_eq]
  exact march_ofMarch hbounds.2.2.1 hbounds.2.2.2

/-- **Dates and day numbers agree.** -/
theorem daysFromCivil_civilFromDays (days : Int) : daysFromCivil (civilFromDays days) = days := by
  obtain ⟨hyear, hday⟩ := march_civilFromDays days
  rw [daysFromCivil_eq, hyear, hday, marchStart_add]

/-- The place of a day in its year. -/
def place (days : Int) : gregorian.Place :=
  { year := marchYear (civilFromDays days)
    day := marchDay (civilFromDays days)
    day_nonneg := by
      rw [(march_civilFromDays days).2]
      exact (dayOfYear_bounds_of days).2.2.1
    day_lt := by
      have hbounds := dayOfYear_bounds_of days
      obtain ⟨hyear, hday⟩ := march_civilFromDays days
      show marchStart _ + _ < marchStart (_ + 1)
      rw [hyear, hday, marchStart_succ]
      by_cases hlast : dayOfYear ((days + 719468) % 146097) = 365
      · have hleap := leap_of_dayOfYear (by omega) (by omega) hlast
        have hleap' : isLeapYear (yearOfEra ((days + 719468) % 146097) +
            (days + 719468) / 146097 * 400 + 1) = true := by
          unfold isLeapYear at hleap ⊢
          simp only [decide_eq_true_eq] at hleap ⊢
          omega
        rw [if_pos hleap']
        omega
      · split <;> omega }

theorem place_number (days : Int) : (place days).number = days := by
  have h := daysFromCivil_civilFromDays days
  rw [daysFromCivil_eq] at h
  exact h

/-- Some years later or earlier, as `set_full_year` has it. -/
theorem daysFromCivil_anniversary (days n : Int) :
    daysFromCivil { civilFromDays days with year := (civilFromDays days).year + n } =
      (place days).anniversary n :=
  daysFromCivil_years _ n

theorem number_place (p : gregorian.Place) (n : Int) :
    (place p.number).anniversary n = p.anniversary n := by
  obtain ⟨hyear, hday⟩ := Calendar.Place.unique (place_number p.number)
  unfold Calendar.Place.anniversary
  rw [hyear, hday]

/-! ## The cutoff -/

/-- Who was born on a day has completed the years on another one. -/
def CompletedYears (years : Nat) (birth today : Int) : Prop :=
  daysFromCivil { civilFromDays birth with year := (civilFromDays birth).year + years } ≤ today

instance (years : Nat) (birth today : Int) : Decidable (CompletedYears years birth today) :=
  inferInstanceAs (Decidable (_ ≤ _))

/-- If today is 29 February, there was one that many years ago. -/
def LeapDayExisted (years : Nat) (today : Int) : Prop :=
  (civilFromDays today).month = 2 ∧ (civilFromDays today).day = 29 →
    isLeapYear ((civilFromDays today).year - years) = true

instance (years : Nat) (today : Int) : Decidable (LeapDayExisted years today) :=
  inferInstanceAs (Decidable (_ → _))

theorem leapDayExisted_iff {years : Nat} {today : Int} : LeapDayExisted years today ↔
    ((place today).day = gregorian.short → gregorian.IsLong ((place today).year - years)) := by
  have hbounds := dayOfYear_bounds_of today
  have hday : (place today).day = dayOfYear ((today + 719468) % 146097) :=
    (march_civilFromDays today).2
  have hleapDay : (civilFromDays today).month = 2 ∧ (civilFromDays today).day = 29 ↔
      (place today).day = gregorian.short := by
    rw [hday, civilFromDays_eq]
    exact ofMarch_leapDay hbounds.2.2.1 hbounds.2.2.2
  have hyear : (civilFromDays today).month = 2 →
      (place today).year - years + 1 = (civilFromDays today).year - years := by
    intro hmonth
    show marchYear (civilFromDays today) - years + 1 = _
    unfold marchYear
    rw [if_pos (by omega)]
    omega
  unfold LeapDayExisted
  rw [isLong_iff]
  constructor
  · intro h hlast
    have hmonth := hleapDay.mpr hlast
    rw [hyear hmonth.1]
    exact h hmonth
  · intro h hmonth
    rw [← hyear hmonth.1]
    exact h (hleapDay.mp hmonth)

/-- The days of an age go back to today's date, so many years ago. -/
theorem calculateExactDaysForYears_eq (now years : Nat) :
    (calculateExactDaysForYears now years : Int) = ((now / secondsPerDay : Nat) : Int) -
      (place ((now / secondsPerDay : Nat) : Int)).anniversary (-years) := by
  have hle := Calendar.Place.anniversary_neg_le (place ((now / secondsPerDay : Nat) : Int))
    (Int.natCast_nonneg years)
  rw [place_number] at hle
  have hdays : calculateExactDaysForYears now years = (((now / secondsPerDay : Nat) : Int) -
      (place ((now / secondsPerDay : Nat) : Int)).anniversary (-years)).toNat := by
    rw [← daysFromCivil_anniversary]
    rfl
  rw [hdays]
  omega

theorem cutoff_eq {now years : Nat} (hnow : now / secondsPerDay < 2 ^ 32) {cutoff : CutoffDays}
    (hc : CreateChallenge.cutoffDays now years = .ok cutoff) :
    cutoff.val = (place ((now / secondsPerDay : Nat) : Int)).anniversary (-years) := by
  have hdays := calculateExactDaysForYears_eq now years
  unfold CreateChallenge.cutoffDays at hc
  dsimp only at hc
  rw [Nat.mod_eq_of_lt hnow] at hc
  split at hc
  · cases hc
  · split at hc
    · cases hc
    · unfold CutoffDays.new at hc
      split at hc
      · injection hc with hc
        rw [← hc]
        dsimp only
        omega
      · cases hc

/-- **The age cutoff.** At any time a `Date` can hold, it lets exactly those in who have completed
the years, unless today is 29 February and that year had none. -/
theorem age_cutoff_iff (now years : Nat) (hnow : now ≤ 8640000000000) (cutoff : CutoffDays)
    (hc : CreateChallenge.cutoffDays now years = .ok cutoff) :
    (∀ birth : Int, birth ≤ cutoff.val ↔
      CompletedYears years birth ((now / secondsPerDay : Nat) : Int)) ↔
      LeapDayExisted years ((now / secondsPerDay : Nat) : Int) := by
  have hday : now / secondsPerDay < 2 ^ 32 := by
    have hle := Nat.div_le_div_right (c := secondsPerDay) hnow
    exact Nat.lt_of_le_of_lt hle (by decide)
  rw [cutoff_eq hday hc, leapDayExisted_iff,
    ← Calendar.anniversaries_iff (place ((now / secondsPerDay : Nat) : Int)) years]
  constructor
  · intro h q
    have hq := h q.number
    unfold CompletedYears at hq
    rw [daysFromCivil_anniversary, number_place] at hq
    rw [place_number]
    exact hq
  · intro h birth
    have hq := h (place birth)
    rw [place_number, place_number] at hq
    unfold CompletedYears
    rw [daysFromCivil_anniversary]
    exact hq

theorem age_cutoff_iff_eighteen :
    ∃ cutoff, CreateChallenge.cutoffDays (19783 * secondsPerDay) 18 = .ok cutoff ∧
      ∀ birth : Int, birth ≤ cutoff.val ↔
        CompletedYears 18 birth ((19783 * secondsPerDay / secondsPerDay : Nat) : Int) :=
  ⟨⟨13208, by decide⟩, rfl,
    (age_cutoff_iff (19783 * secondsPerDay) 18 (by decide) ⟨13208, by decide⟩ rfl).mpr (by decide)⟩

/-- On 29 February 2024 the cutoff for 18 years lets in who was born on 1 March 2006. -/
theorem day_too_young :
    ∃ cutoff, CreateChallenge.cutoffDays (19782 * secondsPerDay) 18 = .ok cutoff ∧
      civilFromDays 19782 = ⟨2024, 2, 29⟩ ∧ civilFromDays 13208 = ⟨2006, 3, 1⟩ ∧
        13208 ≤ cutoff.val ∧ ¬ CompletedYears 18 13208 19782 :=
  ⟨⟨13208, by decide⟩, rfl, by decide, by decide, by decide, by decide⟩

end AgeCutoff

end ProviiVerifier

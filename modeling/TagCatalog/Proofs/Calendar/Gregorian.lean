import Mathlib.Algebra.BigOperators.Intervals
import Mathlib.Algebra.Order.BigOperators.Group.Finset
import Mathlib.Tactic.IntervalCases
import TagCatalog.Calendar

/-!
# The Gregorian calendar

The rules of the calendar say which years are leap years and how long the months are. Days are
numbered by counting: the days of the years from 1970 on, of the months of the year, and of the
month. The date of a day is worked out in eras of 400 years that begin in March; here it is shown
to be the date that the count gives.

* `Gregorian.IsLeap`, `Gregorian.monthDays`, `Gregorian.IsDate`: the rules;
* `Gregorian.dayNumber`: the number of a date by counting; `yearStart_eq`, `dayNumber_march`: counts
  without sums;
* `eraYearStart_yearOfEra_le`, `lt_eraYearStart`, `marchStart_le`, `lt_marchStart`: the year of a day
  in an era, and the month of a day in a year;
* **`Gregorian.dayNumber_dateOfDay`**: the date of a day is a date, and its number is the day;
* **`Gregorian.dayNumber_lt_iff`**: days are in the order of their dates.
-/

namespace TagCatalog.Gregorian

open CivilTime

/-! ## Rules -/

/-- A leap year: every fourth one, but of the full centuries only every fourth. -/
def IsLeap (year : Int) : Prop := 4 ∣ year ∧ (100 ∣ year → 400 ∣ year)

instance (year : Int) : Decidable (IsLeap year) := inferInstanceAs (Decidable (_ ∧ _))

/-- The days of a month. -/
def monthDays (year : Int) (month : Nat) : Nat :=
  match month with
  | 2 => if IsLeap year then 29 else 28
  | 4 | 6 | 9 | 11 => 30
  | _ => 31

/-- The month and the day occur in the year. -/
structure IsDate (year : Int) (month day : Nat) : Prop where
  one_le_month : 1 ≤ month
  month_le : month ≤ 12
  one_le_day : 1 ≤ day
  day_le : day ≤ monthDays year month

/-- The days of a year before a month. -/
def daysBefore (year : Int) (month : Nat) : Nat := ∑ m ∈ Finset.Ico 1 month, monthDays year m

/-- The days of a year. -/
def yearDays (year : Int) : Nat := daysBefore year 13

/-- The days of `n` years from a year on. -/
def daysOfYears (first : Int) (n : Nat) : Nat := ∑ i ∈ Finset.range n, yearDays (first + i)

/-- The days from the start of 1970 to the start of a year. -/
def yearStart (year : Int) : Int :=
  (daysOfYears 1970 (year - 1970).toNat : Int) - daysOfYears year (1970 - year).toNat

/-- The number of a date, counted from the first day of 1970. -/
def dayNumber (year : Int) (month day : Nat) : Int :=
  yearStart year + daysBefore year month + (day - 1 : Int)

variable {year year' : Int} {month month' day day' : Nat}

/-! ## Years -/

theorem yearDays_eq (year : Int) : yearDays year = if IsLeap year then 366 else 365 := by
  by_cases h : IsLeap year <;> simp [yearDays, daysBefore, Finset.sum_Ico_succ_top, monthDays, h]

theorem daysOfYears_add_one (first : Int) (n : Nat) :
    daysOfYears first (n + 1) = daysOfYears first n + yearDays (first + n) :=
  Finset.sum_range_succ _ n

theorem daysOfYears_add_one' (first : Int) (n : Nat) :
    daysOfYears first (n + 1) = daysOfYears (first + 1) n + yearDays first := by
  rw [daysOfYears, Finset.sum_range_succ', daysOfYears, Nat.cast_zero, Int.add_zero]
  refine congrArg (· + _) (Finset.sum_congr rfl fun i _ => congrArg yearDays ?_)
  rw [Nat.cast_succ]
  omega

theorem yearStart_add_one (year : Int) :
    yearStart (year + 1) = yearStart year + yearDays year := by
  unfold yearStart
  by_cases h : 1970 ≤ year
  · have hn : (year + 1 - 1970).toNat = (year - 1970).toNat + 1 := by omega
    have hyear : 1970 + ((year - 1970).toNat : Int) = year := by omega
    rw [hn, daysOfYears_add_one, hyear, show (1970 - (year + 1)).toNat = 0 by omega,
      show (1970 - year).toNat = 0 by omega]
    simp only [daysOfYears, Finset.sum_range_zero]
    omega
  · have hn : (1970 - year).toNat = (1970 - (year + 1)).toNat + 1 := by omega
    rw [hn, daysOfYears_add_one', show (year + 1 - 1970).toNat = 0 by omega,
      show (year - 1970).toNat = 0 by omega]
    simp only [daysOfYears, Finset.sum_range_zero]
    omega

/-- The leap years from the year 1 to the year before. -/
def leapsBefore (year : Int) : Int := (year - 1) / 4 - (year - 1) / 100 + (year - 1) / 400

theorem leapsBefore_add_one (year : Int) :
    leapsBefore (year + 1) = leapsBefore year + if IsLeap year then 1 else 0 := by
  unfold leapsBefore
  by_cases h : IsLeap year
  · rw [if_pos h]
    unfold IsLeap at h
    omega
  · rw [if_neg h]
    unfold IsLeap at h
    omega

theorem yearStart_eq (year : Int) :
    yearStart year = 365 * (year - 1970) + leapsBefore year - 477 := by
  have step : ∀ y, yearStart (y + 1) - (365 * (y + 1 - 1970) + leapsBefore (y + 1) - 477) =
      yearStart y - (365 * (y - 1970) + leapsBefore y - 477) := fun y => by
    rw [yearStart_add_one, leapsBefore_add_one, yearDays_eq]
    split <;> omega
  induction year using Int.inductionOn' (b := 1970) with
  | zero => rfl
  | succ y _ ih =>
    have := step y
    omega
  | pred y _ ih =>
    have := step (y - 1)
    rw [Int.sub_add_cancel] at this
    omega

/-! ## Years from March on -/

/-- The days from March to the month `i` months later, for the months from March to February. -/
def marchStart (i : Nat) : Nat := (153 * i + 2) / 5

theorem daysBefore_march (year : Int) {i : Nat} (h : i < 10) :
    daysBefore year (i + 3) = daysBefore year 3 + marchStart i := by
  interval_cases i <;>
    simp [daysBefore, Finset.sum_Ico_succ_top, monthDays, marchStart]

theorem monthDays_march (year : Int) {i : Nat} (h : i < 10) :
    monthDays year (i + 3) = marchStart (i + 1) - marchStart i := by
  interval_cases i <;> rfl

theorem daysBefore_winter (year : Int) {i : Nat} (h : i = 10 ∨ i = 11) :
    daysBefore year (i - 9) = marchStart i - marchStart 10 := by
  obtain rfl | rfl := h
  · rfl
  · rfl

theorem daysBefore_three (year : Int) :
    daysBefore year 3 = 31 + monthDays year 2 := by
  simp [daysBefore, Finset.sum_Ico_succ_top, monthDays]

/-- March begins a year of its own, in which the leap day comes last. -/
theorem dayNumber_march (year : Int) :
    dayNumber year 3 1 = 365 * year + (year / 4 - year / 100 + year / 400) - epochDay := by
  have hstart := yearStart_add_one year
  rw [yearStart_eq (year + 1), yearDays_eq, leapsBefore, Int.add_sub_cancel] at hstart
  rw [dayNumber, daysBefore_three, monthDays, epochDay]
  by_cases h : IsLeap year
  · rw [if_pos h] at hstart ⊢
    omega
  · rw [if_neg h] at hstart ⊢
    omega

theorem yearStart_add_one_eq_march (year : Int) :
    yearStart (year + 1) = dayNumber year 3 1 + marchStart 10 := by
  rw [yearStart_add_one, yearDays_eq, dayNumber, daysBefore_three, monthDays, marchStart]
  split <;> omega

theorem dayNumber_march_add_one (year : Int) : dayNumber (year + 1) 3 1 =
    dayNumber year 3 1 + marchStart 11 + monthDays (year + 1) 2 := by
  rw [dayNumber, daysBefore_three, yearStart_add_one_eq_march, marchStart, marchStart]
  omega

theorem marchStart_le (n : Nat) : marchStart ((5 * n + 2) / 153) ≤ n := by
  unfold marchStart
  omega

theorem lt_marchStart (n : Nat) : n < marchStart ((5 * n + 2) / 153 + 1) := by
  unfold marchStart
  omega

/-! ## Eras -/

/-- The days of an era before its year `k`. -/
def eraYearStart (k : Nat) : Nat := 365 * k + k / 4 - k / 100 + k / 400

/-- The year of a day in an era. -/
def yearOfEra (n : Nat) : Nat := (n - n / 1460 + n / 36524 - n / 146096) / 365

theorem yearOfEra_mono : Monotone yearOfEra := by
  refine monotone_nat_of_le_succ fun n => Nat.div_le_div_right ?_
  have hera : ∀ m, m / 146096 = m / 36524 / 4 := fun m =>
    (Nat.div_div_eq_div_mul m 36524 4).symm
  -- a day never closes a year of four twice, and a century only where it closes one of these
  have hfour : n - n / 1460 ≤ n + 1 - (n + 1) / 1460 := by omega
  have hcentury : n / 36524 ≤ (n + 1) / 36524 := Nat.div_le_div_right n.le_succ
  rw [hera n, hera (n + 1)]
  generalize n / 36524 = c at *
  generalize (n + 1) / 36524 = c' at *
  omega

theorem yearOfEra_eraYearStart : ∀ k < 400,
    yearOfEra (eraYearStart k) = k ∧ yearOfEra (eraYearStart (k + 1) - 1) = k := by
  decide +kernel

variable {n : Nat}

theorem yearOfEra_lt (h : n < 146097) : yearOfEra n < 400 := by
  have hlast := yearOfEra_mono (Nat.le_sub_one_of_lt h)
  have : yearOfEra (146097 - 1) = 399 := (yearOfEra_eraYearStart 399 (by decide)).2
  omega

theorem eraYearStart_yearOfEra_le (h : n < 146097) : eraYearStart (yearOfEra n) ≤ n := by
  by_contra hlt
  have hk := yearOfEra_lt h
  generalize hyear : yearOfEra n = k at *
  obtain _ | k := k
  · exact hlt (Nat.zero_le n)
  · have hmono := yearOfEra_mono (Nat.le_sub_one_of_lt (Nat.lt_of_not_le hlt))
    have hbefore := (yearOfEra_eraYearStart k (by omega)).2
    omega

theorem lt_eraYearStart (h : n < 146097) : n < eraYearStart (yearOfEra n + 1) := by
  by_contra hle
  have hk := yearOfEra_lt h
  generalize hyear : yearOfEra n = k at *
  obtain hlast | hnext : k = 399 ∨ k + 1 < 400 := by omega
  · subst hlast
    exact hle h
  · have hmono := yearOfEra_mono (Nat.le_of_not_lt hle)
    have hnext := (yearOfEra_eraYearStart (k + 1) hnext).1
    omega

theorem dayNumber_march_era (era : Int) {k : Nat} (h : k ≤ 400) :
    dayNumber (era * 400 + k) 3 1 = era * eraDays + eraYearStart k - epochDay := by
  rw [dayNumber_march, eraYearStart, eraDays]
  omega

/-! ## The date of a day -/

/-- The date of a day in a March year. -/
def marchDate (year : Int) (n : Nat) : Int × Nat × Nat :=
  let i := (5 * n + 2) / 153
  let month := if i < 10 then i + 3 else i - 9
  (year + (if month ≤ 2 then 1 else 0), month, n - marchStart i + 1)

theorem exists_era (days : Int) : ∃ (era : Int) (n : Nat),
    (days + epochDay).fdiv eraDays = era ∧ ((days + epochDay).fmod eraDays).toNat = n ∧
      n < 146097 ∧ days = era * eraDays + n - epochDay := by
  rw [Int.fdiv_eq_ediv_of_nonneg _ (show 0 ≤ eraDays by decide),
    Int.fmod_eq_emod_of_nonneg _ (show 0 ≤ eraDays by decide)]
  refine ⟨_, _, rfl, rfl, ?_, ?_⟩ <;> unfold eraDays <;> omega

theorem exists_dateOfDay_eq (days : Int) : ∃ (year : Int) (n : Nat),
    dateOfDay days = marchDate year n ∧ days = dayNumber year 3 1 + n ∧
      days < dayNumber (year + 1) 3 1 := by
  obtain ⟨era, n, hera, hn, hlt, hdays⟩ := exists_era days
  have hyear := yearOfEra_lt hlt
  have hbegun := eraYearStart_yearOfEra_le hlt
  have hended := lt_eraYearStart hlt
  have hstart : eraYearStart (yearOfEra n) =
      365 * yearOfEra n + yearOfEra n / 4 - yearOfEra n / 100 := by
    rw [eraYearStart]
    omega
  have hnow := dayNumber_march_era era hyear.le
  have hnext := dayNumber_march_era era (show yearOfEra n + 1 ≤ 400 by omega)
  rw [Nat.cast_add_one, ← Int.add_assoc] at hnext
  refine ⟨era * 400 + yearOfEra n, n - eraYearStart (yearOfEra n), ?_, ?_, ?_⟩
  · rw [dateOfDay, hera, hn, marchDate, hstart]
    rfl
  · omega
  · omega

/-- A date in a March year. January and February belong to the next year of the calendar. -/
theorem isDate_marchDate {n : Nat} (h : n < marchStart 11 + monthDays (year + 1) 2) :
    let date := marchDate year n
    IsDate date.1 date.2.1 date.2.2 ∧
      dayNumber date.1 date.2.1 date.2.2 = dayNumber year 3 1 + n := by
  have hbegun := marchStart_le n
  have hended := lt_marchStart n
  have hfebruary : monthDays (year + 1) 2 ≤ 29 := by
    rw [monthDays]
    split <;> omega
  have hi : (5 * n + 2) / 153 ≤ 11 := by
    rw [marchStart] at h
    omega
  simp only [marchDate]
  generalize (5 * n + 2) / 153 = i at *
  obtain hspring | hwinter : i < 10 ∨ i = 10 ∨ i = 11 := by omega
  · have hmonth := monthDays_march year hspring
    have hbefore := daysBefore_march year hspring
    rw [if_pos hspring, if_neg (show ¬ i + 3 ≤ 2 by omega), Int.add_zero]
    refine ⟨⟨by omega, by omega, by omega, by omega⟩, ?_⟩
    rw [dayNumber, dayNumber, hbefore]
    omega
  · have hbefore := daysBefore_winter (year + 1) hwinter
    have hstart := yearStart_add_one_eq_march year
    have hmono : marchStart 10 ≤ marchStart i := by
      obtain rfl | rfl := hwinter <;> decide
    have hlength : n - marchStart i + 1 ≤ monthDays (year + 1) (i - 9) := by
      obtain rfl | rfl := hwinter
      · have hjanuary : marchStart (10 + 1) - marchStart 10 = monthDays (year + 1) (10 - 9) := rfl
        omega
      · rw [show 11 - 9 = 2 from rfl]
        omega
    rw [if_neg (show ¬ i < 10 by omega), if_pos (show i - 9 ≤ 2 by omega)]
    refine ⟨⟨by omega, by omega, by omega, hlength⟩, ?_⟩
    rw [dayNumber, hbefore, hstart]
    omega

/-- **The date of a day** is a date of the calendar, and its number is the day. -/
theorem dayNumber_dateOfDay (days : Int) :
    let date := dateOfDay days
    IsDate date.1 date.2.1 date.2.2 ∧ dayNumber date.1 date.2.1 date.2.2 = days := by
  obtain ⟨year, n, hdate, hdays, hlast⟩ := exists_dateOfDay_eq days
  rw [dayNumber_march_add_one] at hlast
  rw [hdate, hdays]
  exact isDate_marchDate (by omega)

/-! ## The order of dates -/

theorem yearStart_le (h : year ≤ year') : yearStart year ≤ yearStart year' := by
  induction year', h using Int.leInduction with
  | base => exact Int.le_refl _
  | succ y _ ih =>
    rw [yearStart_add_one]
    omega

theorem daysBefore_mono (year : Int) : Monotone (daysBefore year) := fun _ _ h =>
  Finset.sum_le_sum_of_subset (Finset.Ico_subset_Ico_right h)

theorem daysBefore_add_one (year : Int) (h : 1 ≤ month) :
    daysBefore year (month + 1) = daysBefore year month + monthDays year month :=
  Finset.sum_Ico_succ_top h _

theorem IsDate.dayNumber_lt (h : IsDate year month day) :
    dayNumber year month day < yearStart year + daysBefore year (month + 1) := by
  have hmonth := daysBefore_add_one year h.one_le_month
  have hday := h.day_le
  rw [dayNumber, hmonth]
  omega

theorem IsDate.le_dayNumber (h : IsDate year month day) :
    yearStart year + daysBefore year month ≤ dayNumber year month day := by
  have hday := h.one_le_day
  rw [dayNumber]
  omega

theorem dayNumber_lt_of_month (h : IsDate year month day) (h' : IsDate year month' day')
    (hlt : month < month') : dayNumber year month day < dayNumber year month' day' := by
  have hmono : daysBefore year (month + 1) ≤ daysBefore year month' := daysBefore_mono year hlt
  have hbefore := h.dayNumber_lt
  have hafter := h'.le_dayNumber
  omega

theorem dayNumber_lt_of_year (h : IsDate year month day) (h' : IsDate year' month' day')
    (hlt : year < year') : dayNumber year month day < dayNumber year' month' day' := by
  have hyears := yearStart_le (Int.add_one_le_of_lt hlt)
  have hmonths : daysBefore year (month + 1) ≤ yearDays year :=
    daysBefore_mono year (Nat.succ_le_succ h.month_le)
  have hbefore := h.dayNumber_lt
  have hafter := h'.le_dayNumber
  rw [yearStart_add_one] at hyears
  omega

theorem dayNumber_lt_of_lex (h : IsDate year month day) (h' : IsDate year' month' day')
    (hlt : year < year' ∨ year = year' ∧ (month < month' ∨ month = month' ∧ day < day')) :
    dayNumber year month day < dayNumber year' month' day' := by
  obtain hyear | ⟨rfl, hmonth | ⟨rfl, hday⟩⟩ := hlt
  · exact dayNumber_lt_of_year h h' hyear
  · exact dayNumber_lt_of_month h h' hmonth
  · rw [dayNumber, dayNumber]
    omega

/-- **Days are in the order of their dates**, and one day has one date. -/
theorem dayNumber_lt_iff (h : IsDate year month day) (h' : IsDate year' month' day') :
    dayNumber year month day < dayNumber year' month' day' ↔
      year < year' ∨ year = year' ∧ (month < month' ∨ month = month' ∧ day < day') := by
  refine ⟨fun hlt => ?_, dayNumber_lt_of_lex h h'⟩
  by_contra hnot
  by_cases heq : year = year' ∧ month = month' ∧ day = day'
  · obtain ⟨rfl, rfl, rfl⟩ := heq
    exact Int.lt_irrefl _ hlt
  · have hgt := dayNumber_lt_of_lex h' h (by omega)
    exact Int.lt_asymm hlt hgt

theorem dayNumber_eq_iff (h : IsDate year month day) (h' : IsDate year' month' day') :
    dayNumber year month day = dayNumber year' month' day' ↔
      year = year' ∧ month = month' ∧ day = day' := by
  have hlt := dayNumber_lt_iff h h'
  have hgt := dayNumber_lt_iff h' h
  omega

end TagCatalog.Gregorian

import TagCatalog.Proofs.Calendar.Gregorian

/-!
# Dates with a time of day

A count of Unix seconds and its UTC date and time say the same: the seconds are counted back from the
date, and a later count has a later date, in the order of the calendar.

* `CivilTime.Valid`, `CivilTime.unixSeconds`: a date with a time of day, and its seconds by counting;
* **`CivilTime.unixSeconds_ofSeconds`**: the date of a count of seconds, counted back;
* **`CivilTime.fields_lt_iff`**, `CivilTime.fields_eq_iff`: the order of dates.
-/

namespace TagCatalog.CivilTime

open Gregorian

/-- A date of the calendar and a time of its day. -/
structure Valid (t : CivilTime) : Prop where
  date : IsDate t.year t.month t.day
  hour_lt : t.hour < 24
  minute_lt : t.minute < 60
  second_lt : t.second < 60

/-- The seconds of a date and time, counted from the start of 1970. -/
def unixSeconds (t : CivilTime) : Int :=
  86400 * dayNumber t.year t.month t.day + 3600 * t.hour + 60 * t.minute + t.second

/-- The numbers of a date and time, the greatest unit first. -/
def fields (t : CivilTime) : List Int := [t.year, t.month, t.day, t.hour, t.minute, t.second]

variable {t u : CivilTime}

theorem exists_day (secs : Int) : ∃ (days : Int) (rest : Nat),
    secs.fdiv 86400 = days ∧ (secs.fmod 86400).toNat = rest ∧ rest < 86400 ∧
      secs = 86400 * days + rest := by
  rw [Int.fdiv_eq_ediv_of_nonneg _ (by decide), Int.fmod_eq_emod_of_nonneg _ (by decide)]
  exact ⟨_, _, rfl, rfl, by omega, by omega⟩

/-- **The date of a count of seconds** is one of the calendar, and counted back it gives the
seconds. -/
theorem unixSeconds_ofSeconds (secs : Int) :
    (ofSeconds secs).Valid ∧ (ofSeconds secs).unixSeconds = secs := by
  obtain ⟨days, rest, hdays, hrest, hlt, hsecs⟩ := exists_day secs
  obtain ⟨hdate, hnumber⟩ := dayNumber_dateOfDay days
  simp only [ofSeconds, hdays, hrest]
  refine ⟨⟨hdate, ?_, ?_, ?_⟩, ?_⟩
  · dsimp only
    omega
  · dsimp only
    omega
  · dsimp only
    omega
  · simp only [unixSeconds, hnumber]
    omega

/-- The first and the last date that is shown. -/
example : (ofSeconds? firstSecond, ofSeconds? lastSecond) =
    (some ⟨-262143, 1, 1, 0, 0, 0⟩, some ⟨262142, 12, 31, 23, 59, 59⟩) := by decide

/-- Dates are in the order of their seconds. -/
theorem fields_lt_iff (ht : t.Valid) (hu : u.Valid) :
    t.fields < u.fields ↔ t.unixSeconds < u.unixSeconds := by
  have hlt := dayNumber_lt_iff ht.date hu.date
  have heq := dayNumber_eq_iff ht.date hu.date
  obtain ⟨-, hhour, hminute, hsecond⟩ := ht
  obtain ⟨-, hhour', hminute', hsecond'⟩ := hu
  simp only [fields, List.cons_lt_cons_iff, unixSeconds, List.not_lt_nil, and_false, or_false,
    Int.ofNat_lt, Int.ofNat_inj]
  omega

theorem fields_le_iff (ht : t.Valid) (hu : u.Valid) :
    t.fields ≤ u.fields ↔ t.unixSeconds ≤ u.unixSeconds := by
  have hnot : ¬ u.fields < t.fields ↔ t.fields ≤ u.fields := not_lt
  rw [← hnot, fields_lt_iff hu ht, Int.not_lt]

/-- Dates are equal if their seconds are. -/
theorem fields_eq_iff (ht : t.Valid) (hu : u.Valid) :
    t.fields = u.fields ↔ t.unixSeconds = u.unixSeconds := by
  rw [le_antisymm_iff, fields_le_iff ht hu, fields_le_iff hu ht, le_antisymm_iff]

end TagCatalog.CivilTime

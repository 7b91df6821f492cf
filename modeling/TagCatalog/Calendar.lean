import TagCatalog.Text.Numeral

/-!
# Civil dates

The UTC date and time of a count of Unix seconds in the proleptic Gregorian calendar, with
astronomical year numbers. The calendar repeats every 400 years, that is every 146097 days; inside
such an era the years are counted from the first of March, so that a leap day is the last day of its
year.

* `CivilTime`, `CivilTime.ofSeconds`;
* `CivilTime.ofSeconds?`: the date of a count in the range `firstSecond .. lastSecond` that a date
  is shown for;
* `CivilTime.text`: the date as an RFC 3339 text.
-/

namespace TagCatalog

/-- A date and a time of day. -/
structure CivilTime where
  year : Int
  month : Nat
  day : Nat
  hour : Nat
  minute : Nat
  second : Nat
  deriving DecidableEq, Repr

namespace CivilTime

/-- Days from 1970-01-01 back to 0000-03-01, where the first era begins. -/
def epochDay : Int := 719468

/-- Days in an era of 400 years. -/
def eraDays : Int := 146097

/-- The year, month and day of a count of days since 1970-01-01. -/
def dateOfDay (days : Int) : Int × Nat × Nat :=
  let shifted := days + epochDay
  let era := shifted.fdiv eraDays
  let dayOfEra := (shifted.fmod eraDays).toNat
  let yearOfEra := (dayOfEra - dayOfEra / 1460 + dayOfEra / 36524 - dayOfEra / 146096) / 365
  let dayOfYear := dayOfEra - (365 * yearOfEra + yearOfEra / 4 - yearOfEra / 100)
  let monthIndex := (5 * dayOfYear + 2) / 153
  let day := dayOfYear - (153 * monthIndex + 2) / 5 + 1
  let month := if monthIndex < 10 then monthIndex + 3 else monthIndex - 9
  let year := era * 400 + yearOfEra + (if month ≤ 2 then 1 else 0)
  (year, month, day)

/-- The UTC date and time of a count of Unix seconds. -/
def ofSeconds (secs : Int) : CivilTime :=
  let (year, month, day) := dateOfDay (secs.fdiv 86400)
  let rest := (secs.fmod 86400).toNat
  ⟨year, month, day, rest / 3600, rest / 60 % 60, rest % 60⟩

/-- The first second a date is shown for. -/
def firstSecond : Int := -8334601228800

/-- The last second a date is shown for. -/
def lastSecond : Int := 8210266876799

/-- The date of a count of seconds, when it lies in the range dates are shown for. -/
def ofSeconds? (secs : Int) : Option CivilTime :=
  if firstSecond ≤ secs ∧ secs ≤ lastSecond then some (ofSeconds secs) else none

/-- A year: four digits from 0 to 9999, otherwise a sign and at least four digits. -/
def yearText (year : Int) : List Char :=
  if year < 0 then '-' :: Text.padded 4 year.natAbs
  else if year ≤ 9999 then Text.padded 4 year.natAbs
  else '+' :: Text.padded 4 year.natAbs

/-- The RFC 3339 text of a UTC date and time. -/
def text (t : CivilTime) : String :=
  String.ofList <| yearText t.year ++ '-' :: Text.padded 2 t.month ++ '-' :: Text.padded 2 t.day ++
    'T' :: Text.padded 2 t.hour ++ ':' :: Text.padded 2 t.minute ++ ':' :: Text.padded 2 t.second ++
    "+00:00".toList

end CivilTime

end TagCatalog

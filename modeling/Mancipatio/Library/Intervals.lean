import Mathlib

/-!
# Intervals of a PostgreSQL database

An interval counts months, days and microseconds apart. A timestamp is a number of microseconds since 1970 in
UTC, the time zone of the session.
-/

namespace Intervals

inductive Interval where
  | finite (months days micros : Int)
  | infinity
  deriving DecidableEq, Repr

def dayMicros : Int := 86400000000

/-! ## The calendar -/

structure Civil where
  year : Int
  month : Int
  day : Int
  deriving DecidableEq, Repr

def leapYear (year : Int) : Bool :=
  decide (year % 4 = 0 ∧ (year % 100 ≠ 0 ∨ year % 400 = 0))

def daysInMonth (year month : Int) : Int :=
  if month = 2 then
    if leapYear year = true then 29 else 28
  else if month = 4 ∨ month = 6 ∨ month = 9 ∨ month = 11 then 30
  else 31

/-- Days since 1970; years are counted from March, so that a leap day ends its year. -/
def dayNumber (date : Civil) : Int :=
  let year := if date.month ≤ 2 then date.year - 1 else date.year
  let month := if date.month ≤ 2 then date.month + 9 else date.month - 3
  365 * year + year / 4 - year / 100 + year / 400 + (153 * month + 2) / 5 + date.day - 1 - 719468

def civil (day : Int) : Civil :=
  let shifted := day + 719468
  let era := shifted / 146097
  let dayOfEra := shifted % 146097
  let yearOfEra := (dayOfEra - dayOfEra / 1460 + dayOfEra / 36524 - dayOfEra / 146096) / 365
  let dayOfYear := dayOfEra - (365 * yearOfEra + yearOfEra / 4 - yearOfEra / 100)
  let month := (5 * dayOfYear + 2) / 153
  { year := yearOfEra + 400 * era + if month < 10 then 0 else 1
    month := if month < 10 then month + 3 else month - 9
    day := dayOfYear - (153 * month + 2) / 5 + 1 }

def Civil.minusMonths (date : Civil) (months : Int) : Civil :=
  let counted := 12 * date.year + (date.month - 1) - months
  { year := counted / 12
    month := counted % 12 + 1
    day := min date.day (daysInMonth (counted / 12) (counted % 12 + 1)) }

example : civil (dayNumber ⟨2024, 2, 29⟩) = ⟨2024, 2, 29⟩ ∧ (Civil.mk 2026 3 31).minusMonths 1 = ⟨2026, 2, 28⟩ := by decide +kernel

/-! ## Subtraction -/

def minTimestamp : Int := -210866803200000000
def endTimestamp : Int := 9224318016000000000

def inRange (time : Int) : Option Int :=
  if minTimestamp ≤ time ∧ time < endTimestamp then some time else none

def minusMonths (time months : Int) : Option Int :=
  if months = 0 then some time
  else inRange (dayMicros * dayNumber ((civil (time / dayMicros)).minusMonths months) + time % dayMicros)

def minusDays (time days : Int) : Option Int :=
  if days = 0 then some time else inRange (time - dayMicros * days)

inductive Cutoff where
  | minusInfinity
  | finite (time : Int)
  deriving DecidableEq, Repr

def Cutoff.after : Cutoff → Int → Bool
  | .minusInfinity, _ => false
  | .finite cutoff, time => decide (time < cutoff)

/-- The database refuses a result outside its range; an infinite interval leads to minus infinity. -/
def subtract (time : Int) : Interval → Option Cutoff
  | .infinity => some .minusInfinity
  | .finite months days micros => do
      let time ← minusMonths time months
      let time ← minusDays time days
      let time ← inRange (time - micros)
      return .finite time

/-! ## Text -/

def twoDigits (n : Nat) : List Char :=
  [Nat.digitChar (n / 10 % 10), Nat.digitChar (n % 10)]

def sixDigits (n : Nat) : List Char :=
  twoDigits (n / 10000) ++ twoDigits (n / 100) ++ twoDigits n

def signed (value : Int) (before : Bool) : List Char :=
  (if value < 0 then ['-'] else if before = true ∧ 0 < value then ['+'] else []) ++ Nat.toDigits 10 value.natAbs

/-- A field and its unit; a zero field is left out. -/
def fieldWords (value : Int) (unit : String) (before : Bool) : List (List Char) :=
  if value = 0 then []
  else [signed value before, unit.toList ++ if value = 1 then [] else ['s']]

def isBefore (value : Int) (before : Bool) : Bool :=
  if value = 0 then before else decide (value < 0)

def fractionText (micros : Nat) : List Char :=
  if micros = 0 then []
  else '.' :: (sixDigits micros).rdropWhile (· = '0')

def hoursText (hours : Nat) : List Char :=
  if hours < 10 then '0' :: Nat.toDigits 10 hours else Nat.toDigits 10 hours

def clockText (micros : Nat) : List Char :=
  hoursText (micros / 3600000000) ++ ':' :: twoDigits (micros / 60000000 % 60) ++
    ':' :: twoDigits (micros / 1000000 % 60) ++ fractionText (micros % 1000000)

def clockWord (micros : Int) (before : Bool) : List Char :=
  (if micros < 0 then ['-'] else if before = true then ['+'] else []) ++ clockText micros.natAbs

def words : Interval → List (List Char)
  | .infinity => ["infinity".toList]
  | .finite months days micros =>
      let years := months.tdiv 12
      let months := months.tmod 12
      fieldWords years "year" false ++ fieldWords months "mon" (isBefore years false) ++
        fieldWords days "day" (isBefore months (isBefore years false)) ++
        if (years = 0 ∧ months = 0 ∧ days = 0) ∨ micros ≠ 0 then
          [clockWord micros (isBefore days (isBefore months (isBefore years false)))]
        else []

def text (interval : Interval) : String :=
  String.ofList ([' '].intercalate (words interval))

example : text (.finite (-13) 2 (-1500000)) = "-1 years -1 mons +2 days -00:00:01.5" := by decide +kernel

end Intervals

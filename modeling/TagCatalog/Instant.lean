/-!
Instants of universal time, to the nanosecond.

A `Date` is a day of the Gregorian calendar, reckoned forwards and backwards
without a break, and an `Instant` is a second of such a day with a fraction.
The fraction of a leap second runs on from one to two seconds, which is
possible only in the last second of a minute.  `ofOffset?` moves a local time
to universal time by the difference of its clock; a difference is less than a
day, so it changes the date by at most one day.  Clocks give instants as a count of
nanoseconds since the start of the year 1970 (`ofNanoseconds?`).
-/

namespace TagCatalog

def isLeapYear (year : Int) : Bool :=
  year % 4 == 0 && (year % 100 != 0 || year % 400 == 0)

def daysIn (year : Int) (month : Nat) : Nat :=
  match month with
  | 2 => if isLeapYear year then 29 else 28
  | 4 | 6 | 9 | 11 => 30
  | _ => 31

/-- The years that a date can have. -/
def isCalendarYear (year : Int) : Prop :=
  -262143 ≤ year ∧ year ≤ 262142

instance (year : Int) : Decidable (isCalendarYear year) :=
  inferInstanceAs (Decidable (_ ∧ _))

structure Date where
  year : Int
  month : Nat
  day : Nat
  year_valid : isCalendarYear year
  month_valid : 1 ≤ month ∧ month ≤ 12
  day_valid : 1 ≤ day ∧ day ≤ daysIn year month
deriving DecidableEq

namespace Date

def of? (year : Int) (month day : Nat) : Option Date :=
  if valid : isCalendarYear year ∧ (1 ≤ month ∧ month ≤ 12) ∧
      (1 ≤ day ∧ day ≤ daysIn year month) then
    some ⟨year, month, day, valid.1, valid.2.1, valid.2.2⟩
  else
    none

/-- The day after; the last day of the calendar has none. -/
def next? (date : Date) : Option Date :=
  if date.day < daysIn date.year date.month then
    of? date.year date.month (date.day + 1)
  else if date.month < 12 then
    of? date.year (date.month + 1) 1
  else
    of? (date.year + 1) 1 1

/-- The day before; the first day of the calendar has none. -/
def previous? (date : Date) : Option Date :=
  if 1 < date.day then
    of? date.year date.month (date.day - 1)
  else if 1 < date.month then
    of? date.year (date.month - 1) (daysIn date.year (date.month - 1))
  else
    of? (date.year - 1) 12 31

@[simp]
theorem of?_self (date : Date) : of? date.year date.month date.day = some date := by
  rw [of?, dif_pos ⟨date.year_valid, date.month_valid, date.day_valid⟩]

end Date

def nanosecondsPerSecond : Nat := 1000000000

def secondsPerDay : Nat := 86400

/-- A point in universal time: a day, a second of it, and the nanoseconds since
that second began. -/
structure Instant where
  date : Date
  second : Nat
  nanosecond : Nat
  second_lt : second < secondsPerDay
  nanosecond_lt : nanosecond < 2 * nanosecondsPerSecond
  leap_second : nanosecondsPerSecond ≤ nanosecond → second % 60 = 59
deriving DecidableEq

namespace Instant

def of? (date : Date) (second nanosecond : Nat) : Option Instant :=
  if valid : second < secondsPerDay ∧ nanosecond < 2 * nanosecondsPerSecond ∧
      (nanosecondsPerSecond ≤ nanosecond → second % 60 = 59) then
    some ⟨date, second, nanosecond, valid.1, valid.2.1, valid.2.2⟩
  else
    none

@[simp]
theorem of?_self (instant : Instant) :
    of? instant.date instant.second instant.nanosecond = some instant := by
  rw [of?, dif_pos ⟨instant.second_lt, instant.nanosecond_lt, instant.leap_second⟩]

/-- The instant at which a clock that is `offset` seconds ahead of universal
time shows the given second of the given day. -/
def ofOffset? (date : Date) (second nanosecond : Nat) (offset : Int) : Option Instant :=
  let shifted : Int := second - offset
  if shifted < 0 then
    date.previous?.bind fun day => of? day (shifted + secondsPerDay).toNat nanosecond
  else if shifted < secondsPerDay then
    of? date shifted.toNat nanosecond
  else
    date.next?.bind fun day => of? day (shifted - secondsPerDay).toNat nanosecond

theorem ofOffset?_zero (instant : Instant) :
    ofOffset? instant.date instant.second instant.nanosecond 0 = some instant := by
  have inDay : (instant.second : Int) < secondsPerDay := by exact_mod_cast instant.second_lt
  have notBefore : ¬ (instant.second : Int) - 0 < 0 := by omega
  have notAfter : (instant.second : Int) - 0 < secondsPerDay := by omega
  simp only [ofOffset?, if_neg notBefore, if_pos notAfter]
  simp

end Instant

namespace Date

def epoch : Date := ⟨1970, 1, 1, by decide, by decide, by decide⟩

def after? (date : Date) : Nat → Option Date
  | 0 => some date
  | days + 1 =>
      match date.next? with
      | some next => next.after? days
      | none => none

end Date

namespace Instant

def ofNanoseconds? (count : Nat) : Option Instant :=
  let seconds := count / nanosecondsPerSecond
  (Date.epoch.after? (seconds / secondsPerDay)).bind fun date =>
    of? date (seconds % secondsPerDay) (count % nanosecondsPerSecond)

def epoch : Instant := ⟨Date.epoch, 0, 0, by decide, by decide, by decide⟩

end Instant

end TagCatalog

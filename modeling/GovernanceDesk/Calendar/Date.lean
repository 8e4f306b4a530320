/-!
# Dates of the Gregorian calendar

A date is a year, a month and a day that name a real day of the proleptic Gregorian calendar within
the years the desk can hold. The bounds are part of the type, so every date has a text and every
day has a place in its year.

* `Date.ofYmd?`: the date a year, month and day name, if they name one.
* `Date.ordinal`: the place of a day in its year, from 1.
* `Date.addMonths?`: the same day some months on, the last of the month where the month is too short.
* `Date.monthsIn`: years in months, as far as a word of thirty-two bits can count them.
* `Date.next?`, `Date.previous?`: the neighbouring days.
-/

namespace GovernanceDesk
set_option autoImplicit false

/-! ## Years and months -/

def isLeapYear (year : Int) : Bool :=
  year % 4 == 0 && (year % 100 != 0 || year % 400 == 0)

def daysInMonth (year : Int) (month : Nat) : Nat :=
  match month with
  | 1 | 3 | 5 | 7 | 8 | 10 | 12 => 31
  | 4 | 6 | 9 | 11 => 30
  | 2 => if isLeapYear year then 29 else 28
  | _ => 0

def firstYear : Int := -262143

def lastYear : Int := 262142

/-- Whether a year, a month and a day name a day that can be held. -/
def isCalendarDay (year : Int) (month day : Nat) : Bool :=
  firstYear ≤ year && year ≤ lastYear && 1 ≤ day && day ≤ daysInMonth year month

/-! ## Dates -/

structure Date where
  year : Int
  month : Nat
  day : Nat
  isDay : isCalendarDay year month day = true
deriving DecidableEq

namespace Date

def ofYmd? (year : Int) (month day : Nat) : Option Date :=
  if h : isCalendarDay year month day = true then some ⟨year, month, day, h⟩ else none

/-- The place of the day in its year, from 1. -/
def ordinal (d : Date) : Nat :=
  (List.range (d.month - 1)).foldl (fun days m => days + daysInMonth d.year (m + 1)) d.day

/-! ## Order -/

/-- Earlier by year, then by month, then by day. -/
def before (a b : Date) : Bool :=
  a.year < b.year ||
    (a.year == b.year && (a.month < b.month || (a.month == b.month && a.day < b.day)))

instance : LT Date := ⟨fun a b => a.before b = true⟩

instance : LE Date := ⟨fun a b => b.before a = false⟩

instance (a b : Date) : Decidable (a < b) := inferInstanceAs (Decidable (a.before b = true))

instance (a b : Date) : Decidable (a ≤ b) := inferInstanceAs (Decidable (b.before a = false))

def earlier (a b : Date) : Date :=
  if b < a then b else a

/-! ## Moving -/

/-- The day with a given year and month, moved back to the end of the month if it has passed it. -/
def clamped? (year : Int) (month day : Nat) : Option Date :=
  ofYmd? year month (min day (daysInMonth year month))

/-- The largest number of months a signed word of thirty-two bits can hold. -/
def mostMonths : Int := 2147483647

/-- The same day some months on. Months are counted from the start of year 0, and neither the months
added nor the sum may pass what a signed word holds. -/
def addMonths? (d : Date) (months : UInt32) : Option Date :=
  let count : Int := d.year * 12 + (d.month - 1) + months.toNat
  if months.toNat ≤ mostMonths ∧ count ≤ mostMonths then
    clamped? (count / 12) ((count % 12).toNat + 1) d.day
  else none

/-- Years in months; where a word cannot hold that many, the largest word. -/
def monthsIn (years : UInt32) : UInt32 :=
  .ofNat (min (years.toNat * 12) (UInt32.size - 1))

def next? (d : Date) : Option Date :=
  if d.day < daysInMonth d.year d.month then ofYmd? d.year d.month (d.day + 1)
  else if d.month < 12 then ofYmd? d.year (d.month + 1) 1
  else ofYmd? (d.year + 1) 1 1

def previous? (d : Date) : Option Date :=
  if 1 < d.day then ofYmd? d.year d.month (d.day - 1)
  else if 1 < d.month then ofYmd? d.year (d.month - 1) (daysInMonth d.year (d.month - 1))
  else ofYmd? (d.year - 1) 12 31

end Date

end GovernanceDesk

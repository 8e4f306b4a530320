import GovernanceDesk.Calendar.DateText
import GovernanceDesk.Tree.Coded

/-!
# Instants

A moment of universal time: a date, a second of that day and a fraction in nanoseconds. A fraction
of a full second or more stands for the leap second that ends a minute, after its fifty-ninth
second. The bounds are part of the type, so every moment has a text that names it alone.

* `Instant.ofRecord?`: a moment in a record, with its offset from universal time taken off.
* `Instant.text`: the written form, with as few of 0, 3, 6 or 9 decimals as represent it.
* `Instant.nextSecond`: the moment one second later.
-/

namespace GovernanceDesk
set_option autoImplicit false

def secondsInDay : Nat := 86400

def nanosInSecond : Nat := 1000000000

/-- Whether a second and a fraction stand for a time of day, the leap second included. -/
def isTimeOfDay (second nano : Nat) : Bool :=
  second < secondsInDay && nano < 2 * nanosInSecond &&
    (nano < nanosInSecond || second % 60 == 59)

structure Instant where
  date : Date
  second : Nat
  nano : Nat
  isTime : isTimeOfDay second nano = true
deriving DecidableEq

namespace Instant
open Text

/-! ## Order -/

def before (a b : Instant) : Bool :=
  decide (a.date < b.date) ||
    (a.date == b.date &&
      (a.second < b.second || (a.second == b.second && a.nano < b.nano)))

instance : LT Instant := ⟨fun a b => a.before b = true⟩

instance : LE Instant := ⟨fun a b => b.before a = false⟩

instance (a b : Instant) : Decidable (a < b) := inferInstanceAs (Decidable (a.before b = true))

instance (a b : Instant) : Decidable (a ≤ b) := inferInstanceAs (Decidable (b.before a = false))

/-! ## Moving -/

def at? (date : Date) (second nano : Nat) : Option Instant :=
  if h : isTimeOfDay second nano = true then some ⟨date, second, nano, h⟩ else none

/-- A second counted from the start of `date`, possibly on a neighbouring day. -/
def ofSecond? (date : Date) (second : Int) (nano : Nat) : Option Instant :=
  if second < 0 then date.previous?.bind fun d => at? d (second + secondsInDay).toNat nano
  else if second < secondsInDay then at? date second.toNat nano
  else date.next?.bind fun d => at? d (second - secondsInDay).toNat nano

/-- One second later; on the last representable day the clock stands still. -/
def nextSecond (t : Instant) : Instant :=
  (ofSecond? t.date (t.second + 1) (t.nano % nanosInSecond)).getD t

/-! ## Writing -/

def fractionChars (nano : Nat) : List Char :=
  if nano = 0 then []
  else if nano % 1000000 = 0 then '.' :: padded 3 (nano / 1000000)
  else if nano % 1000 = 0 then '.' :: padded 6 (nano / 1000)
  else '.' :: padded 9 nano

def clockChars (t : Instant) : List Char :=
  padded 2 (t.second / 3600) ++ ':' :: padded 2 (t.second / 60 % 60)

def textChars (t : Instant) : List Char :=
  let leap := t.nano / nanosInSecond
  t.date.isoChars ++ 'T' :: t.clockChars ++ ':' :: padded 2 (t.second % 60 + leap) ++
    fractionChars (t.nano - leap * nanosInSecond) ++ ['Z']

def text (t : Instant) : String :=
  String.ofList t.textChars

/-- The date and the minute, as histories list them. -/
def minuteText (t : Instant) : String :=
  String.ofList (t.date.isoChars ++ ' ' :: t.clockChars)

/-! ## Reading -/

/-- A decimal fraction of a second in nanoseconds; digits after the ninth are dropped. -/
def readFraction : Step Nat
  | '.' :: cs =>
    match takeDigits 9 cs with
    | ([], _) => none
    | (ds, rest) => some (valueOf ds * Nat.pow 10 (9 - ds.length), rest.dropWhile isDecimalDigit)
  | cs => some (0, cs)

/-- Hours, minutes, seconds and nanoseconds of a time of day. -/
def readClock : Step (Nat × Nat × Nat × Nat) := fun cs => do
  let (hour, cs) ← spacedNat 2 cs
  let (_, cs) ← skipBlanks cs
  let (_, cs) ← expect ':' cs
  let (minute, cs) ← spacedNat 2 cs
  let (_, cs) ← skipBlanks cs
  let (_, cs) ← expect ':' cs
  let (second, cs) ← spacedNat 2 cs
  let (nano, cs) ← readFraction cs
  return ((hour, minute, second, nano), cs)

def twoDigits : Step Nat
  | a :: b :: rest =>
    if isDecimalDigit a && isDecimalDigit b then some (10 * digitValue a + digitValue b, rest)
    else none
  | _ => none

/-- Hours and minutes of an offset, in seconds. -/
def readOffsetSize : Step Nat := fun cs => do
  let (hours, cs) ← twoDigits cs
  let (minutes, cs) ← twoDigits (cs.dropWhile fun c => c == ':' || isBlank c)
  if minutes < 60 then some (hours * 3600 + minutes * 60, cs) else none

/-- An offset from universal time in seconds: `Z`, `UTC`, or a sign with hours and minutes. -/
def readOffset : Step Int := fun cs =>
  if sameLetters (String.ofList (cs.take 3)) "UTC" then some (0, cs.drop 3)
  else match cs with
  | 'Z' :: rest | 'z' :: rest => some (0, rest)
  | '+' :: rest => (readOffsetSize rest).map fun (n, rest) => ((n : Int), rest)
  | '-' :: rest | '−' :: rest => (readOffsetSize rest).map fun (n, rest) => (-(n : Int), rest)
  | _ => none

/-- The moment a local date and time of day at an offset stand for. The sixtieth second is the leap
second after the fifty-ninth. -/
def ofLocal? (date : Date) (hour minute second nano : Nat) (offset : Int) : Option Instant :=
  if hour < 24 ∧ minute < 60 ∧ second ≤ 60 ∧ offset.natAbs < secondsInDay then
    let leap := second / 60
    ofSecond? date (hour * 3600 + minute * 60 + (second - leap) - offset)
      (nano + leap * nanosInSecond)
  else none

def ofRecordChars? (cs : List Char) : Option Instant := do
  let ((year, month, day), cs) ← Date.readSpaced cs
  let date ← Date.ofYmd? year month day
  let cs ← match cs with
    | 'T' :: rest | 't' :: rest | ' ' :: rest => some rest
    | _ => none
  let ((hour, minute, second, nano), cs) ← readClock cs
  let (offset, rest) ← readOffset (trimStart cs)
  if (trimStart rest).isEmpty then ofLocal? date hour minute second nano offset else none

/-- A moment as a record holds it: date, time of day and offset, blanks allowed around the parts. -/
def ofRecord? (s : String) : Option Instant :=
  ofRecordChars? s.toList

end Instant

/-! ## In records -/

instance : Coded Date :=
  ⟨.text, fun d => .text d.iso, fun t => t.text?.bind Date.ofRecord?⟩

instance : Coded Instant :=
  ⟨.text, fun t => .text t.text, fun t => t.text?.bind Instant.ofRecord?⟩

end GovernanceDesk

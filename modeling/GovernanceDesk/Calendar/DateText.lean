import GovernanceDesk.Calendar.Date
import GovernanceDesk.Text.Characters
import GovernanceDesk.Text.Decimal

/-!
# Dates as text

A date is written in two forms, `2026-10-16` in records and `10/16/2026` on forms, and a year
outside 0 to 9999 carries its sign in both.

* `Date.iso`, `Date.slashed`: the two written forms.
* `Date.ofRecord?`: a date in a record; blanks may stand around its parts.
* `Date.ofForm?`: a date typed into a form, in either form.

A reader is a chain of small steps over the characters that are left (`Text.Step`); each step gives
what it read and the rest, or nothing.
-/

namespace GovernanceDesk
set_option autoImplicit false

/-! ## Steps of a reader -/

namespace Text

abbrev Step (α : Type) := List Char → Option (α × List Char)

def expect (c : Char) : Step Unit
  | [] => none
  | x :: rest => if x = c then some ((), rest) else none

def skipBlanks : Step Unit :=
  fun cs => some ((), trimStart cs)

/-- A number of at most `most` digits; blanks before it are skipped. -/
def spacedNat (most : Nat) : Step Nat :=
  fun cs => takeNat? most (trimStart cs)

/-- A year: up to four digits, or a sign and any number of digits. -/
def spacedYear : Step Int := fun cs =>
  match trimStart cs with
  | '-' :: rest => (takeLongNat? rest).map fun (n, rest) => (-(n : Int), rest)
  | '+' :: rest => (takeLongNat? rest).map fun (n, rest) => ((n : Int), rest)
  | rest => (takeNat? 4 rest).map fun (n, rest) => ((n : Int), rest)

end Text

namespace Date
open Text

/-! ## Writing -/

def yearText (year : Int) : List Char :=
  if 0 ≤ year ∧ year ≤ 9999 then padded 4 year.natAbs
  else (if year < 0 then '-' else '+') :: padded 4 year.natAbs

def isoChars (d : Date) : List Char :=
  yearText d.year ++ '-' :: padded 2 d.month ++ '-' :: padded 2 d.day

def slashedChars (d : Date) : List Char :=
  padded 2 d.month ++ '/' :: padded 2 d.day ++ '/' :: yearText d.year

/-- Year, month, day, as records write it. -/
def iso (d : Date) : String :=
  String.ofList d.isoChars

/-- Month, day, year, as forms show it. -/
def slashed (d : Date) : String :=
  String.ofList d.slashedChars

/-! ## Reading -/

/-- Year, month and day with hyphens and with blanks around each hyphen. -/
def readSpaced : Step (Int × Nat × Nat) := fun cs => do
  let (year, cs) ← spacedYear cs
  let (_, cs) ← skipBlanks cs
  let (_, cs) ← expect '-' cs
  let (month, cs) ← spacedNat 2 cs
  let (_, cs) ← skipBlanks cs
  let (_, cs) ← expect '-' cs
  let (day, cs) ← spacedNat 2 cs
  return ((year, month, day), cs)

def ofRecordChars? (cs : List Char) : Option Date := do
  let ((year, month, day), rest) ← readSpaced cs
  if (trimStart rest).isEmpty then ofYmd? year month day else none

/-- A date as a record holds it. -/
def ofRecord? (s : String) : Option Date :=
  ofRecordChars? s.toList

def ofSlashedChars? (cs : List Char) : Option Date := do
  let (month, cs) ← spacedNat 2 cs
  let (_, cs) ← expect '/' cs
  let (day, cs) ← spacedNat 2 cs
  let (_, cs) ← expect '/' cs
  let (year, cs) ← spacedYear cs
  if cs.isEmpty then ofYmd? year month day else none

def ofHyphenatedChars? (cs : List Char) : Option Date := do
  let (year, cs) ← spacedYear cs
  let (_, cs) ← expect '-' cs
  let (month, cs) ← spacedNat 2 cs
  let (_, cs) ← expect '-' cs
  let (day, cs) ← spacedNat 2 cs
  if cs.isEmpty then ofYmd? year month day else none

def ofFormChars? (cs : List Char) : Option Date :=
  let cs := trimChars cs
  ofSlashedChars? cs <|> ofHyphenatedChars? cs

/-- A date as people type it: with slashes, else with hyphens. -/
def ofForm? (s : String) : Option Date :=
  ofFormChars? s.toList

end Date

end GovernanceDesk

import GovernanceDesk.Text.Characters

/-!
# Decimal numbers

* `digits`, `padded`: writing a natural number, plainly or to a least number of places.
* `takeDigits`: the digits at the front of a text, at most so many of them, and what follows.
* `readNat?`: a text that is one number and nothing else.
* `fitsDouble`: whether a number is small enough for double precision.
-/

namespace GovernanceDesk.Text
set_option autoImplicit false

/-! ## Writing -/

def digits (n : Nat) : List Char :=
  Nat.toDigits 10 n

/-- The number with zeros in front up to `width` places. -/
def padded (width n : Nat) : List Char :=
  let ds := digits n
  List.replicate (width - ds.length) '0' ++ ds

/-- The number with its sign, the whole at least `width` places wide, zeros after the sign. -/
def paddedInt (width : Nat) (n : Int) : List Char :=
  if n < 0 then '-' :: padded (width - 1) n.natAbs else padded width n.natAbs

/-! ## Reading -/

def digitValue (c : Char) : Nat :=
  c.toNat - '0'.toNat

def valueOf (ds : List Char) : Nat :=
  ds.foldl (fun n c => 10 * n + digitValue c) 0

/-- The leading digits of a text, at most `most` of them, and the rest of the text. -/
def takeDigits : Nat → List Char → List Char × List Char
  | 0, cs => ([], cs)
  | _ + 1, [] => ([], [])
  | most + 1, c :: cs =>
    if isDecimalDigit c then
      let (ds, rest) := takeDigits most cs
      (c :: ds, rest)
    else
      ([], c :: cs)

/-- A number of one to `most` digits at the front of a text. -/
def takeNat? (most : Nat) (cs : List Char) : Option (Nat × List Char) :=
  match takeDigits most cs with
  | ([], _) => none
  | (ds, rest) => some (valueOf ds, rest)

/-- A number of any length at the front of a text. -/
def takeLongNat? (cs : List Char) : Option (Nat × List Char) :=
  takeNat? cs.length cs

def readNat? (cs : List Char) : Option Nat :=
  match takeLongNat? cs with
  | some (n, []) => some n
  | _ => none

/-! ## Size -/

/-- The first value too large for a double-precision number: from there on it rounds to infinity. -/
def doubleBound : Nat := Nat.pow 2 1024 - Nat.pow 2 970

/-- Whether `mantissa * 10 ^ exponent` is small enough for a double-precision number. -/
def fitsDouble (mantissa : Nat) (exponent : Int) : Bool :=
  if exponent < 0 then
    mantissa < doubleBound * Nat.pow 10 (min exponent.natAbs (digits mantissa).length)
  else mantissa == 0 || (exponent < 400 && mantissa * Nat.pow 10 exponent.natAbs < doubleBound)

end GovernanceDesk.Text

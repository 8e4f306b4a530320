import GovernanceDesk.Text.Decimal
import GovernanceDesk.Tree.Draft

/-!
# Words of a YAML document

A scalar without quotes is a word. What it means depends on what is asked for: `5` is a number to
one reader and a text to another.

* `Word.isNull`, `Word.bool?`, `Word.nat?`, `Word.isReal`: a word as a value of some type.
* `Word.draft?`: the value its spelling suggests.
* `Word.isSpecial`: whether that is something other than a text.
-/

namespace GovernanceDesk.Yaml.Word
open Text
set_option autoImplicit false

/-! ## Null and truth values -/

def isNullName (w : String) : Bool :=
  ["~", "null", "Null", "NULL"].contains w

def isNull (w : String) : Bool :=
  w.isEmpty || isNullName w

def bool? (w : String) : Option Bool :=
  if ["true", "True", "TRUE"].contains w then some true
  else if ["false", "False", "FALSE"].contains w then some false
  else none

/-! ## Whole numbers -/

def withoutSign : List Char → List Char
  | '+' :: rest | '-' :: rest => rest
  | cs => cs

/-- Digits alone that begin with a zero which is not the whole number: a text, not a number. -/
def isZeroLed (cs : List Char) : Bool :=
  match withoutSign cs with
  | '0' :: c :: rest => (c :: rest).all isDecimalDigit
  | _ => false

def radixDigit? (radix : Nat) (c : Char) : Option Nat :=
  let n :=
    if isDecimalDigit c then digitValue c
    else if 'a' ≤ c ∧ c ≤ 'f' then c.toNat - 'a'.toNat + 10
    else if 'A' ≤ c ∧ c ≤ 'F' then c.toNat - 'A'.toNat + 10
    else radix
  if n < radix then some n else none

def radixNat? (radix : Nat) (cs : List Char) : Option Nat :=
  if cs.isEmpty then none
  else cs.foldlM (fun n c => (radixDigit? radix c).map (radix * n + ·)) 0

/-- A number without its sign: in base 16, 8 or 2 after `0x`, `0o` or `0b`, else decimal. -/
def unsigned? (cs : List Char) : Option Nat :=
  match cs with
  | '0' :: 'x' :: rest => radixNat? 16 rest
  | '0' :: 'o' :: rest => radixNat? 8 rest
  | '0' :: 'b' :: rest => radixNat? 2 rest
  | _ => if isZeroLed cs then none else radixNat? 10 cs

/-- A whole number without a minus sign. -/
def nat? (w : String) : Option Nat :=
  match w.toList with
  | '+' :: rest => unsigned? rest
  | cs => unsigned? cs

/-- What follows the minus sign of a whole number that has one. -/
def debt? (w : String) : Option Nat :=
  match w.toList with
  | '-' :: rest => unsigned? rest
  | _ => none

/-- Whether a word is a whole number that fits in `bits` bits, in two's complement if it has a
minus sign. -/
def isWhole (bits : Nat) (w : String) : Bool :=
  (nat? w).any (fun n => decide (n < Nat.pow 2 bits)) ||
    (debt? w).any fun n => decide (n ≤ Nat.pow 2 (bits - 1))

/-! ## Fractions -/

def takeExponent : List Char → Option Int
  | [] => some 0
  | c :: rest =>
    if c = 'e' ∨ c = 'E' then
      match rest with
      | '+' :: ds => (readNat? ds).map Int.ofNat
      | '-' :: ds => (readNat? ds).map fun n => -(n : Int)
      | ds => (readNat? ds).map Int.ofNat
    else none

/-- Whether unsigned characters are a decimal fraction that fits a double-precision number. -/
def isUnsignedReal (cs : List Char) : Bool :=
  let whole := cs.takeWhile isDecimalDigit
  let rest := cs.dropWhile isDecimalDigit
  let (fraction, rest) := match rest with
    | '.' :: rest => (rest.takeWhile isDecimalDigit, rest.dropWhile isDecimalDigit)
    | rest => ([], rest)
  if whole.isEmpty && fraction.isEmpty then false
  else match takeExponent rest with
  | none => false
  | some e => fitsDouble (valueOf (whole ++ fraction)) (e - fraction.length)

/-- Whether the word is a decimal number, infinity, or not a number. -/
def isReal (w : String) : Bool :=
  let infinite := [".inf", ".Inf", ".INF"]
  match w.toList with
  | '+' :: rest => infinite.contains (String.ofList rest) || isUnsignedReal rest
  | '-' :: rest => infinite.contains (String.ofList rest) || isUnsignedReal rest
  | cs => infinite.contains w || [".nan", ".NaN", ".NAN"].contains w || isUnsignedReal cs

/-! ## Words with a type of their own -/

/-- How many bits a whole number may take. -/
def wordBits : Nat := 64

/-- Up to how many bits a word counts as a whole number at all. -/
def longBits : Nat := 128

/-- A whole number. Zero with a minus sign is none, and a long number has no value. -/
def whole? (w : String) : Option Draft :=
  if !isWhole wordBits w then none
  else match nat? w, debt? w with
  | some n, _ => some (.int n)
  | none, some 0 => some (.real w)
  | none, some n => some (.int (-(n : Int)))
  | none, none => none

/-- The value a word suggests, unless it suggests a number that is too long. -/
def draft? (w : String) : Option Draft :=
  if isNull w then some .null
  else match bool? w with
  | some b => some (.bool b)
  | none =>
    if isWhole longBits w then whole? w
    else if !isZeroLed w.toList && isReal w then some (.real w)
    else some (.text w)

/-- Whether the word, left without quotes, would be taken for something other than a text. -/
def isSpecial (w : String) : Bool :=
  isNull w || (bool? w).isSome || isWhole longBits w || isZeroLed w.toList || isReal w

end GovernanceDesk.Yaml.Word

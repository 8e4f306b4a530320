import GovernanceDesk.Text.Decimal
import GovernanceDesk.Tree.Draft

/-!
# Reading JSON

* `Json.draft`: the draft at the front of a text, and what follows it.
* `Json.read?`: the tree that a whole text is.

Where the text goes wrong its draft ends with `Draft.broken`, and nothing follows.
-/

namespace GovernanceDesk.Json
open Text
set_option autoImplicit false

/-- What was read, and the rest of the text unless it goes wrong. -/
abbrev Reading (α : Type) := α × Option (List Char)

/-! ## Texts -/

def hexValue? (c : Char) : Option Nat :=
  if isDecimalDigit c then some (digitValue c)
  else if 'a' ≤ c ∧ c ≤ 'f' then some (c.toNat - 'a'.toNat + 10)
  else if 'A' ≤ c ∧ c ≤ 'F' then some (c.toNat - 'A'.toNat + 10)
  else none

def hexValue4? (a b c d : Char) : Option Nat := do
  let a ← hexValue? a
  let b ← hexValue? b
  let c ← hexValue? c
  let d ← hexValue? d
  return ((a * 16 + b) * 16 + c) * 16 + d

/-- A character, or one half of a character that is escaped in two. -/
inductive Piece where
  | whole (c : Char)
  | high (n : Nat)
  | low (n : Nat)

def Piece.ofCode (n : Nat) : Piece :=
  if 0xD800 ≤ n ∧ n < 0xDC00 then high (n - 0xD800)
  else if 0xDC00 ≤ n ∧ n < 0xE000 then low (n - 0xDC00)
  else whole (Char.ofNat n)

def escapeLetter? : Char → Option Char
  | '"' => some '"'
  | '\\' => some '\\'
  | '/' => some '/'
  | 'b' => some (Char.ofNat 8)
  | 'f' => some (Char.ofNat 12)
  | 'n' => some '\n'
  | 'r' => some '\r'
  | 't' => some '\t'
  | _ => none

def pushTo (p : Piece) (r : List Piece × List Char) : List Piece × List Char :=
  (p :: r.1, r.2)

/-- The pieces of a quoted text after its opening quote, and what follows the closing one. -/
def takePieces? : List Char → Option (List Piece × List Char)
  | [] => none
  | '"' :: rest => some ([], rest)
  | '\\' :: 'u' :: a :: b :: c :: d :: rest => do
    let n ← hexValue4? a b c d
    (takePieces? rest).map (pushTo (.ofCode n))
  | '\\' :: letter :: rest => do
    let c ← escapeLetter? letter
    (takePieces? rest).map (pushTo (.whole c))
  | c :: rest => if c.toNat < 32 then none else (takePieces? rest).map (pushTo (.whole c))

/-- The characters of pieces, if no half stands alone. -/
def joined? : List Piece → Option (List Char)
  | [] => some []
  | .whole c :: rest => (joined? rest).map (c :: ·)
  | .high h :: .low l :: rest =>
    (joined? rest).map (Char.ofNat (0x10000 + h * 0x400 + l) :: ·)
  | _ => none

def ofPieces (pieces : List Piece) : Draft :=
  match joined? pieces with
  | some cs => .text (String.ofList cs)
  | none => .halved

/-! ## Numbers -/

def takeWhileDigit (cs : List Char) : List Char × List Char :=
  (cs.takeWhile isDecimalDigit, cs.dropWhile isDecimalDigit)

/-- The whole part of a number. No zero stands in front of other digits. -/
def takeWhole? (cs : List Char) : Option (List Char × List Char) :=
  match takeWhileDigit cs with
  | ([], _) | ('0' :: _ :: _, _) => none
  | r => some r

/-- The digits of a fraction: those after a full stop, or none. -/
def takeFraction? : List Char → Option (List Char × List Char)
  | '.' :: rest =>
    match takeWhileDigit rest with
    | ([], _) => none
    | r => some r
  | cs => some ([], cs)

/-- An exponent as it is written, with its value: the letter e, a sign if any, and digits; or
nothing. -/
def takeExponent? : List Char → Option (List Char × Int × List Char)
  | [] => some ([], 0, [])
  | c :: rest =>
    if c = 'e' ∨ c = 'E' then
      let (sign, rest) := match rest with
        | '+' :: rest => (['+'], rest)
        | '-' :: rest => (['-'], rest)
        | rest => ([], rest)
      match takeWhileDigit rest with
      | ([], _) => none
      | (ds, rest) =>
        let n : Int := valueOf ds
        some (c :: sign ++ ds, if sign = ['-'] then -n else n, rest)
    else some ([], 0, c :: rest)

/-- A number without its sign. Zero with a minus sign is no whole number. -/
def takeUnsigned? (isNegative : Bool) (cs : List Char) : Option (Draft × List Char) := do
  let (whole, rest) ← takeWhole? cs
  let (fraction, rest) ← takeFraction? rest
  let (exponent, power, rest) ← takeExponent? rest
  if !fitsDouble (valueOf (whole ++ fraction)) (power - fraction.length) then return (.huge, rest)
  else if fraction.isEmpty && exponent.isEmpty && !(isNegative && whole == ['0']) then
    let n : Int := valueOf whole
    return (.int (if isNegative then -n else n), rest)
  else
    let sign := if isNegative then ['-'] else []
    let point := if fraction.isEmpty then [] else '.' :: fraction
    return (.real (String.ofList (sign ++ whole ++ point ++ exponent)), rest)

/-! ## Values -/

def isSpace (c : Char) : Bool :=
  c == ' ' || c == '\t' || c == '\n' || c == '\r'

def skipSpaces (cs : List Char) : List Char :=
  cs.dropWhile isSpace

def orBroken (r : Option (Draft × List Char)) : Reading Draft :=
  match r with
  | some (d, rest) => (d, some rest)
  | none => (.broken, none)

/-- A value without parts. -/
def takeLeaf : List Char → Reading Draft
  | '"' :: rest => orBroken ((takePieces? rest).map fun r => (ofPieces r.1, r.2))
  | 'n' :: 'u' :: 'l' :: 'l' :: rest => (.null, some rest)
  | 't' :: 'r' :: 'u' :: 'e' :: rest => (.bool true, some rest)
  | 'f' :: 'a' :: 'l' :: 's' :: 'e' :: rest => (.bool false, some rest)
  | '-' :: rest => orBroken (takeUnsigned? true rest)
  | cs => orBroken (takeUnsigned? false cs)

def isName : Draft → Bool
  | .text _ | .halved => true
  | _ => false

def startsWith (mark : Char) (cs : List Char) : Bool :=
  cs.head? == some mark

mutual

def takeDraft : Nat → List Char → Reading Draft
  | 0, _ => (.broken, none)
  | fuel + 1, cs =>
    match skipSpaces cs with
    | '[' :: rest =>
      let rest := skipSpaces rest
      if startsWith ']' rest then (.list [], some rest.tail)
      else
        let (items, rest?) := takeItems fuel rest
        (.list items, rest?)
    | '\x7b' :: rest =>
      let rest := skipSpaces rest
      if startsWith '\x7d' rest then (.fields [], some rest.tail)
      else
        let (entries, rest?) := takeEntries fuel rest
        (.fields entries, rest?)
    | cs => takeLeaf cs

/-- The items of a list, one at least, up to its end. -/
def takeItems : Nat → List Char → Reading (List Draft)
  | 0, _ => ([.broken], none)
  | fuel + 1, cs =>
    match takeDraft fuel cs with
    | (d, none) => ([d], none)
    | (d, some rest) =>
      match skipSpaces rest with
      | ',' :: rest =>
        let (more, rest?) := takeItems fuel rest
        (d :: more, rest?)
      | ']' :: rest => ([d], some rest)
      | _ => ([d, .broken], none)

/-- The entries of a record, one at least, up to its end. -/
def takeEntries : Nat → List Char → Reading (List (Draft × Draft))
  | 0, _ => ([(.broken, .broken)], none)
  | fuel + 1, cs =>
    match takeDraft fuel cs with
    | (key, none) => ([(key, .broken)], none)
    | (key, some rest) =>
      let rest := skipSpaces rest
      if !isName key || !startsWith ':' rest then ([(key, .broken)], none)
      else match takeDraft fuel rest.tail with
      | (d, none) => ([(key, d)], none)
      | (d, some rest) =>
        match skipSpaces rest with
        | ',' :: rest =>
          let (more, rest?) := takeEntries fuel rest
          ((key, d) :: more, rest?)
        | '\x7d' :: rest => ([(key, d)], some rest)
        | _ => ([(key, d), (.broken, .broken)], none)

end

/-! ## Texts -/

/-- The draft at the front of a text and what follows it. A value takes a character at least, and a
collection one of its own for each part, so the fuel is enough. -/
def draft (s : String) : Reading Draft :=
  let cs := s.toList
  takeDraft (2 * cs.length + 4) cs

/-- The value that a whole text is, spaces around it aside. -/
def read? (s : String) : Option Tree :=
  match draft s with
  | (d, some rest) => if rest.all isSpace then d.tree? else none
  | (_, none) => none

end GovernanceDesk.Json

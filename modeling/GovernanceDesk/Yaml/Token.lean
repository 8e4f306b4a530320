import GovernanceDesk.Yaml.Quoted

/-!
# Tokens of a YAML document

* `Yaml.Token`: the marks, names and scalars that a document consists of.
* `Yaml.takeDirective?`: a line before the document that says how to read it.
* `Yaml.takeTag?`, `Yaml.takeNamed?`: what stands before a node and says more about it.

The bytes of a tag are kept as they are, since percent signs in it stand for bytes.
-/

namespace GovernanceDesk.Yaml
open Text
set_option autoImplicit false

/-- How a scalar is written, as far as that matters for what it can mean. -/
inductive ScalarForm where
  /-- A word without quotes. -/
  | plain
  /-- A block of lines that are kept. -/
  | literal
  | other
deriving DecidableEq

inductive Token where
  | version (major minor : Nat)
  /-- What a tag that begins with a handle begins with in full. -/
  | handle (name : String) (stem : List UInt8)
  | documentStart
  | documentEnd
  | blockList
  | blockFields
  | blockEnd
  | openList
  | closeList
  | openFields
  | closeFields
  | comma
  | hyphen
  | key
  | colon
  /-- The name of a node in its place. -/
  | reference (name : String)
  /-- The name that a node is given. -/
  | anchor (name : String)
  | tag (handle : String) (suffix : List UInt8)
  | scalar (form : ScalarForm) (text : String)
  /-- The end of the text. -/
  | finish
deriving DecidableEq

/-! ## Tags -/

def isUriChar (c : Char) : Bool :=
  Cursor.isNameChar c || ";/?:@&=+$.!~*'()".toList.contains c

/-- In angle brackets a tag may also hold these. -/
def isVerbatimChar (c : Char) : Bool :=
  isUriChar c || c == ',' || c == '[' || c == ']'

/-- How many more bytes follow the first byte of a character. -/
def followers? (byte : Nat) : Option Nat :=
  if byte < 0x80 then some 0
  else if byte / 0x20 = 0x06 then some 1
  else if byte / 0x10 = 0x0E then some 2
  else if byte / 0x08 = 0x1E then some 3
  else none

/-- The bytes of a tag, last first. A percent sign with two hexadecimal digits stands for one byte;
the bytes of one character are written together. -/
def takeBytesFrom (isInside : Char → Bool) :
    List Char → Nat → List UInt8 → Position → Option (List UInt8 × Cursor)
  | '%' :: a :: b :: rest, missing, done, p => do
    let byte := 16 * (← Word.radixDigit? 16 a) + (← Word.radixDigit? 16 b)
    let missing ←
      if missing = 0 then followers? byte
      else if byte / 0x40 = 0x02 then some (missing - 1)
      else none
    takeBytesFrom isInside rest missing (UInt8.ofNat byte :: done)
      (((p.past '%').past a).past b)
  | '%' :: _, _, _, _ => none
  | x :: rest, 0, done, p =>
    if isInside x then takeBytesFrom isInside rest 0 (UInt8.ofNat x.toNat :: done) (p.past x)
    else some (done, ⟨x :: rest, p⟩)
  | [], 0, done, p => some (done, ⟨[], p⟩)
  | _, _ + 1, _, _ => none

/-- The bytes of a tag that go on from some characters. -/
def takeBytes? (isInside : Char → Bool) (before : List Char) (c : Cursor) :
    Option (List UInt8 × Cursor) := do
  let start := before.map fun x => UInt8.ofNat x.toNat
  let (done, c) ← takeBytesFrom isInside c.rest 0 start.reverse c.position
  return (done.reverse, c)

/-- Such bytes, one at least. -/
def takeSomeBytes? (isInside : Char → Bool) (c : Cursor) : Option (List UInt8 × Cursor) :=
  (takeBytes? isInside [] c).filter fun r => !r.1.isEmpty

/-- The exclamation mark as a byte. -/
def bang : UInt8 := 33

/-- A tag from the character after its exclamation mark on: in angle brackets, behind a handle, or
on its own. A mark alone is a tag, too. -/
def takeTagName? (c : Cursor) : Option (Token × Cursor) :=
  match c.expect? '<' with
  | some c => do
    let (bytes, c) ← takeSomeBytes? isVerbatimChar c
    return (.tag "" bytes, ← c.expect? '>')
  | none =>
    let (name, after) := c.takeWhile Cursor.isNameChar
    match after.expect? '!' with
    | some c => do
      let (bytes, c) ← takeSomeBytes? isUriChar c
      return (.tag (String.ofList ('!' :: name ++ ['!'])) bytes, c)
    | none => do
      let (bytes, c) ← takeBytes? isUriChar name after
      return (if bytes.isEmpty then .tag "" [bang] else .tag "!" bytes, c)

/-- A tag, after which a gap must follow, or a comma in flow style. -/
def takeTag? (inFlow : Bool) (c : Cursor) : Option (Token × Cursor) :=
  (takeTagName? c).filter fun r => r.2.isAtGap || (inFlow && r.2.head? == some ',')

/-! ## Anchors and aliases -/

/-- What may stand right after a name. -/
def endsName (c : Cursor) : Bool :=
  c.isAtGap || c.head?.any fun x =>
    ['?', ':', ',', ']', '\x7d', '%', '@', Char.ofNat 0x60].contains x

/-- The name a node is given or called by. -/
def takeNamed? (c : Cursor) : Option (String × Cursor) :=
  let (name, after) := c.takeWhile Cursor.isNameChar
  if name.isEmpty || !endsName after then none else some (String.ofList name, after)

/-! ## Directives -/

/-- How many digits a number in a version may have. -/
def maxVersionDigits : Nat := 9

def takeNumber? (c : Cursor) : Option (Nat × Cursor) :=
  let (ds, after) := c.takeWhile isDecimalDigit
  if ds.isEmpty || maxVersionDigits < ds.length then none else some (valueOf ds, after)

def takeVersion? (c : Cursor) : Option (Token × Cursor) := do
  let (major, c) ← takeNumber? c
  let (minor, c) ← takeNumber? (← c.expect? '.')
  return (.version major minor, c)

/-- A handle with what it stands for. -/
def takeHandle? (c : Cursor) : Option (Token × Cursor) := do
  let (name, c) := (← c.expect? '!').takeWhile Cursor.isNameChar
  let (name, c) ← match c.expect? '!' with
    | some c => some ('!' :: name ++ ['!'], c)
    | none => if name.isEmpty then some (['!'], c) else none
  if c.head?.any isBlank then
    let (stem, c) ← takeSomeBytes? isVerbatimChar c.skipBlanks
    return (.handle (String.ofList name) stem, c)
  else none

/-- A directive from the character after its percent sign on, with the line after it. -/
def takeDirective? (c : Cursor) : Option (Token × Cursor) := do
  let (name, after) := c.takeWhile Cursor.isNameChar
  let (token, after) ← match String.ofList name, after.isAtGap with
    | "YAML", true => takeVersion? after.skipBlanks
    | "TAG", true => (takeHandle? after.skipBlanks).filter fun r => r.2.isAtGap
    | _, _ => none
  return (token, ← after.skipLineEnd?)

end GovernanceDesk.Yaml

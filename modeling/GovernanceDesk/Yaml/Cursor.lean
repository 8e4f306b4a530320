import GovernanceDesk.Yaml.Scalar

/-!
# A place in a YAML document

* `Yaml.Position`: where a character stands.
* `Yaml.Cursor`: the characters that are left, and where the first of them stands.
* `Yaml.Cursor.skipLines`: on to the next character that is neither blank nor comment.
* `Yaml.Gap`: the blanks and line breaks between two parts of a scalar, and what they count for.
-/

namespace GovernanceDesk.Yaml
set_option autoImplicit false

/-! ## Positions -/

structure Position where
  /-- How many bytes of the document lie before. -/
  offset : Nat
  line : Nat
  column : Nat

namespace Position

def start : Position := ⟨0, 0, 0⟩

def past (x : Char) (p : Position) : Position :=
  if isBreak x then ⟨p.offset + x.utf8Size, p.line + 1, 0⟩
  else ⟨p.offset + x.utf8Size, p.line, p.column + 1⟩

end Position

structure Cursor where
  rest : List Char
  position : Position

/-- All line breaks as line feeds, but for the two separators that are kept apart. -/
def unifiedBreaks : List Char → List Char
  | '\r' :: '\n' :: rest => '\n' :: unifiedBreaks rest
  | x :: rest =>
    (if x = '\r' ∨ x.toNat = 0x85 then '\n' else x) :: unifiedBreaks rest
  | [] => []

namespace Cursor

/-- Past one character. -/
def next (c : Cursor) : Cursor :=
  match c.rest with
  | [] => c
  | x :: rest => ⟨rest, c.position.past x⟩

def advance (c : Cursor) : Nat → Cursor
  | 0 => c
  | n + 1 => c.next.advance n

/-- The start of a document. A byte order mark before it takes up a column. -/
def ofText (s : String) : Cursor :=
  let start : Cursor := ⟨unifiedBreaks s.toList, .start⟩
  if start.rest.head?.any fun x => x.toNat == 0xFEFF then start.next else start

def head? (c : Cursor) : Option Char :=
  c.rest.head?

def column (c : Cursor) : Nat :=
  c.position.column

/-- Past a given character, if it stands at the cursor. -/
def expect? (x : Char) (c : Cursor) : Option Cursor :=
  if c.head? == some x then some c.next else none

/-- Whether the next character is a gap, or there is none. -/
def isAtGap (c : Cursor) : Bool :=
  c.head?.all isGap

/-- Whether a given character stands at the cursor with a gap after it. -/
def isAtMark (mark : Char) (c : Cursor) : Bool :=
  c.head? == some mark && c.rest.tail.head?.all isGap

end Cursor

/-- Whether a line that opens or closes a document starts here. -/
def isDocumentMark (p : Position) (cs : List Char) : Bool :=
  p.column == 0 && isMarkedDocument cs && (cs.drop 3).head?.all isGap

/-! ## Skipping -/

namespace Cursor

/-- Past blanks, comments and line breaks. At the start of a line of a block, where a new entry may
begin, tabs are no blanks. The answer tells whether a new entry may begin at the new place. -/
def skipLinesFrom (inFlow : Bool) : List Char → Bool → Bool → Position → Bool × Cursor
  | [], _, mayBegin, p => (mayBegin, ⟨[], p⟩)
  | x :: rest, inComment, mayBegin, p =>
    if isBreak x then skipLinesFrom inFlow rest false (mayBegin || !inFlow) (p.past x)
    else if inComment || x == ' ' || (x == '\t' && (inFlow || !mayBegin)) then
      skipLinesFrom inFlow rest inComment mayBegin (p.past x)
    else if x = '#' then skipLinesFrom inFlow rest true mayBegin (p.past x)
    else (mayBegin, ⟨x :: rest, p⟩)

def skipLines (inFlow mayBegin : Bool) (c : Cursor) : Bool × Cursor :=
  skipLinesFrom inFlow c.rest false mayBegin c.position

/-- Past the characters of a kind that has no line breaks in it. -/
def skipWhile (isInside : Char → Bool) (c : Cursor) : Cursor :=
  c.advance (c.rest.takeWhile isInside).length

def skipBlanks (c : Cursor) : Cursor :=
  c.skipWhile isBlank

/-- Past blanks, a comment and the end of the line, if nothing else is left on it. -/
def skipLineEnd? (c : Cursor) : Option Cursor :=
  let c := c.skipBlanks
  let c := if c.head? == some '#' then c.skipWhile fun x => !isBreak x else c
  if c.head?.all isBreak then some c.next else none

def isNameChar (c : Char) : Bool :=
  Text.isLatinLetter c || Text.isDecimalDigit c || c == '_' || c == '-'

/-- The characters of a kind at the cursor, with the place after them. -/
def takeWhile (isInside : Char → Bool) (c : Cursor) : List Char × Cursor :=
  (c.rest.takeWhile isInside, c.skipWhile isInside)

end Cursor

/-! ## Gaps -/

/-- The blanks before the first line break of a gap, and its line breaks. -/
structure Gap where
  blanks : List Char
  breaks : List Char

namespace Gap

def none : Gap := ⟨[], []⟩

def isNone (g : Gap) : Bool :=
  g.blanks.isEmpty && g.breaks.isEmpty

def isOnLine (g : Gap) : Bool :=
  g.breaks.isEmpty

/-- The gap with a blank or line break more. Blanks after a line break do not count. -/
def extended (x : Char) (g : Gap) : Gap :=
  if isBreak x then { g with breaks := g.breaks ++ [x] }
  else if g.isOnLine then { g with blanks := g.blanks ++ [x] }
  else g

/-- A single line break counts for a space, several for all but the first. -/
def text (g : Gap) : List Char :=
  match g.breaks with
  | [] => g.blanks
  | '\n' :: [] => [' ']
  | '\n' :: more => more
  | breaks => breaks

end Gap

end GovernanceDesk.Yaml

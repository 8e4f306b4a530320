import GovernanceDesk.Yaml.Cursor

/-!
# Scalars read from a YAML document

* `Yaml.takePlain?`: a word without quotes, over several lines if they are moved in far enough.
* `Yaml.takeSingleQuoted?`, `Yaml.takeDoubleQuoted?`: a quoted text from its opening quote on.
* `Yaml.takeBlock?`: a block of lines, kept as they are or folded into paragraphs.

What was read so far is held last character first.
-/

namespace GovernanceDesk.Yaml
open Text
set_option autoImplicit false

/-! ## Words without quotes -/

def isFlowMark (c : Char) : Bool :=
  [',', '[', ']', '\x7b', '\x7d'].contains c

/-- Whether a word without quotes can start at the front of a text. -/
def startsPlain (inFlow : Bool) : List Char → Bool
  | [] => false
  | x :: rest =>
    if isGap x then false
    else if x = '-' then !rest.head?.any isBlank
    else if x = '?' ∨ x = ':' then !inFlow && !rest.head?.all isGap
    else !isIndicator x

/-- Whether a word without quotes ends before the front of a text. -/
def endsPlain (inFlow : Bool) : List Char → Bool
  | [] => true
  | ':' :: rest => rest.head?.all isGap
  | x :: _ => inFlow && isFlowMark x

/-- A colon right before a mark of a list or record would be ambiguous. -/
def isAmbiguousColon (inFlow : Bool) : List Char → Bool
  | ':' :: x :: _ => inFlow && (isFlowMark x || x == '?')
  | _ => false

/-- The word that goes on after a gap. Its lines after the first are moved in to column `margin`,
and not by tabs. -/
def takePlainFrom (inFlow : Bool) (margin : Nat) :
    List Char → List Char → Gap → Position → Option (String × Bool × Cursor)
  | [], done, g, p => some (String.ofList done.reverse, !g.isOnLine, ⟨[], p⟩)
  | x :: rest, done, g, p =>
    if isBlank x || isBreak x then
      if x = '\t' ∧ !g.isOnLine ∧ p.column < margin then none
      else takePlainFrom inFlow margin rest done (g.extended x) (p.past x)
    else
      let isOver := !inFlow && !g.isOnLine && decide (p.column < margin)
      let isElse := !g.isNone && (isDocumentMark p (x :: rest) || x == '#')
      if !isOver && !isElse && isAmbiguousColon inFlow (x :: rest) then none
      else if isOver || isElse || endsPlain inFlow (x :: rest) then
        some (String.ofList done.reverse, !g.isOnLine, ⟨x :: rest, p⟩)
      else takePlainFrom inFlow margin rest (x :: (g.text.reverse ++ done)) .none (p.past x)

/-- A word, whether lines were crossed after its last part, and the place after it. -/
def takePlain? (inFlow : Bool) (margin : Nat) (c : Cursor) : Option (String × Bool × Cursor) :=
  takePlainFrom inFlow margin c.rest [] .none c.position

/-! ## Quoted texts -/

/-- The text up to the closing quote; a quote that is written twice stands for itself. -/
def takeSingleQuotedFrom : List Char → List Char → Gap → Position → Option (String × Cursor)
  | [], _, _, _ => none
  | x :: rest, done, g, p =>
    if isBlank x || isBreak x then takeSingleQuotedFrom rest done (g.extended x) (p.past x)
    else if isDocumentMark p (x :: rest) then none
    else
      let done := g.text.reverse ++ done
      match x, rest with
      | '\'', '\'' :: more =>
        takeSingleQuotedFrom more ('\'' :: done) .none ((p.past x).past x)
      | '\'', _ => some (String.ofList done.reverse, ⟨rest, p.past x⟩)
      | x, rest => takeSingleQuotedFrom rest (x :: done) .none (p.past x)

def takeSingleQuoted? (c : Cursor) : Option (String × Cursor) :=
  takeSingleQuotedFrom c.rest [] .none c.position

/-- What an escape asks for: a character, the character with a code of so many hexadecimal digits,
or nothing in place of a line break. -/
inductive Escape where
  | char (c : Char)
  | code (width : Nat)
  | lineBreak

def escape? (x : Char) : Option Escape :=
  match x with
  | 'x' => some (.code 2)
  | 'u' => some (.code 4)
  | 'U' => some (.code 8)
  | '\t' | ' ' | '/' => some (.char x)
  | x =>
    if isBreak x then some .lineBreak
    else (escapeLetters.find? fun e => e.2 == x).map fun e => .char (Char.ofNat e.1)

/-- The character with a code, surrogates excluded. -/
def codeChar? (n : Nat) : Option Char :=
  if n < 0xD800 ∨ (0xE000 ≤ n ∧ n ≤ 0x10FFFF) then some (Char.ofNat n) else none

/-- Where the reader of a quoted text stands. -/
inductive InQuotes where
  | text
  /-- After a backslash. -/
  | escape
  /-- In the digits of a code: how many are missing, and the value so far. -/
  | code (missing value : Nat)
  /-- On a line after an escaped line break. -/
  | joined

/-- The text up to the closing quote. -/
def takeDoubleQuotedFrom :
    List Char → List Char → Gap → InQuotes → Position → Option (String × Cursor)
  | [], _, _, _, _ => none
  | x :: rest, done, _, .escape, p => do
    match ← escape? x with
    | .char c => takeDoubleQuotedFrom rest (c :: done) .none .text (p.past x)
    | .code width => takeDoubleQuotedFrom rest done .none (.code width 0) (p.past x)
    | .lineBreak => takeDoubleQuotedFrom rest done .none .joined (p.past x)
  | x :: rest, done, _, .code missing value, p => do
    let value := 16 * value + (← Word.radixDigit? 16 x)
    if missing ≤ 1 then
      takeDoubleQuotedFrom rest ((← codeChar? value) :: done) .none .text (p.past x)
    else takeDoubleQuotedFrom rest done .none (.code (missing - 1) value) (p.past x)
  | x :: rest, done, g, .joined, p =>
    if isBlank x then takeDoubleQuotedFrom rest done g .joined (p.past x)
    else if isBreak x then takeDoubleQuotedFrom rest (x :: done) g .joined (p.past x)
    else if isDocumentMark p (x :: rest) then none
    else if x = '"' then some (String.ofList done.reverse, ⟨rest, p.past x⟩)
    else if x = '\\' then takeDoubleQuotedFrom rest done .none .escape (p.past x)
    else takeDoubleQuotedFrom rest (x :: done) .none .text (p.past x)
  | x :: rest, done, g, .text, p =>
    if isBlank x || isBreak x then
      takeDoubleQuotedFrom rest done (g.extended x) .text (p.past x)
    else if isDocumentMark p (x :: rest) then none
    else
      let done := g.text.reverse ++ done
      if x = '"' then some (String.ofList done.reverse, ⟨rest, p.past x⟩)
      else if x = '\\' then takeDoubleQuotedFrom rest done .none .escape (p.past x)
      else takeDoubleQuotedFrom rest (x :: done) .none .text (p.past x)

def takeDoubleQuoted? (c : Cursor) : Option (String × Cursor) :=
  takeDoubleQuotedFrom c.rest [] .none .text c.position

/-! ## Blocks of lines -/

/-- What becomes of the line breaks at the end of a block. -/
inductive Chomp where
  | strip
  | clip
  | keep
deriving DecidableEq

structure BlockHeader where
  chomp : Chomp
  indent : Option Nat

def chompOf? : Char → Option Chomp
  | '+' => some .keep
  | '-' => some .strip
  | _ => none

def indentOf? (c : Char) : Option Nat :=
  if isDecimalDigit c && c != '0' then some (digitValue c) else none

/-- The marks after the bar or angle of a block, in either order. -/
def takeBlockHeader (c : Cursor) : BlockHeader × Cursor :=
  let first := c.head?
  let second := c.rest.tail.head?
  match first.bind chompOf?, first.bind indentOf?, second.bind chompOf?, second.bind indentOf? with
  | some chomp, _, _, some indent | _, some indent, some chomp, _ =>
    (⟨chomp, some indent⟩, c.advance 2)
  | some chomp, _, _, _ => (⟨chomp, none⟩, c.next)
  | _, some indent, _, _ => (⟨.clip, some indent⟩, c.next)
  | _, _, _, _ => (⟨.clip, none⟩, c)

/-- A block that is part way read. -/
structure Block where
  isFolded : Bool
  /-- The least column of its lines. -/
  outer : Nat
  /-- The column of its lines, once it is known. -/
  indent? : Option Nat
  /-- The deepest column that blank lines reach. -/
  deepest : Nat
  done : List Char
  /-- The break that ended the line before, and the breaks after it. -/
  lead : List Char
  trail : List Char
  /-- Whether the line before begins with a blank. -/
  wasBlankLed : Bool

namespace Block

def start (isFolded : Bool) (outer : Nat) (indent? : Option Nat) : Block :=
  ⟨isFolded, outer, indent?, 0, [], [], [], false⟩

def isInside (b : Block) (column : Nat) : Bool :=
  b.indent?.all fun indent => decide (column < indent)

def indent (b : Block) : Nat :=
  b.indent?.getD (max 1 (max b.outer b.deepest))

/-- A line begins with the given character. A folded line break counts for a space. -/
def begun (b : Block) (x : Char) : Block :=
  let isFolding := b.isFolded && b.lead == ['\n'] && !b.wasBlankLed && !isBlank x
  let lead := if !isFolding then b.lead else if b.trail.isEmpty then [' '] else []
  { b with
    indent? := some b.indent
    done := x :: (b.trail ++ (lead ++ b.done))
    lead := []
    trail := []
    wasBlankLed := isBlank x }

def text (b : Block) (chomp : Chomp) : String :=
  String.ofList <| List.reverse <| match chomp with
    | .strip => b.done
    | .clip => b.lead ++ b.done
    | .keep => b.trail ++ (b.lead ++ b.done)

/-- The lines of a block. A tab before the column of its lines is refused. -/
def take? : List Char → Bool → Block → Position → Option (Block × Cursor)
  | [], _, b, p => some (b, ⟨[], p⟩)
  | x :: rest, true, b, p =>
    if isBreak x then take? rest false { b with lead := [x] } (p.past x)
    else take? rest true { b with done := x :: b.done } (p.past x)
  | x :: rest, false, b, p =>
    if x = ' ' ∧ b.isInside p.column then
      take? rest false { b with deepest := max b.deepest (p.column + 1) } (p.past x)
    else if x = '\t' ∧ b.isInside p.column then none
    else if isBreak x then take? rest false { b with trail := x :: b.trail } (p.past x)
    else if p.column = b.indent then take? rest true (b.begun x) (p.past x)
    else some (b, ⟨x :: rest, p⟩)

end Block

/-- A block of lines from the character after its bar or angle on. `outer` is the column of the
node that holds it, plus one; its lines are moved in at least that far. -/
def takeBlock? (isFolded : Bool) (outer : Nat) (c : Cursor) : Option (String × Cursor) := do
  let (header, c) := takeBlockHeader c
  let c ← c.skipLineEnd?
  let indent? := header.indent.map fun n => outer - 1 + n
  let (b, c) ← Block.take? c.rest false (.start isFolded outer indent?) c.position
  return (b.text header.chomp, c)

end GovernanceDesk.Yaml

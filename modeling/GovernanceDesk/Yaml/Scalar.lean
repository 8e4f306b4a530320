import GovernanceDesk.Yaml.Word

/-!
# Scalars of a YAML document

A text is left plain where it reads back as the same text. Otherwise it is quoted, or written as a
block of lines if it has line breaks.

* `Yaml.Style`, `Yaml.styleOf`: the style a text is written in.
* `Yaml.scalarChars`: the text in its style, for a node at a given indentation.
-/

namespace GovernanceDesk.Yaml
open Text
set_option autoImplicit false

/-! ## Characters -/

def isBreak (c : Char) : Bool :=
  ['\n', '\r', Char.ofNat 0x85, Char.ofNat 0x2028, Char.ofNat 0x2029].contains c

def isBlank (c : Char) : Bool :=
  c == ' ' || c == '\t'

/-- Blanks, line breaks and the null character: what a word ends before. -/
def isGap (c : Char) : Bool :=
  isBlank c || isBreak c || c == Char.ofNat 0

/-- Characters that may stand in a document as they are, outside of escapes. -/
def isPrintable (c : Char) : Bool :=
  let n := c.toNat
  n == 0x0A || (0x20 ≤ n && n ≤ 0x7E) || (0xA0 ≤ n && n ≤ 0xD7FF) ||
    (0xE000 ≤ n && n ≤ 0xFFFD && n != 0xFEFF) || 0x10000 ≤ n

/-- Characters with a meaning of their own at the start of a word. -/
def isIndicator (c : Char) : Bool :=
  [',', '[', ']', '\x7b', '\x7d', '#', '&', '*', '!', '|', '>', '\'', '"', '%', '@',
    Char.ofNat 0x60].contains c

/-! ## Styles -/

inductive Style where
  | plain
  | singleQuoted
  | doubleQuoted
  | literal
deriving DecidableEq

def pairs (cs : List Char) : List (Char × Char) :=
  cs.zip cs.tail

def hasSpaceBeforeBreak (cs : List Char) : Bool :=
  (pairs cs).any fun p => p.1 == ' ' && isBreak p.2

def hasSpaceAfterBreak (cs : List Char) : Bool :=
  (pairs cs).any fun p => isBreak p.1 && p.2 == ' '

/-- Whether the first character would be taken for more than the start of a word. -/
def isMarkedStart : List Char → Bool
  | [] => false
  | c :: rest =>
    isIndicator c ||
      ((c == '-' || c == '?' || c == ':') && rest.head?.all isGap)

/-- Whether a colon or a number sign inside the text would end the word. -/
def isMarkedInside (cs : List Char) : Bool :=
  (pairs cs).any (fun p => isGap p.1 && p.2 == '#') ||
    (pairs cs.tail).any (fun p => p.1 == ':' && isGap p.2) ||
    cs.tail.getLast? == some ':'

/-- Whether the text begins like the line that opens or closes a document. -/
def isMarkedDocument (cs : List Char) : Bool :=
  cs.take 3 == ['-', '-', '-'] || cs.take 3 == ['.', '.', '.']

def isSpaceOrBreak (c : Char) : Bool :=
  c == ' ' || isBreak c

def mayBePlain (cs : List Char) : Bool :=
  cs.all isPrintable && !cs.any isBreak && !cs.head?.any isSpaceOrBreak &&
    !cs.getLast?.any isSpaceOrBreak && !isMarkedStart cs && !isMarkedInside cs &&
    !isMarkedDocument cs

def mayBeSingleQuoted (cs : List Char) : Bool :=
  cs.all isPrintable && !hasSpaceBeforeBreak cs && !hasSpaceAfterBreak cs

def mayBeLiteral (cs : List Char) : Bool :=
  cs.all isPrintable && !hasSpaceBeforeBreak cs && cs.getLast? != some ' '

def styleOf (s : String) : Style :=
  let cs := s.toList
  if cs.contains '\n' then
    if mayBeLiteral cs then .literal else .doubleQuoted
  else if !Word.isSpecial s && mayBePlain cs then .plain
  else if mayBeSingleQuoted cs then .singleQuoted
  else .doubleQuoted

/-! ## Writing -/

def hexDigit (n : Nat) : Char :=
  if n < 10 then Char.ofNat ('0'.toNat + n) else Char.ofNat ('A'.toNat + (n - 10))

def hexChars : Nat → Nat → List Char
  | 0, _ => []
  | width + 1, n => hexChars width (n / 16) ++ [hexDigit (n % 16)]

/-- The letters that stand for a character after a backslash. -/
def escapeLetters : List (Nat × Char) :=
  [(0x00, '0'), (0x07, 'a'), (0x08, 'b'), (0x09, 't'), (0x0A, 'n'), (0x0B, 'v'), (0x0C, 'f'),
    (0x0D, 'r'), (0x1B, 'e'), (0x22, '"'), (0x5C, '\\'), (0x85, 'N'), (0xA0, '_'), (0x2028, 'L'),
    (0x2029, 'P')]

def escaped (c : Char) : List Char :=
  let n := c.toNat
  match escapeLetters.lookup n with
  | some letter => ['\\', letter]
  | none =>
    if n ≤ 0xFF then '\\' :: 'x' :: hexChars 2 n
    else if n ≤ 0xFFFF then '\\' :: 'u' :: hexChars 4 n
    else '\\' :: 'U' :: hexChars 8 n

def doubleQuotedChars (cs : List Char) : List Char :=
  '"' :: cs.flatMap (fun c =>
    if isPrintable c && !isBreak c && c != '"' && c != '\\' then [c] else escaped c) ++ ['"']

/-- Characters with every line after the first moved in by `indent`; a blank line stays blank. -/
def indented (indent : Nat) : Bool → List Char → List Char
  | _, [] => []
  | atStart, c :: rest =>
    if isBreak c then c :: indented indent true rest
    else if atStart then List.replicate indent ' ' ++ c :: indented indent false rest
    else c :: indented indent false rest

def singleQuotedChars (indent : Nat) (cs : List Char) : List Char :=
  let doubled := cs.flatMap fun c => if c = '\'' then ['\'', '\''] else [c]
  let closing := if cs.getLast?.any isBreak then List.replicate indent ' ' else []
  '\'' :: indented indent false doubled ++ closing ++ ['\'']

/-- What follows the bar of a block: its indentation if it starts with a space or a break, and
whether it ends without a line break or with several. -/
def blockHints (cs : List Char) : List Char :=
  let indentHint := if cs.head?.any isSpaceOrBreak then ['2'] else []
  let endHint := match cs.reverse with
    | [] => ['-']
    | c :: rest =>
      if !isBreak c then ['-'] else if rest.head?.all isBreak then ['+'] else []
  indentHint ++ endHint

/-- A block of lines; it ends where its last line does. -/
def literalChars (indent : Nat) (cs : List Char) : List Char :=
  '|' :: blockHints cs ++ '\n' :: indented indent true cs ++
    (if cs.getLast?.any isBreak then [] else ['\n'])

/-- The text in its style with the line break that ends it, in a node whose content lines are moved
in by `indent`. -/
def scalarLine (indent : Nat) (s : String) : List Char :=
  let cs := s.toList
  match styleOf s with
  | .plain => cs ++ ['\n']
  | .singleQuoted => singleQuotedChars indent cs ++ ['\n']
  | .doubleQuoted => doubleQuotedChars cs ++ ['\n']
  | .literal => literalChars indent cs

end GovernanceDesk.Yaml

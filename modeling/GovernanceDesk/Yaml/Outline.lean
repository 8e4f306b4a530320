import GovernanceDesk.Yaml.Token

/-!
# The outline of a YAML document

Blocks have no marks of their own: where one begins and ends shows in the columns of its lines, and
that a node is a key shows in the colon after it. The outline of a document is its tokens with such
marks put in.

* `Yaml.Outline`: an outline that is part way drawn.
* `Yaml.Outline.next?`: the outline with the next token.
* `Yaml.tokens?`: the tokens of a whole text.

A column is compared through margins: the margin of a block is its column plus one, and outside of
all blocks it is zero.
-/

namespace GovernanceDesk.Yaml
set_option autoImplicit false

/-- A node that is a key if a colon follows. -/
structure KeyMark where
  /-- Whether nothing else can stand there. -/
  isNeeded : Bool
  /-- How many tokens lie before it. -/
  index : Nat
  position : Position

structure Outline where
  place : Cursor
  /-- The tokens, the last one first, and how many there are. -/
  tokens : List Token
  count : Nat
  margin : Nat
  /-- The margins of the blocks around the innermost one. -/
  outer : List Nat
  /-- Whether a new entry may begin here. -/
  mayBegin : Bool
  /-- The node that may turn out a key, in the innermost open collection and in those around. -/
  keyMark? : Option KeyMark
  outerMarks : List (Option KeyMark)

/-- How long a key may be, in bytes. -/
def maxKeyLength : Nat := 1024

namespace Outline

def start (s : String) : Outline :=
  ⟨.ofText s, [], 0, 0, [], true, none, []⟩

/-- Whether brackets or braces are open. -/
def inFlow (o : Outline) : Bool :=
  !o.outerMarks.isEmpty

def add (token : Token) (o : Outline) : Outline :=
  { o with tokens := token :: o.tokens, count := o.count + 1 }

/-- Puts a token in where there were only `index` tokens. -/
def insert (index : Nat) (token : Token) (o : Outline) : Outline :=
  let later := o.count - index
  { o with
    tokens := o.tokens.take later ++ token :: o.tokens.drop later
    count := o.count + 1 }

/-- Adds a token of one character. -/
def addMark (token : Token) (o : Outline) : Outline :=
  { o.add token with place := o.place.next }

/-! ## Keys -/

/-- Whether a node lies too far back to be a key. -/
def isStale (o : Outline) (mark : KeyMark) : Bool :=
  mark.position.line < o.place.position.line ||
    mark.position.offset + maxKeyLength < o.place.position.offset

/-- A mark unless it is stale; one that is needed must not be. -/
def refreshed? (o : Outline) : Option KeyMark → Option (Option KeyMark)
  | none => some none
  | some mark =>
    if !o.isStale mark then some (some mark) else if mark.isNeeded then none else some none

def refresh? (o : Outline) : Option Outline := do
  let keyMark? ← o.refreshed? o.keyMark?
  let outerMarks ← o.outerMarks.mapM o.refreshed?
  return { o with keyMark? := keyMark?, outerMarks := outerMarks }

/-- Gives up the node that may turn out a key. -/
def dropKey? (o : Outline) : Option Outline :=
  if o.keyMark?.any KeyMark.isNeeded then none else some { o with keyMark? := none }

/-- Takes note that the node that begins here may turn out a key. -/
def markKey? (o : Outline) : Option Outline := do
  if o.mayBegin then
    let isNeeded := !o.inFlow && o.margin == o.place.column + 1
    let o ← o.dropKey?
    return { o with keyMark? := some ⟨isNeeded, o.count, o.place.position⟩ }
  else return o

/-! ## Blocks -/

/-- Begins a block at a column unless the innermost one begins there or further in; the token that
says so goes where there were only `index` tokens. -/
def beginBlock (column index : Nat) (token : Token) (o : Outline) : Outline :=
  if o.inFlow || column < o.margin then o
  else { o.insert index token with margin := column + 1, outer := o.margin :: o.outer }

def endBlocksFrom (margin : Nat) : List Nat → Outline → Outline
  | [], o => o
  | around :: rest, o =>
    if margin < o.margin then
      endBlocksFrom margin rest { o.add .blockEnd with margin := around, outer := rest }
    else o

/-- Ends the blocks whose margins are wider than a given one. -/
def endBlocks (margin : Nat) (o : Outline) : Outline :=
  if o.inFlow then o else endBlocksFrom margin o.outer o

/-! ## Tokens -/

/-- A mark that stands outside of all blocks. -/
def outside? (o : Outline) : Option Outline := do
  let o ← (o.endBlocks 0).dropKey?
  return { o with mayBegin := false }

def openFlow? (token : Token) (o : Outline) : Option Outline := do
  let o ← o.markKey?
  return {
    o.addMark token with
    mayBegin := true
    keyMark? := none
    outerMarks := o.keyMark? :: o.outerMarks }

def closeFlow? (token : Token) (o : Outline) : Option Outline := do
  let o ← o.dropKey?
  let (keyMark?, outerMarks) := match o.outerMarks with
    | [] => (o.keyMark?, [])
    | mark? :: rest => (mark?, rest)
  return {
    o.addMark token with mayBegin := false, keyMark? := keyMark?, outerMarks := outerMarks }

def comma? (o : Outline) : Option Outline := do
  let o ← o.dropKey?
  return { o.addMark .comma with mayBegin := true }

/-- A hyphen begins a list. In flow style it is left to be refused later. -/
def hyphen? (o : Outline) : Option Outline := do
  if !o.inFlow && !o.mayBegin then none
  let o ← (o.beginBlock o.place.column o.count .blockList).dropKey?
  return { o.addMark .hyphen with mayBegin := true }

/-- A question mark before a key. -/
def key? (o : Outline) : Option Outline := do
  if !o.inFlow && !o.mayBegin then none
  let o ← (o.beginBlock o.place.column o.count .blockFields).dropKey?
  return { o.addMark .key with mayBegin := !o.inFlow }

/-- A colon makes the node before it a key, if that can be one. -/
def colon? (o : Outline) : Option Outline :=
  match o.keyMark? with
  | some mark =>
    let o := (o.insert mark.index .key).beginBlock mark.position.column mark.index .blockFields
    some { o.addMark .colon with mayBegin := false, keyMark? := none }
  | none =>
    if !o.inFlow && !o.mayBegin then none
    else
      let o := o.beginBlock o.place.column o.count .blockFields
      some { o.addMark .colon with mayBegin := !o.inFlow }

/-- A token that may belong to a key, read from the character after the one at hand on. -/
def word? (read : Cursor → Option (Token × Cursor)) (o : Outline) : Option Outline := do
  let o ← o.markKey?
  let (token, place) ← read o.place.next
  return { o.add token with place := place, mayBegin := false }

def quoted? (read : Cursor → Option (String × Cursor)) (o : Outline) : Option Outline :=
  o.word? fun c => (read c).map fun r => (.scalar .other r.1, r.2)

def block? (isFolded : Bool) (o : Outline) : Option Outline := do
  let o ← o.dropKey?
  let (text, place) ← takeBlock? isFolded o.margin o.place.next
  let form := if isFolded then .other else .literal
  return { o.add (.scalar form text) with place := place, mayBegin := true }

def plain? (o : Outline) : Option Outline := do
  let o ← o.markKey?
  let (text, crossed, place) ← takePlain? o.inFlow o.margin o.place
  return { o.add (.scalar .plain text) with place := place, mayBegin := crossed }

def directive? (o : Outline) : Option Outline := do
  let o ← o.outside?
  let (token, place) ← takeDirective? o.place.next
  return { o.add token with place := place }

def documentMark? (token : Token) (o : Outline) : Option Outline := do
  let o ← o.outside?
  return { o.add token with place := o.place.advance 3 }

/-- Whether a character stands here for itself: in flow style always, else before a gap. -/
def isAtMark (mark : Char) (o : Outline) : Bool :=
  if o.inFlow then o.place.head? == some mark else o.place.isAtMark mark

/-- The token that begins at the place, which is not at the end of the text. -/
def token? (o : Outline) (x : Char) : Option Outline :=
  if x = '%' ∧ o.place.column = 0 then o.directive?
  else if isDocumentMark o.place.position o.place.rest then
    o.documentMark? (if x = '-' then .documentStart else .documentEnd)
  else if x = '[' then o.openFlow? .openList
  else if x = '\x7b' then o.openFlow? .openFields
  else if x = ']' then o.closeFlow? .closeList
  else if x = '\x7d' then o.closeFlow? .closeFields
  else if x = ',' then o.comma?
  else if o.place.isAtMark '-' then o.hyphen?
  else if o.isAtMark '?' then o.key?
  else if o.isAtMark ':' then o.colon?
  else if x = '*' then o.word? fun c => (takeNamed? c).map fun r => (.reference r.1, r.2)
  else if x = '&' then o.word? fun c => (takeNamed? c).map fun r => (.anchor r.1, r.2)
  else if x = '!' then o.word? (takeTag? o.inFlow)
  else if x = '|' ∧ !o.inFlow then o.block? false
  else if x = '>' ∧ !o.inFlow then o.block? true
  else if x = '\'' then o.quoted? takeSingleQuoted?
  else if x = '"' then o.quoted? takeDoubleQuoted?
  else if startsPlain o.inFlow o.place.rest then o.plain?
  else none

/-- The outline with the next token in it, and those that its place calls for. -/
def next? (o : Outline) : Option Outline := do
  let (mayBegin, place) := o.place.skipLines o.inFlow o.mayBegin
  let o ← { o with mayBegin := mayBegin, place := place }.refresh?
  match place.head? with
  | some x => (o.endBlocks (place.column + 1)).token? x
  | none => return (← o.outside?).add .finish

/-- The tokens up to the end of the text. -/
def complete? : Nat → Outline → Option (List Token)
  | 0, _ => none
  | fuel + 1, o =>
    match o.tokens with
    | .finish :: _ => some o.tokens.reverse
    | _ => o.next?.bind (complete? fuel)

end Outline

/-! ## Texts -/

/-- The characters that a document may hold. -/
def isAllowed (c : Char) : Bool :=
  isPrintable c || c == '\t' || isBreak c || c.toNat == 0xFEFF

/-- The tokens of a text, the last of them `Token.finish`. Each takes a character at least. -/
def tokens? (s : String) : Option (List Token) :=
  if s.toList.all isAllowed then Outline.complete? (s.toList.length + 2) (.start s) else none

end GovernanceDesk.Yaml

import GovernanceDesk.Yaml.Outline

/-!
# Nodes of a YAML document

* `Yaml.Tag`: what a tag says about the type of a node.
* `Yaml.Node`: scalars, lists, records, and names that stand for nodes.
* `Yaml.Document`: a node with the nodes that names stand for.
* `Yaml.document?`: the one document that a text is.

A name stands for the node that was given it last. Nodes with names are numbered by how many names
were known, so a name that is given again shares its number with the next new one.
-/

namespace GovernanceDesk.Yaml
set_option autoImplicit false

/-! ## Tags -/

inductive Tag where
  | none
  | null
  | bool
  | int
  | float
  /-- A tag of the document's own. -/
  | own (name : String)
  /-- A tag of the document's own whose bytes are no text. -/
  | garbled
  | foreign
deriving DecidableEq

/-- What the tags of the language itself begin with. -/
def coreStem : List UInt8 :=
  "tag:yaml.org,2002:".toUTF8.toList

namespace Tag

/-- The tag of some bytes. A tag of the document's own begins with an exclamation mark, which is
its name if nothing follows. -/
def ofBytes (bytes : List UInt8) : Tag :=
  match bytes with
  | 33 :: rest =>
    match String.fromUTF8? ⟨(if rest.isEmpty then [bang] else rest).toArray⟩ with
    | some name => own name
    | Option.none => garbled
  | bytes =>
    if bytes == coreStem ++ "null".toUTF8.toList then null
    else if bytes == coreStem ++ "bool".toUTF8.toList then bool
    else if bytes == coreStem ++ "int".toUTF8.toList then int
    else if bytes == coreStem ++ "float".toUTF8.toList then float
    else foreign

def own? : Tag → Option String
  | own name => some name
  | _ => Option.none

def isOwn (t : Tag) : Bool := t.own?.isSome

end Tag

/-! ## Nodes -/

/-- What stands before a node: its number, if it is given a name, and its tag. -/
structure Label where
  number? : Option Nat
  tag : Tag

def Label.none : Label := ⟨Option.none, .none⟩

inductive Node where
  | scalar (label : Label) (form : ScalarForm) (text : String)
  | list (label : Label) (items : List Node)
  | fields (label : Label) (entries : List (Node × Node))
  /-- The node with a number. -/
  | reference (number : Nat)

namespace Node

/-- The node that stands where nothing is written. -/
def nothing : Node := scalar .none .plain ""

instance : Inhabited Node := ⟨nothing⟩

mutual

/-- How much there is of a node: one for a scalar or a name, two for the ends of a collection. -/
def size : Node → Nat
  | scalar .. | reference _ => 1
  | list _ items => 2 + sizeItems items
  | fields _ entries => 2 + sizeEntries entries

def sizeItems : List Node → Nat
  | [] => 0
  | n :: rest => n.size + sizeItems rest

def sizeEntries : List (Node × Node) → Nat
  | [] => 0
  | (key, value) :: rest => key.size + value.size + sizeEntries rest

end

def numbered (label : Label) (n : Node) : List (Nat × Node) :=
  match label.number? with
  | some number => [(number, n)]
  | none => []

mutual

/-- The nodes with numbers, in the order in which they begin. -/
def named : Node → List (Nat × Node)
  | scalar label form text => numbered label (scalar label form text)
  | list label items => numbered label (list label items) ++ namedItems items
  | fields label entries => numbered label (fields label entries) ++ namedEntries entries
  | reference _ => []

def namedItems : List Node → List (Nat × Node)
  | [] => []
  | n :: rest => n.named ++ namedItems rest

def namedEntries : List (Node × Node) → List (Nat × Node)
  | [] => []
  | (key, value) :: rest => key.named ++ value.named ++ namedEntries rest

end

end Node

/-! ## Taking tokens -/

/-- A document that is part way read: the tokens that are left, the number of each name, and what
the handles of tags stand for. -/
structure Progress where
  tokens : List Token
  numbers : List (String × Nat)
  handles : List (String × List UInt8)

abbrev Taking := StateT Progress Option

namespace Taking

def peek : Taking Token := do
  return (← get).tokens.headD .finish

def skip : Taking Unit :=
  modify fun s => { s with tokens := s.tokens.tail }

def expect (token : Token) : Taking Unit := do
  if (← peek) = token then skip else failure

def next : Taking Token := do
  let token ← peek
  skip
  return token

/-! ### Names and tags -/

def number (name : String) : Taking Nat := do
  (← get).numbers.lookup name

def replaceNumber (name : String) (number : Nat) : List (String × Nat) → List (String × Nat)
  | [] => [(name, number)]
  | e :: rest => if e.1 = name then (name, number) :: rest else e :: replaceNumber name number rest

/-- Gives a name to the node that begins. -/
def giveName (name : String) : Taking Nat := do
  let s ← get
  let number := s.numbers.length
  set { s with numbers := replaceNumber name number s.numbers }
  return number

def resolve (handle : String) (suffix : List UInt8) : Taking Tag := do
  if handle.isEmpty then return .ofBytes suffix
  else return .ofBytes ((← (← get).handles.lookup handle) ++ suffix)

/-- A name and a tag in either order, or none where neither stands. -/
def label? : Taking (Option Label) := do
  match ← peek with
  | .anchor name => do
    skip
    match ← peek with
    | .tag handle suffix => do
      skip
      let tag ← resolve handle suffix
      return some ⟨some (← giveName name), tag⟩
    | _ => return some ⟨some (← giveName name), .none⟩
  | .tag handle suffix => do
    skip
    match ← peek with
    | .anchor name => do
      skip
      let tag ← resolve handle suffix
      return some ⟨some (← giveName name), tag⟩
    | _ => return some ⟨none, ← resolve handle suffix⟩
  | _ => return none

/-! ### Nodes -/

/-- Whether a block ends, or one of its entries goes on, at a token. -/
def endsEntry : Token → Bool
  | .key | .colon | .blockEnd => true
  | _ => false

def endsItem : Token → Bool
  | .hyphen | .blockEnd => true
  | _ => false

/-- Whether a flow list or record goes on or ends at a token. -/
def endsInFlow (close : Token) (token : Token) : Bool :=
  token = .comma || token = close

/-- A node unless a token shows that there is none. -/
def unlessAt (ends : Token → Bool) (take : Taking Node) : Taking Node := do
  if ends (← peek) then return .nothing else take

/-- Past the comma before every part of a flow list or record but the first. -/
def separator (isFirst : Bool) (close : Token) : Taking Unit := do
  if !isFirst && (← peek) ≠ close then expect .comma

mutual

/-- The node at hand. Only in a block may it be a block, and only where `mayStandAtName` a list
whose hyphens stand at the column of its name. -/
def node : Nat → Bool → Bool → Taking Node
  | 0, _, _ => failure
  | fuel + 1, inBlock, mayStandAtName => do
    if let .reference name ← peek then
      skip
      return .reference (← number name)
    let label? ← label?
    let label := label?.getD .none
    match ← peek, inBlock, mayStandAtName with
    | .hyphen, _, true => return .list label (← itemsAtName fuel)
    | .scalar form text, _, _ => do
      skip
      return .scalar label form text
    | .openList, _, _ => do
      skip
      return .list label (← flowItems fuel true)
    | .openFields, _, _ => do
      skip
      return .fields label (← flowEntries fuel true)
    | .blockList, true, _ => do
      skip
      return .list label (← items fuel)
    | .blockFields, true, _ => do
      skip
      return .fields label (← entries fuel)
    | _, _, _ => if label?.isSome then return .scalar label .plain "" else failure

def items : Nat → Taking (List Node)
  | 0 => failure
  | fuel + 1 => do
    match ← next with
    | .hyphen => do
      let item ← unlessAt endsItem (node fuel true false)
      return item :: (← items fuel)
    | .blockEnd => return []
    | _ => failure

def itemsAtName : Nat → Taking (List Node)
  | 0 => failure
  | fuel + 1 => do
    match ← peek with
    | .hyphen => do
      skip
      let item ← unlessAt (fun t => endsItem t || endsEntry t) (node fuel true false)
      return item :: (← itemsAtName fuel)
    | _ => return []

def entries : Nat → Taking (List (Node × Node))
  | 0 => failure
  | fuel + 1 => do
    match ← next with
    | .key => do
      let key ← unlessAt endsEntry (node fuel true true)
      let value ← if (← peek) = .colon then do
          skip
          unlessAt endsEntry (node fuel true true)
        else pure .nothing
      return (key, value) :: (← entries fuel)
    | .blockEnd => return []
    | _ => failure

/-- An item that is introduced as a key is a record of one entry. -/
def flowItems : Nat → Bool → Taking (List Node)
  | 0, _ => failure
  | fuel + 1, isFirst => do
    separator isFirst .closeList
    match ← peek with
    | .closeList => do
      skip
      return []
    | .key => do
      skip
      let item ← pair fuel
      return item :: (← flowItems fuel false)
    | _ => do
      let item ← node fuel false false
      return item :: (← flowItems fuel false)

/-- The record of one entry; where its key is left out, the token there is lost. -/
def pair : Nat → Taking Node
  | 0 => failure
  | fuel + 1 => do
    let token ← peek
    let key ← if token = .colon || endsInFlow .closeList token then do
        skip
        pure .nothing
      else node fuel false false
    let value ← flowValue fuel .closeList
    return .fields .none [(key, value)]

def flowEntries : Nat → Bool → Taking (List (Node × Node))
  | 0, _ => failure
  | fuel + 1, isFirst => do
    separator isFirst .closeFields
    match ← peek with
    | .closeFields => do
      skip
      return []
    | .key => do
      skip
      let key ← unlessAt (fun t => t = .colon || endsInFlow .closeFields t) (node fuel false false)
      let value ← flowValue fuel .closeFields
      return (key, value) :: (← flowEntries fuel false)
    | _ => do
      let key ← node fuel false false
      return (key, .nothing) :: (← flowEntries fuel false)

/-- What follows a colon in flow style, which may be nothing. -/
def flowValue : Nat → Token → Taking Node
  | 0, _ => failure
  | fuel + 1, close => do
    if (← peek) = .colon then
      skip
      unlessAt (endsInFlow close) (node fuel false false)
    else return .nothing

end

/-! ### Documents -/

/-- The handles that need not be declared. -/
def standardHandles : List (String × List UInt8) :=
  [("!", [bang]), ("!!", coreStem)]

/-- The lines before a document: the version at most once, each handle at most once. -/
def directives : Nat → Bool → Taking Unit
  | 0, _ => failure
  | fuel + 1, isVersionKnown => do
    match ← peek with
    | .version major minor =>
      if isVersionKnown || major ≠ 1 || (minor ≠ 1 && minor ≠ 2) then failure
      else
        skip
        directives fuel true
    | .handle name stem => do
      let s ← get
      if (s.handles.lookup name).isSome then failure
      else
        set { s with handles := s.handles ++ [(name, stem)] }
        skip
        directives fuel isVersionKnown
    | _ => return ()

/-- What stands after the mark that opens a document, which may be nothing. -/
def opened (fuel : Nat) : Taking Node :=
  unlessAt (fun t => match t with
    | .version .. | .handle .. | .documentStart | .documentEnd | .finish => true
    | _ => false) (node fuel true false)

def addStandardHandles : Taking Unit :=
  modify fun s => { s with handles := s.handles ++ standardHandles }

/-- A document that is opened by its mark, with the lines before it, or one without. -/
def root (fuel : Nat) : Taking Node := do
  match ← peek with
  | .version .. | .handle .. | .documentStart => do
    directives fuel false
    addStandardHandles
    expect .documentStart
    opened fuel
  | _ => do
    addStandardHandles
    node fuel true false

def documentEnds : Nat → Taking Unit
  | 0 => failure
  | fuel + 1 => do
    if (← peek) = .documentEnd then
      skip
      documentEnds fuel

/-- The one document of a text; nothing but marks that close it may follow. -/
def whole (fuel : Nat) : Taking Node := do
  let n ← root fuel
  documentEnds fuel
  expect .finish
  return n

end Taking

/-! ## Texts -/

structure Document where
  root : Node
  /-- The nodes with numbers, the last one first. -/
  named : List (Nat × Node)

def Document.ofRoot (root : Node) : Document :=
  ⟨root, root.named.reverse⟩

/-- The document that a text is. A node takes a token at least, and a collection one of its own for
each part, so the fuel is enough. -/
def document? (s : String) : Option Document := do
  let tokens ← tokens? s
  let (root, _) ← (Taking.whole (4 * tokens.length + 8)).run ⟨tokens, [], []⟩
  return .ofRoot root

end GovernanceDesk.Yaml

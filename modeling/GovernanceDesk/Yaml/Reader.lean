import GovernanceDesk.Tree.Coded
import GovernanceDesk.Yaml.Node

/-!
# Reading a YAML document

A document is read by the shape of the value it should hold, because the same word is a text in one
place and a number in another.

* `Yaml.Walk`: reading the nodes of one document.
* `Yaml.draft`: a node without regard to any shape.
* `Shape.walker`: a node of some shape.
* `Yaml.read?`: the value of a whole text.

Names may lead around in circles. A walk goes through no more than a hundred names for each part of
the document, and no more than `maxNesting` collections lie inside each other.
-/

namespace GovernanceDesk.Yaml
set_option autoImplicit false

/-! ## Walks -/

/-- Reading with a document at hand and a count of the names gone through. -/
abbrev Walk := ReaderT Document (StateT Nat Option)

/-- How many collections may lie inside each other on a walk. -/
def maxNesting : Nat := 128

def namesPerPart : Nat := 100

/-- The node that a node stands for. -/
def follow : Node → Walk Node
  | .reference number => do
    let doc ← read
    let gone := (← get) + 1
    set gone
    if namesPerPart * doc.root.size < gone then failure else doc.named.lookup number
  | n => return n

/-- Goes on inside a collection. -/
def within {α : Type} (room : Nat) (go : Nat → Walk α) : Walk α :=
  match room with
  | 0 => failure
  | room + 1 => go room

/-! ## Drafts -/

/-- A scalar whose tag or spelling tells its type. -/
def scalarDraft? (tag : Tag) (form : ScalarForm) (text : String) : Option Draft :=
  match tag with
  | .null => if Word.isNullName text then some .null else none
  | .bool => (Word.bool? text).map .bool
  | .int => Word.whole? text
  | .float => if Word.isReal text then some (.real text) else none
  | .own _ => none
  | .foreign => some (.text text)
  | .none | .garbled => if form = .plain then Word.draft? text else some (.text text)

/-- A node without regard to any shape. Then tags of the document's own have no meaning. -/
def draft : Nat → Node → Walk Draft
  | room, n => do
    match ← follow n with
    | .scalar label form text => scalarDraft? label.tag form text
    | .list label items =>
      match label.tag.isOwn, room with
      | false, room + 1 => .list <$> items.mapM (draft room)
      | _, _ => failure
    | .fields label entries =>
      match label.tag.isOwn, room with
      | false, room + 1 =>
        .fields <$> entries.mapM fun e => do return (← draft room e.1, ← draft room e.2)
      | _, _ => failure
    | .reference _ => failure

/-! ## Leaves -/

def text (n : Node) : Walk String := do
  match ← follow n with
  | .scalar _ _ s => return s
  | _ => failure

/-- A word, or a literal block with a given tag. -/
def word (tag : Tag) (n : Node) : Walk String := do
  match ← follow n with
  | .scalar label form s =>
    if form = .plain || (form = .literal && label.tag = tag) then return s else failure
  | _ => failure

/-- One of some tags: as a text, or as the tag of an empty word. -/
def choice (tags : List String) (n : Node) : Walk String := do
  match ← follow n with
  | .scalar label form s =>
    let isEmpty := form = .plain && Word.isNull s
    let tag ← match label.tag.own? with
      | some name => if isEmpty then pure name else failure
      | none => pure s
    if tags.contains tag then return tag else failure
  | _ => failure

/-- Whether an optional value is left out. -/
def isLeftOut : Node → Walk Bool
  | .scalar label .plain s =>
    match label.tag with
    | .none => return Word.isNull s
    | .null => if Word.isNullName s then return true else failure
    | _ => return false
  | _ => return false

/-! ## Collections -/

/-- How the nodes of some shape are read, with the room that is left for collections. -/
abbrev Walker := Nat → Node → Walk Tree

def items (walker : Walker) (room : Nat) (n : Node) : Walk Tree := do
  match ← follow n with
  | .list _ items => within room fun room => .list <$> items.mapM (walker room)
  | .scalar _ .plain "" => return .list []
  | _ => failure

/-- The entries of a node by name. An empty word has none. -/
def entries (room : Nat) (n : Node) (go : Nat → List (Node × Node) → Walk Tree) : Walk Tree := do
  match ← follow n with
  | .fields _ entries => within room fun room => go room entries
  | .scalar _ .plain "" => go room []
  | _ => failure

def mapEntry (tags? : Option (List String)) (walker : Walker) (room : Nat) (e : Node × Node) :
    Walk (String × Tree) := do
  let name ← match tags? with
    | none => text e.1
    | some tags => choice tags e.1
  return (name, ← walker room e.2)

def named (slots : List (Slot Walker)) (room : Nat) :
    Entries → List (Node × Node) → Walk Tree
  | done, [] => if Fit.isComplete slots done then return .fields done.reverse else failure
  | done, (key, value) :: rest => do
    let name ← text key
    match slots.find? fun slot => slot.name == name with
    | none => named slots room done rest
    | some slot =>
      if done.any fun e => e.1 == name then failure
      else
        let t ← slot.content room value
        named slots room ((name, t) :: done) rest

def record (slots : List (Slot Walker)) : Walker := fun room n =>
  entries room n fun room written => named slots room [] written

/-- The fields of a case, which has no tag of the document's own. -/
def inputs (slots : List (Slot Walker)) : Walker := fun room n => do
  match ← follow n with
  | .fields label written =>
    if label.tag.isOwn then failure else within room fun room => named slots room [] written
  | _ => failure

/-! ## Cases -/

/-- A case that is part way read: its tag, a tree of what belongs to the tag, and a draft of that if
the tag was not yet known. -/
structure CaseProgress where
  tag? : Option String
  input? : Option Tree
  draft? : Option Draft

def CaseProgress.hasInput (p : CaseProgress) : Bool :=
  p.input?.isSome || p.draft?.isSome

/-- One more entry of a case. -/
def caseEntry (nameField inputField : String) (walkers : List (String × Walker)) (room : Nat)
    (p : CaseProgress) (e : Node × Node) : Walk CaseProgress := do
  let name ← text e.1
  if name = nameField then
    if p.tag?.isSome then failure
    else return { p with tag? := some (← choice (walkers.map Prod.fst) e.2) }
  else if name = inputField then
    if p.hasInput then failure
    else match p.tag? with
    | some tag => return { p with input? := some (← (← walkers.lookup tag) room e.2) }
    | none => return { p with draft? := some (← draft room e.2) }
  else return p

def CaseProgress.tree? (nameField inputField : String) (variants : List (String × Shape))
    (p : CaseProgress) : Option Tree := do
  let tag ← p.tag?
  let input ← match p.input?, p.draft? with
    | some t, _ => some t
    | none, some d => (← variants.lookup tag).fitLate? d
    | none, none => none
  return .fields [(nameField, .text tag), (inputField, input)]

def cases (nameField inputField : String) (variants : List (String × Shape))
    (walkers : List (String × Walker)) : Walker := fun room n =>
  entries room n fun room written => do
    let p ← written.foldlM (caseEntry nameField inputField walkers room) ⟨none, none, none⟩
    p.tree? nameField inputField variants

end Yaml

/-! ## Shapes -/

namespace Shape

mutual

def walker : Shape → Yaml.Walker
  | text => fun _ n => .text <$> Yaml.text n
  | mark => fun _ n => do return .bool (← Yaml.Word.bool? (← Yaml.word .bool n))
  | markOrText => fun room n => do markOrText.fitLate? (← Yaml.draft room n)
  | count bound => fun _ n => do
    let value ← Yaml.Word.nat? (← Yaml.word .int n)
    if value < bound then return .int value else failure
  | choice tags => fun _ n => .text <$> Yaml.choice tags n
  | optional content =>
    let walk := walker content
    fun room n => do
      let n ← Yaml.follow n
      if ← Yaml.isLeftOut n then return .null else walk room n
  | list item => Yaml.items (walker item)
  | map tags? value =>
    let walk := walker value
    fun room n => Yaml.entries room n fun room written =>
      .fields <$> written.mapM (Yaml.mapEntry tags? walk room)
  | record slots => Yaml.record (slotWalkers slots)
  | inputs slots => Yaml.inputs (slotWalkers slots)
  | cases nameField inputField variants =>
    Yaml.cases nameField inputField variants (variantWalkers variants)

def slotWalkers : List (Slot Shape) → List (Slot Yaml.Walker)
  | [] => []
  | ⟨name, isNeeded, content⟩ :: rest => ⟨name, isNeeded, walker content⟩ :: slotWalkers rest

def variantWalkers : List (String × Shape) → List (String × Yaml.Walker)
  | [] => []
  | (name, content) :: rest => (name, walker content) :: variantWalkers rest

end

end Shape

/-! ## Texts -/

namespace Yaml

/-- The tree of a document that has a shape. -/
def Document.tree? (doc : Document) (s : Shape) : Option Tree :=
  (((s.walker maxNesting doc.root).run doc).run 0).map Prod.fst

def read? {α : Type} [Coded α] (s : String) : Option α := do
  decode (← (← document? s).tree? (shape α))

end Yaml

end GovernanceDesk

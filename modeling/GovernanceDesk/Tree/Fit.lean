import GovernanceDesk.Tree.Draft
import GovernanceDesk.Tree.Shape

/-!
# Fitting drafts to shapes

A draft is fitted to a shape part by part in the order in which it is written, so what does not fit
is found where a reader of the text meets it first. The fitted tree holds the fields of its records
by name, each once, and its choices as texts.

* `Shape.fit`: the tree of a draft of that shape, or why there is none.
* `Shape.fitLate?`: the same for a draft that was held back until its shape was known. Such a draft
  may call the fields of a record and the tags of a choice by their place.
-/

namespace GovernanceDesk
set_option autoImplicit false

/-- How the drafts of some shape are fitted: whether the draft was held back, and how many
collections may be nested in it. -/
abbrev Fitter := Bool → Nat → Draft → Except Misfit Tree

namespace Fit

def misfit {α : Type} (d : Draft) : Except Misfit α :=
  .error d.misfit

/-- Goes on inside a collection. -/
def within {α : Type} (room : Nat) (go : Nat → Except Misfit α) : Except Misfit α :=
  match room with
  | 0 => .error .malformed
  | room + 1 => go room

/-! ## Choices -/

def tagNamed (tags : List String) (s : String) : Except Misfit String :=
  if tags.contains s then .ok s else .error .misshapen

/-- The tag that stands as a name. -/
def tagAt (isLate : Bool) (tags : List String) : Draft → Except Misfit String
  | .text s => tagNamed tags s
  | .int n =>
    match isLate && decide (0 ≤ n), tags[n.toNat]? with
    | true, some tag => .ok tag
    | _, _ => .error .misshapen
  | d => misfit d

def isNothing (isLate : Bool) : Draft → Bool
  | .null => true
  | .fields [] => isLate
  | _ => false

/-- A tag, or a record with the tag as its one name and nothing in it. -/
def tag (isLate : Bool) (tags : List String) : Draft → Except Misfit String
  | .text s => tagNamed tags s
  | .fields ((key, value) :: rest) => do
    let s ← tagAt isLate tags key
    if !isNothing isLate value then misfit value
    else if rest.isEmpty then .ok s
    else .error .malformed
  | _ => .error .malformed

/-! ## Collections -/

def items (fitter : Draft → Except Misfit Tree) : List Draft → Except Misfit (List Tree)
  | [] => .ok []
  | d :: rest => do
    let t ← fitter d
    return t :: (← items fitter rest)

def entries (tags? : Option (List String)) (fitter : Draft → Except Misfit Tree) :
    List (Draft × Draft) → Except Misfit Entries
  | [] => .ok []
  | (.text name, d) :: rest => do
    let name ← match tags? with
      | none => pure name
      | some tags => tagNamed tags name
    let t ← fitter d
    return (name, t) :: (← entries tags? fitter rest)
  | _ :: _ => .error .malformed

/-! ## Records -/

variable {α : Type}

/-- The field that a name stands for, if it stands for any. -/
def slotAt (isLate : Bool) (slots : List (Slot α)) : Draft → Except Misfit (Option (Slot α))
  | .text name => .ok (slots.find? fun slot => slot.name == name)
  | .int n => if isLate && decide (0 ≤ n) then .ok slots[n.toNat]? else .error .malformed
  | _ => .error .malformed

def isComplete (slots : List (Slot α)) (done : Entries) : Bool :=
  slots.all fun slot => !slot.isNeeded || done.any fun e => e.1 == slot.name

/-- The fields of a record that is written by name. Other names are passed over, whatever they
hold. -/
def named (isLate : Bool) (slots : List (Slot (Draft → Except Misfit Tree))) :
    Entries → List (Draft × Draft) → Except Misfit Tree
  | done, [] => if isComplete slots done then .ok (.fields done.reverse) else .error .misshapen
  | done, (key, d) :: rest => do
    match ← slotAt isLate slots key with
    | none => if d.isWhole then named isLate slots done rest else .error .malformed
    | some slot =>
      if done.any fun e => e.1 == slot.name then .error .misshapen
      else
        let t ← slot.content d
        named isLate slots ((slot.name, t) :: done) rest

/-- The fields of a record that is written as the list of its values. -/
def placed : List (Slot (Draft → Except Misfit Tree)) → List Draft → Except Misfit Entries
  | [], [] => .ok []
  | [], _ :: _ => .error .malformed
  | slot :: slots, [] => if slot.isNeeded then .error .misshapen else placed slots []
  | slot :: slots, d :: rest => do
    let t ← slot.content d
    return (slot.name, t) :: (← placed slots rest)

/-- The fitters of fields that lie inside a collection. -/
def inside (isLate : Bool) (room : Nat) (slots : List (Slot Fitter)) :
    List (Slot (Draft → Except Misfit Tree)) :=
  slots.map fun slot => ⟨slot.name, slot.isNeeded, slot.content isLate room⟩

def record (slots : List (Slot Fitter)) : Fitter
  | isLate, room, .fields written =>
    within room fun room => named isLate (inside isLate room slots) [] written
  | isLate, room, .list written =>
    within room fun room => Tree.fields <$> placed (inside isLate room slots) written
  | _, _, d => misfit d

def inputs (slots : List (Slot Fitter)) : Fitter
  | isLate, room, .fields written =>
    within room fun room => named isLate (inside isLate room slots) [] written
  | _, _, d => misfit d

/-! ## Cases -/

/-- The values that are written under a name. -/
def valuesOf (name : String) (written : List (Draft × Draft)) : List Draft :=
  written.filterMap fun e =>
    match e.1 with
    | .text s => if s = name then some e.2 else none
    | _ => none

/-- Whether the first of two names is written before the second. -/
def isBefore (first second : String) : List (Draft × Draft) → Bool
  | [] => false
  | (.text s, _) :: rest => s == first || (s != second && isBefore first second rest)
  | _ :: rest => isBefore first second rest

/-- The case of a tag with what belongs to it. -/
def ofTag (nameField inputField : String) (variants : List (String × Fitter)) (isLate isInputLate :
    Bool) (room : Nat) (name input : Draft) : Except Misfit Tree := do
  let s ← tag isLate (variants.map Prod.fst) name
  match variants.lookup s with
  | none => .error .misshapen
  | some fitter =>
    let t ← fitter isInputLate room input
    return .fields [(nameField, .text s), (inputField, t)]

/-- A case as a record of two fields or a list of the two. What belongs to a tag has to wait if it
is written before the tag. -/
def cases (nameField inputField : String) (variants : List (String × Fitter)) : Fitter
  | isLate, room, .fields written =>
    within room fun room =>
      if !Draft.areWholeEntries written then .error .malformed
      else match valuesOf nameField written, valuesOf inputField written with
      | [name], [input] =>
        ofTag nameField inputField variants isLate
          (isLate || isBefore inputField nameField written) room name input
      | _, _ => .error .misshapen
  | isLate, room, .list [name, input] =>
    within room fun room =>
      ofTag nameField inputField variants isLate isLate room name input
  | _, _, d => misfit d

end Fit

/-! ## Shapes -/

namespace Shape
open Fit

mutual

def fitter : Shape → Fitter
  | text => fun _ _ d => match d with
    | .text s => .ok (.text s)
    | d => misfit d
  | mark => fun _ _ d => match d with
    | .bool b => .ok (.bool b)
    | d => misfit d
  | markOrText => fun _ room d => match d with
    | .bool b => .ok (.bool b)
    | .text s => .ok (.text s)
    | d => if d.isSound room then .error .misshapen else .error .malformed
  | count bound => fun _ _ d => match d with
    | .int n => if 0 ≤ n ∧ n < bound then .ok (.int n) else .error .misshapen
    | d => misfit d
  | choice tags => fun isLate _ d => Tree.text <$> Fit.tag isLate tags d
  | optional content =>
    let fit := fitter content
    fun isLate room d => match d with
      | .null => .ok .null
      | d => fit isLate room d
  | list item =>
    let fit := fitter item
    fun isLate room d => match d with
      | .list written => within room fun room => Tree.list <$> items (fit isLate room) written
      | d => misfit d
  | map tags? value =>
    let fit := fitter value
    fun isLate room d => match d with
      | .fields written =>
        within room fun room => Tree.fields <$> entries tags? (fit isLate room) written
      | d => misfit d
  | record slots => Fit.record (slotFitters slots)
  | inputs slots => Fit.inputs (slotFitters slots)
  | cases nameField inputField variants =>
    Fit.cases nameField inputField (variantFitters variants)

def slotFitters : List (Slot Shape) → List (Slot Fitter)
  | [] => []
  | ⟨name, isNeeded, content⟩ :: rest => ⟨name, isNeeded, fitter content⟩ :: slotFitters rest

def variantFitters : List (String × Shape) → List (String × Fitter)
  | [] => []
  | (name, content) :: rest => (name, fitter content) :: variantFitters rest

end

/-- How many collections may be nested in a text. -/
def maxNesting : Nat := 127

def fit (s : Shape) (d : Draft) : Except Misfit Tree :=
  s.fitter false maxNesting d

def fitLate? (s : Shape) (d : Draft) : Option Tree :=
  match s.fitter true maxNesting d with
  | .ok t => some t
  | .error _ => none

end Shape

end GovernanceDesk

import GovernanceDesk.Tree.Fit

/-!
# Values as trees

* `Coded`: a type with the shape its values are written in, a form of each as a tree, and a reader
  of fitted trees.
* `Draft.read`: the value that a draft holds.
* `Slot.need`, `Slot.given`, `Slot.optional`: a field that must be there, one that has a default,
  and one that may be missing or null.
* `Entries.need`, `Entries.getOr`, `Entries.optional`: the values of such fields.
-/

namespace GovernanceDesk
set_option autoImplicit false

/-- A fitted tree holds the fields of its records by name, each once. -/
class Coded (α : Type) where
  shape : Shape
  encode : α → Tree
  decode : Tree → Option α

export Coded (shape encode decode)

def Draft.read {α : Type} [Coded α] (d : Draft) : Except Misfit α := do
  let t ← (shape α).fit d
  match decode t with
  | some x => .ok x
  | none => .error .misshapen

/-! ## Leaves and collections -/

instance : Coded String := ⟨.text, Tree.text, Tree.text?⟩

instance : Coded Bool := ⟨.mark, Tree.bool, Tree.bool?⟩

instance {α : Type} [Coded α] : Coded (List α) :=
  ⟨.list (shape α), fun xs => .list (xs.map encode),
    fun t => t.list?.bind fun items => items.mapM decode⟩

instance {α : Type} [Coded α] : Coded (NameMap α) where
  shape := .map none (shape α)
  encode m := .fields (m.entries.map fun e => (e.1, encode e.2))
  decode t := do
    let entries ← t.fields?
    let read ← entries.mapM fun e => (decode e.2).map fun x => (e.1, x)
    return NameMap.ofList read

/-- Whole numbers that fit in thirty-two bits. -/
instance : Coded UInt32 :=
  ⟨.count UInt32.size, fun n => .int n.toNat, fun t => (t.nat? UInt32.size).map UInt32.ofNat⟩

/-- Whole numbers that fit in sixty-four bits. -/
instance : Coded UInt64 :=
  ⟨.count UInt64.size, fun n => .int n.toNat, fun t => (t.nat? UInt64.size).map UInt64.ofNat⟩

/-! ## Fields -/

namespace Slot

def need (α : Type) [Coded α] (name : String) : Slot Shape := ⟨name, true, shape α⟩

def given (α : Type) [Coded α] (name : String) : Slot Shape := ⟨name, false, shape α⟩

def optional (α : Type) [Coded α] (name : String) : Slot Shape :=
  ⟨name, false, .optional (shape α)⟩

end Slot

namespace Entries

variable {α : Type} [Coded α]

def need (entries : Entries) (name : String) : Option α :=
  (entries.lookup name).bind decode

def getOr (entries : Entries) (name : String) (default : α) : Option α :=
  match entries.lookup name with
  | none => some default
  | some t => decode t

def optional (entries : Entries) (name : String) : Option (Option α) :=
  match entries.lookup name with
  | none => some none
  | some t => if t.isNull then some none else (decode t).map some

/-! ## Writing -/

/-- The entry of a field that is left out when it has no value. -/
def ifSome (name : String) (value : Option α) : Entries :=
  match value with
  | none => []
  | some x => [(name, encode x)]

/-- The entry of a field that is written as null when it has no value. -/
def orNull (name : String) (value : Option α) : String × Tree :=
  (name, match value with | none => .null | some x => encode x)

end Entries

end GovernanceDesk

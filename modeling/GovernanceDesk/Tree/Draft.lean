import GovernanceDesk.Tree

/-!
# Drafts

A text is read into a draft before anything is known about the value it should hold. A draft keeps
what a tree has no place for: names that are not texts, a name that is written twice, and the places
where the text goes wrong.

* `Draft`: values as they are written.
* `Draft.tree?`, `Draft.ofTree`: the tree that a draft without faults is, and back.
* `Draft.isWhole`, `Draft.isSound`: whether a draft holds no break, and no fault at all.
* `Misfit`: the two ways in which a draft is no value of some kind.
-/

namespace GovernanceDesk
set_option autoImplicit false

/-- A value as it is written. From where the text goes wrong nothing is read any more: `broken` is
then the last part of everything that was begun. -/
inductive Draft where
  | null
  | bool (value : Bool)
  | int (value : Int)
  | real (written : String)
  | text (value : String)
  /-- A text that holds one half of a character. -/
  | halved
  /-- A number too large for double precision. -/
  | huge
  | broken
  | list (items : List Draft)
  | fields (entries : List (Draft × Draft))

instance : Inhabited Draft := ⟨.null⟩

inductive Misfit where
  /-- The text goes wrong before the value is complete. -/
  | malformed
  /-- The text holds another kind of value. -/
  | misshapen
deriving DecidableEq

namespace Draft

/-- Why a draft is no value of a kind that it does not belong to. -/
def misfit : Draft → Misfit
  | broken | huge | halved => .malformed
  | _ => .misshapen

/-! ## Trees -/

mutual

def tree? : Draft → Option Tree
  | null => some .null
  | bool b => some (.bool b)
  | int n => some (.int n)
  | real w => some (.real w)
  | text s => some (.text s)
  | halved | huge | broken => none
  | list items => (trees? items).map .list
  | fields entries => (entries? entries).map .fields

def trees? : List Draft → Option (List Tree)
  | [] => some []
  | d :: rest => do return (← d.tree?) :: (← trees? rest)

def entries? : List (Draft × Draft) → Option Entries
  | [] => some []
  | (text name, d) :: rest => do return (name, ← d.tree?) :: (← entries? rest)
  | _ :: _ => none

end

mutual

def ofTree : Tree → Draft
  | .null => null
  | .bool b => bool b
  | .int n => int n
  | .real w => real w
  | .text s => text s
  | .list items => list (ofTrees items)
  | .fields entries => fields (ofEntries entries)

def ofTrees : List Tree → List Draft
  | [] => []
  | t :: rest => ofTree t :: ofTrees rest

def ofEntries : List (String × Tree) → List (Draft × Draft)
  | [] => []
  | (name, t) :: rest => (text name, ofTree t) :: ofEntries rest

end

/-! ## Faults -/

mutual

/-- Whether the text goes wrong nowhere. -/
def isWhole : Draft → Bool
  | broken => false
  | list items => areWhole items
  | fields entries => areWholeEntries entries
  | _ => true

def areWhole : List Draft → Bool
  | [] => true
  | d :: rest => d.isWhole && areWhole rest

/-- Every name is a text, and no value has a break. -/
def areWholeEntries : List (Draft × Draft) → Bool
  | [] => true
  | (text _, d) :: rest | (halved, d) :: rest => d.isWhole && areWholeEntries rest
  | _ :: _ => false

end

mutual

/-- Whether there is no fault in a draft and no more than `room` collections are nested in it. -/
def isSound (room : Nat) : Draft → Bool
  | broken | huge | halved => false
  | list items => room != 0 && areSound (room - 1) items
  | fields entries => room != 0 && areSoundEntries (room - 1) entries
  | _ => true

def areSound (room : Nat) : List Draft → Bool
  | [] => true
  | d :: rest => d.isSound room && areSound room rest

def areSoundEntries (room : Nat) : List (Draft × Draft) → Bool
  | [] => true
  | (text _, d) :: rest => d.isSound room && areSoundEntries room rest
  | _ :: _ => false

end

end Draft

end GovernanceDesk

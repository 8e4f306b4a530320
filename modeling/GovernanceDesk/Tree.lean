import GovernanceDesk.NameMap

/-!
# Value trees

The form in which everything is stored or sent: JSON and YAML are two ways to write such a tree.

* `Tree`: the values.
* `Tree.text?`, `Tree.bool?`, `Tree.nat?`, `Tree.isNull`: the readings of a leaf.
* `Tree.list?`, `Tree.fields?`: the parts of a tree that has any.
-/

namespace GovernanceDesk
set_option autoImplicit false

/-- A value. `real` is a number with a fraction or an exponent, kept as it was written. -/
inductive Tree where
  | null
  | bool (value : Bool)
  | int (value : Int)
  | real (written : String)
  | text (value : String)
  | list (items : List Tree)
  | fields (entries : List (String × Tree))

instance : Inhabited Tree := ⟨.null⟩

/-- The entries of a record, in the order in which they are written. -/
abbrev Entries := List (String × Tree)

namespace Tree

/-! ## Leaves -/

def text? : Tree → Option String
  | text s => some s
  | _ => none

def bool? : Tree → Option Bool
  | bool b => some b
  | _ => none

/-- A whole number from zero up to, not including, `bound`. -/
def nat? (bound : Nat) : Tree → Option Nat
  | int i => if 0 ≤ i ∧ i < bound then some i.toNat else none
  | _ => none

def isNull : Tree → Bool
  | null => true
  | _ => false

/-! ## Parts -/

def list? : Tree → Option (List Tree)
  | list items => some items
  | _ => none

def fields? : Tree → Option Entries
  | fields entries => some entries
  | _ => none

end Tree

end GovernanceDesk

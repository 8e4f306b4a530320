/-!
# Shapes

What a value has to look like, as data. A shape is given with the type whose values are stored or
sent, and whoever reads a text goes by the shape.

* `Shape`: the shapes.
* `Slot`: one field of a record, with what belongs in it.
-/

namespace GovernanceDesk
set_option autoImplicit false

/-- A field of a record, which may be left out if it is not needed. -/
structure Slot (α : Type) where
  name : String
  isNeeded : Bool
  content : α

inductive Shape where
  | text
  | mark
  | markOrText
  /-- A whole number from zero up to, not including, `bound`. -/
  | count (bound : Nat)
  /-- One of some tags. -/
  | choice (tags : List String)
  | optional (content : Shape)
  | list (item : Shape)
  /-- Values by name. With tags, the names are among them. -/
  | map (tags? : Option (List String)) (value : Shape)
  | record (slots : List (Slot Shape))
  /-- The fields of a case, which are always written by name. -/
  | inputs (slots : List (Slot Shape))
  /-- A tag in the field `nameField` and, in the field `inputField`, what the tag calls for. -/
  | cases (nameField inputField : String) (variants : List (String × Shape))

instance : Inhabited Shape := ⟨.text⟩

end GovernanceDesk

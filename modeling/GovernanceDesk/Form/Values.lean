import GovernanceDesk.Calendar.DateText
import GovernanceDesk.NameMap
import GovernanceDesk.Tree.Coded

/-!
# Values of a form

A form sends texts and check marks by field name. The readings below are the only way the rest of
the desk looks at them.

* `FieldValue`: a check mark or a text.
* `FormValues.text?`, `FormValues.flag`, `FormValues.date?`: a field as text, check mark and date.
-/

namespace GovernanceDesk
set_option autoImplicit false

inductive FieldValue where
  | mark (checked : Bool)
  | text (written : String)
deriving DecidableEq

instance : Coded FieldValue where
  shape := .markOrText
  encode
    | .mark b => .bool b
    | .text s => .text s
  decode
    | .bool b => some (.mark b)
    | .text s => some (.text s)
    | _ => none

abbrev FormValues := NameMap FieldValue

namespace FormValues

/-! ## Readings -/

/-- The trimmed text of a field, nothing when it is missing or blank or a check mark. -/
def text? (values : FormValues) (name : String) : Option String :=
  match values.get? name with
  | some (.text s) => Text.nonblank? s
  | _ => none

/-- Whether a box is checked; the words true, yes and on count as a check mark. -/
def flag (values : FormValues) (name : String) : Bool :=
  match values.get? name with
  | some (.mark b) => b
  | some (.text s) => ["true", "yes", "on"].contains (Text.lower (Text.trim s))
  | none => false

def date? (values : FormValues) (name : String) : Option Date :=
  (values.text? name).bind Date.ofForm?

/-! ## Values that hold the same in a field -/

variable {v w : FormValues} {name : String}

theorem text?_congr (same : w.get? name = v.get? name) : w.text? name = v.text? name := by
  rw [text?, same, text?]

theorem date?_congr (same : w.get? name = v.get? name) : w.date? name = v.date? name := by
  rw [date?, text?_congr same, date?]

theorem flag_congr (same : w.get? name = v.get? name) : w.flag name = v.flag name := by
  rw [flag, same, flag]

end FormValues

end GovernanceDesk

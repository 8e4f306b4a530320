import GovernanceDesk.Form.Field

/-!
# Reading form values into an operation

A reading gathers the value it can make and a message for every field that cannot be read. Readings
are put together field by field, so one attempt reports all unreadable fields.

* `Reading`: a value, if every part was readable, and the messages.
* `Reading.result`: the value, or the messages by field.
* `FormValues.readText` and its kin: one field as a text, a date or a choice.
-/

namespace GovernanceDesk
set_option autoImplicit false

structure Reading (α : Type) where
  value? : Option α
  problems : List (String × String)

namespace Reading

variable {α β : Type}

def of (value : α) : Reading α := ⟨some value, []⟩

def fail (field message : String) : Reading α := ⟨none, [(field, message)]⟩

/-- The value of a field, or a message on it. -/
def ofOption (value? : Option α) (field message : String) : Reading α :=
  match value? with
  | some x => of x
  | none => fail field message

instance : Applicative Reading where
  pure := of
  seq f x :=
    let r := x ()
    ⟨match f.value?, r.value? with
      | some g, some v => some (g v)
      | _, _ => none,
      f.problems ++ r.problems⟩

/-- The messages by field; of two on one field the first counts. -/
def messages (r : Reading α) : Messages :=
  r.problems.foldl (fun m p => m.setNew p.1 p.2) ∅

def result (r : Reading α) : Except Messages α :=
  match r.value?, r.problems with
  | some x, [] => .ok x
  | _, _ => .error r.messages

end Reading

/-! ## Fields -/

namespace FormValues

def readText (values : FormValues) (name : String) : Reading String :=
  .ofOption (values.text? name) name "This field is required"

def readDate (values : FormValues) (name : String) : Reading Date :=
  .ofOption (values.date? name) name "A valid date is required"

/-- A date that may be left blank. -/
def readDateIfAny (values : FormValues) (name : String) : Reading (Option Date) :=
  match values.text? name with
  | none => .of none
  | some _ => some <$> values.readDate name

def readChoice {α : Type} [Tagged α] (values : FormValues) (name : String) : Reading α :=
  .ofOption ((values.text? name).bind Tagged.ofSpelling?) name "A valid selection is required"

end FormValues

end GovernanceDesk

import GovernanceDesk.Form.Field

/-!
# Checking a form

Only fields that are visible under the values entered are checked.

* `Field.problem?`: what is wrong with one field.
* `ActionKind.problems`: the messages for a whole form, by field.
* `ActionKind.pastDateWarnings`: dates in the past, which never keep a form from being sent.
-/

namespace GovernanceDesk
set_option autoImplicit false

structure FieldWarning where
  field : String
  message : String
deriving DecidableEq

instance : Coded FieldWarning where
  shape := .record [.need String "field", .need String "message"]
  encode w := .fields [("field", encode w.field), ("message", encode w.message)]
  decode t := do
    let entries ← t.fields?
    return { field := ← entries.need "field", message := ← entries.need "message" }

namespace Field

/-- What is wrong with a text entered in the field. -/
def textProblem? (f : Field) (text : String) : Option String :=
  match f.kind with
  | .date =>
    if (Date.ofForm? text).isSome then none
    else some (f.label ++ " must be a valid date (MM/DD/YYYY)")
  | .choice options =>
    if options.contains text then none
    else some (f.label ++ " must be one of: " ++ ", ".intercalate options)
  | _ => none

def problem? (f : Field) (values : FormValues) : Option String :=
  if f.kind = .checkBox then none
  else match values.text? f.name with
  | none => if f.required values then some (f.label ++ " is required") else none
  | some text => f.textProblem? text

def pastDateWarning? (f : Field) (values : FormValues) (today : Date) : Option FieldWarning :=
  if f.warnsIfPast && f.visible values then
    match values.date? f.name with
    | some d =>
      if d < today then
        some ⟨f.name, f.label ++ " (" ++ d.slashed ++
          ") is in the past. You can still complete this action."⟩
      else none
    | none => none
  else none

end Field

namespace ActionKind

def visibleFields (kind : ActionKind) (values : FormValues) : List Field :=
  kind.fields.filter fun f => f.visible values

def problems (kind : ActionKind) (values : FormValues) : Messages :=
  (kind.visibleFields values).foldl
    (fun messages f =>
      match f.problem? values with
      | some message => messages.setNew f.name message
      | none => messages)
    ∅

def pastDateWarnings (kind : ActionKind) (values : FormValues) (today : Date) :
    List FieldWarning :=
  kind.fields.filterMap fun f => f.pastDateWarning? values today

end ActionKind

end GovernanceDesk

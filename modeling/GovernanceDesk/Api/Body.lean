import GovernanceDesk.Api.MediaType
import GovernanceDesk.Api.Reply
import GovernanceDesk.Json.Reader
import GovernanceDesk.Store.RunAction

/-!
# Request bodies

* `NewIntake`, `NewFeedback`, `Submission`: what can be sent.
* `ApiRequest.body`: the value a request carries, or the status that refuses it.
-/

namespace GovernanceDesk
set_option autoImplicit false

/-! ## Values -/

structure NewIntake where
  requestName : String
  requester : Contact
  contacts : List Contact
deriving DecidableEq

instance : Coded NewIntake where
  shape := .record
    [.need String "request_name", .need Contact "requester", .given (List Contact) "contacts"]
  encode b := .fields
    [("request_name", encode b.requestName), ("requester", encode b.requester),
      ("contacts", encode b.contacts)]
  decode t := do
    let entries ← t.fields?
    return {
      requestName := ← entries.need "request_name"
      requester := ← entries.need "requester"
      contacts := ← entries.getOr "contacts" [] }

/-- Target and source are spelled as people spell them. -/
structure NewFeedback where
  target : String
  source : Option String
  text : String
  author : Option String
deriving DecidableEq

instance : Coded NewFeedback where
  shape := .record
    [.need String "target_form", .optional String "feedback_type", .need String "feedback",
      .optional String "author"]
  encode b := .fields
    [("target_form", encode b.target), Entries.orNull "feedback_type" b.source,
      ("feedback", encode b.text), Entries.orNull "author" b.author]
  decode t := do
    let entries ← t.fields?
    return {
      target := ← entries.need "target_form"
      source := ← entries.optional "feedback_type"
      text := ← entries.need "feedback"
      author := ← entries.optional "author" }

/-- An action form filled in, the button pressed, and whether a confirmation is given with it. -/
structure Submission where
  values : FormValues
  recipients : Option Recipients
  button : Button
  confirmed : Bool

instance : Coded Submission where
  shape := .record
    [.given FormValues "values", .optional Recipients "recipients", .given Button "button",
      .given Bool "confirmed"]
  encode b := .fields
    [("values", encode b.values), Entries.orNull "recipients" b.recipients,
      ("button", encode b.button), ("confirmed", encode b.confirmed)]
  decode t := do
    let entries ← t.fields?
    return {
      values := ← entries.getOr "values" ∅
      recipients := ← entries.optional "recipients"
      button := ← entries.getOr "button" .complete
      confirmed := ← entries.getOr "confirmed" false }

/-! ## Reading -/

structure ApiRequest where
  method : String
  address : String
  mediaType : Option String
  body : String

namespace ApiRequest

def sendsJson (r : ApiRequest) : Bool :=
  (r.mediaType.bind MediaType.read?).any MediaType.isJson

/-- The value a request carries. A body that does not say it is JSON is refused, and so is one that
goes wrong or takes another shape, whichever comes first in it; what follows a value of the right
shape is looked at last. -/
def value {α : Type} [Coded α] (r : ApiRequest) : Except Reply α :=
  if !r.sendsJson then .error (.bare 415)
  else
    let (draft, rest?) := Json.draft r.body
    match (draft.read : Except Misfit α) with
    | .error .malformed => .error (.bare 400)
    | .error .misshapen => .error (.bare 422)
    | .ok x => if rest?.any fun rest => rest.all Json.isSpace then .ok x else .error (.bare 400)

end ApiRequest

end GovernanceDesk

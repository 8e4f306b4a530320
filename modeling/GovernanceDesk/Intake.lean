import GovernanceDesk.Action.Mutation
import GovernanceDesk.TaskList

/-!
# Intake requests

A request for a system, from the intake form to its decision, with everything that was done to it.

* `Contact`, `ActionRecord`, `Intake`: the people, one entry of the history, the request.
* `Intake.opened`: a request as it starts.
* `Intake.taskList`, `Intake.currentStage?`, `Intake.editsRequested?`: where it stands.
* `Intake.recipientCandidates`, `Intake.offers`: who can be notified and what can be done.
* `Intake.recorded`: the request with one more entry in its history.
-/

namespace GovernanceDesk
set_option autoImplicit false

/-! ## People -/

structure Contact where
  name : String
  email : String
  role : Option String
deriving DecidableEq

instance : Coded Contact where
  shape := .record [.need String "name", .need String "email", .optional String "role"]
  encode c := .fields <|
    [("name", encode c.name), ("email", encode c.email)] ++ Entries.ifSome "role" c.role
  decode t := do
    let entries ← t.fields?
    return {
      name := ← entries.need "name"
      email := ← entries.need "email"
      role := ← entries.optional "role" }

/-! ## History -/

/-- An action that was completed, and when. -/
structure ActionRecord where
  action : ActionKind
  operation : Operation
  recipients : Option Recipients
  additionalInfo : Option String
  adminNote : Option String
  createdAt : Instant
deriving DecidableEq

namespace ActionRecord

def ofMutation (kind : ActionKind) (m : Mutation) (now : Instant) : ActionRecord :=
  ⟨kind, m.operation, m.recipients, m.additionalInfo, m.adminNote, now⟩

instance : Coded ActionRecord where
  shape := .record
    [.need ActionKind "action", .need Operation "operation",
      .optional Recipients "notification", .optional String "additional_info",
      .optional String "admin_note", .need Instant "created_at"]
  encode r := .fields <|
    [("action", encode r.action), ("operation", encode r.operation)] ++
    Entries.ifSome "notification" r.recipients ++
    Entries.ifSome "additional_info" r.additionalInfo ++
    Entries.ifSome "admin_note" r.adminNote ++ [("created_at", encode r.createdAt)]
  decode t := do
    let entries ← t.fields?
    return {
      action := ← entries.need "action"
      operation := ← entries.need "operation"
      recipients := ← entries.optional "notification"
      additionalInfo := ← entries.optional "additional_info"
      adminNote := ← entries.optional "admin_note"
      createdAt := ← entries.need "created_at" }

end ActionRecord

/-- How many entries a history keeps. -/
def historyLimit : Nat := 200

/-! ## Requests -/

structure Intake where
  id : String
  requestName : String
  requester : Contact
  contacts : List Contact
  step : Step
  state : RequestState
  decision : Decision
  statuses : StageTable
  feedback : List Feedback
  lcid : Option LcidRecord
  grtDate : Option Date
  grbDate : Option Date
  history : List ActionRecord
  submittedAt : Option Instant
  createdAt : Instant
  updatedAt : Instant

namespace Intake

def opened (id requestName : String) (requester : Contact) (now : Instant) : Intake where
  id := id
  requestName := requestName
  requester := requester
  contacts := []
  step := .initialRequestForm
  state := .opened
  decision := .noDecision
  statuses := StageTable.empty.set .intakeForm .ready
  feedback := []
  lcid := none
  grtDate := none
  grbDate := none
  history := []
  submittedAt := none
  createdAt := now
  updatedAt := now

instance : Coded Intake where
  shape := .record
    [.need String "id", .need String "request_name", .need Contact "requester",
      .given (List Contact) "contacts", .need Step "step", .need RequestState "state",
      .need Decision "decision_state", .given StageTable "step_statuses",
      .given (List Feedback) "feedback", .optional LcidRecord "lcid", .optional Date "grt_date",
      .optional Date "grb_date", .given (List ActionRecord) "history",
      .optional Instant "submitted_at", .need Instant "created_at", .need Instant "updated_at"]
  encode i := .fields <|
    [("id", encode i.id), ("request_name", encode i.requestName),
      ("requester", encode i.requester), ("contacts", encode i.contacts), ("step", encode i.step),
      ("state", encode i.state), ("decision_state", encode i.decision),
      ("step_statuses", encode i.statuses), ("feedback", encode i.feedback)] ++
    Entries.ifSome "lcid" i.lcid ++ Entries.ifSome "grt_date" i.grtDate ++
    Entries.ifSome "grb_date" i.grbDate ++ [("history", encode i.history)] ++
    Entries.ifSome "submitted_at" i.submittedAt ++
    [("created_at", encode i.createdAt), ("updated_at", encode i.updatedAt)]
  decode t := do
    let entries ← t.fields?
    return {
      id := ← entries.need "id"
      requestName := ← entries.need "request_name"
      requester := ← entries.need "requester"
      contacts := ← entries.getOr "contacts" []
      step := ← entries.need "step"
      state := ← entries.need "state"
      decision := ← entries.need "decision_state"
      statuses := ← entries.getOr "step_statuses" ∅
      feedback := ← entries.getOr "feedback" []
      lcid := ← entries.optional "lcid"
      grtDate := ← entries.optional "grt_date"
      grbDate := ← entries.optional "grb_date"
      history := ← entries.getOr "history" []
      submittedAt := ← entries.optional "submitted_at"
      createdAt := ← entries.need "created_at"
      updatedAt := ← entries.need "updated_at" }

/-! ## Where it stands -/

def taskListInput (i : Intake) : TaskListInput :=
  ⟨i.step, i.state, i.decision, i.statuses, i.feedback⟩

def taskList (i : Intake) : List TaskRow :=
  TaskList.rows i.taskListInput

/-- The one stage an open request waits for. -/
def currentStage? (i : Intake) : Option Stage :=
  if i.state = .closed then none else TaskList.currentStage? i.taskList

/-- The forms whose edits can be requested, in the order in which they are looked at. -/
def editableForms : List Stage := [.intakeForm, .draftBusinessCase, .finalBusinessCase]

/-- The form that has edits requested, if any. -/
def editsRequested? (i : Intake) : Option Stage :=
  editableForms.find? fun s => i.statuses.status s == .editsRequested

/-- Who can be picked for a notification: the requester, then the others. -/
def recipientCandidates (i : Intake) : List Contact :=
  i.requester :: i.contacts.filter fun c => !Text.sameLetters c.email i.requester.email

/-- Whether an action can be taken on the request as it stands. -/
def offers (i : Intake) : ActionKind → Bool
  | .requestEdits | .progressToNewStep | .notApproved | .notGovernance | .closeRequest =>
    i.state == .opened
  | .issueLcid => true
  | .updateLcid | .retireLcid | .expireLcid => i.lcid.isSome
  | .unretireLcid => i.lcid.any fun l => l.retiresAt.isSome
  | .reopenRequest => i.state != .opened

def available (i : Intake) : List ActionKind :=
  ActionKind.all.filter i.offers

/-! ## Changes -/

def withStatus (i : Intake) (stage : Stage) (status : Status) (now : Instant) : Intake :=
  { i with statuses := i.statuses.set stage status, updatedAt := now }

def withFeedback (i : Intake) (target : FeedbackTarget) (source : FeedbackSource) (text : String)
    (author : Option String) (now : Instant) : Intake :=
  { i with feedback := Feedback.append i.feedback target source text author now }

/-- The last entries of a history, as many as it keeps. -/
def latest (history : List ActionRecord) : List ActionRecord :=
  history.drop (history.length - historyLimit)

def recorded (i : Intake) (kind : ActionKind) (m : Mutation) (now : Instant) : Intake :=
  { i with
    history := latest (i.history ++ [ActionRecord.ofMutation kind m now])
    updatedAt := now }

end Intake

end GovernanceDesk

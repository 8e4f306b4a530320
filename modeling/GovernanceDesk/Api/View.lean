import GovernanceDesk.Config
import GovernanceDesk.Form.ActionForm

/-!
# What clients are shown

The values sent in replies: a request in a list and on its own, its task list, its feedback, the
actions it offers, and an action form as it opens.
-/

namespace GovernanceDesk
set_option autoImplicit false

/-! ## Requests -/

namespace Intake

def lcidStatus? (i : Intake) (today : Date) : Option LcidStatus :=
  i.lcid.map fun l => l.status today

/-- A request as a line of a list. -/
def summaryView (i : Intake) (today : Date) : Tree := .fields
  [("id", .text i.id), ("request_name", .text i.requestName),
    ("requester", .text i.requester.name), ("step", encode i.step), ("state", encode i.state),
    ("decision_state", encode i.decision), Entries.orNull "current_stage" i.currentStage?,
    Entries.orNull "lcid" (i.lcid.map LcidRecord.lcid),
    Entries.orNull "lcid_status" (i.lcidStatus? today), ("created_at", encode i.createdAt)]

/-- A request with everything in its record and where it stands. -/
def fullView (i : Intake) (today : Date) : Tree := .fields <|
  (encode i).fields?.getD [] ++
    [Entries.orNull "current_stage" i.currentStage?,
      Entries.orNull "lcid_status" (i.lcidStatus? today)]

end Intake

/-! ## Task list -/

def TaskRow.view (row : TaskRow) (feedback : List Feedback) : Tree := .fields
  [("stage", encode row.stage), ("label", .text row.stage.label), ("status", encode row.status),
    ("status_label", .text row.status.label), ("dimmed", .bool row.dimmed),
    ("has_feedback", .bool row.hasFeedback),
    ("feedback_count", .int (Feedback.shown feedback row.stage).length)]

def Intake.taskListView (i : Intake) : Tree := .fields
  [("id", .text i.id), ("request_name", .text i.requestName),
    Entries.orNull "current_stage" i.currentStage?,
    ("rows", .list (i.taskList.map fun row => row.view i.feedback))]

/-! ## Feedback -/

def Feedback.view (f : Feedback) : Tree := .fields
  [("id", .text f.id), ("target_form", encode f.target), ("feedback_type", encode f.source),
    ("feedback", .text f.text), Entries.orNull "author" f.author,
    ("created_at", encode f.createdAt)]

def Feedback.groupView (stage : Stage) (shown : List Feedback) : Tree := .fields
  [("stage", encode stage), ("label", .text stage.label),
    ("feedback", .list (shown.map Feedback.view))]

/-- The feedback on a request, stage by stage; stages without any are left out. -/
def Intake.feedbackView (i : Intake) : Tree :=
  let groups := Stage.all.map fun stage => (stage, Feedback.shown i.feedback stage)
  .list ((groups.filter fun g => !g.2.isEmpty).map fun g => Feedback.groupView g.1 g.2)

/-! ## Actions -/

def ActionKind.view (kind : ActionKind) : Tree :=
  .fields [("action", .text kind.slug), ("title", .text kind.title)]

def Intake.actionsView (i : Intake) : Tree := .fields
  [("id", .text i.id), ("available", .list (i.available.map ActionKind.view)),
    ("history", encode i.history)]

def Field.view (f : Field) (values : FormValues) : Tree := .fields
  [("name", .text f.name), ("label", .text f.label), ("kind", .text f.kind.tag),
    ("options", encode f.kind.options), ("required", .bool (f.required values)),
    ("warn_if_past", .bool f.warnsIfPast), Entries.orNull "value" (values.get? f.name)]

def Contact.view (c : Contact) : Tree := .fields
  [("name", .text c.name), ("email", .text c.email), Entries.orNull "role" c.role]

/-- The confirmation an action will ask for, or null. -/
def ActionKind.confirmationView (kind : ActionKind) (ctx : ActionContext) : Tree :=
  match kind.confirmation? ctx with
  | some question => question.encoded
  | none => .null

def ActionForm.view (f : ActionForm) (ctx : ActionContext) : Tree := .fields
  [("action", .text f.kind.slug), ("title", .text f.kind.title),
    ("available", .bool (ctx.intake.offers f.kind)), ("phase", .text f.phase.name),
    ("can_submit", .bool f.canSubmit),
    ("fields", .list (f.visibleFields.map fun field => field.view f.values)),
    ("values", encode f.values), ("recipients", encode f.recipients),
    ("recipient_candidates", .list (ctx.intake.recipientCandidates.map Contact.view)),
    ("warnings", encode (f.warnings ctx.today)), ("confirmation", f.kind.confirmationView ctx),
    ("existing_lcids", encode (ctx.existingLcids.map LcidRecord.lcid))]

/-! ## Configuration -/

def Config.view (c : Config) : Tree := .fields <|
  (encode c).fields?.getD [] ++ [("warnings", .list (c.warnings.map ConfigWarning.encoded))]

end GovernanceDesk

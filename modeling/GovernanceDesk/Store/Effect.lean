import GovernanceDesk.Intake

/-!
# What an operation does to a request

* `Intake.movedTo`: the statuses after a move to another step.
* `Intake.decided`: the request with a decision.
* `Intake.withEffect`: the request after an operation, before it enters the history.
* `Intake.withoutEditsRequest`: the request with an open request for edits taken back.
-/

namespace GovernanceDesk
set_option autoImplicit false

/-! ## Moving on -/

namespace StageTable

/-- What becomes of a stage when the request moves from `current` to `target`: earlier ones are
finished or, when jumped over, not needed; later ones start afresh. -/
def statusAfterMove (table : StageTable) (current target stage : Stage) : Status :=
  if stage.index < target.index then
    if table.status stage = .done then .done
    else if stage.index ≤ current.index ∨ stage = .initialReviewFeedback then .done
    else .notNeeded
  else if stage = target then .ready
  else .cannotStart

def afterMove (table : StageTable) (current target : Stage) : StageTable :=
  ⟨fun stage => some (table.statusAfterMove current target stage)⟩

end StageTable

namespace Intake

def movedTo (i : Intake) (newStep : Step) : Intake :=
  { i with
    statuses := i.statuses.afterMove i.step.stage newStep.stage
    step := newStep
    state := .opened }

/-- The date of a meeting the request moves to; a move to another step leaves both dates alone. -/
def withMeeting (i : Intake) (newStep : Step) (date : Option Date) : Intake :=
  match newStep with
  | .grtMeeting => { i with grtDate := date }
  | .grbMeeting => { i with grbDate := date }
  | _ => i

def withFeedbackIfAny (i : Intake) (target : FeedbackTarget) (source : FeedbackSource)
    (text? : Option String) (now : Instant) : Intake :=
  match text? with
  | some text => i.withFeedback target source text none now
  | none => i

/-! ## Deciding -/

/-- A decision closes the request and takes it to the last stage. -/
def decided (i : Intake) (decision : Decision) (now : Instant) : Intake :=
  { i with
    decision := decision
    step := .decisionAndNextSteps
    state := .closed }.withStatus .decisionAndNextSteps .done now

/-! ## Life cycle IDs -/

end Intake

namespace LcidRecord

def confirmed (l : LcidRecord) (d : LcidDecision) : LcidRecord :=
  { l with
    expiresAt := d.expiresAt
    scope := d.scope
    nextSteps := d.nextSteps
    trbFollowUp := d.trbFollowUp
    costBaseline := d.costBaseline }

/-- Only what is given changes. A new expiration date takes back an early expiry. -/
def updated (l : LcidRecord) (expiresAt : Option Date)
    (scope nextSteps costBaseline : Option String) : LcidRecord :=
  { l with
    expiresAt := expiresAt.getD l.expiresAt
    expiredManually := l.expiredManually && expiresAt.isNone
    scope := scope.getD l.scope
    nextSteps := nextSteps.getD l.nextSteps
    costBaseline := costBaseline <|> l.costBaseline }

def expiredEarly (l : LcidRecord) (today : Date) (nextSteps : Option String) : LcidRecord :=
  { l with
    expiredManually := true
    expiresAt := l.expiresAt.earlier today
    nextSteps := nextSteps.getD l.nextSteps }

end LcidRecord

namespace Intake

/-- Changes the life cycle ID of a request that has one; `name` is how the request is called when it
has none. -/
def changeLcid (i : Intake) (name : String) (change : LcidRecord → LcidRecord) :
    Except Failure Intake :=
  match i.lcid with
  | some l => .ok { i with lcid := some (change l) }
  | none => .error (.noLcid name)

/-! ## All operations -/

def stepOfTarget? : FeedbackTarget → Option Step
  | .intakeRequest => some .initialRequestForm
  | .draftBusinessCase => some .draftBusinessCase
  | .finalBusinessCase => some .finalBusinessCase
  | .grbMeeting | .noTargetProvided => none

def withEditsRequested (i : Intake) (target : FeedbackTarget) (text : String) (now : Instant) :
    Intake :=
  { i.withStatus target.stage .editsRequested now with
    step := (stepOfTarget? target).getD i.step
    state := .opened }.withFeedback target .governanceTeam text none now

/-- The request after an operation that was addressed to `name`. `issue` makes the record of a newly
issued life cycle ID. -/
def withEffect (i : Intake) (name : String) (operation : Operation) (today : Date) (now : Instant)
    (issue : LcidDecision → Except Failure LcidRecord) : Except Failure Intake :=
  match operation with
  | .requestEdits target text => .ok (i.withEditsRequested target text now)
  | .progressToNewStep newStep meetingDate feedback recommendations =>
    .ok ((((i.movedTo newStep).withMeeting newStep meetingDate).withFeedbackIfAny
      .noTargetProvided .governanceTeam feedback now).withFeedbackIfAny
      .grbMeeting .reviewer recommendations now)
  | .issueLcid d => do
    let l ← issue d
    return { i with lcid := some l }.decided .lcidIssued now
  | .confirmLcid d => do
    let i ← i.changeLcid name (·.confirmed d)
    return i.decided .lcidIssued now
  | .updateLcid expiresAt scope nextSteps costBaseline _ =>
    i.changeLcid i.id (·.updated expiresAt scope nextSteps costBaseline)
  | .retireLcid retiresAt _ | .changeLcidRetirementDate retiresAt =>
    i.changeLcid i.id fun l => { l with retiresAt := some retiresAt }
  | .unretireLcid _ => i.changeLcid i.id fun l => { l with retiresAt := none }
  | .expireLcid _ nextSteps => i.changeLcid i.id (·.expiredEarly today nextSteps)
  | .rejectIntake .. => .ok (i.decided .notApproved now)
  | .markNotGovernance _ => .ok (i.decided .notGovernance now)
  | .closeRequest _ => .ok { i with state := .closed }
  | .reopenRequest _ => .ok { i with state := .opened }

/-- A form whose edits were requested counts as handed in. -/
def withoutEditsRequest (i : Intake) (now : Instant) : Intake :=
  match i.editsRequested? with
  | some stage => i.withStatus stage .submitted now
  | none => i

end Intake

/-- Whether an operation leaves an open request for edits standing. -/
def Operation.keepsEditsRequest : Operation → Bool
  | requestEdits .. => true
  | _ => false

end GovernanceDesk

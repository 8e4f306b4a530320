import GovernanceDesk.Action.Context
import GovernanceDesk.Action.Reading

/-!
# From a form to a mutation

Which operation an action turns into is decided by the request as last loaded: a request that holds
a life cycle ID has it confirmed rather than issued, and one that has a retirement date has the date
changed.

* `ActionKind.readOperation`: the operation that the values of a form describe.
* `ActionKind.buildMutation`: the whole mutation, or a message for every unreadable field.
-/

namespace GovernanceDesk
set_option autoImplicit false

namespace FormValues

def readLcidDecision (values : FormValues) : Reading LcidDecision :=
  LcidDecision.mk
    <$> (if values.flag "useExistingLcid" then some <$> values.readText "lcid" else pure none)
    <*> values.readDate "expiresAt"
    <*> values.readText "scope"
    <*> values.readText "nextSteps"
    <*> values.readChoice "trbFollowUp"
    <*> pure (values.text? "costBaseline")

/-- A move to a step; a meeting has a date, and the review board gets recommendations. -/
def readMoveTo (values : FormValues) (newStep : Step) : Reading Operation :=
  Operation.progressToNewStep newStep
    <$> (if newStep.isMeeting then values.readDateIfAny "meetingDate" else pure none)
    <*> pure (values.text? "feedback")
    <*> pure (if newStep = .grbMeeting then values.text? "grbRecommendations" else none)

def readMove (values : FormValues) : Reading Operation :=
  match values.newStep? with
  | some newStep => values.readMoveTo newStep
  | none => .fail "newStep" "A valid selection is required"

end FormValues

namespace ActionKind

def readOperation (kind : ActionKind) (values : FormValues) (intake : Intake) :
    Reading Operation :=
  match kind with
  | requestEdits =>
    Operation.requestEdits <$> values.readChoice "intakeFormStep"
      <*> values.readText "emailFeedback"
  | progressToNewStep => values.readMove
  | issueLcid =>
    if intake.lcid.isSome then
      (fun d => Operation.confirmLcid { d with lcid := none }) <$> values.readLcidDecision
    else Operation.issueLcid <$> values.readLcidDecision
  | updateLcid =>
    (fun d => Operation.updateLcid d (values.text? "scope") (values.text? "nextSteps")
      (values.text? "costBaseline") (values.text? "reason")) <$> values.readDateIfAny "expiresAt"
  | retireLcid =>
    if intake.lcid.any fun l => l.retiresAt.isSome then
      Operation.changeLcidRetirementDate <$> values.readDate "retiresAt"
    else (fun d => Operation.retireLcid d (values.text? "reason")) <$> values.readDate "retiresAt"
  | unretireLcid => .of (.unretireLcid (values.text? "reason"))
  | expireLcid =>
    (fun r => Operation.expireLcid r (values.text? "nextSteps")) <$> values.readText "reason"
  | notApproved =>
    Operation.rejectIntake <$> values.readText "reason" <*> values.readText "nextSteps"
      <*> values.readChoice "trbFollowUp"
  | notGovernance => .of (.markNotGovernance (values.text? "reason"))
  | closeRequest => .of (.closeRequest (values.text? "reason"))
  | reopenRequest => .of (.reopenRequest (values.text? "reason"))

def buildMutation (kind : ActionKind) (values : FormValues) (ctx : ActionContext)
    (recipients : Option Recipients) : Except Messages Mutation :=
  (kind.readOperation values ctx.intake).result.map fun operation =>
    { intakeId := ctx.intake.id
      recipients := recipients
      additionalInfo := values.text? "additionalInfo"
      adminNote := values.text? "adminNote"
      operation := operation }

end ActionKind

end GovernanceDesk

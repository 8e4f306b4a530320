import GovernanceDesk.Action.Kind
import GovernanceDesk.Calendar.Instant
import GovernanceDesk.Feedback
import GovernanceDesk.Lcid
import GovernanceDesk.Lifecycle
import GovernanceDesk.Recipients

/-!
# Mutations

A completed action form becomes a mutation: one operation on one request, with the people to notify
and two notes.

* `Operation`: the thirteen operations and what each carries.
* `Operation.name`, `Operation.action`: its name in records and the action it belongs to.
* `Mutation`: an operation addressed to a request.
-/

namespace GovernanceDesk
set_option autoImplicit false

/-- What a decision to issue or confirm a life cycle ID fixes. `lcid` names an existing ID to use
again; without it a new one is allocated. -/
structure LcidDecision where
  lcid : Option String
  expiresAt : Date
  scope : String
  nextSteps : String
  trbFollowUp : TrbFollowUp
  costBaseline : Option String
deriving DecidableEq

inductive Operation where
  | requestEdits (target : FeedbackTarget) (emailFeedback : String)
  | progressToNewStep (newStep : Step) (meetingDate : Option Date) (feedback : Option String)
      (grbRecommendations : Option String)
  | issueLcid (decision : LcidDecision)
  | confirmLcid (decision : LcidDecision)
  | updateLcid (expiresAt : Option Date) (scope nextSteps costBaseline reason : Option String)
  | retireLcid (retiresAt : Date) (reason : Option String)
  | changeLcidRetirementDate (retiresAt : Date)
  | unretireLcid (reason : Option String)
  | expireLcid (reason : String) (nextSteps : Option String)
  | rejectIntake (reason nextSteps : String) (trbFollowUp : TrbFollowUp)
  | markNotGovernance (reason : Option String)
  | closeRequest (reason : Option String)
  | reopenRequest (reason : Option String)
deriving DecidableEq

structure Mutation where
  intakeId : String
  /-- Nobody is notified when the action was completed without an email. -/
  recipients : Option Recipients
  additionalInfo : Option String
  adminNote : Option String
  operation : Operation
deriving DecidableEq

/-! ## Names -/

namespace Operation

def name : Operation → String
  | requestEdits .. => "RequestEdits"
  | progressToNewStep .. => "ProgressToNewStep"
  | issueLcid .. => "IssueLcid"
  | confirmLcid .. => "ConfirmLcid"
  | updateLcid .. => "UpdateLcid"
  | retireLcid .. => "RetireLcid"
  | changeLcidRetirementDate .. => "ChangeLcidRetirementDate"
  | unretireLcid .. => "UnretireLcid"
  | expireLcid .. => "ExpireLcid"
  | rejectIntake .. => "RejectIntake"
  | markNotGovernance .. => "MarkNotGovernance"
  | closeRequest .. => "CloseRequest"
  | reopenRequest .. => "ReopenRequest"

/-- The action whose form leads to the operation. -/
def action : Operation → ActionKind
  | requestEdits .. => .requestEdits
  | progressToNewStep .. => .progressToNewStep
  | issueLcid .. | confirmLcid .. => .issueLcid
  | updateLcid .. => .updateLcid
  | retireLcid .. | changeLcidRetirementDate .. => .retireLcid
  | unretireLcid .. => .unretireLcid
  | expireLcid .. => .expireLcid
  | rejectIntake .. => .notApproved
  | markNotGovernance .. => .notGovernance
  | closeRequest .. => .closeRequest
  | reopenRequest .. => .reopenRequest

end Operation

/-! ## In records -/

instance : Coded LcidDecision where
  shape := .record
    [.optional String "lcid", .need Date "expiresAt", .need String "scope",
      .need String "nextSteps", .need TrbFollowUp "trbFollowUp", .optional String "costBaseline"]
  encode d := .fields <|
    Entries.ifSome "lcid" d.lcid ++
    [("expiresAt", encode d.expiresAt), ("scope", encode d.scope),
      ("nextSteps", encode d.nextSteps), ("trbFollowUp", encode d.trbFollowUp)] ++
    Entries.ifSome "costBaseline" d.costBaseline
  decode t := do
    let entries ← t.fields?
    return {
      lcid := ← entries.optional "lcid"
      expiresAt := ← entries.need "expiresAt"
      scope := ← entries.need "scope"
      nextSteps := ← entries.need "nextSteps"
      trbFollowUp := ← entries.need "trbFollowUp"
      costBaseline := ← entries.optional "costBaseline" }

namespace Operation
open Entries

def reasonShape : Shape := .inputs [.optional String "reason"]

/-- What each operation carries, by its name. -/
def variants : List (String × Shape) :=
  [("RequestEdits", .inputs [.need FeedbackTarget "intakeFormStep", .need String "emailFeedback"]),
    ("ProgressToNewStep", .inputs
      [.need Step "newStep", .optional Date "meetingDate", .optional String "feedback",
        .optional String "grbRecommendations"]),
    ("IssueLcid", shape LcidDecision),
    ("ConfirmLcid", shape LcidDecision),
    ("UpdateLcid", .inputs
      [.optional Date "expiresAt", .optional String "scope", .optional String "nextSteps",
        .optional String "costBaseline", .optional String "reason"]),
    ("RetireLcid", .inputs [.need Date "retiresAt", .optional String "reason"]),
    ("ChangeLcidRetirementDate", .inputs [.need Date "retiresAt"]),
    ("UnretireLcid", reasonShape),
    ("ExpireLcid", .inputs [.need String "reason", .optional String "nextSteps"]),
    ("RejectIntake", .inputs
      [.need String "reason", .need String "nextSteps", .need TrbFollowUp "trbFollowUp"]),
    ("MarkNotGovernance", reasonShape),
    ("CloseRequest", reasonShape),
    ("ReopenRequest", reasonShape)]

def encodeInput : Operation → Tree
  | requestEdits target emailFeedback =>
    .fields [("intakeFormStep", encode target), ("emailFeedback", encode emailFeedback)]
  | progressToNewStep newStep meetingDate feedback grbRecommendations =>
    .fields
      [("newStep", encode newStep), orNull "meetingDate" meetingDate, orNull "feedback" feedback,
        orNull "grbRecommendations" grbRecommendations]
  | issueLcid decision | confirmLcid decision => encode decision
  | updateLcid expiresAt scope nextSteps costBaseline reason =>
    .fields
      [orNull "expiresAt" expiresAt, orNull "scope" scope, orNull "nextSteps" nextSteps,
        orNull "costBaseline" costBaseline, orNull "reason" reason]
  | retireLcid retiresAt reason =>
    .fields [("retiresAt", encode retiresAt), orNull "reason" reason]
  | changeLcidRetirementDate retiresAt => .fields [("retiresAt", encode retiresAt)]
  | expireLcid reason nextSteps =>
    .fields [("reason", encode reason), orNull "nextSteps" nextSteps]
  | rejectIntake reason nextSteps trbFollowUp =>
    .fields
      [("reason", encode reason), ("nextSteps", encode nextSteps),
        ("trbFollowUp", encode trbFollowUp)]
  | unretireLcid reason | markNotGovernance reason | closeRequest reason
  | reopenRequest reason => .fields [orNull "reason" reason]

/-- The optional reason that is all some operations carry. -/
def decodeReason (input : Tree) : Option (Option String) := do
  (← input.fields?).optional "reason"

def decodeInput (name : String) (input : Tree) : Option Operation :=
  match name with
  | "RequestEdits" => do
    let entries ← input.fields?
    return requestEdits (← entries.need "intakeFormStep") (← entries.need "emailFeedback")
  | "ProgressToNewStep" => do
    let entries ← input.fields?
    return progressToNewStep (← entries.need "newStep") (← entries.optional "meetingDate")
      (← entries.optional "feedback") (← entries.optional "grbRecommendations")
  | "IssueLcid" => (decode input).map issueLcid
  | "ConfirmLcid" => (decode input).map confirmLcid
  | "UpdateLcid" => do
    let entries ← input.fields?
    return updateLcid (← entries.optional "expiresAt") (← entries.optional "scope")
      (← entries.optional "nextSteps") (← entries.optional "costBaseline")
      (← entries.optional "reason")
  | "RetireLcid" => do
    let entries ← input.fields?
    return retireLcid (← entries.need "retiresAt") (← entries.optional "reason")
  | "ChangeLcidRetirementDate" => do
    let entries ← input.fields?
    return changeLcidRetirementDate (← entries.need "retiresAt")
  | "UnretireLcid" => (decodeReason input).map unretireLcid
  | "ExpireLcid" => do
    let entries ← input.fields?
    return expireLcid (← entries.need "reason") (← entries.optional "nextSteps")
  | "RejectIntake" => do
    let entries ← input.fields?
    return rejectIntake (← entries.need "reason") (← entries.need "nextSteps")
      (← entries.need "trbFollowUp")
  | "MarkNotGovernance" => (decodeReason input).map markNotGovernance
  | "CloseRequest" => (decodeReason input).map closeRequest
  | "ReopenRequest" => (decodeReason input).map reopenRequest
  | _ => none

instance : Coded Operation where
  shape := .cases "name" "input" variants
  encode op := .fields [("name", .text op.name), ("input", op.encodeInput)]
  decode t := do
    let entries ← t.fields?
    let name ← (← entries.lookup "name").text?
    decodeInput name (← entries.lookup "input")

end Operation

instance : Coded Mutation where
  shape := .record
    [.need String "systemIntakeID", .optional Recipients "notificationRecipients",
      .optional String "additionalInfo", .optional String "adminNote", .need Operation "operation"]
  encode m := .fields <|
    [("systemIntakeID", encode m.intakeId),
      Entries.orNull "notificationRecipients" m.recipients] ++
    Entries.ifSome "additionalInfo" m.additionalInfo ++
    Entries.ifSome "adminNote" m.adminNote ++ [("operation", encode m.operation)]
  decode t := do
    let entries ← t.fields?
    return {
      intakeId := ← entries.need "systemIntakeID"
      recipients := ← entries.optional "notificationRecipients"
      additionalInfo := ← entries.optional "additionalInfo"
      adminNote := ← entries.optional "adminNote"
      operation := ← entries.need "operation" }

end GovernanceDesk

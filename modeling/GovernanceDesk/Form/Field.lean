import GovernanceDesk.Action.Kind
import GovernanceDesk.Form.Values
import GovernanceDesk.Lcid
import GovernanceDesk.Lifecycle

/-!
# Fields of the action forms

* `Field`: a field with its label, its kind, and when it is shown and required.
* `ActionKind.fields`: the fields of each action's form, in the order they are shown.
* `Field.visible`, `Field.required`: both may hang on the values entered so far.
-/

namespace GovernanceDesk
set_option autoImplicit false

inductive FieldKind where
  | text
  | longText
  | date
  | checkBox
  | choice (options : List String)
deriving DecidableEq

namespace FieldKind

def tag : FieldKind → String
  | text => "text"
  | longText => "long_text"
  | date => "date"
  | checkBox => "bool"
  | choice _ => "choice"

/-- What can be chosen; only a choice has any. -/
def options : FieldKind → List String
  | choice options => options
  | _ => []

end FieldKind

/-- A circumstance, read off the values entered so far. -/
inductive Condition where
  | always
  | never
  | progressingToMeeting
  | progressingToGrb
  | usingExistingLcid
deriving DecidableEq

structure Field where
  name : String
  label : String
  kind : FieldKind
  whenRequired : Condition
  whenVisible : Condition
  warnsIfPast : Bool
deriving DecidableEq

/-! ## Conditions -/

namespace FormValues

/-- The step a request is to move to, in any spelling. -/
def newStep? (values : FormValues) : Option Step :=
  (values.text? "newStep").bind Tagged.ofSpelling?

end FormValues

def Condition.holds (values : FormValues) : Condition → Bool
  | always => true
  | never => false
  | progressingToMeeting => (values.newStep?).any Step.isMeeting
  | progressingToGrb => values.text? "newStep" == some Step.grbMeeting.tag
  | usingExistingLcid => values.flag "useExistingLcid"

namespace Field

def required (f : Field) (values : FormValues) : Bool :=
  f.whenRequired.holds values

def visible (f : Field) (values : FormValues) : Bool :=
  f.whenVisible.holds values

/-! ## Building fields -/

def plain (name label : String) (kind : FieldKind) : Field :=
  ⟨name, label, kind, .always, .always, false⟩

def optional (f : Field) : Field := { f with whenRequired := .never }

def shownWhen (f : Field) (c : Condition) : Field := { f with whenVisible := c }

def requiredWhen (f : Field) (c : Condition) : Field := { f with whenRequired := c }

def warning (f : Field) : Field := { f with warnsIfPast := true }

def additionalInfo : Field :=
  (plain "additionalInfo" "Additional information for the requester" .longText).optional

def adminNote : Field :=
  (plain "adminNote" "Admin note" .longText).optional

end Field

/-! ## Choices -/

def editTargets : List String :=
  ["INTAKE_REQUEST", "DRAFT_BUSINESS_CASE", "FINAL_BUSINESS_CASE"]

def progressSteps : List String :=
  ["DRAFT_BUSINESS_CASE", "GRT_MEETING", "FINAL_BUSINESS_CASE", "GRB_MEETING"]

def trbFollowUps : List String :=
  TrbFollowUp.all.map TrbFollowUp.tag

/-! ## The forms -/

namespace ActionKind
open GovernanceDesk.Field

def ownFields : ActionKind → List Field
  | requestEdits =>
    [plain "intakeFormStep" "Which form needs edits?" (.choice editTargets),
      plain "emailFeedback" "What changes are needed?" .longText]
  | progressToNewStep =>
    [plain "newStep" "Which step should the request move to?" (.choice progressSteps),
      ((plain "meetingDate" "Meeting date" .date).optional).shownWhen .progressingToMeeting,
      (plain "feedback" "Feedback for the requester" .longText).optional,
      ((plain "grbRecommendations" "Recommendations for the GRB" .longText).optional).shownWhen
        .progressingToGrb]
  | issueLcid =>
    [(plain "useExistingLcid" "Use an existing Life Cycle ID" .checkBox).optional,
      ((plain "lcid" "Life Cycle ID" .text).requiredWhen .usingExistingLcid).shownWhen
        .usingExistingLcid,
      (plain "expiresAt" "Expiration date" .date).warning,
      plain "scope" "Scope of Life Cycle ID" .longText,
      plain "nextSteps" "Project next steps" .longText,
      plain "trbFollowUp" "TRB follow-up" (.choice trbFollowUps),
      (plain "costBaseline" "Project cost baseline" .longText).optional]
  | updateLcid =>
    [((plain "expiresAt" "Expiration date" .date).optional).warning,
      (plain "scope" "Scope of Life Cycle ID" .longText).optional,
      (plain "nextSteps" "Project next steps" .longText).optional,
      (plain "costBaseline" "Project cost baseline" .longText).optional,
      (plain "reason" "Reason for update" .longText).optional]
  | retireLcid =>
    [(plain "retiresAt" "Retirement date" .date).warning,
      (plain "reason" "Reason for retirement" .longText).optional]
  | expireLcid =>
    [plain "reason" "Reason for expiration" .longText,
      (plain "nextSteps" "Next steps" .longText).optional]
  | notApproved =>
    [plain "reason" "Why was this request not approved?" .longText,
      plain "nextSteps" "Next steps" .longText,
      plain "trbFollowUp" "TRB follow-up" (.choice trbFollowUps)]
  | unretireLcid | notGovernance | closeRequest | reopenRequest =>
    [(plain "reason" "Reason" .longText).optional]

/-- Every form ends with the two notes. -/
def fields (kind : ActionKind) : List Field :=
  kind.ownFields ++ [additionalInfo, adminNote]

def field? (kind : ActionKind) (name : String) : Option Field :=
  kind.fields.find? fun f => f.name == name

end ActionKind

end GovernanceDesk

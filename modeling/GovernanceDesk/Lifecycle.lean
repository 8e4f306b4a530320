import GovernanceDesk.Stage

/-!
# Where a request stands

* `Step`: the step a request is on, each belonging to one stage.
* `RequestState`: whether the request is open.
* `Decision`: what was decided about it; two of the decisions end the process.
-/

namespace GovernanceDesk
set_option autoImplicit false

/-! ## Steps -/

inductive Step where
  | initialRequestForm
  | draftBusinessCase
  | grtMeeting
  | finalBusinessCase
  | grbMeeting
  | decisionAndNextSteps
deriving DecidableEq

namespace Step

def all : List Step :=
  [initialRequestForm, draftBusinessCase, grtMeeting, finalBusinessCase, grbMeeting,
    decisionAndNextSteps]

def tag : Step → String
  | initialRequestForm => "INITIAL_REQUEST_FORM"
  | draftBusinessCase => "DRAFT_BUSINESS_CASE"
  | grtMeeting => "GRT_MEETING"
  | finalBusinessCase => "FINAL_BUSINESS_CASE"
  | grbMeeting => "GRB_MEETING"
  | decisionAndNextSteps => "DECISION_AND_NEXT_STEPS"

instance : Tagged Step := ⟨"IntakeStep", all, tag⟩

/-- The row of the task list that stands for work on the step. -/
def stage : Step → Stage
  | initialRequestForm => .intakeForm
  | draftBusinessCase => .draftBusinessCase
  | grtMeeting => .grtMeeting
  | finalBusinessCase => .finalBusinessCase
  | grbMeeting => .grbMeeting
  | decisionAndNextSteps => .decisionAndNextSteps

def isMeeting : Step → Bool
  | grtMeeting | grbMeeting => true
  | _ => false

end Step

/-! ## Open and closed -/

inductive RequestState where
  | opened
  | closed
deriving DecidableEq

namespace RequestState

def all : List RequestState := [opened, closed]

def tag : RequestState → String
  | opened => "OPEN"
  | closed => "CLOSED"

instance : Tagged RequestState := ⟨"IntakeState", all, tag⟩

end RequestState

/-! ## Decisions -/

inductive Decision where
  | noDecision
  | lcidIssued
  | notApproved
  | notGovernance
deriving DecidableEq

namespace Decision

def all : List Decision := [noDecision, lcidIssued, notApproved, notGovernance]

def tag : Decision → String
  | noDecision => "NO_DECISION"
  | lcidIssued => "LCID_ISSUED"
  | notApproved => "NOT_APPROVED"
  | notGovernance => "NOT_GOVERNANCE"

instance : Tagged Decision := ⟨"DecisionState", all, tag⟩

/-- Decisions that end the governance process. -/
def isTerminal : Decision → Bool
  | lcidIssued | notApproved => true
  | _ => false

end Decision

end GovernanceDesk

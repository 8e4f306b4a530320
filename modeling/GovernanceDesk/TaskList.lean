import GovernanceDesk.Feedback
import GovernanceDesk.Lifecycle

/-!
# The task list of a request

One row per stage with the status its requester sees. The statuses on record are resolved from the
first stage on: a stage waits for its predecessor, and a skipped predecessor carries its skip over
to a stage that nothing has started yet.

* `TaskList.decidedStatus`, `TaskList.openStatus`: the status of one stage, for a request that is
  closed with a final decision and for any other.
* `TaskList.resolved`: the statuses of all stages.
* `TaskList.rows`, `TaskList.currentStage?`: the list, and the first stage still to be worked on.
-/

namespace GovernanceDesk
set_option autoImplicit false

structure TaskRow where
  stage : Stage
  status : Status
  dimmed : Bool
  hasFeedback : Bool
deriving DecidableEq

def TaskRow.encoded (row : TaskRow) : Tree := .fields
  [("stage", encode row.stage), ("status", encode row.status), ("dimmed", .bool row.dimmed),
    ("has_feedback", .bool row.hasFeedback)]

/-- What the task list is resolved from. -/
structure TaskListInput where
  step : Step
  state : RequestState
  decision : Decision
  stored : StageTable
  feedback : List Feedback

namespace TaskList

/-! ## One stage -/

/-- Closed with a final decision: nothing is left to do. -/
def decidedStatus (stored : StageTable) (stage : Stage) : Status :=
  if stage = .decisionAndNextSteps then .done
  else if stored.status stage = .done then .done
  else .notNeeded

/-- The status of a stage by its own status on record and the resolved one of its predecessor. -/
def openStatus (stored : Status) (before : Option Status) : Status :=
  if stored = .notNeeded then .notNeeded
  else match before with
  | none | some .done => stored
  | some .notNeeded => if stored = .cannotStart then .notNeeded else stored
  | some _ => .cannotStart

/-! ## All stages -/

def isDecided (state : RequestState) (decision : Decision) : Bool :=
  state == .closed && decision.isTerminal

/-- Resolves the stages of a list in order, each from the one before it. -/
def openStatuses (stored : StageTable) : Option Status → List Stage → List (Stage × Status)
  | _, [] => []
  | before, stage :: rest =>
    let status := openStatus (stored.status stage) before
    (stage, status) :: openStatuses stored (some status) rest

def resolved (state : RequestState) (decision : Decision) (stored : StageTable) :
    List (Stage × Status) :=
  if isDecided state decision then Stage.all.map fun stage => (stage, decidedStatus stored stage)
  else openStatuses stored none Stage.all

def rows (input : TaskListInput) : List TaskRow :=
  (resolved input.state input.decision input.stored).map fun e =>
    ⟨e.1, e.2, e.2.isDimmed, Feedback.isAbout input.feedback e.1⟩

/-! ## Reading the list -/

def status (rows : List TaskRow) (stage : Stage) : Status :=
  ((rows.find? fun row => row.stage == stage).map TaskRow.status).getD .cannotStart

/-- The first stage that is neither finished nor skipped. -/
def currentStage? (rows : List TaskRow) : Option Stage :=
  (rows.find? fun row => !row.status.isTerminal).map TaskRow.stage

end TaskList

end GovernanceDesk

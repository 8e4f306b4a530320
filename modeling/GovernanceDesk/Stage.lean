import GovernanceDesk.Tagged

/-!
# Stages of the governance process

* `Stage`: the rows of the task list, in the order in which they are worked through.
* `Stage.predecessor?`: the stage that must be finished before a stage can start.
* `Status`: how far a stage has come.
* `StageTable`: the statuses on record, a stage without an entry counting as one that cannot start.
-/

namespace GovernanceDesk
set_option autoImplicit false

/-! ## Stages -/

inductive Stage where
  | intakeForm
  | initialReviewFeedback
  | draftBusinessCase
  | grtMeeting
  | finalBusinessCase
  | grbMeeting
  | decisionAndNextSteps
deriving DecidableEq

namespace Stage

def all : List Stage :=
  [intakeForm, initialReviewFeedback, draftBusinessCase, grtMeeting, finalBusinessCase, grbMeeting,
    decisionAndNextSteps]

def tag : Stage → String
  | intakeForm => "INTAKE_FORM"
  | initialReviewFeedback => "INITIAL_REVIEW_FEEDBACK"
  | draftBusinessCase => "DRAFT_BUSINESS_CASE"
  | grtMeeting => "GRT_MEETING"
  | finalBusinessCase => "FINAL_BUSINESS_CASE"
  | grbMeeting => "GRB_MEETING"
  | decisionAndNextSteps => "DECISION_AND_NEXT_STEPS"

instance : Tagged Stage := ⟨"TaskStage", all, tag⟩

/-- The place of the stage in the process, from 0. -/
def index : Stage → Nat
  | intakeForm => 0
  | initialReviewFeedback => 1
  | draftBusinessCase => 2
  | grtMeeting => 3
  | finalBusinessCase => 4
  | grbMeeting => 5
  | decisionAndNextSteps => 6

def label : Stage → String
  | intakeForm => "Fill out the Intake Request form"
  | initialReviewFeedback => "Feedback from initial review"
  | draftBusinessCase => "Prepare a draft Business Case"
  | grtMeeting => "Attend the GRT meeting"
  | finalBusinessCase => "Submit your final Business Case"
  | grbMeeting => "Attend the GRB meeting"
  | decisionAndNextSteps => "Decision and next steps"

def predecessor? : Stage → Option Stage
  | intakeForm => none
  | initialReviewFeedback => some intakeForm
  | draftBusinessCase => some initialReviewFeedback
  | grtMeeting => some draftBusinessCase
  | finalBusinessCase => some grtMeeting
  | grbMeeting => some finalBusinessCase
  | decisionAndNextSteps => some grbMeeting

theorem mem_all (s : Stage) : s ∈ all := by cases s <;> decide

/-- A predecessor stands one place earlier. -/
theorem index_predecessor? {s p : Stage} (h : s.predecessor? = some p) :
    p.index + 1 = s.index := by
  cases s <;> cases h <;> rfl

end Stage

/-! ## Statuses -/

inductive Status where
  | cannotStart
  | ready
  | inProgress
  | editsRequested
  | submitted
  | done
  | notNeeded
deriving DecidableEq

namespace Status

def all : List Status :=
  [cannotStart, ready, inProgress, editsRequested, submitted, done, notNeeded]

def tag : Status → String
  | cannotStart => "CANNOT_START"
  | ready => "READY"
  | inProgress => "IN_PROGRESS"
  | editsRequested => "EDITS_REQUESTED"
  | submitted => "SUBMITTED"
  | done => "DONE"
  | notNeeded => "NOT_NEEDED"

instance : Tagged Status := ⟨"StepStatus", all, tag⟩

def label : Status → String
  | cannotStart => "Cannot start yet"
  | ready => "Ready to start"
  | inProgress => "In progress"
  | editsRequested => "Edits requested"
  | submitted => "Submitted"
  | done => "Completed"
  | notNeeded => "Not needed"

/-- Finished or skipped: nothing more happens on the stage while the request is open. -/
def isTerminal : Status → Bool
  | done | notNeeded => true
  | _ => false

/-- Whether the row is shown grayed out. -/
def isDimmed : Status → Bool
  | notNeeded | cannotStart => true
  | _ => false

end Status

/-! ## Statuses on record -/

/-- The status on record for each stage that has one. -/
structure StageTable where
  entry : Stage → Option Status

namespace StageTable

def empty : StageTable := ⟨fun _ => none⟩

instance : EmptyCollection StageTable := ⟨empty⟩

def status (table : StageTable) (s : Stage) : Status :=
  (table.entry s).getD .cannotStart

def set (table : StageTable) (s : Stage) (status : Status) : StageTable :=
  ⟨fun other => if other = s then some status else table.entry other⟩

@[simp] theorem entry_set (table : StageTable) (s other : Stage) (status : Status) :
    (table.set s status).entry other = if other = s then some status else table.entry other := rfl

@[simp] theorem status_set (table : StageTable) (s other : Stage) (st : Status) :
    (table.set s st).status other = if other = s then st else table.status other := by
  unfold status
  rw [entry_set]
  split <;> rfl

@[ext] theorem ext {a b : StageTable} (h : ∀ s, a.entry s = b.entry s) : a = b := by
  cases a; cases b; congr; exact funext h

/-- The stages with a status on record, in the order of the process. -/
def entries (table : StageTable) : List (Stage × Status) :=
  Stage.all.filterMap fun s => (table.entry s).map fun status => (s, status)

def ofEntries (entries : List (Stage × Status)) : StageTable :=
  entries.foldl (fun table e => table.set e.1 e.2) empty

instance : Coded StageTable where
  shape := .map (some (Tagged.tags Stage)) (shape Status)
  encode table := .fields (table.entries.map fun e => (Stage.tag e.1, encode e.2))
  decode t := do
    let entries ← t.fields?
    let read ← entries.mapM fun e => do
      let stage : Stage ← Tagged.ofTag? e.1
      let status ← decode e.2
      return (stage, status)
    return ofEntries read

end StageTable

end GovernanceDesk

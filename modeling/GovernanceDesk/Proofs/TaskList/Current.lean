import GovernanceDesk.Proofs.TaskList.Recorded
import GovernanceDesk.Proofs.TaskList.Waiting

/-!
# An open request waits for something

A stage before the decision that is under way, started and not finished, is what keeps a request
going. No action takes the last such stage away: a move starts the stage it goes to, a request for
edits starts the form it is about, and everything else leaves what is under way as it is or hands it
in. The task list shows an unfinished stage wherever one is under way.

* `StageTable.HasWork`: some stage before the decision is under way.
* `StageTable.HasWork.changed`: every change to the statuses on record keeps it so.
* `Store.currentStage?_of_reached`: an open request always has a current stage.
-/

namespace GovernanceDesk
set_option autoImplicit false

/-- Some stage before the decision is under way. -/
def StageTable.HasWork (table : StageTable) : Prop :=
  ∃ stage, stage ≠ .decisionAndNextSteps ∧ (table.status stage).isUnderWay = true

/-! ## The task list -/

namespace TaskList

variable {stored : StageTable}

/-- A stage under way is shown as it is or as one that has to wait, never as finished. -/
theorem isTerminal_openStatus {status : Status} (underWay : status.isUnderWay = true)
    (before : Option Status) : (openStatus status before).isTerminal = false := by
  rcases before with _ | before
  · cases status <;> first | rfl | exact nomatch underWay
  · cases before <;> cases status <;> first | rfl | exact nomatch underWay

theorem exists_unfinished {stage : Stage} (underWay : (stored.status stage).isUnderWay = true)
    (before : Option Status) {stages : List Stage} (mem : stage ∈ stages) :
    ∃ e ∈ openStatuses stored before stages, e.2.isTerminal = false := by
  induction stages generalizing before with
  | nil => exact absurd mem List.not_mem_nil
  | cons first rest ih =>
    rw [openStatuses]
    rcases List.mem_cons.1 mem with rfl | later
    · exact ⟨_, List.mem_cons_self .., isTerminal_openStatus underWay before⟩
    · obtain ⟨e, he, unfinished⟩ := ih (some (openStatus (stored.status first) before)) later
      exact ⟨e, List.mem_cons_of_mem _ he, unfinished⟩

end TaskList

namespace Intake

variable {i : Intake}

theorem currentStage?_of_hasWork (isOpen : i.state = .opened) (work : i.statuses.HasWork) :
    ∃ stage, i.currentStage? = some stage := by
  obtain ⟨stage, -, underWay⟩ := work
  obtain ⟨e, he, unfinished⟩ :=
    TaskList.exists_unfinished underWay none (Stage.mem_all stage)
  have notClosed : ¬ i.state = .closed := by
    rw [isOpen]
    exact nofun
  rw [currentStage?, if_neg notClosed, TaskList.currentStage?, TaskList.rows_of_opened isOpen,
    List.find?_map, Option.map_map]
  refine Option.isSome_iff_exists.1 ?_
  rw [Option.isSome_map, List.find?_isSome]
  exact ⟨e, he, by simpa using unfinished⟩

end Intake

/-! ## What actions leave under way -/

namespace StageTable

variable {table table' : StageTable}

/-- Setting a stage takes away work only where it finishes the stage. -/
theorem HasWork.set {stage : Stage} {status : Status} (work : table.HasWork)
    (harmless : stage = .decisionAndNextSteps ∨ status.isUnderWay = true) :
    (table.set stage status).HasWork := by
  obtain ⟨other, before, underWay⟩ := work
  refine ⟨other, before, ?_⟩
  rw [status_set]
  split
  next same => exact harmless.resolve_left (same ▸ before)
  · exact underWay

theorem hasWork_afterMove (table : StageTable) (current : Stage) {newStep : Step}
    (before : newStep ≠ .decisionAndNextSteps) :
    (table.afterMove current newStep.stage).HasWork := by
  have ready : (table.afterMove current newStep.stage).status newStep.stage = .ready := by
    change table.statusAfterMove current newStep.stage newStep.stage = .ready
    rw [statusAfterMove, if_neg (Nat.lt_irrefl _), if_pos rfl]
  refine ⟨newStep.stage, ?_, by rw [ready]; rfl⟩
  cases newStep with
  | decisionAndNextSteps => exact absurd rfl before
  | _ => exact nofun

theorem HasWork.changed (work : table.HasWork) (change : table.Change table') :
    table'.HasWork := by
  cases change with
  | kept => exact work
  | started _ _ underWay => exact work.set (.inr underWay)
  | decided => exact work.set (.inl rfl)
  | moved current _ before => exact hasWork_afterMove table current before

end StageTable

/-! ## Runs -/

namespace Store

variable {s : Store}

theorem hasWork_of_reached {id : String} (h : Reached id s) {i : Intake}
    (loaded : s.load id = .ok i) : i.statuses.HasWork :=
  h.statuses_invariant (P := StageTable.HasWork) (fun _ _ _ => ⟨.intakeForm, by decide, rfl⟩)
    (fun change work => work.changed change) loaded

/-- A request that is open waits for a stage, whatever actions were completed on it. -/
theorem currentStage?_of_reached {id : String} (h : Reached id s) {i : Intake}
    (loaded : s.load id = .ok i) (isOpen : i.state = .opened) :
    ∃ stage, i.currentStage? = some stage :=
  Intake.currentStage?_of_hasWork isOpen (hasWork_of_reached h loaded)

def rejecting : ActionRequest where
  intakeId := "r1"
  kind := .notApproved
  values := NameMap.ofList [("reason", .text "Too early"), ("nextSteps", .text "Come back"),
    ("trbFollowUp", .text "NOT_RECOMMENDED")]
  recipients := none
  button := .complete
  confirmed := false

def reopening : ActionRequest := ⟨"r1", .reopenRequest, ∅, none, .complete, false⟩

def reopenedDesk : Store :=
  ((smallDesk.runAction noon.date noon rejecting).2.runAction noon.date noon reopening).2

theorem reached_reopenedDesk : Reached "r1" reopenedDesk :=
  .acted (.acted reached_smallDesk noon.date noon rejecting (by decide +kernel)) noon.date noon
    reopening (by decide +kernel)

/-- A request that was decided and opened again. -/
theorem currentStage?_of_reached_reopened :
    ∃ i, Reached "r1" reopenedDesk ∧ reopenedDesk.load "r1" = .ok i ∧ i.state = .opened ∧
      ∃ stage, i.currentStage? = some stage := by
  have seen : (reopenedDesk.load "r1").toOption.any (·.state == .opened) = true := by
    decide +kernel
  obtain ⟨i, loaded, isOpen⟩ := exists_load_of_any seen
  have isOpen : i.state = .opened := beq_iff_eq.1 isOpen
  exact ⟨i, reached_reopenedDesk, loaded, isOpen,
    currentStage?_of_reached reached_reopenedDesk loaded isOpen⟩

end Store

end GovernanceDesk

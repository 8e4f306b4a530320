import GovernanceDesk.TaskList

/-!
# Statuses that are resolved again

A stage is resolved from its own status on record and from the row before it. The same row before it
leaves the status this gives as it is, so the statuses of a task list, once they are put on record,
give the same list again. What is on record behind a stage is never looked at.

* `TaskList.statuses`: the statuses of a task list as they are put on record.
* `TaskList.resolved_of_recorded`: resolved statuses are resolved to themselves.
* `TaskListInput.AgreesUpTo`, `TaskList.mem_resolved_of_agreesUpTo`: what a status hangs on.
* `TaskList.rows_settled`: both for the rows of a list.
-/

namespace GovernanceDesk
set_option autoImplicit false

/-! ## Statuses put on record -/

namespace StageTable

theorem entry_foldl_set_of_not_mem {entries : List (Stage × Status)} {s : Stage}
    (absent : s ∉ entries.map Prod.fst) (start : StageTable) :
    (entries.foldl (fun table e => table.set e.1 e.2) start).entry s = start.entry s := by
  induction entries generalizing start with
  | nil => rfl
  | cons first rest ih =>
    rw [List.map_cons, List.mem_cons, not_or] at absent
    rw [List.foldl_cons, ih absent.2, entry_set, if_neg absent.1]

theorem entry_foldl_set_of_mem {entries : List (Stage × Status)}
    (distinct : (entries.map Prod.fst).Nodup) {e : Stage × Status} (mem : e ∈ entries)
    (start : StageTable) :
    (entries.foldl (fun table e => table.set e.1 e.2) start).entry e.1 = some e.2 := by
  induction entries generalizing start with
  | nil => exact absurd mem List.not_mem_nil
  | cons first rest ih =>
    rw [List.map_cons, List.nodup_cons] at distinct
    rw [List.foldl_cons]
    rcases List.mem_cons.1 mem with rfl | later
    · rw [entry_foldl_set_of_not_mem distinct.1, entry_set, if_pos rfl]
    · exact ih distinct.2 later _

theorem status_ofEntries {entries : List (Stage × Status)}
    (distinct : (entries.map Prod.fst).Nodup) {e : Stage × Status} (mem : e ∈ entries) :
    (ofEntries entries).status e.1 = e.2 := by
  rw [status, ofEntries, entry_foldl_set_of_mem distinct mem]
  rfl

end StageTable

/-- Two inputs that agree in their state, their decision and the statuses on record up to a stage,
whatever else they hold. -/
structure TaskListInput.AgreesUpTo (input other : TaskListInput) (stage : Stage) : Prop where
  state : other.state = input.state
  decision : other.decision = input.decision
  stored : ∀ u : Stage, u.index ≤ stage.index → other.stored.status u = input.stored.status u

namespace TaskList

/-- The statuses of a task list as they are put on record. -/
def statuses (rows : List TaskRow) : StageTable :=
  .ofEntries (rows.map fun row => (row.stage, row.status))

/-! ## One stage -/

/-- Behind the same row, a status that was resolved is resolved to itself. -/
theorem openStatus_openStatus (status : Status) (before : Option Status) :
    openStatus (openStatus status before) before = openStatus status before := by
  rcases before with _ | before
  · cases status <;> rfl
  · cases before <;> cases status <;> rfl

/-- A closed request shows a stage as finished or skipped, and again so from what it shows. -/
theorem decidedStatus_of_recorded {stored table : StageTable} {stage : Stage}
    (recorded : table.status stage = decidedStatus stored stage) :
    decidedStatus table stage = decidedStatus stored stage := by
  by_cases last : stage = .decisionAndNextSteps
  · rw [decidedStatus, decidedStatus, if_pos last, if_pos last]
  · rw [decidedStatus, if_neg last] at recorded
    rw [decidedStatus, decidedStatus, if_neg last, if_neg last, recorded]
    by_cases finished : stored.status stage = .done
    · rw [if_pos finished]
      rfl
    · rw [if_neg finished]
      rfl

/-! ## All stages -/

variable {stored table : StageTable}

theorem map_fst_openStatuses (before : Option Status) (stages : List Stage) :
    (openStatuses stored before stages).map Prod.fst = stages := by
  induction stages generalizing before with
  | nil => rfl
  | cons stage rest ih => rw [openStatuses, List.map_cons, ih]

theorem map_fst_resolved (state : RequestState) (decision : Decision) (stored : StageTable) :
    (resolved state decision stored).map Prod.fst = Stage.all := by
  rw [resolved]
  split
  · rw [List.map_map]
    exact List.map_id Stage.all
  · exact map_fst_openStatuses none Stage.all

/-- The row before a stage is the same in both passes, so each stage meets its own status behind the
row that gave it. -/
theorem openStatuses_of_recorded {before : Option Status} {stages : List Stage}
    (recorded : ∀ e ∈ openStatuses stored before stages, table.status e.1 = e.2) :
    openStatuses table before stages = openStatuses stored before stages := by
  induction stages generalizing before with
  | nil => rfl
  | cons stage rest ih =>
    rw [openStatuses, List.forall_mem_cons] at recorded
    obtain ⟨here, later⟩ := recorded
    dsimp only at here later
    rw [openStatuses, openStatuses, here, openStatus_openStatus, ih later]

theorem resolved_of_recorded {state : RequestState} {decision : Decision}
    (recorded : ∀ e ∈ resolved state decision stored, table.status e.1 = e.2) :
    resolved state decision table = resolved state decision stored := by
  rw [resolved] at recorded ⊢
  rw [resolved]
  split
  next decided =>
    rw [if_pos decided] at recorded
    refine List.map_congr_left fun stage mem => ?_
    have here := recorded _ (List.mem_map_of_mem mem)
    rw [decidedStatus_of_recorded here]
  next waiting =>
    rw [if_neg waiting] at recorded
    exact openStatuses_of_recorded recorded

/-! ## What a status hangs on -/

/-- In a list in the order of the process, a stage is resolved from the stages up to it. -/
theorem mem_openStatuses_of_agrees {before : Option Status} {stages : List Stage}
    (ordered : stages.Pairwise fun w u => w.index < u.index) {e : Stage × Status}
    (agrees : ∀ u : Stage, u.index ≤ e.1.index → table.status u = stored.status u)
    (mem : e ∈ openStatuses stored before stages) : e ∈ openStatuses table before stages := by
  induction stages generalizing before with
  | nil => exact mem
  | cons stage rest ih =>
    obtain ⟨after, ordered⟩ := List.pairwise_cons.1 ordered
    rw [openStatuses] at mem ⊢
    rcases List.mem_cons.1 mem with rfl | later
    · rw [agrees stage (Nat.le_refl _)]
      exact List.mem_cons_self ..
    · have behind : e.1 ∈ rest := by
        have place := List.mem_map_of_mem (f := Prod.fst) later
        rwa [map_fst_openStatuses] at place
      rw [agrees stage (Nat.le_of_lt (after e.1 behind))]
      exact List.mem_cons_of_mem _ (ih ordered later)

theorem mem_resolved_of_agreesUpTo {input other : TaskListInput} {e : Stage × Status}
    (agrees : input.AgreesUpTo other e.1)
    (mem : e ∈ resolved input.state input.decision input.stored) :
    e ∈ resolved other.state other.decision other.stored := by
  rw [agrees.state, agrees.decision]
  rw [resolved] at mem ⊢
  split at mem
  next decided =>
    rw [if_pos decided]
    obtain ⟨stage, place, rfl⟩ := List.mem_map.1 mem
    refine List.mem_map.2 ⟨stage, place, ?_⟩
    rw [decidedStatus, decidedStatus, agrees.stored stage (Nat.le_refl _)]
  next waiting =>
    rw [if_neg waiting]
    exact mem_openStatuses_of_agrees (by decide) agrees.stored mem

/-! ## Rows -/

variable {input other : TaskListInput} {row row' : TaskRow}

/-- The row of a stage with a status that was resolved for it. -/
def rowOf (feedback : List Feedback) (e : Stage × Status) : TaskRow :=
  ⟨e.1, e.2, e.2.isDimmed, Feedback.isAbout feedback e.1⟩

theorem rows_eq_map (input : TaskListInput) :
    rows input = (resolved input.state input.decision input.stored).map (rowOf input.feedback) :=
  rfl

theorem map_stage_rows (input : TaskListInput) : (rows input).map TaskRow.stage = Stage.all := by
  rw [rows_eq_map, List.map_map]
  exact map_fst_resolved input.state input.decision input.stored

theorem statuses_rows (input : TaskListInput) :
    statuses (rows input) = .ofEntries (resolved input.state input.decision input.stored) := by
  rw [statuses, rows_eq_map, List.map_map]
  exact congrArg StageTable.ofEntries (List.map_id _)

theorem status_statuses_rows {e : Stage × Status}
    (mem : e ∈ resolved input.state input.decision input.stored) :
    (statuses (rows input)).status e.1 = e.2 := by
  rw [statuses_rows]
  refine StageTable.status_ofEntries ?_ mem
  rw [map_fst_resolved]
  decide

theorem rows_of_statuses (input : TaskListInput) :
    rows { input with stored := statuses (rows input) } = rows input := by
  have recorded : ∀ e ∈ resolved input.state input.decision input.stored,
      (statuses (rows input)).status e.1 = e.2 := fun _ mem => status_statuses_rows mem
  rw [rows_eq_map, rows_eq_map]
  exact congrArg (List.map (rowOf input.feedback)) (resolved_of_recorded recorded)

theorem status_eq_of_agreesUpTo (mem : row ∈ rows input) (mem' : row' ∈ rows other)
    (same : row'.stage = row.stage) (agrees : input.AgreesUpTo other row.stage) :
    row'.status = row.status := by
  rw [rows_eq_map] at mem mem'
  obtain ⟨e, shown, rfl⟩ := List.mem_map.1 mem
  obtain ⟨e', shown', rfl⟩ := List.mem_map.1 mem'
  have here := status_statuses_rows (mem_resolved_of_agreesUpTo agrees shown)
  have there := status_statuses_rows shown'
  change e'.1 = e.1 at same
  rw [same] at there
  exact there.symm.trans here

theorem hasFeedback_of_mem (mem : row ∈ rows input) :
    row.hasFeedback = Feedback.isAbout input.feedback row.stage := by
  obtain ⟨e, -, rfl⟩ := List.mem_map.1 mem
  rfl

/-- Put on record, the statuses of a task list give the same list again. A task list has one row for
each stage. Its status hangs on the state, the decision and the statuses on record up to the stage,
and its mark for feedback on the feedback; on nothing else. -/
theorem rows_settled (input : TaskListInput) :
    rows { input with stored := statuses (rows input) } = rows input ∧
      (rows input).map TaskRow.stage = Stage.all ∧
      ∀ other : TaskListInput, ∀ row ∈ rows input, ∀ row' ∈ rows other, row'.stage = row.stage →
        (input.AgreesUpTo other row.stage → row'.status = row.status) ∧
        (other.feedback = input.feedback → row'.hasFeedback = row.hasFeedback) := by
  refine ⟨rows_of_statuses input, map_stage_rows input, ?_⟩
  intro other row mem row' mem' same
  refine ⟨status_eq_of_agreesUpTo mem mem' same, fun alike => ?_⟩
  rw [hasFeedback_of_mem mem, hasFeedback_of_mem mem', alike, same]

/-! ### A meeting behind a skip -/

/-- A draft that is skipped before a meeting under way. -/
def skippingInput : TaskListInput where
  step := .grbMeeting
  state := .opened
  decision := .noDecision
  stored := ((StageTable.empty.set .intakeForm .done).set .draftBusinessCase .notNeeded).set
    .grtMeeting .inProgress
  feedback := []

/-- The same up to the meeting, with another step, a later stage started and feedback on it. -/
def furtherInput : TaskListInput where
  step := .initialRequestForm
  state := .opened
  decision := .noDecision
  stored := skippingInput.stored.set .finalBusinessCase .ready
  feedback := [⟨"FB1", .finalBusinessCase, .reviewer, "Add a plan", none,
    ⟨⟨2026, 10, 14, by decide⟩, 50400, 0, by decide⟩⟩]

theorem agreesUpTo_furtherInput : skippingInput.AgreesUpTo furtherInput .grtMeeting where
  state := rfl
  decision := rfl
  stored u before := by
    have other : u ≠ .finalBusinessCase := by
      rintro rfl
      exact absurd before (by decide)
    rw [furtherInput, StageTable.status_set, if_neg other]

theorem rows_settled_behind_skip :
    rows { skippingInput with stored := statuses (rows skippingInput) } = rows skippingInput ∧
      ⟨.grtMeeting, .inProgress, false, false⟩ ∈ rows skippingInput ∧
      skippingInput.AgreesUpTo furtherInput .grtMeeting ∧
      ∀ row ∈ rows furtherInput, row.stage = .grtMeeting → row.status = .inProgress := by
  obtain ⟨settled, -, upTo⟩ := rows_settled skippingInput
  have shown : ⟨.grtMeeting, .inProgress, false, false⟩ ∈ rows skippingInput := by decide
  exact ⟨settled, shown, agreesUpTo_furtherInput, fun row mem same =>
    (upTo furtherInput _ shown row mem same).1 agreesUpTo_furtherInput⟩

end TaskList

end GovernanceDesk

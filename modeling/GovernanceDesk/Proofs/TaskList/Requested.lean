import GovernanceDesk.Proofs.TaskList.Moved
import GovernanceDesk.Proofs.TaskList.Recorded

/-!
# Where requested edits are shown

A request for edits is put on record whatever the request has come to, and is shown only where the
process has come to the form. The task list holds a form back while a stage before it is unfinished,
up to one that is skipped; on requests that were only ever acted on this can be read off the record,
since a stage that nothing has started has one under way before it.

* `TaskList.status_of_opened`: each row from the row of its predecessor.
* `StageTable.HeldBack`: what every action keeps of the stages that cannot start.
* `StageTable.LetsThrough`: when nothing before a stage holds it back.
* `Store.requestedEdits_shown_iff`: where edits are shown after they were requested.
-/

namespace GovernanceDesk
set_option autoImplicit false

/-! ## Rows and their predecessors -/

namespace TaskList

/-- Each row of an open request is resolved from its own status on record and the row before it. -/
theorem status_of_opened {i : Intake} (isOpen : i.state = .opened) (stage : Stage) :
    status i.taskList stage =
      openStatus (i.statuses.status stage) (stage.predecessor?.map (status i.taskList)) := by
  rw [rows_of_opened isOpen]
  cases stage <;> rfl

/-- A form with edits requested is shown so behind a finished row, and has to wait behind any
other. -/
theorem openStatus_editsRequested (before : Option Status) :
    openStatus .editsRequested before =
      if before.all Status.isTerminal then .editsRequested else .cannotStart := by
  rcases before with _ | before
  · rfl
  · cases before <;> rfl

/-- A row is finished when its stage is skipped, or is finished behind a finished row; but for a
stage that nothing has started behind a skip. -/
theorem isTerminal_openStatus_iff {status : Status} {before : Option Status}
    (waits : status = .cannotStart → before.all Status.isTerminal ≠ true) :
    (openStatus status before).isTerminal = true ↔
      status = .notNeeded ∨ status.isTerminal = true ∧ before.all Status.isTerminal = true := by
  by_cases skipped : status = .notNeeded
  · subst skipped
    exact iff_of_true rfl (.inl rfl)
  · rw [or_iff_right skipped]
    rcases before with _ | before
    · rw [openStatus_none]
      exact (and_iff_left rfl).symm
    · by_cases finished : before.isTerminal = true
      · have started : status ≠ .cannotStart := fun same => waits same finished
        have own : status.isTerminal = true ∨ status.isDimmed = false := by
          cases status with
          | cannotStart => exact absurd rfl started
          | _ => decide
        rw [openStatus_of_terminal finished own]
        exact (and_iff_left finished).symm
      · rw [openStatus_behind (by simpa using finished), if_neg skipped]
        exact iff_of_false nofun fun both => finished both.2

end TaskList

/-! ## Stages that are held back -/

namespace Stage

theorem index_le_last (s : Stage) : s.index ≤ decisionAndNextSteps.index := by
  cases s <;> decide

theorem index_eq_zero_of_first {s : Stage} (first : s.predecessor? = none) : s.index = 0 := by
  cases s <;> first | rfl | exact nomatch first

/-- What comes before a stage is its predecessor and what comes before that. -/
theorem index_lt_iff {s p : Stage} (pred : s.predecessor? = some p) (u : Stage) :
    u.index < s.index ↔ u.index < p.index ∨ u = p := by
  have next := index_predecessor? pred
  constructor
  · intro before
    rcases Nat.lt_or_eq_of_le (show u.index ≤ p.index by omega) with earlier | here
    · exact .inl earlier
    · exact .inr (index_injective here)
  · rintro (earlier | rfl)
    · omega
    · omega

end Stage

namespace StageTable

variable {table : StageTable}

/-- A stage that nothing has started waits for one that is under way before it, and no stage between
the two is skipped. -/
def HeldBack (table : StageTable) : Prop :=
  ∀ u : Stage, table.status u = .cannotStart → ∃ w : Stage, w.index < u.index ∧
    (table.status w).isUnderWay = true ∧
    ∀ v : Stage, w.index < v.index → v.index < u.index → table.status v ≠ .notNeeded

/-- Whether everything before a stage is finished, or has a skipped stage behind it and still before
that stage. -/
def LetsThrough (table : StageTable) (stage : Stage) : Prop :=
  ∀ u : Stage, u.index < stage.index → (table.status u).isTerminal = true ∨
    ∃ w : Stage, u.index < w.index ∧ w.index < stage.index ∧ table.status w = .notNeeded

/-- A stage is let through by a predecessor that is skipped, or is finished and let through. -/
theorem letsThrough_iff_of_predecessor {s p : Stage} (pred : s.predecessor? = some p) :
    table.LetsThrough s ↔ table.status p = .notNeeded ∨
      (table.status p).isTerminal = true ∧ table.LetsThrough p := by
  have before := Stage.index_lt_iff pred
  constructor
  · intro through
    by_cases skipped : table.status p = .notNeeded
    · exact .inl skipped
    · refine .inr ⟨?_, fun u earlier => ?_⟩
      · rcases through p ((before p).2 (.inr rfl)) with finished | ⟨w, behind, ahead, skip⟩
        · exact finished
        · rcases (before w).1 ahead with earlier | rfl
          · omega
          · omega
      · rcases through u ((before u).2 (.inl earlier)) with finished | ⟨w, behind, ahead, skip⟩
        · exact .inl finished
        · rcases (before w).1 ahead with ahead | rfl
          · exact .inr ⟨w, behind, ahead, skip⟩
          · exact absurd skip skipped
  · rintro (skipped | ⟨finished, through⟩) u isBefore
    · rcases (before u).1 isBefore with earlier | rfl
      · exact .inr ⟨p, earlier, (before p).2 (.inr rfl), skipped⟩
      · rw [skipped]
        exact .inl rfl
    · rcases (before u).1 isBefore with earlier | rfl
      · exact (through u earlier).imp_right fun ⟨w, behind, ahead, skip⟩ =>
          ⟨w, behind, (before w).2 (.inl ahead), skip⟩
      · exact .inl finished

/-- Whether a stage is let through does not hang on its own status. -/
theorem letsThrough_set_iff (stage : Stage) (status : Status) :
    (table.set stage status).LetsThrough stage ↔ table.LetsThrough stage := by
  have kept : ∀ u : Stage, u.index < stage.index →
      (table.set stage status).status u = table.status u := by
    intro u before
    rw [status_set, if_neg]
    rintro rfl
    exact Nat.lt_irrefl _ before
  refine forall_congr' fun u => forall_congr' fun before => ?_
  rw [kept u before]
  refine or_congr_right (exists_congr fun w => and_congr_right fun _ => and_congr_right fun ahead =>
    ?_)
  rw [kept w ahead]

/-- Starting a stage lets no other go, and nothing waits for the last one. -/
theorem HeldBack.set {stage : Stage} {status : Status} (held : table.HeldBack)
    (started : status ≠ .cannotStart) (unskipped : status ≠ .notNeeded)
    (harmless : stage = .decisionAndNextSteps ∨ status.isUnderWay = true) :
    (table.set stage status).HeldBack := by
  intro u waits
  rw [status_set] at waits
  split at waits
  · exact absurd waits started
  · obtain ⟨w, before, underWay, between⟩ := held u waits
    refine ⟨w, before, ?_, fun v behind ahead => ?_⟩
    · rw [status_set]
      split
      next same =>
        refine harmless.resolve_left fun last => ?_
        have bound := u.index_le_last
        rw [same, last] at before
        omega
      · exact underWay
    · rw [status_set]
      split
      · exact unskipped
      · exact between v behind ahead

/-- A stage that nothing has started is not let through where it is held back. -/
theorem HeldBack.not_letsThrough (held : table.HeldBack) {u : Stage}
    (waits : table.status u = .cannotStart) : ¬ table.LetsThrough u := by
  intro through
  obtain ⟨w, before, underWay, unskipped⟩ := held u waits
  rcases through w before with finished | ⟨v, behind, ahead, skip⟩
  · simp [Status.isUnderWay, finished] at underWay
  · exact unskipped v behind ahead skip

end StageTable

namespace TaskList

/-- In a request whose waiting stages are held back, the row before a stage is finished exactly when
what is on record lets the stage through. -/
theorem before_isTerminal_iff {i : Intake} (isOpen : i.state = .opened)
    (held : i.statuses.HeldBack) (stage : Stage) :
    (stage.predecessor?.map (status i.taskList)).all Status.isTerminal = true ↔
      i.statuses.LetsThrough stage := by
  induction place : stage.index generalizing stage with
  | zero =>
    cases pred : stage.predecessor? with
    | none =>
      refine iff_of_true rfl fun u before => ?_
      omega
    | some p =>
      have next := Stage.index_predecessor? pred
      omega
  | succ n ih =>
    cases pred : stage.predecessor? with
    | none =>
      have first := Stage.index_eq_zero_of_first pred
      omega
    | some p =>
      have next := Stage.index_predecessor? pred
      have earlier := ih p (by omega)
      rw [StageTable.letsThrough_iff_of_predecessor pred, ← earlier, Option.map_some,
        Option.all_some, status_of_opened isOpen]
      refine isTerminal_openStatus_iff fun waits finished => ?_
      exact held.not_letsThrough waits (earlier.1 finished)

end TaskList

/-! ## What actions keep -/

namespace StageTable

variable {table table' : StageTable}

theorem heldBack_opened (id name : String) (requester : Contact) (now : Instant) :
    (Intake.opened id name requester now).statuses.HeldBack := by
  intro u waits
  have other : u ≠ .intakeForm := by
    rintro rfl
    exact nomatch waits
  refine ⟨.intakeForm, ?_, rfl, fun v _ _ => ?_⟩
  · cases u with
    | intakeForm => exact absurd rfl other
    | _ => decide
  · cases v <;> exact nofun

/-- Behind the stage that a request is moved to nothing is started. -/
theorem heldBack_afterMove (table : StageTable) (current target : Stage) :
    (table.afterMove current target).HeldBack := by
  intro u waits
  rw [status_afterMove] at waits
  refine ⟨target, ?_, ?_, fun v behind _ => ?_⟩
  · rcases Nat.lt_trichotomy u.index target.index with before | here | after
    · have finished := isTerminal_statusAfterMove table current before
      rw [waits] at finished
      exact nomatch finished
    · rw [Stage.index_injective here, statusAfterMove_self] at waits
      exact nomatch waits
    · exact after
  · rw [status_afterMove, statusAfterMove_self]
    rfl
  · rw [status_afterMove, statusAfterMove_after table current behind]
    decide

theorem HeldBack.changed (held : table.HeldBack) (change : table.Change table') :
    table'.HeldBack := by
  cases change with
  | kept => exact held
  | started stage status underWay =>
    refine held.set ?_ ?_ (.inr underWay)
    · rintro rfl
      exact nomatch underWay
    · rintro rfl
      exact nomatch underWay
  | decided => exact held.set (by decide) (by decide) (.inl rfl)
  | moved current newStep => exact heldBack_afterMove table current newStep.stage

end StageTable

/-! ## Runs -/

namespace ActionRun

/-- The mutation of a run that completed its action. -/
def mutation? : ActionRun → Option Mutation
  | done m _ _ => some m
  | _ => none

theorem exists_done {answer : ActionRun} {m : Mutation} (h : answer.mutation? = some m) :
    ∃ flash redirect, answer = .done m flash redirect := by
  cases answer with
  | done m' flash redirect =>
    cases h
    exact ⟨flash, redirect, rfl⟩
  | _ => cases h

end ActionRun

namespace Store

variable {s : Store} {today : Date} {now : Instant} {r : ActionRequest}

theorem heldBack_of_reached {id : String} (h : Reached id s) {i : Intake}
    (loaded : s.load id = .ok i) : i.statuses.HeldBack :=
  h.statuses_invariant (P := StageTable.HeldBack) (StageTable.heldBack_opened id)
    (fun change held => held.changed change) loaded

/-! ## Requesting edits -/

/-- What a request for edits stores: its form, and that the request is open. -/
theorem Applied.editsRequested {kind : ActionKind} {m : Mutation} {i j k : Intake}
    (h : Applied s today now kind m i j k) {target : FeedbackTarget} {text : String}
    (edits : m.operation = .requestEdits target text) :
    k.statuses = i.statuses.set target.stage .editsRequested ∧ k.state = .opened := by
  have affected := h.affected
  have stored := h.stored
  rw [edits] at affected stored
  cases affected
  rw [stored]
  exact ⟨rfl, rfl⟩

/-- A run that answers with a mutation has completed it. -/
theorem completed_of_done (hs : s.WellNamed) {m : Mutation} {flash : Option Flash}
    {redirect : Option String} (done : (s.runAction today now r).1 = .ok (.done m flash redirect)) :
    ∃ i j k, Completed s today now r m i j k (s.runAction today now r).2 := by
  have ends := ran s today now r
  generalize s.runAction today now r = result at done ends ⊢
  cases ends with
  | without answer unfinished =>
    obtain rfl : answer = .ok (.done m flash redirect) := done
    exact nomatch unfinished
  | done ctx f sentMutation k s' _ _ sent apply =>
    cases done
    obtain ⟨i, j, run⟩ := completed_of_sent (hs r.intakeId) sent apply
    exact ⟨i, j, k, run⟩

/-- Edits that were requested are on record at their form. The task list shows them there exactly
when nothing on record before the form holds it back, and the form as one that has to wait
otherwise. -/
theorem requestedEdits_shown_iff {id : String} (h : Reached id s) (same : r.intakeId = id)
    {m : Mutation} {flash : Option Flash} {redirect : Option String}
    (done : (s.runAction today now r).1 = .ok (.done m flash redirect))
    {target : FeedbackTarget} {text : String} (edits : m.operation = .requestEdits target text) :
    ∃ i k, s.load id = .ok i ∧ (s.runAction today now r).2.load id = .ok k ∧
      k.statuses.status target.stage = .editsRequested ∧
      (TaskList.status k.taskList target.stage = .editsRequested ↔
        i.statuses.LetsThrough target.stage) ∧
      (TaskList.status k.taskList target.stage = .editsRequested ∨
        TaskList.status k.taskList target.stage = .cannotStart) := by
  subst same
  obtain ⟨i, j, k, run⟩ := completed_of_done h.wellNamed done
  have after := run.saved.load_self
  rw [run.id] at after
  obtain ⟨statuses, isOpen⟩ := run.applied.editsRequested edits
  have completes : s.completes today now r = true := by
    rw [Store.completes, done]
    rfl
  have held : k.statuses.HeldBack :=
    heldBack_of_reached (.acted h today now r completes) after
  have recorded : k.statuses.status target.stage = .editsRequested := by
    rw [statuses, StageTable.status_set, if_pos rfl]
  refine ⟨i, k, run.loaded, after, recorded, ?_⟩
  have through := TaskList.before_isTerminal_iff isOpen held target.stage
  rw [statuses, StageTable.letsThrough_set_iff] at through
  rw [TaskList.status_of_opened isOpen, recorded, TaskList.openStatus_editsRequested, ← through]
  split
  next finished => exact ⟨iff_of_true rfl finished, .inl rfl⟩
  next unfinished => exact ⟨iff_of_false (by decide) unfinished, .inr rfl⟩

/-! ### A form that the request has not come to -/

/-- Edits to the draft, requested while the intake form is still to be filled in. -/
theorem done_editsOf_draft :
    ∃ m flash redirect,
      (smallDesk.runAction noon.date noon (editsOf "DRAFT_BUSINESS_CASE")).1 =
        .ok (.done m flash redirect) ∧
      m.operation = .requestEdits .draftBusinessCase "Add a plan" := by
  have sent : (smallDesk.runAction noon.date noon (editsOf "DRAFT_BUSINESS_CASE")).1.toOption.any
      (fun answer => answer.mutation?.any fun m =>
        m.operation == .requestEdits .draftBusinessCase "Add a plan") = true := by
    decide +kernel
  obtain ⟨answer, ran, sent⟩ := exists_ok_of_any sent
  obtain ⟨m, held, edits⟩ := (Option.any_eq_true _ _).1 sent
  obtain ⟨flash, redirect, rfl⟩ := ActionRun.exists_done held
  exact ⟨m, flash, redirect, ran, beq_iff_eq.1 edits⟩

/-- The draft has to wait for the intake form. -/
theorem requestedEdits_shown_iff_draft :
    ∃ k, (smallDesk.runAction noon.date noon (editsOf "DRAFT_BUSINESS_CASE")).2.load "r1" = .ok k ∧
      k.statuses.status .draftBusinessCase = .editsRequested ∧
      TaskList.status k.taskList .draftBusinessCase = .cannotStart := by
  obtain ⟨m, flash, redirect, done, edits⟩ := done_editsOf_draft
  obtain ⟨i, k, before, after, recorded, shown_iff, shown⟩ :=
    requestedEdits_shown_iff reached_smallDesk rfl done edits
  cases before.symm.trans load_smallDesk
  refine ⟨k, after, recorded, shown.resolve_left fun visible => ?_⟩
  rcases shown_iff.1 visible .intakeForm (by decide) with finished | ⟨w, -, -, skipped⟩
  · exact nomatch finished
  · cases w <;> exact nomatch skipped

/-- Edits that were requested are not shown wherever they were requested. -/
theorem requestedEdits_hidden_behind_form :
    ¬ ∀ id s, Reached id s → ∀ today now (r : ActionRequest), r.intakeId = id →
      ∀ m flash redirect, (s.runAction today now r).1 = .ok (.done m flash redirect) →
      ∀ target text, m.operation = .requestEdits target text →
      ∀ k, (s.runAction today now r).2.load id = .ok k →
        TaskList.status k.taskList target.stage = .editsRequested := by
  intro claim
  obtain ⟨m, flash, redirect, done, edits⟩ := done_editsOf_draft
  have hidden : ((smallDesk.runAction noon.date noon (editsOf "DRAFT_BUSINESS_CASE")).2.load
      "r1").toOption.any
        (fun k => TaskList.status k.taskList .draftBusinessCase == .cannotStart) = true := by
    decide +kernel
  obtain ⟨k, after, hidden⟩ := exists_load_of_any hidden
  have shown := claim "r1" smallDesk reached_smallDesk noon.date noon
    (editsOf "DRAFT_BUSINESS_CASE") rfl m flash redirect done _ _ edits k after
  exact nomatch shown.symm.trans (beq_iff_eq.1 hidden)

end Store

end GovernanceDesk

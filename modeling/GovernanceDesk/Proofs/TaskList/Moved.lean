import GovernanceDesk.Proofs.Store.Outcome
import GovernanceDesk.Proofs.TaskList.Waiting

/-!
# Requests that are moved to another step

A move gives every stage a new status: what comes before the new step is finished or skipped, the
stage of the step is ready, and what comes after it cannot start. The task list shows these statuses
as they are on record, so the request waits for the stage it was moved to, whatever was on record
before.

A stage that was skipped stays skipped only while it lies behind the step the request comes from.
Once the request stands past it, the next move counts it as finished, a move to the same step too.

* `Intake.taskList_of_fits`: when the task list shows what is on record.
* `Intake.StandsAt`: a request as a move leaves it.
* `Store.standsAt_of_apply_move`: every move leaves a request so.
* `Store.skip_kept_iff`: which skips a move keeps, and when a second move changes nothing.
-/

namespace GovernanceDesk
set_option autoImplicit false

theorem Stage.index_injective {a b : Stage} (same : a.index = b.index) : a = b := by
  cases a <;> cases b <;> first | rfl | exact absurd same (by decide)

/-! ## Statuses as they are on record -/

namespace TaskList

theorem openStatus_none (status : Status) : openStatus status none = status := by
  unfold openStatus
  split
  · symm
    assumption
  · rfl

/-- Behind a finished stage a stage shows its own status, unless the skip of the one before it
carries over. -/
theorem openStatus_of_terminal {before status : Status} (finished : before.isTerminal = true)
    (own : status.isTerminal = true ∨ status.isDimmed = false) :
    openStatus status (some before) = status := by
  cases before with
  | done => cases status <;> rfl
  | notNeeded =>
    cases status with
    | cannotStart => simp [Status.isTerminal, Status.isDimmed] at own
    | _ => rfl
  | _ => exact nomatch finished

/-- A list of stages in which each one comes right after its predecessor. -/
def Linked : Option Stage → List Stage → Prop
  | _, [] => True
  | before, stage :: rest => stage.predecessor? = before ∧ Linked (some stage) rest

theorem linked_all : Linked none Stage.all := by
  simp [Linked, Stage.all, Stage.predecessor?]

/-- Where every stage fits the one before it, the list shows what is on record. -/
theorem openStatuses_of_fits {stored : StageTable}
    (fits : ∀ stage, openStatus (stored.status stage) (stage.predecessor?.map stored.status) =
      stored.status stage)
    {before : Option Stage} {stages : List Stage} (linked : Linked before stages) :
    openStatuses stored (before.map stored.status) stages =
      stages.map fun stage => (stage, stored.status stage) := by
  induction stages generalizing before with
  | nil => rfl
  | cons stage rest ih =>
    obtain ⟨pred, links⟩ := linked
    have shown := fits stage
    rw [pred] at shown
    have later := ih links
    rw [Option.map_some] at later
    rw [openStatuses, shown, later, List.map_cons]

end TaskList

/-! ## Statuses after a move -/

namespace StageTable

variable (table : StageTable) (current target : Stage)

@[simp] theorem status_afterMove (stage : Stage) :
    (table.afterMove current target).status stage =
      table.statusAfterMove current target stage := rfl

/-- A stage that a move counts as finished when the request goes past it. -/
def WorkedThrough (stage : Stage) : Prop :=
  table.status stage = .done ∨ stage.index ≤ current.index ∨ stage = .initialReviewFeedback

instance (stage : Stage) : Decidable (table.WorkedThrough current stage) :=
  inferInstanceAs (Decidable (_ ∨ _ ∨ _))

variable {target} {stage : Stage}

theorem statusAfterMove_before (h : stage.index < target.index) :
    table.statusAfterMove current target stage =
      if table.WorkedThrough current stage then .done else .notNeeded := by
  unfold statusAfterMove WorkedThrough
  rw [if_pos h]
  by_cases done : table.status stage = .done <;> simp [done]

theorem isTerminal_statusAfterMove (h : stage.index < target.index) :
    (table.statusAfterMove current target stage).isTerminal = true := by
  rw [statusAfterMove_before table current h]
  split <;> rfl

theorem statusAfterMove_self : table.statusAfterMove current target target = .ready := by
  unfold statusAfterMove
  simp

theorem statusAfterMove_after (h : target.index < stage.index) :
    table.statusAfterMove current target stage = .cannotStart := by
  have notBefore : ¬ stage.index < target.index := by omega
  have other : stage ≠ target := by
    intro same
    rw [same] at h
    omega
  unfold statusAfterMove
  rw [if_neg notBefore, if_neg other]

/-- A second move to the same step finishes everything before it. -/
theorem statusAfterMove_again (h : stage.index < target.index) :
    (table.afterMove current target).statusAfterMove target target stage = .done := by
  have passed : (table.afterMove current target).WorkedThrough target stage :=
    .inr (.inl (by omega))
  rw [statusAfterMove_before _ _ h, if_pos passed]

theorem statusAfterMove_eq_notNeeded_iff (h : stage.index < target.index) :
    table.statusAfterMove current target stage = .notNeeded ↔
      ¬ table.WorkedThrough current stage := by
  rw [statusAfterMove_before table current h]
  by_cases worked : table.WorkedThrough current stage <;> simp [worked]

/-- A second move to the same step changes nothing exactly when the first one skipped nothing. -/
theorem afterMove_afterMove_eq_iff :
    (table.afterMove current target).afterMove target target = table.afterMove current target ↔
      ∀ stage : Stage, stage.index < target.index → table.WorkedThrough current stage := by
  constructor
  · intro same stage before
    have kept : (table.afterMove current target).statusAfterMove target target stage =
        table.statusAfterMove current target stage := by
      rw [← status_afterMove, same, status_afterMove]
    rw [statusAfterMove_again table current before] at kept
    by_contra skipped
    rw [(statusAfterMove_eq_notNeeded_iff table current before).2 skipped] at kept
    exact nomatch kept
  · intro worked
    ext1 stage
    refine congrArg some ?_
    rcases Nat.lt_trichotomy stage.index target.index with before | here | after
    · rw [statusAfterMove_again table current before, statusAfterMove_before table current before,
        if_pos (worked stage before)]
    · have same : stage = target := Stage.index_injective here
      rw [same, statusAfterMove_self, statusAfterMove_self]
    · rw [statusAfterMove_after _ _ after, statusAfterMove_after _ _ after]

/-- Behind its predecessor each stage is shown as a move leaves it. -/
theorem fits_afterMove (table : StageTable) (current target stage : Stage) :
    TaskList.openStatus ((table.afterMove current target).status stage)
        (stage.predecessor?.map (table.afterMove current target).status) =
      (table.afterMove current target).status stage := by
  cases pred : stage.predecessor? with
  | none =>
    -- The first stage waits for nothing.
    rw [Option.map_none]
    exact TaskList.openStatus_none _
  | some p =>
    have next : p.index + 1 = stage.index := Stage.index_predecessor? pred
    rw [Option.map_some, status_afterMove, status_afterMove]
    rcases Nat.lt_trichotomy stage.index target.index with before | here | after
    · have finished := isTerminal_statusAfterMove table current before
      have pFinished : (table.statusAfterMove current target p).isTerminal = true :=
        isTerminal_statusAfterMove table current (by omega)
      exact TaskList.openStatus_of_terminal pFinished (.inl finished)
    · have same : stage = target := Stage.index_injective here
      have pFinished : (table.statusAfterMove current target p).isTerminal = true :=
        isTerminal_statusAfterMove table current (by omega)
      rw [same, statusAfterMove_self]
      exact TaskList.openStatus_of_terminal pFinished (.inr rfl)
    · rw [statusAfterMove_after table current after]
      have waits : (table.statusAfterMove current target p).isTerminal = false := by
        rcases Nat.lt_or_ge target.index p.index with later | notLater
        · rw [statusAfterMove_after table current later]
          rfl
        · have same : p = target := Stage.index_injective (by omega)
          rw [same, statusAfterMove_self]
          rfl
      rw [TaskList.openStatus_behind waits, if_neg nofun]

end StageTable

/-! ## Requests after a move -/

namespace Intake

variable {i : Intake} {newStep : Step}

/-- A request as a move leaves it: open at its step, which its task list says is ready, with nothing
left to do before it and nothing started behind it. Every row shows the status on record, and no
form has edits requested. -/
structure StandsAt (i : Intake) (newStep : Step) : Prop where
  state : i.state = .opened
  step : i.step = newStep
  current : i.currentStage? = some newStep.stage
  rows : i.taskList.map TaskRow.stage = Stage.all
  stored : ∀ row ∈ i.taskList, row.status = i.statuses.status row.stage
  before : ∀ row ∈ i.taskList, row.stage.index < newStep.stage.index →
    row.status = .done ∨ row.status = .notNeeded
  here : ∀ row ∈ i.taskList, row.stage = newStep.stage → row.status = .ready
  after : ∀ row ∈ i.taskList, newStep.stage.index < row.stage.index → row.status = .cannotStart
  noEdits : ∀ stage, i.statuses.status stage ≠ .editsRequested

/-- Where every stage fits the one before it, the task list of an open request is its record. -/
theorem taskList_of_fits (isOpen : i.state = .opened)
    (fits : ∀ stage, TaskList.openStatus (i.statuses.status stage)
      (stage.predecessor?.map i.statuses.status) = i.statuses.status stage) :
    i.taskList = Stage.all.map fun stage => ⟨stage, i.statuses.status stage,
      (i.statuses.status stage).isDimmed, Feedback.isAbout i.feedback stage⟩ := by
  have shown := TaskList.openStatuses_of_fits fits TaskList.linked_all
  rw [Option.map_none] at shown
  rw [TaskList.rows_of_opened isOpen, shown, List.map_map]
  rfl

theorem standsAt_of_afterMove {table : StageTable} {current : Stage} (isOpen : i.state = .opened)
    (isAt : i.step = newStep) (statuses : i.statuses = table.afterMove current newStep.stage) :
    i.StandsAt newStep := by
  have status : ∀ stage, i.statuses.status stage =
      table.statusAfterMove current newStep.stage stage := by
    intro stage
    rw [statuses, StageTable.status_afterMove]
  have list := taskList_of_fits isOpen fun stage => by
    rw [statuses]
    exact StageTable.fits_afterMove table current newStep.stage stage
  have shown : ∀ row ∈ i.taskList,
      row.status = table.statusAfterMove current newStep.stage row.stage := by
    intro row mem
    rw [list] at mem
    obtain ⟨stage, -, rfl⟩ := List.mem_map.1 mem
    exact status stage
  refine {
    state := isOpen
    step := isAt
    current := ?_
    rows := ?_
    stored := ?_
    before := ?_
    here := ?_
    after := ?_
    noEdits := ?_ }
  · have notClosed : ¬ i.state = .closed := by
      rw [isOpen]
      exact nofun
    obtain ⟨front, rest, split⟩ := List.append_of_mem (Stage.mem_all newStep.stage)
    have cut := Stage.cut_of_split split
    rw [currentStage?, if_neg notClosed, TaskList.currentStage?, list, split, List.map_append,
      List.find?_append]
    have skipped : (front.map fun stage => (⟨stage, i.statuses.status stage,
        (i.statuses.status stage).isDimmed, Feedback.isAbout i.feedback stage⟩ : TaskRow)).find?
        (fun row => !row.status.isTerminal) = none := by
      rw [List.find?_eq_none]
      intro row mem
      obtain ⟨stage, inFront, rfl⟩ := List.mem_map.1 mem
      have finished := StageTable.isTerminal_statusAfterMove table current (cut.before stage inFront)
      simp [status, finished]
    have unfinished : (i.statuses.status newStep.stage).isTerminal = false := by
      rw [status, StageTable.statusAfterMove_self]
      rfl
    rw [skipped, Option.none_or, List.map_cons, List.find?_cons_of_pos (by simp [unfinished])]
    rfl
  · rw [list, List.map_map]
    exact List.map_id _
  · intro row mem
    rw [shown row mem, status]
  · intro row mem isBefore
    rw [shown row mem, StageTable.statusAfterMove_before table current isBefore]
    split
    · exact .inl rfl
    · exact .inr rfl
  · intro row mem same
    rw [shown row mem, same, StageTable.statusAfterMove_self]
  · intro row mem isAfter
    rw [shown row mem, StageTable.statusAfterMove_after table current isAfter]
  · intro stage
    rw [status]
    exact statusAfterMove_ne_editsRequested table current newStep.stage stage

theorem withoutEditsRequest_of_openEdits (now : Instant) (noEdits : i.openEdits = []) :
    i.withoutEditsRequest now = i := by
  have nothing : i.editsRequested? = none := by
    rw [editsRequested?_eq_head?, noEdits, List.head?_nil]
  unfold withoutEditsRequest
  rw [nothing]

end Intake

namespace Store

variable {s s' : Store} {today : Date} {now : Instant} {kind : ActionKind} {m : Mutation}
  {i j k : Intake} {newStep : Step} {date : Option Date} {feedback recommendations : Option String}

/-- What a move stores: the stages as they are moved, the new step, and that the request is open. -/
theorem Applied.moved (h : Applied s today now kind m i j k)
    (moves : m.operation = .progressToNewStep newStep date feedback recommendations) :
    k.statuses = i.statuses.afterMove i.step.stage newStep.stage ∧ k.step = newStep ∧
      k.state = .opened := by
  have affected := h.affected
  rw [moves] at affected
  -- A move leaves no request for edits open, so there is none to take back.
  have noEdits : j.openEdits = [] := affected.openEdits_eq rfl
  have takesBack : m.operation.keepsEditsRequest = false := by
    rw [moves]
    rfl
  have stored := h.stored
  rw [takesBack, if_neg Bool.false_ne_true, Intake.withoutEditsRequest_of_openEdits now noEdits]
    at stored
  cases affected with
  | moved =>
    obtain ⟨records, grtDate, grbDate, same⟩ :=
      Intake.exists_moved_eq i newStep date feedback recommendations now
    rw [stored, same]
    exact ⟨rfl, rfl, rfl⟩

/-- Whatever was on record before, a move leaves the request open at its new step and waiting for
the stage of that step, with a task list that shows the statuses on record. On a desk that can be
read nothing stands in its way. -/
theorem standsAt_of_apply_move (loaded : s.load m.intakeId = .ok i)
    (moves : m.operation = .progressToNewStep newStep date feedback recommendations) (today : Date)
    (now : Instant) (kind : ActionKind) :
    (∀ k s', s.apply today now kind m = .ok (k, s') →
      k.id = i.id ∧ s'.load i.id = .ok k ∧ k.StandsAt newStep) ∧
    (s.Readable → ∃ k s', s.apply today now kind m = .ok (k, s')) := by
  constructor
  · intro k s' h
    obtain ⟨⟨i', j, applied⟩, saved⟩ := apply_cases h
    cases applied.loaded.symm.trans loaded
    obtain ⟨statuses, isAt, isOpen⟩ := applied.moved moves
    have stored := saved.load_self
    rw [applied.id_eq] at stored
    exact ⟨applied.id_eq, stored, Intake.standsAt_of_afterMove isOpen isAt statuses⟩
  · intro readable
    refine exists_apply readable loaded kind ?_
    rw [moves]
    exact ⟨_, rfl⟩

def movingToMeeting (day : Date) : Mutation :=
  ⟨"r1", none, none, none, .progressToNewStep .grtMeeting (some day) none none⟩

/-- Two days on which the meeting could be. -/
def firstDay : Date := ⟨2026, 11, 2, by decide⟩

def laterDay : Date := ⟨2026, 11, 9, by decide⟩

theorem standsAt_of_apply_move_meeting :
    smallDesk.load "r1" =
        .ok (.opened "r1" "Data platform" ⟨"Ada", "ada@example.gov", none⟩ noon) ∧
      smallDesk.Readable ∧
      ∃ k s', smallDesk.apply noon.date noon .progressToNewStep (movingToMeeting firstDay) =
        .ok (k, s') ∧ s'.load "r1" = .ok k ∧ k.StandsAt .grtMeeting := by
  obtain ⟨left, applies⟩ := standsAt_of_apply_move (m := movingToMeeting firstDay)
    load_smallDesk rfl noon.date noon .progressToNewStep
  obtain ⟨k, s', applied⟩ := applies readable_smallDesk
  obtain ⟨-, stored, stands⟩ := left k s' applied
  exact ⟨load_smallDesk, readable_smallDesk, k, s', applied, stored, stands⟩

/-! ## Skipped stages -/

/-- Of the stages before the new step that were skipped, a move keeps those as skipped that lie
behind the step it comes from, but for the initial review. A second move to the same step changes no
stage exactly when the first one skipped none. -/
theorem skip_kept_iff (first : s.apply today now kind m = .ok (j, s'))
    (moves : m.operation = .progressToNewStep newStep date feedback recommendations) :
    ∃ i, s.load m.intakeId = .ok i ∧
      (∀ stage : Stage, stage.index < newStep.stage.index →
        i.statuses.status stage = .notNeeded →
        (j.statuses.status stage = .notNeeded ↔
          i.step.stage.index < stage.index ∧ stage ≠ .initialReviewFeedback)) ∧
      ∀ today' now' kind' m' date' feedback' recommendations' k s'',
        s'.apply today' now' kind' m' = .ok (k, s'') → m'.intakeId = j.id →
        m'.operation = .progressToNewStep newStep date' feedback' recommendations' →
        (k.statuses = j.statuses ↔ ∀ stage : Stage, stage.index < newStep.stage.index →
          i.statuses.status stage = .done ∨ stage.index ≤ i.step.stage.index ∨
            stage = .initialReviewFeedback) := by
  obtain ⟨⟨i, _, firstMove⟩, saved⟩ := apply_cases first
  obtain ⟨moved, isAt, -⟩ := firstMove.moved moves
  refine ⟨i, firstMove.loaded, fun stage before skipped => ?_, ?_⟩
  · have notDone : i.statuses.status stage ≠ .done := by
      rw [skipped]
      exact nofun
    rw [moved, StageTable.status_afterMove,
      StageTable.statusAfterMove_eq_notNeeded_iff _ _ before]
    unfold StageTable.WorkedThrough
    simp [notDone]
  · intro today' now' kind' m' _ _ _ k s'' second same again
    obtain ⟨⟨j', _, secondMove⟩, -⟩ := apply_cases second
    -- The second move is made on the request that the first one saved.
    have loaded := secondMove.loaded
    rw [same, saved.load_self] at loaded
    cases loaded
    obtain ⟨movedAgain, -, -⟩ := secondMove.moved again
    rw [movedAgain, isAt, moved]
    exact StageTable.afterMove_afterMove_eq_iff i.statuses i.step.stage

/-- A desk whose request was moved past the draft to the meeting. -/
def meetingDesk : Store :=
  (smallDesk.runAction noon.date noon toMeeting).2

theorem load_meetingDesk :
    ∃ i, meetingDesk.load "r1" = .ok i ∧ i.statuses.status .draftBusinessCase = .notNeeded := by
  have seen : (meetingDesk.load "r1").toOption.any
      (fun i => i.statuses.status .draftBusinessCase == .notNeeded) = true := by
    decide +kernel
  obtain ⟨i, loaded, skipped⟩ := exists_load_of_any seen
  exact ⟨i, loaded, beq_iff_eq.1 skipped⟩

/-- The first move skips the draft. The date of the meeting is changed by a second move, which
finishes the draft. -/
theorem skip_kept_iff_second_day :
    ∃ j s₁ k s₂,
      smallDesk.apply noon.date noon .progressToNewStep (movingToMeeting firstDay) = .ok (j, s₁) ∧
      s₁.apply noon.date noon .progressToNewStep (movingToMeeting laterDay) = .ok (k, s₂) ∧
      j.statuses.status .draftBusinessCase = .notNeeded ∧
      k.statuses.status .draftBusinessCase ≠ .notNeeded ∧ k.statuses ≠ j.statuses := by
  have accepted : (smallDesk.apply noon.date noon .progressToNewStep
      (movingToMeeting firstDay)).toOption.any (fun r =>
        (r.1.id == "r1" && r.1.statuses.status .draftBusinessCase == .notNeeded &&
          r.1.step == .grtMeeting) &&
        (r.2.apply noon.date noon .progressToNewStep (movingToMeeting laterDay)).toOption.isSome) =
      true := by
    decide +kernel
  obtain ⟨⟨j, s₁⟩, first, accepted⟩ := exists_ok_of_any accepted
  simp only [Bool.and_eq_true, beq_iff_eq] at accepted
  obtain ⟨⟨⟨id, skipped⟩, step⟩, accepted⟩ := accepted
  obtain ⟨⟨k, s₂⟩, second⟩ := exists_ok_of_isSome accepted
  obtain ⟨i, loaded, -, same_iff⟩ := skip_kept_iff first rfl
  cases loaded.symm.trans load_smallDesk
  obtain ⟨i, loaded, kept_iff, -⟩ := skip_kept_iff second rfl
  have stored : s₁.load "r1" = .ok j := id ▸ (apply_cases first).2.load_self
  cases loaded.symm.trans stored
  refine ⟨j, s₁, k, s₂, first, second, skipped, fun kept => ?_, fun same => ?_⟩
  · have behind := (kept_iff .draftBusinessCase (by decide) skipped).1 kept
    rw [step] at behind
    exact absurd behind (by decide)
  · have worked := (same_iff _ _ _ _ _ _ _ _ _ second id.symm rfl).1 same .draftBusinessCase
      (by decide)
    exact absurd worked (by decide)

/-- A stage that was skipped does not stay skipped when the request is moved on. -/
theorem skip_lost_to_second_move :
    ¬ ∀ (s s' : Store) (today : Date) (now : Instant) (kind : ActionKind) (m : Mutation)
      (newStep : Step) (date : Option Date) (feedback recommendations : Option String)
      (i k : Intake), s.load m.intakeId = .ok i →
      m.operation = .progressToNewStep newStep date feedback recommendations →
      s.apply today now kind m = .ok (k, s') →
      ∀ stage : Stage, stage.index < newStep.stage.index →
        i.statuses.status stage = .notNeeded → k.statuses.status stage = .notNeeded := by
  intro claim
  obtain ⟨i, loaded, skipped⟩ := load_meetingDesk
  have finished : (meetingDesk.apply noon.date noon .progressToNewStep
      (movingToMeeting laterDay)).toOption.any
        (fun r => r.1.statuses.status .draftBusinessCase == .done) = true := by
    decide +kernel
  obtain ⟨⟨k, s'⟩, applied, done⟩ := exists_ok_of_any finished
  have kept := claim meetingDesk s' noon.date noon .progressToNewStep _ .grtMeeting
    (some laterDay) none none i k loaded rfl applied .draftBusinessCase (by decide) skipped
  exact nomatch kept.symm.trans (beq_iff_eq.1 done)

end Store

end GovernanceDesk

import GovernanceDesk.Proofs.Store.Running
import GovernanceDesk.Proofs.TaskList.Resolved

/-!
# The stages behind the one an open request waits for

A stage that is not finished holds back every stage behind it, up to one that is skipped on record:
the skip is passed on, and what was started behind it shows through.

* `TaskList.dimmed_behind_iff`: when every stage behind an unfinished one is dimmed.
* `Intake.later_dimmed_iff`: the same for the current stage of an open request.
-/

namespace GovernanceDesk
set_option autoImplicit false

/-! ## Stages in order -/

/-- In a list in the order of the process, pairs in list order are pairs in process order. -/
theorem pairwise_iff_of_ordered {stages : List Stage} {R : Stage → Stage → Prop}
    (ordered : stages.Pairwise fun w u => w.index < u.index) :
    stages.Pairwise R ↔ ∀ w ∈ stages, ∀ u ∈ stages, w.index < u.index → R w u := by
  constructor
  · intro pairs
    induction stages with
    | nil => exact nofun
    | cons a rest ih =>
      obtain ⟨first, others⟩ := List.pairwise_cons.1 pairs
      obtain ⟨after, ordered⟩ := List.pairwise_cons.1 ordered
      intro w hw u hu lt
      rcases List.mem_cons.1 hw with rfl | hw'
      · rcases List.mem_cons.1 hu with rfl | hu'
        · exact absurd lt (Nat.lt_irrefl _)
        · exact first u hu'
      · rcases List.mem_cons.1 hu with rfl | hu'
        · exact absurd (after w hw') (Nat.lt_asymm lt)
        · exact ih ordered others w hw' u hu' lt
  · intro all
    exact ordered.imp_of_mem fun hw hu lt => all _ hw _ hu lt

/-- The stages of the process, cut at one of them. -/
structure Stage.Cut (front : List Stage) (s : Stage) (rest : List Stage) : Prop where
  before : ∀ u ∈ front, u.index < s.index
  mem_iff : ∀ u, u ∈ rest ↔ s.index < u.index
  ordered : rest.Pairwise fun w u => w.index < u.index

theorem Stage.cut_of_split {front rest : List Stage} {s : Stage}
    (split : Stage.all = front ++ s :: rest) : Stage.Cut front s rest := by
  have ordered : Stage.all.Pairwise fun w u => w.index < u.index := by decide
  rw [split] at ordered
  obtain ⟨-, fromHere, across⟩ := List.pairwise_append.1 ordered
  obtain ⟨after, ordered⟩ := List.pairwise_cons.1 fromHere
  have before : ∀ u ∈ front, u.index < s.index := fun u hu =>
    across u hu s (List.mem_cons_self ..)
  refine ⟨before, fun u => ⟨after u, fun lt => ?_⟩, ordered⟩
  have mem : u ∈ front ++ s :: rest := split ▸ Stage.mem_all u
  rcases List.mem_append.1 mem with hu | hu
  · exact absurd (before u hu) (Nat.lt_asymm lt)
  · rcases List.mem_cons.1 hu with rfl | hu'
    · exact absurd lt (Nat.lt_irrefl _)
    · exact hu'

namespace TaskList

variable {stored : StageTable}

/-! ## One stage -/

theorem isDimmed_openStatus_behind_skip (status : Status) :
    (openStatus status (some .notNeeded)).isDimmed = status.isDimmed := by
  cases status <;> rfl

theorem openStatus_behind_skip {status : Status} (dimmed : status.isDimmed = true) :
    openStatus status (some .notNeeded) = .notNeeded := by
  cases status <;> first | rfl | exact nomatch dimmed

theorem openStatus_behind {before : Status} (unfinished : before.isTerminal = false)
    (status : Status) :
    openStatus status (some before) = if status = .notNeeded then .notNeeded else .cannotStart := by
  cases before <;> first
    | cases status <;> rfl
    | exact nomatch unfinished

/-! ## The stages behind -/

theorem dimmed_behind_skip_iff (stages : List Stage) :
    (∀ e ∈ openStatuses stored (some .notNeeded) stages, e.2.isDimmed = true) ↔
      ∀ u ∈ stages, (stored.status u).isDimmed = true := by
  induction stages with
  | nil => exact iff_of_true nofun nofun
  | cons stage rest ih =>
    rw [openStatuses, List.forall_mem_cons, List.forall_mem_cons, isDimmed_openStatus_behind_skip]
    refine and_congr_right fun dimmed => ?_
    -- A dimmed stage is skipped here, so the rest again stands behind a skip.
    rw [openStatus_behind_skip dimmed]
    exact ih

theorem dimmed_behind_iff {before : Status} (unfinished : before.isTerminal = false)
    (stages : List Stage) :
    (∀ e ∈ openStatuses stored (some before) stages, e.2.isDimmed = true) ↔
      stages.Pairwise fun w u =>
        stored.status w = .notNeeded → (stored.status u).isDimmed = true := by
  induction stages generalizing before with
  | nil => exact iff_of_true nofun .nil
  | cons stage rest ih =>
    rw [openStatuses, List.forall_mem_cons, List.pairwise_cons, openStatus_behind unfinished]
    by_cases skipped : stored.status stage = .notNeeded
    · rw [if_pos skipped, dimmed_behind_skip_iff]
      refine (and_iff_right rfl).trans ?_
      constructor
      · intro dimmed
        refine ⟨fun u hu _ => dimmed u hu, ?_⟩
        exact List.pairwise_of_forall_mem_list fun w _ u hu _ => dimmed u hu
      · rintro ⟨dimmed, -⟩ u hu
        exact dimmed u hu skipped
    · rw [if_neg skipped, ih rfl]
      refine (and_iff_right rfl).trans ?_
      exact (and_iff_right fun u _ skip => absurd skip skipped).symm

/-- The first unfinished stage cuts the list in two. -/
theorem openStatuses_split {before : Option Status} {stages : List Stage} {s : Stage}
    {status : Status}
    (first : (openStatuses stored before stages).find? (fun e => !e.2.isTerminal) =
      some (s, status)) :
    status.isTerminal = false ∧ ∃ front rest, stages = front.map Prod.fst ++ s :: rest ∧
      openStatuses stored before stages =
        front ++ (s, status) :: openStatuses stored (some status) rest := by
  induction stages generalizing before with
  | nil => exact nomatch first
  | cons stage stages ih =>
    rw [openStatuses] at first ⊢
    by_cases finished : (openStatus (stored.status stage) before).isTerminal = true
    · rw [List.find?_cons_of_neg (by simpa using finished)] at first
      obtain ⟨unfinished, front, rest, split, rows⟩ := ih first
      refine ⟨unfinished, (stage, openStatus (stored.status stage) before) :: front, rest, ?_, ?_⟩
      · rw [split]
        rfl
      · rw [rows]
        rfl
    · rw [List.find?_cons_of_pos (by simpa using finished)] at first
      cases first
      exact ⟨by simpa using finished, [], stages, rfl, rfl⟩

theorem rows_of_opened {i : Intake} (isOpen : i.state = .opened) :
    i.taskList = (openStatuses i.statuses none Stage.all).map fun e =>
      ⟨e.1, e.2, e.2.isDimmed, Feedback.isAbout i.feedback e.1⟩ := by
  rw [Intake.taskList, rows, resolved, isDecided]
  simp [Intake.taskListInput, isOpen]

end TaskList

namespace Intake

open TaskList in
/-- Behind the current stage of an open request every row is dimmed exactly when no stage that is
skipped on record has a started one behind it. -/
theorem later_dimmed_iff {i : Intake} (isOpen : i.state = .opened) {s : Stage}
    (current : i.currentStage? = some s) :
    (∀ row ∈ i.taskList, s.index < row.stage.index → row.dimmed = true) ↔
      ∀ w u : Stage, s.index < w.index → w.index < u.index →
        i.statuses.status w = .notNeeded → (i.statuses.status u).isDimmed = true := by
  have notClosed : ¬ i.state = .closed := by
    rw [isOpen]
    exact nofun
  rw [Intake.currentStage?, if_neg notClosed, TaskList.currentStage?, rows_of_opened isOpen,
    List.find?_map, Option.map_map, Option.map_eq_some_iff] at current
  obtain ⟨⟨s', status⟩, first, same⟩ := current
  obtain rfl : s = s' := same.symm
  obtain ⟨unfinished, front, rest, split, rows⟩ := openStatuses_split first
  have cut := Stage.cut_of_split split
  rw [rows_of_opened isOpen, rows, List.forall_mem_map]
  have behind : (∀ e ∈ front ++ (s, status) :: openStatuses i.statuses (some status) rest,
        s.index < e.1.index → e.2.isDimmed = true) ↔
      ∀ e ∈ openStatuses i.statuses (some status) rest, e.2.isDimmed = true := by
    constructor
    · intro all e he
      have mem : e.1 ∈ rest := by
        rw [← map_fst_openStatuses (some status) rest]
        exact List.mem_map_of_mem he
      exact all e (List.mem_append_right _ (List.mem_cons_of_mem _ he)) ((cut.mem_iff _).1 mem)
    · intro dimmed e he later
      rcases List.mem_append.1 he with hf | hr
      · exact absurd (cut.before _ (List.mem_map_of_mem hf)) (Nat.lt_asymm later)
      · rcases List.mem_cons.1 hr with rfl | hr'
        · exact absurd later (Nat.lt_irrefl _)
        · exact dimmed e hr'
  refine behind.trans ((dimmed_behind_iff unfinished rest).trans ?_)
  rw [pairwise_iff_of_ordered cut.ordered]
  simp only [cut.mem_iff]
  constructor
  · intro all w u hw lt
    exact all w hw u (Nat.lt_trans hw lt) lt
  · intro all w hw u _ lt
    exact all w u hw lt

/-- Moved past the draft to a meeting, then asked to rework the intake form. -/
def reworked : Intake :=
  ((Intake.opened "r1" "Data platform" ⟨"Ada", "ada@example.gov", none⟩ Store.noon).movedTo
    .grtMeeting).withEditsRequested .intakeRequest "Add a plan" Store.noon

theorem later_dimmed_iff_reworked :
    reworked.state = .opened ∧ reworked.currentStage? = some .intakeForm ∧
      ¬ ∀ row ∈ reworked.taskList,
        Stage.intakeForm.index < row.stage.index → row.dimmed = true := by
  have isOpen : reworked.state = .opened := rfl
  have current : reworked.currentStage? = some .intakeForm := by decide
  refine ⟨isOpen, current, fun all => ?_⟩
  have dimmed := (later_dimmed_iff isOpen current).1 all .draftBusinessCase .grtMeeting
    (by decide) (by decide) (by decide)
  exact absurd dimmed (by decide)

end Intake

namespace Store

def toMeeting : ActionRequest where
  intakeId := "r1"
  kind := .progressToNewStep
  values := NameMap.ofList [("newStep", .text "GRT_MEETING")]
  recipients := none
  button := .complete
  confirmed := false

def reworkedDesk : Store :=
  ((smallDesk.runAction noon.date noon toMeeting).2.runAction noon.date noon
    (editsOf "INTAKE_REQUEST")).2

theorem reached_reworkedDesk : Reached "r1" reworkedDesk :=
  .acted (.acted reached_smallDesk noon.date noon toMeeting (by decide +kernel)) noon.date noon
    (editsOf "INTAKE_REQUEST") (by decide +kernel)

/-- The meeting that was skipped to stays ready behind the form that is reworked. -/
theorem meeting_ready_behind_reworked_form :
    ¬ ∀ id s, Reached id s → ∀ i, s.load id = .ok i → i.state = .opened →
      ∀ current, i.currentStage? = some current →
      ∀ row ∈ i.taskList, current.index < row.stage.index → row.dimmed = true := by
  intro claim
  have found : (reworkedDesk.load "r1").toOption.map (fun i =>
        (i.state, i.currentStage?, i.taskList.find? fun row => row.stage == .grtMeeting)) =
      some (.opened, some .intakeForm, some ⟨.grtMeeting, .ready, false, false⟩) := by
    decide +kernel
  cases loaded : reworkedDesk.load "r1" with
  | error e =>
    rw [loaded] at found
    exact nomatch found
  | ok i =>
    rw [loaded] at found
    obtain ⟨isOpen, current, row⟩ : i.state = .opened ∧ i.currentStage? = some .intakeForm ∧
        (i.taskList.find? fun row => row.stage == .grtMeeting) =
          some ⟨.grtMeeting, .ready, false, false⟩ := by
      simpa [Except.toOption] using found
    have dimmed := claim "r1" reworkedDesk reached_reworkedDesk i loaded isOpen .intakeForm current
      _ (List.mem_of_find?_eq_some row) (by decide)
    exact nomatch dimmed

end Store

end GovernanceDesk

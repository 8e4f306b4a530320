import GovernanceDesk.Api.Server
import GovernanceDesk.Cli.Feedback
import GovernanceDesk.Proofs.Sorting
import GovernanceDesk.Proofs.Store.Running
import GovernanceDesk.Proofs.TaskList.Resolved

/-!
# Feedback as it is shown

Every record on a request is shown once, behind the row of the task list that its target belongs to.
The task list marks the rows that have any, the server counts and groups them, and the command line
lists the groups one after another.

* `Feedback.groups`: the rows with records behind them, and these records.
* `Feedback.shown_perm`, `Feedback.pairwise_shown`, `Feedback.filter_shown`: all records, in which order.
* `Tree.rowMarks?`, `Tree.feedbackGroups?`: what a client reads in a reply of the server.
* `Feedback.shown_alike`: every front end shows the same records behind the same rows.
-/

namespace GovernanceDesk
set_option autoImplicit false

namespace FeedbackSource

theorem rank_le_iff {a b : FeedbackSource} :
    a.rank ≤ b.rank ↔ (a = .reviewer → b = .reviewer) := by
  cases a <;> cases b <;> decide

theorem rank_injective : Function.Injective rank := by
  intro a b same
  cases a <;> cases b <;> simp_all [rank]

end FeedbackSource

namespace Feedback

variable {records : List Feedback} {stage : Stage}

/-! ## The order of display -/

/-- Where a record stands among others behind the same row: by its source, and the newest first. -/
def place (f : Feedback) : ℕ ×ₗ ((ℤ ×ₗ ℕ ×ₗ ℕ) ×ₗ ℕ ×ₗ ℕ)ᵒᵈ :=
  toLex (f.source.rank, OrderDual.toDual f.createdAt.key)

theorem shownBefore_iff (a b : Feedback) : shownBefore a b = true ↔ a.place ≤ b.place := by
  rw [place, place, Prod.Lex.toLex_le_toLex, OrderDual.toDual_le_toDual,
    ← Instant.before_eq_false_iff, FeedbackSource.rank_injective.eq_iff]
  simp [shownBefore]

theorem place_eq_iff {a b : Feedback} :
    a.place = b.place ↔ a.source = b.source ∧ a.createdAt = b.createdAt := by
  rw [place, place, toLex_inj, Prod.mk.injEq, FeedbackSource.rank_injective.eq_iff,
    OrderDual.toDual_inj, Instant.key_injective.eq_iff]

/-- No reviewer stands before the governance team, and of one source no record before a newer one. -/
theorem pairwise_shown (records : List Feedback) (stage : Stage) :
    (shown records stage).Pairwise fun a b =>
      (a.source = .reviewer → b.source = .reviewer) ∧
        (a.source = b.source → b.createdAt ≤ a.createdAt) := by
  refine (pairwise_mergeSort_of_key shownBefore_iff (records.filter (concerns stage))).imp ?_
  intro a b before
  rw [← shownBefore_iff, shownBefore, Bool.or_eq_true, decide_eq_true_iff, Bool.and_eq_true,
    beq_iff_eq, Bool.not_eq_true'] at before
  rw [← FeedbackSource.rank_le_iff]
  rcases before with sooner | ⟨same, newer⟩
  · refine ⟨Nat.le_of_lt sooner, fun same => ?_⟩
    rw [same] at sooner
    exact absurd sooner (Nat.lt_irrefl _)
  · exact ⟨Nat.le_of_eq (congrArg FeedbackSource.rank same), fun _ => newer⟩

/-- Of one source and one moment, records stand in the order in which they were added. -/
theorem filter_shown (records : List Feedback) (stage : Stage) (source : FeedbackSource)
    (time : Instant) :
    (shown records stage).filter (fun f => f.source = source ∧ f.createdAt = time) =
      records.filter fun f => f.target.stage = stage ∧ f.source = source ∧ f.createdAt = time := by
  -- The place that records of this source and moment have in common.
  have samePlace (f : Feedback) : (f.source = source ∧ f.createdAt = time) ↔
      f.place = place ⟨"", .intakeRequest, source, "", none, time⟩ := by
    rw [place_eq_iff]
  simp only [samePlace]
  rw [shown, filter_mergeSort_of_key shownBefore_iff, List.filter_filter]
  refine List.filter_congr fun f _ => ?_
  rw [Bool.decide_and, Bool.and_comm, concerns, beq_eq_decide]

/-! ## Nothing is lost -/

theorem shown_perm (records : List Feedback) :
    (Stage.all.flatMap (shown records)).Perm records := by
  have sorted : (Stage.all.flatMap (shown records)).Perm
      (Stage.all.flatMap fun stage => records.filter fun f => f.target.stage = stage) :=
    List.Perm.flatMap_left _ fun stage _ => List.mergeSort_perm _ _
  have apart : (Stage.all.flatMap fun stage => records.filter fun f => f.target.stage = stage).Perm
      (records.filter fun f => f.target.stage ∈ Stage.all) :=
    flatMap_filter_perm _ (by decide) records
  have all : records.filter (fun f => f.target.stage ∈ Stage.all) = records :=
    List.filter_eq_self.2 fun f _ => decide_eq_true (Stage.mem_all _)
  rw [all] at apart
  exact sorted.trans apart

theorem isAbout_iff : isAbout records stage = true ↔ shown records stage ≠ [] := by
  rw [isAbout, shown, List.any_eq_true, ← List.length_pos_iff, List.length_mergeSort,
    List.length_filter_pos_iff]

theorem isAbout_eq (records : List Feedback) (stage : Stage) :
    isAbout records stage = !(shown records stage).isEmpty := by
  rw [Bool.eq_iff_iff, isAbout_iff, Bool.not_eq_true', List.isEmpty_eq_false_iff]

/-! ## Groups -/

/-- The rows of the task list with records behind them, and these records as they are shown. -/
def groups (records : List Feedback) : List (Stage × List Feedback) :=
  (Stage.all.map fun stage => (stage, shown records stage)).filter fun g => !g.2.isEmpty

theorem map_fst_groups (records : List Feedback) :
    (groups records).map Prod.fst = Stage.all.filter (isAbout records) := by
  have marked : (fun stage => !(shown records stage).isEmpty) = isAbout records :=
    funext fun stage => (isAbout_eq records stage).symm
  rw [groups, List.filter_map, List.map_map]
  exact (List.map_id _).trans (congrArg (Stage.all.filter ·) marked)

/-- One group after another, the rows without records add nothing. -/
theorem flatMap_groups (records : List Feedback) :
    (groups records).flatMap Prod.snd = Stage.all.flatMap (shown records) := by
  rw [groups]
  induction Stage.all with
  | nil => rfl
  | cons stage rest ih =>
    rw [List.map_cons, List.filter_cons, List.flatMap_cons, ← ih]
    cases shown records stage with
    | nil => rfl
    | cons f fs => rfl

/-- A record that clients are shown is read back as it is. -/
theorem decode_view (f : Feedback) : (decode f.view : Option Feedback) = some f := by
  have written : f.view = .fields
      [("id", encode f.id), ("target_form", encode f.target), ("feedback_type", encode f.source),
        ("feedback", encode f.text), ("author", Entries.nullable f.author),
        ("created_at", encode f.createdAt)] := by
    rw [view, Entries.orNull_eq]
    rfl
  rw [written]
  unfold Feedback.instCoded
  simp [Tree.fields?, Entries.need_eq, Entries.optional_eq, lookup_cons_ite]

theorem decode_views (fs : List Feedback) :
    (decode (.list (fs.map view)) : Option (List Feedback)) = some fs := by
  change (fs.map view).mapM decode = some fs
  induction fs with
  | nil => rfl
  | cons f fs ih =>
    rw [List.map_cons, List.mapM_cons, ih, decode_view]
    rfl

end Feedback

/-! ## What clients read -/

namespace Tree

/-- A row of the task list in a reply: its stage, whether it is marked, and how many records it counts. -/
def rowMark? (t : Tree) : Option (Stage × Bool × Int) := do
  let entries ← t.fields?
  let stage ← entries.need "stage"
  let mark ← entries.need "has_feedback"
  match entries.lookup "feedback_count" with
  | some (.int count) => some (stage, mark, count)
  | _ => none

def rowMarks? (t : Tree) : Option (List (Stage × Bool × Int)) := do
  let entries ← t.fields?
  let rows ← (entries.lookup "rows").bind Tree.list?
  rows.mapM rowMark?

/-- A group of feedback in a reply: its stage and its records. -/
def feedbackGroup? (t : Tree) : Option (Stage × List Feedback) := do
  let entries ← t.fields?
  let stage ← entries.need "stage"
  let records ← entries.need "feedback"
  return (stage, records)

def feedbackGroups? (t : Tree) : Option (List (Stage × List Feedback)) := do
  let groups ← t.list?
  groups.mapM feedbackGroup?

end Tree

namespace Feedback

variable {i : Intake} {id : String} {d : Cli.Desk}

theorem rowMark?_view (row : TaskRow) (records : List Feedback) :
    (row.view records).rowMark? =
      some (row.stage, row.hasFeedback, ((shown records row.stage).length : Int)) := by
  have mark : (decode (Tree.bool row.hasFeedback) : Option Bool) = some row.hasFeedback := rfl
  simp [TaskRow.view, Tree.rowMark?, Tree.fields?, Entries.need_eq, lookup_cons_ite, mark]

theorem feedbackGroup?_groupView (stage : Stage) (fs : List Feedback) :
    (groupView stage fs).feedbackGroup? = some (stage, fs) := by
  simp [groupView, Tree.feedbackGroup?, Tree.fields?, Entries.need_eq, lookup_cons_ite, decode_views]

theorem mapM_eq_some_map {α β : Type} {f : α → Option β} {g : α → β} {xs : List α}
    (each : ∀ x ∈ xs, f x = some (g x)) : xs.mapM f = some (xs.map g) := by
  induction xs with
  | nil => rfl
  | cons x xs ih =>
    rw [List.mapM_cons, each x (List.mem_cons_self ..),
      ih fun x mem => each x (List.mem_cons_of_mem _ mem)]
    rfl

/-- The task list has one row for each stage, marked where there are records behind it and with their
number. -/
theorem rowMarks?_taskListView (i : Intake) :
    i.taskListView.rowMarks? = some (Stage.all.map fun stage =>
      (stage, !(shown i.feedback stage).isEmpty, ((shown i.feedback stage).length : Int))) := by
  have stages : i.taskList.map TaskRow.stage = Stage.all := TaskList.map_stage_rows i.taskListInput
  have read : i.taskListView.rowMarks? =
      (i.taskList.map fun row => row.view i.feedback).mapM Tree.rowMark? := by
    simp [Intake.taskListView, Tree.rowMarks?, Tree.fields?, Tree.list?, lookup_cons_ite,
      Entries.orNull_eq]
  rw [read, ← stages, List.map_map, List.mapM_map]
  refine mapM_eq_some_map fun row mem => ?_
  have marked : row.hasFeedback = isAbout i.feedback row.stage := TaskList.hasFeedback_of_mem mem
  rw [Function.comp_apply, rowMark?_view, marked, isAbout_eq]
  rfl

theorem feedbackGroups?_feedbackView (i : Intake) :
    i.feedbackView.feedbackGroups? = some (groups i.feedback) := by
  have read : i.feedbackView.feedbackGroups? =
      ((groups i.feedback).map fun g => groupView g.1 g.2).mapM Tree.feedbackGroup? := rfl
  rw [read, List.mapM_map]
  exact (mapM_eq_some_map fun g _ => feedbackGroup?_groupView g.1 g.2).trans
    (congrArg some (List.map_id _))

/-- What the front ends show of the feedback on a request: the task list marks the rows of the groups,
the server counts and groups, and the command line lists the records of one group after another. -/
structure ShownBy (d : Cli.Desk) (id : String) (records : List Feedback) (i : Intake) : Prop where
  marked : (i.taskList.filter TaskRow.hasFeedback).map TaskRow.stage = (groups records).map Prod.fst
  counted : ∀ today, (d.store.look today (.taskList id)).toOption.bind Tree.rowMarks? =
    some (Stage.all.map fun stage =>
      (stage, !(shown records stage).isEmpty, ((shown records stage).length : Int)))
  grouped : ∀ today, (d.store.look today (.feedback id)).toOption.bind Tree.feedbackGroups? =
    some (groups records)
  listed : d.listFeedback id = d.report (encode ((groups records).flatMap Prod.snd))
    (if records.isEmpty then ["No feedback."]
    else Cli.Table.lines ["ID", "STEP", "FROM", "AUTHOR", "FEEDBACK"]
      (((groups records).flatMap Prod.snd).map Cli.feedbackRow))

theorem shownBy_of_load (loaded : d.store.load id = .ok i) : ShownBy d id i.feedback i where
  marked := by
    have stages : i.taskList.map TaskRow.stage = Stage.all :=
      TaskList.map_stage_rows i.taskListInput
    rw [map_fst_groups, ← stages, List.filter_map]
    refine congrArg _ (List.filter_congr fun row mem => ?_)
    exact TaskList.hasFeedback_of_mem mem
  counted today := by
    rw [Store.look, Store.viewOf, loaded]
    exact rowMarks?_taskListView i
  grouped today := by
    rw [Store.look, Store.viewOf, loaded]
    exact feedbackGroups?_feedbackView i
  listed := by
    have all : Cli.allShown i = (groups i.feedback).flatMap Prod.snd :=
      (flatMap_groups i.feedback).symm
    have none : (Cli.allShown i).isEmpty = i.feedback.isEmpty := (shown_perm i.feedback).isEmpty_eq
    have opened : d.load id = .ok i := by
      rw [Cli.Desk.load, loaded]
      rfl
    rw [Cli.Desk.listFeedback, opened, ← all, ← none]
    rfl

/-- Every record is shown once, behind the row of its target: the governance team before the
reviewers, of one source the newest first, and of one moment in the order in which they were added. A
row is about some feedback just when there is something behind it, and so it is on the task list, in
the replies of the server and on the command line. -/
theorem shown_alike (records : List Feedback) :
    (Stage.all.flatMap (shown records)).Perm records ∧
      (∀ stage, (shown records stage).Pairwise fun a b =>
        (a.source = .reviewer → b.source = .reviewer) ∧
          (a.source = b.source → b.createdAt ≤ a.createdAt)) ∧
      (∀ stage source time,
        (shown records stage).filter (fun f => f.source = source ∧ f.createdAt = time) =
          records.filter fun f =>
            f.target.stage = stage ∧ f.source = source ∧ f.createdAt = time) ∧
      (∀ stage, isAbout records stage = true ↔ shown records stage ≠ []) ∧
      ∀ d id i, d.store.load id = .ok i → i.feedback = records → ShownBy d id records i := by
  refine ⟨shown_perm records, pairwise_shown records, filter_shown records,
    fun stage => isAbout_iff, fun d id i loaded same => ?_⟩
  rw [← same]
  exact shownBy_of_load loaded

/-! ### Four remarks on the draft and one on no form -/

def remarks : List Feedback :=
  let earlier : Instant := ⟨Store.noon.date, 36000, 0, by decide⟩
  [⟨"FB1", .draftBusinessCase, .reviewer, "Add a plan", some "Grace", Store.noon⟩,
    ⟨"FB2", .draftBusinessCase, .governanceTeam, "Add the costs", none, earlier⟩,
    ⟨"FB3", .draftBusinessCase, .governanceTeam, "Add a budget", none, Store.noon⟩,
    ⟨"FB4", .noTargetProvided, .governanceTeam, "Welcome", none, Store.noon⟩,
    ⟨"FB5", .draftBusinessCase, .governanceTeam, "Add a sponsor", none, Store.noon⟩]

def remarked : Intake :=
  { Intake.opened "r1" "Data platform" ⟨"Ada", "ada@example.gov", none⟩ Store.noon with
    feedback := remarks }

def remarkedDesk : Cli.Desk where
  store := Store.smallDesk.saving remarked
  rootPath := "/desk"
  moment := Store.firstMoment
  json := true

theorem load_remarkedDesk : remarkedDesk.store.load "r1" = .ok remarked := by
  have saved : Store.Saved Store.smallDesk remarked remarkedDesk.store :=
    Store.saved_saving (by decide +kernel)
  exact saved.load_self

theorem shown_alike_remarks :
    remarkedDesk.store.load "r1" = .ok remarked ∧ remarked.feedback = remarks ∧
      ShownBy remarkedDesk "r1" remarks remarked := by
  obtain ⟨-, -, -, -, shows⟩ := shown_alike remarks
  exact ⟨load_remarkedDesk, rfl, shows remarkedDesk "r1" remarked load_remarkedDesk rfl⟩

end Feedback

end GovernanceDesk

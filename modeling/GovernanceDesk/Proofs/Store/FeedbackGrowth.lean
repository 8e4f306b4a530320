import GovernanceDesk.Proofs.Feedback.Appending
import GovernanceDesk.Proofs.Store.Calls
import GovernanceDesk.Proofs.TaskList.Resolved
import Mathlib.Data.List.Forall2

/-!
# Feedback through all calls

Whatever is done to a request, its feedback is only ever appended to. A row of the task list that
links to feedback keeps the link, whether the list is resolved in the open or the decided way.

* `Store.Touched.extended`: what one thing that is done to a request does to its feedback.
* `TaskList.forall₂_hasFeedback`: the links of two task lists, row by row.
* `Store.feedback_after_calls`: the feedback, its ids and its links after any calls.
-/

namespace GovernanceDesk
set_option autoImplicit false

/-! ## One operation -/

namespace Intake

variable {i j : Intake} {before : List Feedback}

theorem withMeeting_feedback (i : Intake) (newStep : Step) (date : Option Date) :
    (i.withMeeting newStep date).feedback = i.feedback := by
  cases newStep <;> rfl

theorem extended_withFeedbackIfAny (grown : Feedback.Extended before i.feedback)
    (target : FeedbackTarget) (source : FeedbackSource) (text? : Option String) (now : Instant) :
    Feedback.Extended before (i.withFeedbackIfAny target source text? now).feedback := by
  cases text? with
  | none => exact grown
  | some text => exact grown.append target source text none now

/-- An operation appends what it says, up to two records. -/
theorem Affected.extended {today : Date} {now : Instant}
    {issue : LcidDecision → Except Failure LcidRecord} {op : Operation}
    (h : Affected i today now issue op j) (grown : Feedback.Extended before i.feedback) :
    Feedback.Extended before j.feedback := by
  cases h with
  | editsRequested target text => exact grown.append target .governanceTeam text none now
  | moved newStep date feedback recommendations =>
    have moved : Feedback.Extended before
        ((i.movedTo newStep).withMeeting newStep date).feedback := by
      rw [withMeeting_feedback]
      exact grown
    exact extended_withFeedbackIfAny (extended_withFeedbackIfAny moved ..) ..
  | _ => exact grown

end Intake

/-! ## The task list -/

namespace TaskList

theorem isAbout_of_prefix {before after : List Feedback} (kept : before <+: after) {stage : Stage}
    (about : Feedback.isAbout before stage = true) : Feedback.isAbout after stage = true := by
  obtain ⟨f, mem, concerns⟩ := List.any_eq_true.1 about
  exact List.any_eq_true.2 ⟨f, kept.subset mem, concerns⟩

/-- The rows of two lists are for the same stages, and none of them loses its link. -/
theorem forall₂_hasFeedback {i k : Intake} (kept : i.feedback <+: k.feedback) :
    List.Forall₂ (fun row row' => row'.stage = row.stage ∧
      (row.hasFeedback = true → row'.hasFeedback = true)) i.taskList k.taskList := by
  have stages : List.Forall₂ (· = ·)
      ((resolved i.state i.decision i.statuses).map Prod.fst)
      ((resolved k.state k.decision k.statuses).map Prod.fst) := by
    rw [List.forall₂_eq_eq_eq, map_fst_resolved, map_fst_resolved]
  rw [List.forall₂_map_left_iff, List.forall₂_map_right_iff] at stages
  rw [Intake.taskList, Intake.taskList, rows, rows, List.forall₂_map_left_iff,
    List.forall₂_map_right_iff]
  refine stages.imp fun e e' same => ⟨same.symm, fun about => ?_⟩
  change Feedback.isAbout k.feedback e'.1 = true
  rw [← same]
  exact isAbout_of_prefix kept about

end TaskList

/-! ## All calls -/

namespace Store

variable {s : Store} {id : String}

theorem Applied.extended {today : Date} {now : Instant} {kind : ActionKind} {m : Mutation}
    {i j k : Intake} {before : List Feedback} (h : Applied s today now kind m i j k)
    (grown : Feedback.Extended before i.feedback) : Feedback.Extended before k.feedback := by
  obtain ⟨_, same⟩ := h.exists_eq
  rw [same]
  exact h.affected.extended grown

theorem Touched.extended {i k : Intake} {c : Call} {e? : Option Enactment}
    {before : List Feedback} (h : Touched s i c e? k)
    (grown : Feedback.Extended before i.feedback) : Feedback.Extended before k.feedback := by
  cases h with
  | changed _ applied => exact applied.extended grown
  | ran _ run => exact run.applied.extended grown
  | feedbackPosted | feedbackTyped => exact grown.append ..
  | statusSet => exact grown
  | statusTyped =>
    obtain ⟨_, same⟩ := exists_reported_eq i _ _ _
    rw [same]
    exact grown

/-- After any calls the earlier records come first, and no row of the task list has lost its link.
While the numbers last, ids stay distinct, and each record that was added has a number larger than
those that any record before it carries. -/
theorem feedback_after_calls {i : Intake} (loaded : s.load id = .ok i)
    (distinct : (i.feedback.map Feedback.id).Nodup) (cs : List Call)
    (named : ∀ c ∈ cs, s.NamedAt c.intakeId) :
    ∃ k, (s.calls cs).load id = .ok k ∧ i.feedback <+: k.feedback ∧
      List.Forall₂ (fun row row' => row'.stage = row.stage ∧
        (row.hasFeedback = true → row'.hasFeedback = true)) i.taskList k.taskList ∧
      ((∀ earlier f, Feedback.Added i.feedback k.feedback earlier f → Feedback.HasRoom earlier) →
        (k.feedback.map Feedback.id).Nodup ∧
        ∀ earlier f, Feedback.Added i.feedback k.feedback earlier f →
          ∃ n, f.id = "FB" ++ toString n ∧
            ∀ g ∈ earlier, ∀ m, Feedback.Carries g.id m → m < n) := by
  obtain ⟨k, there, grown⟩ := calls_related
    (R := fun _ k => Feedback.Extended i.feedback k.feedback) (Feedback.Extended.refl i.feedback)
    cs (fun _ _ => Touched.extended) loaded named
  refine ⟨k, there, grown.kept, TaskList.forall₂_hasFeedback grown.kept, fun room => ?_⟩
  refine ⟨grown.nodup_ids distinct room, fun earlier f added => ?_⟩
  have numbered := grown.numbered earlier f added
  refine ⟨Feedback.lastNumber earlier + 1, numbered, fun g mem m carried => ?_⟩
  exact Nat.lt_succ_of_le (Feedback.le_lastNumber mem carried)

/-- Feedback through the server, an action and the command line, and a status that is set. -/
def fourCalls : List Call :=
  [.feedbackPosted .none .start firstMoment "r1" ⟨"GRB_MEETING", some "REVIEWER", "Name it", none⟩,
    .ran ⟨noon.date, noon, editsOf "INTAKE_REQUEST"⟩,
    .feedbackTyped ⟨"desk", false, firstMoment⟩ "r1" "grb-meeting" "reviewer" none "Cost it",
    .statusSet firstMoment "r1" .intakeForm .submitted]

theorem feedback_after_fourCalls :
    smallDesk.load "r1" =
        .ok (.opened "r1" "Data platform" ⟨"Ada", "ada@example.gov", none⟩ noon) ∧
      (∀ c ∈ fourCalls, smallDesk.NamedAt c.intakeId) ∧
      ∃ k, (smallDesk.calls fourCalls).load "r1" = .ok k ∧
        k.feedback.map Feedback.id = ["FB1", "FB2", "FB3"] ∧
        (∀ earlier f, Feedback.Added [] k.feedback earlier f → Feedback.HasRoom earlier) ∧
        (k.feedback.map Feedback.id).Nodup ∧
        ∀ earlier f, Feedback.Added [] k.feedback earlier f →
          ∃ n, f.id = "FB" ++ toString n ∧
            ∀ g ∈ earlier, ∀ m, Feedback.Carries g.id m → m < n := by
  have named : ∀ c ∈ fourCalls, smallDesk.NamedAt c.intakeId :=
    fun c _ => wellNamed_smallDesk c.intakeId
  obtain ⟨k, there, -, -, after⟩ :=
    feedback_after_calls load_smallDesk List.nodup_nil fourCalls named
  have seen : ((smallDesk.calls fourCalls).load "r1").toOption.any (fun k =>
      k.feedback.map Feedback.id = ["FB1", "FB2", "FB3"] ∧ Feedback.HasRoom k.feedback) = true := by
    decide +kernel
  rw [there] at seen
  obtain ⟨ids, room⟩ := of_decide_eq_true seen
  have roomy : ∀ earlier f, Feedback.Added [] k.feedback earlier f → Feedback.HasRoom earlier :=
    fun _ _ added => added.hasRoom room
  exact ⟨load_smallDesk, named, k, there, ids, roomy, after roomy⟩

end Store

end GovernanceDesk

import GovernanceDesk.Proofs.Store.Calls
import GovernanceDesk.Proofs.Store.EditsRequests
import GovernanceDesk.Proofs.Store.Footprint
import GovernanceDesk.Proofs.TaskList.Current

/-!
# Decisions that stand

A decision closes a request and takes it to the last stage. Once the request is opened again, a move
or a request for edits takes it back to an earlier stage, and the decision does not stand any more;
but it is kept on record, and when the request is closed the task list is resolved by it again.

* `Operation.lastDecision?`, `Operation.standingDecision?`: what was decided last, and what stands.
* `Intake.InLineWith`: a request as the operations on it have left its decision.
* `Store.decision_stands_iff`: when the step and the stage of a request agree with its decision.
-/

namespace GovernanceDesk
set_option autoImplicit false

/-! ## Decisions among operations -/

namespace Operation

def lastDecision? (ops : List Operation) : Option Decision :=
  ops.foldl (fun last op => op.decision?.or last) none

/-- The last decision, unless work was resumed after it. -/
def standingDecision? (ops : List Operation) : Option Decision :=
  ops.foldl (fun standing op => if op.resumesWork then none else op.decision?.or standing) none

/-- What the forms send: moves to a step before the decision, and edits to a form. -/
structure SentByForm (op : Operation) : Prop where
  move : ∀ newStep date feedback recommendations,
    op = .progressToNewStep newStep date feedback recommendations →
      newStep ≠ .decisionAndNextSteps
  edits : ∀ target text, op = .requestEdits target text →
    target ≠ .grbMeeting ∧ target ≠ .noTargetProvided

theorem lastDecision?_concat (ops : List Operation) (op : Operation) :
    lastDecision? (ops ++ [op]) = op.decision?.or (lastDecision? ops) :=
  List.foldl_concat ..

theorem standingDecision?_concat (ops : List Operation) (op : Operation) :
    standingDecision? (ops ++ [op]) =
      if op.resumesWork then none else op.decision?.or (standingDecision? ops) :=
  List.foldl_concat ..

end Operation

/-! ## Requests and their decisions -/

open Operation

namespace Intake

variable {i j : Intake} {ops : List Operation} {op : Operation}

/-- The decision on record is the last one. One that stands has taken the request to its last stage,
and without one it is at some other. -/
structure InLineWith (i : Intake) (ops : List Operation) : Prop where
  decision : i.decision = (lastDecision? ops).getD .noDecision
  stands : ∀ d, standingDecision? ops = some d → d = i.decision ∧
    i.step = .decisionAndNextSteps ∧ i.statuses.status .decisionAndNextSteps = .done
  fallen : standingDecision? ops = none → i.step ≠ .decisionAndNextSteps

theorem inLineWith_opened (id name : String) (requester : Contact) (now : Instant) :
    (opened id name requester now).InLineWith [] where
  decision := rfl
  stands := nofun
  fallen _ := nofun

/-- What has the decision, the step and the last stage of another request is in line like it. -/
theorem InLineWith.congr (h : i.InLineWith ops) (decision : j.decision = i.decision)
    (step : j.step = i.step)
    (last : j.statuses.status .decisionAndNextSteps = i.statuses.status .decisionAndNextSteps) :
    j.InLineWith ops where
  decision := by rw [decision, h.decision]
  stands := by
    rw [decision, step, last]
    exact h.stands
  fallen := by
    rw [step]
    exact h.fallen

theorem InLineWith.passed (h : i.InLineWith ops) (noDecision : op.decision? = none)
    (noWork : op.resumesWork = false) : i.InLineWith (ops ++ [op]) := by
  have last : lastDecision? (ops ++ [op]) = lastDecision? ops := by
    rw [lastDecision?_concat, noDecision, Option.none_or]
  have standing : standingDecision? (ops ++ [op]) = standingDecision? ops := by
    rw [standingDecision?_concat, noWork, noDecision, Option.none_or]
    rfl
  exact ⟨last ▸ h.decision, standing ▸ h.stands, standing ▸ h.fallen⟩

theorem inLineWith_decided (i : Intake) (d : Decision) (now : Instant)
    (decides : op.decision? = some d) (noWork : op.resumesWork = false) :
    (i.decided d now).InLineWith (ops ++ [op]) := by
  have standing : standingDecision? (ops ++ [op]) = some d := by
    rw [standingDecision?_concat, noWork, decides, Option.some_or]
    rfl
  refine ⟨?_, fun d' stands => ?_, fun fallen => ?_⟩
  · rw [lastDecision?_concat, decides]
    rfl
  · rw [standing] at stands
    cases stands
    refine ⟨rfl, rfl, ?_⟩
    rw [decided, withStatus, StageTable.status_set, if_pos rfl]
  · rw [standing] at fallen
    cases fallen

theorem InLineWith.resumed (h : i.InLineWith ops) (noDecision : op.decision? = none)
    (work : op.resumesWork = true) (decision : j.decision = i.decision)
    (step : j.step ≠ .decisionAndNextSteps) : j.InLineWith (ops ++ [op]) := by
  have standing : standingDecision? (ops ++ [op]) = none := by
    rw [standingDecision?_concat, if_pos work]
  refine ⟨?_, fun d stands => ?_, fun _ => step⟩
  · rw [lastDecision?_concat, noDecision, decision]
    exact h.decision
  · rw [standing] at stands
    cases stands

/-! ## One operation -/

theorem Affected.inLineWith {today : Date} {now : Instant}
    {issue : LcidDecision → Except Failure LcidRecord}
    (h : Affected i today now issue op j) (form : SentByForm op) (before : i.InLineWith ops) :
    j.InLineWith (ops ++ [op]) := by
  cases h with
  | editsRequested target text =>
    obtain ⟨noMeeting, known⟩ := form.edits target text rfl
    refine before.resumed rfl rfl rfl ?_
    cases target with
    | grbMeeting => exact absurd rfl noMeeting
    | noTargetProvided => exact absurd rfl known
    | _ => exact nofun
  | moved newStep date feedback recommendations =>
    obtain ⟨_, _, _, same⟩ := exists_moved_eq i newStep date feedback recommendations now
    rw [same]
    exact before.resumed rfl rfl rfl (form.move newStep date feedback recommendations rfl)
  | issued d l => exact inLineWith_decided { i with lcid := some l } _ _ rfl rfl
  | confirmed d l => exact inLineWith_decided { i with lcid := some (l.confirmed d) } _ _ rfl rfl
  | rejected => exact inLineWith_decided i _ _ rfl rfl
  | declared => exact inLineWith_decided i _ _ rfl rfl
  | _ => exact (before.passed rfl rfl).congr rfl rfl rfl

theorem InLineWith.withoutEditsRequest (h : i.InLineWith ops) (now : Instant) :
    (i.withoutEditsRequest now).InLineWith ops := by
  rw [Intake.withoutEditsRequest]
  split
  next form requested =>
    -- The form that is handed in is not the last stage.
    have editable : form ∈ editableForms := List.mem_of_find?_eq_some requested
    have other : .decisionAndNextSteps ≠ form := by
      rintro rfl
      exact absurd editable (by decide)
    refine h.congr rfl rfl ?_
    rw [withStatus, StageTable.status_set, if_neg other]
  · exact h

end Intake

/-! ## Runs -/

namespace Store

variable {s : Store} {id : String}

theorem Sent.sentByForm {today : Date} {r : ActionRequest} {ctx : ActionContext} {f : ActionForm}
    {m : Mutation} (h : Sent s today r ctx f m) : SentByForm m.operation := by
  refine ⟨fun _ _ _ _ moves => h.newStep_ne moves, fun target text edits => ?_⟩
  obtain ⟨told, built⟩ := h.built
  have kind : r.kind = .requestEdits := by
    rw [← (ActionKind.built_of_buildMutation built).action, edits]
    rfl
  obtain ⟨-, -, read⟩ := ActionKind.buildMutation_cases built
  have fine := h.fine
  rw [kind] at read fine
  rw [edits] at read
  exact ActionKind.target_of_problems_eq_empty fine (ActionKind.target?_of_readOperation read)

theorem Completed.inLineWith {today : Date} {now : Instant} {r : ActionRequest} {m : Mutation}
    {i j k : Intake} {s' : Store} {ops : List Operation}
    (h : Completed s today now r m i j k s') (before : i.InLineWith ops) :
    k.InLineWith (ops ++ [m.operation]) := by
  obtain ⟨ctx, f, -, sent⟩ := h.sent
  have after := h.applied.affected.inLineWith sent.sentByForm before
  have unrecorded : (if m.operation.keepsEditsRequest then j
      else j.withoutEditsRequest now).InLineWith (ops ++ [m.operation]) := by
    split
    · exact after
    · exact after.withoutEditsRequest now
  rw [h.applied.stored]
  refine unrecorded.congr ?_ ?_ ?_ <;> rw [Intake.recorded]

/-- The operations that runs carry out on one request. -/
def operations (s : Store) (id : String) (as : List Run) : List Operation :=
  (s.enactments id (as.map Call.ran)).map fun e => e.mutation.operation

theorem calls_ran (s : Store) (as : List Run) : s.calls (as.map Call.ran) = s.runs as := by
  induction as generalizing s with
  | nil => rfl
  | cons a as ih => exact ih (s.run a)

/-- A request that started open has its decision in line with all that was done to it. -/
theorem inLineWith_runs {name : String} {requester : Contact} {start : Instant}
    (fresh : s.load id = .ok (.opened id name requester start)) (as : List Run)
    (named : ∀ a ∈ as, s.NamedAt a.request.intakeId) :
    ∃ i, (s.runs as).load id = .ok i ∧ i.InLineWith (s.operations id as) := by
  have own : ∀ c ∈ as.map Call.ran, s.NamedAt c.intakeId := by
    intro c mem
    obtain ⟨a, ha, rfl⟩ := List.mem_map.1 mem
    exact named a ha
  rw [← calls_ran]
  refine calls_related (R := fun es i => i.InLineWith (es.map fun e => e.mutation.operation))
    (Intake.inLineWith_opened id name requester start) (as.map Call.ran) ?_ fresh own
  intro c mem s es j k e? touched before
  obtain ⟨a, -, rfl⟩ := List.mem_map.1 mem
  cases touched with
  | ran _ run =>
    rw [Option.toList_some, List.map_append]
    exact run.inLineWith before

/-- A closed request is shown as decided when the last decision about it was final. Its step and its
last stage say so only while that decision stands: no move and no request for edits came after. -/
theorem decision_stands_iff {name : String} {requester : Contact} {start : Instant}
    (fresh : s.load id = .ok (.opened id name requester start)) (as : List Run)
    (named : ∀ a ∈ as, s.NamedAt a.request.intakeId) :
    ∃ i, (s.runs as).load id = .ok i ∧
      (TaskList.isDecided i.state i.decision = true ↔ i.state = .closed ∧
        ∃ d, lastDecision? (s.operations id as) = some d ∧ d.isTerminal = true) ∧
      (i.step = .decisionAndNextSteps ∧ i.statuses.status .decisionAndNextSteps = .done ↔
        standingDecision? (s.operations id as) = some i.decision) := by
  obtain ⟨i, loaded, inLine⟩ := inLineWith_runs fresh as named
  refine ⟨i, loaded, ?_, ?_⟩
  · rw [TaskList.isDecided, inLine.decision, Bool.and_eq_true, beq_iff_eq]
    cases lastDecision? (s.operations id as) with
    | none => simp [Decision.isTerminal]
    | some d => simp
  · constructor
    · rintro ⟨step, -⟩
      cases standing : standingDecision? (s.operations id as) with
      | none => exact absurd step (inLine.fallen standing)
      | some d => rw [(inLine.stands d standing).1]
    · intro standing
      exact (inLine.stands _ standing).2

/-! ### A rejection that comes back -/

/-- A request is rejected, opened again, moved to a meeting and closed without a decision. -/
def resurfacing : List Run :=
  [rejecting, reopening, toMeeting, closing].map fun r => ⟨noon.date, noon, r⟩

theorem decision_stands_iff_resurfacing :
    smallDesk.load "r1" =
        .ok (.opened "r1" "Data platform" ⟨"Ada", "ada@example.gov", none⟩ noon) ∧
      (∀ a ∈ resurfacing, smallDesk.NamedAt a.request.intakeId) ∧
      ∃ i, (smallDesk.runs resurfacing).load "r1" = .ok i ∧
        TaskList.isDecided i.state i.decision = true ∧
        ¬ (i.step = .decisionAndNextSteps ∧ i.statuses.status .decisionAndNextSteps = .done) := by
  have named : ∀ a ∈ resurfacing, smallDesk.NamedAt a.request.intakeId :=
    fun a _ => wellNamed_smallDesk a.request.intakeId
  obtain ⟨i, loaded, shown_iff, stands_iff⟩ :=
    decision_stands_iff load_smallDesk resurfacing named
  have ops : smallDesk.operations "r1" resurfacing =
      [.rejectIntake "Too early" "Come back" .notRecommended, .reopenRequest none,
        .progressToNewStep .grtMeeting none none none, .closeRequest none] := by
    decide +kernel
  rw [ops] at shown_iff stands_iff
  have closed : ((smallDesk.runs resurfacing).load "r1").toOption.any (·.state == .closed) =
      true := by
    decide +kernel
  rw [loaded] at closed
  refine ⟨load_smallDesk, named, i, loaded, ?_, ?_⟩
  · exact shown_iff.2 ⟨beq_iff_eq.1 closed, .notApproved, rfl, rfl⟩
  · rw [stands_iff]
    exact nofun

def resurfacedDesk : Store :=
  ((reopenedDesk.runAction noon.date noon toMeeting).2.runAction noon.date noon closing).2

theorem reached_resurfacedDesk : Reached "r1" resurfacedDesk :=
  .acted (.acted reached_reopenedDesk noon.date noon toMeeting (by decide +kernel)) noon.date noon
    closing (by decide +kernel)

/-- A request that was moved on after its rejection is shown as rejected when it is closed. -/
theorem rejection_resurfaces :
    ¬ ∀ id s, Reached id s → ∀ i, s.load id = .ok i →
      i.state = .closed → i.decision.isTerminal = true →
      i.step = .decisionAndNextSteps ∧ i.statuses.status .decisionAndNextSteps = .done := by
  intro claim
  have seen : (resurfacedDesk.load "r1").toOption.any (fun i =>
      i.state = .closed ∧ i.decision.isTerminal = true ∧ i.step = .grtMeeting) = true := by
    decide +kernel
  obtain ⟨i, loaded, found⟩ := exists_load_of_any seen
  obtain ⟨closed, final, meeting⟩ := of_decide_eq_true found
  obtain ⟨last, -⟩ := claim "r1" resurfacedDesk reached_resurfacedDesk i loaded closed final
  exact nomatch meeting.symm.trans last

end Store

end GovernanceDesk

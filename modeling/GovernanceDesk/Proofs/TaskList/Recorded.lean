import GovernanceDesk.Proofs.Form.Checked
import GovernanceDesk.Proofs.Store.Running

/-!
# How the statuses on record change

The actions write the stages of a request in three ways only: they start a stage, make the decision,
or move the request to a step before it. What none of these takes away holds of every request that
was only ever acted on.

* `StageTable.Change`: the three ways.
* `Store.Completed.statuses_changed`: a completed action is at most two changes.
* `Store.Reached.statuses_invariant`: what every change keeps.
-/

namespace GovernanceDesk
set_option autoImplicit false

/-- Started and not finished. -/
def Status.isUnderWay (s : Status) : Bool :=
  !s.isTerminal && !s.isDimmed

/-- A stage is started, or started anew; the decision is made; or the request is moved. -/
inductive StageTable.Change (table : StageTable) : StageTable → Prop where
  | kept : Change table table
  | started (stage : Stage) (status : Status) (underWay : status.isUnderWay = true) :
    Change table (table.set stage status)
  | decided : Change table (table.set .decisionAndNextSteps .done)
  | moved (current : Stage) (newStep : Step) (before : newStep ≠ .decisionAndNextSteps) :
    Change table (table.afterMove current newStep.stage)

/-! ## Operations -/

namespace Intake

variable {i j : Intake} {today : Date} {now : Instant}
  {issue : LcidDecision → Except Failure LcidRecord} {op : Operation}

theorem Affected.statuses_changed (h : Affected i today now issue op j)
    (target : ∀ newStep date feedback recommendations,
      op = .progressToNewStep newStep date feedback recommendations →
        newStep ≠ .decisionAndNextSteps) : i.statuses.Change j.statuses := by
  cases h with
  | editsRequested form => exact .started form.stage .editsRequested rfl
  | moved newStep date feedback recommendations =>
    obtain ⟨_, _, _, same⟩ := exists_moved_eq i newStep date feedback recommendations now
    rw [same]
    exact .moved i.step.stage newStep (target _ _ _ _ rfl)
  | issued | confirmed | rejected | declared => exact .decided
  | _ => exact .kept

/-- A form that is handed in is still under way. -/
theorem statuses_withoutEditsRequest (i : Intake) (now : Instant) :
    i.statuses.Change (i.withoutEditsRequest now).statuses := by
  rw [withoutEditsRequest]
  split
  · exact .started _ .submitted rfl
  · exact .kept

end Intake

/-! ## Runs -/

namespace Store

variable {s : Store} {today : Date} {now : Instant} {r : ActionRequest}

theorem Applied.statuses_changed {kind : ActionKind} {m : Mutation} {i j k : Intake}
    (h : Applied s today now kind m i j k)
    (target : ∀ newStep date feedback recommendations,
      m.operation = .progressToNewStep newStep date feedback recommendations →
        newStep ≠ .decisionAndNextSteps) :
    i.statuses.Change j.statuses ∧ j.statuses.Change k.statuses := by
  refine ⟨h.affected.statuses_changed target, ?_⟩
  rw [h.stored, Intake.recorded_statuses]
  split
  · exact .kept
  · exact Intake.statuses_withoutEditsRequest j now

/-- No form sends a request straight to the decision. -/
theorem Sent.newStep_ne {ctx : ActionContext} {f : ActionForm} {m : Mutation}
    (h : Sent s today r ctx f m) {newStep : Step} {date : Option Date}
    {feedback recommendations : Option String}
    (moves : m.operation = .progressToNewStep newStep date feedback recommendations) :
    newStep ≠ .decisionAndNextSteps := by
  obtain ⟨told, built⟩ := h.built
  have kind : r.kind = .progressToNewStep := by
    rw [← (ActionKind.built_of_buildMutation built).action, moves]
    rfl
  obtain ⟨-, -, read⟩ := ActionKind.buildMutation_cases built
  have fine := h.fine
  rw [kind] at read fine
  rw [moves] at read
  exact ActionKind.newStep_of_problems_eq_empty fine (ActionKind.newStep?_of_readMove read)

theorem Completed.statuses_changed {m : Mutation} {i j k : Intake} {s' : Store}
    (h : Completed s today now r m i j k s') :
    i.statuses.Change j.statuses ∧ j.statuses.Change k.statuses := by
  obtain ⟨ctx, f, -, sent⟩ := h.sent
  exact h.applied.statuses_changed fun _ _ _ _ moves => sent.newStep_ne moves

/-- What holds of the statuses of a request as it starts, and is kept by every change, holds of them
whatever actions were completed on it. -/
theorem Reached.statuses_invariant {id : String} {P : StageTable → Prop}
    (opened : ∀ name requester start, P (Intake.opened id name requester start).statuses)
    (change : ∀ {table table' : StageTable}, table.Change table' → P table → P table')
    (h : Reached id s) {i : Intake} (loaded : s.load id = .ok i) : P i.statuses := by
  refine h.invariant (P := fun i => P i.statuses) opened ?_ loaded
  intro _ _ _ _ _ _ _ _ _ run before
  obtain ⟨first, second⟩ := run.statuses_changed
  exact change second (change first before)

end Store

end GovernanceDesk

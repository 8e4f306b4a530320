import GovernanceDesk.Proofs.Store.Running

/-!
# Requests for edits that are open

Any completed action but another request for edits takes back the first form that has edits
requested. Edits can be requested for several forms, one after the other; a move to a step drops all
of these requests, any other action only the first.

* `Store.openEdits_after_run`: the open requests for edits after an action.
* `Store.noEditsRequested_after_run_iff`: when none is left.
-/

namespace GovernanceDesk
set_option autoImplicit false

namespace Store

variable {s : Store} {today : Date} {now : Instant} {r : ActionRequest}

theorem keepsEditsRequest_iff (op : Operation) :
    op.keepsEditsRequest = true ↔ op.action = .requestEdits := by
  cases op <;> simp [Operation.keepsEditsRequest, Operation.action]

theorem Applied.openEdits_eq {kind : ActionKind} {m : Mutation} {i j k : Intake}
    (h : Applied s today now kind m i j k) (other : m.operation.action ≠ .requestEdits) :
    k.openEdits =
      if m.operation.action = .progressToNewStep then [] else i.openEdits.tail := by
  have drops : m.operation.keepsEditsRequest = false := by
    rw [← Bool.not_eq_true, keepsEditsRequest_iff]
    exact other
  have stored := h.stored
  rw [drops, if_neg Bool.false_ne_true] at stored
  have same : k.openEdits = (j.withoutEditsRequest now).openEdits :=
    Intake.openEdits_congr fun s _ => by rw [stored, Intake.recorded_statuses]
  rw [same, Intake.openEdits_withoutEditsRequest, h.affected.openEdits_eq drops]
  split <;> rfl

/-- What a completed action other than a request for edits leaves of the open ones. -/
theorem openEdits_after_run (hs : s.WellNamed) (other : r.kind ≠ .requestEdits)
    (done : s.completes today now r = true) :
    ∃ i k, s.load r.intakeId = .ok i ∧ (s.runAction today now r).2.load r.intakeId = .ok k ∧
      k.openEdits = if r.kind = .progressToNewStep then [] else i.openEdits.tail := by
  obtain ⟨m, i, j, k, run⟩ := completed_of_completes hs done
  have after := run.saved.load_self
  rw [run.id] at after
  have opens := run.applied.openEdits_eq (run.action ▸ other)
  rw [run.action] at opens
  exact ⟨i, k, run.loaded, after, opens⟩

/-- No form has edits requested after such an action exactly when it is a move to a step or at most
one form had them requested before. -/
theorem noEditsRequested_after_run_iff (hs : s.WellNamed) (other : r.kind ≠ .requestEdits)
    (done : s.completes today now r = true) :
    ∃ i k, s.load r.intakeId = .ok i ∧ (s.runAction today now r).2.load r.intakeId = .ok k ∧
      (k.editsRequested? = none ↔ r.kind = .progressToNewStep ∨ i.openEdits.length ≤ 1) := by
  obtain ⟨i, k, before, after, opens⟩ := openEdits_after_run hs other done
  refine ⟨i, k, before, after, ?_⟩
  rw [Intake.editsRequested?_eq_head?, List.head?_eq_none_iff, opens]
  by_cases moves : r.kind = .progressToNewStep
  · simp [moves]
  · rw [if_neg moves, or_iff_right moves, ← List.length_eq_zero_iff, List.length_tail,
      Nat.sub_eq_zero_iff_le]

/-! ## Closing a request with two forms under edit -/

def twiceEdited : Store :=
  ((smallDesk.runAction noon.date noon (editsOf "INTAKE_REQUEST")).2.runAction noon.date noon
    (editsOf "DRAFT_BUSINESS_CASE")).2

def closing : ActionRequest := ⟨"r1", .closeRequest, ∅, none, .complete, true⟩

theorem reached_twiceEdited : Reached "r1" twiceEdited :=
  .acted (.acted reached_smallDesk noon.date noon (editsOf "INTAKE_REQUEST") (by decide +kernel))
    noon.date noon (editsOf "DRAFT_BUSINESS_CASE") (by decide +kernel)

theorem completes_closing : twiceEdited.completes noon.date noon closing = true := by
  decide +kernel

theorem noEditsRequested_after_closing_iff :
    twiceEdited.WellNamed ∧ closing.kind ≠ .requestEdits ∧
      twiceEdited.completes noon.date noon closing = true ∧
      ∃ i k, twiceEdited.load "r1" = .ok i ∧
        (twiceEdited.runAction noon.date noon closing).2.load "r1" = .ok k ∧
        (k.editsRequested? = none ↔ i.openEdits.length ≤ 1) := by
  have other : closing.kind ≠ .requestEdits := by decide
  have named := reached_twiceEdited.wellNamed
  obtain ⟨i, k, before, after, none_iff⟩ :=
    noEditsRequested_after_run_iff named other completes_closing
  exact ⟨named, other, completes_closing, i, k, before, after,
    none_iff.trans (or_iff_right (by decide))⟩

/-- The second of two requests for edits outlives the action that is to drop them. -/
theorem editsRequested_survives_closing :
    ¬ ∀ id s, Reached id s → ∀ today now (r : ActionRequest), r.intakeId = id →
      r.kind ≠ .requestEdits → s.completes today now r = true →
      ∀ k, (s.runAction today now r).2.load id = .ok k → k.editsRequested? = none := by
  intro claim
  have kept : ((twiceEdited.runAction noon.date noon closing).2.load "r1").toOption.bind
      Intake.editsRequested? = some .draftBusinessCase := by
    decide +kernel
  cases after : (twiceEdited.runAction noon.date noon closing).2.load "r1" with
  | error e =>
    rw [after] at kept
    exact nomatch kept
  | ok k =>
    have none := claim "r1" twiceEdited reached_twiceEdited noon.date noon closing rfl (by decide)
      completes_closing k after
    rw [after] at kept
    exact nomatch none.symm.trans kept

end Store

end GovernanceDesk

import GovernanceDesk.Proofs.Action.Accepted
import GovernanceDesk.Proofs.Form.Filled

/-!
# Forms that go through

Filling in an open form never fails on a field it has, and a form without problems that is pressed,
and confirmed if it asks, always sends a mutation.

* `ActionForm.exists_fill`: a request that names fields of its action can be filled in.
* `ActionForm.press_of_problems`, `ActionForm.exists_press`, `ActionForm.exists_press_unconfirmed`:
  what pressing the form leads to.
-/

namespace GovernanceDesk
set_option autoImplicit false

namespace ActionForm

variable {f f' : ActionForm} {r : ActionRequest} {ctx : ActionContext}

theorem expect_of_phase {phase : Phase} (h : f.phase = phase) : f.expect phase = .ok () :=
  if_pos h

/-! ## Filling in -/

/-- Entering values leaves a form open, on the same life cycle IDs. -/
structure StaysOpen (f f' : ActionForm) : Prop where
  editing : f'.phase = .editing
  kind : f'.kind = f.kind
  existingLcids : f'.existingLcids = f.existingLcids

theorem exists_setValue (editing : f.phase = .editing) {name : String} (value : FieldValue)
    (known : (f.kind.field? name).isSome = true) :
    ∃ f', f.setValue name value = .ok f' ∧ StaysOpen f f' := by
  have goes : ∃ f', f.setValue name value = .ok f' := by
    rw [setValue, expect_of_phase editing]
    simp only [bind, Except.bind, Option.isNone_eq_false_iff.2 known, Bool.false_eq_true, if_false,
      pure, Except.pure]
    split
    · exact ⟨_, rfl⟩
    · exact ⟨_, rfl⟩
  obtain ⟨f', entered⟩ := goes
  obtain ⟨-, values, rfl⟩ := setValue_cases entered
  exact ⟨_, entered, editing, rfl, rfl⟩

theorem exists_setValues (values : List (String × FieldValue)) (editing : f.phase = .editing)
    (known : ∀ e ∈ values, (f.kind.field? e.1).isSome = true) :
    ∃ f', f.setValues values = .ok f' ∧ StaysOpen f f' := by
  induction values generalizing f with
  | nil => exact ⟨f, rfl, editing, rfl, rfl⟩
  | cons e values ih =>
    obtain ⟨next, first, opened⟩ :=
      exists_setValue editing e.2 (known e (List.mem_cons_self ..))
    obtain ⟨f', rest, opened'⟩ := ih opened.editing fun e' mem => by
      rw [opened.kind]
      exact known e' (List.mem_cons_of_mem _ mem)
    refine ⟨f', ?_, opened'.editing, opened'.kind.trans opened.kind,
      opened'.existingLcids.trans opened.existingLcids⟩
    rw [setValues, List.foldlM_cons, first]
    exact rest

theorem exists_fill (editing : f.phase = .editing)
    (known : ∀ e ∈ r.values.entries, (f.kind.field? e.1).isSome = true) :
    ∃ f', f.fill r = .ok f' ∧ StaysOpen f f' := by
  obtain ⟨filled, entered, opened⟩ := exists_setValues r.orderedValues editing
    fun e mem => known e (mem_orderedValues.1 mem)
  rw [fill, entered]
  cases r.recipients with
  | none => exact ⟨filled, rfl, opened⟩
  | some recipients =>
    refine ⟨{ filled with recipients := recipients }, ?_, opened.editing, opened.kind,
      opened.existingLcids⟩
    change filled.setRecipients recipients = _
    rw [setRecipients, expect_of_phase opened.editing]
    rfl

/-! ## Pressing -/

theorem settle_of_problems (wrong : f.problems f.emailSuppressed ≠ ∅) :
    (f.settle ctx).2 = .invalid (f.problems f.emailSuppressed) := by
  have refused : (f.problems f.emailSuppressed).isEmpty = false :=
    Bool.eq_false_iff.2 fun empty => wrong (NameMap.isEmpty_iff.1 empty)
  rw [settle]
  simp only [refused, Bool.not_false, if_true]

theorem beginSubmit_of_built {m : Mutation}
    (built : f.kind.buildMutation f.values ctx f.notified = .ok m) :
    f.beginSubmit ctx = ({ f with phase := .submitting }, .dispatch m) := by
  rw [beginSubmit, built]

/-- A form without problems asks its question, or sends its mutation. -/
theorem settle_of_no_problems (fine : f.problems f.emailSuppressed = ∅) {m : Mutation}
    (built : f.kind.buildMutation f.values ctx f.notified = .ok m) :
    f.kind.confirmation? ctx = none ∧
        f.settle ctx = ({ f with errors := ∅, phase := .submitting }, .dispatch m) ∨
      ∃ question, f.kind.confirmation? ctx = some question ∧
        f.settle ctx = ({ f with errors := ∅, phase := .confirming, confirmationOpen := true },
          .needsConfirmation question) := by
  rw [settle]
  simp only [NameMap.isEmpty_iff.2 fine, Bool.not_true, Bool.false_eq_true, if_false]
  split
  next question asks => exact .inr ⟨question, asks, rfl⟩
  next quiet => exact .inl ⟨quiet, beginSubmit_of_built built⟩

theorem submit_eq (editing : f.phase = .editing) (button : Button) :
    f.submit button ctx = .ok ((f.pressing button).settle ctx) := by
  rw [submit, expect_of_phase editing]
  rfl

theorem press_of_problems (ctx : ActionContext) (editing : f.phase = .editing)
    (wrong : f.problems r.button.suppressesEmail ≠ ∅) :
    ∃ f', f.press r ctx = .ok (f', .invalid (f.problems r.button.suppressesEmail)) := by
  have refused : ((f.pressing r.button).settle ctx).2 =
      .invalid (f.problems r.button.suppressesEmail) :=
    settle_of_problems (f := f.pressing r.button) wrong
  rw [press, submit_eq editing]
  generalize (f.pressing r.button).settle ctx = settled at refused
  obtain ⟨f', o⟩ := settled
  cases refused
  exact ⟨f', rfl⟩

/-- A form without problems, pressed and confirmed, waits for the answer to what it has sent. -/
theorem exists_press (ctx : ActionContext) (editing : f.phase = .editing)
    (confirmed : r.confirmed = true) (fine : f.problems r.button.suppressesEmail = ∅) :
    ∃ f' m told, f.press r ctx = .ok (f', .dispatch m) ∧ f'.phase = .submitting ∧
      f.kind.buildMutation f.values ctx told = .ok m := by
  have checked := (checks_of_problems_eq_empty fine).1
  obtain ⟨m, built⟩ := ActionKind.exists_buildMutation checked ctx (f.pressing r.button).notified
  rw [press, submit_eq editing]
  rcases settle_of_no_problems (f := f.pressing r.button) fine built with
    ⟨-, sent⟩ | ⟨question, -, asked⟩
  · rw [sent]
    exact ⟨_, m, _, rfl, rfl, built⟩
  · refine ⟨{ f.pressing r.button with
      errors := ∅, phase := .submitting, confirmationOpen := false }, m, _, ?_, rfl, built⟩
    rw [asked]
    change (if r.confirmed then _ else _) = _
    rw [if_pos confirmed, confirm, expect_of_phase rfl]
    exact congrArg Except.ok (beginSubmit_of_built built)

/-- A form without problems, pressed and not confirmed, stops at its question if it has one. -/
theorem exists_press_unconfirmed (ctx : ActionContext) (editing : f.phase = .editing)
    (unconfirmed : r.confirmed = false) (fine : f.problems r.button.suppressesEmail = ∅) :
    (∃ f' question, f.kind.confirmation? ctx = some question ∧
      f.press r ctx = .ok (f', .needsConfirmation question)) ∨
    ∃ f' m, f.kind.confirmation? ctx = none ∧ f.press r ctx = .ok (f', .dispatch m) ∧
      f'.phase = .submitting := by
  have checked := (checks_of_problems_eq_empty fine).1
  obtain ⟨m, built⟩ := ActionKind.exists_buildMutation checked ctx (f.pressing r.button).notified
  rw [press, submit_eq editing]
  rcases settle_of_no_problems (f := f.pressing r.button) fine built with
    ⟨quiet, sent⟩ | ⟨question, asks, asked⟩
  · rw [sent]
    exact .inr ⟨_, m, quiet, rfl, rfl⟩
  · refine .inl ⟨{ f.pressing r.button with
      errors := ∅, phase := .confirming, confirmationOpen := true }, question, asks, ?_⟩
    rw [asked]
    change (if r.confirmed then _ else _) = _
    rw [unconfirmed]
    rfl

end ActionForm

end GovernanceDesk

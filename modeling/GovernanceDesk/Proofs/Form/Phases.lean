import GovernanceDesk.Proofs.Form.InPlace

/-!
# The phases of a form

What a form shows goes by its phase: a question is open while it waits to be confirmed, messages
stand beside the fields while it is edited, an error over the form says that it failed, and only a
form that is done leads on. Whatever is called on a form in whatever order, it stays so; and a form
that is done or has failed takes no call any more.

* `ActionForm.Coherent`: what a form shows in each phase.
* `ActionForm.Coherent.performed`: every operation keeps it so.
* `FormCall.Orderly`: what one call on a form leaves alone.
* `FormCall.coherent_orderly_runAll`: both, after any calls on a new form.
-/

namespace GovernanceDesk
set_option autoImplicit false

namespace ActionForm

variable {f f' : ActionForm} {op : FormOp} {o : Option SubmitOutcome}

/-! ## What a form shows -/

structure Coherent (f : ActionForm) : Prop where
  settled : f.phase ≠ .validating
  asking : f.confirmationOpen = true ↔ f.phase = .confirming
  editing_of_errors : f.errors ≠ ∅ → f.phase = .editing
  without_rootError :
    f.phase = .confirming ∨ f.phase = .submitting ∨ f.phase = .done → f.rootError = none
  with_rootError : f.phase = .failed → f.rootError.isSome = true
  redirected : f.redirect.isSome = true ↔ f.phase = .done
  succeeded : (∃ text, f.flash = some ⟨true, text⟩) ↔ f.phase = .done

/-- Nothing that only a form that is done shows. -/
structure Unresolved (f : ActionForm) : Prop where
  redirect : f.redirect = none
  flash : ∀ text, f.flash ≠ some ⟨true, text⟩

namespace Coherent

theorem unresolved (h : Coherent f) (going : f.phase ≠ .done) : Unresolved f where
  redirect := by
    rw [← Option.not_isSome_iff_eq_none, h.redirected]
    exact going
  flash text shown := going (h.succeeded.1 ⟨text, shown⟩)

theorem confirmationOpen_eq_false (h : Coherent f) (other : f.phase ≠ .confirming) :
    f.confirmationOpen = false := by
  rw [← Bool.not_eq_true, h.asking]
  exact other

theorem errors_eq_empty (h : Coherent f) (other : f.phase ≠ .editing) : f.errors = ∅ := by
  by_cases empty : f.errors = ∅
  · exact empty
  · exact absurd (h.editing_of_errors empty) other

end Coherent

theorem coherent_fresh (kind : ActionKind) (intakeId : String) :
    Coherent (fresh kind intakeId) where
  settled := nofun
  asking := iff_of_false nofun nofun
  editing_of_errors filled := absurd rfl filled
  without_rootError _ := rfl
  with_rootError := nofun
  redirected := iff_of_false nofun nofun
  succeeded := iff_of_false nofun nofun

/-! ## Coming into a phase -/

namespace Unresolved

variable (h : Unresolved f)
include h

theorem not_redirected : ¬ f.redirect.isSome = true := by
  rw [h.redirect]
  exact nofun

theorem not_succeeded : ¬ ∃ text, f.flash = some ⟨true, text⟩ := fun ⟨text, shown⟩ =>
  h.flash text shown

theorem coherent_editing (phase : f.phase = .editing) (closed : f.confirmationOpen = false) :
    Coherent f where
  settled := by simp [phase]
  asking := by simp [phase, closed]
  editing_of_errors _ := phase
  without_rootError := by simp [phase]
  with_rootError := by simp [phase]
  redirected := iff_of_false h.not_redirected (by simp [phase])
  succeeded := iff_of_false h.not_succeeded (by simp [phase])

theorem coherent_confirming (phase : f.phase = .confirming) (opened : f.confirmationOpen = true)
    (errors : f.errors = ∅) (rootError : f.rootError = none) : Coherent f where
  settled := by simp [phase]
  asking := by simp [phase, opened]
  editing_of_errors filled := absurd errors filled
  without_rootError _ := rootError
  with_rootError := by simp [phase]
  redirected := iff_of_false h.not_redirected (by simp [phase])
  succeeded := iff_of_false h.not_succeeded (by simp [phase])

theorem coherent_submitting (phase : f.phase = .submitting) (closed : f.confirmationOpen = false)
    (errors : f.errors = ∅) (rootError : f.rootError = none) : Coherent f where
  settled := by simp [phase]
  asking := by simp [phase, closed]
  editing_of_errors filled := absurd errors filled
  without_rootError _ := rootError
  with_rootError := by simp [phase]
  redirected := iff_of_false h.not_redirected (by simp [phase])
  succeeded := iff_of_false h.not_succeeded (by simp [phase])

theorem coherent_failed (phase : f.phase = .failed) (closed : f.confirmationOpen = false)
    (errors : f.errors = ∅) (rootError : f.rootError.isSome = true) : Coherent f where
  settled := by simp [phase]
  asking := by simp [phase, closed]
  editing_of_errors filled := absurd errors filled
  without_rootError := by simp [phase]
  with_rootError _ := rootError
  redirected := iff_of_false h.not_redirected (by simp [phase])
  succeeded := iff_of_false h.not_succeeded (by simp [phase])

end Unresolved

/-! ## Operations -/

namespace Coherent

theorem opened {loaded : Except Failure ActionContext} (h : Coherent f)
    (loading : f.phase = .loadingDefaults) (opened : Opened f loaded f') : Coherent f' := by
  have going : Unresolved f := h.unresolved (by simp [loading])
  have closed : f.confirmationOpen = false := h.confirmationOpen_eq_false (by simp [loading])
  cases opened with
  | failed e =>
    have errors : f.errors = ∅ := h.errors_eq_empty (by simp [loading])
    exact Unresolved.coherent_failed ⟨going.redirect, going.flash⟩ rfl closed errors rfl
  | ready ctx => exact Unresolved.coherent_editing ⟨going.redirect, going.flash⟩ rfl closed

/-- Sending leads on from a form on which everything is cleared. -/
theorem of_begun {ctx : ActionContext} {outcome : SubmitOutcome} (begun : Begun f ctx f' outcome)
    (going : Unresolved f) (closed : f.confirmationOpen = false) (errors : f.errors = ∅)
    (rootError : f.rootError = none) : Coherent f' := by
  cases begun with
  | sent m _ =>
    exact Unresolved.coherent_submitting ⟨going.redirect, going.flash⟩ rfl closed errors rootError
  | unbuilt messages => exact Unresolved.coherent_editing ⟨going.redirect, going.flash⟩ rfl closed

theorem pressed {button : Button} {ctx : ActionContext} {outcome : SubmitOutcome} (h : Coherent f)
    (editing : f.phase = .editing) (settled : Settled (f.pressing button) ctx f' outcome) :
    Coherent f' := by
  have going : Unresolved f := h.unresolved (by simp [editing])
  have closed : f.confirmationOpen = false := h.confirmationOpen_eq_false (by simp [editing])
  cases settled with
  | refused messages => exact Unresolved.coherent_editing ⟨going.redirect, going.flash⟩ rfl closed
  | asked question _ _ =>
    exact Unresolved.coherent_confirming ⟨going.redirect, going.flash⟩ rfl rfl rfl rfl
  | begun _ _ _ _ rest => exact of_begun rest ⟨going.redirect, going.flash⟩ closed rfl rfl

theorem answered (h : Coherent f) (submitting : f.phase = .submitting)
    (answer : Except SubmitError Outcome) : Coherent (f.answered answer) := by
  have going : Unresolved f := h.unresolved (by simp [submitting])
  have errors : f.errors = ∅ := h.errors_eq_empty (by simp [submitting])
  rcases answer with (detail | detail) | outcome
  · exact Unresolved.coherent_editing ⟨going.redirect, going.flash⟩ rfl rfl
  · have refused : ∀ text, some (Flash.mk false detail) ≠ some ⟨true, text⟩ := by simp
    exact Unresolved.coherent_failed ⟨going.redirect, refused⟩ rfl rfl errors rfl
  · exact {
      settled := nofun
      asking := by
        have closed : f.confirmationOpen = false :=
          h.confirmationOpen_eq_false (by simp [submitting])
        exact iff_of_false (by simp [ActionForm.answered, closed]) nofun
      editing_of_errors := fun filled => absurd errors filled
      without_rootError := fun _ => h.without_rootError (.inr (.inl submitting))
      with_rootError := nofun
      redirected := iff_of_true rfl rfl
      succeeded := iff_of_true ⟨_, rfl⟩ rfl }

theorem performed (h : Coherent f) (p : Performed f op f' o) : Coherent f' := by
  cases p with
  | hydrated loading opened => exact h.opened loading opened
  | entered values editing =>
    have going : Unresolved f := h.unresolved (by simp [editing])
    have closed : f.confirmationOpen = false := h.confirmationOpen_eq_false (by simp [editing])
    exact Unresolved.coherent_editing ⟨going.redirect, going.flash⟩ editing closed
  | addressed editing =>
    have going : Unresolved f := h.unresolved (by simp [editing])
    have closed : f.confirmationOpen = false := h.confirmationOpen_eq_false (by simp [editing])
    exact Unresolved.coherent_editing ⟨going.redirect, going.flash⟩ editing closed
  | pressed editing settled => exact h.pressed editing settled
  | confirmed confirming rest =>
    have going : Unresolved f := h.unresolved (by simp [confirming])
    have errors : f.errors = ∅ := h.errors_eq_empty (by simp [confirming])
    have rootError : f.rootError = none := h.without_rootError (.inl confirming)
    exact of_begun rest ⟨going.redirect, going.flash⟩ rfl errors rootError
  | cancelled confirming =>
    have going : Unresolved f := h.unresolved (by simp [confirming])
    exact Unresolved.coherent_editing ⟨going.redirect, going.flash⟩ rfl rfl
  | answered submitting => exact h.answered submitting _

end Coherent

/-- What is entered changes while the form is edited, and when it is opened. -/
theorem Performed.editing_of_entries (p : Performed f op f' o)
    (changed : f'.values ≠ f.values ∨ f'.recipients ≠ f.recipients) :
    f.phase = .editing ∨ ∃ loaded, op = .hydrate loaded := by
  have unchanged : ∀ g : ActionForm, SameEntries f g →
      ¬ (g.values ≠ f.values ∨ g.recipients ≠ f.recipients) := by
    rintro g same (other | other)
    · exact other same.values
    · exact other same.recipients
  cases p with
  | hydrated => exact .inr ⟨_, rfl⟩
  | entered _ editing => exact .inl editing
  | addressed editing => exact .inl editing
  | pressed editing => exact .inl editing
  | confirmed _ begun =>
    obtain ⟨kind, intakeId, values, recipients, existingLcids⟩ := begun.sameEntries
    exact absurd changed (unchanged _ ⟨kind, intakeId, values, recipients, existingLcids⟩)
  | cancelled => exact absurd changed (unchanged _ ⟨rfl, rfl, rfl, rfl, rfl⟩)
  | answered => exact absurd changed (unchanged _ (sameEntries_answered f _))

/-- A form that is done or has failed takes no operation. -/
theorem Performed.phase_ne (p : Performed f op f' o) : f.phase ≠ .done ∧ f.phase ≠ .failed := by
  cases p with
  | hydrated phase | entered _ phase | addressed phase | pressed phase | confirmed phase
  | cancelled phase | answered phase => simp [phase]

end ActionForm

/-! ## Calls -/

namespace FormCall

variable {σ : Type} {held : ActionForm × σ}

/-- A call that is taken is an operation that is performed; to send is to take the client's
answer. -/
theorem performed_of_run {c : FormCall σ} {o : Option SubmitOutcome}
    (taken : (c.run held).1 = .ok o) :
    ∃ op, held.1.Performed op (c.run held).2.1 o ∧
      (c = own op ∨ ∃ answer, op = .resolve answer) := by
  cases c with
  | own op =>
    rw [run_own] at taken ⊢
    cases answer : held.1.perform op with
    | error e =>
      rw [answer] at taken
      cases taken
    | ok r =>
      rw [answer] at taken
      cases taken
      exact ⟨op, ActionForm.performed answer, .inl rfl⟩
  | send client m =>
    rw [run_send, ActionForm.dispatchWith] at taken ⊢
    cases waiting : held.1.expectSubmitting with
    | error e =>
      rw [waiting] at taken
      cases taken
    | ok _ =>
      rw [waiting] at taken
      cases taken
      have resolved : held.1.perform (.resolve (client m held.2).1) =
          .ok (held.1.answered (client m held.2).1, none) := by
        rw [ActionForm.perform, ActionForm.resolve, waiting]
        rfl
      exact ⟨_, ActionForm.performed resolved, .inr ⟨_, rfl⟩⟩

/-- A call that is refused leaves the form and the state of the client as they were. -/
theorem left_of_refused {c : FormCall σ} {e : Failure} (refused : (c.run held).1 = .error e) :
    (c.run held).2 = held := by
  cases c with
  | own op =>
    rw [run_own] at refused ⊢
    cases answer : held.1.perform op with
    | error e => rfl
    | ok r =>
      rw [answer] at refused
      exact nomatch refused
  | send client m =>
    rw [run_send] at refused ⊢
    cases answer : held.1.dispatchWith client m held.2 with
    | error e => rfl
    | ok left =>
      rw [answer] at refused
      exact nomatch refused

/-- A form that waits for no answer refuses to send whatever the client would do. -/
theorem run_send_of_phase_ne (idle : held.1.phase ≠ .submitting)
    (client : Mutation → σ → Except SubmitError Outcome × σ) (m : Mutation) :
    (send client m).run held =
      (.error (.wrongPhase Phase.submitting.name held.1.phase.name), held) := by
  rw [run_send, ActionForm.dispatchWith, ActionForm.expectSubmitting, if_neg idle]
  rfl

theorem coherent_run (h : held.1.Coherent) (c : FormCall σ) : (c.run held).2.1.Coherent := by
  cases answer : (c.run held).1 with
  | error e =>
    rw [left_of_refused answer]
    exact h
  | ok o =>
    obtain ⟨op, performed, -⟩ := performed_of_run answer
    exact h.performed performed

theorem coherent_runAll (h : held.1.Coherent) (calls : List (FormCall σ)) :
    (runAll calls held).1.Coherent := by
  induction calls generalizing held with
  | nil => exact h
  | cons c calls ih => exact ih (coherent_run h c)

/-- What one call on a form leaves alone. A client may do anything to its own state, such as
counting the times it is asked; where its state is left alone whatever it does, it is not asked. -/
structure Orderly (held : ActionForm × σ) (c : FormCall σ) : Prop where
  ended : held.1.phase = .done ∨ held.1.phase = .failed → ∃ e, (c.run held).1 = .error e
  refused : ∀ e, (c.run held).1 = .error e → (c.run held).2 = held
  unasked : held.1.phase ≠ .submitting → ∀ client m, c = send client m →
    c.run held = (.error (.wrongPhase Phase.submitting.name held.1.phase.name), held)
  entries : (c.run held).2.1.values ≠ held.1.values ∨
      (c.run held).2.1.recipients ≠ held.1.recipients →
    held.1.phase = .editing ∨ ∃ loaded, c = own (.hydrate loaded)

theorem orderly (held : ActionForm × σ) (c : FormCall σ) : Orderly held c where
  ended finished := by
    cases answer : (c.run held).1 with
    | error e => exact ⟨e, rfl⟩
    | ok o =>
      obtain ⟨op, performed, -⟩ := performed_of_run answer
      exact absurd finished (not_or.2 performed.phase_ne)
  refused e := left_of_refused
  unasked idle := by
    rintro client m rfl
    exact run_send_of_phase_ne idle client m
  entries changed := by
    cases answer : (c.run held).1 with
    | error e =>
      rw [left_of_refused answer] at changed
      rcases changed with other | other <;> exact absurd rfl other
    | ok o =>
      obtain ⟨op, performed, same⟩ := performed_of_run answer
      rcases performed.editing_of_entries changed with editing | ⟨loaded, rfl⟩
      · exact .inl editing
      · rcases same with rfl | ⟨answer, other⟩
        · exact .inr ⟨loaded, rfl⟩
        · exact nomatch other

/-- Whatever was called on a new form in whatever order, with whatever clients: it shows what its
phase says, and one more call leaves alone what it has to. -/
theorem coherent_orderly_runAll (kind : ActionKind) (intakeId : String) (world : σ)
    (calls : List (FormCall σ)) :
    (runAll calls (ActionForm.fresh kind intakeId, world)).1.Coherent ∧
      ∀ c : FormCall σ, Orderly (runAll calls (ActionForm.fresh kind intakeId, world)) c :=
  ⟨coherent_runAll (ActionForm.coherent_fresh kind intakeId) calls, fun c => orderly _ c⟩

end FormCall

end GovernanceDesk

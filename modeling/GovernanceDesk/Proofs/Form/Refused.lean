import GovernanceDesk.Proofs.Form.Accepted
import GovernanceDesk.Proofs.Form.Dispatch

/-!
# What a form complains about

A form is checked when its button is pressed, and read only when its mutation is sent, after the
question if there is one and on a context that may be another. The check is enough all the same:
what it lets through can be read, so that a form has nothing to complain about after its check.

* `ActionForm.exists_beginSubmit`: a checked form is sent.
* `ActionForm.submit_invalid_iff`: the complaints of a press are those of the check.
* `ActionForm.exists_confirm`: the answer to the question has no complaints.
* `ActionForm.complaints_from_check`: every complaint of every form.
-/

namespace GovernanceDesk
set_option autoImplicit false

namespace ActionForm

variable {f f' : ActionForm} {ctx : ActionContext} {button : Button} {messages : Messages}

theorem exists_beginSubmit (fine : f.kind.problems f.values = ∅) (ctx : ActionContext) :
    ∃ m, f.beginSubmit ctx = ({ f with phase := .submitting }, .dispatch m) := by
  obtain ⟨m, built⟩ := ActionKind.exists_buildMutation fine ctx f.notified
  exact ⟨m, beginSubmit_of_built built⟩

/-! ## Pressing a button -/

/-- A form that is settled without problems is asked about or sent. -/
theorem settle_ne_invalid (fine : f.problems f.emailSuppressed = ∅) (ctx : ActionContext) :
    (f.settle ctx).2 ≠ .invalid messages := by
  have checked := (checks_of_problems_eq_empty fine).1
  obtain ⟨m, built⟩ := ActionKind.exists_buildMutation checked ctx f.notified
  rcases settle_of_no_problems fine built with ⟨-, sent⟩ | ⟨question, -, asked⟩
  · rw [sent]
    exact nofun
  · rw [asked]
    exact nofun

/-- A press is answered with complaints exactly when an open form has problems under its button, and
these are the complaints. -/
theorem submit_invalid_iff :
    (∃ f', f.submit button ctx = .ok (f', .invalid messages)) ↔
      f.phase = .editing ∧ f.problems button.suppressesEmail = messages ∧ messages ≠ ∅ := by
  have complaints (wrong : f.problems button.suppressesEmail ≠ ∅) :
      ((f.pressing button).settle ctx).2 = .invalid (f.problems button.suppressesEmail) :=
    settle_of_problems (f := f.pressing button) wrong
  constructor
  · rintro ⟨f', refused⟩
    have editing := (submit_cases refused).1
    have settled : ((f.pressing button).settle ctx).2 = .invalid messages := by
      rw [submit_eq editing] at refused
      exact congrArg Prod.snd (Except.ok.inj refused)
    have wrong : f.problems button.suppressesEmail ≠ ∅ := fun fine =>
      settle_ne_invalid (f := f.pressing button) fine ctx settled
    obtain rfl := SubmitOutcome.invalid.inj ((complaints wrong).symm.trans settled)
    exact ⟨editing, rfl, wrong⟩
  · rintro ⟨editing, rfl, wrong⟩
    exact ⟨((f.pressing button).settle ctx).1, by rw [submit_eq editing, ← complaints wrong]⟩

/-! ## Answering the question -/

/-- While its question is open a form is one that passed its check, so the answer sends it, whatever
the context has become. -/
theorem exists_confirm {kind : ActionKind} {log : List FormEvent} (kept : Kept kind log f)
    {o : SubmitOutcome} (answered : f.confirm ctx = .ok (f', o)) : ∃ m, o = .dispatch m := by
  obtain ⟨confirming, -⟩ := confirm_cases answered
  have checked := (checks_of_problems_eq_empty (kept.checked confirming).1).1
  obtain ⟨m, sent⟩ :=
    exists_beginSubmit (f := { f with confirmationOpen := false }) checked ctx
  rw [confirm, expect_of_phase confirming] at answered
  have same := (Except.ok.inj answered).symm.trans sent
  exact ⟨m, congrArg Prod.snd same⟩

/-- What passes the check of its action is built into a mutation, on every request. So a press is
answered with the problems of an open form that has some, and else without complaint; and the answer
to the question, in a form with any past, always sends a mutation. -/
theorem complaints_from_check (kind : ActionKind) :
    (∀ (values : FormValues) (ctx : ActionContext) (told : Option Recipients),
      kind.problems values = ∅ → ∃ m, kind.buildMutation values ctx told = .ok m) ∧
    (∀ (f : ActionForm) (button : Button) (ctx : ActionContext) (messages : Messages),
      (∃ f', f.submit button ctx = .ok (f', .invalid messages)) ↔
        f.phase = .editing ∧ f.problems button.suppressesEmail = messages ∧ messages ≠ ∅) ∧
    (∀ (intakeId : String) (ops : List FormOp) (ctx : ActionContext) (f' : ActionForm)
      (o : SubmitOutcome), ((fresh kind intakeId).after ops).confirm ctx = .ok (f', o) →
        ∃ m, o = .dispatch m) :=
  ⟨fun _ ctx told fine => ActionKind.exists_buildMutation fine ctx told,
    fun _ _ _ _ => submit_invalid_iff,
    fun intakeId ops _ _ _ answered => exists_confirm (kept_after kind intakeId ops) answered⟩

/-- A request whose edits were requested is closed: nothing has to be entered, and the question is
answered with a mutation. -/
theorem complaints_from_check_closing :
    (∃ m, ActionKind.closeRequest.buildMutation ∅ reworkContext none = .ok m) ∧
      ∃ f' m, ((fresh .closeRequest "r1").after (closingTwice.take 2)).confirm reworkContext =
        .ok (f', .dispatch m) := by
  obtain ⟨built, -, answers⟩ := complaints_from_check .closeRequest
  have answered : (((fresh .closeRequest "r1").after (closingTwice.take 2)).confirm
      reworkContext).isOk = true := by
    decide +kernel
  refine ⟨built ∅ reworkContext none (NameMap.isEmpty_iff.1 (by decide +kernel)), ?_⟩
  cases reply : ((fresh .closeRequest "r1").after (closingTwice.take 2)).confirm reworkContext with
  | error e =>
    rw [reply] at answered
    exact nomatch answered
  | ok r =>
    obtain ⟨m, sent⟩ := answers "r1" (closingTwice.take 2) reworkContext r.1 r.2 reply
    exact ⟨r.1, m, by rw [← sent]⟩

end ActionForm

end GovernanceDesk

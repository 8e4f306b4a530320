import GovernanceDesk.Proofs.Form.AnyDay
import GovernanceDesk.Proofs.Store.Outcome

/-!
# Runs of requests that pass the check

A request to run an action is valid if its form, opened on the store and filled in, passes its
check. That does not hang on the day. A valid request is never refused for its form: it stops at the
question it raises, or its mutation is sent.

* `Store.validates`: whether a request is valid.
* `Store.Filled.anotherDay`, `Store.validates_anotherDay`: the same on every day.
* `Store.runAction_confirmed`, `Store.runAction_unconfirmed`: how the run of a valid request ends.
-/

namespace GovernanceDesk
set_option autoImplicit false

namespace Store

variable {s : Store} {today : Date} {r : ActionRequest} {f : ActionForm} {ctx : ActionContext}

/-! ## Validity -/

/-- Whether the form of a request, opened and filled in, can be sent as it is. -/
def validates (s : Store) (today : Date) (r : ActionRequest) : Bool :=
  match s.filledForm today r with
  | .ok f => f.canSubmit && (f.problems r.button.suppressesEmail).isEmpty
  | .error _ => false

theorem loadContext_anotherDay {id : String} (h : s.loadContext id today = .ok ctx) (day : Date) :
    s.loadContext id day = .ok { ctx with today := day } := by
  obtain ⟨_, loaded, rest⟩ := ok_of_bind_ok h
  obtain ⟨_, configured, rest⟩ := ok_of_bind_ok rest
  obtain ⟨_, listed, rest⟩ := ok_of_bind_ok rest
  cases rest
  rw [loadContext, loaded, configured, listed]
  rfl

/-- A form that is open after it was filled in was opened on the request as it is. -/
theorem exists_filled_of_filledForm (filled : s.filledForm today r = .ok f)
    (editing : f.phase = .editing) : ∃ ctx, Filled s today r ctx f := by
  obtain ⟨opened, hydrated, entered⟩ := ok_of_bind_ok filled
  obtain ⟨values, recipients, rfl⟩ := ActionForm.exists_fill_eq entered
  cases loaded : s.loadContext r.intakeId today with
  | error e =>
    rw [loaded] at hydrated
    cases hydrated
    exact nomatch editing
  | ok ctx =>
    rw [loaded] at hydrated
    have start := hydrated
    cases hydrated
    exact ⟨ctx, loaded, existingLcids_of_loadContext loaded, ⟨_, start, rfl, entered⟩, rfl, rfl,
      rfl⟩

theorem exists_filled_of_validates (valid : s.validates today r = true) :
    ∃ ctx f, Filled s today r ctx f ∧ f.problems r.button.suppressesEmail = ∅ := by
  rw [validates] at valid
  split at valid
  next f filled =>
    obtain ⟨editing, fine⟩ := Bool.and_eq_true_iff.1 valid
    obtain ⟨ctx, filled⟩ := exists_filled_of_filledForm filled (eq_of_beq editing)
    exact ⟨ctx, f, filled, NameMap.isEmpty_iff.1 fine⟩
  · exact nomatch valid

theorem Filled.validates (h : Filled s today r ctx f)
    (fine : f.problems r.button.suppressesEmail = ∅) : s.validates today r = true := by
  rw [Store.validates, h.filledForm_eq]
  have editing : f.canSubmit = true := beq_iff_eq.2 h.editing
  simp only [editing, NameMap.isEmpty_iff.2 fine, Bool.and_self]

/-- On another day the form of a request is the same but for a day of expiry. -/
theorem Filled.anotherDay (h : Filled s today r ctx f) (day : Date) :
    ∃ w, Filled s day r { ctx with today := day } (f.showing w) ∧ f.values.AnotherDay w := by
  obtain ⟨opened, hydrated, editing, filled⟩ := h.opened
  cases hydrated
  obtain ⟨w, filled', related⟩ :=
    ActionForm.exists_fill_anotherDay (r.kind.defaults_anotherDay ctx day) filled
  exact ⟨w, ⟨loadContext_anotherDay h.loaded day, h.listed, ⟨_, rfl, rfl, filled'⟩, h.editing,
    h.kind, h.existingLcids⟩, related⟩

theorem validates_anotherDay (valid : s.validates today r = true) (day : Date) :
    s.validates day r = true := by
  obtain ⟨ctx, f, filled, fine⟩ := exists_filled_of_validates valid
  obtain ⟨w, filled', related⟩ := filled.anotherDay day
  exact filled'.validates (ActionForm.problems_anotherDay related fine)

/-! ## Runs -/

variable {now : Instant}

/-- What is sent is answered by its outcome: it is done, or it has failed. -/
theorem exists_ofForm_of_send (s : Store) (today : Date) (now : Instant) (m : Mutation)
    (submitting : f.phase = .submitting) :
    ∃ answered, (s.send today now f m).1 = .ok (.ofForm m answered) := by
  rw [send, ActionForm.dispatchWith, ActionForm.expectSubmitting, if_pos submitting]
  exact ⟨_, rfl⟩

theorem Filled.runAction_of_needsConfirmation (h : Filled s today r ctx f)
    (unconfirmed : r.confirmed = false) {f' : ActionForm} {question : Confirmation}
    (pressed : f.press r ctx = .ok (f', .needsConfirmation question)) :
    s.runAction today now r = (.ok (.needsConfirmation question), s) := by
  obtain ⟨opened, hydrated, editing, filled⟩ := h.opened
  rw [runAction, h.loaded, hydrated]
  simp only [editing, h.pressed_eq filled, pressed, unconfirmed, reduceCtorEq, if_false,
    Bool.false_eq_true]

/-- A valid request that is confirmed is sent. -/
theorem runAction_confirmed (valid : s.validates today r = true) (confirmed : r.confirmed = true)
    (now : Instant) :
    ∃ m answered, (s.runAction today now r).1 = .ok (.ofForm m answered) := by
  obtain ⟨ctx, f, filled, fine⟩ := exists_filled_of_validates valid
  obtain ⟨f', m, told, pressed, submitting, -⟩ :=
    ActionForm.exists_press ctx filled.editing confirmed fine
  obtain ⟨answered, sent⟩ := exists_ofForm_of_send s today now m submitting
  exact ⟨m, answered, by rw [filled.runAction_of_dispatch pressed, sent]⟩

/-- A valid request that is not confirmed stops at its question, if its action has one on the
request as it is; else it is sent. -/
theorem runAction_unconfirmed (valid : s.validates today r = true) (unconfirmed : r.confirmed = false)
    (now : Instant) :
    ∃ ctx, s.loadContext r.intakeId today = .ok ctx ∧
      ((∃ question, r.kind.confirmation? ctx = some question ∧
        s.runAction today now r = (.ok (.needsConfirmation question), s)) ∨
      r.kind.confirmation? ctx = none ∧
        ∃ m answered, (s.runAction today now r).1 = .ok (.ofForm m answered)) := by
  obtain ⟨ctx, f, filled, fine⟩ := exists_filled_of_validates valid
  refine ⟨ctx, filled.loaded, ?_⟩
  rw [← filled.kind]
  obtain ⟨f', question, asks, pressed⟩ | ⟨f', m, quiet, pressed, submitting⟩ :=
    ActionForm.exists_press_unconfirmed ctx filled.editing unconfirmed fine
  · exact .inl ⟨question, asks, filled.runAction_of_needsConfirmation unconfirmed pressed⟩
  · obtain ⟨answered, sent⟩ := exists_ofForm_of_send s today now m submitting
    exact .inr ⟨quiet, m, answered, by rw [filled.runAction_of_dispatch pressed, sent]⟩

end Store

end GovernanceDesk

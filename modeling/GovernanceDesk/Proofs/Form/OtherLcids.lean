import GovernanceDesk.Proofs.Form.Filled

/-!
# Forms that do not look at life cycle IDs

Every form is opened with the life cycle IDs that are held, but only the form that issues one looks
at them. Every other form goes the same way whichever they are: its operations commute with putting
other IDs in.

* `ActionContext.knowing`, `ActionForm.knowing`: the same with other life cycle IDs.
* `ActionForm.hydrate_knowing`, `fill_knowing`, `press_knowing`, `answered_knowing`: the operations.
-/

namespace GovernanceDesk
set_option autoImplicit false

namespace ActionContext

def knowing (ctx : ActionContext) (lcids : List LcidRecord) : ActionContext :=
  { ctx with existingLcids := lcids }

end ActionContext

namespace ActionForm

variable {f : ActionForm} {r : ActionRequest} {ctx : ActionContext}

def knowing (f : ActionForm) (lcids : List LcidRecord) : ActionForm :=
  { f with existingLcids := lcids }

theorem hydrate_knowing (f : ActionForm) (ctx : ActionContext) (lcids : List LcidRecord) :
    f.hydrate (.ok (ctx.knowing lcids)) = (f.hydrate (.ok ctx)).map (·.knowing lcids) := by
  rw [hydrate, hydrate]
  cases f.expect .loadingDefaults <;> rfl

/-! ## Filling in -/

theorem setValue_knowing (other : f.kind ≠ .issueLcid) (name : String) (value : FieldValue)
    (lcids : List LcidRecord) :
    (f.knowing lcids).setValue name value = (f.setValue name value).map (·.knowing lcids) := by
  have expect : (f.knowing lcids).expect .editing = f.expect .editing := rfl
  have field : (f.knowing lcids).kind.field? name = f.kind.field? name := rfl
  rw [setValue, setValue, expect, field]
  cases f.expect .editing with
  | error e => rfl
  | ok _ =>
    dsimp only [bind, Except.bind]
    split
    · rfl
    · -- No form but the one that issues an ID copies from those that are held.
      dsimp only [pure, Except.pure]
      rw [if_neg fun selects => other selects.1, if_neg fun selects => other selects.1]
      rfl

theorem setValues_knowing (other : f.kind ≠ .issueLcid) (values : List (String × FieldValue))
    (lcids : List LcidRecord) :
    (f.knowing lcids).setValues values = (f.setValues values).map (·.knowing lcids) := by
  induction values generalizing f with
  | nil => rfl
  | cons e values ih =>
    rw [setValues, setValues, List.foldlM_cons, List.foldlM_cons, setValue_knowing other]
    cases first : f.setValue e.1 e.2 with
    | error e => rfl
    | ok next =>
      obtain ⟨-, _, rfl⟩ := setValue_cases first
      exact ih other

theorem fill_knowing (other : f.kind ≠ .issueLcid) (r : ActionRequest) (lcids : List LcidRecord) :
    (f.knowing lcids).fill r = (f.fill r).map (·.knowing lcids) := by
  rw [fill, fill, setValues_knowing other]
  cases f.setValues r.orderedValues with
  | error e => rfl
  | ok filled =>
    dsimp only [bind, Except.bind, Except.map]
    split
    next recipients _ =>
      rw [setRecipients, setRecipients]
      have expect : (filled.knowing lcids).expect .editing = filled.expect .editing := rfl
      rw [expect]
      cases filled.expect .editing <;> rfl
    · rfl

/-! ## Pressing -/

theorem namesUnknownLcid_of_ne (other : f.kind ≠ .issueLcid) : f.namesUnknownLcid = false := by
  rw [namesUnknownLcid, beq_eq_false_iff_ne.2 other]
  rfl

theorem problems_knowing (other : f.kind ≠ .issueLcid) (lcids : List LcidRecord)
    (suppressEmail : Bool) :
    (f.knowing lcids).problems suppressEmail = f.problems suppressEmail := by
  have unnamed : (f.knowing lcids).namesUnknownLcid = false := namesUnknownLcid_of_ne other
  rw [problems, problems, unnamed, namesUnknownLcid_of_ne other]
  rfl

/-- The outcome of an operation, with other life cycle IDs in the form. -/
def withLcids (lcids : List LcidRecord) (result : ActionForm × SubmitOutcome) :
    ActionForm × SubmitOutcome :=
  (result.1.knowing lcids, result.2)

theorem beginSubmit_knowing (f : ActionForm) (ctx : ActionContext)
    (lcids others : List LcidRecord) :
    (f.knowing lcids).beginSubmit (ctx.knowing others) = withLcids lcids (f.beginSubmit ctx) := by
  have built : (f.knowing lcids).kind.buildMutation (f.knowing lcids).values (ctx.knowing others)
      (f.knowing lcids).notified = f.kind.buildMutation f.values ctx f.notified := rfl
  rw [beginSubmit, beginSubmit, built]
  split <;> rfl

theorem settle_knowing (other : f.kind ≠ .issueLcid) (ctx : ActionContext)
    (lcids others : List LcidRecord) :
    (f.knowing lcids).settle (ctx.knowing others) = withLcids lcids (f.settle ctx) := by
  have same : (f.knowing lcids).problems (f.knowing lcids).emailSuppressed =
      f.problems f.emailSuppressed := problems_knowing other lcids _
  have asks : (f.knowing lcids).kind.confirmation? (ctx.knowing others) =
      f.kind.confirmation? ctx := rfl
  rw [settle, settle, same]
  dsimp only
  rw [asks]
  split
  · rfl
  · split
    · rfl
    · exact beginSubmit_knowing { f with errors := ∅ } ctx lcids others

theorem press_knowing (other : f.kind ≠ .issueLcid) (r : ActionRequest) (ctx : ActionContext)
    (lcids others : List LcidRecord) :
    (f.knowing lcids).press r (ctx.knowing others) = (f.press r ctx).map (withLcids lcids) := by
  have expect : (f.knowing lcids).expect .editing = f.expect .editing := rfl
  rw [press, press, submit, submit, expect]
  cases f.expect .editing with
  | error e => rfl
  | ok _ =>
    have settled : ((f.knowing lcids).pressing r.button).settle (ctx.knowing others) =
        withLcids lcids ((f.pressing r.button).settle ctx) :=
      settle_knowing (f := f.pressing r.button) other ctx lcids others
    rw [pressing, pressing] at settled
    dsimp only [bind, Except.bind, pure, Except.pure]
    rw [settled]
    generalize settle _ ctx = result
    obtain ⟨g, o⟩ := result
    cases o with
    | invalid messages => rfl
    | dispatch m => rfl
    | needsConfirmation question =>
      dsimp only [withLcids]
      split
      · have confirming : (g.knowing lcids).expect .confirming = g.expect .confirming := rfl
        rw [confirm, confirm, confirming]
        cases g.expect .confirming with
        | error e => rfl
        | ok _ =>
          exact congrArg Except.ok
            (beginSubmit_knowing { g with confirmationOpen := false } ctx lcids others)
      · rfl

/-! ## Resolving -/

theorem ofForm_answered_knowing (f : ActionForm) (m : Mutation)
    (answer : Except SubmitError Outcome) (lcids : List LcidRecord) :
    ActionRun.ofForm m ((f.knowing lcids).answered answer) =
      ActionRun.ofForm m (f.answered answer) := by
  rcases answer with (detail | detail) | outcome <;> rfl

end ActionForm

end GovernanceDesk

import GovernanceDesk.Form.ActionForm

/-!
# What each operation on a form does

An operation that is not refused found the form in the phase it needs. What it then does to the form
is written out here once for each operation, so that nothing later opens its definition.

* `ActionForm.SameEntries`: nothing that was entered has changed.
* `ActionForm.Settled`, `ActionForm.Begun`: how checking and sending a form can end.
* `ActionForm.submit_cases`, `ActionForm.confirm_cases`: pressing a button and answering the question.
-/

namespace GovernanceDesk
set_option autoImplicit false

namespace ActionForm

variable {f f' : ActionForm} {ctx : ActionContext} {o : SubmitOutcome}

theorem phase_of_expect {phase : Phase} (h : f.expect phase = .ok ()) : f.phase = phase := by
  rw [expect] at h
  split at h
  · assumption
  · split at h
    · exact nomatch h
    · exact nomatch h

/-- An operation that goes ahead has met its phase. -/
theorem of_expect_bind {α : Type} {phase : Phase} {rest : Unit → Except Failure α} {y : α}
    (h : (f.expect phase >>= rest) = .ok y) : f.phase = phase ∧ rest () = .ok y := by
  obtain ⟨_, met, hr⟩ := ok_of_bind_ok h
  exact ⟨phase_of_expect met, hr⟩

/-- What was entered into a form, and what it can be checked against, is the same. -/
structure SameEntries (f f' : ActionForm) : Prop where
  kind : f'.kind = f.kind
  intakeId : f'.intakeId = f.intakeId
  values : f'.values = f.values
  recipients : f'.recipients = f.recipients
  existingLcids : f'.existingLcids = f.existingLcids

/-! ## Opening -/

/-- A form after it took the loaded data. -/
inductive Opened (f : ActionForm) : Except Failure ActionContext → ActionForm → Prop where
  | failed (e : Failure) :
    Opened f (.error e) { f with phase := .failed, rootError := some loadFailedText }
  | ready (ctx : ActionContext) :
    Opened f (.ok ctx)
      { f with
        requestName := ctx.intake.requestName
        recipients := .forRequester ctx.intake.requester.email
        values := f.kind.defaults ctx
        existingLcids := ctx.existingLcids
        phase := .editing }

theorem Opened.kind_eq {loaded : Except Failure ActionContext} (h : Opened f loaded f') :
    f'.kind = f.kind := by
  cases h <;> rfl

theorem hydrate_cases {loaded : Except Failure ActionContext} (h : f.hydrate loaded = .ok f') :
    f.phase = .loadingDefaults ∧ Opened f loaded f' := by
  obtain ⟨met, hr⟩ := of_expect_bind h
  refine ⟨met, ?_⟩
  cases loaded with
  | error e =>
    cases hr
    exact .failed e
  | ok ctx =>
    cases hr
    exact .ready ctx

/-! ## Filling in -/

theorem copyChosenLcid_values (f : ActionForm) :
    ∃ values, f.copyChosenLcid = { f with values := values } := by
  rw [copyChosenLcid]
  split
  · exact ⟨f.values, rfl⟩
  · exact ⟨_, rfl⟩

/-- Entering a value changes the values and nothing else. -/
theorem setValue_cases {name : String} {value : FieldValue} (h : f.setValue name value = .ok f') :
    f.phase = .editing ∧ ∃ values, f' = { f with values := values } := by
  obtain ⟨met, hr⟩ := of_expect_bind h
  refine ⟨met, ?_⟩
  split at hr
  · exact nomatch hr
  · dsimp only [bind, Except.bind, pure, Except.pure] at hr
    split at hr
    · cases hr
      exact copyChosenLcid_values { f with values := f.values.set name value }
    · cases hr
      exact ⟨_, rfl⟩

theorem setRecipients_cases {recipients : Recipients} (h : f.setRecipients recipients = .ok f') :
    f.phase = .editing ∧ f' = { f with recipients := recipients } := by
  obtain ⟨met, hr⟩ := of_expect_bind h
  cases hr
  exact ⟨met, rfl⟩

/-! ## Checking -/

/-- A form without problems passes every single check. -/
theorem checks_of_problems_eq_empty {suppressEmail : Bool} (h : f.problems suppressEmail = ∅) :
    f.kind.problems f.values = ∅ ∧ f.namesUnknownLcid = false ∧
      (suppressEmail = false → f.recipients.problem? = none) := by
  unfold problems at h
  dsimp only at h
  split at h
  · exact absurd h (NameMap.setNew_ne_empty _ _ _)
  · next fine =>
    split at h
    · exact absurd h (NameMap.setNew_ne_empty _ _ _)
    · next known =>
      refine ⟨h, by simpa using known, ?_⟩
      rintro rfl
      simpa using fine

theorem chosenLcid?_of_checked (kind : f.kind = .issueLcid)
    (uses : f.values.flag "useExistingLcid" = true) (known : f.namesUnknownLcid = false)
    {lcid : String} (chosen : f.values.text? "lcid" = some lcid) :
    ∃ l ∈ f.existingLcids, l.lcid = lcid := by
  have found : f.chosenLcid?.isNone = false := by
    simpa [namesUnknownLcid, kind, uses, chosen] using known
  obtain ⟨l, hl⟩ := Option.isSome_iff_exists.1 (Option.isNone_eq_false_iff.1 found)
  rw [chosenLcid?, chosen, Option.bind_some] at hl
  exact ⟨l, List.mem_of_find?_eq_some hl, by simpa using List.find?_some hl⟩

/-! ## Sending -/

/-- How handing out the mutation ends. -/
inductive Begun (f : ActionForm) (ctx : ActionContext) : ActionForm → SubmitOutcome → Prop where
  | sent (m : Mutation) (built : f.kind.buildMutation f.values ctx f.notified = .ok m) :
    Begun f ctx { f with phase := .submitting } (.dispatch m)
  | unbuilt (messages : Messages) :
    Begun f ctx { f with phase := .editing, errors := messages } (.invalid messages)

theorem Begun.sameEntries (h : Begun f ctx f' o) : SameEntries f f' := by
  cases h <;> exact ⟨rfl, rfl, rfl, rfl, rfl⟩

theorem begun (f : ActionForm) (ctx : ActionContext) :
    Begun f ctx (f.beginSubmit ctx).1 (f.beginSubmit ctx).2 := by
  rw [beginSubmit]
  split
  · next m built => exact .sent m built
  · next messages _ => exact .unbuilt messages

/-- How settling a form that is being checked ends. -/
inductive Settled (f : ActionForm) (ctx : ActionContext) : ActionForm → SubmitOutcome → Prop where
  | refused (messages : Messages) :
    Settled f ctx { f with errors := messages, phase := .editing } (.invalid messages)
  | asked (question : Confirmation) (fine : f.problems f.emailSuppressed = ∅)
      (asks : f.kind.confirmation? ctx = some question) :
    Settled f ctx { f with errors := ∅, phase := .confirming, confirmationOpen := true }
      (.needsConfirmation question)
  | begun (f' : ActionForm) (o : SubmitOutcome) (fine : f.problems f.emailSuppressed = ∅)
      (quiet : f.kind.confirmation? ctx = none) (rest : Begun { f with errors := ∅ } ctx f' o) :
    Settled f ctx f' o

theorem Settled.sameEntries (h : Settled f ctx f' o) : SameEntries f f' := by
  cases h with
  | begun _ _ _ _ rest =>
    obtain ⟨kind, intakeId, values, recipients, existingLcids⟩ := rest.sameEntries
    exact ⟨kind, intakeId, values, recipients, existingLcids⟩
  | _ => exact ⟨rfl, rfl, rfl, rfl, rfl⟩

theorem settled (f : ActionForm) (ctx : ActionContext) :
    Settled f ctx (f.settle ctx).1 (f.settle ctx).2 := by
  rw [settle]
  dsimp only
  split
  · exact .refused _
  · next empty =>
    have fine : f.problems f.emailSuppressed = ∅ := NameMap.isEmpty_iff.1 (by simpa using empty)
    split
    · next question asks => exact .asked question fine asks
    · next quiet => exact .begun _ _ fine quiet (begun _ ctx)

/-- A form with a button pressed, before it is checked. -/
def pressing (f : ActionForm) (button : Button) : ActionForm :=
  { f with phase := .validating, emailSuppressed := button.suppressesEmail, rootError := none }

theorem submit_cases {button : Button} (h : f.submit button ctx = .ok (f', o)) :
    f.phase = .editing ∧ Settled (f.pressing button) ctx f' o := by
  obtain ⟨met, hr⟩ := of_expect_bind h
  refine ⟨met, ?_⟩
  have hs := settled (f.pressing button) ctx
  have he : (f.pressing button).settle ctx = (f', o) := Except.ok.inj hr
  rw [he] at hs
  exact hs

theorem confirm_cases (h : f.confirm ctx = .ok (f', o)) :
    f.phase = .confirming ∧ Begun { f with confirmationOpen := false } ctx f' o := by
  obtain ⟨met, hr⟩ := of_expect_bind h
  refine ⟨met, ?_⟩
  have hb := begun { f with confirmationOpen := false } ctx
  have he : { f with confirmationOpen := false }.beginSubmit ctx = (f', o) := Except.ok.inj hr
  rw [he] at hb
  exact hb

theorem cancel_cases (h : f.cancel = .ok f') :
    f.phase = .confirming ∧ f' = { f with confirmationOpen := false, phase := .editing } := by
  obtain ⟨met, hr⟩ := of_expect_bind h
  cases hr
  exact ⟨met, rfl⟩

/-! ## Resolving -/

theorem resolve_cases {answer : Except SubmitError Outcome} (h : f.resolve answer = .ok f') :
    f.phase = .submitting ∧ f' = f.answered answer := by
  obtain ⟨_, met, hr⟩ := ok_of_bind_ok h
  cases hr
  refine ⟨?_, rfl⟩
  rw [expectSubmitting] at met
  split at met
  · assumption
  · exact nomatch met

theorem sameEntries_answered (f : ActionForm) (answer : Except SubmitError Outcome) :
    SameEntries f (f.answered answer) := by
  rcases answer with (detail | detail) | outcome <;> exact ⟨rfl, rfl, rfl, rfl, rfl⟩

end ActionForm

end GovernanceDesk

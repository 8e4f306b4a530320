import GovernanceDesk.Feedback
import GovernanceDesk.Form.Validation

/-!
# What a checked form holds

A form passes its check exactly when every field it shows has no problem of its own; a field that is
required then holds a text, and a choice one of its options.
-/

namespace GovernanceDesk
set_option autoImplicit false

variable {kind : ActionKind} {values : FormValues} {f : Field}

namespace Field

theorem text?_of_required (text : f.kind ≠ .checkBox) (required : f.required values = true)
    (fine : f.problem? values = none) : ∃ s, values.text? f.name = some s := by
  rw [problem?, if_neg text] at fine
  split at fine
  · rw [if_pos required] at fine
    exact nomatch fine
  · next s found => exact ⟨s, found⟩

theorem mem_options {options : List String} (choice : f.kind = .choice options)
    (fine : f.problem? values = none) {text : String} (held : values.text? f.name = some text) :
    text ∈ options := by
  have isText : f.kind ≠ .checkBox := by
    rw [choice]
    exact nofun
  rw [problem?, if_neg isText, held] at fine
  simpa [textProblem?, choice] using fine

end Field

namespace ActionKind

/-- The message of a field, if it has one, enters the messages so far. -/
theorem gather_eq_empty_iff (fields : List Field) (messages : Messages) :
    fields.foldl
      (fun messages f =>
        match f.problem? values with
        | some message => messages.setNew f.name message
        | none => messages)
      messages = ∅ ↔ messages = ∅ ∧ ∀ f ∈ fields, f.problem? values = none := by
  induction fields generalizing messages with
  | nil => simp
  | cons f fields ih =>
    rw [List.foldl_cons, ih, List.forall_mem_cons]
    cases f.problem? values with
    | none => simp
    | some message => simp [NameMap.setNew_ne_empty]

theorem problems_eq_empty_iff :
    kind.problems values = ∅ ↔ ∀ f ∈ kind.visibleFields values, f.problem? values = none :=
  (gather_eq_empty_iff _ _).trans (and_iff_right rfl)

/-- A form that issues an ID again names it. -/
theorem lcid_of_problems_eq_empty (fine : issueLcid.problems values = ∅)
    (uses : values.flag "useExistingLcid" = true) : ∃ lcid, values.text? "lcid" = some lcid := by
  let field : Field :=
    ((Field.plain "lcid" "Life Cycle ID" .text).requiredWhen .usingExistingLcid).shownWhen
      .usingExistingLcid
  have own : field ∈ issueLcid.fields := by decide
  have shown : field ∈ issueLcid.visibleFields values := List.mem_filter.2 ⟨own, uses⟩
  exact Field.text?_of_required (f := field) nofun uses (problems_eq_empty_iff.1 fine field shown)

/-- A choice that a form always shows holds one of its options. -/
theorem mem_options_of_problems_eq_empty {name label : String} {options : List String}
    (own : Field.plain name label (.choice options) ∈ kind.fields) (fine : kind.problems values = ∅)
    {text : String} (held : values.text? name = some text) : text ∈ options := by
  have shown : Field.plain name label (.choice options) ∈ kind.visibleFields values :=
    List.mem_filter.2 ⟨own, rfl⟩
  exact Field.mem_options rfl (problems_eq_empty_iff.1 fine _ shown) held

/-- A form that moves a request on cannot move it past all meetings and forms. -/
theorem newStep_of_problems_eq_empty (fine : progressToNewStep.problems values = ∅) {newStep : Step}
    (named : values.newStep? = some newStep) : newStep ≠ .decisionAndNextSteps := by
  have own : Field.plain "newStep" "Which step should the request move to?"
      (.choice progressSteps) ∈ progressToNewStep.fields := by
    decide
  obtain ⟨text, held, read⟩ := Option.bind_eq_some_iff.1 named
  have option := mem_options_of_problems_eq_empty own fine held
  rintro rfl
  have elsewhere : ∀ text ∈ progressSteps,
      (Tagged.ofSpelling? text : Option Step) ≠ some .decisionAndNextSteps := by
    decide +kernel
  exact elsewhere text option read

/-- Edits can only be requested for a form. -/
theorem target_of_problems_eq_empty (fine : requestEdits.problems values = ∅)
    {target : FeedbackTarget}
    (chosen : (values.text? "intakeFormStep").bind Tagged.ofSpelling? = some target) :
    target ≠ .grbMeeting ∧ target ≠ .noTargetProvided := by
  have own : Field.plain "intakeFormStep" "Which form needs edits?" (.choice editTargets) ∈
      requestEdits.fields := by
    decide
  obtain ⟨text, held, read⟩ := Option.bind_eq_some_iff.1 chosen
  have option := mem_options_of_problems_eq_empty own fine held
  have forms : ∀ text ∈ editTargets,
      (Tagged.ofSpelling? text : Option FeedbackTarget) ≠ some .grbMeeting ∧
      (Tagged.ofSpelling? text : Option FeedbackTarget) ≠ some .noTargetProvided := by
    decide +kernel
  have known := forms text option
  rw [read] at known
  exact ⟨fun same => known.1 (congrArg some same), fun same => known.2 (congrArg some same)⟩

end ActionKind

end GovernanceDesk

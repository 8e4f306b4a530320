import GovernanceDesk.Action.Building
import GovernanceDesk.Proofs.Form.Checked

/-!
# A checked form can be read

Checking a form and reading its operation look at the same fields under the same circumstances: a
form that passes its check, whatever its action and its request, is read without a message.

* `FormValues.exists_text`, `exists_date`, `exists_choice`: what a field holds once it is checked.
* `ActionKind.exists_readOperation`, `ActionKind.exists_buildMutation`: checked forms are read.
-/

namespace GovernanceDesk
set_option autoImplicit false

/-! ## Readings without messages -/

namespace FormValues

variable {values : FormValues} {name : String}

theorem readText_eq {s : String} (h : values.text? name = some s) :
    values.readText name = .of s := by
  rw [readText, h]
  rfl

theorem readDate_eq {d : Date} (h : values.date? name = some d) : values.readDate name = .of d := by
  rw [readDate, h]
  rfl

theorem readChoice_eq {α : Type} [Tagged α] {x : α}
    (h : (values.text? name).bind Tagged.ofSpelling? = some x) :
    values.readChoice name = .of x := by
  rw [readChoice, h]
  rfl

end FormValues

namespace ActionKind

variable {kind : ActionKind} {values : FormValues}

/-! ## Checked fields -/

theorem problem?_of_checked (fine : kind.problems values = ∅) {f : Field} (own : f ∈ kind.fields)
    (shown : f.visible values = true) : f.problem? values = none :=
  problems_eq_empty_iff.1 fine f (List.mem_filter.2 ⟨own, shown⟩)

theorem exists_text (name label : String) (fine : kind.problems values = ∅)
    (own : Field.plain name label .longText ∈ kind.fields) : ∃ s, values.text? name = some s :=
  Field.text?_of_required (f := Field.plain name label .longText) nofun rfl
    (problem?_of_checked fine own rfl)

/-- A text in a date field that is checked is a date. -/
theorem exists_date_of_text (fine : kind.problems values = ∅) {f : Field} (own : f ∈ kind.fields)
    (shown : f.visible values = true) (date : f.kind = .date) {s : String}
    (held : values.text? f.name = some s) : ∃ d, values.date? f.name = some d := by
  have checked := problem?_of_checked fine own shown
  have isText : f.kind ≠ .checkBox := by
    rw [date]
    exact nofun
  rw [Field.problem?, if_neg isText, held] at checked
  simp only [Field.textProblem?, date] at checked
  rw [FormValues.date?, held, Option.bind_some]
  exact Option.ne_none_iff_exists'.1 (by simpa using checked)

theorem exists_date (fine : kind.problems values = ∅) {f : Field} (own : f ∈ kind.fields)
    (shown : f.visible values = true) (required : f.required values = true)
    (date : f.kind = .date) : ∃ d, values.date? f.name = some d := by
  have isText : f.kind ≠ .checkBox := by
    rw [date]
    exact nofun
  obtain ⟨s, held⟩ := Field.text?_of_required isText required (problem?_of_checked fine own shown)
  exact exists_date_of_text fine own shown date held

theorem exists_readDateIfAny (fine : kind.problems values = ∅) {f : Field} (own : f ∈ kind.fields)
    (shown : f.visible values = true) (date : f.kind = .date) :
    ∃ d, values.readDateIfAny f.name = .of d := by
  rw [FormValues.readDateIfAny]
  cases held : values.text? f.name with
  | none => exact ⟨none, rfl⟩
  | some s =>
    obtain ⟨d, read⟩ := exists_date_of_text fine own shown date held
    exact ⟨some d, by rw [FormValues.readDate_eq read]; rfl⟩

/-- A choice whose options are all spellings of members of a closed set names one of them. -/
theorem exists_choice {α : Type} [Tagged α] (name label : String) {options : List String}
    (spelled : ∀ option ∈ options, ∃ x : α, Tagged.ofSpelling? option = some x)
    (fine : kind.problems values = ∅)
    (own : Field.plain name label (.choice options) ∈ kind.fields) :
    ∃ x : α, (values.text? name).bind Tagged.ofSpelling? = some x := by
  obtain ⟨s, (held : values.text? name = some s)⟩ := Field.text?_of_required
    (f := Field.plain name label (.choice options)) nofun rfl (problem?_of_checked fine own rfl)
  obtain ⟨x, named⟩ := spelled s (mem_options_of_problems_eq_empty own fine held)
  exact ⟨x, by rw [held, Option.bind_some, named]⟩

theorem spelled_editTargets :
    ∀ option ∈ editTargets, ∃ x : FeedbackTarget, Tagged.ofSpelling? option = some x := by
  simp only [← Option.isSome_iff_exists]
  decide +kernel

theorem spelled_progressSteps :
    ∀ option ∈ progressSteps, ∃ x : Step, Tagged.ofSpelling? option = some x := by
  simp only [← Option.isSome_iff_exists]
  decide +kernel

theorem spelled_trbFollowUps :
    ∀ option ∈ trbFollowUps, ∃ x : TrbFollowUp, Tagged.ofSpelling? option = some x := by
  simp only [← Option.isSome_iff_exists]
  decide +kernel

/-! ## Checked forms -/

theorem exists_readLcidDecision (fine : issueLcid.problems values = ∅) :
    ∃ d, values.readLcidDecision = .of d := by
  obtain ⟨expiresAt, (hExpires : values.date? "expiresAt" = some _)⟩ := exists_date fine
    (f := (Field.plain "expiresAt" "Expiration date" .date).warning) (by decide) rfl rfl rfl
  obtain ⟨scope, hScope⟩ := exists_text "scope" "Scope of Life Cycle ID" fine (by decide)
  obtain ⟨nextSteps, hNext⟩ := exists_text "nextSteps" "Project next steps" fine (by decide)
  obtain ⟨trbFollowUp, hTrb⟩ := exists_choice "trbFollowUp" "TRB follow-up"
    spelled_trbFollowUps fine (by decide)
  have chosen : ∃ lcid, (if values.flag "useExistingLcid" then some <$> values.readText "lcid"
      else pure none : Reading (Option String)) = .of lcid := by
    split
    next uses =>
      obtain ⟨lcid, named⟩ := lcid_of_problems_eq_empty fine uses
      exact ⟨some lcid, by rw [FormValues.readText_eq named]; rfl⟩
    · exact ⟨none, rfl⟩
  obtain ⟨lcid, hLcid⟩ := chosen
  refine ⟨⟨lcid, expiresAt, scope, nextSteps, trbFollowUp, values.text? "costBaseline"⟩, ?_⟩
  rw [FormValues.readLcidDecision, hLcid, FormValues.readDate_eq hExpires,
    FormValues.readText_eq hScope, FormValues.readText_eq hNext, FormValues.readChoice_eq hTrb]
  rfl

/-- The date of a meeting is shown, and so checked, exactly when the step moved to has one. -/
theorem exists_readMove (fine : progressToNewStep.problems values = ∅) :
    ∃ op, values.readMove = .of op := by
  obtain ⟨newStep, named⟩ := exists_choice "newStep" "Which step should the request move to?"
    spelled_progressSteps fine (by decide)
  have dated : ∃ date, (if newStep.isMeeting then values.readDateIfAny "meetingDate"
      else pure none : Reading (Option Date)) = .of date := by
    split
    next meeting =>
      let field : Field := ((Field.plain "meetingDate" "Meeting date" .date).optional).shownWhen
        .progressingToMeeting
      have shown : field.visible values = true := by
        change (values.newStep?).any Step.isMeeting = true
        rw [FormValues.newStep?, named]
        exact meeting
      exact exists_readDateIfAny fine (f := field) (by decide) shown rfl
    · exact ⟨none, rfl⟩
  obtain ⟨date, hDate⟩ := dated
  refine ⟨.progressToNewStep newStep date (values.text? "feedback")
    (if newStep = .grbMeeting then values.text? "grbRecommendations" else none), ?_⟩
  rw [FormValues.readMove, FormValues.newStep?, named]
  dsimp only
  rw [FormValues.readMoveTo, hDate]
  rfl

theorem exists_readOperation (fine : kind.problems values = ∅) (intake : Intake) :
    ∃ op, kind.readOperation values intake = .of op := by
  cases kind with
  | requestEdits =>
    obtain ⟨target, hTarget⟩ := exists_choice "intakeFormStep" "Which form needs edits?"
      spelled_editTargets fine (by decide)
    obtain ⟨text, hText⟩ := exists_text "emailFeedback" "What changes are needed?" fine (by decide)
    refine ⟨.requestEdits target text, ?_⟩
    rw [readOperation, FormValues.readChoice_eq hTarget, FormValues.readText_eq hText]
    rfl
  | progressToNewStep => exact exists_readMove fine
  | issueLcid =>
    obtain ⟨d, hDecision⟩ := exists_readLcidDecision fine
    rw [readOperation, hDecision]
    split
    · exact ⟨.confirmLcid { d with lcid := none }, rfl⟩
    · exact ⟨.issueLcid d, rfl⟩
  | updateLcid =>
    obtain ⟨date, (hDate : values.readDateIfAny "expiresAt" = .of _)⟩ := exists_readDateIfAny fine
      (f := ((Field.plain "expiresAt" "Expiration date" .date).optional).warning) (by decide) rfl
      rfl
    refine ⟨.updateLcid date (values.text? "scope") (values.text? "nextSteps")
      (values.text? "costBaseline") (values.text? "reason"), ?_⟩
    rw [readOperation, hDate]
    rfl
  | retireLcid =>
    obtain ⟨date, (hDate : values.date? "retiresAt" = some _)⟩ := exists_date fine
      (f := (Field.plain "retiresAt" "Retirement date" .date).warning) (by decide) rfl rfl rfl
    rw [readOperation, FormValues.readDate_eq hDate]
    split
    · exact ⟨.changeLcidRetirementDate date, rfl⟩
    · exact ⟨.retireLcid date (values.text? "reason"), rfl⟩
  | expireLcid =>
    obtain ⟨reason, hReason⟩ := exists_text "reason" "Reason for expiration" fine (by decide)
    refine ⟨.expireLcid reason (values.text? "nextSteps"), ?_⟩
    rw [readOperation, FormValues.readText_eq hReason]
    rfl
  | notApproved =>
    obtain ⟨reason, hReason⟩ := exists_text "reason" "Why was this request not approved?" fine
      (by decide)
    obtain ⟨nextSteps, hNext⟩ := exists_text "nextSteps" "Next steps" fine (by decide)
    obtain ⟨trbFollowUp, hTrb⟩ := exists_choice "trbFollowUp" "TRB follow-up"
      spelled_trbFollowUps fine (by decide)
    refine ⟨.rejectIntake reason nextSteps trbFollowUp, ?_⟩
    rw [readOperation, FormValues.readText_eq hReason, FormValues.readText_eq hNext,
      FormValues.readChoice_eq hTrb]
    rfl
  | unretireLcid => exact ⟨.unretireLcid (values.text? "reason"), rfl⟩
  | notGovernance => exact ⟨.markNotGovernance (values.text? "reason"), rfl⟩
  | closeRequest => exact ⟨.closeRequest (values.text? "reason"), rfl⟩
  | reopenRequest => exact ⟨.reopenRequest (values.text? "reason"), rfl⟩

/-- A form that passes its check is built into a mutation, on every request. -/
theorem exists_buildMutation (fine : kind.problems values = ∅) (ctx : ActionContext)
    (told : Option Recipients) : ∃ m, kind.buildMutation values ctx told = .ok m := by
  obtain ⟨op, read⟩ := exists_readOperation fine ctx.intake
  exact ⟨⟨ctx.intake.id, told, values.text? "additionalInfo", values.text? "adminNote", op⟩, by
    rw [buildMutation, read]; rfl⟩

end ActionKind

end GovernanceDesk

import GovernanceDesk.Proofs.Action.Needs
import GovernanceDesk.Proofs.Form.Checked

/-!
# Only what a form shows is sent

A field that a form does not show can still hold a value, from before another value hid it. Two
forms that show the same fields, with the same values in them, are built into the same mutation,
whatever their other fields hold.

There is one exception. The recommendations for the review board are shown where the step is written
as its tag, and are read wherever the step is meant: under any other spelling they are sent without
being shown.

* `ActionKind.ShowAlike`: forms that show the same.
* `ActionKind.ShowAlike.readOperation_eq`: on all actions but a move they are read alike.
* `ActionKind.buildMutation_eq_iff`: when they are built into the same mutation.
* `ActionKind.buildMutation_eq_of_checked`: a form that passed its check sends only what it shows.
-/

namespace GovernanceDesk
set_option autoImplicit false

/-! ## Readings -/

namespace Reading

variable {α β : Type}

theorem result_map (g : α → β) (r : Reading α) : (g <$> r).result = r.result.map g := by
  obtain ⟨value?, problems⟩ := r
  cases value? <;> cases problems <;> rfl

/-- A reading that is carried on in two ways ends alike where it ends in a message, or in a value
that both take to the same. -/
theorem result_map_eq_iff {g g' : α → β} {r : Reading α} :
    (g <$> r).result = (g' <$> r).result ↔ ∀ x, r.result = .ok x → g x = g' x := by
  rw [result_map, result_map]
  cases r.result with
  | error messages => exact iff_of_true rfl nofun
  | ok x =>
    constructor
    · intro same y read
      cases read
      exact Except.ok.inj same
    · intro same
      exact congrArg Except.ok (same x rfl)

end Reading

namespace FormValues

variable {v w : FormValues} {name : String}

theorem readText_congr (same : w.get? name = v.get? name) : w.readText name = v.readText name := by
  rw [readText, text?_congr same, readText]

theorem readDate_congr (same : w.get? name = v.get? name) : w.readDate name = v.readDate name := by
  rw [readDate, date?_congr same, readDate]

theorem readDateIfAny_congr (same : w.get? name = v.get? name) :
    w.readDateIfAny name = v.readDateIfAny name := by
  rw [readDateIfAny, text?_congr same, readDate_congr same, readDateIfAny]

theorem readChoice_congr {α : Type} [Tagged α] (same : w.get? name = v.get? name) :
    (w.readChoice name : Reading α) = v.readChoice name := by
  rw [readChoice, text?_congr same, readChoice]

/-- Of a move only the date has to be read; the texts are there or not. -/
theorem readMoveTo_eq (values : FormValues) (newStep : Step) :
    values.readMoveTo newStep =
      (fun date => Operation.progressToNewStep newStep date (values.text? "feedback")
        (if newStep = .grbMeeting then values.text? "grbRecommendations" else none)) <$>
        (if newStep.isMeeting then values.readDateIfAny "meetingDate" else pure none) := by
  rw [readMoveTo]
  generalize (if newStep.isMeeting then values.readDateIfAny "meetingDate" else pure none :
    Reading (Option Date)) = dated
  obtain ⟨date?, problems⟩ := dated
  have unchanged : ([] ++ problems ++ []) ++ [] = [] ++ problems := by simp
  cases date? <;> exact congrArg (Reading.mk _) unchanged

/-- Recommendations for the review board are read, and not shown: its step is meant, and is not
written as its tag. -/
structure ReadsUnshown (values : FormValues) : Prop where
  named : values.newStep? = some .grbMeeting
  other : values.text? "newStep" ≠ some Step.grbMeeting.tag

end FormValues

/-! ## Forms that show the same -/

namespace ActionKind

variable {kind : ActionKind} {v w : FormValues}

/-- The same fields are shown under both, and hold the same. -/
structure ShowAlike (kind : ActionKind) (v w : FormValues) : Prop where
  visible : ∀ f ∈ kind.fields, f.visible w = f.visible v
  value : ∀ f ∈ kind.fields, f.visible v = true → w.get? f.name = v.get? f.name

/-- Whether a form shows a field of this name whatever is entered. -/
def alwaysShows (kind : ActionKind) (name : String) : Bool :=
  kind.fields.any fun f => f.name == name && f.whenVisible == .always

namespace ShowAlike

theorem get?_eq_of_mem (h : kind.ShowAlike v w) {f : Field} (own : f ∈ kind.fields)
    (always : f.whenVisible = .always) : w.get? f.name = v.get? f.name := by
  refine h.value f own ?_
  rw [Field.visible, always]
  rfl

theorem get?_eq (h : kind.ShowAlike v w) (name : String) (always : kind.alwaysShows name = true) :
    w.get? name = v.get? name := by
  obtain ⟨f, own, found⟩ := List.any_eq_true.1 always
  obtain ⟨named, shown⟩ := Bool.and_eq_true_iff.1 found
  rw [← beq_iff_eq.1 named]
  exact h.get?_eq_of_mem own (beq_iff_eq.1 shown)

theorem readLcidDecision_eq (h : issueLcid.ShowAlike v w) :
    w.readLcidDecision = v.readLcidDecision := by
  have chosen : (if w.flag "useExistingLcid" then some <$> w.readText "lcid" else pure none :
      Reading (Option String)) =
      if v.flag "useExistingLcid" then some <$> v.readText "lcid" else pure none := by
    rw [FormValues.flag_congr (h.get?_eq "useExistingLcid" (by decide))]
    split
    next uses =>
      let field : Field :=
        ((Field.plain "lcid" "Life Cycle ID" .text).requiredWhen .usingExistingLcid).shownWhen
          .usingExistingLcid
      have same : w.get? "lcid" = v.get? "lcid" := h.value field (by decide) uses
      rw [FormValues.readText_congr same]
    · rfl
  rw [FormValues.readLcidDecision, chosen,
    FormValues.readDate_congr (h.get?_eq "expiresAt" (by decide)),
    FormValues.readText_congr (h.get?_eq "scope" (by decide)),
    FormValues.readText_congr (h.get?_eq "nextSteps" (by decide)),
    FormValues.readChoice_congr (h.get?_eq "trbFollowUp" (by decide)),
    FormValues.text?_congr (h.get?_eq "costBaseline" (by decide)),
    FormValues.readLcidDecision]

/-- On every action but a move the same is read from forms that show the same. -/
theorem readOperation_eq (h : kind.ShowAlike v w) (stays : kind ≠ .progressToNewStep)
    (intake : Intake) : kind.readOperation w intake = kind.readOperation v intake := by
  cases kind with
  | progressToNewStep => exact absurd rfl stays
  | requestEdits =>
    rw [readOperation, FormValues.readChoice_congr (h.get?_eq "intakeFormStep" (by decide)),
      FormValues.readText_congr (h.get?_eq "emailFeedback" (by decide)), readOperation]
  | issueLcid => rw [readOperation, h.readLcidDecision_eq, readOperation]
  | updateLcid =>
    rw [readOperation, FormValues.text?_congr (h.get?_eq "scope" (by decide)),
      FormValues.text?_congr (h.get?_eq "nextSteps" (by decide)),
      FormValues.text?_congr (h.get?_eq "costBaseline" (by decide)),
      FormValues.text?_congr (h.get?_eq "reason" (by decide)),
      FormValues.readDateIfAny_congr (h.get?_eq "expiresAt" (by decide)), readOperation]
  | retireLcid =>
    rw [readOperation, FormValues.readDate_congr (h.get?_eq "retiresAt" (by decide)),
      FormValues.text?_congr (h.get?_eq "reason" (by decide)), readOperation]
  | expireLcid =>
    rw [readOperation, FormValues.text?_congr (h.get?_eq "nextSteps" (by decide)),
      FormValues.readText_congr (h.get?_eq "reason" (by decide)), readOperation]
  | notApproved =>
    rw [readOperation, FormValues.readText_congr (h.get?_eq "reason" (by decide)),
      FormValues.readText_congr (h.get?_eq "nextSteps" (by decide)),
      FormValues.readChoice_congr (h.get?_eq "trbFollowUp" (by decide)), readOperation]
  | unretireLcid | notGovernance | closeRequest | reopenRequest =>
    rw [readOperation, FormValues.text?_congr (h.get?_eq "reason" (by decide)),
      readOperation]

/-! ### Moves -/

variable (h : progressToNewStep.ShowAlike v w)
include h

theorem text?_newStep_eq : w.text? "newStep" = v.text? "newStep" :=
  FormValues.text?_congr (h.get?_eq "newStep" (by decide))

theorem newStep?_eq : w.newStep? = v.newStep? := by
  rw [FormValues.newStep?, h.text?_newStep_eq, FormValues.newStep?]

/-- The date of a meeting is shown exactly where it is read. -/
theorem readDateIfAny_eq {newStep : Step} (named : v.newStep? = some newStep)
    (meeting : newStep.isMeeting = true) :
    w.readDateIfAny "meetingDate" = v.readDateIfAny "meetingDate" := by
  let field : Field :=
    ((Field.plain "meetingDate" "Meeting date" .date).optional).shownWhen .progressingToMeeting
  have shown : field.visible v = true := by
    change (v.newStep?).any Step.isMeeting = true
    rw [named]
    exact meeting
  exact FormValues.readDateIfAny_congr (h.value field (by decide) shown)

theorem readMoveTo_eq {newStep : Step} (named : v.newStep? = some newStep) :
    w.readMoveTo newStep =
      (fun date => Operation.progressToNewStep newStep date (v.text? "feedback")
        (if newStep = .grbMeeting then w.text? "grbRecommendations" else none)) <$>
        (if newStep.isMeeting then v.readDateIfAny "meetingDate" else pure none) := by
  have dated : (if newStep.isMeeting then w.readDateIfAny "meetingDate" else pure none) =
      if newStep.isMeeting then v.readDateIfAny "meetingDate" else pure none := by
    split
    next meeting => exact h.readDateIfAny_eq named meeting
    · rfl
  rw [FormValues.readMoveTo_eq, dated,
    FormValues.text?_congr (h.get?_eq "feedback" (by decide))]

theorem text?_grbRecommendations_eq (shown : v.text? "newStep" = some Step.grbMeeting.tag) :
    w.text? "grbRecommendations" = v.text? "grbRecommendations" := by
  let field : Field :=
    ((Field.plain "grbRecommendations" "Recommendations for the GRB" .longText).optional).shownWhen
      .progressingToGrb
  exact FormValues.text?_congr (h.value field (by decide) (beq_iff_eq.2 shown))

/-- Moves are read alike unless the recommendations are read and not shown. -/
theorem readMove_eq (shows : ¬ v.ReadsUnshown) : w.readMove = v.readMove := by
  rw [FormValues.readMove, h.newStep?_eq, FormValues.readMove]
  cases named : v.newStep? with
  | none => rfl
  | some newStep =>
    have recommended : (if newStep = .grbMeeting then w.text? "grbRecommendations" else none) =
        if newStep = .grbMeeting then v.text? "grbRecommendations" else none := by
      split
      next board =>
        by_cases tagged : v.text? "newStep" = some Step.grbMeeting.tag
        · exact h.text?_grbRecommendations_eq tagged
        · exact absurd ⟨board ▸ named, tagged⟩ shows
      · rfl
    change w.readMoveTo newStep = v.readMoveTo newStep
    rw [h.readMoveTo_eq named, recommended, FormValues.readMoveTo_eq v]

theorem result_readMove_iff (unshown : v.ReadsUnshown) :
    w.readMove.result = v.readMove.result ↔
      ((Need.dateIfAny "meetingDate").isMet v = true →
        w.text? "grbRecommendations" = v.text? "grbRecommendations") := by
  have named := unshown.named
  have dated : Reading.Asks v [.dateIfAny "meetingDate"]
      (if Step.grbMeeting.isMeeting then v.readDateIfAny "meetingDate" else pure none) :=
    FormValues.asks_readDateIfAny "meetingDate"
  rw [FormValues.readMove, h.newStep?_eq, FormValues.readMove, named]
  change (w.readMoveTo .grbMeeting).result = (v.readMoveTo .grbMeeting).result ↔ _
  rw [h.readMoveTo_eq named, FormValues.readMoveTo_eq v, Reading.result_map_eq_iff]
  simp only [Operation.progressToNewStep.injEq, true_and, if_true]
  rw [← exists_imp, dated.exists_result_iff, List.forall_mem_singleton]

end ShowAlike

/-! ## What is built -/

variable {ctx : ActionContext} {told : Option Recipients}

/-- The notes are on every form, so two forms are built alike exactly when their operations are read
alike. -/
theorem buildMutation_eq_iff_result (alike : kind.ShowAlike v w) :
    kind.buildMutation w ctx told = kind.buildMutation v ctx told ↔
      (kind.readOperation w ctx.intake).result = (kind.readOperation v ctx.intake).result := by
  have info : w.text? "additionalInfo" = v.text? "additionalInfo" :=
    FormValues.text?_congr (alike.get?_eq_of_mem (f := Field.additionalInfo)
      (List.mem_append_right _ (by decide)) rfl)
  have note : w.text? "adminNote" = v.text? "adminNote" :=
    FormValues.text?_congr (alike.get?_eq_of_mem (f := Field.adminNote)
      (List.mem_append_right _ (by decide)) rfl)
  rw [buildMutation, buildMutation, info, note]
  cases (kind.readOperation w ctx.intake).result <;>
    cases (kind.readOperation v ctx.intake).result <;> simp [Except.map]

/-- Forms that show the same are built into the same mutation, or get the same messages, unless the
recommendations for the review board are read without being shown; then they must agree in these,
or in a date that cannot be read. -/
theorem buildMutation_eq_iff (alike : kind.ShowAlike v w) (ctx : ActionContext)
    (told : Option Recipients) :
    kind.buildMutation w ctx told = kind.buildMutation v ctx told ↔
      (kind = .progressToNewStep → v.ReadsUnshown →
        (Need.dateIfAny "meetingDate").isMet v = true →
          w.text? "grbRecommendations" = v.text? "grbRecommendations") := by
  rw [buildMutation_eq_iff_result alike]
  by_cases moves : kind = .progressToNewStep
  · subst moves
    rw [forall_prop_of_true rfl]
    change w.readMove.result = v.readMove.result ↔ _
    by_cases unshown : v.ReadsUnshown
    · rw [alike.result_readMove_iff unshown]
      exact ⟨fun same _ => same, fun same => same unshown⟩
    · rw [alike.readMove_eq unshown]
      exact iff_of_true rfl fun read => absurd read unshown
  · rw [alike.readOperation_eq moves]
    exact iff_of_true rfl fun move => absurd move moves

/-- A move to the review board, with its step in another spelling. -/
def toBoard : FormValues :=
  NameMap.ofList [("newStep", .text "grb-meeting")]

/-- The same with recommendations, which the form does not show. -/
def toBoardWithNote : FormValues :=
  toBoard.set "grbRecommendations" (.text "Approve")

theorem showAlike_toBoard : progressToNewStep.ShowAlike toBoard toBoardWithNote where
  visible := by decide +kernel
  value := by decide +kernel

/-- The board would be sent a note that the form does not show. -/
theorem buildMutation_eq_iff_toBoard :
    progressToNewStep.ShowAlike toBoard toBoardWithNote ∧
      progressToNewStep.buildMutation toBoardWithNote newContext none ≠
        progressToNewStep.buildMutation toBoard newContext none := by
  refine ⟨showAlike_toBoard, fun same => ?_⟩
  have unshown : toBoard.ReadsUnshown := ⟨by decide +kernel, by decide +kernel⟩
  have undated : (Need.dateIfAny "meetingDate").isMet toBoard = true := by decide +kernel
  have agree := (buildMutation_eq_iff showAlike_toBoard newContext none).1 same rfl unshown undated
  revert agree
  decide +kernel

/-- So what a form does not show can be sent after all. -/
theorem unshown_recommendations_sent :
    ¬ ∀ (kind : ActionKind) (v w : FormValues) (ctx : ActionContext) (told : Option Recipients),
      kind.ShowAlike v w → kind.buildMutation w ctx told = kind.buildMutation v ctx told := by
  intro shown
  have same := shown progressToNewStep toBoard toBoardWithNote newContext none showAlike_toBoard
  have withNote : progressToNewStep.buildMutation toBoardWithNote newContext none =
      .ok ⟨"r1", none, none, none, .progressToNewStep .grbMeeting none none (some "Approve")⟩ := by
    rfl
  have without : progressToNewStep.buildMutation toBoard newContext none =
      .ok ⟨"r1", none, none, none, .progressToNewStep .grbMeeting none none none⟩ := by
    rfl
  rw [withNote, without] at same
  exact nomatch same

/-- A form that passes its check sends what it shows: its step is one of the tags on offer. -/
theorem buildMutation_eq_of_checked (alike : kind.ShowAlike v w) (fine : kind.problems v = ∅) :
    kind.buildMutation w ctx told = kind.buildMutation v ctx told := by
  rw [buildMutation_eq_iff_result alike]
  by_cases moves : kind = .progressToNewStep
  · subst moves
    have shows : ¬ v.ReadsUnshown := by
      rintro ⟨named, other⟩
      have own : Field.plain "newStep" "Which step should the request move to?"
          (.choice progressSteps) ∈ progressToNewStep.fields := by
        decide
      have spelled : ∀ text ∈ progressSteps, Tagged.ofSpelling? text = some Step.grbMeeting →
          text = Step.grbMeeting.tag := by
        decide +kernel
      obtain ⟨text, held, read⟩ := Option.bind_eq_some_iff.1 named
      have option := mem_options_of_problems_eq_empty own fine held
      exact other (held.trans (congrArg some (spelled text option read)))
    exact congrArg Reading.result (alike.readMove_eq shows)
  · rw [alike.readOperation_eq moves]

end ActionKind

end GovernanceDesk

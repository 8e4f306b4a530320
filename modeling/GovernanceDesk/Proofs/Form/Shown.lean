import GovernanceDesk.Proofs.Action.Built
import GovernanceDesk.Proofs.Calendar.Written
import GovernanceDesk.Proofs.Form.Filled
import GovernanceDesk.Store.Effect

/-!
# Records that a form shows

A form that is opened on a life cycle ID shows its record, and what it shows is read back as it is:
a date that was written with slashes, and a text that is neither blank nor has blanks at its ends.
What is then written back to the record is what it held, but an update takes back an early expiry,
which no form shows.

* `Text.IsTidy`, `LcidRecord.IsTidy`: texts that reading leaves as they are.
* `LcidRecord.ShownBy`: form values from which a record is read back.
* `LcidRecord.shownBy_defaults`: the values that the forms of a life cycle ID start from.
* `LcidRecord.confirmed_of_shown`, `LcidRecord.updated_of_shown`: writing them back.
-/

namespace GovernanceDesk
set_option autoImplicit false

/-! ## Texts and dates in fields -/

/-- Not blank and without blanks at its ends. -/
def Text.IsTidy (s : String) : Prop :=
  trim s = s ∧ s ≠ ""

namespace Text

instance (s : String) : Decidable (IsTidy s) := inferInstanceAs (Decidable (_ ∧ _))

theorem IsTidy.nonblank? {s : String} (h : IsTidy s) : nonblank? s = some s := by
  rw [Text.nonblank?, h.1, if_neg (by simpa using h.2)]

end Text

theorem Date.isTidy_slashed (d : Date) : Text.IsTidy d.slashed := by
  refine ⟨?_, fun blank => ?_⟩
  · rw [Text.trim, slashed, String.toList_ofList, trimChars_slashedChars]
  · have read := ofForm?_slashed d
    rw [blank] at read
    cases read

namespace FormValues

variable {values : FormValues} {name text : String}

theorem text?_of_get? (h : values.get? name = some (.text text)) (tidy : Text.IsTidy text) :
    values.text? name = some text := by
  rw [text?, h]
  exact tidy.nonblank?

theorem date?_of_get? {d : Date} (h : values.get? name = some (.text d.slashed)) :
    values.date? name = some d := by
  rw [date?, text?_of_get? h d.isTidy_slashed, Option.bind_some, Date.ofForm?_slashed]

theorem text?_of_none (h : values.get? name = none) : values.text? name = none := by
  rw [text?, h]

theorem text?_setText_of_ne {other : String} (differs : other ≠ name) :
    (values.setText name text).text? other = values.text? other := by
  rw [text?, get?_setText, if_neg differs, text?]

end FormValues

/-! ## Records -/

namespace LcidRecord

variable {l : LcidRecord} {values : FormValues}

/-- The texts of a record are such as forms leave behind. -/
structure IsTidy (l : LcidRecord) : Prop where
  scope : Text.IsTidy l.scope
  nextSteps : Text.IsTidy l.nextSteps
  costBaseline : ∀ text, l.costBaseline = some text → Text.IsTidy text

/-- Values from which a record is read back as it is. -/
structure ShownBy (l : LcidRecord) (values : FormValues) : Prop where
  expiresAt : values.date? "expiresAt" = some l.expiresAt
  scope : values.text? "scope" = some l.scope
  nextSteps : values.text? "nextSteps" = some l.nextSteps
  costBaseline : values.text? "costBaseline" = l.costBaseline

theorem shownBy_withLcid (tidy : l.IsTidy) : l.ShownBy (FormValues.withLcid ∅ l) where
  expiresAt := FormValues.date?_of_get? (by simp [FormValues.withLcid])
  scope := FormValues.text?_of_get? (by simp [FormValues.withLcid]) tidy.scope
  nextSteps := FormValues.text?_of_get? (by simp [FormValues.withLcid]) tidy.nextSteps
  costBaseline := by
    have held : (FormValues.withLcid ∅ l).get? "costBaseline" =
        l.costBaseline.map FieldValue.text := by
      simp [FormValues.withLcid]
    cases given : l.costBaseline with
    | none =>
      rw [given] at held
      exact FormValues.text?_of_none held
    | some text =>
      rw [given] at held
      exact FormValues.text?_of_get? held (tidy.costBaseline text given)

/-- A text in another field leaves what is shown of the record as it is. -/
theorem ShownBy.setText (h : l.ShownBy values) {name text : String}
    (other : name ∉ FormValues.lcidFields) : l.ShownBy (values.setText name text) := by
  have same : ∀ field ∈ FormValues.lcidFields,
      (values.setText name text).text? field = values.text? field := by
    intro field own
    refine FormValues.text?_setText_of_ne ?_
    rintro rfl
    exact other own
  have date : (values.setText name text).date? "expiresAt" = values.date? "expiresAt" := by
    rw [FormValues.date?, same _ (by decide), FormValues.date?]
  exact ⟨date.trans h.expiresAt, (same _ (by decide)).trans h.scope,
    (same _ (by decide)).trans h.nextSteps, (same _ (by decide)).trans h.costBaseline⟩

/-! ## Forms as they are opened -/

variable {ctx : ActionContext}

theorem shownBy_defaults {kind : ActionKind} (shows : kind = .issueLcid ∨ kind = .updateLcid)
    (held : ctx.intake.lcid = some l) (tidy : l.IsTidy) : l.ShownBy (kind.defaults ctx) := by
  rcases shows with rfl | rfl
  · simp only [ActionKind.defaults, held]
    exact (shownBy_withLcid tidy).setText (by decide)
  · simp only [ActionKind.defaults, held]
    exact shownBy_withLcid tidy

theorem trbFollowUp_defaults (held : ctx.intake.lcid = some l) :
    ((ActionKind.issueLcid.defaults ctx).text? "trbFollowUp").bind Tagged.ofSpelling? =
      some l.trbFollowUp := by
  have shown : (ActionKind.issueLcid.defaults ctx).get? "trbFollowUp" =
      some (.text l.trbFollowUp.tag) := by
    simp only [ActionKind.defaults, held]
    simp
  have tidy : Text.IsTidy l.trbFollowUp.tag := by
    cases l.trbFollowUp <;> decide +kernel
  rw [FormValues.text?_of_get? shown tidy, Option.bind_some]
  cases l.trbFollowUp <;> decide +kernel

theorem retiresAt_defaults (held : ctx.intake.lcid = some l) {date : Date}
    (retiring : l.retiresAt = some date) :
    (ActionKind.retireLcid.defaults ctx).date? "retiresAt" = some date := by
  refine FormValues.date?_of_get? ?_
  simp only [ActionKind.defaults, held]
  simp [retiring]

/-! ## Writing back -/

theorem confirmed_of_shown {d : LcidDecision} (shown : l.ShownBy values)
    (followUp : (values.text? "trbFollowUp").bind Tagged.ofSpelling? = some l.trbFollowUp)
    (read : d.ReadFrom values) : l.confirmed d = l := by
  have expiresAt := Option.some.inj (read.expiresAt.symm.trans shown.expiresAt)
  have scope := Option.some.inj (read.scope.symm.trans shown.scope)
  have nextSteps := Option.some.inj (read.nextSteps.symm.trans shown.nextSteps)
  have trbFollowUp := Option.some.inj (read.trbFollowUp.symm.trans followUp)
  have costBaseline := read.costBaseline.trans shown.costBaseline
  rw [confirmed, expiresAt, scope, nextSteps, trbFollowUp, costBaseline]

/-- The day of expiry is always among what is shown, so an early expiry is always taken back. -/
theorem updated_of_shown (shown : l.ShownBy values) :
    l.updated (values.date? "expiresAt") (values.text? "scope") (values.text? "nextSteps")
      (values.text? "costBaseline") = { l with expiredManually := false } := by
  rw [shown.expiresAt, shown.scope, shown.nextSteps, shown.costBaseline, updated]
  cases l.costBaseline <;> simp

end LcidRecord

end GovernanceDesk

import GovernanceDesk.Proofs.Calendar.Typed
import GovernanceDesk.Proofs.Calendar.Years
import GovernanceDesk.Proofs.Form.Chosen

/-!
# Dates that pass through a form

A form shows dates as text and reads the text back, so a date that is copied into a field is the date
of the mutation. The form that issues a life cycle ID to a request without one suggests a day of
expiry, the usual number of years from today, and today where the calendar does not go that far.

* `ActionForm.get?_setValue_of_chosen`, `ActionKind.expiresAt_of_buildMutation`: from a record that is
  chosen to the field, and from the field to the mutation.
* `Date.same_through_form`: reading back what is written, and what is copied.
* `ActionContext.suggestedExpiry_cases`, `ActionForm.hydrate_suggests_expiry`: the day of expiry that
  is suggested.
-/

namespace GovernanceDesk
set_option autoImplicit false

variable {ctx : ActionContext} {values : FormValues} {l : LcidRecord} {m : Mutation}

/-! ## Dates that are copied -/

/-- Entering the choice of an existing ID puts the day on which that ID expires into its field. -/
theorem ActionForm.get?_setValue_of_chosen {f g : ActionForm} {name : String} {value : FieldValue}
    (kind : f.kind = .issueLcid) (entered : f.setValue name value = .ok g)
    (selects : name ∈ lcidSelectionFields) (uses : g.values.flag "useExistingLcid" = true)
    (chosen : g.chosenLcid? = some l) :
    g.values.get? "expiresAt" = some (.text l.expiresAt.slashed) := by
  have alone : f.setValues [(name, value)] = .ok g := by
    rw [setValues, List.foldlM_cons, entered]
    rfl
  have selection : ∀ e ∈ [(name, value)], e.1 ∈ lcidSelectionFields :=
    List.forall_mem_singleton.2 selects
  obtain ⟨copied, rfl⟩ :=
    exists_copied_of_selected alone kind selection (List.cons_ne_nil _ _) uses
  rw [chosenLcid?_copyChosenLcid] at chosen
  rw [get?_copyChosenLcid_of_mem chosen (by decide)]
  simp [FormValues.ofChosen, FormValues.withLcid]

/-- A mutation that issues or confirms an ID has the date of the field. -/
theorem ActionKind.expiresAt_of_buildMutation {recipients : Option Recipients}
    (built : issueLcid.buildMutation values ctx recipients = .ok m) :
    ∃ d, (m.operation = .issueLcid d ∨ m.operation = .confirmLcid d) ∧
      values.date? "expiresAt" = some d.expiresAt := by
  obtain ⟨-, -, read⟩ := buildMutation_cases built
  obtain ⟨d, from_, ⟨-, confirms⟩ | ⟨-, issues⟩⟩ := readOperation_issueLcid read
  · exact ⟨_, .inr confirms, from_.expiresAt⟩
  · exact ⟨d, .inl issues, from_.expiresAt⟩

/-- Every date is read back from either of its written forms, whatever blanks stand around it, and no
text is a date in both formats. So where an existing ID is chosen, the mutation that is built while
its field is left alone expires on the day on which that ID does. -/
theorem Date.same_through_form :
    (∀ (d : Date) (before behind : String), Text.AllBlank before → Text.AllBlank behind →
      ofForm? (before ++ d.slashed ++ behind) = some d ∧
        ofForm? (before ++ d.iso ++ behind) = some d) ∧
    (∀ cs, ofSlashedChars? cs = none ∨ ofHyphenatedChars? cs = none) ∧
    ∀ (f g : ActionForm) (name : String) (value : FieldValue) (l : LcidRecord),
      f.kind = .issueLcid → f.setValue name value = .ok g →
      name ∈ ActionForm.lcidSelectionFields → g.values.flag "useExistingLcid" = true →
      g.chosenLcid? = some l →
      ∀ values : FormValues, values.get? "expiresAt" = g.values.get? "expiresAt" →
        values.date? "expiresAt" = some l.expiresAt ∧
        ∀ ctx recipients m, ActionKind.issueLcid.buildMutation values ctx recipients = .ok m →
          ∃ d, (m.operation = .issueLcid d ∨ m.operation = .confirmLcid d) ∧
            d.expiresAt = l.expiresAt := by
  refine ⟨fun d before behind blankBefore blankBehind => ?_, read_in_one_format,
    fun f g name value l kind entered selects uses chosen values kept => ?_⟩
  · rw [ofForm?_surrounded blankBefore blankBehind, ofForm?_surrounded blankBefore blankBehind]
    exact ⟨ofForm?_slashed d, ofForm?_iso d⟩
  · have field := ActionForm.get?_setValue_of_chosen kind entered selects uses chosen
    have date : values.date? "expiresAt" = some l.expiresAt :=
      FormValues.date?_of_get? (kept.trans field)
    refine ⟨date, fun ctx recipients m built => ?_⟩
    obtain ⟨d, operation, read⟩ := ActionKind.expiresAt_of_buildMutation built
    exact ⟨d, operation, Option.some.inj (read.symm.trans date)⟩

/-! ### A chosen ID that expires on a leap day far ahead -/

def leapDay : Date := ⟨2096, 2, 29, by decide⟩

def leapContext : ActionContext where
  intake := .opened "r1" "Data platform" ⟨"Ada", "ada@example.gov", none⟩ ⟨leapDay, 0, 0, by decide⟩
  existingLcids := []
  today := leapDay
  lcidTermYears := 4

def farLcid : LcidRecord where
  lcid := "96060A"
  issuedAt := ⟨leapDay, 0, 0, by decide⟩
  expiresAt := ⟨12096, 2, 29, by decide⟩
  retiresAt := none
  scope := "All of it"
  nextSteps := "Build it"
  trbFollowUp := .notRecommended
  costBaseline := none
  expiredManually := false

/-- Only the mark is missing that has the record of the ID copied. -/
def namingFarLcid : ActionForm :=
  { ActionForm.fresh .issueLcid "r1" with
    phase := .editing
    values := NameMap.ofList
      [("lcid", .text " 96060A"), ("trbFollowUp", .text "NOT_RECOMMENDED")]
    existingLcids := [farLcid] }

theorem Date.same_through_form_far :
    Text.AllBlank " \u2003" ∧ Text.AllBlank "\n" ∧
    ofForm? (" \u2003" ++ "02/29/+12096" ++ "\n") = some farLcid.expiresAt ∧
    ofForm? (" \u2003" ++ "+12096-02-29" ++ "\n") = some farLcid.expiresAt ∧
    ∃ g m d, namingFarLcid.setValue "useExistingLcid" (.mark true) = .ok g ∧
      ActionKind.issueLcid.buildMutation g.values leapContext none = .ok m ∧
      (m.operation = .issueLcid d ∨ m.operation = .confirmLcid d) ∧
      d.expiresAt = farLcid.expiresAt := by
  obtain ⟨read, -, copied⟩ := same_through_form
  have before : Text.AllBlank " \u2003" := by decide
  have behind : Text.AllBlank "\n" := by decide
  have written : farLcid.expiresAt.slashed = "02/29/+12096" ∧ farLcid.expiresAt.iso = "+12096-02-29" := by
    decide +kernel
  obtain ⟨slashed, iso⟩ := read farLcid.expiresAt _ _ before behind
  rw [written.1] at slashed
  rw [written.2] at iso
  have seen : (namingFarLcid.setValue "useExistingLcid" (.mark true)).toOption.any (fun g =>
      g.values.flag "useExistingLcid" && g.chosenLcid? == some farLcid &&
        (ActionKind.issueLcid.buildMutation g.values leapContext none).toOption.isSome) =
      true := by
    decide +kernel
  obtain ⟨g, entered, seen⟩ := exists_ok_of_any seen
  simp only [Bool.and_eq_true, beq_iff_eq] at seen
  obtain ⟨⟨uses, chosen⟩, builds⟩ := seen
  obtain ⟨m, built⟩ := exists_ok_of_isSome builds
  obtain ⟨d, operation, same⟩ :=
    (copied _ g _ _ farLcid rfl entered (by decide) uses chosen g.values rfl).2 _ _ m built
  exact ⟨before, behind, slashed, iso, g, m, d, entered, built, operation, same⟩

/-! ## The day that is suggested -/

/-- The day that is suggested is the usual number of years from today, if there is such a day. -/
theorem ActionContext.suggestedExpiry_cases (ctx : ActionContext) :
    ctx.today.YearsAfter ctx.lcidTermYears.toNat ctx.suggestedExpiry ∨
      (¬∃ d, ctx.today.YearsAfter ctx.lcidTermYears.toNat d) ∧ ctx.suggestedExpiry = ctx.today := by
  rw [suggestedExpiry]
  cases moved : ctx.today.addMonths? (Date.monthsIn ctx.lcidTermYears) with
  | some d => exact .inl (Date.addMonths?_monthsIn_eq_some_iff.1 moved)
  | none =>
    refine .inr ⟨fun ⟨d, after⟩ => ?_, rfl⟩
    rw [Date.addMonths?_monthsIn_eq_some_iff.2 after] at moved
    exact nomatch moved

/-- The form that issues an ID to a request without one is opened with a text for the day of expiry
that is read back as a date, and no date in the past: the same day the usual number of years from
today, or today where there is no such day. -/
theorem ActionForm.hydrate_suggests_expiry (ctx : ActionContext) (id : String)
    (free : ctx.intake.lcid = none) :
    ∃ f text d, (fresh .issueLcid id).hydrate (.ok ctx) = .ok f ∧ f.phase = .editing ∧
      f.values.get? "expiresAt" = some (.text text) ∧ Date.ofForm? text = some d ∧
      ctx.today ≤ d ∧
      (ctx.today.YearsAfter ctx.lcidTermYears.toNat d ∨
        (¬∃ e, ctx.today.YearsAfter ctx.lcidTermYears.toNat e) ∧ d = ctx.today) := by
  have values : ActionKind.issueLcid.defaults ctx =
      FormValues.setText ∅ "expiresAt" ctx.suggestedExpiry.slashed := by
    simp only [ActionKind.defaults, free]
  have shown : (ActionKind.issueLcid.defaults ctx).get? "expiresAt" =
      some (.text ctx.suggestedExpiry.slashed) := by
    rw [values, FormValues.get?_setText, if_pos rfl]
  have cases := ctx.suggestedExpiry_cases
  have notPast : ctx.today ≤ ctx.suggestedExpiry := by
    obtain after | ⟨-, today⟩ := cases
    · exact after.le
    · rw [today]
      exact Date.le_refl _
  exact ⟨_, _, _, rfl, rfl, shown, Date.ofForm?_slashed _, notPast, cases⟩

/-- Four years from a leap day there is none, where a century ends. -/
theorem ActionForm.hydrate_suggests_expiry_leap :
    leapContext.intake.lcid = none ∧
    ∃ f text d, (fresh .issueLcid "r1").hydrate (.ok leapContext) = .ok f ∧
      f.values.get? "expiresAt" = some (.text text) ∧ Date.ofForm? text = some d ∧
      d.year = 2100 ∧ d.month = 2 ∧ d.day = 28 := by
  obtain ⟨f, text, d, opened, -, shown, read, -, after | ⟨none, -⟩⟩ :=
    hydrate_suggests_expiry leapContext "r1" rfl
  · have day := after.day
    rw [after.year, after.month] at day
    exact ⟨rfl, f, text, d, opened, shown, read, after.year, after.month, day⟩
  · exact absurd (Date.exists_yearsAfter_iff.2 (by decide)) none

end GovernanceDesk

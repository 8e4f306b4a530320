import GovernanceDesk.Proofs.Form.Accepted
import GovernanceDesk.Proofs.Form.Shown

/-!
# Forms on another day

A form that issues a new life cycle ID starts from a day of expiry that is counted from the day it
is opened on. No other value hangs on the day. A day of expiry passes its check whichever it is and
decides nothing about the other fields, so a form that passes on one day passes on every day.

* `FormValues.AnotherDay`: values that differ in a day of expiry at most.
* `ActionKind.problems_anotherDay`: they pass the check together.
* `ActionForm.exists_fill_anotherDay`: filling in keeps the relation.
* `ActionForm.problems_anotherDay`: whole forms pass together.
-/

namespace GovernanceDesk
set_option autoImplicit false

/-! ## Values -/

namespace FormValues

variable {v w : FormValues} {name : String}

/-- The same values, but a day of expiry that is one in both may be another. -/
structure AnotherDay (v w : FormValues) : Prop where
  others : ∀ name, name ≠ "expiresAt" → w.get? name = v.get? name
  expiry : w.get? "expiresAt" = v.get? "expiresAt" ∨
    (v.date? "expiresAt").isSome = true ∧ (w.date? "expiresAt").isSome = true

namespace AnotherDay

theorem refl (v : FormValues) : v.AnotherDay v where
  others _ _ := rfl
  expiry := .inl rfl

theorem set (h : v.AnotherDay w) (name : String) (value : FieldValue) :
    AnotherDay (NameMap.set v name value) (NameMap.set w name value) where
  others other differs := by
    rw [NameMap.get?_set, NameMap.get?_set, h.others other differs]
  expiry := by
    by_cases own : "expiresAt" = name
    · exact .inl (by rw [NameMap.get?_set, NameMap.get?_set, if_pos own, if_pos own])
    · have kept : ∀ values : FormValues,
          (NameMap.set values name value).get? "expiresAt" = values.get? "expiresAt" := by
        intro values
        rw [NameMap.get?_set, if_neg own]
      rw [kept, kept, date?_congr (kept v), date?_congr (kept w)]
      exact h.expiry

theorem setTextIfAny (h : v.AnotherDay w) (name : String) (text? : Option String) :
    (v.setTextIfAny name text?).AnotherDay (w.setTextIfAny name text?) := by
  cases text? with
  | none => exact h
  | some text => exact h.set name (.text text)

theorem withLcid (h : v.AnotherDay w) (l : LcidRecord) :
    (v.withLcid l).AnotherDay (w.withLcid l) :=
  (((h.set _ _).set _ _).set _ _).setTextIfAny _ _

theorem text? (h : v.AnotherDay w) (other : name ≠ "expiresAt") : w.text? name = v.text? name :=
  text?_congr (h.others name other)

theorem flag (h : v.AnotherDay w) (other : name ≠ "expiresAt") : w.flag name = v.flag name :=
  flag_congr (h.others name other)

end AnotherDay

end FormValues

theorem Condition.holds_anotherDay {v w : FormValues} (h : v.AnotherDay w) (c : Condition) :
    c.holds w = c.holds v := by
  cases c with
  | always | never => rfl
  | progressingToMeeting =>
    rw [holds, FormValues.newStep?, h.text? (by decide), holds, FormValues.newStep?]
  | progressingToGrb => rw [holds, h.text? (by decide), holds]
  | usingExistingLcid => rw [holds, h.flag (by decide), holds]

/-! ## Checks -/

theorem Field.problem?_anotherDay {f : Field} {v w : FormValues} (h : v.AnotherDay w)
    (dated : f.name = "expiresAt" → f.kind = .date) (fine : f.problem? v = none) :
    f.problem? w = none := by
  have required : f.required w = f.required v := Condition.holds_anotherDay h _
  have kept : w.get? f.name = v.get? f.name → f.problem? w = none := by
    intro same
    rw [← fine, problem?, FormValues.text?_congr same, required, problem?]
  by_cases expiry : f.name = "expiresAt"
  · rcases h.expiry with same | ⟨-, dates⟩
    · exact kept (expiry ▸ same)
    · obtain ⟨d, read⟩ := Option.isSome_iff_exists.1 dates
      obtain ⟨text, held, date⟩ := Option.bind_eq_some_iff.1 read
      rw [problem?, if_neg (by rw [dated expiry]; decide), expiry, held]
      simp only [textProblem?, dated expiry, date, Option.isSome_some, if_true]
  · exact kept (h.others _ expiry)

namespace ActionKind

variable {kind : ActionKind} {v w : FormValues}

theorem date_of_expiresAt {f : Field} (own : f ∈ kind.fields) (expiry : f.name = "expiresAt") :
    f.kind = .date := by
  have all : ∀ f ∈ kind.fields, f.name = "expiresAt" → f.kind = .date := by
    cases kind <;> decide
  exact all f own expiry

theorem problems_anotherDay (h : v.AnotherDay w) (fine : kind.problems v = ∅) :
    kind.problems w = ∅ := by
  rw [problems_eq_empty_iff] at fine ⊢
  intro f shown
  obtain ⟨own, visible⟩ := List.mem_filter.1 shown
  have same : f.visible w = f.visible v := Condition.holds_anotherDay h _
  exact Field.problem?_anotherDay h (date_of_expiresAt own)
    (fine f (List.mem_filter.2 ⟨own, same ▸ visible⟩))

/-- Opened on another day, a form starts from the same values but for a day of expiry. -/
theorem defaults_anotherDay (kind : ActionKind) (ctx : ActionContext) (day : Date) :
    (kind.defaults ctx).AnotherDay (kind.defaults { ctx with today := day }) := by
  unfold defaults
  dsimp only
  split
  · exact .refl _
  · -- Only an ID that is issued is given a day that is counted from today.
    refine ⟨fun name other => ?_, .inr ⟨?_, ?_⟩⟩
    · rw [FormValues.get?_setText, FormValues.get?_setText, if_neg other, if_neg other]
    · rw [FormValues.date?_of_get? (FormValues.get?_setText .. |>.trans (if_pos rfl))]
      rfl
    · rw [FormValues.date?_of_get? (FormValues.get?_setText .. |>.trans (if_pos rfl))]
      rfl
  · exact .refl _
  · exact .refl _
  · exact .refl _

end ActionKind

/-! ## Forms -/

namespace ActionForm

variable {f f' : ActionForm} {w : FormValues} {r : ActionRequest}

/-- The same form with other values in it. -/
def showing (f : ActionForm) (w : FormValues) : ActionForm :=
  { f with values := w }

theorem chosenLcid?_anotherDay (h : f.values.AnotherDay w) :
    (f.showing w).chosenLcid? = f.chosenLcid? := by
  have same : (f.showing w).values.text? "lcid" = f.values.text? "lcid" := h.text? (by decide)
  rw [chosenLcid?, same, chosenLcid?]
  rfl

theorem exists_copyChosenLcid_anotherDay (h : f.values.AnotherDay w) :
    ∃ w', (f.showing w).copyChosenLcid = f.copyChosenLcid.showing w' ∧
      f.copyChosenLcid.values.AnotherDay w' := by
  rw [copyChosenLcid, chosenLcid?_anotherDay h, copyChosenLcid]
  split
  · exact ⟨w, rfl, h⟩
  next l _ =>
    exact ⟨_, rfl, h.withLcid { l with costBaseline := some (l.costBaseline.getD "") }⟩

theorem exists_setValue_anotherDay (h : f.values.AnotherDay w) {name : String} {value : FieldValue}
    (entered : f.setValue name value = .ok f') :
    ∃ w', (f.showing w).setValue name value = .ok (f'.showing w') ∧ f'.values.AnotherDay w' := by
  obtain ⟨editing, rest⟩ := of_expect_bind entered
  have goes : (f.showing w).expect .editing = .ok () := expect_of_phase editing
  have set := h.set name value
  rw [setValue, goes]
  split at rest
  · cases rest
  next known =>
    have known' : ¬((f.showing w).kind.field? name).isNone = true := known
    simp only [bind, Except.bind, pure, Except.pure, if_neg known'] at rest ⊢
    have uses : FormValues.flag (NameMap.set w name value) "useExistingLcid" =
        FormValues.flag (NameMap.set f.values name value) "useExistingLcid" :=
      set.flag (by decide)
    split at rest
    next chooses =>
      rw [if_pos (by rw [← uses] at chooses; exact chooses)]
      cases rest
      obtain ⟨w', copied, related⟩ :=
        exists_copyChosenLcid_anotherDay (f := { f with values := NameMap.set f.values name value })
          set
      exact ⟨w', congrArg Except.ok copied, related⟩
    next plain =>
      rw [if_neg (by rw [← uses] at plain; exact plain)]
      cases rest
      exact ⟨_, rfl, set⟩

theorem exists_setValues_anotherDay {values : List (String × FieldValue)}
    (h : f.values.AnotherDay w) (entered : f.setValues values = .ok f') :
    ∃ w', (f.showing w).setValues values = .ok (f'.showing w') ∧ f'.values.AnotherDay w' := by
  induction values generalizing f w with
  | nil =>
    cases entered
    exact ⟨w, rfl, h⟩
  | cons e values ih =>
    obtain ⟨next, first, rest⟩ := ok_of_bind_ok entered
    obtain ⟨w', first', related⟩ := exists_setValue_anotherDay h first
    obtain ⟨w'', rest', related'⟩ := ih related rest
    refine ⟨w'', ?_, related'⟩
    rw [setValues, List.foldlM_cons, first']
    exact rest'

theorem exists_fill_anotherDay (h : f.values.AnotherDay w) (filled : f.fill r = .ok f') :
    ∃ w', (f.showing w).fill r = .ok (f'.showing w') ∧ f'.values.AnotherDay w' := by
  obtain ⟨entered, values, rest⟩ := ok_of_bind_ok filled
  obtain ⟨w', values', related⟩ := exists_setValues_anotherDay h values
  rw [fill, values']
  split at rest
  next recipients _ =>
    obtain ⟨editing, rfl⟩ := setRecipients_cases rest
    have goes : (entered.showing w').expect .editing = .ok () := expect_of_phase editing
    refine ⟨w', ?_, related⟩
    simp only [bind, Except.bind, setRecipients, goes]
    rfl
  · cases rest
    exact ⟨w', rfl, related⟩

theorem problems_eq_empty_iff {suppressEmail : Bool} :
    f.problems suppressEmail = ∅ ↔ f.kind.problems f.values = ∅ ∧ f.namesUnknownLcid = false ∧
      (suppressEmail = false → f.recipients.problem? = none) := by
  refine ⟨checks_of_problems_eq_empty, fun ⟨fine, known, addressed⟩ => ?_⟩
  have told : (if suppressEmail then none else f.recipients.problem?) = none := by
    cases suppressEmail with
    | false => exact addressed rfl
    | true => rfl
  rw [problems]
  simp only [known, told, fine, Bool.false_eq_true, if_false]

theorem problems_anotherDay {suppressEmail : Bool} (h : f.values.AnotherDay w)
    (fine : f.problems suppressEmail = ∅) : (f.showing w).problems suppressEmail = ∅ := by
  obtain ⟨valid, known, addressed⟩ := problems_eq_empty_iff.1 fine
  refine problems_eq_empty_iff.2 ⟨ActionKind.problems_anotherDay h valid, ?_, addressed⟩
  have uses : (f.showing w).values.flag "useExistingLcid" = f.values.flag "useExistingLcid" :=
    h.flag (by decide)
  have named : (f.showing w).values.text? "lcid" = f.values.text? "lcid" := h.text? (by decide)
  rw [← known, namesUnknownLcid, uses, named, chosenLcid?_anotherDay h, namesUnknownLcid]
  rfl

end ActionForm

end GovernanceDesk

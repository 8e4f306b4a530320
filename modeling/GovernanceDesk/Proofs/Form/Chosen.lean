import GovernanceDesk.Proofs.Form.Shown

/-!
# Existing life cycle IDs that are chosen

Choosing an existing life cycle ID fills in its record, over whatever the form was opened with. The
choice is entered before everything else, in whichever order its own fields come, so that a value
which is given for a field of the record stands in place of what the record has for it.

* `FormValues.ofChosen`: what choosing a record fills in.
* `ActionForm.SelectionFirst`: orders of entering values in which the choice comes first.
* `ActionForm.exists_copied_of_selected`: after the choice, the form has copied the chosen record.
* `ActionForm.get?_fill_of_chosen`: where each field of the record then comes from.
-/

namespace GovernanceDesk
set_option autoImplicit false

/-! ## What is filled in -/

namespace FormValues

variable {values : FormValues} {l : LcidRecord} {name : String}

/-- What choosing an ID fills in; a record without a cost baseline blanks that field. -/
def ofChosen (l : LcidRecord) : FormValues :=
  withLcid ∅ { l with costBaseline := some (l.costBaseline.getD "") }

/-- A record with a cost baseline fills in all of its fields, whatever was there. -/
theorem get?_withLcid_of_mem (values : FormValues) (full : l.costBaseline.isSome = true)
    (own : name ∈ lcidFields) : (values.withLcid l).get? name = (withLcid ∅ l).get? name := by
  obtain ⟨baseline, held⟩ := Option.isSome_iff_exists.1 full
  simp only [lcidFields, List.mem_cons, List.not_mem_nil, or_false] at own
  rcases own with rfl | rfl | rfl | rfl <;> simp [withLcid, held]

/-- The texts of a chosen record are read like texts that were typed. -/
theorem text?_ofChosen (l : LcidRecord) :
    (ofChosen l).text? "scope" = Text.nonblank? l.scope ∧
      (ofChosen l).text? "nextSteps" = Text.nonblank? l.nextSteps ∧
      (ofChosen l).text? "costBaseline" = l.costBaseline.bind Text.nonblank? := by
  have scope : (ofChosen l).get? "scope" = some (.text l.scope) := by simp [ofChosen, withLcid]
  have nextSteps : (ofChosen l).get? "nextSteps" = some (.text l.nextSteps) := by
    simp [ofChosen, withLcid]
  have costBaseline : (ofChosen l).get? "costBaseline" =
      some (.text (l.costBaseline.getD "")) := by
    simp [ofChosen, withLcid]
  refine ⟨by rw [text?, scope], by rw [text?, nextSteps], ?_⟩
  rw [text?, costBaseline]
  cases l.costBaseline with
  | none => decide
  | some text => rw [Option.getD_some, Option.bind_some]

/-- The day of expiry of a chosen record is read back as it is. -/
theorem date?_ofChosen (l : LcidRecord) : (ofChosen l).date? "expiresAt" = some l.expiresAt :=
  date?_of_get? (by simp [ofChosen, withLcid])

theorem exists_get?_of_text? {text : String} (h : values.text? name = some text) :
    ∃ value, values.get? name = some value :=
  Option.ne_none_iff_exists'.1 fun missing => nomatch (text?_of_none missing).symm.trans h

theorem exists_get?_of_flag (h : values.flag name = true) :
    ∃ value, values.get? name = some value := by
  refine Option.ne_none_iff_exists'.1 fun missing => ?_
  rw [flag, missing] at h
  exact Bool.false_ne_true h

end FormValues

/-! ## Choosing first -/

namespace ActionForm

variable {f f' : ActionForm} {given : FormValues} {selected others : List (String × FieldValue)}
  {l : LcidRecord} {name number : String}

/-- An order of entering values in which the choice of an ID comes first. -/
structure SelectionFirst (given : FormValues) (selected others : List (String × FieldValue)) :
    Prop where
  entries : ∀ e, e ∈ selected ++ others ↔ e ∈ given.entries
  selected : ∀ e ∈ selected, e.1 ∈ lcidSelectionFields
  others : ∀ e ∈ others, e.1 ∉ lcidSelectionFields

theorem setValues_append_cases (h : f.setValues (selected ++ others) = .ok f') :
    ∃ g, f.setValues selected = .ok g ∧ g.setValues others = .ok f' := by
  rw [setValues, List.foldlM_append] at h
  exact ok_of_bind_ok h

theorem not_mem_lcidFields_of_selection (h : name ∈ lcidSelectionFields) :
    name ∉ FormValues.lcidFields := by
  have apart : ∀ name ∈ lcidSelectionFields, name ∉ FormValues.lcidFields := by decide
  exact apart name h

theorem SelectionFirst.mem_selected_iff (order : SelectionFirst given selected others)
    (own : name ∈ lcidSelectionFields) (value : FieldValue) :
    (name, value) ∈ selected ↔ given.get? name = some value := by
  rw [← NameMap.mem_entries_iff, ← order.entries, List.mem_append, iff_self_or]
  intro there
  exact absurd own (order.others _ there)

theorem SelectionFirst.mem_others_iff (order : SelectionFirst given selected others)
    (other : name ∉ lcidSelectionFields) (value : FieldValue) :
    (name, value) ∈ others ↔ given.get? name = some value := by
  rw [← NameMap.mem_entries_iff, ← order.entries, List.mem_append, iff_or_self]
  intro there
  exact absurd (order.selected _ there) other

/-- Once the choice is entered, what it says is in its fields. -/
theorem SelectionFirst.get?_selected (order : SelectionFirst given selected others)
    (h : f.setValues selected = .ok f') (own : name ∈ lcidSelectionFields) {value : FieldValue}
    (entered : given.get? name = some value) : f'.values.get? name = given.get? name := by
  rw [get?_setValues_of_entries h (.inl (not_mem_lcidFields_of_selection own))
    (order.mem_selected_iff own), entered, Option.some_or]

/-- The last field of the choice to be entered has the chosen record copied. -/
theorem exists_copied_of_selected (h : f.setValues selected = .ok f') (kind : f.kind = .issueLcid)
    (selection : ∀ e ∈ selected, e.1 ∈ lcidSelectionFields) (nonempty : selected ≠ [])
    (uses : f'.values.flag "useExistingLcid" = true) :
    ∃ g : ActionForm, f' = g.copyChosenLcid := by
  obtain ⟨earlier, last, rfl⟩ := (List.eq_nil_or_concat selected).resolve_left nonempty
  rw [List.concat_eq_append] at h selection
  obtain ⟨g, before, now⟩ := setValues_append_cases h
  obtain ⟨values, rfl⟩ := setValues_cases before
  obtain ⟨g, entered, rest⟩ := ok_of_bind_ok now
  cases rest
  obtain ⟨-, goes⟩ := of_expect_bind entered
  split at goes
  · exact nomatch goes
  dsimp only [bind, Except.bind, pure, Except.pure] at goes
  split at goes
  next =>
    cases goes
    exact ⟨_, rfl⟩
  next unchecked =>
    cases goes
    exact absurd ⟨kind, selection last (by simp), uses⟩ unchecked

theorem chosenLcid?_copyChosenLcid (f : ActionForm) :
    f.copyChosenLcid.chosenLcid? = f.chosenLcid? := by
  have same : f.copyChosenLcid.values.text? "lcid" = f.values.text? "lcid" :=
    FormValues.text?_congr (get?_copyChosenLcid f (by decide))
  have known : f.copyChosenLcid.existingLcids = f.existingLcids := by
    rw [copyChosenLcid]
    split <;> rfl
  rw [chosenLcid?, same, known, chosenLcid?]

/-- A form that has copied the chosen record shows it. -/
theorem get?_copyChosenLcid_of_mem (chosen : f.chosenLcid? = some l)
    (own : name ∈ FormValues.lcidFields) :
    f.copyChosenLcid.values.get? name = (FormValues.ofChosen l).get? name := by
  rw [copyChosenLcid, chosen]
  exact FormValues.get?_withLcid_of_mem _ rfl own

/-- A field of the record holds what is given for it, or else what the chosen record has. -/
theorem SelectionFirst.get?_setValues (order : SelectionFirst given selected others)
    (h : f.setValues (selected ++ others) = .ok f') (kind : f.kind = .issueLcid)
    (uses : given.flag "useExistingLcid" = true) (named : given.text? "lcid" = some number)
    (found : f.existingLcids.find? (fun l => l.lcid == number) = some l)
    (own : name ∈ FormValues.lcidFields) :
    f'.values.get? name =
      (if given.contains name then given else FormValues.ofChosen l).get? name := by
  obtain ⟨g, chosen, rest⟩ := setValues_append_cases h
  obtain ⟨mark, checked⟩ := FormValues.exists_get?_of_flag uses
  obtain ⟨text, picked⟩ := FormValues.exists_get?_of_text? named
  have uses' : g.values.flag "useExistingLcid" = true := by
    rw [FormValues.flag_congr (order.get?_selected chosen (by decide) checked), uses]
  have named' : g.values.text? "lcid" = some number := by
    rw [FormValues.text?_congr (order.get?_selected chosen (by decide) picked), named]
  have nonempty : selected ≠ [] :=
    List.ne_nil_of_mem ((order.mem_selected_iff (by decide) mark).2 checked)
  have record : g.chosenLcid? = some l := by
    obtain ⟨_, known⟩ := setValues_cases chosen
    rw [chosenLcid?, named', Option.bind_some, known]
    exact found
  obtain ⟨copied, rfl⟩ := exists_copied_of_selected chosen kind order.selected nonempty uses'
  rw [chosenLcid?_copyChosenLcid] at record
  have other : name ∉ lcidSelectionFields := fun selects =>
    not_mem_lcidFields_of_selection selects own
  rw [get?_setValues_of_entries rest (.inr order.others) (order.mem_others_iff other),
    get?_copyChosenLcid_of_mem record own, NameMap.contains]
  cases entered : given.get? name with
  | none => rfl
  | some value => exact entered.symm

/-! ## Forms that are filled in -/

variable {r : ActionRequest}

theorem exists_selectionFirst (r : ActionRequest) :
    ∃ selected others, r.orderedValues = selected ++ others ∧
      SelectionFirst r.values selected others := by
  refine ⟨_, _, rfl, fun e => mem_orderedValues, fun e mem => ?_, fun e mem selects => ?_⟩
  · exact List.contains_iff_mem.1 (List.mem_filter.1 mem).2
  · have plain : lcidSelectionFields.contains e.1 = false :=
      (Bool.not_eq_true' _).mp (List.mem_filter.1 mem).2
    rw [List.contains_iff_mem.2 selects] at plain
    exact nomatch plain

/-- In a form on which an existing ID is chosen, each field of the record holds what the request
gives for it, or else what the chosen record has. -/
theorem get?_fill_of_chosen (h : f.fill r = .ok f') (kind : f.kind = .issueLcid)
    (uses : r.values.flag "useExistingLcid" = true) (named : r.values.text? "lcid" = some number)
    (found : f.existingLcids.find? (fun l => l.lcid == number) = some l)
    (own : name ∈ FormValues.lcidFields) :
    f'.values.get? name =
      (if r.values.contains name then r.values else FormValues.ofChosen l).get? name := by
  obtain ⟨filled, entered, values⟩ := fill_cases h
  obtain ⟨selected, others, ordered, order⟩ := exists_selectionFirst r
  rw [ordered] at entered
  rw [values]
  exact order.get?_setValues entered kind uses named found own

end ActionForm

end GovernanceDesk

import GovernanceDesk.Proofs.Form.Steps
import GovernanceDesk.Store.RunAction

/-!
# Forms filled in and pressed

A form that is filled in holds what was entered, and in every other field what it was opened with;
only choosing an existing life cycle ID fills in more. A form that is pressed and sends a mutation
has passed its check, and the mutation is built from its values.

* `ActionForm.get?_fill`, `ActionForm.values_of_fill_untouched`: the values of a filled-in form.
* `ActionForm.Sends`, `ActionForm.sends_of_press`: what a pressed form sends.
-/

namespace GovernanceDesk
set_option autoImplicit false

/-! ## Values of a record -/

namespace FormValues

@[simp] theorem get?_setText (values : FormValues) (name text other : String) :
    (values.setText name text).get? other =
      if other = name then some (.text text) else values.get? other :=
  NameMap.get?_set ..

@[simp] theorem get?_setTextIfAny (values : FormValues) (name : String) (text? : Option String)
    (other : String) :
    (values.setTextIfAny name text?).get? other =
      if other = name then (text?.map FieldValue.text).or (values.get? name)
      else values.get? other := by
  cases text? with
  | some text => exact get?_setText values name text other
  | none =>
    rw [setTextIfAny, Option.map_none, Option.none_or]
    split
    · next same => rw [same]
    · rfl

/-- The fields that the record of a life cycle ID fills in. -/
def lcidFields : List String := ["expiresAt", "scope", "nextSteps", "costBaseline"]

theorem get?_withLcid (values : FormValues) (l : LcidRecord) {name : String}
    (other : name ∉ lcidFields) : (values.withLcid l).get? name = values.get? name := by
  simp only [lcidFields, List.mem_cons, List.not_mem_nil, or_false, not_or] at other
  obtain ⟨expiresAt, scope, nextSteps, costBaseline⟩ := other
  simp only [withLcid, get?_setTextIfAny, get?_setText, if_neg expiresAt, if_neg scope,
    if_neg nextSteps, if_neg costBaseline]

end FormValues

namespace ActionForm

variable {f f' : ActionForm} {r : ActionRequest} {ctx : ActionContext} {m : Mutation}

/-! ## Filling in -/

/-- Entering values changes the values and nothing else. -/
theorem setValues_cases {values : List (String × FieldValue)} (h : f.setValues values = .ok f') :
    ∃ entered, f' = { f with values := entered } := by
  induction values generalizing f with
  | nil =>
    cases h
    exact ⟨_, rfl⟩
  | cons e values ih =>
    obtain ⟨next, first, rest⟩ := ok_of_bind_ok h
    obtain ⟨-, _, rfl⟩ := setValue_cases first
    obtain ⟨entered, rfl⟩ := ih rest
    exact ⟨entered, rfl⟩

theorem get?_copyChosenLcid (f : ActionForm) {name : String}
    (other : name ∉ FormValues.lcidFields) :
    f.copyChosenLcid.values.get? name = f.values.get? name := by
  rw [copyChosenLcid]
  split
  · rfl
  · exact FormValues.get?_withLcid _ _ other

/-- Entering a value sets its field. Only the choice of a life cycle ID sets others with it. -/
theorem get?_setValue {name : String} {value : FieldValue} (h : f.setValue name value = .ok f')
    {other : String} (own : other ∉ FormValues.lcidFields ∨ name ∉ lcidSelectionFields) :
    f'.values.get? other = if other = name then some value else f.values.get? other := by
  obtain ⟨-, hr⟩ := of_expect_bind h
  split at hr
  · exact nomatch hr
  · dsimp only [bind, Except.bind, pure, Except.pure] at hr
    split at hr
    next copies =>
      cases hr
      have kept : other ∉ FormValues.lcidFields := own.resolve_right fun plain => plain copies.2.1
      rw [get?_copyChosenLcid _ kept, NameMap.get?_set]
    next =>
      cases hr
      exact NameMap.get?_set ..

/-- A field holds one of the values entered for it; without any it is as it was. -/
theorem get?_setValues {values : List (String × FieldValue)} (h : f.setValues values = .ok f')
    {name : String}
    (own : name ∉ FormValues.lcidFields ∨ ∀ e ∈ values, e.1 ∉ lcidSelectionFields) :
    (∃ value, (name, value) ∈ values ∧ f'.values.get? name = some value) ∨
      (∀ value, (name, value) ∉ values) ∧ f'.values.get? name = f.values.get? name := by
  induction values generalizing f with
  | nil =>
    cases h
    exact .inr ⟨fun _ => List.not_mem_nil, rfl⟩
  | cons e values ih =>
    obtain ⟨next, first, rest⟩ := ok_of_bind_ok h
    have own' := own.imp_right fun plain e mem => plain e (List.mem_cons_of_mem _ mem)
    rcases ih rest own' with ⟨value, entered, held⟩ | ⟨absent, held⟩
    · exact .inl ⟨value, List.mem_cons_of_mem _ entered, held⟩
    rw [get?_setValue first (own.imp_right fun plain => plain e (List.mem_cons_self ..))] at held
    by_cases same : name = e.1
    · rw [if_pos same] at held
      exact .inl ⟨e.2, same ▸ List.mem_cons_self .., held⟩
    · rw [if_neg same] at held
      refine .inr ⟨fun value entered => ?_, held⟩
      rcases List.mem_cons.1 entered with here | there
      · exact same (congrArg Prod.fst here)
      · exact absent value there

/-- Entering the entries of a map, in whatever order, leaves in a field what the map has for it, or
else what was there. -/
theorem get?_setValues_of_entries {values : List (String × FieldValue)} {given : FormValues}
    (h : f.setValues values = .ok f') {name : String}
    (own : name ∉ FormValues.lcidFields ∨ ∀ e ∈ values, e.1 ∉ lcidSelectionFields)
    (entries : ∀ value, (name, value) ∈ values ↔ given.get? name = some value) :
    f'.values.get? name = (given.get? name).or (f.values.get? name) := by
  rcases get?_setValues h own with ⟨value, entered, held⟩ | ⟨absent, held⟩
  · rw [held, (entries value).1 entered, Option.some_or]
  · have missing : given.get? name = none := by
      refine Option.eq_none_iff_forall_ne_some.2 fun value there => ?_
      exact absent value ((entries value).2 there)
    rw [held, missing, Option.none_or]

theorem mem_orderedValues {e : String × FieldValue} :
    e ∈ r.orderedValues ↔ e ∈ r.values.entries := by
  simp only [ActionRequest.orderedValues, List.mem_append, List.mem_filter, ← and_or_left,
    Bool.not_eq_true', Bool.eq_false_or_eq_true, and_true]

/-- A filled-in form has been through two steps: the values, then the recipients. -/
theorem fill_cases (h : f.fill r = .ok f') :
    ∃ filled, f.setValues r.orderedValues = .ok filled ∧ f'.values = filled.values := by
  obtain ⟨filled, values, rest⟩ := ok_of_bind_ok h
  refine ⟨filled, values, ?_⟩
  split at rest
  · obtain ⟨-, rfl⟩ := setRecipients_cases rest
    rfl
  · cases rest
    rfl

/-- Filling in changes the values and the recipients and nothing else. -/
theorem exists_fill_eq (h : f.fill r = .ok f') :
    ∃ values recipients, f' = { f with values := values, recipients := recipients } := by
  obtain ⟨filled, entered, rest⟩ := ok_of_bind_ok h
  obtain ⟨values, rfl⟩ := setValues_cases entered
  split at rest
  · obtain ⟨-, rfl⟩ := setRecipients_cases rest
    exact ⟨values, _, rfl⟩
  · cases rest
    exact ⟨values, f.recipients, rfl⟩

theorem kind_of_fill (h : f.fill r = .ok f') : f'.kind = f.kind := by
  obtain ⟨_, _, rfl⟩ := exists_fill_eq h
  rfl

/-- A field holds what the request gives for it, or else what the form was opened with. -/
theorem get?_fill (h : f.fill r = .ok f') {name : String} (own : name ∉ FormValues.lcidFields) :
    f'.values.get? name = (r.values.get? name).or (f.values.get? name) := by
  obtain ⟨filled, entered, values⟩ := fill_cases h
  rw [values]
  refine get?_setValues_of_entries entered (.inl own) fun value => ?_
  rw [mem_orderedValues, NameMap.mem_entries_iff]

theorem values_of_fill_untouched (h : f.fill r = .ok f') (untouched : r.values = ∅) :
    f'.values = f.values := by
  obtain ⟨filled, entered, values⟩ := fill_cases h
  rw [values]
  have nothing : r.orderedValues = [] := by
    rw [ActionRequest.orderedValues, untouched]
    rfl
  rw [nothing] at entered
  cases entered
  rfl

/-! ## Pressing -/

/-- What pressing a form sends: the form passes its check, and the mutation is built from its values
in the context it is pressed in. -/
structure Sends (f : ActionForm) (ctx : ActionContext) (m : Mutation) : Prop where
  fine : f.kind.problems f.values = ∅
  built : ∃ told, f.kind.buildMutation f.values ctx told = .ok m

theorem Begun.built (h : Begun f ctx f' (.dispatch m)) :
    ∃ told, f.kind.buildMutation f.values ctx told = .ok m := by
  cases h with
  | sent _ built => exact ⟨_, built⟩

theorem sends_of_press (h : f.press r ctx = .ok (f', .dispatch m)) : f.Sends ctx m := by
  obtain ⟨⟨pressed, o⟩, hs, rest⟩ := ok_of_bind_ok h
  obtain ⟨-, settled⟩ := submit_cases hs
  cases o with
  | invalid messages => cases rest
  | needsConfirmation question =>
    cases settled with
    | asked _ checked =>
      -- What was checked is what is sent once the question is answered.
      dsimp only at rest
      split at rest
      · obtain ⟨-, begun⟩ := confirm_cases rest
        exact ⟨(checks_of_problems_eq_empty checked).1, begun.built⟩
      · cases rest
    | begun _ _ _ _ begun => cases begun
  | dispatch sent =>
    cases rest
    cases settled with
    | begun _ _ checked _ begun =>
      exact ⟨(checks_of_problems_eq_empty checked).1, begun.built⟩

end ActionForm

end GovernanceDesk

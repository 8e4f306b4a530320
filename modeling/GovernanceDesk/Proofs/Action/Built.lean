import GovernanceDesk.Action.Building

/-!
# The mutation that is built

A mutation is addressed to the request of the context it was built from, to the recipients that were
handed over, and holds an operation of the action of its form.

* `LcidDecision.ReadFrom`: what a decision on a life cycle ID has from which field.
* `ActionKind.readOperation_issueLcid`, `readOperation_updateLcid`, `readOperation_retireLcid`: the
  operations on life cycle IDs with what they carry.
* `ActionKind.built_of_buildMutation`: every mutation that is built.
-/

namespace GovernanceDesk
set_option autoImplicit false

/-! ## Readings -/

namespace Reading

variable {α β : Type}

@[simp] theorem value?_pure (x : α) : (pure x : Reading α).value? = some x := rfl

@[simp] theorem value?_seq (f : Reading (α → β)) (x : Reading α) :
    (f <*> x).value? = f.value?.bind fun g => x.value?.map g := by
  obtain ⟨g?, _⟩ := f
  obtain ⟨v?, _⟩ := x
  cases g? <;> cases v? <;> rfl

@[simp] theorem value?_map (g : α → β) (x : Reading α) : (g <$> x).value? = x.value?.map g := by
  change (pure g <*> x : Reading β).value? = _
  simp

@[simp] theorem value?_ofOption (v? : Option α) (field message : String) :
    (ofOption v? field message).value? = v? := by
  cases v? <;> rfl

theorem result_ok {r : Reading α} {x : α} (h : r.result = .ok x) :
    r.value? = some x ∧ r.problems = [] := by
  rw [result] at h
  split at h
  next value none =>
    cases h
    exact ⟨value, none⟩
  · exact nomatch h

end Reading

/-! ## Fields -/

namespace FormValues

variable {values : FormValues} {name : String}

@[simp] theorem value?_readText : (values.readText name).value? = values.text? name := by
  rw [readText, Reading.value?_ofOption]

@[simp] theorem value?_readDate : (values.readDate name).value? = values.date? name := by
  rw [readDate, Reading.value?_ofOption]

@[simp] theorem value?_readChoice {α : Type} [Tagged α] :
    (values.readChoice name : Reading α).value? =
      (values.text? name).bind Tagged.ofSpelling? := by
  rw [readChoice, Reading.value?_ofOption]

/-- A date that may be left blank is the date of the field, if it has one. -/
theorem eq_of_readDateIfAny {date : Option Date}
    (h : (values.readDateIfAny name).value? = some date) : date = values.date? name := by
  rw [readDateIfAny] at h
  split at h
  next blank =>
    cases h
    rw [date?, blank, Option.bind_none]
  · rw [Reading.value?_map, value?_readDate, Option.map_eq_some_iff] at h
    obtain ⟨_, read, rfl⟩ := h
    exact read.symm

end FormValues

/-- Which fields a decision on a life cycle ID was read from. -/
structure LcidDecision.ReadFrom (values : FormValues) (d : LcidDecision) : Prop where
  lcid : d.lcid = if values.flag "useExistingLcid" then values.text? "lcid" else none
  expiresAt : values.date? "expiresAt" = some d.expiresAt
  scope : values.text? "scope" = some d.scope
  nextSteps : values.text? "nextSteps" = some d.nextSteps
  trbFollowUp : (values.text? "trbFollowUp").bind Tagged.ofSpelling? = some d.trbFollowUp
  costBaseline : d.costBaseline = values.text? "costBaseline"

theorem FormValues.readFrom_of_readLcidDecision {values : FormValues} {d : LcidDecision}
    (h : values.readLcidDecision.value? = some d) : d.ReadFrom values := by
  simp only [readLcidDecision, Reading.value?_seq, Reading.value?_map, Reading.value?_pure,
    value?_readText, value?_readDate, value?_readChoice, Option.bind_eq_some_iff,
    Option.map_eq_some_iff, Option.some.injEq] at h
  obtain ⟨_, ⟨_, ⟨_, ⟨_, ⟨_, ⟨lcid, chosen, rfl⟩, _, expiresAt, rfl⟩, _, scope, rfl⟩, _, nextSteps,
    rfl⟩, trbFollowUp, choice, rfl⟩, _, rfl, rfl⟩ := h
  refine ⟨?_, expiresAt, scope, nextSteps, Option.bind_eq_some_iff.2 choice, rfl⟩
  change lcid = _
  by_cases uses : values.flag "useExistingLcid" = true
  · rw [if_pos uses, Reading.value?_map, value?_readText, Option.map_eq_some_iff] at chosen
    obtain ⟨_, named, rfl⟩ := chosen
    rw [if_pos uses, named]
  · rw [if_neg uses] at chosen ⊢
    exact (Option.some.inj chosen).symm

/-! ## Operations -/

namespace ActionKind

variable {kind : ActionKind} {values : FormValues} {intake : Intake} {op : Operation}

theorem action_of_readMove (h : values.readMove.value? = some op) :
    op.action = .progressToNewStep := by
  rw [FormValues.readMove] at h
  split at h
  · simp only [FormValues.readMoveTo, Reading.value?_seq, Reading.value?_map, Reading.value?_pure,
      Option.bind_eq_some_iff, Option.map_eq_some_iff] at h
    obtain ⟨_, ⟨_, ⟨_, _, rfl⟩, _, _, rfl⟩, _, _, rfl⟩ := h
    rfl
  · exact nomatch h

/-- A move goes to the step that the form names. -/
theorem newStep?_of_readMove {newStep : Step} {date : Option Date}
    {feedback recommendations : Option String}
    (h : values.readMove.value? =
      some (.progressToNewStep newStep date feedback recommendations)) :
    values.newStep? = some newStep := by
  rw [FormValues.readMove] at h
  split at h
  next step named =>
    simp only [FormValues.readMoveTo, Reading.value?_seq, Reading.value?_map, Reading.value?_pure,
      Option.bind_eq_some_iff, Option.map_eq_some_iff] at h
    obtain ⟨_, ⟨_, ⟨_, _, rfl⟩, _, _, rfl⟩, _, _, same⟩ := h
    cases same
    exact named
  · exact nomatch h

/-- Edits are requested for the form that is chosen. -/
theorem target?_of_readOperation {target : FeedbackTarget} {text : String}
    (h : (requestEdits.readOperation values intake).value? = some (.requestEdits target text)) :
    (values.text? "intakeFormStep").bind Tagged.ofSpelling? = some target := by
  simp only [readOperation, Reading.value?_seq, Reading.value?_map, FormValues.value?_readChoice,
    Option.bind_eq_some_iff, Option.map_eq_some_iff] at h
  obtain ⟨_, ⟨_, chosen, rfl⟩, _, _, same⟩ := h
  cases same
  exact Option.bind_eq_some_iff.2 chosen

theorem action_of_readOperation (h : (kind.readOperation values intake).value? = some op) :
    op.action = kind := by
  cases kind with
  | progressToNewStep => exact action_of_readMove h
  | requestEdits =>
    simp only [readOperation, Reading.value?_seq, Reading.value?_map, Option.bind_eq_some_iff,
      Option.map_eq_some_iff] at h
    obtain ⟨_, ⟨_, _, rfl⟩, _, _, rfl⟩ := h
    rfl
  | notApproved =>
    simp only [readOperation, Reading.value?_seq, Reading.value?_map, Option.bind_eq_some_iff,
      Option.map_eq_some_iff] at h
    obtain ⟨_, ⟨_, ⟨_, _, rfl⟩, _, _, rfl⟩, _, _, rfl⟩ := h
    rfl
  | issueLcid | retireLcid =>
    -- The request decides between two operations; both belong to the action.
    rw [readOperation] at h
    split at h
    all_goals
      simp only [Reading.value?_map, Option.map_eq_some_iff] at h
      obtain ⟨_, _, rfl⟩ := h
      rfl
  | updateLcid | expireLcid =>
    simp only [readOperation, Reading.value?_map, Option.map_eq_some_iff] at h
    obtain ⟨_, _, rfl⟩ := h
    rfl
  | unretireLcid | notGovernance | closeRequest | reopenRequest =>
    cases h
    rfl

/-- A request that holds a life cycle ID has it confirmed, and only one that holds none is issued
one. -/
theorem readOperation_issueLcid (h : (issueLcid.readOperation values intake).value? = some op) :
    ∃ d : LcidDecision, d.ReadFrom values ∧
      (intake.lcid.isSome = true ∧ op = .confirmLcid { d with lcid := none } ∨
        intake.lcid = none ∧ op = .issueLcid d) := by
  rw [readOperation] at h
  split at h
  next holds =>
    rw [Reading.value?_map, Option.map_eq_some_iff] at h
    obtain ⟨d, read, rfl⟩ := h
    exact ⟨d, FormValues.readFrom_of_readLcidDecision read, .inl ⟨holds, rfl⟩⟩
  next free =>
    rw [Reading.value?_map, Option.map_eq_some_iff] at h
    obtain ⟨d, read, rfl⟩ := h
    exact ⟨d, FormValues.readFrom_of_readLcidDecision read, .inr ⟨by simpa using free, rfl⟩⟩

theorem readOperation_updateLcid (h : (updateLcid.readOperation values intake).value? = some op) :
    op = .updateLcid (values.date? "expiresAt") (values.text? "scope") (values.text? "nextSteps")
      (values.text? "costBaseline") (values.text? "reason") := by
  rw [readOperation, Reading.value?_map, Option.map_eq_some_iff] at h
  obtain ⟨date, read, rfl⟩ := h
  rw [FormValues.eq_of_readDateIfAny read]

/-- The date of a retirement that is planned already is moved. -/
theorem readOperation_retireLcid (retiring : intake.lcid.any (·.retiresAt.isSome) = true)
    (h : (retireLcid.readOperation values intake).value? = some op) :
    ∃ date, values.date? "retiresAt" = some date ∧ op = .changeLcidRetirementDate date := by
  rw [readOperation, if_pos retiring, Reading.value?_map, Option.map_eq_some_iff] at h
  obtain ⟨date, read, rfl⟩ := h
  exact ⟨date, by simpa using read, rfl⟩

/-! ## Mutations -/

variable {ctx : ActionContext} {recipients : Option Recipients} {m : Mutation}

/-- A mutation as its form, its context and its recipients determine it. -/
structure Built (kind : ActionKind) (ctx : ActionContext) (recipients : Option Recipients)
    (m : Mutation) : Prop where
  intakeId : m.intakeId = ctx.intake.id
  recipients : m.recipients = recipients
  action : m.operation.action = kind

theorem buildMutation_cases (h : kind.buildMutation values ctx recipients = .ok m) :
    m.intakeId = ctx.intake.id ∧ m.recipients = recipients ∧
      (kind.readOperation values ctx.intake).value? = some m.operation := by
  rw [buildMutation] at h
  cases read : (kind.readOperation values ctx.intake).result with
  | error messages =>
    rw [read] at h
    exact nomatch h
  | ok operation =>
    rw [read] at h
    cases h
    exact ⟨rfl, rfl, (Reading.result_ok read).1⟩

theorem built_of_buildMutation (h : kind.buildMutation values ctx recipients = .ok m) :
    kind.Built ctx recipients m := by
  obtain ⟨intakeId, told, read⟩ := buildMutation_cases h
  exact ⟨intakeId, told, action_of_readOperation read⟩

end ActionKind

end GovernanceDesk

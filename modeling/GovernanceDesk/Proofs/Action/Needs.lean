import GovernanceDesk.Proofs.Action.Built

/-!
# What a form has to hold

Each action needs some of the fields of its form: a text, a date, a date unless it is left blank, or
a choice. Which ones it needs hangs on the values entered, and never on a value that cannot be read.
A form that holds all of them is read; any other gets one message on each field that it lacks and on
no other field. What is read is what was entered: nothing stands in for a value that is missing.

* `Need`, `ActionKind.needs`: the fields an action needs, and how each of them has to read.
* `Reading.Asks`: a reading that has a value exactly when its needs are met.
* `FormValues.asks_readLcidDecision`, `ActionKind.asks_readOperation`: the operations read so.
* `Operation.ReadFrom`: which field each part of an operation was read from.
* `ActionKind.buildMutation_by_needs`: when a mutation is built, what it holds, and what is said of
  a form it cannot be built from.
-/

namespace GovernanceDesk
set_option autoImplicit false

/-! ## Needs -/

/-- How a field has to read. -/
inductive Demand where
  | text
  | date
  | dateIfAny
  /-- One of a closed set of tags, in any spelling. -/
  | choice (tags : List String)

namespace Demand

/-- Whether the text of a field, if it has one, will do. -/
def accepts (text? : Option String) : Demand → Bool
  | text => text?.isSome
  | date => text?.any fun written => (Date.ofForm? written).isSome
  | dateIfAny => text?.all fun written => (Date.ofForm? written).isSome
  | choice tags => text?.any fun written => tags.contains (Tagged.normalized written)

def message : Demand → String
  | text => "This field is required"
  | date | dateIfAny => "A valid date is required"
  | choice _ => "A valid selection is required"

end Demand

/-- A field that an action needs. -/
structure Need where
  name : String
  demand : Demand

namespace Need

def isMet (values : FormValues) (need : Need) : Bool :=
  need.demand.accepts (values.text? need.name)

def text (name : String) : Need := ⟨name, .text⟩

def date (name : String) : Need := ⟨name, .date⟩

def dateIfAny (name : String) : Need := ⟨name, .dateIfAny⟩

def choice (α : Type) [Tagged α] (name : String) : Need := ⟨name, .choice (Tagged.tags α)⟩

end Need

/-- The fields an action needs under the values entered. The meeting to which a request is moved is
known only where the step is, and a life cycle ID is named only where one is used again. -/
def ActionKind.needs (kind : ActionKind) (values : FormValues) : List Need :=
  match kind with
  | .requestEdits => [.choice FeedbackTarget "intakeFormStep", .text "emailFeedback"]
  | .progressToNewStep =>
    .choice Step "newStep" ::
      if (values.newStep?).any Step.isMeeting then [.dateIfAny "meetingDate"] else []
  | .issueLcid =>
    (if values.flag "useExistingLcid" then [.text "lcid"] else []) ++
      [.date "expiresAt", .text "scope", .text "nextSteps", .choice TrbFollowUp "trbFollowUp"]
  | .updateLcid => [.dateIfAny "expiresAt"]
  | .retireLcid => [.date "retiresAt"]
  | .expireLcid => [.text "reason"]
  | .notApproved => [.text "reason", .text "nextSteps", .choice TrbFollowUp "trbFollowUp"]
  | .unretireLcid | .notGovernance | .closeRequest | .reopenRequest => []

/-- No action needs a field twice. -/
theorem ActionKind.nodup_needs (kind : ActionKind) (values : FormValues) :
    ((kind.needs values).map Need.name).Nodup := by
  cases kind with
  | progressToNewStep | issueLcid =>
    rw [needs]
    split <;> decide
  | _ =>
    rw [needs]
    decide

/-! ## Readings that ask for needs -/

namespace Reading

variable {α β : Type} {values : FormValues} {needs more : List Need}

theorem problems_seq (f : Reading (α → β)) (x : Reading α) :
    (f <*> x).problems = f.problems ++ x.problems := rfl

/-- A reading has a value exactly when its needs are met, and else a message on each that is not. -/
structure Asks (values : FormValues) (needs : List Need) (r : Reading α) : Prop where
  isSome_value? : r.value?.isSome = needs.all fun need => need.isMet values
  problems : r.problems =
    (needs.filter fun need => !need.isMet values).map fun need => (need.name, need.demand.message)

namespace Asks

theorem pure (x : α) : Asks values [] (Pure.pure x : Reading α) := ⟨rfl, rfl⟩

theorem map {x : Reading α} (g : α → β) (h : Asks values needs x) :
    Asks values needs (g <$> x) where
  isSome_value? := by
    rw [value?_map, Option.isSome_map]
    exact h.isSome_value?
  problems := h.problems

theorem seq {f : Reading (α → β)} {x : Reading α} (hf : Asks values needs f)
    (hx : Asks values more x) : Asks values (needs ++ more) (f <*> x) where
  isSome_value? := by
    have both : (f <*> x).value?.isSome = (f.value?.isSome && x.value?.isSome) := by
      rw [value?_seq]
      cases f.value? <;> cases x.value? <;> rfl
    rw [both, hf.isSome_value?, hx.isSome_value?, List.all_append]
  problems := by
    rw [problems_seq, hf.problems, hx.problems, List.filter_append, List.map_append]

/-- A part that is read only under a condition is needed only under it. -/
theorem ite {c : Prop} [Decidable c] {r : Reading α} (x : α) (h : c → Asks values needs r) :
    Asks values (if c then needs else []) (if c then r else Pure.pure x) := by
  split
  next holds => exact h holds
  · exact pure x

theorem ofOption {v? : Option α} (need : Need) (found : v?.isSome = need.isMet values) :
    Asks values [need] (Reading.ofOption v? need.name need.demand.message) where
  isSome_value? := by
    rw [value?_ofOption, found, List.all_cons, List.all_nil, Bool.and_true]
  problems := by
    cases v? with
    | none =>
      have unmet : need.isMet values = false := found.symm
      simp [Reading.ofOption, fail, unmet]
    | some x =>
      have isMet : need.isMet values = true := found.symm
      simp [Reading.ofOption, of, isMet]

end Asks

/-! ### Results -/

theorem get?_foldl_setNew (problems : List (String × String)) (messages : Messages)
    (name : String) :
    (problems.foldl (fun m p => m.setNew p.1 p.2) messages).get? name =
      (messages.get? name).or (problems.lookup name) := by
  induction problems generalizing messages with
  | nil => simp
  | cons p problems ih =>
    obtain ⟨field, message⟩ := p
    rw [List.foldl_cons, ih, lookup_cons_ite]
    unfold NameMap.setNew NameMap.contains
    by_cases same : name = field
    · subst same
      cases held : messages.get? name <;> simp [held]
    · split <;> simp [same]

/-- On a field stands the first message that there is on it. -/
theorem get?_messages (r : Reading α) (name : String) :
    r.messages.get? name = r.problems.lookup name := by
  rw [messages, get?_foldl_setNew, NameMap.get?_empty, Option.none_or]

theorem messages_of_result_error {r : Reading α} {messages : Messages}
    (h : r.result = .error messages) : messages = r.messages := by
  rw [result] at h
  split at h
  · cases h
  · exact (Except.error.inj h).symm

namespace Asks

variable {r : Reading α} (h : Asks values needs r)
include h

theorem problems_eq_nil_iff : r.problems = [] ↔ ∀ need ∈ needs, need.isMet values = true := by
  rw [h.problems, List.map_eq_nil_iff, List.filter_eq_nil_iff]
  simp

theorem exists_result_iff :
    (∃ x, r.result = .ok x) ↔ ∀ need ∈ needs, need.isMet values = true := by
  rw [← h.problems_eq_nil_iff]
  constructor
  · rintro ⟨x, read⟩
    exact (result_ok read).2
  · intro silent
    have allMet := h.problems_eq_nil_iff.1 silent
    obtain ⟨x, found⟩ : ∃ x, r.value? = some x := by
      rw [← Option.isSome_iff_exists, h.isSome_value?, List.all_eq_true]
      exact allMet
    exact ⟨x, by rw [result, found, silent]⟩

/-- The messages are those of the needs that are not met, each on its own field. -/
theorem get?_messages_iff (distinct : (needs.map Need.name).Nodup) {name message : String} :
    r.messages.get? name = some message ↔
      ∃ need ∈ needs, need.name = name ∧ need.demand.message = message ∧
        need.isMet values = false := by
  rw [get?_messages, h.problems]
  clear h
  induction needs with
  | nil => simp
  | cons need needs ih =>
    obtain ⟨fresh, distinct⟩ := List.nodup_cons.1 distinct
    rw [List.filter_cons]
    by_cases isMet : need.isMet values = true
    · simp [isMet, ih distinct]
    · rw [if_pos (by simpa using isMet), List.map_cons, lookup_cons_ite]
      by_cases same : name = need.name
      · -- No other need is about this field.
        have others : ∀ other ∈ needs, other.name ≠ name := fun other mem equal =>
          fresh (List.mem_map.2 ⟨other, mem, equal.trans same⟩)
        subst same
        simp only [if_true, List.mem_cons, exists_eq_or_imp, Option.some.injEq, true_and]
        constructor
        · intro equal
          exact .inl ⟨equal, by simpa using isMet⟩
        · rintro (⟨equal, -⟩ | ⟨other, mem, equal, -⟩)
          · exact equal
          · exact absurd equal (others other mem)
      · have other : ¬ (need.name = name ∧ need.demand.message = message ∧
            need.isMet values = false) := fun ⟨equal, _⟩ => same equal.symm
        simp only [if_neg same, ih distinct, List.mem_cons, exists_eq_or_imp, other, false_or]

end Asks

end Reading

/-! ## Fields -/

/-- A spelling names a member of a closed set exactly when it is one of the tags, put right. -/
theorem Tagged.isSome_ofSpelling? {α : Type} [Tagged α] (written : String) :
    (Tagged.ofSpelling? written : Option α).isSome =
      (Tagged.tags α).contains (Tagged.normalized written) := by
  rw [Bool.eq_iff_iff, ofSpelling?, ofTag?, List.find?_isSome, List.contains_iff_mem, tags,
    List.mem_map]
  simp

namespace FormValues

open Reading (Asks)

variable {values : FormValues}

theorem asks_readText (name : String) : Asks values [.text name] (values.readText name) :=
  .ofOption (.text name) rfl

theorem isSome_date? (name : String) :
    (values.date? name).isSome = (Need.date name).isMet values := by
  change ((values.text? name).bind Date.ofForm?).isSome = (values.text? name).any _
  cases values.text? name <;> rfl

theorem asks_readDate (name : String) : Asks values [.date name] (values.readDate name) :=
  .ofOption (.date name) (isSome_date? name)

/-- A date that is left blank is read as none; one that is not has to be a date. -/
theorem asks_readDateIfAny (name : String) :
    Asks values [.dateIfAny name] (values.readDateIfAny name) := by
  rw [readDateIfAny]
  cases held : values.text? name with
  | none =>
    have isMet : (Need.dateIfAny name).isMet values = true := by
      change (values.text? name).all _ = true
      rw [held]
      rfl
    exact ⟨by simp [Reading.of, isMet], by simp [Reading.of, isMet]⟩
  | some written =>
    have same : (Need.dateIfAny name).isMet values = (values.date? name).isSome := by
      change (values.text? name).all _ = ((values.text? name).bind Date.ofForm?).isSome
      rw [held]
      rfl
    exact (Asks.ofOption (.dateIfAny name) same.symm).map some

theorem asks_readChoice (α : Type) [Tagged α] (name : String) :
    Asks values [.choice α name] (values.readChoice name : Reading α) := by
  refine .ofOption (.choice α name) ?_
  change ((values.text? name).bind (Tagged.ofSpelling? (α := α))).isSome = (values.text? name).any _
  cases values.text? name with
  | none => rfl
  | some written => exact Tagged.isSome_ofSpelling? written

/-! ## Operations -/

theorem asks_readLcidDecision :
    Asks values (ActionKind.issueLcid.needs values) values.readLcidDecision := by
  have chosen : Asks values (if values.flag "useExistingLcid" then [.text "lcid"] else [])
      (if values.flag "useExistingLcid" then some <$> values.readText "lcid" else pure none) :=
    .ite none fun _ => (asks_readText "lcid").map some
  have asked := (((((chosen.map LcidDecision.mk).seq (asks_readDate "expiresAt")).seq
    (asks_readText "scope")).seq (asks_readText "nextSteps")).seq
    (asks_readChoice TrbFollowUp "trbFollowUp")).seq (.pure (values.text? "costBaseline"))
  simp only [List.append_assoc, List.append_nil, List.singleton_append] at asked
  exact asked

theorem asks_readMoveTo (newStep : Step) :
    Asks values (if newStep.isMeeting then [.dateIfAny "meetingDate"] else [])
      (values.readMoveTo newStep) := by
  have dated : Asks values (if newStep.isMeeting then [.dateIfAny "meetingDate"] else [])
      (if newStep.isMeeting then values.readDateIfAny "meetingDate" else pure none) :=
    .ite none fun _ => asks_readDateIfAny "meetingDate"
  have asked := ((dated.map (Operation.progressToNewStep newStep)).seq
    (.pure (values.text? "feedback"))).seq
    (.pure (if newStep = .grbMeeting then values.text? "grbRecommendations" else none))
  simp only [List.append_nil] at asked
  exact asked

/-- Where the step cannot be read there is one message, on the step. -/
theorem asks_readMove :
    Asks values (ActionKind.progressToNewStep.needs values) values.readMove := by
  have step : Asks values [.choice Step "newStep"] (values.readChoice "newStep" : Reading Step) :=
    asks_readChoice Step "newStep"
  rw [readMove, ActionKind.needs]
  change Asks values [.choice Step "newStep"] (.ofOption values.newStep? _ _) at step
  cases named : values.newStep? with
  | none =>
    rw [named] at step
    exact ⟨step.isSome_value?, step.problems⟩
  | some newStep =>
    rw [named] at step
    have asked := (step.map fun _ => (id : Operation → Operation)).seq (asks_readMoveTo newStep)
    exact ⟨by simpa [Reading.ofOption, Reading.of] using asked.isSome_value?, asked.problems⟩

end FormValues

theorem ActionKind.asks_readOperation (kind : ActionKind) (values : FormValues) (intake : Intake) :
    Reading.Asks values (kind.needs values) (kind.readOperation values intake) := by
  cases kind with
  | requestEdits =>
    exact ((FormValues.asks_readChoice FeedbackTarget "intakeFormStep").map _).seq
      (FormValues.asks_readText "emailFeedback")
  | progressToNewStep => exact FormValues.asks_readMove
  | issueLcid =>
    rw [readOperation]
    split
    · exact FormValues.asks_readLcidDecision.map _
    · exact FormValues.asks_readLcidDecision.map _
  | updateLcid => exact (FormValues.asks_readDateIfAny "expiresAt").map _
  | retireLcid =>
    rw [readOperation]
    split
    · exact (FormValues.asks_readDate "retiresAt").map _
    · exact (FormValues.asks_readDate "retiresAt").map _
  | expireLcid => exact (FormValues.asks_readText "reason").map _
  | notApproved =>
    exact (((FormValues.asks_readText "reason").map _).seq
      (FormValues.asks_readText "nextSteps")).seq
      (FormValues.asks_readChoice TrbFollowUp "trbFollowUp")
  | unretireLcid | notGovernance | closeRequest | reopenRequest => exact .pure _

/-! ## What is read -/

/-- Which field each part of an operation was read from. A part that may be missing is missing where
its field is blank, where the form does not show it, and, for the ID that a decision names, where
the request holds one of its own. -/
def Operation.ReadFrom (values : FormValues) (intake : Intake) : Operation → Prop
  | requestEdits target text =>
    (values.text? "intakeFormStep").bind Tagged.ofSpelling? = some target ∧
      values.text? "emailFeedback" = some text
  | progressToNewStep newStep date feedback recommendations =>
    (values.text? "newStep").bind Tagged.ofSpelling? = some newStep ∧
      date = (if newStep.isMeeting then values.date? "meetingDate" else none) ∧
      feedback = values.text? "feedback" ∧
      recommendations = if newStep = .grbMeeting then values.text? "grbRecommendations" else none
  | issueLcid d => intake.lcid = none ∧ d.ReadFrom values
  | confirmLcid d =>
    intake.lcid.isSome = true ∧ d.lcid = none ∧
      ∃ chosen, LcidDecision.ReadFrom values { d with lcid := chosen }
  | updateLcid expiresAt scope nextSteps costBaseline reason =>
    expiresAt = values.date? "expiresAt" ∧ scope = values.text? "scope" ∧
      nextSteps = values.text? "nextSteps" ∧ costBaseline = values.text? "costBaseline" ∧
      reason = values.text? "reason"
  | retireLcid retiresAt reason =>
    intake.lcid.any (·.retiresAt.isSome) = false ∧ values.date? "retiresAt" = some retiresAt ∧
      reason = values.text? "reason"
  | changeLcidRetirementDate retiresAt =>
    intake.lcid.any (·.retiresAt.isSome) = true ∧ values.date? "retiresAt" = some retiresAt
  | expireLcid reason nextSteps =>
    values.text? "reason" = some reason ∧ nextSteps = values.text? "nextSteps"
  | rejectIntake reason nextSteps trbFollowUp =>
    values.text? "reason" = some reason ∧ values.text? "nextSteps" = some nextSteps ∧
      (values.text? "trbFollowUp").bind Tagged.ofSpelling? = some trbFollowUp
  | unretireLcid reason | markNotGovernance reason | closeRequest reason | reopenRequest reason =>
    reason = values.text? "reason"

/-- A mutation as its form, its request and the people to tell determine it. -/
structure Mutation.ReadFrom (kind : ActionKind) (values : FormValues) (ctx : ActionContext)
    (told : Option Recipients) (m : Mutation) : Prop where
  intakeId : m.intakeId = ctx.intake.id
  recipients : m.recipients = told
  additionalInfo : m.additionalInfo = values.text? "additionalInfo"
  adminNote : m.adminNote = values.text? "adminNote"
  action : m.operation.action = kind
  operation : m.operation.ReadFrom values ctx.intake

namespace ActionKind

variable {kind : ActionKind} {values : FormValues} {intake : Intake} {op : Operation}

theorem readFrom_of_readMove (h : values.readMove.value? = some op) :
    op.ReadFrom values intake := by
  rw [FormValues.readMove] at h
  split at h
  next newStep named =>
    simp only [FormValues.readMoveTo, Reading.value?_seq, Reading.value?_map, Reading.value?_pure,
      Option.bind_eq_some_iff, Option.map_eq_some_iff, Option.some.injEq] at h
    obtain ⟨_, ⟨_, ⟨date, read, rfl⟩, _, rfl, rfl⟩, _, rfl, rfl⟩ := h
    refine ⟨named, ?_, rfl, rfl⟩
    by_cases meeting : newStep.isMeeting = true
    · rw [if_pos meeting] at read ⊢
      exact FormValues.eq_of_readDateIfAny read
    · rw [if_neg meeting] at read ⊢
      exact (Option.some.inj read).symm
  · cases h

theorem readFrom_of_readOperation (h : (kind.readOperation values intake).value? = some op) :
    op.ReadFrom values intake := by
  cases kind with
  | requestEdits =>
    simp only [readOperation, Reading.value?_seq, Reading.value?_map, FormValues.value?_readChoice,
      FormValues.value?_readText, Option.bind_eq_some_iff, Option.map_eq_some_iff] at h
    obtain ⟨_, ⟨target, chosen, rfl⟩, text, held, rfl⟩ := h
    exact ⟨Option.bind_eq_some_iff.2 chosen, held⟩
  | progressToNewStep => exact readFrom_of_readMove h
  | issueLcid =>
    obtain ⟨d, read, ⟨holds, rfl⟩ | ⟨free, rfl⟩⟩ := readOperation_issueLcid h
    · exact ⟨holds, rfl, d.lcid, read⟩
    · exact ⟨free, read⟩
  | updateLcid =>
    rw [readOperation_updateLcid h]
    exact ⟨rfl, rfl, rfl, rfl, rfl⟩
  | retireLcid =>
    by_cases retiring : intake.lcid.any (·.retiresAt.isSome) = true
    · obtain ⟨date, read, rfl⟩ := readOperation_retireLcid retiring h
      exact ⟨retiring, read⟩
    · rw [readOperation, if_neg retiring, Reading.value?_map, FormValues.value?_readDate,
        Option.map_eq_some_iff] at h
      obtain ⟨date, read, rfl⟩ := h
      exact ⟨by simpa using retiring, read, rfl⟩
  | expireLcid =>
    rw [readOperation, Reading.value?_map, FormValues.value?_readText, Option.map_eq_some_iff] at h
    obtain ⟨reason, held, rfl⟩ := h
    exact ⟨held, rfl⟩
  | notApproved =>
    simp only [readOperation, Reading.value?_seq, Reading.value?_map, FormValues.value?_readChoice,
      FormValues.value?_readText, Option.bind_eq_some_iff, Option.map_eq_some_iff] at h
    obtain ⟨_, ⟨_, ⟨reason, given, rfl⟩, nextSteps, planned, rfl⟩, trbFollowUp, chosen, rfl⟩ := h
    exact ⟨given, planned, Option.bind_eq_some_iff.2 chosen⟩
  | unretireLcid | notGovernance | closeRequest | reopenRequest =>
    cases h
    rfl

variable {ctx : ActionContext} {told : Option Recipients}

theorem readFrom_of_buildMutation {m : Mutation}
    (h : kind.buildMutation values ctx told = .ok m) : m.ReadFrom kind values ctx told := by
  obtain ⟨op, result, rfl⟩ := ok_of_map_ok h
  obtain ⟨read, -⟩ := Reading.result_ok result
  exact ⟨rfl, rfl, rfl, rfl, action_of_readOperation read, readFrom_of_readOperation read⟩

theorem exists_buildMutation_iff :
    (∃ m, kind.buildMutation values ctx told = .ok m) ↔
      ∃ op, (kind.readOperation values ctx.intake).result = .ok op := by
  constructor
  · rintro ⟨m, built⟩
    obtain ⟨op, read, -⟩ := ok_of_map_ok built
    exact ⟨op, read⟩
  · rintro ⟨op, read⟩
    exact ⟨_, by rw [buildMutation, read]; rfl⟩

theorem messages_of_buildMutation {messages : Messages}
    (h : kind.buildMutation values ctx told = .error messages) :
    messages = (kind.readOperation values ctx.intake).messages := by
  rw [buildMutation] at h
  cases read : (kind.readOperation values ctx.intake).result with
  | ok op =>
    rw [read] at h
    cases h
  | error found =>
    rw [read] at h
    exact (Except.error.inj h).symm.trans (Reading.messages_of_result_error read)

/-- A mutation is built from a form exactly when the form holds all that its action needs. Each part
of it is then what was entered in the field it comes from; and a form that it cannot be built from
gets the message of every need that is not met, on the field of that need, and no other message. -/
theorem buildMutation_by_needs (kind : ActionKind) (values : FormValues) (ctx : ActionContext)
    (told : Option Recipients) :
    ((∃ m, kind.buildMutation values ctx told = .ok m) ↔
      ∀ need ∈ kind.needs values, need.isMet values = true) ∧
    (∀ m, kind.buildMutation values ctx told = .ok m → m.ReadFrom kind values ctx told) ∧
    (∀ messages, kind.buildMutation values ctx told = .error messages →
      ∀ field message, messages.get? field = some message ↔
        ∃ need ∈ kind.needs values, need.name = field ∧ need.demand.message = message ∧
          need.isMet values = false) := by
  have asks := kind.asks_readOperation values ctx.intake
  refine ⟨exists_buildMutation_iff.trans asks.exists_result_iff,
    fun m => readFrom_of_buildMutation, fun messages unbuilt field message => ?_⟩
  rw [messages_of_buildMutation unbuilt]
  exact asks.get?_messages_iff (kind.nodup_needs values)

/-- A request for which nothing was decided yet, on the day it was opened. -/
def newContext : ActionContext :=
  let now : Instant := ⟨⟨2026, 9, 14, by decide⟩, 30600, 0, by decide⟩
  ⟨Intake.opened "r1" "Data platform" ⟨"Ada", "ada@example.gov", none⟩ now, [], now.date, 1⟩

/-- A move to a meeting, in another spelling and with blanks, and its date. -/
def toMeetingOn (day : String) : FormValues :=
  NameMap.ofList [("newStep", .text " grt-meeting "), ("meetingDate", .text day)]

/-- Without a day that is one the day is complained about; with one the mutation is built. -/
theorem buildMutation_by_needs_meeting :
    (∃ messages, progressToNewStep.buildMutation (toMeetingOn "soon") newContext none =
      .error messages ∧ messages.get? "meetingDate" = some "A valid date is required") ∧
    ∃ m, progressToNewStep.buildMutation (toMeetingOn "11/02/2026") newContext none = .ok m ∧
      m.ReadFrom .progressToNewStep (toMeetingOn "11/02/2026") newContext none := by
  constructor
  · obtain ⟨built_iff, -, complaints⟩ :=
      buildMutation_by_needs .progressToNewStep (toMeetingOn "soon") newContext none
    have shown : ((toMeetingOn "soon").newStep?).any Step.isMeeting = true := by decide +kernel
    have needed : Need.dateIfAny "meetingDate" ∈ progressToNewStep.needs (toMeetingOn "soon") := by
      rw [needs, if_pos shown]
      exact List.mem_cons_of_mem _ (List.mem_cons_self ..)
    have unmet : (Need.dateIfAny "meetingDate").isMet (toMeetingOn "soon") = false := by
      decide +kernel
    cases result : progressToNewStep.buildMutation (toMeetingOn "soon") newContext none with
    | ok m => exact nomatch unmet.symm.trans (built_iff.1 ⟨m, result⟩ _ needed)
    | error messages =>
      exact ⟨messages, rfl, (complaints messages result _ _).2 ⟨_, needed, rfl, rfl, unmet⟩⟩
  · obtain ⟨built_iff, readFrom, -⟩ :=
      buildMutation_by_needs .progressToNewStep (toMeetingOn "11/02/2026") newContext none
    have met : ((progressToNewStep.needs (toMeetingOn "11/02/2026")).all fun need =>
        need.isMet (toMeetingOn "11/02/2026")) = true := by
      decide +kernel
    obtain ⟨m, built⟩ := built_iff.2 (List.all_eq_true.1 met)
    exact ⟨m, built, readFrom m built⟩

end ActionKind

end GovernanceDesk

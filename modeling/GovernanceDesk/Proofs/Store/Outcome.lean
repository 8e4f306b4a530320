import GovernanceDesk.Proofs.Form.Accepted
import GovernanceDesk.Proofs.Store.Readable
import GovernanceDesk.Proofs.Store.Running

/-!
# How a run must end

Whether an action goes through is decided in several places: the check of its form, the building of
its mutation, the life cycle IDs on the desk, and the operation itself. On a desk that can be read
they agree, so the check of the form and the life cycle ID of the request settle how a run ends.

* `ActionKind.changesLcid`: the actions that need a life cycle ID to be there.
* `Intake.exists_withEffect`, `Intake.withEffect_refused`: which operations take effect.
* `Store.filledForm`: the form of a request as it is checked.
* `Store.runAction_outcome`: the end of every confirmed run.
-/

namespace GovernanceDesk
set_option autoImplicit false

/-! ## Operations that take effect -/

/-- The actions that change the life cycle ID of a request. -/
def ActionKind.changesLcid : ActionKind → Bool
  | updateLcid | retireLcid | unretireLcid | expireLcid => true
  | _ => false

namespace Intake

variable {i : Intake} {name : String} {op : Operation} {today : Date} {now : Instant}
  {issue : LcidDecision → Except Failure LcidRecord}

theorem changeLcid_of_none (none : i.lcid = none) (name : String)
    (change : LcidRecord → LcidRecord) : i.changeLcid name change = .error (.noLcid name) := by
  rw [changeLcid, none]

theorem exists_changeLcid (held : i.lcid.isSome = true) (name : String)
    (change : LcidRecord → LcidRecord) : ∃ j, i.changeLcid name change = .ok j := by
  obtain ⟨l, held⟩ := Option.isSome_iff_exists.1 held
  exact ⟨_, by rw [changeLcid, held]⟩

theorem withEffect_refused (changes : op.action.changesLcid = true) (none : i.lcid = none) :
    i.withEffect name op today now issue = .error (.noLcid i.id) := by
  cases op with
  | updateLcid | retireLcid | changeLcidRetirementDate | unretireLcid | expireLcid =>
    exact changeLcid_of_none none _ _
  | _ => exact nomatch changes

/-- An operation takes effect unless it lacks the life cycle ID it changes or cannot issue one. -/
theorem exists_withEffect (held : op.action.changesLcid = true → i.lcid.isSome = true)
    (confirms : ∀ d, op = .confirmLcid d → i.lcid.isSome = true)
    (issues : ∀ d, op = .issueLcid d → ∃ l, issue d = .ok l) :
    ∃ j, i.withEffect name op today now issue = .ok j := by
  cases op with
  | issueLcid d =>
    obtain ⟨l, free⟩ := issues d rfl
    exact ⟨_, by rw [withEffect, free]; rfl⟩
  | confirmLcid d =>
    obtain ⟨j, changed⟩ := exists_changeLcid (confirms d rfl) name (·.confirmed d)
    exact ⟨_, by rw [withEffect, changed]; rfl⟩
  | updateLcid | retireLcid | changeLcidRetirementDate | unretireLcid | expireLcid =>
    exact exists_changeLcid (held rfl) _ _
  | _ => exact ⟨_, rfl⟩

/-- What is offered on a request has the life cycle ID it needs. -/
theorem holds_of_offers {kind : ActionKind} (offered : i.offers kind = true)
    (changes : kind.changesLcid = true) : i.lcid.isSome = true := by
  cases kind with
  | updateLcid | retireLcid | expireLcid => exact offered
  | unretireLcid => exact Option.isSome_of_any offered
  | _ => exact nomatch changes

end Intake

/-- An ID is only confirmed on a request that holds one. -/
theorem ActionKind.holds_of_confirmLcid {kind : ActionKind} {values : FormValues} {intake : Intake}
    {d : LcidDecision} (h : (kind.readOperation values intake).value? = some (.confirmLcid d)) :
    intake.lcid.isSome = true := by
  have same : ActionKind.issueLcid = kind := action_of_readOperation h
  subst same
  obtain ⟨_, -, ⟨holds, -⟩ | ⟨-, other⟩⟩ := readOperation_issueLcid h
  · exact holds
  · exact nomatch other

namespace Store

variable {s : Store} {today : Date} {now : Instant} {i : Intake} {m : Mutation}

/-- A decision that names no ID, or one that is held, can be carried out. -/
theorem exists_issue {held : List LcidRecord} (listed : s.existingLcids = .ok held)
    {d : LcidDecision} (known : ∀ lcid, d.lcid = some lcid → ∃ l ∈ held, l.lcid = lcid) :
    ∃ l, s.issue today now d = .ok l := by
  have chosen : ∃ lcid, s.chooseLcid today d.lcid = .ok lcid := by
    rw [chooseLcid, listed]
    cases named : d.lcid with
    | none => exact ⟨_, rfl⟩
    | some lcid =>
      obtain ⟨l, mem, same⟩ := known lcid named
      have found : held.any (fun l => l.lcid == lcid) = true :=
        List.any_eq_true.2 ⟨l, mem, by rw [same, beq_self_eq_true]⟩
      refine ⟨lcid, ?_⟩
      simp only [bind, Except.bind, found, if_true]
      rfl
  obtain ⟨lcid, chosen⟩ := chosen
  exact ⟨_, by rw [issue, chosen]; rfl⟩

theorem exists_apply (readable : s.Readable) (loaded : s.load m.intakeId = .ok i)
    (kind : ActionKind)
    (effect : ∃ j, i.withEffect m.intakeId m.operation today now (s.issue today now) = .ok j) :
    ∃ k s', s.apply today now kind m = .ok (k, s') := by
  obtain ⟨c, configured⟩ := readable.configIfAny
  obtain ⟨j, effect⟩ := effect
  have applied : ∃ k, s.applied today now kind m = .ok k := by
    rw [Store.applied, loaded, configured]
    exact ⟨_, by simp only [bind, Except.bind, effect]; rfl⟩
  obtain ⟨k, applied⟩ := applied
  obtain ⟨i', _, cases⟩ := applied_cases applied
  have same : i' = i := Except.ok.inj (cases.loaded.symm.trans loaded)
  have named : k.id = m.intakeId := by
    rw [cases.id_eq, same, readable.wellNamed _ _ loaded]
  have saved := save_of_load loaded named
  exact ⟨k, _, by rw [apply, applied]; simp only [bind, Except.bind, saved]; rfl⟩

theorem apply_of_withEffect_error (readable : s.Readable) (loaded : s.load m.intakeId = .ok i)
    (kind : ActionKind) {e : Failure}
    (effect : i.withEffect m.intakeId m.operation today now (s.issue today now) = .error e) :
    s.apply today now kind m = .error e := by
  obtain ⟨c, configured⟩ := readable.configIfAny
  rw [apply, Store.applied, loaded, configured]
  simp only [bind, Except.bind, effect]

/-! ## The answer to a form -/

variable {f : ActionForm}

theorem send_of_apply (submitting : f.phase = .submitting) {s' : Store}
    (applied : s.apply today now m.operation.action m = .ok (i, s')) :
    ∃ flash redirect, (s.send today now f m).1 = .ok (.done m flash redirect) := by
  rw [send, ActionForm.dispatchWith, ActionForm.expectSubmitting, if_pos submitting]
  simp only [bind, Except.bind, dispatch, applied]
  exact ⟨_, _, rfl⟩

/-- A request without the ID that the operation changes refuses it for good. -/
theorem send_of_noLcid (submitting : f.phase = .submitting) {id : String}
    (refused : s.apply today now m.operation.action m = .error (.noLcid id)) :
    (s.send today now f m).1 = .ok (.failed (Failure.noLcid id).message false) := by
  rw [send, ActionForm.dispatchWith, ActionForm.expectSubmitting, if_pos submitting]
  simp only [bind, Except.bind, dispatch, refused]
  rfl

/-- What is built on a request is addressed to it. -/
theorem load_of_built (readable : s.Readable) {id : String} {ctx : ActionContext}
    (loaded : s.load id = .ok ctx.intake) {kind : ActionKind} {values : FormValues}
    {told : Option Recipients} (built : kind.buildMutation values ctx told = .ok m) :
    s.load m.intakeId = .ok ctx.intake := by
  rw [(ActionKind.built_of_buildMutation built).intakeId, readable.wellNamed _ _ loaded]
  exact loaded

/-! ## Runs -/

variable {r : ActionRequest}

/-- The form of a request as it is checked: opened on the request as it is, and filled in. -/
def filledForm (s : Store) (today : Date) (r : ActionRequest) : Except Failure ActionForm := do
  let f ← (ActionForm.fresh r.kind r.intakeId).hydrate (s.loadContext r.intakeId today)
  f.fill r

/-- A form that is filled in and can be checked, on a request that is there. -/
structure Filled (s : Store) (today : Date) (r : ActionRequest) (ctx : ActionContext)
    (f : ActionForm) : Prop where
  loaded : s.loadContext r.intakeId today = .ok ctx
  listed : s.existingLcids = .ok ctx.existingLcids
  opened : ∃ opened, (ActionForm.fresh r.kind r.intakeId).hydrate (.ok ctx) = .ok opened ∧
    opened.phase = .editing ∧ opened.fill r = .ok f
  editing : f.phase = .editing
  kind : f.kind = r.kind
  existingLcids : f.existingLcids = ctx.existingLcids

theorem exists_filled (readable : s.Readable) (loaded : s.load r.intakeId = .ok i)
    (known : ∀ e ∈ r.values.entries, (r.kind.field? e.1).isSome = true) (today : Date) :
    ∃ ctx f, Filled s today r ctx f ∧ ctx.intake = i := by
  obtain ⟨ctx, context, same, listed⟩ := readable.loadContext loaded today
  have hydrated : ∃ opened, (ActionForm.fresh r.kind r.intakeId).hydrate (.ok ctx) = .ok opened :=
    ⟨_, rfl⟩
  obtain ⟨opened, hydrated⟩ := hydrated
  obtain ⟨-, ready⟩ := ActionForm.hydrate_cases hydrated
  have kind : opened.kind = r.kind := ready.kind_eq
  have start : opened.phase = .editing ∧ opened.existingLcids = ctx.existingLcids := by
    cases ready
    exact ⟨rfl, rfl⟩
  obtain ⟨f, filled, stays⟩ := ActionForm.exists_fill (r := r) start.1 (by rw [kind]; exact known)
  exact ⟨ctx, f, ⟨context, listed, ⟨opened, hydrated, start.1, filled⟩, stays.editing,
    stays.kind.trans kind, stays.existingLcids.trans start.2⟩, same⟩

namespace Filled

variable {ctx : ActionContext}

theorem filledForm_eq (h : Filled s today r ctx f) : s.filledForm today r = .ok f := by
  obtain ⟨opened, hydrated, -, filled⟩ := h.opened
  rw [filledForm, h.loaded, hydrated]
  exact filled

theorem pressed_eq (h : Filled s today r ctx f) {opened : ActionForm}
    (filled : opened.fill r = .ok f) : s.pressed today r opened = f.press r ctx := by
  rw [Store.pressed, filled]
  simp only [bind, Except.bind, h.loaded]

theorem runAction_of_invalid (h : Filled s today r ctx f) {f' : ActionForm} {messages : Messages}
    (pressed : f.press r ctx = .ok (f', .invalid messages)) :
    s.runAction today now r = (.ok (.invalid messages), s) := by
  obtain ⟨opened, hydrated, editing, filled⟩ := h.opened
  rw [runAction, h.loaded, hydrated]
  simp only [editing, h.pressed_eq filled, pressed, reduceCtorEq, if_false]

/-- A run goes on with the filled-in form: it is pressed in the context it was opened in. -/
theorem runAction_of_dispatch (h : Filled s today r ctx f) {f' : ActionForm}
    (pressed : f.press r ctx = .ok (f', .dispatch m)) :
    s.runAction today now r = s.send today now f' m := by
  obtain ⟨opened, hydrated, editing, filled⟩ := h.opened
  rw [runAction, h.loaded, hydrated]
  simp only [editing, h.pressed_eq filled, pressed, reduceCtorEq, if_false]

/-- What a form without problems sends is refused for one reason only. -/
theorem effect (h : Filled s today r ctx f) (fine : f.problems r.button.suppressesEmail = ∅)
    {told : Option Recipients} (built : f.kind.buildMutation f.values ctx told = .ok m)
    (held : r.kind.changesLcid = true → ctx.intake.lcid.isSome = true) :
    ∃ j, ctx.intake.withEffect m.intakeId m.operation today now (s.issue today now) = .ok j := by
  obtain ⟨-, -, read⟩ := ActionKind.buildMutation_cases built
  have action := ActionKind.action_of_readOperation read
  have known := (ActionForm.checks_of_problems_eq_empty fine).2.1
  refine Intake.exists_withEffect (fun changes => held ?_) (fun d confirms => ?_) fun d issues => ?_
  · rw [← h.kind, ← action]
    exact changes
  · rw [confirms] at read
    exact ActionKind.holds_of_confirmLcid read
  · -- The ID that is named is one of those that the form was opened with.
    refine exists_issue h.listed fun lcid named => ?_
    rw [issues] at read action
    have kind : f.kind = .issueLcid := action.symm
    rw [kind] at read
    obtain ⟨d', readFrom, ⟨-, other⟩ | ⟨-, same⟩⟩ := ActionKind.readOperation_issueLcid read
    · exact nomatch other
    cases same
    have chosen := readFrom.lcid.symm.trans named
    split at chosen
    next uses =>
      rw [← h.existingLcids]
      exact ActionForm.chosenLcid?_of_checked kind uses known chosen
    · exact nomatch chosen

/-- A form without problems is done, where the request has the life cycle ID it needs. -/
theorem exists_done (h : Filled s today r ctx f) (readable : s.Readable)
    (confirmed : r.confirmed = true) (fine : f.problems r.button.suppressesEmail = ∅)
    (held : r.kind.changesLcid = true → ctx.intake.lcid.isSome = true) (now : Instant) :
    ∃ m flash redirect, (s.runAction today now r).1 = .ok (.done m flash redirect) := by
  obtain ⟨f', m, told, pressed, submitting, built⟩ :=
    ActionForm.exists_press ctx h.editing confirmed fine
  have loaded := load_of_loadContext h.loaded
  obtain ⟨k, s', applied⟩ := exists_apply readable (load_of_built readable loaded built)
    m.operation.action (h.effect fine built held)
  obtain ⟨flash, redirect, done⟩ := send_of_apply submitting applied
  exact ⟨m, flash, redirect, by rw [h.runAction_of_dispatch pressed, done]⟩

end Filled

/-- What is seen of the form of a request settles that its run goes through. -/
theorem completes_of_filledForm (readable : s.Readable) (loaded : s.load r.intakeId = .ok i)
    (confirmed : r.confirmed = true)
    (known : ∀ e ∈ r.values.entries, (r.kind.field? e.1).isSome = true)
    (fine : (s.filledForm today r).toOption.any
      (fun f => (f.problems r.button.suppressesEmail).isEmpty) = true)
    (held : r.kind.changesLcid = true → i.lcid.isSome = true) (now : Instant) :
    s.completes today now r = true := by
  obtain ⟨ctx, f, filled, rfl⟩ := exists_filled readable loaded known today
  rw [filled.filledForm_eq] at fine
  obtain ⟨m, flash, redirect, done⟩ :=
    filled.exists_done readable confirmed (NameMap.isEmpty_iff.1 fine) held now
  rw [completes, done]
  rfl

/-- On a desk where everything can be read, a confirmed run on a request that is there, with values
for fields of its action, ends as its form and the life cycle ID of the request say: with the
problems of the form if it has any; else refused for good if the action changes a life cycle ID and
the request holds none; else done. So what the request offers is never refused. -/
theorem runAction_outcome (readable : s.Readable) (loaded : s.load r.intakeId = .ok i)
    (confirmed : r.confirmed = true)
    (known : ∀ e ∈ r.values.entries, (r.kind.field? e.1).isSome = true) (today : Date)
    (now : Instant) :
    ∃ f, s.filledForm today r = .ok f ∧
      (f.problems r.button.suppressesEmail ≠ ∅ →
        (s.runAction today now r).1 = .ok (.invalid (f.problems r.button.suppressesEmail))) ∧
      (f.problems r.button.suppressesEmail = ∅ → r.kind.changesLcid = true → i.lcid = none →
        (s.runAction today now r).1 =
          .ok (.failed (Failure.noLcid r.intakeId).message false)) ∧
      (f.problems r.button.suppressesEmail = ∅ →
        (r.kind.changesLcid = true → i.lcid.isSome = true) →
        ∃ m flash redirect, (s.runAction today now r).1 = .ok (.done m flash redirect)) ∧
      (f.problems r.button.suppressesEmail = ∅ → i.offers r.kind = true →
        ∃ m flash redirect, (s.runAction today now r).1 = .ok (.done m flash redirect)) := by
  obtain ⟨ctx, f, filled, rfl⟩ := exists_filled readable loaded known today
  have finishes : f.problems r.button.suppressesEmail = ∅ →
      (r.kind.changesLcid = true → ctx.intake.lcid.isSome = true) →
      ∃ m flash redirect, (s.runAction today now r).1 = .ok (.done m flash redirect) :=
    fun fine held => filled.exists_done readable confirmed fine held now
  refine ⟨f, filled.filledForm_eq, fun wrong => ?_, fun fine changes none => ?_, finishes,
    fun fine offered => finishes fine (Intake.holds_of_offers offered)⟩
  · obtain ⟨f', pressed⟩ := ActionForm.press_of_problems ctx filled.editing wrong
    rw [filled.runAction_of_invalid pressed]
  · obtain ⟨f', m, told, pressed, submitting, built⟩ :=
      ActionForm.exists_press ctx filled.editing confirmed fine
    have action := (ActionKind.built_of_buildMutation built).action
    rw [← filled.kind, ← action] at changes
    have refused : s.apply today now m.operation.action m = .error (.noLcid ctx.intake.id) :=
      apply_of_withEffect_error readable (load_of_built readable loaded built) _
        (Intake.withEffect_refused changes none)
    rw [filled.runAction_of_dispatch pressed, send_of_noLcid submitting refused,
      readable.wellNamed _ _ loaded]

/-! ### A desk with one request -/

theorem readable_emptyDesk : emptyDesk.Readable where
  requests id _ there := by
    rw [manifestPlace_eq, FileTree.isThere, find?_emptyDesk (List.cons_ne_nil _ _)] at there
    cases there
  config there := by
    rw [configPlace, FileTree.isThere, find?_emptyDesk (List.cons_ne_nil _ _)] at there
    cases there

theorem readable_smallDesk : smallDesk.Readable :=
  readable_create readable_emptyDesk firstMoment _ _

/-- A request to change the scope of a life cycle ID. -/
def rescope : ActionRequest where
  intakeId := "r1"
  kind := .updateLcid
  values := NameMap.ofList [("scope", .text "Half of it")]
  recipients := none
  button := .complete
  confirmed := true

theorem runAction_outcome_rescope :
    smallDesk.Readable ∧ rescope.confirmed = true ∧
      (∀ e ∈ rescope.values.entries, (rescope.kind.field? e.1).isSome = true) ∧
      (smallDesk.runAction noon.date noon rescope).1 =
        .ok (.failed "system intake r1 has no life cycle ID" false) := by
  have known : ∀ e ∈ rescope.values.entries, (rescope.kind.field? e.1).isSome = true := by
    decide +kernel
  have checked : (smallDesk.filledForm noon.date rescope).toOption.any
      (fun f => (f.problems rescope.button.suppressesEmail).isEmpty) = true := by
    decide +kernel
  obtain ⟨f, filled, -, refused, -⟩ :=
    runAction_outcome readable_smallDesk load_smallDesk rfl known noon.date noon
  rw [filled] at checked
  exact ⟨readable_smallDesk, rfl, known,
    refused (NameMap.isEmpty_iff.1 checked) rfl rfl⟩

end Store

end GovernanceDesk

import GovernanceDesk.Proofs.Form.Log

/-!
# Forms that are changed in place

A form as its owner holds it: one record whose fields are assigned one after the other, beside a
client with a state of its own. A call that breaks off leaves everything assigned by then. The
operations are written down here as these assignments, and each proves to be all or nothing: it does
what the operation on values does, or it leaves the form and the client as they were.

* `InPlace`: assignments to a form that may break off.
* `FormCall`: the operations of a form, and sending a mutation through a client.
* `FormCall.run_own`, `FormCall.run_send`: what a call leaves, in terms of the operations on values.
-/

namespace GovernanceDesk
set_option autoImplicit false

variable {σ : Type}

/-! ## Assignments -/

/-- A computation on a form and the state of a client. What it assigned stays when it breaks off. -/
abbrev InPlace (σ α : Type) := ExceptT Failure (StateM (ActionForm × σ)) α

namespace InPlace

def form : InPlace σ ActionForm := do
  return (← get).1

def assign (change : ActionForm → ActionForm) : InPlace σ Unit :=
  modify fun held => (change held.1, held.2)

def require (check : ActionForm → Except Failure Unit) : InPlace σ Unit := do
  match check (← form) with
  | .ok () => return
  | .error e => throw e

/-- Asks a client; what it answers and the state it is left in are its own affair. -/
def ask {α : Type} (question : σ → α × σ) : InPlace σ α := do
  let (f, world) ← get
  let (answer, world) := question world
  set (f, world)
  return answer

/-- What a computation answers, and the form and the state of the client that it leaves. -/
def on {α : Type} (x : InPlace σ α) (held : ActionForm × σ) :
    Except Failure α × (ActionForm × σ) :=
  (x.run.run held).run

variable {α β : Type} {held : ActionForm × σ}

@[simp] theorem on_bind (x : InPlace σ α) (rest : α → InPlace σ β) :
    (x >>= rest).on held =
      match x.on held with
      | (.ok a, held) => (rest a).on held
      | (.error e, held) => (.error e, held) := by
  change Id.run ((x.run >>= ExceptT.bindCont rest).run held) = _
  rw [StateT.run_bind]
  change Id.run ((ExceptT.bindCont rest (x.on held).1).run (x.on held).2) = _
  obtain ⟨answer, left⟩ := x.on held
  cases answer <;> rfl

@[simp] theorem on_form : (form : InPlace σ ActionForm).on held = (.ok held.1, held) := rfl

@[simp] theorem on_assign (change : ActionForm → ActionForm) :
    (assign change).on held = (.ok (), change held.1, held.2) := rfl

@[simp] theorem on_require (check : ActionForm → Except Failure Unit) :
    (require check).on held = (check held.1, held) := by
  rw [require, on_bind, on_form]
  dsimp only
  cases check held.1 <;> rfl

@[simp] theorem on_ask (question : σ → α × σ) :
    (ask question).on held = (.ok (question held.2).1, held.1, (question held.2).2) := rfl

/-! ## Operations -/

def hydrate (loaded : Except Failure ActionContext) : InPlace σ Unit := do
  require (·.expect .loadingDefaults)
  match loaded with
  | .error _ =>
    assign fun f => { f with rootError := some loadFailedText }
    assign fun f => { f with phase := .failed }
  | .ok ctx =>
    assign fun f => { f with requestName := ctx.intake.requestName }
    assign fun f => { f with recipients := .forRequester ctx.intake.requester.email }
    assign fun f => { f with values := f.kind.defaults ctx }
    assign fun f => { f with existingLcids := ctx.existingLcids }
    assign fun f => { f with phase := .editing }

def copyChosenLcid : InPlace σ Unit := do
  match (← form).chosenLcid? with
  | none => return
  | some l =>
    assign fun f => { f with values := f.values.setText "expiresAt" l.expiresAt.slashed }
    assign fun f => { f with values := f.values.setText "scope" l.scope }
    assign fun f => { f with values := f.values.setText "nextSteps" l.nextSteps }
    assign fun f => { f with values := f.values.setText "costBaseline" (l.costBaseline.getD "") }

def setValue (name : String) (value : FieldValue) : InPlace σ Unit := do
  require (·.expect .editing)
  require fun f =>
    if (f.kind.field? name).isNone then .error (.unknownField f.kind.slug name) else .ok ()
  assign fun f => { f with values := f.values.set name value }
  let f ← form
  if f.kind = .issueLcid ∧ name ∈ ActionForm.lcidSelectionFields ∧
      f.values.flag "useExistingLcid" = true then
    copyChosenLcid

def setRecipients (recipients : Recipients) : InPlace σ Unit := do
  require (·.expect .editing)
  assign fun f => { f with recipients := recipients }

def beginSubmit (ctx : ActionContext) : InPlace σ SubmitOutcome := do
  let f ← form
  match f.kind.buildMutation f.values ctx f.notified with
  | .ok m =>
    assign fun f => { f with phase := .submitting }
    return .dispatch m
  | .error messages =>
    assign fun f => { f with errors := messages }
    assign fun f => { f with phase := .editing }
    return .invalid messages

def settle (ctx : ActionContext) : InPlace σ SubmitOutcome := do
  let f ← form
  let messages := f.problems f.emailSuppressed
  if !messages.isEmpty then
    assign fun f => { f with errors := messages }
    assign fun f => { f with phase := .editing }
    return .invalid messages
  else
    assign fun f => { f with errors := ∅ }
    match f.kind.confirmation? ctx with
    | some question =>
      assign fun f => { f with phase := .confirming }
      assign fun f => { f with confirmationOpen := true }
      return .needsConfirmation question
    | none => beginSubmit ctx

def submit (button : Button) (ctx : ActionContext) : InPlace σ SubmitOutcome := do
  require (·.expect .editing)
  assign fun f => { f with phase := .validating }
  assign fun f => { f with emailSuppressed := button.suppressesEmail }
  assign fun f => { f with rootError := none }
  settle ctx

def confirm (ctx : ActionContext) : InPlace σ SubmitOutcome := do
  require (·.expect .confirming)
  assign fun f => { f with confirmationOpen := false }
  beginSubmit ctx

def cancel : InPlace σ Unit := do
  require (·.expect .confirming)
  assign fun f => { f with confirmationOpen := false }
  assign fun f => { f with phase := .editing }

def resolve (answer : Except SubmitError Outcome) : InPlace σ Unit := do
  require ActionForm.expectSubmitting
  match answer with
  | .ok outcome =>
    assign fun f => { f with
      flash := some ⟨true, f.kind.successText f.requestName outcome.lcid⟩ }
    assign fun f => { f with redirect := some (Layout.actionsRoute f.intakeId) }
    assign fun f => { f with phase := .done }
  | .error (.transport _) =>
    assign fun f => { f with rootError := some submitFailedText }
    assign fun f => { f with confirmationOpen := false }
    assign fun f => { f with phase := .editing }
  | .error (.rejected detail) =>
    assign fun f => { f with flash := some ⟨false, detail⟩ }
    assign fun f => { f with rootError := some detail }
    assign fun f => { f with confirmationOpen := false }
    assign fun f => { f with phase := .failed }

def dispatchWith (client : Mutation → σ → Except SubmitError Outcome × σ) (m : Mutation) :
    InPlace σ Unit := do
  require ActionForm.expectSubmitting
  let answer ← ask (client m)
  resolve answer

/-! ## All or nothing -/

/-- What is left of a computation that does all it is to do or nothing. -/
def committed {α : Type} (held : ActionForm × σ) :
    Except Failure (ActionForm × α) → Except Failure α × (ActionForm × σ)
  | .ok (f, a) => (.ok a, f, held.2)
  | .error e => (.error e, held)

variable {ctx : ActionContext}

theorem on_hydrate (loaded : Except Failure ActionContext) :
    (hydrate loaded).on held = committed held ((held.1.hydrate loaded).map (·, ())) := by
  unfold hydrate ActionForm.hydrate
  rw [on_bind, on_require]
  cases held.1.expect .loadingDefaults with
  | error e => rfl
  | ok _ => cases loaded <;> rfl

theorem on_copyChosenLcid :
    (copyChosenLcid : InPlace σ Unit).on held = (.ok (), held.1.copyChosenLcid, held.2) := by
  rw [copyChosenLcid, on_bind, on_form, ActionForm.copyChosenLcid]
  dsimp only
  cases held.1.chosenLcid? with
  | none => rfl
  | some l => rfl

theorem on_setValue (name : String) (value : FieldValue) :
    (setValue name value).on held = committed held ((held.1.setValue name value).map (·, ())) := by
  rw [setValue, on_bind, on_require, ActionForm.setValue]
  cases held.1.expect .editing with
  | error e => rfl
  | ok _ =>
    by_cases unknown : (held.1.kind.field? name).isNone = true
    · simp only [on_bind, on_require, if_pos unknown]; rfl
    · simp only [on_bind, on_require, if_neg unknown, on_assign, on_form]
      dsimp only [bind, Except.bind, pure, Except.pure]
      split
      · rw [on_copyChosenLcid]; rfl
      · rfl

theorem on_setRecipients (recipients : Recipients) :
    (setRecipients recipients).on held =
      committed held ((held.1.setRecipients recipients).map (·, ())) := by
  rw [setRecipients, on_bind, on_require, ActionForm.setRecipients]
  cases held.1.expect .editing <;> rfl

theorem on_beginSubmit :
    (beginSubmit ctx).on held =
      (.ok (held.1.beginSubmit ctx).2, (held.1.beginSubmit ctx).1, held.2) := by
  rw [beginSubmit, on_bind, on_form, ActionForm.beginSubmit]
  dsimp only
  cases held.1.kind.buildMutation held.1.values ctx held.1.notified <;> rfl

theorem on_settle :
    (settle ctx).on held = (.ok (held.1.settle ctx).2, (held.1.settle ctx).1, held.2) := by
  rw [settle, on_bind, on_form, ActionForm.settle]
  dsimp only
  split
  · rfl
  · rw [on_bind, on_assign]
    cases held.1.kind.confirmation? ctx with
    | some question => rfl
    | none => exact on_beginSubmit

theorem on_submit (button : Button) :
    (submit button ctx).on held = committed held (held.1.submit button ctx) := by
  rw [submit, on_bind, on_require, ActionForm.submit]
  cases held.1.expect .editing with
  | error e => rfl
  | ok _ =>
    simp only [on_bind, on_assign, on_settle]
    rfl

theorem on_confirm :
    (confirm ctx).on held = committed held (held.1.confirm ctx) := by
  rw [confirm, on_bind, on_require, ActionForm.confirm]
  cases held.1.expect .confirming with
  | error e => rfl
  | ok _ =>
    simp only [on_bind, on_assign, on_beginSubmit]
    rfl

theorem on_cancel :
    (cancel : InPlace σ Unit).on held = committed held (held.1.cancel.map (·, ())) := by
  rw [cancel, on_bind, on_require, ActionForm.cancel]
  cases held.1.expect .confirming <;> rfl

theorem on_resolve (answer : Except SubmitError Outcome) :
    (resolve answer).on held = committed held ((held.1.resolve answer).map (·, ())) := by
  unfold resolve ActionForm.resolve
  rw [on_bind, on_require]
  cases held.1.expectSubmitting with
  | error e => rfl
  | ok _ => rcases answer with (detail | detail) | outcome <;> rfl

theorem on_dispatchWith (client : Mutation → σ → Except SubmitError Outcome × σ) (m : Mutation) :
    (dispatchWith client m).on held =
      match held.1.dispatchWith client m held.2 with
      | .ok left => (.ok (), left)
      | .error e => (.error e, held) := by
  rw [dispatchWith, on_bind, on_require, ActionForm.dispatchWith]
  cases waiting : held.1.expectSubmitting with
  | error e => rfl
  | ok _ =>
    change (ask (client m) >>= resolve).on held = _
    rw [on_bind, on_ask]
    dsimp only
    -- Asking the client leaves the form alone, so that it still waits for the answer.
    rw [on_resolve, ActionForm.resolve, waiting]
    rfl

end InPlace

/-! ## Calls -/

inductive FormCall (σ : Type) where
  | own (op : FormOp)
  | send (client : Mutation → σ → Except SubmitError Outcome × σ) (m : Mutation)

namespace FormCall

def inPlace : FormCall σ → InPlace σ (Option SubmitOutcome)
  | own (.hydrate loaded) => do InPlace.hydrate loaded; return none
  | own (.setValue name value) => do InPlace.setValue name value; return none
  | own (.setRecipients recipients) => do InPlace.setRecipients recipients; return none
  | own (.submit button ctx) => do return some (← InPlace.submit button ctx)
  | own (.confirm ctx) => do return some (← InPlace.confirm ctx)
  | own .cancel => do InPlace.cancel; return none
  | own (.resolve answer) => do InPlace.resolve answer; return none
  | send client m => do InPlace.dispatchWith client m; return none

/-- What a call answers, and the form and the state of the client that it leaves. -/
def run (c : FormCall σ) (held : ActionForm × σ) :
    Except Failure (Option SubmitOutcome) × (ActionForm × σ) :=
  c.inPlace.on held

def runAll (calls : List (FormCall σ)) (held : ActionForm × σ) : ActionForm × σ :=
  calls.foldl (fun held c => (c.run held).2) held

theorem run_own (op : FormOp) (held : ActionForm × σ) :
    (own op).run held = InPlace.committed held (held.1.perform op) := by
  cases op with
  | hydrate loaded =>
    rw [run, inPlace, InPlace.on_bind, InPlace.on_hydrate, ActionForm.perform]
    cases held.1.hydrate loaded <;> rfl
  | setValue name value =>
    rw [run, inPlace, InPlace.on_bind, InPlace.on_setValue, ActionForm.perform]
    cases held.1.setValue name value <;> rfl
  | setRecipients recipients =>
    rw [run, inPlace, InPlace.on_bind, InPlace.on_setRecipients, ActionForm.perform]
    cases held.1.setRecipients recipients <;> rfl
  | submit button ctx =>
    rw [run, inPlace, InPlace.on_bind, InPlace.on_submit, ActionForm.perform]
    cases held.1.submit button ctx <;> rfl
  | confirm ctx =>
    rw [run, inPlace, InPlace.on_bind, InPlace.on_confirm, ActionForm.perform]
    cases held.1.confirm ctx <;> rfl
  | cancel =>
    rw [run, inPlace, InPlace.on_bind, InPlace.on_cancel, ActionForm.perform]
    cases held.1.cancel <;> rfl
  | resolve answer =>
    rw [run, inPlace, InPlace.on_bind, InPlace.on_resolve, ActionForm.perform]
    cases held.1.resolve answer <;> rfl

theorem run_send (client : Mutation → σ → Except SubmitError Outcome × σ) (m : Mutation)
    (held : ActionForm × σ) :
    (send client m).run held =
      match held.1.dispatchWith client m held.2 with
      | .ok left => (.ok none, left)
      | .error e => (.error e, held) := by
  rw [run, inPlace, InPlace.on_bind, InPlace.on_dispatchWith]
  cases held.1.dispatchWith client m held.2 <;> rfl

end FormCall

end GovernanceDesk

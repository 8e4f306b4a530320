import GovernanceDesk.Store.Apply

/-!
# Running an action from its form to its effect

* `ActionRequest`, `ActionRun`: what to fill in and press, and how it ended.
* `Store.loadContext`: what a form is opened on.
* `ActionForm.fill`: the values and recipients of a request entered into an open form.
* `Store.runAction`: opening, filling in, submitting, confirming and sending a form.
-/

namespace GovernanceDesk
set_option autoImplicit false

structure ActionRequest where
  intakeId : String
  kind : ActionKind
  values : FormValues
  /-- Without a choice the form keeps the recipients it starts from. -/
  recipients : Option Recipients
  button : Button
  /-- Whether a confirmation, if one is asked for, is given. -/
  confirmed : Bool

inductive ActionRun where
  | done (m : Mutation) (flash : Option Flash) (redirect : Option String)
  | invalid (messages : Messages)
  | needsConfirmation (question : Confirmation)
  | failed (message : String) (retryable : Bool)

namespace ActionRun

def encoded : ActionRun → Tree
  | done m flash redirect => .fields <|
    [("result", .text "done"), ("mutation", encode m)] ++
    (match flash with | some f => [("flash", f.encoded)] | none => []) ++
    Entries.ifSome "redirect" redirect
  | invalid messages => .fields [("result", .text "invalid"), ("errors", encode messages)]
  | needsConfirmation question => .fields
    [("result", .text "needs_confirmation"), ("title", .text question.title),
      ("content", .text question.content)]
  | failed message retryable => .fields
    [("result", .text "failed"), ("message", .text message), ("retryable", .bool retryable)]

/-- How a form that was sent has ended. -/
def ofForm (m : Mutation) (f : ActionForm) : ActionRun :=
  if f.phase = .done then .done m f.flash f.redirect
  else .failed (f.rootError.getD "") (f.phase == .editing)

end ActionRun

/-! ## Filling in -/

namespace ActionRequest

/-- The values in the order in which they are entered: the choice of a life cycle ID comes first, so
that explicit values override what choosing one fills in. -/
def orderedValues (r : ActionRequest) : List (String × FieldValue) :=
  let isSelection := fun (e : String × FieldValue) => ActionForm.lcidSelectionFields.contains e.1
  r.values.entries.filter isSelection ++ r.values.entries.filter fun e => !isSelection e

end ActionRequest

namespace ActionForm

def setValues (f : ActionForm) (values : List (String × FieldValue)) :
    Except Failure ActionForm :=
  values.foldlM (fun f e => f.setValue e.1 e.2) f

def fill (f : ActionForm) (r : ActionRequest) : Except Failure ActionForm := do
  let f ← f.setValues r.orderedValues
  match r.recipients with
  | some recipients => f.setRecipients recipients
  | none => return f

/-- Presses the button and, if the request says so, confirms. -/
def press (f : ActionForm) (r : ActionRequest) (ctx : ActionContext) :
    Except Failure (ActionForm × SubmitOutcome) := do
  match ← f.submit r.button ctx with
  | (f, .needsConfirmation question) =>
    if r.confirmed then f.confirm ctx else return (f, .needsConfirmation question)
  | result => return result

end ActionForm

/-! ## Running -/

namespace Store

def loadContext (s : Store) (id : String) (today : Date) : Except Failure ActionContext := do
  let intake ← s.load id
  let config ← s.configIfAny
  let lcids ← s.existingLcids
  return {
    intake := intake
    existingLcids := lcids
    today := today
    lcidTermYears := ((config.map Config.lcid).getD .standard).years }

/-- Sends a mutation from a form that waits for an answer. -/
def send (s : Store) (today : Date) (now : Instant) (f : ActionForm) (m : Mutation) :
    Except Failure ActionRun × Store :=
  match f.dispatchWith (fun m s => s.dispatch today now m) m s with
  | .ok (f, s) => (.ok (.ofForm m f), s)
  | .error e => (.error e, s)

/-- A form filled in and pressed, on the request as it is now. -/
def pressed (s : Store) (today : Date) (r : ActionRequest) (f : ActionForm) :
    Except Failure (ActionForm × SubmitOutcome) := do
  let f ← f.fill r
  let ctx ← s.loadContext r.intakeId today
  f.press r ctx

def runAction (s : Store) (today : Date) (now : Instant) (r : ActionRequest) :
    Except Failure ActionRun × Store :=
  match (ActionForm.fresh r.kind r.intakeId).hydrate (s.loadContext r.intakeId today) with
  | .error e => (.error e, s)
  | .ok f =>
    if f.phase = .failed then (.ok (.failed (f.rootError.getD "") true), s)
    else match s.pressed today r f with
    | .error e => (.error e, s)
    | .ok (_, .invalid messages) => (.ok (.invalid messages), s)
    | .ok (f, .needsConfirmation question) =>
      if r.confirmed then
        (.error (.wrongPhase Phase.submitting.name f.phase.name), s)
      else (.ok (.needsConfirmation question), s)
    | .ok (f, .dispatch m) => s.send today now f m

end Store

end GovernanceDesk

import GovernanceDesk.Action.Building
import GovernanceDesk.Form.Validation
import GovernanceDesk.Place

/-!
# The form of an action

A form is opened on a request, filled in, submitted, perhaps confirmed, and resolved by the answer
to its mutation. It does nothing itself: loaded data and answers are handed to it, and it hands out
the mutation to send.

* `Phase`: how far the form is.
* `ActionForm.hydrate`, `setValue`, `setRecipients`: opening the form and filling it in.
* `ActionForm.submit`, `confirm`, `cancel`: pressing a button and answering the question it raised.
* `ActionForm.resolve`: taking the answer to the mutation.
-/

namespace GovernanceDesk
set_option autoImplicit false

inductive Phase where
  | loadingDefaults
  | editing
  | validating
  | confirming
  | submitting
  | done
  | failed
deriving DecidableEq

def Phase.name : Phase → String
  | loadingDefaults => "loading_defaults"
  | editing => "editing"
  | validating => "validating"
  | confirming => "confirming"
  | submitting => "submitting"
  | done => "done"
  | failed => "failed"

/-- The two ways to complete an action. -/
inductive Button where
  | complete
  | completeWithoutEmail
deriving DecidableEq

namespace Button

def all : List Button := [complete, completeWithoutEmail]

def tag : Button → String
  | complete => "complete"
  | completeWithoutEmail => "complete_without_email"

instance : Tagged Button := ⟨"SubmitButton", all, tag⟩

def suppressesEmail : Button → Bool
  | complete => false
  | completeWithoutEmail => true

end Button

/-- A message for the page that is shown next. -/
structure Flash where
  isSuccess : Bool
  text : String
deriving DecidableEq

namespace Flash

def kind (f : Flash) : String :=
  if f.isSuccess then "success" else "error"

def encoded (f : Flash) : Tree :=
  .fields [("kind", .text f.kind), ("text", .text f.text)]

end Flash

/-- What a mutation led to. -/
structure Outcome where
  intakeId : String
  operation : String
  lcid : Option String
deriving DecidableEq

instance : Coded Outcome where
  shape := .record
    [.need String "system_intake_id", .need String "operation", .optional String "lcid"]
  encode o := .fields <|
    [("system_intake_id", encode o.intakeId), ("operation", encode o.operation)] ++
    Entries.ifSome "lcid" o.lcid
  decode t := do
    let entries ← t.fields?
    return {
      intakeId := ← entries.need "system_intake_id"
      operation := ← entries.need "operation"
      lcid := ← entries.optional "lcid" }

/-- Why a mutation had no outcome: it did not get through, or it was refused. -/
inductive SubmitError where
  | transport (detail : String)
  | rejected (detail : String)
deriving DecidableEq

def SubmitError.message : SubmitError → String
  | transport detail => "transport error: " ++ detail
  | rejected detail => "rejected: " ++ detail

/-- What pressing a button leads to. -/
inductive SubmitOutcome where
  | invalid (messages : Messages)
  | needsConfirmation (question : Confirmation)
  | dispatch (m : Mutation)

structure ActionForm where
  kind : ActionKind
  intakeId : String
  requestName : String
  phase : Phase
  values : FormValues
  recipients : Recipients
  emailSuppressed : Bool
  confirmationOpen : Bool
  errors : Messages
  rootError : Option String
  flash : Option Flash
  redirect : Option String
  existingLcids : List LcidRecord

/-! ## Texts -/

def submitFailedText : String :=
  "Something went wrong. Your action could not be completed. Please try again."

def loadFailedText : String :=
  "Failed to load request data. Refresh the page to try again."

def ActionKind.successText (kind : ActionKind) (requestName : String) (lcid : Option String) :
    String :=
  match kind, lcid with
  | .issueLcid, some lcid => s!"Life Cycle ID {lcid} is issued for {requestName}."
  | .requestEdits, _ => s!"Edits requested for {requestName}."
  | .closeRequest, _ => s!"{requestName} is closed."
  | .reopenRequest, _ => s!"{requestName} is re-opened."
  | kind, _ => "Action complete: " ++ kind.title ++ " for " ++ requestName ++ "."

/-! ## Defaults -/

namespace FormValues

def setText (values : FormValues) (name text : String) : FormValues :=
  values.set name (.text text)

def setTextIfAny (values : FormValues) (name : String) (text? : Option String) : FormValues :=
  match text? with
  | some text => values.setText name text
  | none => values

/-- The fields of a life cycle ID that a form can change. -/
def withLcid (values : FormValues) (l : LcidRecord) : FormValues :=
  (((values.setText "expiresAt" l.expiresAt.slashed).setText "scope" l.scope).setText "nextSteps"
    l.nextSteps).setTextIfAny "costBaseline" l.costBaseline

end FormValues

namespace ActionContext

/-- When a life cycle ID issued today is suggested to expire; today, if that is past all dates. -/
def suggestedExpiry (ctx : ActionContext) : Date :=
  (ctx.today.addMonths? (Date.monthsIn ctx.lcidTermYears)).getD ctx.today

end ActionContext

/-- The values a form starts from. -/
def ActionKind.defaults (kind : ActionKind) (ctx : ActionContext) : FormValues :=
  match kind, ctx.intake.lcid with
  | .issueLcid, some l =>
    (FormValues.withLcid ∅ l).setText "trbFollowUp" l.trbFollowUp.tag
  | .issueLcid, none => FormValues.setText ∅ "expiresAt" ctx.suggestedExpiry.slashed
  | .updateLcid, some l => FormValues.withLcid ∅ l
  | .retireLcid, some l =>
    FormValues.setTextIfAny ∅ "retiresAt" (l.retiresAt.map Date.slashed)
  | _, _ => ∅

/-! ## The form -/

namespace ActionForm

def fresh (kind : ActionKind) (intakeId : String) : ActionForm where
  kind := kind
  intakeId := intakeId
  requestName := ""
  phase := .loadingDefaults
  values := ∅
  recipients := .nobody
  emailSuppressed := false
  confirmationOpen := false
  errors := ∅
  rootError := none
  flash := none
  redirect := none
  existingLcids := []

def canSubmit (f : ActionForm) : Bool :=
  f.phase == .editing

def visibleFields (f : ActionForm) : List Field :=
  f.kind.visibleFields f.values

def warnings (f : ActionForm) (today : Date) : List FieldWarning :=
  f.kind.pastDateWarnings f.values today

/-- Refuses when the form is in another phase; a form that waits for an answer is busy. -/
def expect (f : ActionForm) (phase : Phase) : Except Failure Unit :=
  if f.phase = phase then .ok ()
  else if f.phase = .submitting then .error .busy
  else .error (.wrongPhase phase.name f.phase.name)

/-! ### Opening -/

/-- Takes the loaded data. After a failed load the form has failed for good. -/
def hydrate (f : ActionForm) (loaded : Except Failure ActionContext) :
    Except Failure ActionForm := do
  f.expect .loadingDefaults
  match loaded with
  | .error _ => return { f with phase := .failed, rootError := some loadFailedText }
  | .ok ctx =>
    return { f with
      requestName := ctx.intake.requestName
      recipients := .forRequester ctx.intake.requester.email
      values := f.kind.defaults ctx
      existingLcids := ctx.existingLcids
      phase := .editing }

/-! ### Filling in -/

/-- The record of the life cycle ID that is chosen, if it is one that exists. -/
def chosenLcid? (f : ActionForm) : Option LcidRecord :=
  (f.values.text? "lcid").bind fun chosen => f.existingLcids.find? fun l => l.lcid == chosen

/-- Fills the decision fields from the chosen life cycle ID. -/
def copyChosenLcid (f : ActionForm) : ActionForm :=
  match f.chosenLcid? with
  | none => f
  | some l =>
    { f with values := f.values.withLcid { l with costBaseline := some (l.costBaseline.getD "") } }

/-- The fields by which an existing life cycle ID is chosen. -/
def lcidSelectionFields : List String := ["useExistingLcid", "lcid"]

def setValue (f : ActionForm) (name : String) (value : FieldValue) :
    Except Failure ActionForm := do
  f.expect .editing
  if (f.kind.field? name).isNone then
    throw (.unknownField f.kind.slug name)
  let f := { f with values := f.values.set name value }
  if f.kind = .issueLcid ∧ name ∈ lcidSelectionFields ∧ f.values.flag "useExistingLcid" = true then
    return f.copyChosenLcid
  else
    return f

def setRecipients (f : ActionForm) (recipients : Recipients) : Except Failure ActionForm := do
  f.expect .editing
  return { f with recipients := recipients }

/-! ### Submitting -/

/-- Whether an existing life cycle ID is named that does not exist. -/
def namesUnknownLcid (f : ActionForm) : Bool :=
  f.kind == .issueLcid && f.values.flag "useExistingLcid" && (f.values.text? "lcid").isSome &&
    f.chosenLcid?.isNone

/-- What keeps the form from being sent. -/
def problems (f : ActionForm) (suppressEmail : Bool) : Messages :=
  let messages := f.kind.problems f.values
  let messages :=
    if f.namesUnknownLcid then messages.setNew "lcid" "Select an existing Life Cycle ID"
    else messages
  match if suppressEmail then none else f.recipients.problem? with
  | some message => messages.setNew "recipients" message
  | none => messages

def notified (f : ActionForm) : Option Recipients :=
  if f.emailSuppressed then none else some f.recipients

/-- Hands out the mutation and waits for its answer. -/
def beginSubmit (f : ActionForm) (ctx : ActionContext) : ActionForm × SubmitOutcome :=
  match f.kind.buildMutation f.values ctx f.notified with
  | .ok m => ({ f with phase := .submitting }, .dispatch m)
  | .error messages => ({ f with phase := .editing, errors := messages }, .invalid messages)

/-- Settles a form that is being checked: back to editing, on to the question, or sent. -/
def settle (f : ActionForm) (ctx : ActionContext) : ActionForm × SubmitOutcome :=
  let messages := f.problems f.emailSuppressed
  if !messages.isEmpty then
    ({ f with errors := messages, phase := .editing }, .invalid messages)
  else
    let f := { f with errors := ∅ }
    match f.kind.confirmation? ctx with
    | some question =>
      ({ f with phase := .confirming, confirmationOpen := true }, .needsConfirmation question)
    | none => f.beginSubmit ctx

/-- Presses a button. The context must be the latest: it decides which operation is built. -/
def submit (f : ActionForm) (button : Button) (ctx : ActionContext) :
    Except Failure (ActionForm × SubmitOutcome) := do
  f.expect .editing
  let checked := { f with
    phase := .validating
    emailSuppressed := button.suppressesEmail
    rootError := none }
  return checked.settle ctx

def confirm (f : ActionForm) (ctx : ActionContext) :
    Except Failure (ActionForm × SubmitOutcome) := do
  f.expect .confirming
  return { f with confirmationOpen := false }.beginSubmit ctx

/-- Dismisses the question; what was entered stays. -/
def cancel (f : ActionForm) : Except Failure ActionForm := do
  f.expect .confirming
  return { f with confirmationOpen := false, phase := .editing }

/-! ### Resolving -/

def expectSubmitting (f : ActionForm) : Except Failure Unit :=
  if f.phase = .submitting then .ok ()
  else .error (.wrongPhase Phase.submitting.name f.phase.name)

def answered (f : ActionForm) : Except SubmitError Outcome → ActionForm
  | .ok outcome =>
    { f with
      flash := some ⟨true, f.kind.successText f.requestName outcome.lcid⟩
      redirect := some (Layout.actionsRoute f.intakeId)
      phase := .done }
  | .error (.transport _) =>
    { f with rootError := some submitFailedText, confirmationOpen := false, phase := .editing }
  | .error (.rejected detail) =>
    { f with
      flash := some ⟨false, detail⟩
      rootError := some detail
      confirmationOpen := false
      phase := .failed }

def resolve (f : ActionForm) (answer : Except SubmitError Outcome) :
    Except Failure ActionForm := do
  f.expectSubmitting
  return f.answered answer

/-- Sends the mutation to a client and takes its answer. A form that is not waiting for an answer
sends nothing. -/
def dispatchWith {σ : Type} (f : ActionForm)
    (client : Mutation → σ → Except SubmitError Outcome × σ) (m : Mutation) (state : σ) :
    Except Failure (ActionForm × σ) := do
  f.expectSubmitting
  let (answer, state) := client m state
  return (f.answered answer, state)

end ActionForm

end GovernanceDesk

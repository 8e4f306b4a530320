import GovernanceDesk.Cli.Command
import GovernanceDesk.Cli.Intakes

/-!
# Commands on actions

Listing the actions a request offers, showing the form of one, and running one.
-/

namespace GovernanceDesk.Cli
set_option autoImplicit false

/-! ## Listing -/

def actionLine (r : ActionRecord) : String :=
  "  " ++ r.createdAt.minuteText ++ "  " ++ Table.padded 20 r.action.slug ++ " " ++ r.operation.name

namespace Desk

def listActions (d : Desk) (id : String) : Report :=
  .ofResult do
    let i ← d.load id
    return d.report
      (.fields [("available", encode i.available), ("history", encode i.history),
        ("id", .text i.id)])
      (Table.lines ["ACTION", "TITLE"] (i.available.map fun kind => [kind.slug, kind.title]) ++
        historyLines actionLine i.history)

end Desk

/-! ## Showing a form -/

def valueText : Option FieldValue → String
  | some (.text s) => s
  | some (.mark isSet) => if isSet then "true" else "false"
  | none => ""

def fieldRow (values : FormValues) (f : Field) : List String :=
  [f.name, f.label, if f.required values then "yes" else "", valueText (values.get? f.name)]

def fieldTree (values : FormValues) (f : Field) : Tree := .fields
  [("label", .text f.label), ("name", .text f.name), ("required", .bool (f.required values))]

def formTree (f : ActionForm) (ctx : ActionContext) : Tree := .fields
  [("action", .text f.kind.slug),
    ("confirmation", ((f.kind.confirmation? ctx).map Confirmation.encoded).getD .null),
    ("fields", .list (f.visibleFields.map (fieldTree f.values))),
    ("recipients", encode f.recipients), ("title", .text f.kind.title),
    ("values", encode f.values), ("warnings", encode (f.warnings ctx.today))]

def recipientsText (addresses : List String) : String :=
  if addresses.isEmpty then "-" else ", ".intercalate addresses

def confirmationLines (question : Confirmation) : List String :=
  ["", question.title, question.content]

def formLines (f : ActionForm) (ctx : ActionContext) : List String :=
  [f.kind.title ++ " (" ++ f.kind.slug ++ ")"] ++
  (if ctx.intake.offers f.kind then []
  else ["note: not normally offered for this intake right now"]) ++ [""] ++
  Table.lines ["FIELD", "LABEL", "REQUIRED", "DEFAULT"] (f.visibleFields.map (fieldRow f.values)) ++
  ["", "Recipients: " ++ recipientsText f.recipients.addresses] ++
  ((f.warnings ctx.today).map fun w => "warning: " ++ w.field ++ ": " ++ w.message) ++
  ((f.kind.confirmation? ctx).map confirmationLines).getD []

namespace Desk

def showAction (d : Desk) (id kind : String) : Report :=
  .ofResult do
    let kind ← (ActionKind.read kind).mapError .failed
    let ctx ← (d.store.loadContext id d.today).mapError (.noSuchIntake id)
    let form ← ((ActionForm.fresh kind id).hydrate (.ok ctx)).mapError .failed
    return d.report (formTree form ctx) (formLines form ctx)

end Desk

/-! ## Running -/

/-- What is written for the two states of a check box. -/
def readCheckBox (name written : String) : Except Complaint FieldValue :=
  let word := Text.trim written
  if ["true", "yes", "1"].contains word then .ok (.mark true)
  else if ["false", "no", "0"].contains word then .ok (.mark false)
  else .error (.badCheckBox name word)

/-- A value of a field, written as its name, an equals sign and the value. -/
def readSetting (kind : ActionKind) (written : String) : Except Complaint (String × FieldValue) :=
  match cutAtEquals? written with
  | none => .error (.badSetting written)
  | some (name, value) => do
    let name := Text.trim name
    if (kind.field? name).any fun f => f.kind == .checkBox then
      return (name, ← readCheckBox name value)
    else return (name, .text value)

namespace RunOptions

/-- The chosen recipients; without an address the form keeps its own. -/
def recipients (o : RunOptions) : Option Recipients :=
  if o.addresses.isEmpty then none
  else some ⟨o.addresses, o.notifyGovernance, o.notifyInvestment⟩

def button (o : RunOptions) : Button :=
  if o.withoutEmail then .completeWithoutEmail else .complete

def request (o : RunOptions) (id kind : String) : Except Complaint ActionRequest := do
  let kind ← (ActionKind.read kind).mapError .failed
  let settings ← o.settings.mapM (readSetting kind)
  return ⟨id, kind, NameMap.ofList settings, o.recipients, o.button, o.confirmed⟩

end RunOptions

/-- How a run that ended is reported to the eye. -/
def runReport : ActionRun → Report
  | .done _ flash _ => .lines (flash.map Flash.text).toList
  | .invalid messages =>
    ⟨[], messages.entries.map fun e => "  " ++ e.1 ++ ": " ++ e.2,
      some (.invalidFields messages.size)⟩
  | .needsConfirmation question => ⟨[], [question.title, question.content], some .unconfirmed⟩
  | .failed message _ => .refused (.unfinished message)

namespace Desk

def runReport (d : Desk) (run : ActionRun) : Report :=
  let report := Cli.runReport run
  if d.json then ⟨[Json.pretty run.encoded], [], report.complaint⟩ else report

def runAction (d : Desk) (id kind : String) (options : RunOptions) : Report × Store :=
  match (do let r ← options.request id kind; let _ ← d.load id; return r) with
  | .error c => (.refused c, d.store)
  | .ok r =>
    match d.store.runAction d.today d.now r with
    | (.ok run, s) => (d.runReport run, s)
    | (.error e, s) => (.refused (.failed e), s)

end Desk

end GovernanceDesk.Cli

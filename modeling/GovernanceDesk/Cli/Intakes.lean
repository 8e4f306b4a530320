import GovernanceDesk.Cli.Desk
import GovernanceDesk.Cli.Table

/-!
# Commands on requests

Making a request, listing all of them, showing one, setting the status of a stage, and the task
list.
-/

namespace GovernanceDesk.Cli
set_option autoImplicit false

def orDash (text? : Option String) : String := text?.getD "-"

/-! ## Making -/

/-- A text cut at its first equals sign. -/
def cutAtEquals? (s : String) : Option (String × String) :=
  match s.toList.dropWhile (· != '=') with
  | [] => none
  | _ :: value => some (String.ofList (s.toList.takeWhile (· != '=')), String.ofList value)

/-- A contact written as a name, an equals sign and an address. -/
def readContact (written : String) : Except Complaint Contact :=
  match cutAtEquals? written with
  | none => .error (.badContact written)
  | some (name, address) =>
    let address := Text.trim address
    if isEmail address then .ok ⟨Text.trim name, address, none⟩ else .error (.badAddress address)

namespace Desk

def madeReport (d : Desk) (i : Intake) : Report :=
  d.report (encode i) ["Created intake " ++ i.id ++ ": " ++ i.requestName]

def createIntake (d : Desk) (name requester email : String) (contacts : List String) :
    Report × Store :=
  if !isEmail email then (.refused (.badAddress email), d.store)
  else match contacts.mapM readContact with
  | .error c => (.refused c, d.store)
  | .ok contacts =>
    match d.store.createWithContacts d.moment name ⟨requester, email, none⟩ contacts with
    | (.ok i, s) => (d.madeReport i, s)
    | (.error e, s) => (.refused (.failedTo "create intake" e), s)

/-! ## Listing -/

end Desk

def summaryTree (i : Intake) : Tree := .fields
  [("current_stage", (Entries.orNull "" i.currentStage?).2),
    ("decision_state", encode i.decision), ("id", .text i.id),
    Entries.orNull "lcid" (i.lcid.map LcidRecord.lcid), ("request_name", .text i.requestName),
    ("state", encode i.state)]

def lcidText (today : Date) (l : LcidRecord) : String :=
  l.lcid ++ " (" ++ (l.status today).tag ++ ")"

def summaryRow (today : Date) (i : Intake) : List String :=
  [i.id, i.requestName, i.state.tag, orDash (i.currentStage?.map Stage.label),
    orDash (i.lcid.map (lcidText today))]

namespace Desk

def listIntakes (d : Desk) : Report :=
  match d.store.intakes with
  | .error e => .refused (.failedTo "list intakes" e)
  | .ok all =>
    d.report (.list (all.map summaryTree))
      (if all.isEmpty then ["No intakes."]
      else Table.lines ["ID", "NAME", "STATE", "CURRENT STEP", "LCID"]
        (all.map (summaryRow d.today)))

end Desk

/-! ## Showing -/

/-- A line for a value that may be missing. -/
def lineIfAny (heading : String) (text? : Option String) : List String :=
  (text?.map (heading ++ ·)).toList

def lcidLines (today : Date) (l : LcidRecord) : List String :=
  ("LCID:      " ++ l.lcid ++ " (" ++ (l.status today).tag ++ ", expires " ++ l.expiresAt.iso
      ++ ")")
    :: lineIfAny "Retires:   " (l.retiresAt.map Date.iso)

/-- A history under its heading, one line an entry, if there is any. -/
def historyLines (line : ActionRecord → String) (history : List ActionRecord) : List String :=
  if history.isEmpty then [] else "" :: "History:" :: history.map line

def operationLine (r : ActionRecord) : String :=
  "  " ++ r.createdAt.minuteText ++ "  " ++ r.operation.name

def intakeLines (today : Date) (i : Intake) : List String :=
  ["Intake:    " ++ i.id, "Name:      " ++ i.requestName,
    "Requester: " ++ i.requester.name ++ " <" ++ i.requester.email ++ ">",
    "Step:      " ++ i.step.tag, "State:     " ++ i.state.tag, "Decision:  " ++ i.decision.tag] ++
  lineIfAny "Current:   " (i.currentStage?.map Stage.label) ++
  lineIfAny "GRT date:  " (i.grtDate.map Date.iso) ++
  lineIfAny "GRB date:  " (i.grbDate.map Date.iso) ++
  ((i.lcid.map (lcidLines today)).getD []) ++ historyLines operationLine i.history

namespace Desk

def showIntake (d : Desk) (id : String) : Report :=
  .ofResult do
    let i ← d.load id
    return d.report (encode i) (intakeLines d.today i)

/-! ## Statuses -/

end Desk

/-- A status that somebody reports; handing in the intake form is dated. -/
def reported (i : Intake) (stage : Stage) (status : Status) (now : Instant) : Intake :=
  let i := i.withStatus stage status now
  if stage = .intakeForm ∧ status = .submitted then { i with submittedAt := some now } else i

namespace Desk

def setStatus (d : Desk) (id stage status : String) : Report × Store :=
  d.finish do
    let stage : Stage ← (Tagged.read stage).mapError .failed
    let status : Status ← (Tagged.read status).mapError .failed
    let i := reported (← d.load id) stage status d.now
    let s ← d.save i
    let resolved := TaskList.status i.taskList stage
    return (d.report
      (.fields [("id", .text i.id), ("resolved", encode resolved), ("stage", encode stage),
        ("stored", encode status)])
      [stage.label ++ ": " ++ status.tag ++ " (shows as \"" ++ resolved.label ++ "\")"], s)

end Desk

/-! ## Task list -/

def taskRow (current : Option Stage) (number : Nat) (row : TaskRow) : List String :=
  [if current == some row.stage then ">" else "", toString number ++ ".", row.stage.label,
    row.status.label, if row.hasFeedback then "read feedback" else ""]

def taskRows (current : Option Stage) : Nat → List TaskRow → List (List String)
  | _, [] => []
  | number, row :: rest => taskRow current number row :: taskRows current (number + 1) rest

namespace Desk

def tasks (d : Desk) (id : String) : Report :=
  .ofResult do
    let i ← d.load id
    return d.report
      (.fields [Entries.orNull "current_stage" i.currentStage?, ("id", .text i.id),
        ("rows", .list (i.taskList.map TaskRow.encoded))])
      ((i.requestName ++ " (" ++ i.id ++ ")") ::
        Table.lines ["", "#", "STEP", "STATUS", "FEEDBACK"]
          (taskRows i.currentStage? 1 i.taskList))

end Desk

end GovernanceDesk.Cli

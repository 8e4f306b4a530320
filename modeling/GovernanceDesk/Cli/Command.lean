import GovernanceDesk.Cli.Arguments

/-!
# Commands

* `Command`: everything that can be asked for on a command line, with its arguments.
* `Invocation`: a command with the options that all commands share.
* `Invocation.read`: the invocation that a command line is.
-/

namespace GovernanceDesk.Cli
set_option autoImplicit false

structure RunOptions where
  settings : List String
  addresses : List String
  notifyGovernance : Bool
  notifyInvestment : Bool
  withoutEmail : Bool
  confirmed : Bool
deriving DecidableEq

/-- Names, stages and the like are kept as they were written. -/
inductive Command where
  | init (name : Option String)
  | createIntake (name requester email : String) (contacts : List String)
  | listIntakes
  | showIntake (id : String)
  | setStatus (id stage status : String)
  | tasks (id : String)
  | addFeedback (id target source : String) (author : Option String) (text : String)
  | listFeedback (id : String)
  | listActions (id : String)
  | showAction (id kind : String)
  | runAction (id kind : String) (options : RunOptions)
  | serve (socket : Nat)
deriving DecidableEq

structure Invocation where
  root : Option String
  json : Bool
  command : Command
deriving DecidableEq

/-! ## Reading -/

def joined (words : List String) : String := " ".intercalate words

/-- Where the server listens unless it is told otherwise. -/
def standardSocket : Nat := 3141

def RunOptions.ofArguments (a : Arguments) : RunOptions where
  settings := a.all "set"
  addresses := a.all "to"
  notifyGovernance := a.has "notify-governance"
  notifyInvestment := a.has "notify-investment"
  withoutEmail := a.has "no-email"
  confirmed := a.has "yes"

/-- The command of a verb with its operands and options. -/
def Command.ofArguments? (v : Verb) (a : Arguments) : Option Command :=
  match v, a.operands with
  | .init, [] => some (.init (a.value? "name"))
  | .tasks, [id] => some (.tasks id)
  | .serve, [] => some (.serve (((a.value? "port").bind readSocket?).getD standardSocket))
  | .createIntake, words => do
    return .createIntake (joined words) (← a.value? "requester") (← a.value? "email")
      (a.all "contact")
  | .listIntakes, [] => some .listIntakes
  | .showIntake, [id] => some (.showIntake id)
  | .setStatus, [id, stage, status] => some (.setStatus id stage status)
  | .addFeedback, id :: words => do
    return .addFeedback id (← a.value? "target") ((a.value? "type").getD "governance-team")
      (a.value? "author") (joined words)
  | .listFeedback, [id] => some (.listFeedback id)
  | .listActions, [id] => some (.listActions id)
  | .showAction, [id, kind] => some (.showAction id kind)
  | .runAction, [id, kind] => some (.runAction id kind (.ofArguments a))
  | _, _ => none

def Invocation.read (args : List String) : Except Refusal Invocation := do
  let (v, a) ← Arguments.read args
  match Command.ofArguments? v a with
  | some command => .ok ⟨a.value? "root", a.has "json", command⟩
  | none => .error .badUsage

end GovernanceDesk.Cli

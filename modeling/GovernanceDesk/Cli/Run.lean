import GovernanceDesk.Cli.Actions
import GovernanceDesk.Cli.Feedback

/-!
# The command line

* `Surroundings`: where a command is given and which root is named there.
* `Desk.perform`: what each command does.
* `Cli.run`: a whole command line.
-/

namespace GovernanceDesk.Cli
set_option autoImplicit false

structure Surroundings where
  cwd : Place
  /-- The root named outside the command line. -/
  namedRoot : Option String

/-- Where a root can be named outside the command line. -/
def rootVariable : String := "EASI_ROOT"

def version : String := "0.1.0"

namespace Desk

def perform (d : Desk) : Command → Report × Store
  | .init name => d.init name
  | .createIntake name requester email contacts => d.createIntake name requester email contacts
  | .listIntakes => (d.listIntakes, d.store)
  | .showIntake id => (d.showIntake id, d.store)
  | .setStatus id stage status => d.setStatus id stage status
  | .tasks id => (d.tasks id, d.store)
  | .addFeedback id target source author text => d.addFeedback id target source author text
  | .listFeedback id => (d.listFeedback id, d.store)
  | .listActions id => (d.listActions id, d.store)
  | .showAction id kind => (d.showAction id kind, d.store)
  | .runAction id kind options => d.runAction id kind options
  | .serve socket => (d.serve socket, d.store)

end Desk

/-! ## Refusals -/

namespace Refusal

def usage (level : Level) : String :=
  " ".intercalate ("Usage: easi" :: level.words ++ ["[OPTIONS]"]) ++ "\n"

/-- A text that was asked for is no error. -/
def output : Refusal → Output
  | badUsage => ⟨2, "", usage (.scope .desk)⟩
  | help level => ⟨0, usage level, ""⟩
  | version level => ⟨0, "-".intercalate ("easi" :: level.words) ++ " " ++ Cli.version ++ "\n", ""⟩

end Refusal

/-! ## Running -/

def invocation (around : Surroundings) (args : List String) : Except Refusal Invocation := do
  let i ← Invocation.read args
  if i.root.isNone && around.namedRoot == some "" then throw .badUsage
  return { i with root := i.root <|> around.namedRoot }

/-- The store at the root of a path. Only a desk that is set up makes the way to its root. -/
def storeAt (s : Store) (cwd : Place) (path : String) : Command → Store
  | .init _ =>
    let (files, root) := s.files.makeWay cwd path
    { s with files := files, root := root }
  | _ => { s with root := s.files.resolve cwd path }

/-- Runs a command line on the files as they are; the store comes back with the root it had. -/
def run (s : Store) (m : Moment) (around : Surroundings) (args : List String) : Output × Store :=
  match invocation around args with
  | .error refusal => (refusal.output, s)
  | .ok i =>
    let path := rootPath s.files around.cwd i.root
    let desk : Desk := ⟨storeAt s around.cwd path i.command, path, m, i.json⟩
    let (report, after) := desk.perform i.command
    (report.output, { after with root := s.root })

end GovernanceDesk.Cli

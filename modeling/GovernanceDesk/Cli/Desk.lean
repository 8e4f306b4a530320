import GovernanceDesk.Cli.Report
import GovernanceDesk.Store.RunAction

/-!
# The desk a command works on

* `nearest?`, `rootPath`: where the desk lies that a command works on.
* `Desk`: the store, the path by which its root is shown, the moment, and how to print.
* `Desk.load`, `Desk.save`: with the complaints of the command line.
* `Desk.init`, `Desk.serve`: setting a desk up, and announcing its server.
-/

namespace GovernanceDesk.Cli
set_option autoImplicit false

/-! ## The root -/

/-- The nearest place, from `start` upward, with a folder of the given name in it. -/
def nearest? (files : FileTree) (marker : String) (start : Place) : Option Place :=
  start.ancestors.find? fun place => files.isFolder (place ++ [marker])

/-- The path of the root, as it is shown: the one that is named, else that of the nearest desk around
the place where one stands, else of the nearest version-controlled folder, else of that place. -/
def rootPath (files : FileTree) (cwd : Place) (named : Option String) : String :=
  match named with
  | some path => path
  | none =>
    ((nearest? files Layout.deskDir cwd <|> nearest? files ".git" cwd).getD cwd).text

/-! ## The desk -/

structure Desk where
  store : Store
  rootPath : String
  moment : Moment
  json : Bool

namespace Desk

def now (d : Desk) : Instant := d.moment.now

def today (d : Desk) : Date := d.moment.today

/-- A value, or lines for the eye. -/
def report (d : Desk) (value : Tree) (lines : List String) : Report :=
  if d.json then .value value else .lines lines

def load (d : Desk) (id : String) : Except Complaint Intake :=
  (d.store.load id).mapError (.noSuchIntake id)

def save (d : Desk) (i : Intake) : Except Complaint Store :=
  (d.store.save i).mapError (.failedTo "save intake")

/-- The end of a command that changes the store unless it is refused. -/
def finish (d : Desk) (result : Except Complaint (Report × Store)) : Report × Store :=
  match result with
  | .ok r => r
  | .error c => (.refused c, d.store)

/-! ## Setting up -/

def makeFolders (d : Desk) : Except Complaint Store :=
  match d.store.files.makeFolder d.store.intakesPlace with
  | some files => .ok { d.store with files := files }
  | none =>
    .error (.failedTo ("create " ++ Layout.intakesPath d.rootPath) (.storage "not a directory"))

/-- A desk is named as it is told, else after the folder it lies in. -/
def projectName (d : Desk) (name : Option String) : String :=
  (name <|> Path.fileName? d.rootPath).getD "governance"

/-- Makes what is missing; a configuration that is there is left alone. -/
def init (d : Desk) (name : Option String) : Report × Store :=
  let project := d.projectName name
  d.finish do
    let s ← d.makeFolders
    let isNew := !s.files.isThere s.configPlace
    let s ← if isNew then
        (s.saveConfig (.forProject project)).mapError (.failedTo "write config.yaml")
      else .ok s
    return (d.report
      (.fields [("config_created", .bool isNew), ("project", .text project),
        ("root", .text d.rootPath)])
      ["Initializing EASi in: " ++ d.rootPath,
        (if isNew then "  created: " else "  exists:  ") ++ Layout.configFile,
        "  ready:   " ++ Layout.intakesDir], s)

/-- Says where the server of a desk that is set up can be asked. -/
def serve (d : Desk) (socket : Nat) : Report :=
  match d.store.config with
  | .ok _ => .lines ["EASi API: http://localhost:" ++ toString socket ++ "/api/intakes"]
  | .error e => .refused (.failed e)

end Desk

end GovernanceDesk.Cli

import GovernanceDesk.Config
import GovernanceDesk.FileTree
import GovernanceDesk.Intake

/-!
# The store of a desk

Every request is a document of its own in a folder named by its id; the configuration is another.

* `Store`: the files, the place of the desk, and how many ids were handed out.
* `Store.load`, `Store.save`, `Store.intakes`: one request, and all of them in the order in which
  they were made.
* `Store.create`, `Store.setStatus`, `Store.addFeedback`: the changes that are not actions.
* `Store.config`, `Store.saveConfig`: the configuration.
-/

namespace GovernanceDesk
set_option autoImplicit false

/-! ## Ids -/

/-- Whether a text can name a request: letters, digits, hyphens and underscores, a letter or digit
first, at most sixty-four. Nothing of the kind leads out of its folder. -/
def isIntakeId (id : String) : Bool :=
  let isNameChar := fun c => Text.isLatinLetter c || Text.isDecimalDigit c
  match id.toList with
  | [] => false
  | c :: rest =>
    isNameChar c && rest.all (fun c => isNameChar c || c == '_' || c == '-') && rest.length < 64

def checkIntakeId (id : String) : Except Failure Unit :=
  if isIntakeId id then .ok () else .error (.invalid (.intakeId id))

/-! ## The store -/

structure Store where
  files : FileTree
  root : Place
  /-- How many ids of requests were handed out so far. -/
  handedOut : Nat

/-- What an operation is told from outside: the time, and the id that each number stands for. -/
structure Moment where
  now : Instant
  idOf : Nat → String

def Moment.today (m : Moment) : Date := m.now.date

namespace Store

def deskPlace (s : Store) : Place := s.root ++ [".easi"]

def intakesPlace (s : Store) : Place := s.deskPlace ++ ["intakes"]

def manifestPlace (s : Store) (id : String) : Place :=
  s.intakesPlace ++ [id, Layout.manifestFile]

def configPlace (s : Store) : Place := s.deskPlace ++ ["config.yaml"]

/-! ### Documents -/

/-- The value a file holds, if there is anything at its place. -/
def readDocument {α : Type} [Coded α] (s : Store) (place : Place) (missing : Failure) :
    Except Failure α :=
  match s.files.find? place with
  | none => .error missing
  | some ⟨.folder, _⟩ => .error (.storage "is a directory")
  | some ⟨.file content, _⟩ =>
    (content.read? : Option α).elim (.error (.unreadable "the document cannot be read")) .ok

def writeDocument {α : Type} [Coded α] (s : Store) (place : Place) (x : α) :
    Except Failure Store :=
  match s.files.write place (.document (encode x)) with
  | some files => .ok { s with files := files }
  | none => .error (.storage "the file cannot be written")

/-! ### Requests -/

def load (s : Store) (id : String) : Except Failure Intake := do
  checkIntakeId id
  s.readDocument (s.manifestPlace id) (.intakeNotFound id)

def save (s : Store) (i : Intake) : Except Failure Store := do
  checkIntakeId i.id
  s.writeDocument (s.manifestPlace i.id) i

/-- The request in a folder; folders that hold none are passed over. -/
def listed (s : Store) (folder : String) : Except Failure (Option Intake) :=
  match s.load folder with
  | .ok i => .ok (some i)
  | .error (.intakeNotFound _) | .error (.invalid _) => .ok none
  | .error e => .error e

def olderFirst (a b : Intake) : Bool :=
  !b.createdAt.before a.createdAt

/-- The folders in which requests lie. -/
def folders (s : Store) : List String :=
  ((s.files.children s.intakesPlace).filter fun e => e.2.isFolder).map Prod.fst

/-- All requests in the order in which they were made. -/
def intakes (s : Store) : Except Failure (List Intake) :=
  match s.files.find? s.intakesPlace with
  | none => .ok []
  | some ⟨.file _, _⟩ => .error (.storage "not a directory")
  | some ⟨.folder, _⟩ => do
    let found ← s.folders.mapM s.listed
    return (found.filterMap id).mergeSort olderFirst

/-- The life cycle IDs that requests hold, in the order of the IDs. -/
def existingLcids (s : Store) : Except Failure (List LcidRecord) := do
  let all ← s.intakes
  return (all.filterMap Intake.lcid).mergeSort fun a b => decide (a.lcid ≤ b.lcid)

/-! ### Configuration -/

def config (s : Store) : Except Failure Config :=
  s.readDocument s.configPlace .notInitialized

/-- The configuration, or none where the desk has none. -/
def configIfAny (s : Store) : Except Failure (Option Config) :=
  match s.config with
  | .ok c => .ok (some c)
  | .error .notInitialized => .ok none
  | .error e => .error e

def saveConfig (s : Store) (c : Config) : Except Failure Store :=
  s.writeDocument s.configPlace c

/-! ### Changes -/

/-- A request as it starts, under the next id. Handing out the id counts even if the request cannot
be saved. -/
def create (s : Store) (m : Moment) (name : String) (requester : Contact) :
    Except Failure Intake × Store :=
  if s.files.isFolder s.deskPlace then
    let i := Intake.opened (m.idOf (s.handedOut + 1)) name requester m.now
    let s := { s with handedOut := s.handedOut + 1 }
    match s.save i with
    | .ok s => (.ok i, s)
    | .error e => (.error e, s)
  else (.error .notInitialized, s)

/-- A request as it starts, saved once more with its contacts if it has any. -/
def createWithContacts (s : Store) (m : Moment) (name : String) (requester : Contact)
    (contacts : List Contact) : Except Failure Intake × Store :=
  match s.create m name requester with
  | (.error e, s) => (.error e, s)
  | (.ok i, s) =>
    if contacts.isEmpty then (.ok i, s)
    else
      let i := { i with contacts := contacts }
      match s.save i with
      | .ok s => (.ok i, s)
      | .error e => (.error e, s)

/-- Sets the status of a stage on record. -/
def setStatus (s : Store) (m : Moment) (id : String) (stage : Stage) (status : Status) :
    Except Failure (Intake × Store) := do
  let i ← s.load id
  let i := i.withStatus stage status m.now
  return (i, ← s.save i)

/-- Adds a feedback record and gives its id. -/
def addFeedback (s : Store) (m : Moment) (id : String) (target : FeedbackTarget)
    (source : FeedbackSource) (text : String) (author : Option String) :
    Except Failure (Intake × String × Store) := do
  let i ← s.load id
  let feedbackId := Feedback.nextId i.feedback
  let i := i.withFeedback target source text author m.now
  return (i, feedbackId, ← s.save i)

end Store

end GovernanceDesk

import GovernanceDesk.Cli.Run
import Std.Time.DateTime

/-!
# The program

Reads the part of the file system that a command can see, runs the command on it, writes back what
the command changed, and prints its report.
-/

namespace GovernanceDesk
set_option autoImplicit false

/-! ## Reading -/

/-- What stands at a place, if anything does. A file that is no text is read as an empty one. -/
def itemAt (place : Place) : IO (Option Item) := do
  let path := (← IO.currentDir) / place.text
  if ← path.isDir then return some .folder
  else if ← path.pathExists then
    let text ← try IO.FS.readFile path catch _ => pure ""
    return some (.file (.text text))
  else return none

def namesIn (place : Place) : IO (List String) := do
  let path := (← IO.currentDir) / place.text
  if ← path.isDir then return (← path.readDir).toList.map fun e => e.fileName
  else return []

/-- The places that matter for a desk at a root. -/
def deskPlaces (root : Place) : IO (List Place) := do
  let desk := root ++ [Layout.deskDir]
  let intakes := desk ++ ["intakes"]
  let folders := (← namesIn intakes).map fun name => intakes ++ [name]
  return root.ancestors.reverse ++ [root ++ [".git"], desk, desk ++ ["config.yaml"], intakes] ++
    folders.flatMap fun folder => [folder, folder ++ [Layout.manifestFile]]

def addItem (files : FileTree) (place : Place) : IO FileTree := do
  match ← itemAt place with
  | some item => return files.put place item
  | none => return files

/-- The desks at all given roots. -/
def readFiles (roots : List Place) : IO FileTree := do
  let places ← roots.mapM deskPlaces
  places.flatten.eraseDups.foldlM addItem ∅

/-! ## Writing -/

/-- Writes an entry that is newer than a count of writes; a file appears whole or not at all. -/
def writeEntry (since : Nat) (e : Place × FileEntry) : IO Unit := do
  if e.2.written ≤ since then return ()
  match e.2.item with
  | .folder => IO.FS.createDirAll (Place.text e.1)
  | .file content =>
    let draft := Place.text e.1 ++ ".new"
    IO.FS.writeFile draft content.asText
    IO.FS.rename draft (Place.text e.1)

/-! ## Random ids -/

def hexDigits (byte : UInt8) : List Char :=
  [Nat.digitChar (byte.toNat / 16), Nat.digitChar (byte.toNat % 16)]

/-- Marks the version in the seventh byte and the variant in the ninth. -/
def marked (position : Nat) (byte : UInt8) : UInt8 :=
  if position = 6 then 0x40 ||| (byte &&& 0x0f)
  else if position = 8 then 0x80 ||| (byte &&& 0x3f)
  else byte

/-- The digits of a byte, after the hyphen that may stand before them. -/
def idPart (position : Nat) (byte : UInt8) : List Char :=
  let digits := hexDigits (marked position byte)
  if [4, 6, 8, 10].contains position then '-' :: digits else digits

/-- Sixteen bytes as a universally unique identifier of version 4: thirty-two digits in groups of 8, 4,
4, 4 and 12. -/
def randomId (bytes : List UInt8) : String :=
  String.ofList (List.zipWith idPart (List.range 16) bytes).flatten

/-! ## The moment -/

/-- The moment a stamp of the system clock stands for. -/
def instantOf? (stamp : Std.Time.Timestamp) : Option Instant := do
  let nanos := stamp.toNanosecondsSinceUnixEpoch.toInt.toNat
  let day := Std.Time.PlainDate.ofEpochDay stamp.toDaysSinceUnixEpoch
  let date ← Date.ofYmd? day.year day.month.val.toNat day.day.val.toNat
  Instant.at? date (nanos / nanosInSecond % secondsInDay) (nanos % nanosInSecond)

def readClock : IO Instant := do
  match instantOf? (← Std.Time.Timestamp.now) with
  | some now => return now
  | none => throw (IO.userError "the clock cannot be read")

def readMoment : IO Moment := do
  let id := randomId (← IO.getRandomBytes 16).toList
  return ⟨← readClock, fun _ => id⟩

/-! ## Running -/

/-- The roots at which a command may find its desk, and the places on the way to them. -/
def candidateRoots (around : Cli.Surroundings) (args : List String) : List Place :=
  let named := match Cli.invocation around args with
    | .ok i => i.root.toList
    | .error _ => []
  around.cwd.ancestors ++
    named.flatMap fun path => (Place.start around.cwd path).along (Path.names path)

def runProgram (args : List String) : IO UInt32 := do
  let cwd := Path.names (← IO.currentDir).toString
  let around : Cli.Surroundings := ⟨cwd, ← IO.getEnv Cli.rootVariable⟩
  let files ← readFiles (candidateRoots around args)
  let (output, after) := Cli.run ⟨files, cwd, 0⟩ (← readMoment) around args
  after.files.entries.forM (writeEntry files.writes)
  (← IO.getStdout).putStr output.out
  (← IO.getStderr).putStr output.err
  return UInt32.ofNat output.code

end GovernanceDesk

def main (args : List String) : IO UInt32 := do
  try GovernanceDesk.runProgram args
  catch e =>
    (← IO.getStderr).putStrLn ("error: " ++ toString e)
    return 1

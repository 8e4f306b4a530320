/-!
# Paths and places

A path is the text by which a file is named. Joining, the name at its end and its parent follow the
rules of a system whose separator is `/`.

* `Path.join`: one path below another; a path that starts at the root stands for itself.
* `Path.fileName?`: the last name of a path.
* `Place`: a place in the file system, as the names on the way to it from the root.
* `Place.start`, `Place.step`: reading a path name by name, from a given place.
* `Layout`: where a desk keeps its files.
-/

namespace GovernanceDesk
set_option autoImplicit false

namespace Path

def isRooted (path : String) : Bool :=
  path.toList.head? == some '/'

/-- A path below another. An empty path on the right leaves a separator at the end. -/
def join (base path : String) : String :=
  if isRooted path || base.isEmpty then path
  else if base.toList.getLast? == some '/' then base ++ path
  else base ++ "/" ++ path

/-- The characters of a path cut at every separator. -/
def splitChars : List Char → List (List Char)
  | [] => [[]]
  | c :: rest =>
    if c = '/' then [] :: splitChars rest
    else match splitChars rest with
    | [] => [[c]]
    | part :: parts => (c :: part) :: parts

/-- The names in a path, empty ones and those that stay in place left out. -/
def names (path : String) : List String :=
  ((splitChars path.toList).map String.ofList).filter fun n => n != "" && n != "."

/-- The last name of a path, unless it leads upward. -/
def fileName? (path : String) : Option String :=
  (names path).getLast?.filter (· != "..")

end Path

/-! ## Places -/

/-- The names on the way from the root of the file system. -/
abbrev Place := List String

namespace Place

/-- Where the reading of a path starts. -/
def start (base : Place) (path : String) : Place :=
  if Path.isRooted path then [] else base

/-- One name on; `..` leads to the place that holds this one. -/
def step (place : Place) (name : String) : Place :=
  if name = ".." then place.dropLast else place ++ [name]

/-- The place itself and those that the names lead to, one after the other. -/
def along (place : Place) : List String → List Place
  | [] => [place]
  | name :: rest => place :: along (place.step name) rest

def text (place : Place) : String :=
  "/" ++ "/".intercalate place

/-- The place itself, the one that holds it, and so on up to the root. -/
def ancestors (place : Place) : List Place :=
  (List.range (place.length + 1)).reverse.map place.take

end Place

/-! ## Where a desk keeps its files -/

namespace Layout

def deskDir : String := ".easi"

def intakesDir : String := ".easi/intakes"

def configFile : String := ".easi/config.yaml"

def manifestFile : String := "manifest.yaml"

def deskPath (root : String) : String := Path.join root deskDir

def intakesPath (root : String) : String := Path.join root intakesDir

def intakePath (root id : String) : String := Path.join (intakesPath root) id

def manifestPath (root id : String) : String := Path.join (intakePath root id) manifestFile

def configPath (root : String) : String := Path.join root configFile

/-- Where the actions of a request are listed; a completed action leads there. -/
def actionsRoute (id : String) : String := "/it-governance/" ++ id ++ "/actions"

end Layout

end GovernanceDesk

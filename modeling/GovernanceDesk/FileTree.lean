import GovernanceDesk.Place
import GovernanceDesk.Yaml.Reader
import GovernanceDesk.Yaml.Writer

/-!
# Files

The part of a file system that a desk works in, as a value: folders and files by place, each with
the time of its last write. Writes are counted, and the count serves as that time, so a later write
always has a later one.

* `Content`: what a file holds, a text or a document that the desk wrote itself.
* `FileTree`: the entries of a file system; each has a place of its own and lies in a folder.
* `FileTree.find?`, `FileTree.children`: looking at places.
* `FileTree.makeFolder`, `FileTree.write`: the two changes; neither ever removes anything.
* `FileTree.resolve`, `FileTree.makeWay`: the place a path leads to, as the files are and once the
  folders on the way are made.
-/

namespace GovernanceDesk
set_option autoImplicit false

/-- A document stands for the text it is written as. -/
inductive Content where
  | text (s : String)
  | document (t : Tree)

namespace Content

def asText : Content → String
  | text s => s
  | document t => Yaml.write t

/-- The value of a type that the content describes. -/
def read? {α : Type} [Coded α] : Content → Option α
  | text s => Yaml.read? s
  | document t => decode t

end Content

inductive Item where
  | folder
  | file (content : Content)

structure FileEntry where
  item : Item
  written : Nat

def FileEntry.isFolder (e : FileEntry) : Bool :=
  match e.item with
  | .folder => true
  | .file _ => false

/-! ## Entries -/

namespace FileTree

/-- What stands at a place. The root is a folder, and no entry is about it. -/
def findIn (entries : List (Place × FileEntry)) (place : Place) : Option FileEntry :=
  if place.isEmpty then some ⟨.folder, 0⟩ else entries.lookup place

def isFolderIn (entries : List (Place × FileEntry)) (place : Place) : Bool :=
  (findIn entries place).any FileEntry.isFolder

/-- Every entry lies in a folder. -/
def NestedIn (entries : List (Place × FileEntry)) : Prop :=
  ∀ e ∈ entries, e.1 ≠ [] ∧ isFolderIn entries e.1.dropLast = true

/-- Replaces the entry of a place, or adds one at the end. -/
def replaceEntry (place : Place) (entry : FileEntry) :
    List (Place × FileEntry) → List (Place × FileEntry)
  | [] => [(place, entry)]
  | e :: rest =>
    if e.1 = place then (place, entry) :: rest else e :: replaceEntry place entry rest

variable {place other : Place} {entry : FileEntry} {entries : List (Place × FileEntry)}

theorem mem_replaceEntry {e : Place × FileEntry} (mem : e ∈ replaceEntry place entry entries) :
    e = (place, entry) ∨ e ∈ entries := by
  induction entries with
  | nil => exact .inl (List.mem_singleton.1 mem)
  | cons first rest ih =>
    rw [replaceEntry] at mem
    split at mem
    · exact (List.mem_cons.1 mem).imp_right (List.mem_cons_of_mem _)
    · rcases List.mem_cons.1 mem with rfl | later
      · exact .inr (List.mem_cons_self ..)
      · exact (ih later).imp_right (List.mem_cons_of_mem _)

theorem nodup_replaceEntry (distinct : (entries.map Prod.fst).Nodup) :
    ((replaceEntry place entry entries).map Prod.fst).Nodup := by
  induction entries with
  | nil => simp [replaceEntry]
  | cons first rest ih =>
    obtain ⟨new, distinct⟩ := List.nodup_cons.1 distinct
    rw [replaceEntry]
    split
    next here => exact List.nodup_cons.2 ⟨here ▸ new, distinct⟩
    next differs =>
      refine List.nodup_cons.2 ⟨fun mem => ?_, ih distinct⟩
      obtain ⟨e, held, same⟩ := List.mem_map.1 mem
      rcases mem_replaceEntry held with rfl | old
      · exact differs same.symm
      · exact new (List.mem_map.2 ⟨e, old, same⟩)

theorem lookup_replaceEntry (place other : Place) (entry : FileEntry)
    (entries : List (Place × FileEntry)) :
    (replaceEntry place entry entries).lookup other =
      if other = place then some entry else entries.lookup other := by
  induction entries with
  | nil => exact lookup_cons_ite place other entry []
  | cons e rest ih =>
    obtain ⟨key, old⟩ := e
    unfold replaceEntry
    split
    · next same =>
      cases same
      dsimp only
      rw [lookup_cons_ite, lookup_cons_ite]
      split <;> rfl
    · next differs =>
      rw [lookup_cons_ite, lookup_cons_ite, ih]
      by_cases h : other = key
      · rw [if_pos h, if_neg (fun e => differs (h ▸ e)), if_pos h]
      · rw [if_neg h, if_neg h]

theorem ne_nil_of_isFolderIn (free : isFolderIn entries place = false) : place ≠ [] := by
  rintro rfl
  exact nomatch free

theorem findIn_replaceEntry (free : isFolderIn entries place = false) (other : Place) :
    findIn (replaceEntry place entry entries) other =
      if other = place then some entry else findIn entries other := by
  cases other with
  | nil =>
    rw [if_neg (ne_nil_of_isFolderIn free).symm]
    rfl
  | cons name rest => exact lookup_replaceEntry place (name :: rest) entry entries

/-- Where no folder is replaced, all folders stay. -/
theorem isFolderIn_replaceEntry (free : isFolderIn entries place = false)
    (folder : isFolderIn entries other = true) :
    isFolderIn (replaceEntry place entry entries) other = true := by
  have differs : other ≠ place := by
    rintro rfl
    exact nomatch folder.symm.trans free
  rw [isFolderIn, findIn_replaceEntry free, if_neg differs]
  exact folder

theorem nestedIn_replaceEntry (nested : NestedIn entries)
    (outer : isFolderIn entries place.dropLast = true) (free : isFolderIn entries place = false) :
    NestedIn (replaceEntry place entry entries) := by
  intro e mem
  rcases mem_replaceEntry mem with rfl | old
  · exact ⟨ne_nil_of_isFolderIn free, isFolderIn_replaceEntry free outer⟩
  · exact ⟨(nested e old).1, isFolderIn_replaceEntry free (nested e old).2⟩

theorem dated_replaceEntry {writes : Nat} (dated : ∀ e ∈ entries, e.2.written ≤ writes)
    (item : Item) : ∀ e ∈ replaceEntry place ⟨item, writes + 1⟩ entries,
      e.2.written ≤ writes + 1 := by
  intro e mem
  rcases mem_replaceEntry mem with rfl | old
  · exact Nat.le_refl _
  · exact Nat.le_succ_of_le (dated e old)

end FileTree

/-- Entries are in the order in which a folder lists them. No two are at one place, each lies in a
folder, and none is newer than the last write. -/
structure FileTree where
  entries : List (Place × FileEntry)
  writes : Nat
  distinct : (entries.map Prod.fst).Nodup
  nested : FileTree.NestedIn entries
  dated : ∀ e ∈ entries, e.2.written ≤ writes

namespace FileTree

def empty : FileTree := ⟨[], 0, .nil, nofun, nofun⟩

instance : EmptyCollection FileTree := ⟨empty⟩

/-! ## Looking -/

def find? (files : FileTree) (place : Place) : Option FileEntry :=
  findIn files.entries place

def isThere (files : FileTree) (place : Place) : Bool :=
  (files.find? place).isSome

def isFolder (files : FileTree) (place : Place) : Bool :=
  (files.find? place).any FileEntry.isFolder

def content? (files : FileTree) (place : Place) : Option Content :=
  match files.find? place with
  | some ⟨.file content, _⟩ => some content
  | _ => none

/-- The names and entries right below a place. -/
def children (files : FileTree) (place : Place) : List (String × FileEntry) :=
  files.entries.filterMap fun e =>
    match e.1.getLast? with
    | some name => if e.1.dropLast = place then some (name, e.2) else none
    | none => none

/-! ## Changing -/

/-- Something can be put where it lies in a folder and no folder stands. -/
structure Fits (files : FileTree) (place : Place) : Prop where
  outer : files.isFolder place.dropLast = true
  free : files.isFolder place = false

instance (files : FileTree) (place : Place) : Decidable (files.Fits place) :=
  decidable_of_iff (files.isFolder place.dropLast = true ∧ files.isFolder place = false)
    ⟨fun h => ⟨h.1, h.2⟩, fun h => ⟨h.1, h.2⟩⟩

/-- Puts an item in its place, if it fits there, as the next write. -/
def put (files : FileTree) (place : Place) (item : Item) : FileTree :=
  if fits : files.Fits place then
    { entries := replaceEntry place ⟨item, files.writes + 1⟩ files.entries
      writes := files.writes + 1
      distinct := nodup_replaceEntry files.distinct
      nested := nestedIn_replaceEntry files.nested fits.outer fits.free
      dated := dated_replaceEntry files.dated item }
  else files

/-- Makes the folders `names` one below the other, from the folder `base` on; refused where a file
stands. -/
def makeFoldersFrom (files : FileTree) (base : Place) : List String → Option FileTree
  | [] => some files
  | name :: rest =>
    let place := base ++ [name]
    match files.find? place with
    | some ⟨.folder, _⟩ => makeFoldersFrom files place rest
    | some ⟨.file _, _⟩ => none
    | none => makeFoldersFrom (files.put place .folder) place rest

/-- Makes a folder and those it lies in, as far as they are missing. -/
def makeFolder (files : FileTree) (place : Place) : Option FileTree :=
  files.makeFoldersFrom [] place

/-- Writes a file and makes the folders it lies in; refused where a folder stands. -/
def write (files : FileTree) (place : Place) (content : Content) : Option FileTree := do
  let files ← files.makeFolder place.dropLast
  if files.isFolder place then none else some (files.put place (.file content))

/-! ## Following paths -/

/-- One name on. Only a folder that is there can be left upward; a step from elsewhere is kept as it
is written, and nothing ever stands there or below. -/
def step (files : FileTree) (place : Place) (name : String) : Place :=
  if name = ".." ∧ !files.isFolder place then place ++ [name] else place.step name

/-- The place a path leads to, read from `base`. -/
def resolve (files : FileTree) (base : Place) (path : String) : Place :=
  (Path.names path).foldl files.step (Place.start base path)

/-- One name on, making the folder of that name if it is missing and no file stands in the way. -/
def makeStep (reached : FileTree × Place) (name : String) : FileTree × Place :=
  let (files, place) := reached
  let place := files.step place name
  ((files.makeFolder place).getD files, place)

/-- The place a path leads to, read from `base`, once the missing folders on the way are made. -/
def makeWay (files : FileTree) (base : Place) (path : String) : FileTree × Place :=
  (Path.names path).foldl makeStep (files, Place.start base path)

end FileTree

end GovernanceDesk

import GovernanceDesk.Yaml.Scalar

/-!
# Writing a YAML document

Block style: the entries of a record two places further in than the record's name, the items of a
list at the place of the list's name, empty collections as `[]` and `{}`.

`Yaml.write` gives the document of a tree.
-/

namespace GovernanceDesk.Yaml
set_option autoImplicit false

def spaces (n : Nat) : List Char :=
  List.replicate n ' '

/-- A value that begins on the line of its name or hyphen, with the line break that ends it. -/
def inlineChars (indent : Nat) : Tree → List Char
  | .null => "null\n".toList
  | .bool b => (if b then "true\n" else "false\n").toList
  | .int i => (toString i).toList ++ ['\n']
  | .real w => w.toList ++ ['\n']
  | .text s => scalarLine indent s
  | .list _ => "[]\n".toList
  | .fields _ => "\x7b\x7d\n".toList

/-! A node is written from its first character on; the lines after the first are moved in by
`indent`. -/

mutual

def nodeChars (indent : Nat) : Tree → List Char
  | .list (item :: items) => itemsChars indent true (item :: items)
  | .fields (e :: entries) => entriesChars indent true (e :: entries)
  | t => inlineChars indent t

/-- The items of a list, each after a hyphen. -/
def itemsChars (indent : Nat) : Bool → List Tree → List Char
  | _, [] => []
  | isFirst, item :: items =>
    (if isFirst then [] else spaces indent) ++ '-' :: ' ' :: nodeChars (indent + 2) item ++
      itemsChars indent false items

/-- The entries of a record, each on lines of its own. -/
def entriesChars (indent : Nat) : Bool → List (String × Tree) → List Char
  | _, [] => []
  | isFirst, (name, value) :: entries =>
    (if isFirst then [] else spaces indent) ++ name.toList ++ ':' :: valueChars indent value ++
      entriesChars indent false entries

/-- What follows the colon after a name. -/
def valueChars (indent : Nat) : Tree → List Char
  | .list (item :: items) =>
    '\n' :: spaces indent ++ itemsChars indent true (item :: items)
  | .fields (e :: entries) =>
    '\n' :: spaces (indent + 2) ++ entriesChars (indent + 2) true (e :: entries)
  | t => ' ' :: inlineChars (indent + 2) t

end

def write (t : Tree) : String :=
  String.ofList (nodeChars 0 t)

end GovernanceDesk.Yaml

import GovernanceDesk.Tree

/-!
# Writing JSON

`Json.compact` writes a tree on one line; `Json.pretty` writes every item and entry on a line of its
own, two places further in than what it belongs to.
-/

namespace GovernanceDesk.Json
set_option autoImplicit false

def hexDigit (n : Nat) : Char :=
  if n < 10 then Char.ofNat ('0'.toNat + n) else Char.ofNat ('a'.toNat + (n - 10))

def escaped (c : Char) : List Char :=
  match c with
  | '"' => ['\\', '"']
  | '\\' => ['\\', '\\']
  | '\n' => ['\\', 'n']
  | '\r' => ['\\', 'r']
  | '\t' => ['\\', 't']
  | c =>
    if c.toNat = 8 then ['\\', 'b']
    else if c.toNat = 12 then ['\\', 'f']
    else if c.toNat < 32 then
      ['\\', 'u', '0', '0', hexDigit (c.toNat / 16), hexDigit (c.toNat % 16)]
    else [c]

def quoted (s : String) : String :=
  "\"" ++ String.ofList (s.toList.flatMap escaped) ++ "\""

/-- A value without parts. -/
def leaf : Tree → String
  | .null => "null"
  | .bool b => if b then "true" else "false"
  | .int i => toString i
  | .real w => w
  | .text s => quoted s
  | .list _ => "[]"
  | .fields _ => "\x7b\x7d"

/-! ## On one line -/

mutual

def compact : Tree → String
  | .list items => "[" ++ ",".intercalate (compactItems items) ++ "]"
  | .fields entries => "\x7b" ++ ",".intercalate (compactEntries entries) ++ "\x7d"
  | t => leaf t

def compactItems : List Tree → List String
  | [] => []
  | t :: rest => compact t :: compactItems rest

def compactEntries : List (String × Tree) → List String
  | [] => []
  | (name, t) :: rest => (quoted name ++ ":" ++ compact t) :: compactEntries rest

end

/-! ## On many lines -/

def margin (depth : Nat) : String :=
  String.ofList ('\n' :: List.replicate (2 * depth) ' ')

mutual

def prettyAt (depth : Nat) : Tree → String
  | .list (t :: items) =>
    "[" ++ ",".intercalate (prettyItems (depth + 1) (t :: items)) ++ margin depth ++ "]"
  | .fields (e :: entries) =>
    "\x7b" ++ ",".intercalate (prettyEntries (depth + 1) (e :: entries)) ++ margin depth ++ "\x7d"
  | t => leaf t

def prettyItems (depth : Nat) : List Tree → List String
  | [] => []
  | t :: rest => (margin depth ++ prettyAt depth t) :: prettyItems depth rest

def prettyEntries (depth : Nat) : List (String × Tree) → List String
  | [] => []
  | (name, t) :: rest =>
    (margin depth ++ quoted name ++ ": " ++ prettyAt depth t) :: prettyEntries depth rest

end

def pretty (t : Tree) : String :=
  prettyAt 0 t

end GovernanceDesk.Json

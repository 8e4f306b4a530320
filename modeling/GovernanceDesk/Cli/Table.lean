import GovernanceDesk.Text.Characters

/-!
# Tables

Columns are as wide as their widest cell and two blanks apart. Rows end where their text ends; the
line below the headings does not.
-/

namespace GovernanceDesk.Cli
set_option autoImplicit false

/-- The last blanks of a text left out. -/
def withoutTrailing (s : String) : String :=
  String.ofList (Text.trimEnd s.toList)

namespace Table

def padded (width : Nat) (cell : String) : String :=
  cell ++ String.ofList (List.replicate (width - cell.length) ' ')

/-- The widths of columns with one more row; cells beyond the last column do not count. -/
def widen : List Nat → List String → List Nat
  | width :: widths, cell :: row => max width cell.length :: widen widths row
  | widths, _ => widths

def widths (headings : List String) (rows : List (List String)) : List Nat :=
  rows.foldl widen (headings.map String.length)

def row (widths : List Nat) (cells : List String) : String :=
  withoutTrailing ("  ".intercalate (List.zipWith padded widths cells))

def rule (widths : List Nat) : String :=
  "  ".intercalate (widths.map fun width => String.ofList (List.replicate width '-'))

def lines (headings : List String) (rows : List (List String)) : List String :=
  let widths := widths headings rows
  row widths headings :: rule widths :: rows.map (row widths)

end Table

end GovernanceDesk.Cli

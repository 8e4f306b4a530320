import GovernanceDesk.FileTree
import Mathlib.Data.List.Basic

/-!
# Paths that are joined

The names in a path that is joined to another are those of the first, then those of the second, as
long as the second does not start at the root. So a name that is joined to a path leads to the place
of that name right below the place the path leads to.

* `Path.names_join`, `Place.start_join`: the parts of a joined path.
* `Path.IsName`: a text that is one name.
* `FileTree.resolve_join_name`: where a name leads that is joined to a path.
-/

namespace GovernanceDesk
set_option autoImplicit false

namespace Path

variable {base path name : String}

/-! ## Cutting at separators -/

theorem splitChars_ne_nil (cs : List Char) : splitChars cs ≠ [] := by
  cases cs with
  | nil => exact List.cons_ne_nil _ _
  | cons c rest =>
    rw [splitChars]
    split
    · exact List.cons_ne_nil _ _
    · split <;> exact List.cons_ne_nil _ _

theorem splitChars_cons_of_ne {c : Char} (other : c ≠ '/') (cs : List Char) :
    ∃ part parts, splitChars cs = part :: parts ∧ splitChars (c :: cs) = (c :: part) :: parts := by
  obtain ⟨part, parts, cut⟩ := List.exists_cons_of_ne_nil (splitChars_ne_nil cs)
  refine ⟨part, parts, cut, ?_⟩
  rw [splitChars, if_neg other, cut]

theorem splitChars_append (xs ys : List Char) :
    splitChars (xs ++ '/' :: ys) = splitChars xs ++ splitChars ys := by
  induction xs with
  | nil => exact if_pos rfl
  | cons c xs ih =>
    by_cases separator : c = '/'
    · rw [List.cons_append, splitChars, if_pos separator, ih, splitChars, if_pos separator,
        List.cons_append]
    · obtain ⟨part, parts, cut, whole⟩ := splitChars_cons_of_ne separator xs
      rw [List.cons_append, splitChars, if_neg separator, ih, cut, whole]
      rfl

theorem splitChars_of_not_mem {cs : List Char} (plain : '/' ∉ cs) : splitChars cs = [cs] := by
  induction cs with
  | nil => rfl
  | cons c cs ih =>
    rw [List.mem_cons, not_or] at plain
    rw [splitChars, if_neg (Ne.symm plain.1), ih plain.2]

theorem names_append (base path : String) :
    names (base ++ "/" ++ path) = names base ++ names path := by
  have text : (base ++ "/" ++ path).toList = base.toList ++ '/' :: path.toList := by
    simp
  rw [names, text, splitChars_append, List.map_append, List.filter_append]
  rfl

/-! ## Joining -/

theorem isRooted_append (h : base ≠ "") (rest : String) :
    isRooted (base ++ rest) = isRooted base := by
  obtain ⟨c, cs, chars⟩ := List.exists_cons_of_ne_nil (mt String.toList_eq_nil_iff.1 h)
  simp [isRooted, chars]

/-- What comes between the two parts of a path, if the second is not one of its own. -/
theorem join_cases (base : String) (relative : isRooted path = false) :
    (base = "" ∧ join base path = path) ∨
      (∃ front, base = front ++ "/" ∧ join base path = base ++ path) ∨
      base ≠ "" ∧ base.toList.getLast? ≠ some '/' ∧ join base path = base ++ "/" ++ path := by
  rw [join, relative]
  by_cases empty : base = ""
  · exact .inl ⟨empty, by simp [empty]⟩
  · right
    rw [Bool.false_or, if_neg (by simpa using empty)]
    by_cases ends : base.toList.getLast? = some '/'
    · left
      refine ⟨String.ofList base.toList.dropLast, ?_, by simp [ends]⟩
      rw [← String.toList_inj, String.toList_append, String.toList_ofList]
      exact (List.dropLast_append_getLast? '/' ends).symm
    · exact .inr ⟨empty, ends, by simp [ends]⟩

theorem join_of_getLast? {c : Char} (last : base.toList.getLast? = some c) (other : c ≠ '/')
    (relative : isRooted path = false) : join base path = base ++ "/" ++ path := by
  obtain ⟨rfl, -⟩ | ⟨front, rfl, -⟩ | ⟨-, -, joined⟩ := join_cases base relative
  · exact nomatch last
  · rw [String.toList_append, List.getLast?_append] at last
    exact absurd (Option.some.inj last).symm other
  · exact joined

theorem names_join (relative : isRooted path = false) :
    names (join base path) = names base ++ names path := by
  have none : names "" = [] := by decide
  obtain ⟨rfl, joined⟩ | ⟨front, rfl, joined⟩ | ⟨-, -, joined⟩ := join_cases base relative
  · rw [joined, none, List.nil_append]
  · have same : front ++ "/" = front ++ "/" ++ "" := by simp
    rw [joined, names_append, same, names_append, none, List.append_nil]
  · rw [joined, names_append]

theorem isRooted_join (relative : isRooted path = false) :
    isRooted (join base path) = isRooted base := by
  obtain ⟨rfl, joined⟩ | ⟨front, rfl, joined⟩ | ⟨some, -, joined⟩ := join_cases base relative
  · rw [joined, relative]
    rfl
  · rw [joined]
    exact isRooted_append (by simp) path
  · rw [joined, String.append_assoc]
    exact isRooted_append some _

/-! ## Names -/

/-- The characters after which some system starts a new line. -/
def lineBreaks : List Char :=
  ['\n', '\x0b', '\x0c', '\r', '\x85', '\u2028', '\u2029']

/-- A text that names one entry of a folder: it is not empty, neither stays in place nor leads upward,
and holds no separator, no null character and no line break. -/
structure IsName (name : String) : Prop where
  ne_empty : name ≠ ""
  ne_here : name ≠ "."
  ne_upward : name ≠ ".."
  plain : ∀ c ∈ '/' :: '\x00' :: lineBreaks, c ∉ name.toList

-- The instance is named, or else every character that there is might be tried.
instance (name : String) : Decidable (IsName name) :=
  haveI := List.decidableBAll (· ∉ name.toList) ('/' :: '\x00' :: lineBreaks)
  decidable_of_iff (name ≠ "" ∧ name ≠ "." ∧ name ≠ ".." ∧
      ∀ c ∈ '/' :: '\x00' :: lineBreaks, c ∉ name.toList)
    ⟨fun h => ⟨h.1, h.2.1, h.2.2.1, h.2.2.2⟩, fun h => ⟨h.1, h.2, h.3, h.4⟩⟩

namespace IsName

theorem not_mem_separator (h : IsName name) : '/' ∉ name.toList :=
  h.plain '/' List.mem_cons_self

theorem isRooted_eq (h : IsName name) : isRooted name = false := by
  rw [isRooted, beq_eq_false_iff_ne]
  exact fun first => h.not_mem_separator (List.mem_of_mem_head? first)

theorem exists_getLast? (h : IsName name) : ∃ c, name.toList.getLast? = some c ∧ c ≠ '/' := by
  have some : name.toList ≠ [] := mt String.toList_eq_nil_iff.1 h.ne_empty
  refine ⟨name.toList.getLast some, List.getLast?_eq_some_getLast some, fun separator => ?_⟩
  exact h.not_mem_separator (separator ▸ List.getLast_mem some)

theorem names_eq (h : IsName name) : names name = [name] := by
  rw [names, splitChars_of_not_mem h.not_mem_separator]
  simp [h.ne_empty, h.ne_here]

end IsName

end Path

/-! ## Where a name leads -/

variable {path name : String}

theorem Place.start_join (relative : Path.isRooted path = false) (place : Place) (base : String) :
    start place (Path.join base path) = start place base := by
  rw [start, start, Path.isRooted_join relative]

namespace FileTree

variable (files : FileTree) (place : Place) (base : String)

theorem resolve_join (relative : Path.isRooted path = false) :
    files.resolve place (Path.join base path) =
      (Path.names path).foldl files.step (files.resolve place base) := by
  rw [resolve, Path.names_join relative, List.foldl_append, Place.start_join relative]
  rfl

theorem step_of_isName (h : Path.IsName name) : files.step place name = place ++ [name] := by
  rw [step, if_neg fun upward => h.ne_upward upward.1, Place.step, if_neg h.ne_upward]

theorem resolve_join_name (h : Path.IsName name) :
    files.resolve place (Path.join base name) = files.resolve place base ++ [name] := by
  rw [resolve_join files place base h.isRooted_eq, h.names_eq]
  exact files.step_of_isName _ h

end FileTree

end GovernanceDesk

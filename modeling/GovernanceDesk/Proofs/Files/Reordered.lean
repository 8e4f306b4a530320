import GovernanceDesk.Proofs.Files.Writing
import Mathlib.Data.List.Nodup
import Mathlib.Data.Option.Defs

/-!
# Files in another order

A folder lists what lies in it in an order of its own. Files that differ in nothing but this order are
the same at every place, and they still are after the same write.

* `FileTree.Reordered`: the same entries in any order. `FileTree.arranged`: such an order.
* `FileTree.Reordered.find?_eq`, `FileTree.Reordered.children_perm`: what is seen of them.
* `FileTree.Reordered.write`: both refuse a write, or both take it.
-/

namespace GovernanceDesk
set_option autoImplicit false

/-- Where no key comes twice, a look-up does not depend on the order. -/
theorem lookup_eq_of_perm {κ β : Type} [BEq κ] [LawfulBEq κ] [DecidableEq κ] {xs ys : List (κ × β)}
    (perm : xs.Perm ys) (distinct : (xs.map Prod.fst).Nodup) (k : κ) :
    ys.lookup k = xs.lookup k := by
  induction perm with
  | nil => rfl
  | cons e _ ih =>
    rw [lookup_cons_ite, lookup_cons_ite, ih (List.nodup_cons.1 distinct).2]
  | swap a b rest =>
    have apart : b.1 ≠ a.1 := List.ne_of_not_mem_cons (List.nodup_cons.1 distinct).1
    rw [lookup_cons_ite, lookup_cons_ite, lookup_cons_ite, lookup_cons_ite]
    by_cases first : k = a.1
    · rw [if_pos first, if_pos first, if_neg fun same => apart (same.symm.trans first)]
    · rw [if_neg first, if_neg first]
  | trans first _ ih ih' =>
    exact (ih' ((first.map Prod.fst).nodup_iff.1 distinct)).trans (ih distinct)

namespace FileTree

variable {files files' : FileTree} {place : Place}

/-- The same entries in any order. -/
structure Reordered (files files' : FileTree) : Prop where
  perm : files.entries.Perm files'.entries
  writes : files'.writes = files.writes

/-- The files with their entries in a given order. -/
def arranged (files : FileTree) (entries : List (Place × FileEntry))
    (perm : files.entries.Perm entries) : FileTree where
  entries := entries
  writes := files.writes
  distinct := (perm.map Prod.fst).nodup_iff.1 files.distinct
  nested e mem := by
    obtain ⟨ne, folder⟩ := files.nested e (perm.mem_iff.2 mem)
    refine ⟨ne, ?_⟩
    rw [isFolderIn, findIn, lookup_eq_of_perm perm files.distinct]
    exact folder
  dated e mem := files.dated e (perm.mem_iff.2 mem)

theorem reordered_arranged {entries : List (Place × FileEntry)}
    (perm : files.entries.Perm entries) : files.Reordered (files.arranged entries perm) :=
  ⟨perm, rfl⟩

/-! ## Replacing an entry -/

theorem replaceEntry_perm (place : Place) (entry : FileEntry) {entries : List (Place × FileEntry)}
    (distinct : (entries.map Prod.fst).Nodup) : (replaceEntry place entry entries).Perm
      ((place, entry) :: entries.filter fun e => e.1 ≠ place) := by
  induction entries with
  | nil => exact .refl _
  | cons e rest ih =>
    obtain ⟨new, distinct⟩ := List.nodup_cons.1 distinct
    rw [replaceEntry]
    split
    next here =>
      have others : (e :: rest).filter (fun e => e.1 ≠ place) = rest := by
        rw [List.filter_cons_of_neg (by simp [here]), List.filter_eq_self]
        intro x mem
        have differs : x.1 ≠ place := fun same =>
          new (List.mem_map.2 ⟨x, mem, same.trans here.symm⟩)
        exact decide_eq_true differs
      rw [others]
    next differs =>
      rw [List.filter_cons_of_pos (by simp [differs])]
      exact ((ih distinct).cons e).trans (.swap ..)

/-! ## Folders -/

/-- No two things in a folder have the same name. -/
theorem nodup_children (files : FileTree) (place : Place) :
    ((files.children place).map Prod.fst).Nodup := by
  have names : (files.children place).map Prod.fst = (files.entries.map Prod.fst).filterMap
      fun p => if p.dropLast = place then p.getLast? else none := by
    rw [children, List.map_filterMap, List.filterMap_map]
    refine List.filterMap_congr fun e _ => ?_
    cases last : e.1.getLast? with
    | none => simp [last]
    | some name => by_cases here : e.1.dropLast = place <;> simp [last, here]
  rw [names]
  refine files.distinct.filterMap fun p q name ofP ofQ => ?_
  obtain ⟨inP, lastP⟩ := Option.ite_none_right_eq_some.1 ofP
  obtain ⟨inQ, lastQ⟩ := Option.ite_none_right_eq_some.1 ofQ
  rw [← List.dropLast_append_getLast? name lastP, ← List.dropLast_append_getLast? name lastQ, inP,
    inQ]

namespace Reordered

theorem find?_eq (h : files.Reordered files') (place : Place) :
    files'.find? place = files.find? place := by
  rw [find?, findIn, lookup_eq_of_perm h.perm files.distinct]
  rfl

theorem isFolder_eq (h : files.Reordered files') (place : Place) :
    files'.isFolder place = files.isFolder place := by
  rw [isFolder, h.find?_eq, isFolder]

theorem children_perm (h : files.Reordered files') (place : Place) :
    (files.children place).Perm (files'.children place) :=
  h.perm.filterMap _

theorem put (h : files.Reordered files') (place : Place) (item : Item) :
    (files.put place item).Reordered (files'.put place item) := by
  have alike : files'.Fits place ↔ files.Fits place := fits_congr h.isFolder_eq
  by_cases fits : files.Fits place
  · have fits' := alike.2 fits
    refine ⟨?_, ?_⟩
    · rw [entries_put fits, entries_put fits', h.writes]
      exact (replaceEntry_perm place _ files.distinct).trans
        (((h.perm.filter _).cons _).trans (replaceEntry_perm place _ files'.distinct).symm)
    · rw [writes_put fits, writes_put fits', h.writes]
  · rw [put_of_not_fits fits, put_of_not_fits (mt alike.1 fits)]
    exact h

theorem makeFoldersFrom (h : files.Reordered files') (base : Place) (names : List String) :
    Option.Rel Reordered (files.makeFoldersFrom base names)
      (files'.makeFoldersFrom base names) := by
  induction names generalizing files files' base with
  | nil => exact .some h
  | cons name names ih =>
    rw [FileTree.makeFoldersFrom, FileTree.makeFoldersFrom, h.find?_eq]
    split
    · exact ih h _
    · exact .none
    · exact ih (h.put _ _) _

/-- Both refuse a write, or both take it. -/
theorem write (h : files.Reordered files') (place : Place) (content : Content) :
    Option.Rel Reordered (files.write place content) (files'.write place content) := by
  have made : Option.Rel Reordered (files.makeFolder place.dropLast)
      (files'.makeFolder place.dropLast) := h.makeFoldersFrom [] place.dropLast
  rw [FileTree.write, FileTree.write]
  generalize files.makeFolder place.dropLast = before at made ⊢
  generalize files'.makeFolder place.dropLast = after at made ⊢
  cases made with
  | none => exact .none
  | @some made made' same =>
    dsimp only [bind, Option.bind]
    rw [same.isFolder_eq]
    split
    · exact .none
    · exact .some (same.put place _)

end Reordered

end FileTree

end GovernanceDesk

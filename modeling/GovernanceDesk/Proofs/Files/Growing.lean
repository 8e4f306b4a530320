import GovernanceDesk.Proofs.Files.Writing

/-!
# How files grow

Whatever is done to files comes down to items put one after the other. Nothing is removed, no
folder gives way to a file, and what is put was written later than everything before it.

* `FileTree.Grown`: the files before and after some items were put.
* `FileTree.Grown.find?_cases`: a place holds what it held before, or what was written since.
* `FileTree.grown_write`, `FileTree.grown_makeWay`: files only grow.
-/

namespace GovernanceDesk
set_option autoImplicit false

namespace FileTree

variable {files files' files'' : FileTree} {place : Place}

/-- Items were put, each where it fits. -/
inductive Grown (files : FileTree) : FileTree → Prop where
  | refl : Grown files files
  | put {files' : FileTree} {place : Place} (item : Item) (before : Grown files files')
      (fits : files'.Fits place) : Grown files (files'.put place item)

/-! ## What growing keeps -/

namespace Grown

theorem trans (h : files.Grown files') (h' : files'.Grown files'') : files.Grown files'' := by
  induction h' with
  | refl => exact h
  | put item _ fits ih => exact .put item ih fits

theorem writes_le (h : files.Grown files') : files.writes ≤ files'.writes := by
  induction h with
  | refl => exact Nat.le_refl _
  | put item _ fits ih =>
    rw [writes_put fits]
    exact Nat.le_succ_of_le ih

theorem find?_cases (h : files.Grown files') (place : Place) :
    files'.find? place = files.find? place ∨
      ∃ e, files'.find? place = some e ∧ files.writes < e.written := by
  induction h with
  | refl => exact .inl rfl
  | put item before fits ih =>
    rw [find?_put fits]
    split
    · exact .inr ⟨_, rfl, Nat.lt_succ_of_le before.writes_le⟩
    · exact ih

end Grown

/-! ## Growing by each change -/

theorem grown_makeFoldersFrom {base : Place} {names : List String}
    (start : files.isFolder base = true)
    (made : files.makeFoldersFrom base names = some files') : files.Grown files' := by
  induction names generalizing files base with
  | nil =>
    cases made
    exact .refl
  | cons name names ih =>
    rw [makeFoldersFrom] at made
    split at made
    next found => exact ih (isFolder_iff.2 ⟨_, found⟩) made
    · cases made
    next missing =>
      have fits := fits_of_missing start missing
      have here : files.Grown (files.put (base ++ [name]) .folder) := .put .folder .refl fits
      exact here.trans (ih (isFolder_put_folder fits) made)

theorem grown_makeFolder (made : files.makeFolder place = some files') : files.Grown files' :=
  grown_makeFoldersFrom rfl made

theorem grown_write {content : Content} (written : files.write place content = some files') :
    files.Grown files' := by
  obtain ⟨made, folders, rest⟩ := Option.bind_eq_some_iff.mp written
  split at rest
  · cases rest
  next free =>
    cases rest
    exact .put (.file content) (grown_makeFolder folders) (fits_of_makeFolder folders free)

theorem grown_makeStep (reached : FileTree × Place) (name : String) :
    reached.1.Grown (makeStep reached name).1 := by
  rw [makeStep]
  dsimp only
  cases made : reached.1.makeFolder (reached.1.step reached.2 name) with
  | none => exact .refl
  | some files' => exact grown_makeFolder made

theorem grown_foldl_makeStep (names : List String) (reached : FileTree × Place) :
    reached.1.Grown (names.foldl makeStep reached).1 := by
  induction names generalizing reached with
  | nil => exact .refl
  | cons name names ih => exact (grown_makeStep reached name).trans (ih _)

theorem grown_makeWay (files : FileTree) (base : Place) (path : String) :
    files.Grown (files.makeWay base path).1 :=
  grown_foldl_makeStep (Path.names path) (files, Place.start base path)

end FileTree

end GovernanceDesk

import GovernanceDesk.Proofs.Store.Saving
import Mathlib.Data.List.Forall2
import Mathlib.Data.List.ReduceOption

/-!
# Listing what a desk holds

As files lie in folders, a listing leaves no request out: what can be loaded by its id is listed, and
the life cycle IDs on the list are all that any request holds.

* `Store.mem_intakes_of_load`, `Store.mem_existingLcids_of_load`: nothing is left out.
-/

namespace GovernanceDesk
set_option autoImplicit false

theorem forall₂_of_mapM_ok {ε α β : Type} {f : α → Except ε β} {xs : List α} {ys : List β}
    (h : xs.mapM f = .ok ys) : List.Forall₂ (fun x y => f x = .ok y) xs ys := by
  induction xs generalizing ys with
  | nil =>
    cases h
    exact .nil
  | cons x xs ih =>
    rw [List.mapM_cons] at h
    obtain ⟨y, here, rest⟩ := ok_of_bind_ok h
    obtain ⟨ys', there, rest⟩ := ok_of_bind_ok rest
    cases rest
    exact .cons here (ih there)

theorem exists_mem_of_forall₂ {α β : Type} {R : α → β → Prop} {xs : List α} {ys : List β}
    (h : List.Forall₂ R xs ys) {x : α} (mem : x ∈ xs) : ∃ y ∈ ys, R x y := by
  induction h with
  | nil => exact absurd mem List.not_mem_nil
  | @cons _ y' _ _ here _ ih =>
    rcases List.mem_cons.1 mem with rfl | later
    · exact ⟨y', List.mem_cons_self .., here⟩
    · obtain ⟨y, there, related⟩ := ih later
      exact ⟨y, List.mem_cons_of_mem _ there, related⟩

theorem mem_of_mapM_ok {ε α β : Type} {f : α → Except ε β} {xs : List α} {ys : List β}
    (h : xs.mapM f = .ok ys) {x : α} (mem : x ∈ xs) {y : β} (hy : f x = .ok y) : y ∈ ys := by
  obtain ⟨y', there, here⟩ := exists_mem_of_forall₂ (forall₂_of_mapM_ok h) mem
  cases here.symm.trans hy
  exact there

theorem ok_of_mapM_ok {ε α β : Type} {f : α → Except ε β} {xs : List α} {ys : List β}
    (h : xs.mapM f = .ok ys) {x : α} (mem : x ∈ xs) : ∃ y, f x = .ok y := by
  obtain ⟨y, -, here⟩ := exists_mem_of_forall₂ (forall₂_of_mapM_ok h) mem
  exact ⟨y, here⟩

namespace FileTree

theorem mem_children_iff {files : FileTree} {place : Place} {e : String × FileEntry} :
    e ∈ files.children place ↔ (place ++ [e.1], e.2) ∈ files.entries := by
  rw [children, List.mem_filterMap]
  constructor
  · rintro ⟨⟨other, entry⟩, held, named⟩
    split at named
    next name last =>
      obtain ⟨outer, here⟩ := Option.ite_none_right_eq_some.1 named
      cases here
      rw [← outer, List.dropLast_append_getLast? name last]
      exact held
    · cases named
  · intro held
    refine ⟨_, held, ?_⟩
    rw [List.getLast?_concat, List.dropLast_concat]
    exact if_pos rfl

theorem isFolder_of_mem_children {files : FileTree} {place : Place} {e : String × FileEntry}
    (mem : e ∈ files.children place) : files.isFolder place = true := by
  have outer := (files.nested _ (mem_children_iff.1 mem)).2
  rw [List.dropLast_concat] at outer
  exact outer

theorem mem_children_of_isFolder {files : FileTree} {place : Place} {name : String}
    (h : files.isFolder (place ++ [name]) = true) :
    ∃ n, (name, ⟨.folder, n⟩) ∈ files.children place := by
  obtain ⟨n, found⟩ := isFolder_iff.1 h
  exact ⟨n, mem_children_iff.2 (mem_of_find? (by simp) found)⟩

end FileTree

namespace Store

variable {s s' : Store} {i : Intake} {id : String}

/-! ## Folders of requests -/

/-- A manifest lies in a folder of its own in the folder of all requests. -/
theorem isFolder_of_isThere (there : s.files.isThere (s.manifestPlace id) = true) :
    s.files.isFolder s.intakesPlace = true ∧ s.files.isFolder (s.intakesPlace ++ [id]) = true := by
  refine ⟨FileTree.isFolder_of_isThere (List.cons_ne_nil _ _) there, ?_⟩
  have below : s.manifestPlace id = s.intakesPlace ++ [id] ++ [Layout.manifestFile] := by
    rw [manifestPlace, List.append_assoc]
    rfl
  rw [below] at there
  exact FileTree.isFolder_of_isThere (List.cons_ne_nil _ _) there

theorem mem_folders_of_load (h : s.load id = .ok i) : id ∈ s.folders := by
  obtain ⟨n, mem⟩ := FileTree.mem_children_of_isFolder (isFolder_of_isThere (isThere_of_load h)).2
  exact List.mem_map.2 ⟨_, List.mem_filter.2 ⟨mem, rfl⟩, rfl⟩

theorem isFolder_intakesPlace_of_load (h : s.load id = .ok i) :
    s.files.isFolder s.intakesPlace = true :=
  (isFolder_of_isThere (isThere_of_load h)).1

/-! ## Lists -/

theorem listed_eq_some_iff {folder : String} :
    s.listed folder = .ok (some i) ↔ s.load folder = .ok i := by
  rw [listed]
  cases s.load folder with
  | ok j => simp
  | error e => cases e <;> simp

/-- What a listing is read from: the requests in the folders, one folder after another. -/
theorem intakes_cases {all : List Intake} (listed : s.intakes = .ok all) : all = [] ∨
    ∃ found, s.folders.mapM s.listed = .ok found ∧
      all = found.reduceOption.mergeSort olderFirst := by
  rw [intakes] at listed
  split at listed
  · cases listed
    exact .inl rfl
  · cases listed
  · obtain ⟨found, read, rest⟩ := ok_of_bind_ok listed
    cases rest
    exact .inr ⟨found, read, rfl⟩

/-- What is on the list lies in one of the folders. -/
theorem exists_load_of_mem_intakes {all : List Intake} (listed : s.intakes = .ok all)
    (mem : i ∈ all) : ∃ id, s.load id = .ok i := by
  rcases intakes_cases listed with rfl | ⟨found, read, rfl⟩
  · exact absurd mem List.not_mem_nil
  · obtain ⟨_, there, rfl⟩ := List.mem_filterMap.1 (List.mem_mergeSort.1 mem)
    obtain ⟨folder, -, here⟩ := exists_mem_of_forall₂ (forall₂_of_mapM_ok read).flip there
    exact ⟨folder, listed_eq_some_iff.1 here⟩

theorem mem_intakes_of_load (h : s.load id = .ok i) {all : List Intake}
    (listed : s.intakes = .ok all) : i ∈ all := by
  obtain ⟨n, folder⟩ := FileTree.isFolder_iff.1 (isFolder_intakesPlace_of_load h)
  rw [intakes, folder] at listed
  obtain ⟨found, read, rest⟩ := ok_of_bind_ok listed
  cases rest
  have here : s.listed id = .ok (some i) := by
    rw [Store.listed, h]
  have mem : some i ∈ found := mem_of_mapM_ok read (mem_folders_of_load h) here
  exact List.mem_mergeSort.2 (List.mem_filterMap.2 ⟨some i, mem, rfl⟩)

theorem mem_existingLcids_of_load (h : s.load id = .ok i) {l : LcidRecord} (held : i.lcid = some l)
    {records : List LcidRecord} (listed : s.existingLcids = .ok records) : l ∈ records := by
  obtain ⟨all, read, rest⟩ := ok_of_bind_ok listed
  cases rest
  exact List.mem_mergeSort.2 (List.mem_filterMap.2 ⟨i, mem_intakes_of_load h read, held⟩)

/-- Requests that lie in the order in which they were made, with their IDs in order, are listed as
they lie. -/
theorem existingLcids_of_sorted {all : List Intake}
    (folder : s.files.isFolder s.intakesPlace = true)
    (read : s.folders.mapM s.listed = .ok (all.map some))
    (older : all.Pairwise fun a b => olderFirst a b = true)
    (numbered : (all.filterMap Intake.lcid).Pairwise fun a b => a.lcid ≤ b.lcid) :
    s.existingLcids = .ok (all.filterMap Intake.lcid) := by
  have requests : s.intakes = .ok all := by
    obtain ⟨n, found⟩ := FileTree.isFolder_iff.1 folder
    have kept : (all.map some).filterMap id = all := by simp
    rw [intakes, found]
    dsimp only
    rw [read]
    change Except.ok (((all.map some).filterMap id).mergeSort olderFirst) = _
    rw [kept, List.mergeSort_of_pairwise older]
  rw [existingLcids, requests]
  refine congrArg Except.ok (List.mergeSort_of_pairwise (numbered.imp fun le => ?_))
  exact decide_eq_true le

end Store

end GovernanceDesk

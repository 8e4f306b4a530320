import GovernanceDesk.FileTree

/-!
# What a write changes

A write puts one file in its place and makes the folders it lies in as far as they are missing.
Nothing that stood anywhere else is touched.

* `FileTree.find?_put`: what stands at each place once an entry was put.
* `FileTree.isFolder_of_isThere`: what stands anywhere lies in folders.
* `FileTree.WroteFile`: the files before and after one write.
* `FileTree.wroteFile_of_write`: every write that is not refused is of this kind.
-/

namespace GovernanceDesk
set_option autoImplicit false

namespace FileTree

variable {files files' : FileTree} {place other : Place} {item : Item} {content : Content}

/-! ## One entry -/

theorem entries_put (fits : files.Fits place) (item : Item) : (files.put place item).entries =
    replaceEntry place ⟨item, files.writes + 1⟩ files.entries := by
  rw [put, dif_pos fits]

theorem writes_put (fits : files.Fits place) (item : Item) :
    (files.put place item).writes = files.writes + 1 := by
  rw [put, dif_pos fits]

theorem put_of_not_fits (misfit : ¬ files.Fits place) (item : Item) :
    files.put place item = files := by
  rw [put, dif_neg misfit]

theorem find?_put (fits : files.Fits place) (item : Item) (other : Place) :
    (files.put place item).find? other =
      if other = place then some ⟨item, files.writes + 1⟩ else files.find? other := by
  rw [find?, entries_put fits]
  exact findIn_replaceEntry fits.free other

theorem find?_put_of_ne (ne : other ≠ place) :
    (files.put place item).find? other = files.find? other := by
  by_cases fits : files.Fits place
  · rw [find?_put fits, if_neg ne]
  · rw [put_of_not_fits fits]

theorem isFolder_put_file : (files.put place (.file content)).isFolder other =
    files.isFolder other := by
  by_cases fits : files.Fits place
  · rw [isFolder, find?_put fits]
    split
    next here =>
      rw [here, fits.free]
      rfl
    · rfl
  · rw [put_of_not_fits fits]

theorem Fits.ne_nil (fits : files.Fits place) : place ≠ [] :=
  ne_nil_of_isFolderIn fits.free

theorem fits_congr (same : ∀ other, files'.isFolder other = files.isFolder other) :
    files'.Fits place ↔ files.Fits place := by
  constructor
  · exact fun fits => ⟨(same _).symm.trans fits.outer, (same _).symm.trans fits.free⟩
  · exact fun fits => ⟨(same _).trans fits.outer, (same _).trans fits.free⟩

theorem isFolder_put_folder (fits : files.Fits place) :
    (files.put place .folder).isFolder place = true := by
  rw [isFolder, find?_put fits, if_pos rfl]
  rfl

theorem isFolder_iff :
    files.isFolder place = true ↔ ∃ n, files.find? place = some ⟨.folder, n⟩ := by
  rw [isFolder]
  constructor
  · intro folder
    cases found : files.find? place with
    | none =>
      rw [found] at folder
      cases folder
    | some entry =>
      rw [found] at folder
      obtain ⟨item, written⟩ := entry
      cases item with
      | file => cases folder
      | folder => exact ⟨written, rfl⟩
  · rintro ⟨n, found⟩
    rw [found]
    rfl

theorem fits_of_missing {base : Place} {name : String} (start : files.isFolder base = true)
    (missing : files.find? (base ++ [name]) = none) : files.Fits (base ++ [name]) where
  outer := by
    rw [List.dropLast_concat]
    exact start
  free := by
    rw [isFolder, missing]
    rfl

/-! ## Files in folders -/

theorem mem_of_find? {entry : FileEntry} (ne : place ≠ [])
    (found : files.find? place = some entry) : (place, entry) ∈ files.entries := by
  rw [find?, findIn, if_neg (mt List.isEmpty_iff.1 ne)] at found
  obtain ⟨front, rest, split, -⟩ := List.lookup_eq_some_iff.1 found
  rw [split]
  exact List.mem_append_right _ (List.mem_cons_self ..)

/-- What stands below a place lies in a folder, which lies in a folder, and so on up to it. -/
theorem isFolder_of_isThere {way rest : Place} (ne : rest ≠ [])
    (there : files.isThere (way ++ rest) = true) : files.isFolder way = true := by
  induction rest generalizing way with
  | nil => exact absurd rfl ne
  | cons name rest ih =>
    have next : files.isThere (way ++ [name]) = true := by
      cases rest with
      | nil => exact there
      | cons further rest =>
        rw [show way ++ name :: further :: rest = way ++ [name] ++ further :: rest by simp] at there
        exact Option.isSome_of_any (ih nofun there)
    obtain ⟨entry, found⟩ := Option.isSome_iff_exists.1 next
    have outer := (files.nested _ (mem_of_find? (by simp) found)).2
    rw [List.dropLast_concat] at outer
    exact outer

/-- Nothing is newer than the last write. -/
theorem written_le {entry : FileEntry} (found : files.find? place = some entry) :
    entry.written ≤ files.writes := by
  by_cases root : place = []
  · subst root
    cases found
    exact Nat.zero_le _
  · exact files.dated _ (mem_of_find? root found)

/-! ## Folders on the way -/

/-- Where something may appear when the folders down to `way` are made. -/
def SameOrNewFolder (files files' : FileTree) (way other : Place) : Prop :=
  files'.find? other = files.find? other ∨
    files.find? other = none ∧ other <+: way ∧ ∃ n, files'.find? other = some ⟨.folder, n⟩

theorem SameOrNewFolder.eq_off_way {way : Place} (h : SameOrNewFolder files files' way other)
    (hn : ¬ other <+: way) : files'.find? other = files.find? other :=
  h.resolve_right fun new => hn new.2.1

theorem SameOrNewFolder.isFolder {way : Place} (h : SameOrNewFolder files files' way other)
    (folder : files.isFolder other = true) : files'.isFolder other = true := by
  rcases h with same | ⟨none, -⟩
  · rw [FileTree.isFolder, same]
    exact folder
  · rw [FileTree.isFolder, none] at folder
    exact nomatch folder

theorem makeFoldersFrom_frame {base : Place} {names : List String}
    (start : files.isFolder base = true) (h : files.makeFoldersFrom base names = some files') :
    files.writes ≤ files'.writes ∧ ∀ other, SameOrNewFolder files files' (base ++ names) other := by
  induction names generalizing files base with
  | nil =>
    cases h
    exact ⟨Nat.le_refl _, fun _ => .inl rfl⟩
  | cons name names ih =>
    rw [makeFoldersFrom] at h
    have way : base ++ name :: names = base ++ [name] ++ names := by simp
    rw [way]
    split at h
    next found => exact ih (isFolder_iff.2 ⟨_, found⟩) h
    · exact nomatch h
    next missing =>
      have fits := fits_of_missing start missing
      obtain ⟨later, frame⟩ := ih (isFolder_put_folder fits) h
      rw [writes_put fits] at later
      refine ⟨Nat.le_of_succ_le later, fun other => ?_⟩
      have found := find?_put fits .folder other
      by_cases same : other = base ++ [name]
      · -- The folder just made: it is there when the rest of the way is made.
        rw [if_pos same] at found
        have kept : files'.find? other = some ⟨.folder, files.writes + 1⟩ := by
          rcases frame other with e | new
          · rw [e, found]
          · exact absurd (new.1.symm.trans found) (by simp)
        exact .inr ⟨same ▸ missing, same ▸ List.prefix_append .., _, kept⟩
      · rw [if_neg same] at found
        rcases frame other with e | ⟨none, rest⟩
        · exact .inl (e.trans found)
        · exact .inr ⟨found ▸ none, rest⟩

/-- All places on the way are folders once it is made. -/
theorem isFolder_of_makeFoldersFrom {base : Place} {names : List String}
    (start : files.isFolder base = true) (h : files.makeFoldersFrom base names = some files') :
    ∀ way, way <+: names → files'.isFolder (base ++ way) = true := by
  induction names generalizing files base with
  | nil =>
    intro way on
    cases h
    rw [List.prefix_nil.1 on, List.append_nil]
    exact start
  | cons name names ih =>
    intro way on
    rcases List.prefix_cons_iff.1 on with rfl | ⟨rest, rfl, on'⟩
    · rw [List.append_nil]
      exact ((makeFoldersFrom_frame start h).2 base).isFolder start
    · rw [makeFoldersFrom] at h
      rw [show base ++ name :: rest = base ++ [name] ++ rest by simp]
      split at h
      next found => exact ih (isFolder_iff.2 ⟨_, found⟩) h rest on'
      · exact nomatch h
      next missing => exact ih (isFolder_put_folder (fits_of_missing start missing)) h rest on'

/-- Where all places on the way are folders already, there is nothing to make. -/
theorem makeFoldersFrom_of_folders {base : Place} {names : List String}
    (folders : ∀ way, way <+: names → files.isFolder (base ++ way) = true) :
    files.makeFoldersFrom base names = some files := by
  induction names generalizing base with
  | nil => rfl
  | cons name names ih =>
    obtain ⟨_, found⟩ := isFolder_iff.1
      (folders [name] (List.cons_prefix_cons.2 ⟨rfl, List.nil_prefix⟩))
    have there : files.makeFoldersFrom (base ++ [name]) names = some files := by
      refine ih fun way on => ?_
      rw [List.append_assoc]
      exact folders (name :: way) (List.cons_prefix_cons.2 ⟨rfl, on⟩)
    rw [makeFoldersFrom, found]
    exact there

/-! ## Whole writes -/

/-- One file was written, and at most folders that it lies in were made. -/
structure WroteFile (files : FileTree) (place : Place) (content : Content) (files' : FileTree) :
    Prop where
  here : files'.find? place = some ⟨.file content, files'.writes⟩
  later : files.writes < files'.writes
  elsewhere : ∀ other, other ≠ place → SameOrNewFolder files files' place other
  noFolder : files.isFolder place = false

/-- Once the folders are made, a file fits where no folder stands. -/
theorem fits_of_makeFolder {made : FileTree} (folders : files.makeFolder place.dropLast = some made)
    (free : ¬ made.isFolder place = true) : made.Fits place where
  outer := isFolder_of_makeFoldersFrom rfl folders place.dropLast List.prefix_rfl
  free := Bool.not_eq_true _ ▸ free

theorem wroteFile_of_write (h : files.write place content = some files') :
    WroteFile files place content files' := by
  obtain ⟨made, folders, hw⟩ := Option.bind_eq_some_iff.mp h
  split at hw
  · exact nomatch hw
  next free =>
    cases hw
    have fits := fits_of_makeFolder folders free
    obtain ⟨later, frame⟩ := makeFoldersFrom_frame rfl folders
    refine ⟨?_, ?_, fun other ne => ?_, ?_⟩
    · rw [find?_put fits, if_pos rfl, writes_put fits]
    · rw [writes_put fits]
      exact Nat.lt_succ_of_le later
    · have found : (made.put place (.file content)).find? other = made.find? other :=
        find?_put_of_ne ne
      rcases frame other with e | ⟨none, way, n, new⟩
      · exact .inl (found.trans e)
      · exact .inr ⟨none, way.trans (List.dropLast_prefix place), n, found.trans new⟩
    · rw [← Bool.not_eq_true]
      exact fun folder => free ((frame place).isFolder folder)

/-- A file that is there is written over. -/
theorem write_of_file {old : Content} {written : Nat}
    (found : files.find? place = some ⟨.file old, written⟩) (content : Content) :
    files.write place content = some (files.put place (.file content)) := by
  have free : ¬ files.isFolder place = true := by
    rw [isFolder, found]
    exact nofun
  have around (way : Place) (on : way <+: place.dropLast) : files.isFolder way = true := by
    obtain ⟨rest, split⟩ := on
    have some : place ≠ [] := fun root => free (by rw [root]; rfl)
    have whole : way ++ (rest ++ [place.getLast some]) = place := by
      rw [← List.append_assoc, split, List.dropLast_concat_getLast]
    have there : files.isThere (way ++ (rest ++ [place.getLast some])) = true := by
      rw [whole, isThere, found]
      rfl
    exact isFolder_of_isThere (by simp) there
  have made : files.makeFolder place.dropLast = some files := makeFoldersFrom_of_folders around
  rw [write, made]
  simp [free]

namespace WroteFile

/-- The same files stand at all other places, with the same times of writing. -/
theorem file_iff (w : WroteFile files place content files') (ne : other ≠ place) {e : FileEntry}
    (he : e.isFolder = false) :
    files'.find? other = some e ↔ files.find? other = some e := by
  rcases w.elsewhere other ne with same | ⟨none, -, n, new⟩
  · rw [same]
  · rw [none, new]
    constructor
    · rintro ⟨⟩
      exact nomatch he
    · exact nofun

theorem find?_off_way (w : WroteFile files place content files')
    (hn : ¬ other <+: place) : files'.find? other = files.find? other :=
  (w.elsewhere other (fun e => hn (e ▸ List.prefix_rfl))).eq_off_way hn

end WroteFile

end FileTree

end GovernanceDesk

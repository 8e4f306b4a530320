import GovernanceDesk.Proofs.Files.Writing
import GovernanceDesk.Proofs.Tree.Records
import GovernanceDesk.Store
import Mathlib.Tactic.ByContra

/-!
# Saving one request

A request that is saved is read back as it was, and nothing else in the store changes: no other
request, not the configuration, no other file.

* `Store.WellNamed`: every request lies in the folder of its own id.
* `Store.Saved`: the stores before and after a request was saved.
* `Store.save_of_load`: saving a request that is there only puts its manifest.
* `Store.Saved.load_self`, `Store.Saved.load_other`, `Store.Saved.config_eq`: what is read afterwards.
-/

namespace GovernanceDesk
set_option autoImplicit false

namespace Store

variable {s s' : Store} {i : Intake} {id : String}

/-- Every request that can be loaded has the name of the folder it lies in for its id. -/
def WellNamed (s : Store) : Prop :=
  ∀ id i, s.load id = .ok i → i.id = id

/-- Of all files only the manifest of one request was written. -/
structure Saved (s : Store) (i : Intake) (s' : Store) : Prop where
  isId : isIntakeId i.id = true
  root : s'.root = s.root
  handedOut : s'.handedOut = s.handedOut
  files : s.files.WroteFile (s.manifestPlace i.id) (.document (encode i)) s'.files

/-! ## Loading -/

theorem load_of_isIntakeId (h : isIntakeId id = true) :
    s.load id = s.readDocument (s.manifestPlace id) (.intakeNotFound id) := by
  rw [load, checkIntakeId, if_pos h]
  rfl

theorem load_of_not_isIntakeId (h : ¬ isIntakeId id = true) :
    s.load id = .error (.invalid (.intakeId id)) := by
  rw [load, checkIntakeId, if_neg h]
  rfl

theorem isIntakeId_of_load (h : s.load id = .ok i) : isIntakeId id = true := by
  by_contra hn
  rw [load_of_not_isIntakeId hn] at h
  exact nomatch h

theorem readDocument_congr {α : Type} [Coded α] {place : Place} {missing : Failure}
    (h : s'.files.find? place = s.files.find? place) :
    (s'.readDocument place missing : Except Failure α) = s.readDocument place missing := by
  rw [readDocument, readDocument, h]

theorem readDocument_document {α : Type} [Coded α] [LawfulCoded α] {place : Place} {x : α} {n : Nat}
    {missing : Failure} (h : s.files.find? place = some ⟨.file (.document (encode x)), n⟩) :
    s.readDocument place missing = .ok x := by
  simp [readDocument, h, Content.read?]

/-- What is loaded is read from a file. -/
theorem exists_file_of_load (h : s.load id = .ok i) :
    ∃ content written, s.files.find? (s.manifestPlace id) = some ⟨.file content, written⟩ := by
  rw [load_of_isIntakeId (isIntakeId_of_load h), readDocument] at h
  split at h
  · cases h
  · cases h
  next found => exact ⟨_, _, found⟩

theorem isThere_of_load (h : s.load id = .ok i) :
    s.files.isThere (s.manifestPlace id) = true := by
  obtain ⟨content, written, found⟩ := exists_file_of_load h
  rw [FileTree.isThere, found]
  rfl

theorem manifestPlace_eq (s : Store) (id : String) :
    s.manifestPlace id = s.deskPlace ++ ["intakes", id, Layout.manifestFile] := by
  simp [manifestPlace, intakesPlace]

theorem eq_of_manifestPlace_on_way {other : String} (h : s.manifestPlace other <+: s.manifestPlace id) :
    other = id := by
  rw [manifestPlace_eq, manifestPlace_eq, List.prefix_append_right_inj] at h
  simpa using h

theorem configPlace_off_way : ¬ s.configPlace <+: s.manifestPlace id := by
  intro h
  rw [configPlace, manifestPlace_eq, List.prefix_append_right_inj] at h
  simp at h

theorem manifestPlace_of_root (h : s'.root = s.root) (id : String) :
    s'.manifestPlace id = s.manifestPlace id := by
  rw [manifestPlace_eq, manifestPlace_eq, deskPlace, deskPlace, h]

theorem configPlace_of_root (h : s'.root = s.root) : s'.configPlace = s.configPlace := by
  rw [configPlace, configPlace, deskPlace, deskPlace, h]

/-- A request is loaded from the entry of its manifest alone. -/
theorem load_congr (root : s'.root = s.root)
    (same : s'.files.find? (s.manifestPlace id) = s.files.find? (s.manifestPlace id)) :
    s'.load id = s.load id := by
  by_cases isId : isIntakeId id = true
  · rw [load_of_isIntakeId isId, load_of_isIntakeId isId, manifestPlace_of_root root]
    exact readDocument_congr same
  · rw [load_of_not_isIntakeId isId, load_of_not_isIntakeId isId]

theorem config_congr (root : s'.root = s.root)
    (same : s'.files.find? s.configPlace = s.files.find? s.configPlace) :
    s'.config = s.config := by
  rw [config, config, configPlace_of_root root]
  exact readDocument_congr same

/-! ## Saving -/

theorem saved_of_save (h : s.save i = .ok s') : Saved s i s' := by
  have isId : isIntakeId i.id = true := by
    by_contra hn
    rw [save, checkIntakeId, if_neg hn] at h
    exact nomatch h
  rw [save, checkIntakeId, if_pos isId] at h
  change s.writeDocument (s.manifestPlace i.id) i = .ok s' at h
  rw [writeDocument] at h
  split at h
  next files hw =>
    cases h
    exact ⟨isId, rfl, rfl, FileTree.wroteFile_of_write hw⟩
  · exact nomatch h

/-- The store with the manifest of a request put in its place. -/
def withManifest (s : Store) (i : Intake) : Store :=
  { s with files := s.files.put (s.manifestPlace i.id) (.file (.document (encode i))) }

@[simp] theorem withManifest_files (s : Store) (i : Intake) : (s.withManifest i).files =
    s.files.put (s.manifestPlace i.id) (.file (.document (encode i))) := rfl

@[simp] theorem manifestPlace_withManifest (s : Store) (i : Intake) (id : String) :
    (s.withManifest i).manifestPlace id = s.manifestPlace id := rfl

/-- A request that is there is written over. -/
theorem save_of_load {j : Intake} (loaded : s.load id = .ok j) (named : i.id = id) :
    s.save i = .ok (s.withManifest i) := by
  subst named
  obtain ⟨old, written, found⟩ := exists_file_of_load loaded
  rw [save, checkIntakeId, if_pos (isIntakeId_of_load loaded)]
  change s.writeDocument (s.manifestPlace i.id) i = _
  rw [writeDocument, FileTree.write_of_file found, withManifest]

/-- The store with a request saved, where that goes through. -/
def saving (s : Store) (i : Intake) : Store :=
  (s.save i).toOption.getD s

theorem saved_saving (fine : (s.save i).isOk = true) : Saved s i (s.saving i) := by
  cases written : s.save i with
  | ok s' =>
    rw [saving, written]
    exact saved_of_save written
  | error e =>
    rw [written] at fine
    exact nomatch fine

namespace Saved

theorem load_self (h : Saved s i s') : s'.load i.id = .ok i := by
  rw [load_of_isIntakeId h.isId, manifestPlace_of_root h.root]
  exact readDocument_document h.files.here

theorem load_other (h : Saved s i s') (ne : id ≠ i.id) : s'.load id = s.load id :=
  load_congr h.root (h.files.find?_off_way fun p => ne (eq_of_manifestPlace_on_way p))

theorem config_eq (h : Saved s i s') : s'.config = s.config :=
  config_congr h.root (h.files.find?_off_way configPlace_off_way)

theorem wellNamed (h : Saved s i s') (hs : s.WellNamed) : s'.WellNamed := by
  intro id j hj
  by_cases same : id = i.id
  · rw [same, h.load_self] at hj
    cases hj
    exact same.symm
  · rw [h.load_other same] at hj
    exact hs id j hj

/-- What was saved once can be saved again. -/
theorem exists_save_again (h : Saved s i s') {j : Intake} (same : j.id = i.id) :
    ∃ s'', s'.save j = .ok s'' :=
  ⟨_, save_of_load h.load_self same⟩

end Saved

/-! ## Creating -/

theorem wellNamed_of_no_requests (h : ∀ id, s.files.find? (s.manifestPlace id) = none) :
    s.WellNamed := by
  intro id i hi
  rw [load_of_isIntakeId (isIntakeId_of_load hi), readDocument, h] at hi
  exact nomatch hi

/-- A request that is created is saved as it starts; otherwise no file changes. -/
theorem create_cases (s : Store) (m : Moment) (name : String) (requester : Contact) :
    (∃ s', s.create m name requester =
        (.ok (.opened (m.idOf (s.handedOut + 1)) name requester m.now), s') ∧
      Saved { s with handedOut := s.handedOut + 1 }
        (.opened (m.idOf (s.handedOut + 1)) name requester m.now) s') ∨
    ∃ e handedOut, s.create m name requester = (.error e, { s with handedOut := handedOut }) := by
  rw [create]
  split
  · dsimp only
    split
    next s' saved => exact .inl ⟨s', rfl, saved_of_save saved⟩
    next e _ => exact .inr ⟨e, _, rfl⟩
  · exact .inr ⟨_, s.handedOut, rfl⟩

theorem wellNamed_create (hs : s.WellNamed) (m : Moment) (name : String) (requester : Contact) :
    (s.create m name requester).2.WellNamed := by
  obtain ⟨s', h, saved⟩ | ⟨e, handedOut, h⟩ := create_cases s m name requester
  · rw [h]
    exact saved.wellNamed hs
  · rw [h]
    exact hs

theorem load_create {m : Moment} {name : String} {requester : Contact}
    (h : (s.create m name requester).1.isOk = true) :
    (s.create m name requester).2.load (m.idOf (s.handedOut + 1)) =
      .ok (.opened (m.idOf (s.handedOut + 1)) name requester m.now) := by
  obtain ⟨s', created, saved⟩ | ⟨e, handedOut, failed⟩ := create_cases s m name requester
  · rw [created]
    exact saved.load_self
  · rw [failed] at h
    exact nomatch h

end Store

end GovernanceDesk

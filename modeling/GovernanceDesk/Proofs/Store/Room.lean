import GovernanceDesk.Proofs.Api.Answers

/-!
# Room for a new request

A new request is made exactly when the desk is there and the manifest of its id can be written. What
the request says plays no part in this.

* `FileTree.canWrite`, `Store.hasRoomFor`: where a file can be written, and for which ids a manifest.
* `Store.createWithContacts_of_room`, `Store.createWithContacts_of_no_room`: the request as it is
  made, and that no file changes where it cannot be.
-/

namespace GovernanceDesk
set_option autoImplicit false

/-! ## Files -/

namespace FileTree

variable {files : FileTree} {place : Place}

/-- The folders on the way can be made, and no folder stands in the place itself. -/
def canWrite (files : FileTree) (place : Place) : Bool :=
  (files.makeFolder place.dropLast).any fun files => !files.isFolder place

theorem isSome_write (files : FileTree) (place : Place) (content : Content) :
    (files.write place content).isSome = files.canWrite place := by
  rw [write, canWrite]
  cases files.makeFolder place.dropLast with
  | none => rfl
  | some files =>
    change Option.isSome (if files.isFolder place = true then none else some _) =
      !files.isFolder place
    cases files.isFolder place <;> rfl

end FileTree

/-! ## Requests -/

namespace Store

variable {s : Store} {m : Moment}

def hasRoomFor (s : Store) (id : String) : Bool :=
  s.files.isFolder s.deskPlace && isIntakeId id && s.files.canWrite (s.manifestPlace id)

/-- The id that the next new request gets. -/
def nextId (s : Store) (m : Moment) : String :=
  m.idOf (s.handedOut + 1)

theorem isOk_save (s : Store) (i : Intake) :
    (s.save i).isOk = (isIntakeId i.id && s.files.canWrite (s.manifestPlace i.id)) := by
  rw [save, checkIntakeId]
  cases isIntakeId i.id with
  | false => rfl
  | true =>
    change (s.writeDocument (s.manifestPlace i.id) i).isOk = s.files.canWrite (s.manifestPlace i.id)
    rw [writeDocument, ← FileTree.isSome_write s.files _ (.document (encode i))]
    cases s.files.write (s.manifestPlace i.id) (.document (encode i)) <;> rfl

theorem isOk_create (s : Store) (m : Moment) (name : String) (requester : Contact) :
    (s.create m name requester).1.isOk = s.hasRoomFor (s.nextId m) := by
  rw [create, hasRoomFor]
  cases s.files.isFolder s.deskPlace with
  | false => rfl
  | true =>
    have saving := isOk_save { s with handedOut := s.handedOut + 1 }
      (.opened (s.nextId m) name requester m.now)
    refine Eq.trans ?_ saving
    rw [if_pos rfl]
    dsimp only
    split <;> next saved =>
      rw [nextId, saved]
      rfl

/-- A new request is written with its contacts, in one go or in two. -/
theorem createWithContacts_of_room (room : s.hasRoomFor (s.nextId m) = true) (name : String)
    (requester : Contact) (contacts : List Contact) :
    ∃ s', s.createWithContacts m name requester contacts =
        (.ok { Intake.opened (s.nextId m) name requester m.now with contacts := contacts }, s') ∧
      WroteOnly s (s.nextId m) s' ∧ s'.load (s.nextId m) =
        .ok { Intake.opened (s.nextId m) name requester m.now with contacts := contacts } := by
  rw [createWithContacts]
  obtain ⟨s', created, saved⟩ | ⟨e, handedOut, failed⟩ := create_cases s m name requester
  · rw [created]
    dsimp only
    split
    next none =>
      cases List.isEmpty_iff.1 none
      exact ⟨s', rfl, saved.wroteOnly.of_handedOut, saved.load_self⟩
    · obtain ⟨s'', again⟩ := saved.exists_save_again
        (j := { Intake.opened (s.nextId m) name requester m.now with contacts := contacts }) rfl
      have saved' := saved_of_save again
      rw [← nextId, again]
      exact ⟨s'', rfl, saved.wroteOnly.of_handedOut.trans saved'.wroteOnly, saved'.load_self⟩
  · have made := isOk_create s m name requester
    rw [failed, room] at made
    exact absurd made Bool.false_ne_true

theorem createWithContacts_of_no_room (full : s.hasRoomFor (s.nextId m) = false) (name : String)
    (requester : Contact) (contacts : List Contact) :
    ∃ e s', s.createWithContacts m name requester contacts = (.error e, s') ∧
      s'.files = s.files := by
  rw [createWithContacts]
  obtain ⟨s', created, saved⟩ | ⟨e, handedOut, failed⟩ := create_cases s m name requester
  · have made := isOk_create s m name requester
    rw [created, full] at made
    exact absurd made.symm Bool.false_ne_true
  · rw [failed]
    exact ⟨e, _, rfl, rfl⟩

end Store

end GovernanceDesk

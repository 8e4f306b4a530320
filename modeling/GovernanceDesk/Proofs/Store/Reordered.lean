import GovernanceDesk.Proofs.Files.Reordered
import GovernanceDesk.Proofs.Sorting
import GovernanceDesk.Proofs.Store.Outcome
import GovernanceDesk.Proofs.Store.Retimed
import Mathlib.Data.List.Perm.Basic
import Mathlib.Data.String.Basic

/-!
# The order of folders

A system lists the folders of requests in whatever order it likes. Where every manifest can be loaded
and no two requests were made at one moment, nothing that a desk shows or does depends on it.

* `Store.Reordered`: the same desk, with its files listed in another order.
* `Store.Listable`: the desks on which a listing goes through and tells all requests apart.
* `Store.Listed`, `Store.LcidsListed`: what a listing holds, and in which order.
* `Store.alike_in_any_order`: the same lists, the same answer to every action, the same desk after it.
-/

namespace GovernanceDesk
set_option autoImplicit false

namespace Store

variable {s t : Store} {i : Intake} {id : String} {all : List Intake} {held : List LcidRecord}

/-! ## Reading in another order -/

/-- The same files in any order. -/
structure Reordered (s t : Store) : Prop where
  files : s.files.Reordered t.files
  root : t.root = s.root
  handedOut : t.handedOut = s.handedOut

/-- Every manifest can be loaded, and no two requests were made at one moment. -/
structure Listable (s : Store) : Prop where
  loads : ∀ id, isIntakeId id = true → s.files.isThere (s.manifestPlace id) = true →
    ∃ i, s.load id = .ok i
  apart : ∀ id id' i i', s.load id = .ok i → s.load id' = .ok i' → i.createdAt = i'.createdAt →
    id = id'

namespace Reordered

theorem intakesPlace_eq (h : s.Reordered t) : t.intakesPlace = s.intakesPlace := by
  rw [intakesPlace, deskPlace, h.root]
  rfl

theorem load_eq (h : s.Reordered t) (id : String) : t.load id = s.load id :=
  load_congr h.root (h.files.find?_eq _)

theorem config_eq (h : s.Reordered t) : t.config = s.config :=
  config_congr h.root (h.files.find?_eq _)

theorem folders_perm (h : s.Reordered t) : s.folders.Perm t.folders := by
  rw [folders, folders, h.intakesPlace_eq]
  exact ((h.files.children_perm _).filter _).map _

end Reordered

/-! ## Listing -/

/-- The requests in some folders, one folder after another. -/
def requestsIn (s : Store) (names : List String) : List Intake :=
  names.filterMap fun name => (s.load name).toOption

theorem toOption_load_eq_some_iff {name : String} :
    (s.load name).toOption = some i ↔ s.load name = .ok i := by
  cases s.load name <;> simp [Except.toOption]

theorem mem_requestsIn {names : List String} :
    i ∈ s.requestsIn names ↔ ∃ name ∈ names, s.load name = .ok i := by
  simp only [requestsIn, List.mem_filterMap, toOption_load_eq_some_iff]

theorem Reordered.requestsIn_perm (h : s.Reordered t) :
    (s.requestsIn s.folders).Perm (t.requestsIn t.folders) := by
  have same : t.load = s.load := funext h.load_eq
  rw [requestsIn, requestsIn, same]
  exact h.folders_perm.filterMap _

theorem nodup_folders (s : Store) : s.folders.Nodup :=
  (s.files.nodup_children s.intakesPlace).sublist (List.filter_sublist.map Prod.fst)

/-- A folder that is not there holds nothing. -/
theorem folders_eq_nil (missing : s.files.find? s.intakesPlace = none) : s.folders = [] := by
  refine List.eq_nil_iff_forall_not_mem.2 fun name mem => ?_
  obtain ⟨e, held, rfl⟩ := List.mem_map.1 mem
  have folder := FileTree.isFolder_of_mem_children (List.mem_filter.1 held).1
  rw [FileTree.isFolder, missing] at folder
  cases folder

theorem olderFirst_iff (a b : Intake) :
    olderFirst a b = true ↔ a.createdAt.key ≤ b.createdAt.key := by
  rw [olderFirst, Bool.not_eq_true', Instant.before_eq_false_iff]

namespace Listable

/-- Folders are read to the last one. -/
theorem mapM_listed (h : s.Listable) (names : List String) : names.mapM s.listed =
    .ok (names.map fun name => (s.load name).toOption) := by
  have each : s.listed = fun name => pure (s.load name).toOption :=
    funext fun name => listed_of_loads (h.loads name)
  rw [each]
  exact List.mapM_pure

/-- Where a file stands in place of the folder of requests nothing is listed, and else every request
that can be loaded. -/
theorem intakes_eq (h : s.Listable) : s.intakes =
    if (s.files.find? s.intakesPlace).all FileEntry.isFolder then
      .ok ((s.requestsIn s.folders).mergeSort olderFirst)
    else .error (.storage "not a directory") := by
  rw [intakes]
  split
  next missing =>
    rw [missing, folders_eq_nil missing]
    simp [requestsIn]
  next file =>
    rw [file]
    rfl
  next folder =>
    have kept : (s.folders.map fun name => (s.load name).toOption).filterMap id =
        s.requestsIn s.folders := List.filterMap_map
    rw [folder, h.mapM_listed]
    exact congrArg (fun found => Except.ok (found.mergeSort olderFirst)) kept

/-- No two of the requests that are listed were made at one moment. -/
theorem pairwise_requestsIn (h : s.Listable) {names : List String} (distinct : names.Nodup) :
    (s.requestsIn names).Pairwise fun a b => a.createdAt ≠ b.createdAt := by
  refine List.pairwise_filterMap.2 (distinct.imp fun differs a ofA b ofB same => ?_)
  rw [toOption_load_eq_some_iff] at ofA ofB
  exact differs (h.apart _ _ a b ofA ofB same)

theorem eq_of_key_eq (h : s.Listable) {names : List String} {a b : Intake}
    (memA : a ∈ s.requestsIn names) (memB : b ∈ s.requestsIn names)
    (same : a.createdAt.key = b.createdAt.key) : a = b := by
  obtain ⟨first, -, loadedA⟩ := mem_requestsIn.1 memA
  obtain ⟨second, -, loadedB⟩ := mem_requestsIn.1 memB
  have folder := h.apart first second a b loadedA loadedB (Instant.key_injective same)
  rw [folder, loadedB] at loadedA
  exact (Except.ok.inj loadedA).symm

end Listable

namespace Reordered

theorem listable (h : s.Reordered t) (listable : s.Listable) : t.Listable where
  loads id isId there := by
    rw [FileTree.isThere, h.files.find?_eq, manifestPlace_of_root h.root] at there
    rw [h.load_eq]
    exact listable.loads id isId there
  apart id id' i i' := by
    rw [h.load_eq, h.load_eq]
    exact listable.apart id id' i i'

theorem intakes_eq (h : s.Reordered t) (listable : s.Listable) : t.intakes = s.intakes := by
  have sorted : (t.requestsIn t.folders).mergeSort olderFirst =
      (s.requestsIn s.folders).mergeSort olderFirst :=
    (mergeSort_eq_of_perm olderFirst_iff h.requestsIn_perm fun _ memA _ memB same =>
      listable.eq_of_key_eq memA memB same).symm
  rw [listable.intakes_eq, (h.listable listable).intakes_eq, h.intakesPlace_eq, h.files.find?_eq,
    sorted]

theorem existingLcids_eq (h : s.Reordered t) (listable : s.Listable) :
    t.existingLcids = s.existingLcids := by
  rw [existingLcids, h.intakes_eq listable, existingLcids]

end Reordered

/-! ## What is listed -/

/-- Every request with a manifest in a folder that can be one, once, in the order in which they were
made. -/
structure Listed (s : Store) (all : List Intake) : Prop where
  once : ∃ ids : List String, ids.Nodup ∧
    (∀ id, id ∈ ids ↔ isIntakeId id = true ∧ s.files.isThere (s.manifestPlace id) = true) ∧
    List.Forall₂ (fun id i => s.load id = .ok i) ids all
  oldestFirst : all.Pairwise fun a b => a.createdAt < b.createdAt

/-- One record for each request that holds one, in the order of the IDs, and where several requests
share an ID in the order of these requests. -/
structure LcidsListed (all : List Intake) (held : List LcidRecord) : Prop where
  once : held.Perm (all.filterMap Intake.lcid)
  ordered : held.Pairwise fun a b => a.lcid ≤ b.lcid
  stable : ∀ number, held.filter (fun l => l.lcid = number) =
    (all.filterMap Intake.lcid).filter fun l => l.lcid = number

theorem forall₂_requestsIn (s : Store) (names : List String) :
    List.Forall₂ (fun name i => s.load name = .ok i)
      (names.filter fun name => (s.load name).isOk) (s.requestsIn names) := by
  induction names with
  | nil => exact .nil
  | cons name names ih =>
    rw [requestsIn, List.filter_cons, List.filterMap_cons]
    cases loaded : s.load name with
    | ok i => exact .cons loaded ih
    | error e => exact ih

theorem Listable.listed_requests (h : s.Listable) :
    s.Listed ((s.requestsIn s.folders).mergeSort olderFirst) where
  once := by
    -- The folders in which requests are found, in the order of the requests.
    obtain ⟨ids, loaded, perm⟩ := List.perm_comp_forall₂
      (List.mergeSort_perm (s.requestsIn s.folders) olderFirst)
      (s.forall₂_requestsIn s.folders).flip
    refine ⟨ids, ?_, fun id => ?_, loaded.flip⟩
    · exact perm.nodup_iff.2 ((nodup_folders s).filter _)
    · rw [perm.mem_iff, List.mem_filter]
      constructor
      · rintro ⟨-, found⟩
        cases loaded : s.load id with
        | ok i => exact ⟨isIntakeId_of_load loaded, isThere_of_load loaded⟩
        | error e =>
          rw [loaded] at found
          cases found
      · rintro ⟨isId, there⟩
        obtain ⟨i, loaded⟩ := h.loads id isId there
        refine ⟨mem_folders_of_load loaded, ?_⟩
        rw [loaded]
        rfl
  oldestFirst := by
    have apart : ((s.requestsIn s.folders).mergeSort olderFirst).Pairwise
        fun a b => a.createdAt ≠ b.createdAt :=
      ((List.mergeSort_perm _ _).pairwise_iff fun differs => differs.symm).2
        (h.pairwise_requestsIn (nodup_folders s))
    refine (apart.and (pairwise_mergeSort_of_key olderFirst_iff _)).imp fun {a b} ⟨differs, le⟩ => ?_
    exact Instant.before_iff.2 (lt_of_le_of_ne le fun same => differs (Instant.key_injective same))

theorem lcidsListed (listed : s.intakes = .ok all) :
    ∃ held, s.existingLcids = .ok held ∧ LcidsListed all held := by
  have byNumber (a b : LcidRecord) : decide (a.lcid ≤ b.lcid) = true ↔ a.lcid ≤ b.lcid :=
    decide_eq_true_iff
  refine ⟨_, by rw [existingLcids, listed]; rfl, ?_, ?_, fun number => ?_⟩
  · exact List.mergeSort_perm _ _
  · exact pairwise_mergeSort_of_key byNumber _
  · exact filter_mergeSort_of_key byNumber _ number

/-! ## Running in another order -/

namespace Reordered

theorem save (h : s.Reordered t) (i : Intake) :
    EndsAlike Reordered (s.save i) (t.save i) := by
  rw [Store.save, Store.save, manifestPlace_of_root h.root]
  cases checkIntakeId i.id with
  | error e => exact .failed e
  | ok _ =>
    have written := h.files.write (s.manifestPlace i.id) (.document (encode i))
    change EndsAlike _ (s.writeDocument _ i) (t.writeDocument _ i)
    rw [writeDocument, writeDocument]
    generalize s.files.write (s.manifestPlace i.id) (.document (encode i)) = before at written ⊢
    generalize t.files.write (s.manifestPlace i.id) (.document (encode i)) = after at written ⊢
    cases written with
    | none => exact .failed _
    | some files => exact .ended ⟨files, h.root, h.handedOut⟩

variable (listable : s.Listable)
include listable

theorem applied_eq (h : s.Reordered t) (today : Date) (now : Instant) (kind : ActionKind)
    (m : Mutation) : t.applied today now kind m = s.applied today now kind m := by
  have issued : t.issue today now = s.issue today now := by
    funext d
    rw [issue, chooseLcid, h.existingLcids_eq listable, issue, chooseLcid]
  rw [applied, h.load_eq, configIfAny_congr h.config_eq, issued, applied]

theorem apply (h : s.Reordered t) (today : Date) (now : Instant) (kind : ActionKind) (m : Mutation) :
    EndsAlike (fun p q => q.1 = p.1 ∧ p.2.Reordered q.2) (s.apply today now kind m)
      (t.apply today now kind m) := by
  rw [Store.apply, Store.apply, h.applied_eq listable]
  refine (EndsAlike.refl (Q := Eq) (fun _ => rfl) (s.applied today now kind m)).bind ?_
  rintro i _ rfl
  exact (h.save i).bind fun _ _ saved => .ended ⟨rfl, saved⟩

theorem dispatch (h : s.Reordered t) (today : Date) (now : Instant) (m : Mutation) :
    (t.dispatch today now m).1 = (s.dispatch today now m).1 ∧
      (s.dispatch today now m).2.Reordered (t.dispatch today now m).2 := by
  have ends := h.apply listable today now m.operation.action m
  rw [Store.dispatch, Store.dispatch]
  generalize s.apply today now m.operation.action m = before at ends ⊢
  generalize t.apply today now m.operation.action m = after at ends ⊢
  cases ends with
  | failed e => exact ⟨rfl, h⟩
  | @ended p q related =>
    obtain ⟨i, s'⟩ := p
    obtain ⟨_, t'⟩ := q
    obtain ⟨rfl, stores⟩ := related
    exact ⟨rfl, stores⟩

theorem loadContext_eq (h : s.Reordered t) (id : String) (today : Date) :
    t.loadContext id today = s.loadContext id today := by
  rw [loadContext, h.load_eq, configIfAny_congr h.config_eq, h.existingLcids_eq listable, loadContext]

theorem send (h : s.Reordered t) (today : Date) (now : Instant) (f : ActionForm) (m : Mutation) :
    (t.send today now f m).1 = (s.send today now f m).1 ∧
      (s.send today now f m).2.Reordered (t.send today now f m).2 := by
  rw [Store.send, Store.send, ActionForm.dispatchWith, ActionForm.dispatchWith]
  cases f.expectSubmitting with
  | error e => exact ⟨rfl, h⟩
  | ok _ =>
    obtain ⟨answer, stores⟩ := h.dispatch listable today now m
    exact ⟨congrArg (fun a => Except.ok (ActionRun.ofForm m (f.answered a))) answer, stores⟩

/-- An action gives the same answer and leaves the same files. -/
theorem runAction (h : s.Reordered t) (today : Date) (now : Instant) (r : ActionRequest) :
    (t.runAction today now r).1 = (s.runAction today now r).1 ∧
      (s.runAction today now r).2.Reordered (t.runAction today now r).2 := by
  have contexts := h.loadContext_eq listable r.intakeId today
  have pressed (f : ActionForm) : t.pressed today r f = s.pressed today r f := by
    rw [Store.pressed, contexts, Store.pressed]
  rw [Store.runAction, Store.runAction, contexts]
  cases (ActionForm.fresh r.kind r.intakeId).hydrate (s.loadContext r.intakeId today) with
  | error e => exact ⟨rfl, h⟩
  | ok f =>
    dsimp only
    rw [pressed f]
    split
    · exact ⟨rfl, h⟩
    cases s.pressed today r f with
    | error e => exact ⟨rfl, h⟩
    | ok result =>
      obtain ⟨g, outcome⟩ := result
      cases outcome with
      | invalid messages => exact ⟨rfl, h⟩
      | needsConfirmation question =>
        dsimp only
        split <;> exact ⟨rfl, h⟩
      | dispatch m => exact h.send listable today now g m

end Reordered

/-- In whatever order the folders are listed, the requests are the same list, and so are the life
cycle IDs that they hold; every action gives the same answer and leaves the same desk. -/
theorem alike_in_any_order (listable : s.Listable) (reordered : s.Reordered t) :
    t.intakes = s.intakes ∧ t.existingLcids = s.existingLcids ∧
      ((s.files.find? s.intakesPlace).all FileEntry.isFolder = true → ∃ all held,
        s.intakes = .ok all ∧ s.existingLcids = .ok held ∧ s.Listed all ∧ LcidsListed all held) ∧
      ∀ today now r, (t.runAction today now r).1 = (s.runAction today now r).1 ∧
        (s.runAction today now r).2.Reordered (t.runAction today now r).2 := by
  refine ⟨reordered.intakes_eq listable, reordered.existingLcids_eq listable, fun folder => ?_,
    fun today now r => reordered.runAction listable today now r⟩
  have listed := listable.intakes_eq
  rw [if_pos folder] at listed
  obtain ⟨held, numbers, ordered⟩ := lcidsListed listed
  exact ⟨_, held, listed, numbers, listable.listed_requests, ordered⟩

/-! ### Two requests, the later one listed first -/

/-- The desk with the last of its files listed first. -/
def backwards (s : Store) : Store :=
  { s with files := s.files.arranged s.files.entries.reverse (List.reverse_perm _).symm }

theorem reordered_backwards (s : Store) : s.Reordered s.backwards where
  files := FileTree.reordered_arranged (List.reverse_perm _).symm
  root := rfl
  handedOut := rfl

def oneOClock : Instant := ⟨noon.date, 46800, 0, by decide⟩

def hourlyDesk : Store :=
  (smallDesk.create ⟨oneOClock, fun _ => "r2"⟩ "Data portal" ⟨"Bo", "bo@example.gov", none⟩).2

theorem seen_hourlyDesk :
    hourlyDesk.folders = ["r1", "r2"] ∧ hourlyDesk.backwards.folders = ["r2", "r1"] ∧
    (hourlyDesk.files.find? hourlyDesk.intakesPlace).all FileEntry.isFolder = true ∧
    (hourlyDesk.load "r1").toOption.map Intake.createdAt = some noon ∧
    (hourlyDesk.load "r2").toOption.map Intake.createdAt = some oneOClock := by
  decide +kernel

theorem listable_hourlyDesk : hourlyDesk.Listable := by
  have readable : hourlyDesk.Readable := readable_create readable_smallDesk _ _ _
  obtain ⟨folders, -, -, first, second⟩ := seen_hourlyDesk
  have made (id : String) (i : Intake) (loaded : hourlyDesk.load id = .ok i) :
      (id = "r1" ∧ i.createdAt = noon) ∨ (id = "r2" ∧ i.createdAt = oneOClock) := by
    have mem := mem_folders_of_load loaded
    rw [folders, List.mem_cons, List.mem_singleton] at mem
    rcases mem with rfl | rfl
    · rw [loaded] at first
      exact .inl ⟨rfl, Option.some.inj first⟩
    · rw [loaded] at second
      exact .inr ⟨rfl, Option.some.inj second⟩
  refine ⟨fun id isId there => ?_, fun id id' i i' loaded loaded' same => ?_⟩
  · obtain ⟨i, loaded, -⟩ := readable.requests id isId there
    exact ⟨i, loaded⟩
  · have apart : noon ≠ oneOClock := by decide
    rcases made id i loaded with ⟨here, time⟩ | ⟨here, time⟩ <;>
      rcases made id' i' loaded' with ⟨here', time'⟩ | ⟨here', time'⟩
    · rw [here, here']
    · exact absurd (time.symm.trans (same.trans time')) apart
    · exact absurd (time'.symm.trans (same.symm.trans time)) apart
    · rw [here, here']

theorem alike_in_any_order_backwards :
    hourlyDesk.Listable ∧ hourlyDesk.Reordered hourlyDesk.backwards ∧
      hourlyDesk.folders = ["r1", "r2"] ∧ hourlyDesk.backwards.folders = ["r2", "r1"] ∧
      hourlyDesk.backwards.intakes = hourlyDesk.intakes ∧
      (∃ all held, hourlyDesk.intakes = .ok all ∧ hourlyDesk.existingLcids = .ok held ∧
        hourlyDesk.Listed all ∧ LcidsListed all held) ∧
      (hourlyDesk.backwards.runAction noon.date noon (issueTo "r2")).1 =
        (hourlyDesk.runAction noon.date noon (issueTo "r2")).1 := by
  obtain ⟨folders, folders', folder, -, -⟩ := seen_hourlyDesk
  have reordered := reordered_backwards hourlyDesk
  obtain ⟨same, -, lists, runs⟩ := alike_in_any_order listable_hourlyDesk reordered
  exact ⟨listable_hourlyDesk, reordered, folders, folders', same, lists folder,
    (runs noon.date noon (issueTo "r2")).1⟩

end Store

end GovernanceDesk

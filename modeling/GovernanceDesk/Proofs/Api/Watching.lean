import GovernanceDesk.Api.Updates
import GovernanceDesk.Proofs.Store.Growing
import GovernanceDesk.Proofs.Store.Listing

/-!
# What the watcher notices

The watcher remembers the time of the newest manifest and no other. As every write has a later time
than all before it, that is enough: the newest time moves exactly when some manifest was written.

* `Store.WroteManifestSince`: some manifest was written after an earlier look at the store.
* `Store.newestManifest?_eq_some_iff`: the newest time is that of a manifest, and none is later.
* `Watcher.Follows`: the watcher saw an earlier store, and since then the files only grew.
* `Watcher.Follows.notices_iff`: what it notices.
-/

namespace GovernanceDesk
set_option autoImplicit false

namespace Store

variable {s s' p : Store} {id : String} {n : Nat}

/-- When that which stands in the place of a manifest was written. -/
def manifestTime? (s : Store) (id : String) : Option Nat :=
  (s.files.find? (s.manifestPlace id)).map FileEntry.written

/-- Some manifest has another time than at an earlier look. Without one, any manifest counts. -/
def WroteManifestSince (s : Store) (earlier : Option Store) : Prop :=
  ∃ id, (s.manifestTime? id).isSome ∧ s.manifestTime? id ≠ earlier.bind (·.manifestTime? id)

theorem wroteManifestSince_none_iff :
    s.WroteManifestSince none ↔ ∃ id, (s.manifestTime? id).isSome := by
  refine exists_congr fun id => and_iff_left_of_imp fun there missing => ?_
  rw [missing] at there
  cases there

/-- Only names on the way to some entry need to be tried. -/
theorem wroteManifestSince_iff_entries (s : Store) (earlier : Option Store) :
    (∃ e ∈ s.files.entries, ∃ id ∈ e.1, (s.manifestTime? id).isSome ∧
      s.manifestTime? id ≠ earlier.bind (·.manifestTime? id)) ↔ s.WroteManifestSince earlier := by
  constructor
  · rintro ⟨_, _, id, _, written⟩
    exact ⟨id, written⟩
  · rintro ⟨id, there, differs⟩
    have place := s.manifestPlace_eq id
    obtain ⟨entry, found⟩ := Option.isSome_iff_exists.1 (Option.isSome_map ▸ there)
    have held := FileTree.mem_of_find? (by simp [place]) found
    exact ⟨(s.manifestPlace id, entry), held, id, by simp [place], there, differs⟩

instance (s : Store) (earlier : Option Store) : Decidable (s.WroteManifestSince earlier) :=
  decidable_of_iff _ (s.wroteManifestSince_iff_entries earlier)

/-! ## Times -/

theorem manifestTime?_le (written : s.manifestTime? id = some n) : n ≤ s.files.writes := by
  obtain ⟨entry, found, rfl⟩ := Option.map_eq_some_iff.1 written
  exact FileTree.written_le found

/-- A manifest keeps its time or gets one after all writes before. -/
theorem Grown.manifestTime?_cases (grown : p.Grown s) (id : String) :
    s.manifestTime? id = p.manifestTime? id ∨
      ∃ n, s.manifestTime? id = some n ∧ p.files.writes < n := by
  rw [manifestTime?, manifestTime?, manifestPlace_of_root grown.root]
  obtain same | ⟨entry, found, later⟩ := grown.files.find?_cases (p.manifestPlace id)
  · exact .inl (congrArg _ same)
  · exact .inr ⟨entry.written, congrArg _ found, later⟩

theorem Grown.isSome_manifestTime? (grown : p.Grown s) (there : (p.manifestTime? id).isSome) :
    (s.manifestTime? id).isSome := by
  obtain same | ⟨n, written, -⟩ := grown.manifestTime?_cases id
  · rw [same]
    exact there
  · rw [written]
    rfl

theorem Grown.wroteManifestSince_iff (grown : p.Grown s) :
    s.WroteManifestSince (some p) ↔
      ∃ id n, s.manifestTime? id = some n ∧ p.files.writes < n := by
  constructor
  · rintro ⟨id, -, differs⟩
    exact ⟨id, (grown.manifestTime?_cases id).resolve_left differs⟩
  · rintro ⟨id, n, written, later⟩
    refine ⟨id, written ▸ rfl, fun same => ?_⟩
    exact absurd (manifestTime?_le (same.symm.trans written)) (Nat.not_le.2 later)

/-- What was written between two looks was written between an earlier and a later one. -/
theorem WroteManifestSince.widen {q r : Store} (written : s.WroteManifestSince (some p))
    (before : q.Grown p) (between : p.Grown s) (after : s.Grown r) :
    r.WroteManifestSince (some q) := by
  obtain ⟨id, n, time, later⟩ := between.wroteManifestSince_iff.1 written
  have sinceEarlier := before.files.writes_le
  refine ((before.trans between).trans after).wroteManifestSince_iff.2 ?_
  obtain same | ⟨n', time', evenLater⟩ := after.manifestTime?_cases id
  · exact ⟨id, n, same.trans time, by omega⟩
  · have sinceBetween := between.files.writes_le
    exact ⟨id, n', time', by omega⟩

/-! ## The newest time -/

theorem exists_child_of_manifestTime? (written : s.manifestTime? id = some n) :
    ∃ e ∈ s.files.children s.intakesPlace, e.1 = id := by
  obtain ⟨entry, found, -⟩ := Option.map_eq_some_iff.1 written
  have there : s.files.isThere (s.manifestPlace id) = true :=
    Option.isSome_iff_exists.2 ⟨entry, found⟩
  obtain ⟨n, child⟩ := FileTree.mem_children_of_isFolder (isFolder_of_isThere there).2
  exact ⟨_, child, rfl⟩

theorem newestManifest?_eq_some_iff :
    s.newestManifest? = some n ↔
      (∃ id, s.manifestTime? id = some n) ∧ ∀ id m, s.manifestTime? id = some m → m ≤ n := by
  have times (m : Nat) : (m ∈ (s.files.children s.intakesPlace).filterMap fun e =>
      s.manifestTime? e.1) ↔ ∃ id, s.manifestTime? id = some m := by
    rw [List.mem_filterMap]
    constructor
    · rintro ⟨e, -, written⟩
      exact ⟨e.1, written⟩
    · rintro ⟨id, written⟩
      obtain ⟨e, child, rfl⟩ := exists_child_of_manifestTime? written
      exact ⟨e, child, written⟩
  refine List.max?_eq_some_iff.trans (and_congr (times n) ?_)
  constructor
  · intro last id m written
    exact last m ((times m).2 ⟨id, written⟩)
  · intro last m mem
    obtain ⟨id, written⟩ := (times m).1 mem
    exact last id m written

theorem isSome_newestManifest? :
    s.newestManifest?.isSome ↔ ∃ id, (s.manifestTime? id).isSome := by
  constructor
  · intro some
    obtain ⟨n, newest⟩ := Option.isSome_iff_exists.1 some
    obtain ⟨⟨id, written⟩, -⟩ := newestManifest?_eq_some_iff.1 newest
    exact ⟨id, written ▸ rfl⟩
  · rintro ⟨id, some⟩
    obtain ⟨n, written⟩ := Option.isSome_iff_exists.1 some
    obtain ⟨e, child, rfl⟩ := exists_child_of_manifestTime? written
    refine List.isSome_max?_iff.2 fun none => ?_
    exact absurd (List.filterMap_eq_nil_iff.1 none e child) (by rw [← manifestTime?, written]; simp)

theorem newestManifest?_congr (same : ∀ id, s'.manifestTime? id = s.manifestTime? id) :
    s'.newestManifest? = s.newestManifest? := by
  refine Option.ext fun n => ?_
  rw [newestManifest?_eq_some_iff, newestManifest?_eq_some_iff]
  simp only [same]

theorem Grown.isSome_newestManifest? (grown : p.Grown s) (some : p.newestManifest?.isSome) :
    s.newestManifest?.isSome := by
  obtain ⟨id, there⟩ := Store.isSome_newestManifest?.1 some
  exact Store.isSome_newestManifest?.2 ⟨id, grown.isSome_manifestTime? there⟩

/-- The newest time moves exactly when some manifest is written. -/
theorem Grown.newestManifest?_ne_iff (grown : p.Grown s) :
    s.newestManifest? ≠ p.newestManifest? ↔ s.WroteManifestSince (some p) := by
  rw [grown.wroteManifestSince_iff]
  constructor
  · intro moved
    by_contra still
    refine moved (newestManifest?_congr fun id => ?_)
    exact (grown.manifestTime?_cases id).resolve_right fun written => still ⟨id, written⟩
  · rintro ⟨id, n, written, later⟩ same
    have there : (s.manifestTime? id).isSome := Option.isSome_iff_exists.2 ⟨n, written⟩
    obtain ⟨m, newest⟩ := Option.isSome_iff_exists.1
      (Store.isSome_newestManifest?.2 ⟨id, there⟩)
    have bound := (newestManifest?_eq_some_iff.1 newest).2 id n written
    -- The newest manifest was there before, and so was written before.
    obtain ⟨⟨id', before⟩, -⟩ := newestManifest?_eq_some_iff.1 (same.symm.trans newest)
    have early := manifestTime?_le before
    omega

end Store

/-! ## Looking and looking again -/

namespace Watcher

variable {w : Watcher} {polled : Option Store} {s s' : Store}

/-- The watcher looked at one store last, if it ever did, and the files only grew since then. -/
structure Follows (w : Watcher) (polled : Option Store) (s : Store) : Prop where
  seen : w.lastSeen = polled.bind Store.newestManifest?
  before : ∀ p ∈ polled, p.Grown s

theorem follows_start (s : Store) : start.Follows none s :=
  ⟨rfl, nofun⟩

namespace Follows

theorem grown (h : w.Follows polled s) (grown : s.Grown s') : w.Follows polled s' where
  seen := h.seen
  before p mem := (h.before p mem).trans grown

/-- A manifest that was seen is still there, so the watcher does not remember an older time. -/
theorem lastSeen_look (h : w.Follows polled s) : (w.look s).lastSeen = s.newestManifest? := by
  rw [look]
  cases newest : s.newestManifest? with
  | some n => rfl
  | none =>
    rw [h.seen]
    cases polled with
    | none => rfl
    | some p =>
      cases seen : p.newestManifest? with
      | none => exact seen
      | some n =>
        have there := (h.before p rfl).isSome_newestManifest? (seen ▸ rfl)
        rw [newest] at there
        cases there

theorem look (h : w.Follows polled s) : (w.look s).Follows (some s) s where
  seen := h.lastSeen_look
  before _ mem := by
    cases mem
    exact .refl s

/-- The watcher notices that some manifest was written since it looked last, and nothing else. -/
theorem notices_iff (h : w.Follows polled s) :
    w.notices s = true ↔ s.WroteManifestSince polled := by
  rw [notices, Bool.and_eq_true, bne_iff_ne, h.seen]
  cases polled with
  | none =>
    rw [Store.wroteManifestSince_none_iff, ← Store.isSome_newestManifest?]
    refine and_iff_left_of_imp fun there missing => ?_
    rw [missing] at there
    cases there
  | some p =>
    rw [Option.bind_some, (h.before p rfl).newestManifest?_ne_iff]
    refine and_iff_right_of_imp ?_
    rintro ⟨id, there, -⟩
    exact Store.isSome_newestManifest?.2 ⟨id, there⟩

end Follows

end Watcher

end GovernanceDesk

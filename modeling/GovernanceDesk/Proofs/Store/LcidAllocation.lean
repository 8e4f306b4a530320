import GovernanceDesk.Proofs.Store.Reused

/-!
# The number a request is given

An issue without a choice of number searches the numbers of its day for one that no request holds,
whatever is held: numbers of other days, of later rounds of the alphabet, or written by hand.

* `Store.mem_existingLcids_iff`: the numbers on the list are those that requests hold.
* `Store.chooseLcid_least`: the search ends, and the number it ends at is the first that is free.
-/

namespace GovernanceDesk
set_option autoImplicit false

namespace Store

variable {s : Store} {held : List LcidRecord} {all : List Intake} {number : String}

/-! ## Numbers on the list -/

theorem mem_existingLcids_iff_listed (listed : s.existingLcids = .ok held)
    (read : s.intakes = .ok all) :
    number ∈ held.map LcidRecord.lcid ↔ ∃ i ∈ all, i.lcidNumber? = some number := by
  rw [existingLcids, read] at listed
  cases listed
  simp only [List.mem_map, List.mem_mergeSort, List.mem_filterMap, Intake.lcidNumber?,
    Option.map_eq_some_iff]
  constructor
  · rintro ⟨l, ⟨i, mem, held⟩, rfl⟩
    exact ⟨i, mem, l, held, rfl⟩
  · rintro ⟨i, mem, l, held, rfl⟩
    exact ⟨l, ⟨i, mem, held⟩, rfl⟩

/-- Nobody holds a number that is not on the list. -/
theorem mem_existingLcids_iff (listed : s.existingLcids = .ok held) :
    number ∈ held.map LcidRecord.lcid ↔ ∃ id, s.lcidNumber? id = some number := by
  constructor
  · intro mem
    obtain ⟨all, read, -⟩ := ok_of_bind_ok listed
    obtain ⟨i, there, has⟩ := (mem_existingLcids_iff_listed listed read).1 mem
    obtain ⟨id, loaded⟩ := exists_load_of_mem_intakes read there
    exact ⟨id, (lcidNumber?_of_load loaded).trans has⟩
  · rintro ⟨id, has⟩
    obtain ⟨i, l, loaded, record, rfl⟩ := exists_load_of_lcidNumber? has
    exact List.mem_map_of_mem (mem_existingLcids_of_load loaded record listed)

/-! ## The search -/

theorem chooseLcid_none (listed : s.existingLcids = .ok held) (today : Date) :
    s.chooseLcid today none = .ok (Lcid.allocate today (held.map LcidRecord.lcid)) := by
  rw [chooseLcid, listed]
  rfl

/-- Where the IDs that are held cannot be listed, there is no search. Else it ends after at most one
look more than there are different numbers held, at the first issue of the day whose number no request
holds. -/
theorem chooseLcid_least (s : Store) (today : Date) :
    (∀ e, s.existingLcids = .error e → s.chooseLcid today none = .error e) ∧
    ∀ held, s.existingLcids = .ok held → ∃ n looks,
      s.chooseLcid today none = .ok (Lcid.number today n) ∧
      Lcid.Search today (held.map LcidRecord.lcid) 0 looks n ∧
      looks ≤ (held.map LcidRecord.lcid).toFinset.card + 1 ∧
      (∀ all, s.intakes = .ok all →
        IsLeast {k | ∀ i ∈ all, i.lcidNumber? ≠ some (Lcid.number today k)} n) ∧
      IsLeast {k | ∀ id, s.lcidNumber? id ≠ some (Lcid.number today k)} n := by
  refine ⟨fun e failed => ?_, fun held listed => ?_⟩
  · rw [chooseLcid, failed]
    rfl
  · obtain ⟨n, search, bound⟩ := Lcid.exists_search today (held.map LcidRecord.lcid)
    have least := search.isLeast
    refine ⟨n, n + 1, ?_, search, Nat.succ_le_succ bound, fun all read => ?_, ?_⟩
    · rw [chooseLcid_none listed, search.allocate_eq bound]
    · simpa only [mem_existingLcids_iff_listed listed read, not_exists, not_and] using least
    · simpa only [mem_existingLcids_iff listed, not_exists] using least

/-- Two numbers of the day are held, so the third look finds a free one. -/
theorem chooseLcid_least_shared :
    sharedDesk.existingLcids = .ok [firstLcid, secondLcid] ∧
      ∃ n looks, sharedDesk.chooseLcid noon.date none = .ok (Lcid.number noon.date n) ∧
        Lcid.Search noon.date ["26289A", "26289B"] 0 looks n ∧ looks ≤ 3 ∧
        IsLeast {k | ∀ id, sharedDesk.lcidNumber? id ≠ some (Lcid.number noon.date k)} n := by
  obtain ⟨n, looks, chosen, search, bound, -, least⟩ :=
    (chooseLcid_least sharedDesk noon.date).2 _ lcids_sharedDesk.1
  exact ⟨lcids_sharedDesk.1, n, looks, chosen, search, bound, least⟩

end Store

end GovernanceDesk

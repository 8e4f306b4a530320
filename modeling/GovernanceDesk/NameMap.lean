/-!
# Maps from names

A finite map whose keys are texts, kept in the order of their code points. Form values, validation
messages and the like are read out in that order, so the order is part of the type and equal maps
have equal entries.

* `NameMap.get?`, `NameMap.set`: looking up and replacing.
* `NameMap.setNew`: adding only where nothing stands yet.
* `NameMap.get?_set`: what a replacement does to every look-up.
* `NameMap.mem_entries_iff`: looking up finds exactly the entries.
-/

namespace GovernanceDesk
set_option autoImplicit false

variable {α : Type}

structure NameMap (α : Type) where
  entries : List (String × α)
  sorted : entries.Pairwise fun a b => a.1 < b.1

/-- A look-up in a list of entries, one entry at a time. -/
theorem lookup_cons_ite {κ β : Type} [BEq κ] [LawfulBEq κ] [DecidableEq κ] (key other : κ)
    (value : β) (rest : List (κ × β)) :
    List.lookup other ((key, value) :: rest) =
      if other = key then some value else rest.lookup other := by
  by_cases h : other = key
  · simp [h]
  · rw [List.lookup_cons, beq_eq_false_iff_ne.2 h, if_neg h]

namespace NameMap

/-! ## Entries -/

def insertEntry (name : String) (value : α) : List (String × α) → List (String × α)
  | [] => [(name, value)]
  | entry :: rest =>
    if name < entry.1 then (name, value) :: entry :: rest
    else if entry.1 < name then entry :: insertEntry name value rest
    else (name, value) :: rest

theorem mem_insertEntry {name : String} {value : α} {entries : List (String × α)}
    {e : String × α} (h : e ∈ insertEntry name value entries) :
    e = (name, value) ∨ e ∈ entries := by
  induction entries with
  | nil => simpa [insertEntry] using h
  | cons entry rest ih =>
    unfold insertEntry at h
    split at h
    · simpa using h
    · split at h
      · rcases List.mem_cons.1 h with rfl | h
        · exact .inr (List.mem_cons_self ..)
        · exact (ih h).imp_right (List.mem_cons_of_mem _)
      · rcases List.mem_cons.1 h with rfl | h
        · exact .inl rfl
        · exact .inr (List.mem_cons_of_mem _ h)

theorem sorted_insertEntry {name : String} {value : α} {entries : List (String × α)}
    (h : entries.Pairwise fun a b => a.1 < b.1) :
    (insertEntry name value entries).Pairwise fun a b => a.1 < b.1 := by
  induction entries with
  | nil => simp [insertEntry]
  | cons entry rest ih =>
    obtain ⟨head, tail⟩ := List.pairwise_cons.1 h
    unfold insertEntry
    split
    · next hlt =>
      refine List.pairwise_cons.2 ⟨fun e he => ?_, h⟩
      rcases List.mem_cons.1 he with rfl | he
      · exact hlt
      · exact String.lt_trans hlt (head e he)
    · split
      · next hgt =>
        refine List.pairwise_cons.2 ⟨fun e he => ?_, ih tail⟩
        rcases mem_insertEntry he with rfl | he
        · exact hgt
        · exact head e he
      · next hge hle =>
        have same : name = entry.1 :=
          String.le_antisymm (String.not_lt.1 hle) (String.not_lt.1 hge)
        exact List.pairwise_cons.2 ⟨fun e he => same ▸ head e he, tail⟩

/-! ## The map -/

def empty : NameMap α := ⟨[], .nil⟩

instance : EmptyCollection (NameMap α) := ⟨empty⟩

instance : Inhabited (NameMap α) := ⟨empty⟩

def get? (m : NameMap α) (name : String) : Option α :=
  m.entries.lookup name

def contains (m : NameMap α) (name : String) : Bool :=
  (m.get? name).isSome

def isEmpty (m : NameMap α) : Bool :=
  m.entries.isEmpty

def size (m : NameMap α) : Nat :=
  m.entries.length

def set (m : NameMap α) (name : String) (value : α) : NameMap α :=
  ⟨insertEntry name value m.entries, sorted_insertEntry m.sorted⟩

/-- Adds an entry unless the name has one. -/
def setNew (m : NameMap α) (name : String) (value : α) : NameMap α :=
  if m.contains name then m else m.set name value

/-- The map of a list of entries; of two entries with one name the later wins. -/
def ofList (entries : List (String × α)) : NameMap α :=
  entries.foldl (fun m e => m.set e.1 e.2) empty

@[ext] theorem ext {m n : NameMap α} (h : m.entries = n.entries) : m = n := by
  cases m; cases n; cases h; rfl

theorem isEmpty_iff {m : NameMap α} : m.isEmpty = true ↔ m = ∅ := by
  refine ⟨fun h => ext (List.isEmpty_iff.1 h), ?_⟩
  rintro rfl
  rfl

/-! ## Looking up -/

@[simp] theorem get?_empty (name : String) : (∅ : NameMap α).get? name = none := rfl

theorem lookup_insertEntry (name other : String) (value : α) (entries : List (String × α)) :
    (insertEntry name value entries).lookup other =
      if other = name then some value else entries.lookup other := by
  induction entries with
  | nil =>
    by_cases h : other = name
    · subst h; simp [insertEntry]
    · simp [insertEntry, List.lookup_cons, h, beq_eq_false_iff_ne.2 h]
  | cons entry rest ih =>
    obtain ⟨key, old⟩ := entry
    unfold insertEntry
    by_cases h : other = name
    · subst h
      simp only [if_true]
      split
      · simp
      · split
        · next hgt =>
          have differs : other ≠ key := fun e => String.lt_irrefl _ (e ▸ hgt)
          simp only [List.lookup_cons, beq_eq_false_iff_ne.2 differs, ih, if_true]
        · simp
    · have differs := beq_eq_false_iff_ne.2 h
      simp only [h, if_false] at ih ⊢
      split
      · simp [List.lookup_cons, differs]
      · split
        · simp only [List.lookup_cons, ih]
        · next hge hle =>
          have same : name = key :=
            String.le_antisymm (String.not_lt.1 hle) (String.not_lt.1 hge)
          subst same
          simp [List.lookup_cons, differs]

@[simp] theorem get?_set (m : NameMap α) (name other : String) (value : α) :
    (m.set name value).get? other = if other = name then some value else m.get? other :=
  lookup_insertEntry name other value m.entries

theorem mem_entries_iff {m : NameMap α} {name : String} {value : α} :
    (name, value) ∈ m.entries ↔ m.get? name = some value := by
  obtain ⟨entries, sorted⟩ := m
  change (name, value) ∈ entries ↔ entries.lookup name = some value
  induction entries with
  | nil => simp
  | cons entry rest ih =>
    obtain ⟨key, held⟩ := entry
    obtain ⟨later, tail⟩ := List.pairwise_cons.1 sorted
    rw [List.mem_cons, ih tail, lookup_cons_ite]
    by_cases same : name = key
    · subst same
      -- The names behind are later, so none of them is this one.
      have fresh : rest.lookup name ≠ some value := by
        intro found
        exact String.lt_irrefl name (later (name, value) ((ih tail).2 found))
      simp [fresh, eq_comm]
    · simp [same]

theorem set_ne_empty (m : NameMap α) (name : String) (value : α) : m.set name value ≠ ∅ := by
  intro h
  have found := get?_set m name name value
  rw [h, if_pos rfl] at found
  exact nomatch found

theorem setNew_ne_empty (m : NameMap α) (name : String) (value : α) : m.setNew name value ≠ ∅ := by
  unfold setNew
  split
  · next known =>
    rintro rfl
    exact nomatch known
  · exact set_ne_empty m name value

end NameMap

end GovernanceDesk

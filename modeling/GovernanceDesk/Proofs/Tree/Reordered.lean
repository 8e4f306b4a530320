import GovernanceDesk.Proofs.Tree.Order
import GovernanceDesk.Proofs.Tree.Records

/-!
# Records whose fields are in any order

Everything that a request and a mutation are made of is decoded by the names of its fields, so it is
the same whatever their order. A table of stages is decoded entry by entry and each entry is put in
its place, where none meets another.

* `StageTable.decode_eq_some_iff`: the table that is decoded from entries, by look-ups alone.
* Instances of `OrderFree` for leaves, lists, closed choices and all the records.
-/

namespace GovernanceDesk
set_option autoImplicit false

open Entries

/-! ## Leaves, choices and lists -/

instance : OrderFree String := ⟨Tree.Rearranged.text?_eq⟩

instance : OrderFree Bool := ⟨Tree.Rearranged.bool?_eq⟩

instance : OrderFree Date := ⟨fun h => congrArg (·.bind Date.ofRecord?) h.text?_eq⟩

instance : OrderFree Instant := ⟨fun h => congrArg (·.bind Instant.ofRecord?) h.text?_eq⟩

instance {α : Type} [Tagged α] : OrderFree α :=
  ⟨fun h => congrArg (fun s : Option String => s.bind Tagged.ofTag?) h.text?_eq⟩

instance : OrderFree ActionKind := ⟨fun h => congrArg (·.bind ActionKind.ofSlug?) h.text?_eq⟩

theorem mapM_decode_congr {α : Type} [Coded α] [OrderFree α] {written items : List Tree}
    (h : List.Forall₂ Tree.Rearranged written items) :
    (written.mapM decode : Option (List α)) = items.mapM decode := by
  induction h with
  | nil => rfl
  | cons here _ ih => rw [List.mapM_cons, List.mapM_cons, OrderFree.decode_eq here, ih]

instance {α : Type} [Coded α] [OrderFree α] : OrderFree (List α) where
  decode_eq h := by
    cases h with
    | list each => exact mapM_decode_congr each
    | _ => rfl

/-! ## Stage tables -/

namespace Tagged

variable {α : Type} [Tagged α] [LawfulTagged α] {x y : α} {s : String}

theorem ofTag?_eq_some_iff : ofTag? s = some x ↔ tag x = s := by
  constructor
  · intro h
    exact beq_iff_eq.1 (List.find?_some (p := fun x : α => tag x == s) h)
  · rintro rfl
    exact LawfulTagged.ofTag?_tag x

theorem tag_inj (h : tag x = tag y) : x = y :=
  Option.some.inj ((ofTag?_eq_some_iff.2 h).symm.trans (LawfulTagged.ofTag?_tag y))

end Tagged

namespace StageTable

/-- The stage and the status of one entry. -/
def readEntry (e : String × Tree) : Option (Stage × Status) := do
  let stage : Stage ← Tagged.ofTag? e.1
  let status ← decode e.2
  return (stage, status)

theorem readEntry_eq_some_iff {e : String × Tree} {stage : Stage} {status : Status} :
    readEntry e = some (stage, status) ↔ Stage.tag stage = e.1 ∧ decode e.2 = some status := by
  have tag : Tagged.ofTag? e.1 = some stage ↔ Stage.tag stage = e.1 :=
    Tagged.ofTag?_eq_some_iff
  rw [← tag, readEntry]
  cases (Tagged.ofTag? e.1 : Option Stage) <;> cases (decode e.2 : Option Status) <;> simp

/-- Entries of different stages are put in their places one by one. -/
theorem mapM_readEntry_foldl {entries : Entries} (distinct : (entries.map Prod.fst).Nodup)
    (start table : StageTable) :
    (entries.mapM readEntry).map (fun pairs => pairs.foldl (fun t e => t.set e.1 e.2) start) =
        some table ↔
      (∀ e ∈ entries, (readEntry e).isSome = true) ∧
      ∀ s, table.entry s = (entries.lookup (Stage.tag s)).elim (start.entry s) decode := by
  induction entries generalizing start with
  | nil =>
    refine Iff.trans Option.some_inj ⟨?_, ?_⟩
    · rintro rfl
      exact ⟨fun _ mem => absurd mem List.not_mem_nil, fun _ => rfl⟩
    · rintro ⟨-, same⟩
      exact (ext same).symm
  | cons e entries ih =>
    obtain ⟨name, t⟩ := e
    rw [List.map_cons, List.nodup_cons] at distinct
    rw [List.forall_mem_cons, List.mapM_cons]
    cases read : readEntry (name, t) with
    | none => simp
    | some pair =>
      obtain ⟨stage, status⟩ := pair
      obtain ⟨rfl, value⟩ := readEntry_eq_some_iff.1 read
      have step : ((do
            let pairs ← entries.mapM readEntry
            return (stage, status) :: pairs : Option (List (Stage × Status))).map
            fun pairs => pairs.foldl (fun t e => t.set e.1 e.2) start) =
          (entries.mapM readEntry).map fun pairs =>
            pairs.foldl (fun t e => t.set e.1 e.2) (start.set stage status) := by
        cases entries.mapM readEntry <;> rfl
      refine (Eq.congr_left step).trans ?_
      rw [ih distinct.2]
      simp only [Option.isSome_some, true_and]
      refine and_congr_right fun _ => forall_congr' fun s => ?_
      rw [lookup_cons_ite, entry_set]
      by_cases here : s = stage
      · subst here
        have later : entries.lookup (Stage.tag s) = none := by
          rw [← Option.not_isSome_iff_eq_none, ← mem_names_iff]
          exact distinct.1
        rw [if_pos rfl, if_pos rfl, later]
        exact Eq.congr_right value.symm
      · have other : Stage.tag s ≠ Stage.tag stage := fun same => here (Tagged.tag_inj same)
        rw [if_neg here, if_neg other]

/-- The table that entries of different names are read as, by look-ups alone. -/
theorem decode_eq_some_iff {entries : Entries} (distinct : (entries.map Prod.fst).Nodup)
    (table : StageTable) :
    decode (.fields entries) = some table ↔
      (∀ name, (entries.lookup name).all (fun t => (readEntry (name, t)).isSome) = true) ∧
      ∀ s, table.entry s = (entries.lookup (Stage.tag s)).bind decode := by
  have decoded : decode (.fields entries) =
      (entries.mapM readEntry).map fun pairs => pairs.foldl (fun t e => t.set e.1 e.2) empty := by
    rw [Option.map_eq_bind]
    rfl
  have all : (∀ e ∈ entries, (readEntry e).isSome = true) ↔
      ∀ name, (entries.lookup name).all (fun t => (readEntry (name, t)).isSome) = true := by
    constructor
    · intro each name
      cases found : entries.lookup name with
      | none => rfl
      | some t => exact each _ (mem_of_lookup found)
    · rintro each ⟨name, t⟩ mem
      have here := each name
      rw [lookup_of_mem distinct mem] at here
      exact here
  rw [decoded, mapM_readEntry_foldl distinct, all]
  refine and_congr_right fun _ => forall_congr' fun s => Eq.congr_right ?_
  cases entries.lookup (Stage.tag s) <;> rfl

instance : OrderFree StageTable where
  decode_eq h := by
    cases h with
    | fields distinct distinct' lookup =>
      refine Option.ext fun table => ?_
      rw [decode_eq_some_iff distinct, decode_eq_some_iff distinct']
      refine and_congr (forall_congr' fun name => ?_) (forall_congr' fun s => ?_)
      · refine Eq.congr_left (congr_of_rel
          (f := fun found => found.all fun t => (readEntry (name, t)).isSome) (lookup name) ?_)
        intro t' t alike
        simp only [Option.all_some, readEntry, OrderFree.decode_eq alike]
      · exact Eq.congr_right (congr_of_rel (f := fun found => found.bind decode)
          (lookup (Stage.tag s)) OrderFree.decode_eq)
    | _ => rfl

end StageTable

/-! ## People, life cycle IDs and feedback -/

instance : OrderFree Contact :=
  ⟨fun h => h.fields?_bind_eq fun alike => by simp only [need_congr alike, optional_congr alike]⟩

instance : OrderFree Recipients :=
  ⟨fun h => h.fields?_bind_eq fun alike => by simp only [getOr_congr alike]⟩

instance : OrderFree LcidRecord :=
  ⟨fun h => h.fields?_bind_eq fun alike => by
    simp only [need_congr alike, getOr_congr alike, optional_congr alike]⟩

instance : OrderFree LcidDecision :=
  ⟨fun h => h.fields?_bind_eq fun alike => by simp only [need_congr alike, optional_congr alike]⟩

instance : OrderFree Feedback :=
  ⟨fun h => h.fields?_bind_eq fun alike => by simp only [need_congr alike, optional_congr alike]⟩

/-! ## Operations and mutations -/

namespace Operation

theorem decodeReason_congr {t' t : Tree} (h : t'.Rearranged t) :
    decodeReason t' = decodeReason t :=
  h.fields?_bind_eq fun alike => optional_congr alike "reason"

theorem decodeInput_congr {t' t : Tree} (name : String) (h : t'.Rearranged t) :
    decodeInput name t' = decodeInput name t := by
  unfold decodeInput
  split
  all_goals first
    | rfl
    | rw [OrderFree.decode_eq h]
    | rw [decodeReason_congr h]
    | exact h.fields?_bind_eq fun alike => by simp only [need_congr alike, optional_congr alike]

instance : OrderFree Operation where
  decode_eq h := h.fields?_bind_eq fun {written entries} alike => by
    have named : (written.lookup "name").bind Tree.text? =
        (entries.lookup "name").bind Tree.text? :=
      congr_of_rel (f := fun found => found.bind Tree.text?) (alike "name")
        Tree.Rearranged.text?_eq
    have input (name : String) : (written.lookup "input").bind (decodeInput name) =
        (entries.lookup "input").bind (decodeInput name) :=
      congr_of_rel (f := fun found => found.bind (decodeInput name)) (alike "input")
        (decodeInput_congr name)
    simp only [Option.bind_eq_bind, ← Option.bind_assoc, named, input]

end Operation

instance : OrderFree Mutation :=
  ⟨fun h => h.fields?_bind_eq fun alike => by simp only [need_congr alike, optional_congr alike]⟩

/-! ## Requests -/

instance : OrderFree ActionRecord :=
  ⟨fun h => h.fields?_bind_eq fun alike => by simp only [need_congr alike, optional_congr alike]⟩

instance : OrderFree Intake :=
  ⟨fun h => h.fields?_bind_eq fun alike => by
    simp only [need_congr alike, getOr_congr alike, optional_congr alike]⟩

end GovernanceDesk

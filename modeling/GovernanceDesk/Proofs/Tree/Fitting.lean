import GovernanceDesk.Proofs.Tree.Order

/-!
# Trees that have a shape

Which trees a shape admits is said here without regard to how drafts are fitted. What a shape admits
is fitted to it, with the fields of records in any order, and as well where it was held back because
its tag comes later; the fitted tree is the same up to order.

* `Shape.Admits`: the trees that have a shape.
* `Shape.nesting`: how many collections can lie in one another in a shape.
* `Shape.exists_fit`: what a shape admits is fitted.
-/

namespace GovernanceDesk
set_option autoImplicit false

/-! ## Shapes -/

/-- A tree that has a shape. The fields of a record are in any order, and none is there that no slot
is for. -/
inductive Shape.Admits : Shape → Tree → Prop where
  | text (s : String) : Admits .text (.text s)
  | mark (b : Bool) : Admits .mark (.bool b)
  | markOr (b : Bool) : Admits .markOrText (.bool b)
  | orText (s : String) : Admits .markOrText (.text s)
  | count {bound : Nat} {n : Int} (least : 0 ≤ n) (most : n < bound) :
    Admits (.count bound) (.int n)
  | choice {tags : List String} {tag : String} (mem : tag ∈ tags) :
    Admits (.choice tags) (.text tag)
  | absent (content : Shape) : Admits (.optional content) .null
  | present {content : Shape} {t : Tree} (there : t.isNull = false) (held : Admits content t) :
    Admits (.optional content) t
  | list {item : Shape} {items : List Tree} (each : ∀ t ∈ items, Admits item t) :
    Admits (.list item) (.list items)
  | map {tags? : Option (List String)} {value : Shape} {entries : Entries}
      (distinct : (entries.map Prod.fst).Nodup)
      (tagged : ∀ tags, tags? = some tags → ∀ name ∈ entries.map Prod.fst, name ∈ tags)
      (each : ∀ name t, entries.lookup name = some t → Admits value t) :
    Admits (.map tags? value) (.fields entries)
  | record {slots : List (Slot Shape)} {entries : Entries}
      (distinct : (entries.map Prod.fst).Nodup)
      (known : ∀ name ∈ entries.map Prod.fst, name ∈ slots.map Slot.name)
      (needed : ∀ slot ∈ slots, slot.isNeeded = true → slot.name ∈ entries.map Prod.fst)
      (each : ∀ slot ∈ slots, ∀ t, entries.lookup slot.name = some t → Admits slot.content t) :
    Admits (.record slots) (.fields entries)
  | inputs {slots : List (Slot Shape)} {entries : Entries}
      (distinct : (entries.map Prod.fst).Nodup)
      (known : ∀ name ∈ entries.map Prod.fst, name ∈ slots.map Slot.name)
      (needed : ∀ slot ∈ slots, slot.isNeeded = true → slot.name ∈ entries.map Prod.fst)
      (each : ∀ slot ∈ slots, ∀ t, entries.lookup slot.name = some t → Admits slot.content t) :
    Admits (.inputs slots) (.fields entries)
  | cases {nameField inputField tag : String} {variants : List (String × Shape)} {content : Shape}
      {input : Tree} (differ : inputField ≠ nameField)
      (variant : variants.lookup tag = some content) (held : Admits content input) :
    Admits (.cases nameField inputField variants)
      (.fields [(nameField, .text tag), (inputField, input)])

namespace Shape

mutual

/-- How many collections can lie in one another in a value of a shape. -/
def nesting : Shape → Nat
  | text | mark | markOrText | count _ | choice _ => 0
  | optional content => nesting content
  | list item => nesting item + 1
  | map _ value => nesting value + 1
  | record slots | inputs slots => slotsNesting slots + 1
  | cases _ _ variants => variantsNesting variants + 1

def slotsNesting : List (Slot Shape) → Nat
  | [] => 0
  | ⟨_, _, content⟩ :: rest => max (nesting content) (slotsNesting rest)

def variantsNesting : List (String × Shape) → Nat
  | [] => 0
  | (_, content) :: rest => max (nesting content) (variantsNesting rest)

end

theorem nesting_le_of_mem {slots : List (Slot Shape)} {slot : Slot Shape} (mem : slot ∈ slots) :
    slot.content.nesting ≤ slotsNesting slots := by
  induction slots with
  | nil => exact absurd mem List.not_mem_nil
  | cons first slots ih =>
    rw [slotsNesting]
    rcases List.mem_cons.1 mem with rfl | later
    · exact Nat.le_max_left ..
    · exact Nat.le_trans (ih later) (Nat.le_max_right ..)

theorem nesting_le_of_lookup {variants : List (String × Shape)} {tag : String} {content : Shape}
    (found : variants.lookup tag = some content) : content.nesting ≤ variantsNesting variants := by
  induction variants with
  | nil => exact nomatch found
  | cons first variants ih =>
    obtain ⟨name, other⟩ := first
    rw [lookup_cons_ite] at found
    rw [variantsNesting]
    split at found
    · cases found
      exact Nat.le_max_left ..
    · exact Nat.le_trans (ih found) (Nat.le_max_right ..)

end Shape

/-! ## Drafts of trees -/

namespace Draft

mutual

theorem isWhole_ofTree : (t : Tree) → (ofTree t).isWhole = true
  | .null | .bool _ | .int _ | .real _ | .text _ => rfl
  | .list items => by
    rw [ofTree, isWhole]
    exact areWhole_ofTrees items
  | .fields entries => by
    rw [ofTree, isWhole]
    exact areWholeEntries_ofEntries entries

theorem areWhole_ofTrees : (items : List Tree) → areWhole (ofTrees items) = true
  | [] => rfl
  | t :: items => by
    rw [ofTrees, areWhole, isWhole_ofTree t, areWhole_ofTrees items, Bool.and_self]

theorem areWholeEntries_ofEntries :
    (entries : List (String × Tree)) → areWholeEntries (ofEntries entries) = true
  | [] => rfl
  | (name, t) :: entries => by
    rw [ofEntries, areWholeEntries, isWhole_ofTree t, areWholeEntries_ofEntries entries,
      Bool.and_self]

end

end Draft

/-! ## Collections -/

namespace Fit

/-- Items that are related to some others are fitted to items that are as well. -/
theorem exists_items {R : Tree → Tree → Prop} (fitter : Draft → Except Misfit Tree)
    {written items : List Tree} (related : List.Forall₂ R written items)
    (each : ∀ t ∈ items, ∀ t', R t' t → ∃ u, fitter (.ofTree t') = .ok u ∧ R u t) :
    ∃ us, Fit.items fitter (Draft.ofTrees written) = .ok us ∧ List.Forall₂ R us items := by
  induction related with
  | nil => exact ⟨[], rfl, .nil⟩
  | @cons t' t written items here _ ih =>
    obtain ⟨u, fits, first⟩ := each t (List.mem_cons_self ..) t' here
    obtain ⟨us, rest, later⟩ := ih fun t mem => each t (List.mem_cons_of_mem _ mem)
    refine ⟨u :: us, ?_, .cons first later⟩
    rw [Draft.ofTrees, Fit.items, fits, rest]
    rfl

open Entries (Matched)

variable {R : String → Tree → Tree → Prop} {written : Entries}

theorem exists_entries {tags? : Option (List String)} (fitter : Draft → Except Misfit Tree)
    (tagged : ∀ tags, tags? = some tags → ∀ name ∈ written.map Prod.fst, name ∈ tags)
    (each : ∀ e ∈ written, ∃ u, fitter (.ofTree e.2) = .ok u ∧ R e.1 u e.2) :
    ∃ done, Fit.entries tags? fitter (Draft.ofEntries written) = .ok done ∧
      Matched R done written := by
  induction written with
  | nil => exact ⟨[], rfl, .nil⟩
  | cons e written ih =>
    obtain ⟨name, t⟩ := e
    obtain ⟨u, here, related⟩ := each (name, t) (List.mem_cons_self ..)
    obtain ⟨done, there, rest⟩ := ih
      (fun tags given name mem => tagged tags given name (List.mem_cons_of_mem _ mem))
      (fun e mem => each e (List.mem_cons_of_mem _ mem))
    refine ⟨(name, u) :: done, ?_, .cons ⟨rfl, related⟩ rest⟩
    cases tags? with
    | none =>
      simp only [Draft.ofEntries, Fit.entries, here, there, bind, Except.bind]
      rfl
    | some tags =>
      have mem : name ∈ tags := tagged tags rfl name (List.mem_cons_self ..)
      have allowed : tagNamed tags name = .ok name := if_pos (List.contains_iff_mem.2 mem)
      simp only [Draft.ofEntries, Fit.entries, allowed, here, there, bind, Except.bind]
      rfl

/-- Entries that are those of a map up to order are fitted when each value is. -/
theorem exists_map {tags? : Option (List String)} (fitter : Draft → Except Misfit Tree)
    {entries : Entries}
    (tagged : ∀ tags, tags? = some tags → ∀ name ∈ entries.map Prod.fst, name ∈ tags)
    (each : ∀ name t, entries.lookup name = some t → ∀ t', t'.Rearranged t →
      ∃ u, fitter (.ofTree t') = .ok u ∧ u.Rearranged t)
    (distinct : (written.map Prod.fst).Nodup) (distinct' : (entries.map Prod.fst).Nodup)
    (lookup : ∀ name, Option.Rel Tree.Rearranged (written.lookup name) (entries.lookup name)) :
    ∃ done, Fit.entries tags? fitter (Draft.ofEntries written) = .ok done ∧
      (Tree.fields done).Rearranged (.fields entries) := by
  have allowed : ∀ tags, tags? = some tags → ∀ name ∈ written.map Prod.fst, name ∈ tags :=
    fun tags given name mem => tagged tags given name ((Entries.mem_names_congr lookup name).1 mem)
  have fitted : ∀ e ∈ written, ∃ u, fitter (.ofTree e.2) = .ok u ∧
      ∀ t, entries.lookup e.1 = some t → u.Rearranged t := by
    intro e mem
    obtain ⟨t, held, alike⟩ := Entries.exists_lookup lookup distinct mem
    obtain ⟨u, fits, related⟩ := each e.1 t held e.2 alike
    exact ⟨u, fits, fun _ held' => Option.some.inj (held.symm.trans held') ▸ related⟩
  obtain ⟨done, fits, matched⟩ := exists_entries
    (R := fun name u _ => ∀ t, entries.lookup name = some t → u.Rearranged t) fitter allowed fitted
  exact ⟨done, fits, .of_matched distinct distinct' lookup matched⟩

/-! ## Records -/

/-- A record all of whose fields are known and fit is fitted field by field. What was done before is
in `acc`, the last first. -/
theorem exists_named {slots : List (Slot (Draft → Except Misfit Tree))} (isLate : Bool)
    (acc : Entries) (distinct : (written.map Prod.fst).Nodup)
    (fresh : ∀ name ∈ acc.map Prod.fst, name ∉ written.map Prod.fst)
    (complete : ∀ slot ∈ slots, slot.isNeeded = true →
      slot.name ∈ acc.map Prod.fst ∨ slot.name ∈ written.map Prod.fst)
    (each : ∀ e ∈ written, ∃ slot u, slots.find? (fun slot => slot.name == e.1) = some slot ∧
      slot.content (.ofTree e.2) = .ok u ∧ R e.1 u e.2) :
    ∃ done, named isLate slots acc (Draft.ofEntries written) = .ok (.fields (acc.reverse ++ done)) ∧
      Matched R done written := by
  induction written generalizing acc with
  | nil =>
    have all : isComplete slots acc = true := by
      refine List.all_eq_true.2 fun slot mem => ?_
      cases needed : slot.isNeeded with
      | false => rfl
      | true =>
        obtain here | nowhere := complete slot mem needed
        · obtain ⟨e, mem, same⟩ := List.mem_map.1 here
          exact List.any_eq_true.2 ⟨e, mem, beq_iff_eq.2 same⟩
        · exact absurd nowhere List.not_mem_nil
    refine ⟨[], ?_, .nil⟩
    rw [Draft.ofEntries, named, if_pos all, List.append_nil]
  | cons e written ih =>
    obtain ⟨name, t⟩ := e
    obtain ⟨slot, u, found, fits, related⟩ := each (name, t) (List.mem_cons_self ..)
    have own : slot.name = name := by simpa using List.find?_some found
    rw [List.map_cons, List.nodup_cons] at distinct
    have new : (acc.any fun e => e.1 == slot.name) = false := by
      refine List.any_eq_false.2 fun e mem same => ?_
      refine fresh e.1 (List.mem_map.2 ⟨e, mem, rfl⟩) ?_
      rw [beq_iff_eq.1 same, own]
      exact List.mem_cons_self ..
    obtain ⟨done, rest, matched⟩ := ih ((slot.name, u) :: acc) distinct.2
      (by
        rw [List.map_cons, List.forall_mem_cons, own]
        exact ⟨distinct.1, fun other mem later => fresh other mem (List.mem_cons_of_mem _ later)⟩)
      (fun other mem needed => by
        obtain before | now := complete other mem needed
        · exact .inl (List.mem_cons_of_mem _ before)
        · rcases List.mem_cons.1 now with here | later
          · exact .inl (by rw [here, ← own]; exact List.mem_cons_self ..)
          · exact .inr later)
      (fun e mem => each e (List.mem_cons_of_mem _ mem))
    refine ⟨(name, u) :: done, ?_, .cons ⟨rfl, related⟩ matched⟩
    rw [Draft.ofEntries, named, slotAt]
    simp only [found, new, fits, bind, Except.bind, Bool.false_eq_true, if_false]
    rw [rest, List.reverse_cons, List.append_assoc, own]
    rfl

section Inside

variable (isLate : Bool) (room : Nat) (slots : List (Slot Shape))

theorem inside_slotFitters :
    inside isLate room (Shape.slotFitters slots) =
      slots.map fun slot => ⟨slot.name, slot.isNeeded, slot.content.fitter isLate room⟩ := by
  induction slots with
  | nil => rfl
  | cons slot slots ih =>
    rw [Shape.slotFitters, List.map_cons, ← ih]
    rfl

/-- The slot of a known name is found. -/
theorem exists_slot {name : String} (known : name ∈ slots.map Slot.name) :
    ∃ slot ∈ slots, slot.name = name ∧
      (inside isLate room (Shape.slotFitters slots)).find? (fun slot => slot.name == name) =
        some ⟨slot.name, slot.isNeeded, slot.content.fitter isLate room⟩ := by
  obtain ⟨own, mem, named⟩ := List.mem_map.1 known
  obtain ⟨slot, found⟩ : ∃ slot, slots.find? (fun slot => slot.name == name) = some slot :=
    Option.isSome_iff_exists.1 (List.find?_isSome.2 ⟨own, mem, beq_iff_eq.2 named⟩)
  have slotName : slot.name = name := by simpa using List.find?_some found
  refine ⟨slot, List.mem_of_find?_eq_some found, slotName, ?_⟩
  rw [inside_slotFitters, List.find?_map]
  exact congrArg (Option.map _) found

end Inside

/-- The fields of a record, in any order, are fitted when each of them is. -/
theorem exists_fields {slots : List (Slot Shape)} {entries : Entries} (isLate : Bool) (room : Nat)
    (known : ∀ name ∈ entries.map Prod.fst, name ∈ slots.map Slot.name)
    (needed : ∀ slot ∈ slots, slot.isNeeded = true → slot.name ∈ entries.map Prod.fst)
    (each : ∀ slot ∈ slots, ∀ t, entries.lookup slot.name = some t → ∀ t', t'.Rearranged t →
      ∃ u, slot.content.fitter isLate room (.ofTree t') = .ok u ∧ u.Rearranged t)
    (distinct : (written.map Prod.fst).Nodup) (distinct' : (entries.map Prod.fst).Nodup)
    (lookup : ∀ name, Option.Rel Tree.Rearranged (written.lookup name) (entries.lookup name)) :
    ∃ done, named isLate (inside isLate room (Shape.slotFitters slots)) []
        (Draft.ofEntries written) = .ok (.fields done) ∧
      (Tree.fields done).Rearranged (.fields entries) := by
  have complete : ∀ slot ∈ inside isLate room (Shape.slotFitters slots), slot.isNeeded = true →
      slot.name ∈ ([] : Entries).map Prod.fst ∨ slot.name ∈ written.map Prod.fst := by
    rw [inside_slotFitters]
    intro fitter among isNeeded
    obtain ⟨slot, mem, rfl⟩ := List.mem_map.1 among
    exact .inr ((Entries.mem_names_congr lookup slot.name).2 (needed slot mem isNeeded))
  have fitted : ∀ e ∈ written, ∃ slot u,
      (inside isLate room (Shape.slotFitters slots)).find? (fun slot => slot.name == e.1) =
        some slot ∧
      slot.content (.ofTree e.2) = .ok u ∧
      ∀ t, entries.lookup e.1 = some t → u.Rearranged t := by
    rintro ⟨name, t'⟩ mem
    obtain ⟨slot, mem', rfl, found⟩ := exists_slot isLate room slots
      (known name ((Entries.mem_names_congr lookup name).1 (List.mem_map.2 ⟨_, mem, rfl⟩)))
    obtain ⟨t, held, alike⟩ := Entries.exists_lookup lookup distinct mem
    obtain ⟨u, fits, related⟩ := each slot mem' t held t' alike
    exact ⟨_, u, found, fits, fun _ held' => Option.some.inj (held.symm.trans held') ▸ related⟩
  obtain ⟨done, fits, matched⟩ := exists_named
    (R := fun name u _ => ∀ t, entries.lookup name = some t → u.Rearranged t)
    isLate [] distinct (fun _ mem => absurd mem List.not_mem_nil) complete fitted
  exact ⟨done, fits, .of_matched distinct distinct' lookup matched⟩

/-! ## Cases -/

theorem valuesOf_ofEntries {name : String} {t : Tree} (distinct : (written.map Prod.fst).Nodup)
    (found : written.lookup name = some t) :
    valuesOf name (Draft.ofEntries written) = [.ofTree t] := by
  have others : ∀ rest : Entries, name ∉ rest.map Prod.fst →
      valuesOf name (Draft.ofEntries rest) = [] := by
    intro rest absent
    induction rest with
    | nil => rfl
    | cons e rest ih =>
      rw [List.map_cons, List.mem_cons, not_or] at absent
      rw [Draft.ofEntries, valuesOf, List.filterMap_cons]
      simp only [if_neg (Ne.symm absent.1)]
      exact ih absent.2
  induction written with
  | nil => exact nomatch found
  | cons e rest ih =>
    obtain ⟨key, value⟩ := e
    rw [List.map_cons, List.nodup_cons] at distinct
    rw [lookup_cons_ite] at found
    rw [Draft.ofEntries, valuesOf, List.filterMap_cons]
    split at found
    next here =>
      cases found
      subst here
      simp only [if_true]
      exact congrArg _ (others rest distinct.1)
    next elsewhere =>
      simp only [if_neg (Ne.symm elsewhere)]
      exact ih distinct.2 found

theorem map_fst_variantFitters (variants : List (String × Shape)) :
    (Shape.variantFitters variants).map Prod.fst = variants.map Prod.fst := by
  induction variants with
  | nil => rfl
  | cons variant variants ih => rw [Shape.variantFitters, List.map_cons, List.map_cons, ih]

theorem lookup_variantFitters (variants : List (String × Shape)) (tag : String) :
    (Shape.variantFitters variants).lookup tag = (variants.lookup tag).map Shape.fitter := by
  induction variants with
  | nil => rfl
  | cons variant variants ih =>
    obtain ⟨name, content⟩ := variant
    rw [Shape.variantFitters, lookup_cons_ite, lookup_cons_ite, ih]
    split <;> rfl

theorem tag_text {tags : List String} {s : String} (mem : s ∈ tags) (isLate : Bool) :
    Fit.tag isLate tags (.text s) = .ok s :=
  if_pos (List.contains_iff_mem.2 mem)

theorem mem_names_of_lookup {variants : List (String × Shape)} {tag : String} {content : Shape}
    (found : variants.lookup tag = some content) : tag ∈ variants.map Prod.fst := by
  obtain ⟨front, rest, split, -⟩ := List.lookup_eq_some_iff.1 found
  rw [split]
  simp

/-- What belongs to a tag decides whether a case of that tag is fitted. -/
theorem cases_ofEntries {nameField inputField tag : String} {variants : List (String × Shape)}
    {content : Shape} {input : Tree} (distinct : (written.map Prod.fst).Nodup)
    (hasName : written.lookup nameField = some (.text tag))
    (hasInput : written.lookup inputField = some input)
    (variant : variants.lookup tag = some content) (isLate : Bool) (room : Nat) :
    Fit.cases nameField inputField (Shape.variantFitters variants) isLate (room + 1)
        (.fields (Draft.ofEntries written)) =
      (fun t => Tree.fields [(nameField, .text tag), (inputField, t)]) <$>
        content.fitter (isLate || isBefore inputField nameField (Draft.ofEntries written)) room
          (.ofTree input) := by
  have mem : tag ∈ (Shape.variantFitters variants).map Prod.fst := by
    rw [map_fst_variantFitters]
    exact mem_names_of_lookup variant
  rw [Fit.cases, within, Draft.areWholeEntries_ofEntries, valuesOf_ofEntries distinct hasName,
    valuesOf_ofEntries distinct hasInput]
  simp only [Bool.not_true, Bool.false_eq_true, if_false]
  rw [ofTag, Draft.ofTree, tag_text mem]
  simp only [bind, Except.bind, lookup_variantFitters, variant, Option.map_some]
  rfl

/-- A case, with its two fields in any order, is fitted when what belongs to its tag is. -/
theorem exists_case {nameField inputField tag : String} {variants : List (String × Shape)}
    {content : Shape} {input : Tree} {room : Nat} (differ : inputField ≠ nameField)
    (variant : variants.lookup tag = some content)
    (each : ∀ (isLate : Bool) (t' : Tree), t'.Rearranged input →
      ∃ u, content.fitter isLate room (.ofTree t') = .ok u ∧ u.Rearranged input)
    {t' : Tree}
    (alike : t'.Rearranged (.fields [(nameField, .text tag), (inputField, input)]))
    (isLate : Bool) :
    ∃ u, Fit.cases nameField inputField (Shape.variantFitters variants) isLate (room + 1)
        (.ofTree t') = .ok u ∧
      u.Rearranged (.fields [(nameField, .text tag), (inputField, input)]) := by
  have distinct : ([(nameField, Tree.text tag), (inputField, input)].map Prod.fst).Nodup := by
    simpa using differ.symm
  have atName : [(nameField, Tree.text tag), (inputField, input)].lookup nameField =
      some (.text tag) := by
    rw [lookup_cons_ite, if_pos rfl]
  have atInput : [(nameField, Tree.text tag), (inputField, input)].lookup inputField =
      some input := by
    rw [lookup_cons_ite, if_neg differ, lookup_cons_ite, if_pos rfl]
  obtain ⟨written, rfl, distinct', lookup⟩ := alike.exists_fields distinct
  obtain ⟨name, hasName, asName⟩ := Entries.exists_written lookup atName
  obtain ⟨input', hasInput, asInput⟩ := Entries.exists_written lookup atInput
  cases asName
  obtain ⟨u, fitted, related⟩ := each
    (isLate || isBefore inputField nameField (Draft.ofEntries written)) input' asInput
  refine ⟨.fields [(nameField, .text tag), (inputField, u)], ?_, ?_⟩
  · rw [Draft.ofTree, cases_ofEntries distinct' hasName hasInput variant, fitted]
    rfl
  · have matched : Matched (fun _ => Tree.Rearranged) [(nameField, .text tag), (inputField, u)]
        [(nameField, .text tag), (inputField, input)] :=
      .cons ⟨rfl, .same _⟩ (.cons ⟨rfl, related⟩ .nil)
    exact .fields (matched.names_eq ▸ distinct) distinct matched.lookup_rel

end Fit

/-! ## All shapes -/

namespace Shape

open Fit

/-- What a shape admits is fitted where there is room for it, with its fields in any order. -/
theorem exists_fit {s : Shape} {t : Tree} (h : s.Admits t) {t' : Tree} (alike : t'.Rearranged t)
    (isLate : Bool) {room : Nat} (fits : s.nesting ≤ room) :
    ∃ u, s.fitter isLate room (.ofTree t') = .ok u ∧ u.Rearranged t := by
  -- Each collection takes one from the room, and what belongs to a tag may have been held back.
  induction h generalizing t' isLate room with
  | text | mark | markOr | orText =>
    cases alike
    exact ⟨_, rfl, .same _⟩
  | count least most =>
    cases alike
    exact ⟨_, if_pos ⟨least, most⟩, .same _⟩
  | choice mem =>
    cases alike
    refine ⟨_, ?_, .same _⟩
    change Tree.text <$> Fit.tag isLate _ (.text _) = _
    rw [tag_text mem]
    rfl
  | absent content =>
    cases alike
    exact ⟨_, rfl, .same _⟩
  | @present content t there held ih =>
    obtain ⟨u, fitted, related⟩ := ih alike isLate fits
    refine ⟨u, ?_, related⟩
    have some : t'.isNull = false := by rw [alike.isNull_eq, there]
    rw [← fitted, fitter]
    cases t' with
    | null => exact nomatch some
    | _ => rfl
  | @list item items each ih =>
    obtain ⟨written, rfl, pairs⟩ := alike.exists_list
    obtain ⟨room, rfl⟩ := Nat.exists_eq_add_one_of_ne_zero (Nat.ne_zero_of_lt fits)
    obtain ⟨us, done, related⟩ := exists_items (item.fitter isLate room) pairs
      fun t mem t' alike => ih t mem alike isLate (Nat.le_of_succ_le_succ fits)
    refine ⟨.list us, ?_, .list related⟩
    change Tree.list <$> Fit.items (item.fitter isLate room) (Draft.ofTrees written) = _
    rw [done]
    rfl
  | @map tags? value entries distinct tagged each ih =>
    obtain ⟨written, rfl, distinct', lookup⟩ := alike.exists_fields distinct
    obtain ⟨room, rfl⟩ := Nat.exists_eq_add_one_of_ne_zero (Nat.ne_zero_of_lt fits)
    obtain ⟨done, fitted, related⟩ := exists_map (value.fitter isLate room) tagged
      (fun name t held t' alike => ih name t held alike isLate (Nat.le_of_succ_le_succ fits))
      distinct' distinct lookup
    refine ⟨.fields done, ?_, related⟩
    change Tree.fields <$> Fit.entries _ (value.fitter isLate room) (Draft.ofEntries written) = _
    rw [fitted]
    rfl
  | @record slots entries distinct known needed each ih
  | @inputs slots entries distinct known needed each ih =>
    obtain ⟨written, rfl, distinct', lookup⟩ := alike.exists_fields distinct
    obtain ⟨room, rfl⟩ := Nat.exists_eq_add_one_of_ne_zero (Nat.ne_zero_of_lt fits)
    obtain ⟨done, fitted, related⟩ := Fit.exists_fields isLate room known needed
      (fun slot mem t found t' alike => ih slot mem t found alike isLate
        (Nat.le_trans (nesting_le_of_mem mem) (Nat.le_of_succ_le_succ fits)))
      distinct' distinct lookup
    exact ⟨_, fitted, related⟩
  | @cases nameField inputField tag variants content input differ variant held ih =>
    obtain ⟨room, rfl⟩ := Nat.exists_eq_add_one_of_ne_zero (Nat.ne_zero_of_lt fits)
    have inner : content.nesting ≤ room :=
      Nat.le_trans (nesting_le_of_lookup variant) (Nat.le_of_succ_le_succ fits)
    exact exists_case differ variant (fun isLate t' alike => ih alike isLate inner) alike isLate

end Shape

end GovernanceDesk

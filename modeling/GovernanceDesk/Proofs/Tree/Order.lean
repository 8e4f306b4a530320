import GovernanceDesk.Proofs.Tree.RoundTrip
import Mathlib.Data.List.Forall2
import Mathlib.Data.List.Nodup
import Mathlib.Data.Option.Basic

/-!
# Trees up to the order of their fields

A map of values that is passed on may have its fields in another order, by name for example. What a
reader makes of a tree does not depend on it.

* `Tree.Rearranged`: a tree and the same tree with fields in another order, wherever there are any.
* `OrderFree`: a type whose values are decoded the same from both.
* `Entries.need_congr`, `Entries.getOr_congr`, `Entries.optional_congr`: so are single fields.
-/

namespace GovernanceDesk
set_option autoImplicit false

/-! ## Look-ups -/

namespace Entries

variable {entries written : Entries} {name : String} {t : Tree}

theorem mem_of_lookup (h : entries.lookup name = some t) : (name, t) ∈ entries := by
  obtain ⟨front, rest, split, -⟩ := List.lookup_eq_some_iff.1 h
  rw [split]
  exact List.mem_append_right _ (List.mem_cons_self ..)

theorem mem_names_iff : name ∈ entries.map Prod.fst ↔ (entries.lookup name).isSome = true := by
  induction entries with
  | nil => simp
  | cons e entries ih =>
    obtain ⟨key, value⟩ := e
    rw [List.map_cons, List.mem_cons, ih, lookup_cons_ite]
    by_cases here : name = key
    · simp [here]
    · simp [here]

/-- Where no name comes twice, every entry is found under its name. -/
theorem lookup_of_mem (distinct : (entries.map Prod.fst).Nodup) (mem : (name, t) ∈ entries) :
    entries.lookup name = some t := by
  induction entries with
  | nil => exact absurd mem List.not_mem_nil
  | cons e entries ih =>
    obtain ⟨key, value⟩ := e
    rw [List.map_cons, List.nodup_cons] at distinct
    rw [lookup_cons_ite]
    rcases List.mem_cons.1 mem with here | there
    · cases here
      exact if_pos rfl
    · have other : name ≠ key := by
        rintro rfl
        exact distinct.1 (List.mem_map.2 ⟨_, there, rfl⟩)
      rw [if_neg other]
      exact ih distinct.2 there

section Related

variable {R : Tree → Tree → Prop}
  (related : ∀ name, Option.Rel R (written.lookup name) (entries.lookup name))

include related

theorem mem_names_congr (name : String) :
    name ∈ written.map Prod.fst ↔ name ∈ entries.map Prod.fst := by
  rw [mem_names_iff, mem_names_iff]
  have found := related name
  generalize written.lookup name = w at found
  generalize entries.lookup name = e at found
  cases found <;> exact Iff.rfl

theorem exists_lookup (distinct : (written.map Prod.fst).Nodup) (mem : (name, t) ∈ written) :
    ∃ u, entries.lookup name = some u ∧ R t u := by
  have found := related name
  rw [lookup_of_mem distinct mem] at found
  generalize entries.lookup name = e at found
  cases found with
  | @some _ u here => exact ⟨u, rfl, here⟩

theorem exists_written (found : entries.lookup name = some t) :
    ∃ t', written.lookup name = some t' ∧ R t' t := by
  have both := related name
  rw [found] at both
  generalize written.lookup name = w at both
  cases both with
  | @some t' _ here => exact ⟨t', rfl, here⟩

end Related

/-- Entries under the names of others, in their order, with values that are related to theirs. -/
abbrev Matched (R : String → Tree → Tree → Prop) (done written : Entries) : Prop :=
  List.Forall₂ (fun e' e : String × Tree => e'.1 = e.1 ∧ R e.1 e'.2 e.2) done written

namespace Matched

variable {R : String → Tree → Tree → Prop} {done : Entries}

theorem names_eq (h : Matched R done written) : done.map Prod.fst = written.map Prod.fst := by
  have same : List.Forall₂ (fun e' e : String × Tree => e'.1 = e.1) done written :=
    h.imp fun _ _ both => both.1
  rw [← List.forall₂_eq_eq_eq, List.forall₂_map_left_iff, List.forall₂_map_right_iff]
  exact same

theorem lookup_rel (h : Matched R done written) (name : String) :
    Option.Rel (R name) (done.lookup name) (written.lookup name) := by
  induction h with
  | nil => exact .none
  | @cons e' e done written here rest ih =>
    obtain ⟨key', value'⟩ := e'
    obtain ⟨key, value⟩ := e
    obtain ⟨rfl, related⟩ := here
    rw [lookup_cons_ite, lookup_cons_ite]
    split
    next same =>
      rw [same]
      exact .some related
    · exact ih

end Matched

end Entries

/-! ## Trees -/

/-- The first tree is the second with the fields of its records in any order. -/
inductive Tree.Rearranged : Tree → Tree → Prop where
  | same (t : Tree) : Rearranged t t
  | list {written items : List Tree} (each : List.Forall₂ Rearranged written items) :
    Rearranged (.list written) (.list items)
  | fields {written entries : Entries} (distinct : (written.map Prod.fst).Nodup)
      (distinct' : (entries.map Prod.fst).Nodup)
      (lookup : ∀ name, Option.Rel Rearranged (written.lookup name) (entries.lookup name)) :
    Rearranged (.fields written) (.fields entries)

/-- A type whose values are decoded the same whatever the order of fields. -/
class OrderFree (α : Type) [Coded α] : Prop where
  decode_eq : ∀ {t' t : Tree}, t'.Rearranged t → (decode t' : Option α) = decode t

namespace Tree.Rearranged

variable {t' t : Tree}

theorem text?_eq (h : t'.Rearranged t) : t'.text? = t.text? := by
  cases h <;> rfl

theorem bool?_eq (h : t'.Rearranged t) : t'.bool? = t.bool? := by
  cases h <;> rfl

theorem isNull_eq (h : t'.Rearranged t) : t'.isNull = t.isNull := by
  cases h <;> rfl

theorem exists_list {items : List Tree} (h : t'.Rearranged (.list items)) :
    ∃ written, t' = .list written ∧ List.Forall₂ Tree.Rearranged written items := by
  cases h with
  | same => exact ⟨items, rfl, List.forall₂_same.2 fun t _ => .same t⟩
  | list each => exact ⟨_, rfl, each⟩

theorem exists_fields {entries : Entries} (h : t'.Rearranged (.fields entries))
    (distinct : (entries.map Prod.fst).Nodup) :
    ∃ written : Entries, t' = .fields written ∧ (written.map Prod.fst).Nodup ∧
      ∀ name, Option.Rel Tree.Rearranged (written.lookup name) (entries.lookup name) := by
  cases h with
  | same =>
    refine ⟨entries, rfl, distinct, fun name => ?_⟩
    cases entries.lookup name with
    | none => exact .none
    | some t => exact .some (.same t)
  | fields distinct' _ lookup => exact ⟨_, rfl, distinct', lookup⟩

/-- Values that are those of a rearranged record up to order are values of the record. -/
theorem of_matched {entries written done : Entries} (distinct : (written.map Prod.fst).Nodup)
    (distinct' : (entries.map Prod.fst).Nodup)
    (lookup : ∀ name, Option.Rel Tree.Rearranged (written.lookup name) (entries.lookup name))
    (matched : Entries.Matched
      (fun name u _ => ∀ t, entries.lookup name = some t → u.Rearranged t) done written) :
    (Tree.fields done).Rearranged (.fields entries) := by
  refine .fields (matched.names_eq ▸ distinct) distinct' fun name => ?_
  have fitted := matched.lookup_rel name
  have found := lookup name
  generalize done.lookup name = d at fitted
  generalize written.lookup name = w at fitted found
  cases fitted with
  | none =>
    generalize entries.lookup name = e at found
    cases found
    exact .none
  | some related =>
    generalize held : entries.lookup name = e at found
    cases found
    exact .some (related _ held)

/-- What is read off the entries is the same if it is so for the same entries in another order. -/
theorem fields?_bind_eq {α : Type} (h : t'.Rearranged t) {f : Entries → Option α}
    (each : ∀ {written entries : Entries},
      (∀ name, Option.Rel Rearranged (written.lookup name) (entries.lookup name)) →
        f written = f entries) : t'.fields?.bind f = t.fields?.bind f := by
  cases h with
  | fields _ _ lookup => exact each lookup
  | _ => rfl

end Tree.Rearranged

/-! ## Fields -/

namespace Entries

variable {α : Type} [Coded α] [OrderFree α] {written entries : Entries}

/-- What is made of a field depends on its value up to order only. -/
theorem congr_of_rel {β : Type} {found' found : Option Tree}
    (h : Option.Rel Tree.Rearranged found' found) {f : Option Tree → β}
    (each : ∀ {t' t : Tree}, t'.Rearranged t → f (some t') = f (some t)) : f found' = f found := by
  cases h with
  | some alike => exact each alike
  | none => rfl

theorem need_congr
    (h : ∀ name, Option.Rel Tree.Rearranged (written.lookup name) (entries.lookup name))
    (name : String) : need (α := α) written name = need entries name :=
  congr_of_rel (f := fun found => found.bind decode) (h name) OrderFree.decode_eq

theorem getOr_congr
    (h : ∀ name, Option.Rel Tree.Rearranged (written.lookup name) (entries.lookup name))
    (name : String) (default : α) : getOr written name default = getOr entries name default := by
  rw [getOr_eq, getOr_eq]
  exact congr_of_rel (f := fun found => found.elim (some default) decode) (h name)
    OrderFree.decode_eq

theorem optional_congr
    (h : ∀ name, Option.Rel Tree.Rearranged (written.lookup name) (entries.lookup name))
    (name : String) : optional (α := α) written name = optional entries name := by
  rw [optional_eq, optional_eq]
  refine congr_of_rel (f := read?) (h name) fun alike => ?_
  rw [read?, read?, alike.isNull_eq, OrderFree.decode_eq alike]

end Entries

end GovernanceDesk

import GovernanceDesk.Calendar.Instant
import Mathlib.Data.List.Perm.Basic
import Mathlib.Data.Prod.Lex

/-!
# Sorted lists

Whatever is listed is sorted by a key in a linear order: a moment, a number, a source with a moment.
A stable sort keeps elements of one key in the order in which they came, and where no two have the same
key the order in which they came leaves no trace.

* `Date.key`, `Instant.key`: the parts of a date and of a moment, the weightiest first.
* `pairwise_mergeSort_of_key`, `filter_mergeSort_of_key`: what is sorted, and what keeps its order.
* `mergeSort_eq_of_perm`: one result from any order.
* `flatMap_filter_perm`: a list taken apart by one of its features loses nothing.
-/

namespace GovernanceDesk
set_option autoImplicit false

/-! ## Keys of time -/

/-- Dates compare by year, then by month, then by day. -/
def Date.key (d : Date) : ℤ ×ₗ ℕ ×ₗ ℕ := toLex (d.year, toLex (d.month, d.day))

theorem Date.before_iff {a b : Date} : a.before b = true ↔ a.key < b.key := by
  simp [Date.before, Date.key, Prod.Lex.toLex_lt_toLex]

theorem Date.key_injective : Function.Injective Date.key := by
  rintro ⟨year, month, day, isDay⟩ ⟨year', month', day', isDay'⟩ same
  simpa [Date.key] using same

/-- Moments compare by date, then by the second of the day, then by the fraction. -/
def Instant.key (t : Instant) : (ℤ ×ₗ ℕ ×ₗ ℕ) ×ₗ ℕ ×ₗ ℕ :=
  toLex (t.date.key, toLex (t.second, t.nano))

theorem Instant.before_iff {a b : Instant} : a.before b = true ↔ a.key < b.key := by
  have earlier : a.date < b.date ↔ a.date.key < b.date.key := Date.before_iff
  simp [Instant.before, Instant.key, Prod.Lex.toLex_lt_toLex, earlier, Date.key_injective.eq_iff]

theorem Instant.before_eq_false_iff {a b : Instant} : a.before b = false ↔ b.key ≤ a.key := by
  rw [← Bool.not_eq_true, Instant.before_iff, not_lt]

theorem Instant.key_injective : Function.Injective Instant.key := by
  rintro ⟨date, second, nano, isTime⟩ ⟨date', second', nano', isTime'⟩ same
  simpa [Instant.key, Date.key_injective.eq_iff] using same

/-! ## Sorting by a key -/

section
variable {α κ : Type} [LinearOrder κ] {le : α → α → Bool} {key : α → κ} {xs ys : List α}

theorem trans_of_key (byKey : ∀ a b, le a b = true ↔ key a ≤ key b) (a b c : α)
    (first : le a b = true) (second : le b c = true) : le a c = true :=
  (byKey a c).2 (((byKey a b).1 first).trans ((byKey b c).1 second))

theorem total_of_key (byKey : ∀ a b, le a b = true ↔ key a ≤ key b) (a b : α) :
    (le a b || le b a) = true := by
  rw [Bool.or_eq_true, byKey, byKey]
  exact le_total (key a) (key b)

theorem pairwise_mergeSort_of_key (byKey : ∀ a b, le a b = true ↔ key a ≤ key b) (xs : List α) :
    (xs.mergeSort le).Pairwise fun a b => key a ≤ key b := by
  have sorted := List.pairwise_mergeSort (trans_of_key byKey) (total_of_key byKey) xs
  exact sorted.imp fun le => (byKey _ _).1 le

/-- Elements of one key stay in the order in which they came. -/
theorem filter_mergeSort_of_key (byKey : ∀ a b, le a b = true ↔ key a ≤ key b) (xs : List α)
    (k : κ) : (xs.mergeSort le).filter (fun a => key a = k) = xs.filter fun a => key a = k := by
  have alike : (xs.filter fun a => key a = k).Pairwise fun a b => le a b = true := by
    refine List.pairwise_of_forall_mem_list fun a memA b memB => ?_
    have keyA := of_decide_eq_true (List.mem_filter.1 memA).2
    have keyB := of_decide_eq_true (List.mem_filter.1 memB).2
    rw [byKey, keyA, keyB]
  have within : (xs.filter fun a => key a = k).Sublist (xs.mergeSort le) :=
    List.sublist_mergeSort (trans_of_key byKey) (total_of_key byKey) alike List.filter_sublist
  have kept := within.filter fun a => key a = k
  rw [List.filter_filter] at kept
  simp only [Bool.and_self] at kept
  exact (kept.eq_of_length ((List.mergeSort_perm xs le).filter _).length_eq.symm).symm

/-- Where no two elements have the same key, the order in which they came does not matter. -/
theorem mergeSort_eq_of_perm (byKey : ∀ a b, le a b = true ↔ key a ≤ key b) (perm : xs.Perm ys)
    (apart : ∀ a ∈ xs, ∀ b ∈ xs, key a = key b → a = b) : xs.mergeSort le = ys.mergeSort le := by
  have both : (xs.mergeSort le).Perm (ys.mergeSort le) :=
    (List.mergeSort_perm xs le).trans (perm.trans (List.mergeSort_perm ys le).symm)
  refine both.eq_of_pairwise (fun a b memA memB before after => ?_)
    (pairwise_mergeSort_of_key byKey xs) (pairwise_mergeSort_of_key byKey ys)
  exact apart a (List.mem_mergeSort.1 memA) b (perm.mem_iff.2 (List.mem_mergeSort.1 memB))
    (le_antisymm before after)

end

/-! ## Taking apart -/

/-- The parts of a list by one feature, one after another, are the elements whose feature is asked
for. -/
theorem flatMap_filter_perm {α κ : Type} [DecidableEq κ] (feature : α → κ) {ks : List κ}
    (distinct : ks.Nodup) (xs : List α) :
    (ks.flatMap fun k => xs.filter fun a => feature a = k).Perm
      (xs.filter fun a => feature a ∈ ks) := by
  induction ks with
  | nil => simp
  | cons k ks ih =>
    obtain ⟨new, distinct⟩ := List.nodup_cons.1 distinct
    have own : (xs.filter fun a => feature a ∈ k :: ks).filter (fun a => feature a = k) =
        xs.filter fun a => feature a = k := by
      rw [List.filter_filter]
      refine List.filter_congr fun a _ => ?_
      by_cases here : feature a = k <;> simp [here]
    have others : (xs.filter fun a => feature a ∈ k :: ks).filter (fun a => !decide (feature a = k)) =
        xs.filter fun a => feature a ∈ ks := by
      rw [List.filter_filter]
      refine List.filter_congr fun a _ => ?_
      by_cases here : feature a = k
      · simp [here, new]
      · simp [here]
    have parts := List.filter_append_perm (fun a => decide (feature a = k))
      (xs.filter fun a => feature a ∈ k :: ks)
    rw [own, others] at parts
    rw [List.flatMap_cons]
    exact ((ih distinct).append_left _).trans parts

end GovernanceDesk

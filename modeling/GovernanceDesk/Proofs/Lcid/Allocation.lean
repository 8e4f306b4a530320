import GovernanceDesk.Proofs.Lcid.Numbers
import Mathlib.Data.Finset.Card
import Mathlib.Data.Nat.Find
import Mathlib.Order.Bounds.Defs
import Mathlib.Tactic.ByContra

/-!
# The allocated number is the first that is free

A search for a free number has no bound of its own: it goes on while the number it looks at is
taken. But the issues of one day have different numbers, so among one more of them than there are
numbers taken one is free, and the search ends at the first of these.

* `Lcid.Search`: how a search goes, number by number.
* `Lcid.exists_search`: it ends, after one look more than there are numbers taken at the latest.
* `Lcid.Search.allocate_eq`: the number allocated is the one at which it ends.
-/

namespace GovernanceDesk
set_option autoImplicit false

namespace Lcid

/-! ## The search -/

section
variable {date : Date} {taken : List String} {first looks last : Nat}

/-- The search from one issue of a day on: it looks at one number after another while they are taken,
and ends at the issue `last`, the first whose number is free. -/
inductive Search (date : Date) (taken : List String) : Nat → Nat → Nat → Prop where
  | found {first : Nat} (free : number date first ∉ taken) : Search date taken first 1 first
  | goOn {first looks last : Nat} (used : number date first ∈ taken)
    (rest : Search date taken (first + 1) looks last) : Search date taken first (looks + 1) last

namespace Search

theorem not_mem (h : Search date taken first looks last) : number date last ∉ taken := by
  induction h with
  | found free => exact free
  | goOn _ _ ih => exact ih

theorem looks_pos (h : Search date taken first looks last) : 0 < looks := by
  cases h with
  | found _ => exact Nat.one_pos
  | goOn _ _ => exact Nat.succ_pos _

/-- The search passes over taken numbers only. -/
theorem mem_of_lt (h : Search date taken first looks last) {k : Nat} (after : first ≤ k)
    (before : k < last) : number date k ∈ taken := by
  induction h with
  | found _ => omega
  | @goOn first _ _ used _ ih =>
    by_cases here : k = first
    · rw [here]
      exact used
    · exact ih (by omega) before

/-- A search that is cut off after enough tries has ended by itself. -/
theorem firstFree_eq (h : Search date taken first looks last) {tries : Nat}
    (enough : looks ≤ tries + 1) : firstFree date taken tries first = number date last := by
  induction h generalizing tries with
  | found free =>
    cases tries with
    | zero => rfl
    | succ tries => rw [firstFree, if_neg (by simpa using free)]
  | goOn used rest ih =>
    cases tries with
    | zero =>
      have looked := rest.looks_pos
      exact absurd enough (by omega)
    | succ tries =>
      rw [firstFree, if_pos (by simpa using used)]
      exact ih (by omega)

end Search

theorem search_of_first_free {steps : Nat} (used : ∀ k < steps, number date (first + k) ∈ taken)
    (free : number date (first + steps) ∉ taken) :
    Search date taken first (steps + 1) (first + steps) := by
  induction steps generalizing first with
  | zero => exact .found free
  | succ steps ih =>
    have shift (k : Nat) : first + (k + 1) = first + 1 + k := by omega
    rw [shift] at free ⊢
    refine .goOn (used 0 (by omega)) (ih (fun k bound => ?_) free)
    rw [← shift]
    exact used (k + 1) (by omega)

/-- Of one more numbers than there are distinct ones taken, one is free. -/
theorem exists_free (date : Date) (taken : List String) :
    ∃ n ≤ taken.toFinset.card, number date n ∉ taken := by
  have more : taken.toFinset.card <
      ((Finset.range (taken.toFinset.card + 1)).image (number date)).card := by
    rw [Finset.card_image_of_injective _ (number_injective date), Finset.card_range]
    exact Nat.lt_succ_self _
  obtain ⟨candidate, tried, free⟩ := Finset.exists_mem_notMem_of_card_lt_card more
  obtain ⟨n, bound, rfl⟩ := Finset.mem_image.1 tried
  exact ⟨n, Nat.le_of_lt_succ (Finset.mem_range.1 bound), fun mem => free (List.mem_toFinset.2 mem)⟩

theorem exists_search (date : Date) (taken : List String) :
    ∃ n, Search date taken 0 (n + 1) n ∧ n ≤ taken.toFinset.card := by
  obtain ⟨m, bound, free⟩ := exists_free date taken
  have some : ∃ n, number date n ∉ taken := ⟨m, free⟩
  have least : Search date taken 0 (Nat.find some + 1) (0 + Nat.find some) := by
    refine search_of_first_free (fun k before => ?_) ?_
    · rw [Nat.zero_add]
      exact not_not.1 (Nat.find_min some before)
    · rw [Nat.zero_add]
      exact Nat.find_spec some
  rw [Nat.zero_add] at least
  exact ⟨Nat.find some, least, (Nat.find_min' some free).trans bound⟩

end

/-! ## Allocation -/

theorem Search.isLeast {date : Date} {taken : List String} {n : Nat}
    (h : Search date taken 0 (n + 1) n) : IsLeast {k | number date k ∉ taken} n := by
  refine ⟨h.not_mem, fun k free => ?_⟩
  by_contra before
  exact free (h.mem_of_lt (Nat.zero_le k) (Nat.lt_of_not_le before))

/-- The bound on the tries, the length of the list of taken numbers, is never what ends the search. -/
theorem Search.allocate_eq {date : Date} {taken : List String} {n : Nat}
    (h : Search date taken 0 (n + 1) n) (bound : n ≤ taken.toFinset.card) :
    allocate date taken = number date n :=
  h.firstFree_eq (Nat.succ_le_succ (bound.trans taken.toFinset_card_le))

theorem allocate_not_mem (date : Date) (taken : List String) : allocate date taken ∉ taken := by
  obtain ⟨n, search, bound⟩ := exists_search date taken
  rw [search.allocate_eq bound]
  exact search.not_mem

example : allocate ⟨2026, 10, 16, by decide⟩ ["26289A", "26289C"] = "26289B" := by decide +kernel

end Lcid

end GovernanceDesk

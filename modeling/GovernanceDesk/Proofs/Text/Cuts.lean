import Mathlib.Data.List.DropRight

/-!
# Texts cut in two

A text is cut where a kind of characters ends, or at the first or the last place of a sign. What was
put together around the place of the cut is what the cut leaves.

* `Text.takeWhile_append_cons`, `Text.dropWhile_append_cons`: where a kind of characters ends.
* `Text.cut_at_first`, `Text.cut_at_last`: at a sign.
* `Text.exists_last_of_mem`: a sign that is there has a last place.
-/

namespace GovernanceDesk.Text
set_option autoImplicit false

variable {cs front rest : List Char} {kind : Char → Bool} {c : Char}

theorem reverse_append_cons (front rest : List Char) (c : Char) :
    (front ++ c :: rest).reverse = rest.reverse ++ c :: front.reverse := by
  rw [List.reverse_append, List.reverse_cons, List.append_assoc, List.singleton_append]

/-! ## Where a kind of characters ends -/

theorem eq_of_dropWhile (h : cs.dropWhile kind = c :: rest) :
    cs = cs.takeWhile kind ++ c :: rest := by
  rw [← h, List.takeWhile_append_dropWhile]

theorem takeWhile_append_cons (all : ∀ x ∈ front, kind x = true) (other : kind c = false) :
    (front ++ c :: rest).takeWhile kind = front := by
  rw [List.takeWhile_append_of_pos all, List.takeWhile_cons, other]
  exact List.append_nil front

theorem dropWhile_append_cons (all : ∀ x ∈ front, kind x = true) (other : kind c = false) :
    (front ++ c :: rest).dropWhile kind = c :: rest := by
  rw [List.dropWhile_append_of_pos all, List.dropWhile_cons, other]
  rfl

/-! ## At a sign -/

theorem forall_mem_bne (fresh : c ∉ cs) : ∀ x ∈ cs, (x != c) = true := fun _ mem =>
  bne_iff_ne.2 fun same => fresh (same ▸ mem)

theorem cut_at_first (fresh : c ∉ front) (rest : List Char) :
    (front ++ c :: rest).takeWhile (· != c) = front ∧
      (front ++ c :: rest).dropWhile (· != c) = c :: rest :=
  ⟨takeWhile_append_cons (forall_mem_bne fresh) (bne_self_eq_false c),
    dropWhile_append_cons (forall_mem_bne fresh) (bne_self_eq_false c)⟩

theorem cut_at_last (front : List Char) (fresh : c ∉ rest) :
    (front ++ c :: rest).rtakeWhile (· != c) = rest ∧
      (front ++ c :: rest).rdropWhile (· != c) = front ++ [c] := by
  obtain ⟨before, behind⟩ := cut_at_first (mt List.mem_reverse.1 fresh) front.reverse
  rw [List.rtakeWhile, List.rdropWhile, reverse_append_cons, before, behind, List.reverse_reverse,
    List.reverse_cons, List.reverse_reverse]
  exact ⟨rfl, rfl⟩

theorem exists_last_of_mem (mem : c ∈ cs) : ∃ front rest, cs = front ++ c :: rest ∧ c ∉ rest := by
  obtain ⟨backwards, forwards, whole, fresh⟩ := List.eq_append_cons_of_mem (List.mem_reverse.2 mem)
  refine ⟨forwards.reverse, backwards.reverse, ?_, mt List.mem_reverse.1 fresh⟩
  rw [← List.reverse_reverse cs, whole, reverse_append_cons]

end GovernanceDesk.Text

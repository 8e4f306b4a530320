import GovernanceDesk.Calendar.DateText
import Mathlib.Algebra.Group.Nat.Defs

/-!
# Numbers read back

What `padded` writes is read back by `takeNat?`, with whatever stands behind it left over. A reader
that takes at most so many digits stops at the written ones when there are just as many, or when no
digit follows. A text that is read as a number from end to end is that number as it is written, with
zeros in front.
-/

namespace GovernanceDesk.Text
set_option autoImplicit false

/-! ## Digits -/

theorem isDecimalDigit_eq_isDigit (c : Char) : isDecimalDigit c = c.isDigit := by
  simp only [isDecimalDigit, Char.isDigit, Char.le_def, ge_iff_le]

theorem isDecimalDigit_of_mem_digits {n : Nat} {c : Char} (h : c ∈ digits n) :
    isDecimalDigit c = true := by
  rw [isDecimalDigit_eq_isDigit]
  exact Nat.isDigit_of_mem_toDigits (by decide) (by decide) h

theorem isDecimalDigit_of_mem_padded {width n : Nat} {c : Char} (h : c ∈ padded width n) :
    isDecimalDigit c = true := by
  rcases List.mem_append.mp h with h | h
  · rw [List.eq_of_mem_replicate h]
    decide
  · exact isDecimalDigit_of_mem_digits h

theorem toNat_of_isDecimalDigit {c : Char} (h : isDecimalDigit c = true) :
    48 ≤ c.toNat ∧ c.toNat ≤ 57 := by
  rw [isDecimalDigit_eq_isDigit, Char.isDigit_iff_toNat] at h
  exact h

/-- Between the space and the last of the seven-bit characters nothing is blank. -/
theorem isBlank_of_printable {c : Char} (low : 0x21 ≤ c.toNat) (high : c.toNat ≤ 0x7E) :
    isBlank c = false := by
  simp only [isBlank, blankRanges, List.any_cons, List.any_nil, Bool.or_false, Bool.or_eq_false_iff,
    Bool.and_eq_false_iff, decide_eq_false_iff_not]
  omega

theorem isBlank_of_isDecimalDigit {c : Char} (h : isDecimalDigit c = true) : isBlank c = false := by
  have hc := toNat_of_isDecimalDigit h
  exact isBlank_of_printable (by omega) (by omega)

theorem padded_ne_nil (width n : Nat) : padded width n ≠ [] := by
  intro h
  exact Nat.toDigits_ne_nil (List.append_eq_nil_iff.mp h).2

theorem length_padded {width n : Nat} (hw : 0 < width) (h : n < 10 ^ width) :
    (padded width n).length = width := by
  have hl : (digits n).length ≤ width := (Nat.length_toDigits_le_iff (by decide) hw).mpr h
  rw [padded, List.length_append, List.length_replicate]
  omega

theorem valueOf_eq_ofDigitChars (ds : List Char) : valueOf ds = Nat.ofDigitChars 10 ds 0 :=
  Nat.ofDigitChars_eq_foldl.symm

theorem valueOf_replicate_zero (k : Nat) (ds : List Char) :
    valueOf (List.replicate k '0' ++ ds) = valueOf ds := by
  induction k with
  | zero => rfl
  | succ k ih =>
    rw [List.replicate_succ, List.cons_append]
    exact ih

@[simp] theorem valueOf_digits (n : Nat) : valueOf (digits n) = n := by
  rw [valueOf_eq_ofDigitChars]
  exact Nat.ofDigitChars_ten_toDigits

theorem digits_injective {m n : Nat} (h : digits m = digits n) : m = n := by
  rw [← valueOf_digits m, h, valueOf_digits]

@[simp] theorem valueOf_padded (width n : Nat) : valueOf (padded width n) = n := by
  rw [padded, valueOf_replicate_zero, valueOf_digits]

/-! ## Taking them off the front -/

theorem trimStart_of_head {c : Char} {cs : List Char} (h : isBlank c = false) :
    trimStart (c :: cs) = c :: cs := by
  rw [trimStart, List.dropWhile_cons, h]
  rfl

/-- Where nothing is blank nothing is trimmed. -/
theorem trimChars_of_forall {cs : List Char} (h : ∀ c ∈ cs, isBlank c = false) :
    trimChars cs = cs := by
  have start : ∀ cs : List Char, (∀ c ∈ cs, isBlank c = false) → trimStart cs = cs := by
    intro cs visible
    cases cs with
    | nil => rfl
    | cons c cs => exact trimStart_of_head (visible c (List.mem_cons_self ..))
  rw [trimChars, start cs h, trimEnd, start cs.reverse fun c mem => h c (List.mem_reverse.1 mem),
    List.reverse_reverse]

theorem trimStart_padded (width n : Nat) (rest : List Char) :
    trimStart (padded width n ++ rest) = padded width n ++ rest := by
  obtain ⟨c, cs, hc⟩ := List.exists_cons_of_ne_nil (padded_ne_nil width n)
  have mem : c ∈ padded width n := by
    rw [hc]
    exact List.mem_cons_self ..
  have hd : isDecimalDigit c = true := isDecimalDigit_of_mem_padded mem
  rw [hc, List.cons_append]
  exact trimStart_of_head (isBlank_of_isDecimalDigit hd)

theorem takeDigits_append {most : Nat} {ds rest : List Char}
    (hd : ∀ c ∈ ds, isDecimalDigit c = true) (hl : ds.length ≤ most)
    (stop : ds.length = most ∨ ∀ c ∈ rest.head?, isDecimalDigit c = false) :
    takeDigits most (ds ++ rest) = (ds, rest) := by
  induction ds generalizing most with
  | nil =>
    cases most with
    | zero => rfl
    | succ most =>
      cases rest with
      | nil => rfl
      | cons c rest =>
        have hc : isDecimalDigit c = false := (stop.resolve_left (by simp)) c (by simp)
        simp [takeDigits, hc]
  | cons d ds ih =>
    obtain ⟨most, rfl⟩ : ∃ k, most = k + 1 := ⟨most - 1, by simp at hl; omega⟩
    have step := ih (fun c hc => hd c (List.mem_cons_of_mem d hc)) (by simpa using hl)
      (stop.imp_left (by simp))
    rw [List.cons_append, takeDigits, hd d (List.mem_cons_self ..), step]
    rfl

theorem takeNat?_append {most : Nat} {ds rest : List Char} (hne : ds ≠ [])
    (hd : ∀ c ∈ ds, isDecimalDigit c = true) (hl : ds.length ≤ most)
    (stop : ds.length = most ∨ ∀ c ∈ rest.head?, isDecimalDigit c = false) :
    takeNat? most (ds ++ rest) = some (valueOf ds, rest) := by
  obtain ⟨d, ds, rfl⟩ := List.exists_cons_of_ne_nil hne
  rw [takeNat?, takeDigits_append hd hl stop]

theorem takeNat?_padded {width n : Nat} (hw : 0 < width) (h : n < 10 ^ width) (rest : List Char) :
    takeNat? width (padded width n ++ rest) = some (n, rest) := by
  have hl := length_padded hw h
  rw [takeNat?_append (padded_ne_nil width n) (fun c hc => isDecimalDigit_of_mem_padded hc)
    (Nat.le_of_eq hl) (.inl hl), valueOf_padded]

theorem takeLongNat?_padded (width n : Nat) {rest : List Char}
    (stop : ∀ c ∈ rest.head?, isDecimalDigit c = false) :
    takeLongNat? (padded width n ++ rest) = some (n, rest) := by
  rw [takeLongNat?, takeNat?_append (padded_ne_nil width n)
    (fun c hc => isDecimalDigit_of_mem_padded hc) (by simp) (.inr stop), valueOf_padded]

/-! ## Whole texts -/

theorem takeDigits_parts {most : Nat} {cs ds rest : List Char}
    (h : takeDigits most cs = (ds, rest)) :
    cs = ds ++ rest ∧ ∀ c ∈ ds, isDecimalDigit c = true := by
  induction most generalizing cs ds with
  | zero =>
    cases h
    exact ⟨rfl, nofun⟩
  | succ most ih =>
    cases cs with
    | nil =>
      cases h
      exact ⟨rfl, nofun⟩
    | cons c cs =>
      rw [takeDigits] at h
      split at h
      next decimal =>
        cases h
        obtain ⟨parts, all⟩ := ih rfl
        exact ⟨congrArg (c :: ·) parts, List.forall_mem_cons.2 ⟨decimal, all⟩⟩
      next =>
        cases h
        exact ⟨rfl, nofun⟩

theorem length_takeDigits_le (most : Nat) (cs : List Char) : (takeDigits most cs).1.length ≤ most := by
  induction most generalizing cs with
  | zero => exact Nat.le_refl 0
  | succ most ih =>
    cases cs with
    | nil => exact Nat.zero_le _
    | cons c cs =>
      rw [takeDigits]
      split
      · exact Nat.succ_le_succ (ih cs)
      · exact Nat.zero_le _

/-- The digits that a number at the front of a text was read from. -/
theorem takeNat?_parts {most n : Nat} {cs rest : List Char} (h : takeNat? most cs = some (n, rest)) :
    ∃ c ds, cs = c :: ds ++ rest ∧ (∀ x ∈ c :: ds, isDecimalDigit x = true) ∧
      (c :: ds).length ≤ most ∧ valueOf (c :: ds) = n := by
  rw [takeNat?] at h
  have few := length_takeDigits_le most cs
  cases taken : takeDigits most cs with
  | mk ds rest' =>
    rw [taken] at h few
    cases ds with
    | nil => exact nomatch h
    | cons c ds =>
      obtain ⟨parts, decimal⟩ := takeDigits_parts taken
      cases h
      exact ⟨c, ds, parts, decimal, few, rfl⟩

/-- A text is read as a number when it is made of digits, of one at least. -/
theorem readNat?_eq_some_iff {cs : List Char} {n : Nat} :
    readNat? cs = some n ↔
      cs ≠ [] ∧ (∀ c ∈ cs, isDecimalDigit c = true) ∧ valueOf cs = n := by
  constructor
  · intro read
    rw [readNat?, takeLongNat?, takeNat?] at read
    cases taken : takeDigits cs.length cs with
    | mk ds rest =>
      obtain ⟨parts, decimal⟩ := takeDigits_parts taken
      rw [taken] at read
      cases ds with
      | nil => exact nomatch read
      | cons d ds =>
        cases rest with
        | cons => exact nomatch read
        | nil =>
          rw [List.append_nil] at parts
          rw [parts]
          exact ⟨List.cons_ne_nil d ds, decimal, Option.some.inj read⟩
  · rintro ⟨nonempty, decimal, rfl⟩
    have taken : takeNat? cs.length (cs ++ []) = some (valueOf cs, []) :=
      takeNat?_append nonempty decimal (Nat.le_refl _) (.inl rfl)
    rw [List.append_nil] at taken
    rw [readNat?, takeLongNat?, taken]

theorem digits_digitValue {c : Char} (decimal : isDecimalDigit c = true) :
    digits (digitValue c) = [c] ∧ digitValue c < 10 := by
  have range := toNat_of_isDecimalDigit decimal
  have value : digitValue c = c.toNat - 48 := rfl
  have small : digitValue c < 10 := by omega
  have same : (digitValue c).digitChar = c := by
    rw [← Char.toNat_inj, Nat.toNat_digitChar_of_lt_ten small]
    omega
  rw [digits, Nat.toDigits_of_lt_base small, same]
  exact ⟨rfl, small⟩

/-- Digits behind those of a number that is not zero are the next digits of a larger one. -/
theorem digits_append {n : Nat} (pos : 0 < n) {cs : List Char}
    (decimal : ∀ c ∈ cs, isDecimalDigit c = true) :
    digits n ++ cs = digits (cs.foldl (fun n c => 10 * n + digitValue c) n) := by
  induction cs generalizing n with
  | nil => exact List.append_nil _
  | cons c cs ih =>
    obtain ⟨first, rest⟩ := List.forall_mem_cons.1 decimal
    obtain ⟨single, small⟩ := digits_digitValue first
    have next : digits n ++ digits (digitValue c) = digits (10 * n + digitValue c) :=
      Nat.toDigits_append_toDigits (by decide) pos small
    rw [single] at next
    rw [List.foldl_cons, ← ih (by omega) rest, ← next, List.append_assoc, List.singleton_append]

/-- Every text of digits is a number as it is written, with zeros in front. -/
theorem exists_zeros_digits {ds : List Char} (nonempty : ds ≠ [])
    (decimal : ∀ c ∈ ds, isDecimalDigit c = true) :
    ∃ zeros, ds = List.replicate zeros '0' ++ digits (valueOf ds) := by
  induction ds with
  | nil => exact absurd rfl nonempty
  | cons c cs ih =>
    obtain ⟨first, rest⟩ := List.forall_mem_cons.1 decimal
    obtain ⟨single, small⟩ := digits_digitValue first
    by_cases zero : digitValue c = 0
    · have same : c = '0' := by
        rw [zero] at single
        exact (List.singleton_inj.1 single).symm
      by_cases last : cs = []
      · subst same last
        exact ⟨0, rfl⟩
      · obtain ⟨zeros, written⟩ := ih last rest
        have value : valueOf (c :: cs) = valueOf cs := by
          rw [same]
          exact valueOf_replicate_zero 1 cs
        refine ⟨zeros + 1, ?_⟩
        rw [value, List.replicate_succ, List.cons_append, ← written, same]
    · have written := digits_append (Nat.pos_of_ne_zero zero) rest
      have value : valueOf (c :: cs) =
          cs.foldl (fun n c => 10 * n + digitValue c) (digitValue c) := by
        rw [valueOf, List.foldl_cons, Nat.mul_zero, Nat.zero_add]
      refine ⟨0, ?_⟩
      rw [value, ← written, single]
      rfl

theorem spacedNat_padded {n : Nat} (h : n < 100) (rest : List Char) :
    spacedNat 2 (padded 2 n ++ rest) = some (n, rest) := by
  rw [spacedNat, trimStart_padded]
  exact takeNat?_padded (by decide) h rest

end GovernanceDesk.Text

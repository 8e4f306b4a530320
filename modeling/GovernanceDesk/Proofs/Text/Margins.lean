import GovernanceDesk.Proofs.Text.Numbers
import GovernanceDesk.Proofs.Text.Trimming

/-!
# Letter case and margins

Blanks have no case. Two texts that agree up to case once they are trimmed agree up to case as they
are written exactly when the blanks around them are the same.

* `Text.trim_lower`: trimming and lowering do not get in each other's way.
* `Text.margins`: the blanks before and behind a text.
* `Text.sameLetters_iff_margins`: what trimming does to a comparison.
-/

namespace GovernanceDesk.Text
set_option autoImplicit false

/-! ## Blanks in any case -/

/-- A character is its own small letter, or both are printable. -/
theorem toLower_cases (c : Char) :
    c.toLower = c ∨ (0x41 ≤ c.toNat ∧ c.toNat ≤ 0x5A) ∧ c.toLower.toNat = c.toNat + 0x20 := by
  by_cases upper : c.val ≥ 'A'.val ∧ c.val ≤ 'Z'.val
  · have range : 0x41 ≤ c.toNat ∧ c.toNat ≤ 0x5A :=
      ⟨UInt32.le_iff_toNat_le.1 upper.1, UInt32.le_iff_toNat_le.1 upper.2⟩
    have small : c.toLower.val = c.val + 0x20 := congrArg Char.val (dif_pos upper)
    refine .inr ⟨range, ?_⟩
    change c.toLower.val.toNat = c.toNat + 0x20
    rw [small, UInt32.toNat_add]
    change (c.toNat + 0x20) % 2 ^ 32 = c.toNat + 0x20
    omega
  · exact .inl (dif_neg upper)

theorem isBlank_toLower (c : Char) : isBlank c.toLower = isBlank c := by
  obtain same | ⟨range, small⟩ := toLower_cases c
  · rw [same]
  · rw [isBlank_of_printable (by omega) (by omega), isBlank_of_printable (by omega) (by omega)]

theorem toLower_of_isBlank {c : Char} (h : isBlank c = true) : c.toLower = c := by
  obtain same | ⟨range, -⟩ := toLower_cases c
  · exact same
  · rw [isBlank_of_printable (by omega) (by omega)] at h
    exact absurd h Bool.false_ne_true

theorem isBlank_comp_toLower : isBlank ∘ Char.toLower = isBlank :=
  funext isBlank_toLower

theorem trimStart_map_toLower (cs : List Char) :
    trimStart (cs.map Char.toLower) = (trimStart cs).map Char.toLower := by
  rw [trimStart, List.dropWhile_map, isBlank_comp_toLower, trimStart]

theorem trimChars_map_toLower (cs : List Char) :
    trimChars (cs.map Char.toLower) = (trimChars cs).map Char.toLower := by
  rw [trimChars, trimStart_map_toLower, trimEnd, ← List.map_reverse, trimStart_map_toLower,
    ← List.map_reverse, trimChars, trimEnd]

theorem trim_lower (s : String) : trim (lower s) = lower (trim s) := by
  rw [trim, lower, lower, trim, String.toList_ofList, String.toList_ofList, trimChars_map_toLower]

theorem sameLetters_trim {a b : String} (h : sameLetters a b = true) :
    sameLetters (trim a) (trim b) = true := by
  rw [sameLetters, beq_iff_eq] at h ⊢
  rw [← trim_lower, ← trim_lower, h]

/-! ## Margins -/

/-- The blanks before and behind a text. In a text of nothing but blanks all stand before it. -/
def margins (s : String) : List Char × List Char :=
  (s.toList.takeWhile isBlank, (trimStart s.toList).rtakeWhile isBlank)

theorem margins_append (s : String) :
    (margins s).1 ++ trimChars s.toList ++ (margins s).2 = s.toList := by
  have behind : trimChars s.toList ++ (margins s).2 = trimStart s.toList :=
    List.rdropWhile_append_rtakeWhile
  rw [List.append_assoc, behind]
  exact List.takeWhile_append_dropWhile

theorem map_toLower_takeWhile_isBlank (cs : List Char) :
    (cs.takeWhile isBlank).map Char.toLower = cs.takeWhile isBlank := by
  rw [List.map_congr_left fun c mem => toLower_of_isBlank (List.mem_takeWhile_imp mem), List.map_id']

theorem takeWhile_isBlank_map_toLower (cs : List Char) :
    (cs.map Char.toLower).takeWhile isBlank = cs.takeWhile isBlank := by
  rw [List.takeWhile_map, isBlank_comp_toLower, map_toLower_takeWhile_isBlank]

theorem margins_lower (s : String) : margins (lower s) = margins s := by
  rw [margins, lower, String.toList_ofList, takeWhile_isBlank_map_toLower, trimStart_map_toLower,
    List.rtakeWhile, ← List.map_reverse, takeWhile_isBlank_map_toLower, margins, List.rtakeWhile]

theorem margins_eq_nil_iff {s : String} : margins s = ([], []) ↔ trim s = s := by
  have whole := margins_append s
  constructor
  · intro none
    rw [none, List.nil_append, List.append_nil] at whole
    rw [trim, whole, String.ofList_toList]
  · intro tidy
    have kept : trimChars s.toList = s.toList := by
      rw [← String.toList_ofList (l := trimChars s.toList), ← trim, tidy]
    have lengths := congrArg List.length whole
    rw [kept, List.length_append, List.length_append] at lengths
    refine Prod.ext ?_ ?_ <;> refine List.eq_nil_of_length_eq_zero ?_ <;> omega

/-- A text in small letters is what is left of it in small letters, between the same margins. -/
theorem lower_eq_margins (s : String) :
    lower s = String.ofList ((margins s).1 ++ (lower (trim s)).toList ++ (margins s).2) := by
  rw [← trim_lower, trim, String.toList_ofList, ← margins_lower s, margins_append,
    String.ofList_toList]

/-- Between texts that are the same up to case once they are trimmed, the margins decide. -/
theorem sameLetters_iff_margins {a b : String} (h : sameLetters (trim a) (trim b) = true) :
    sameLetters a b = true ↔ margins a = margins b := by
  rw [sameLetters, beq_iff_eq] at h ⊢
  constructor
  · intro same
    rw [← margins_lower a, same, margins_lower]
  · intro same
    rw [lower_eq_margins a, h, same, ← lower_eq_margins]

end GovernanceDesk.Text

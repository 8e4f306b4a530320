import GovernanceDesk.Email
import Mathlib.Data.List.DropRight

/-!
# Texts that are trimmed

Trimming takes everything off a text that it can take off, so a second time it finds nothing. An
address is one with the blanks around it or without them.

* `Text.trim_trim`: trimming twice.
* `isEmail_trim`: an address that is trimmed.
-/

namespace GovernanceDesk
set_option autoImplicit false

namespace Text

theorem trimStart_eq_self_iff {cs : List Char} :
    trimStart cs = cs ↔ ∀ c ∈ cs.head?, isBlank c = false := by
  cases cs with
  | nil => simp [trimStart]
  | cons c rest =>
    rw [trimStart, List.dropWhile_cons]
    cases blank : isBlank c with
    | false => simp [blank]
    | true =>
      have shorter : (rest.dropWhile isBlank).length < (c :: rest).length :=
        Nat.lt_succ_of_le (List.dropWhile_sublist isBlank).length_le
      simp only [if_true, List.head?_cons, Option.mem_some_iff, forall_eq', blank,
        Bool.true_eq_false, iff_false]
      intro same
      rw [same] at shorter
      exact Nat.lt_irrefl _ shorter

theorem trimEnd_prefix (cs : List Char) : trimEnd cs <+: cs :=
  List.rdropWhile_prefix isBlank cs

/-- What is taken off at the end brings no blank to the front. -/
theorem trimStart_trimEnd {cs : List Char} (h : trimStart cs = cs) :
    trimStart (trimEnd cs) = trimEnd cs := by
  rw [trimStart_eq_self_iff] at h ⊢
  intro c first
  obtain ⟨rest, whole⟩ := trimEnd_prefix cs
  refine h c ?_
  rw [← whole, List.head?_append, Option.mem_def.1 first]
  rfl

theorem trimChars_trimChars (cs : List Char) : trimChars (trimChars cs) = trimChars cs := by
  have start : trimStart (trimStart cs) = trimStart cs := List.dropWhile_idempotent isBlank cs
  have ending : trimEnd (trimEnd (trimStart cs)) = trimEnd (trimStart cs) :=
    List.rdropWhile_idempotent isBlank (trimStart cs)
  have both : trimStart (trimChars cs) = trimChars cs := trimStart_trimEnd start
  rw [trimChars, both, trimChars, ending]

theorem trim_trim (s : String) : trim (trim s) = trim s := by
  rw [trim, trim, String.toList_ofList, trimChars_trimChars]

end Text

theorem isEmail_trim (s : String) : isEmail (Text.trim s) = isEmail s := by
  rw [isEmail, isEmail, Text.trim, String.toList_ofList, Text.trimChars_trimChars]

end GovernanceDesk

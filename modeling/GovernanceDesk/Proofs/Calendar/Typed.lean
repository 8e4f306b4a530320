import GovernanceDesk.Proofs.Calendar.Written
import GovernanceDesk.Proofs.Text.Trimming

/-!
# Dates as they are typed

A form takes a date with slashes or with hyphens, and blanks around it do not count. Either written
form of a date is read back as that date, in all years that there are, and no text is a date in both
formats, so the order in which they are tried makes no difference.

* `Text.trimChars_surrounded`: blanks around a text.
* `Date.ofHyphenatedChars?_isoChars`: the written form of records, read on a form.
* `Date.read_in_one_format`: a text has at most one of the two formats.
* `Date.ofForm?_iso`, `Date.ofForm?_surrounded`: the written form of records on a form, and any text
  with blanks around it.
-/

namespace GovernanceDesk
set_option autoImplicit false
open Text

/-! ## Blanks around a text -/

namespace Text

variable {before behind : List Char}

/-- A text in which nothing is seen. -/
def AllBlank (s : String) : Prop :=
  ∀ c ∈ s.toList, isBlank c = true

instance (s : String) : Decidable (AllBlank s) :=
  List.decidableBAll (isBlank · = true) s.toList

theorem trimEnd_append_blanks (cs : List Char) (blank : ∀ c ∈ behind, isBlank c = true) :
    trimEnd (cs ++ behind) = trimEnd cs := by
  have reversed : ∀ c ∈ behind.reverse, isBlank c = true :=
    fun c mem => blank c (List.mem_reverse.1 mem)
  rw [trimEnd, List.reverse_append, trimStart, List.dropWhile_append_of_pos reversed]
  rfl

theorem trimChars_surrounded (cs : List Char) (blankBefore : ∀ c ∈ before, isBlank c = true)
    (blankBehind : ∀ c ∈ behind, isBlank c = true) :
    trimChars (before ++ cs ++ behind) = trimChars cs := by
  rw [trimChars, trimStart, List.append_assoc, List.dropWhile_append_of_pos blankBefore,
    List.dropWhile_append]
  split
  next nothing =>
    have none : trimStart behind = [] := List.dropWhile_eq_nil_iff.2 blankBehind
    have none' : trimStart cs = [] := List.isEmpty_iff.1 nothing
    rw [trimChars, none']
    exact congrArg trimEnd none
  · exact trimEnd_append_blanks _ blankBehind

theorem spacedYear_trimStart (cs : List Char) : spacedYear (trimStart cs) = spacedYear cs := by
  have again : trimStart (trimStart cs) = trimStart cs := List.dropWhile_idempotent isBlank cs
  rw [spacedYear, again, spacedYear]

theorem expect_eq_some_iff {c : Char} {cs rest : List Char} {u : Unit} :
    expect c cs = some (u, rest) ↔ cs = c :: rest := by
  cases cs with
  | nil => simp [expect]
  | cons x cs => simp [expect, eq_comm]

end Text

namespace Date

/-! ## Dates with hyphens -/

theorem ofHyphenatedChars?_isoChars (d : Date) : ofHyphenatedChars? d.isoChars = some d := by
  have year := spacedYear_yearText d.year ('-' :: (padded 2 d.month ++ '-' :: padded 2 d.day))
    (by rintro c ⟨⟩; decide)
  have month := spacedNat_padded d.month_lt ('-' :: padded 2 d.day)
  have day := spacedNat_padded d.day_lt []
  rw [List.append_nil] at day
  have text : d.isoChars =
      yearText d.year ++ '-' :: (padded 2 d.month ++ '-' :: padded 2 d.day) := by
    simp only [isoChars, List.append_assoc, List.cons_append]
  rw [text]
  simp only [ofHyphenatedChars?, year, month, day, expect_self, Option.bind_eq_bind, Option.bind_some]
  exact d.ofYmd?_self

theorem isBlank_of_mem_isoChars {d : Date} {c : Char} (h : c ∈ d.isoChars) : isBlank c = false := by
  simp only [isoChars, List.mem_append, List.mem_cons, or_assoc] at h
  rcases h with year | rfl | month | rfl | day
  · exact isBlank_of_mem_yearText year
  · decide
  · exact isBlank_of_isDecimalDigit (isDecimalDigit_of_mem_padded month)
  · decide
  · exact isBlank_of_isDecimalDigit (isDecimalDigit_of_mem_padded day)

/-! ## One format or the other -/

/-- Where a slash follows the first number, that number is read as a year just as well, and the hyphen
that has to follow it is missing. -/
theorem ofHyphenatedChars?_of_slashed {cs : List Char} {d : Date} (h : ofSlashedChars? cs = some d) :
    ofHyphenatedChars? cs = none := by
  obtain ⟨⟨month, behind⟩, read, h⟩ := Option.bind_eq_some_iff.1 h
  obtain ⟨⟨_, rest⟩, slash, -⟩ := Option.bind_eq_some_iff.1 h
  obtain ⟨c, ds, front, decimal, few, -⟩ := takeNat?_parts read
  rw [expect_eq_some_iff.1 slash] at front
  have stop : ∀ x ∈ ('/' :: rest).head?, isDecimalDigit x = false := by
    rintro x ⟨⟩
    decide
  have year : spacedYear cs = some ((valueOf (c :: ds) : Int), '/' :: rest) := by
    rw [← spacedYear_trimStart, front, List.cons_append,
      spacedYear_digit (decimal c List.mem_cons_self), ← List.cons_append,
      takeNat?_append (List.cons_ne_nil c ds) decimal (Nat.le_trans few (by decide)) (.inr stop)]
    rfl
  rw [ofHyphenatedChars?, year]
  rfl

theorem read_in_one_format (cs : List Char) :
    ofSlashedChars? cs = none ∨ ofHyphenatedChars? cs = none := by
  cases read : ofSlashedChars? cs with
  | none => exact .inl rfl
  | some d => exact .inr (ofHyphenatedChars?_of_slashed read)

theorem ofSlashedChars?_isoChars (d : Date) : ofSlashedChars? d.isoChars = none := by
  refine (read_in_one_format d.isoChars).resolve_right fun unread => ?_
  rw [ofHyphenatedChars?_isoChars] at unread
  exact nomatch unread

/-! ## On a form -/

theorem ofForm?_iso (d : Date) : ofForm? d.iso = some d := by
  rw [ofForm?, iso, String.toList_ofList, ofFormChars?]
  rw [trimChars_of_forall fun _ mem => isBlank_of_mem_isoChars mem, ofSlashedChars?_isoChars,
    ofHyphenatedChars?_isoChars]
  rfl

theorem ofForm?_surrounded {before behind : String} (blankBefore : AllBlank before)
    (blankBehind : AllBlank behind) (s : String) :
    ofForm? (before ++ s ++ behind) = ofForm? s := by
  have same := trimChars_surrounded s.toList blankBefore blankBehind
  rw [ofForm?, ofFormChars?, String.toList_append, String.toList_append, same, ofForm?, ofFormChars?]

end Date

end GovernanceDesk

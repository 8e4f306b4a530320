import GovernanceDesk.Lcid
import GovernanceDesk.Proofs.Calendar.Ordinals
import GovernanceDesk.Proofs.Text.Numbers
import Mathlib.Data.List.Basic

/-!
# What a number tells

A life cycle ID is written without separators, and a year before year 0 makes it one character wider.
It can be taken apart all the same: the letter is the only one in it and parts the day from the round
of the alphabet, and the place of the day in its year takes up the last three characters before it.

* `Text.paddedInt_injective`: a number with its sign is told by its text.
* `Lcid.dayPart_eq_iff`: what all IDs of a day begin with tells the place of the day and two digits of
  the year.
* `Lcid.number_eq_number_iff`: which issues have one ID.
* `Lcid.numbers_tell_apart`: not two of one day, nor two of different days in years of one century.
-/

namespace GovernanceDesk
set_option autoImplicit false

/-! ## Numbers as they are written -/

namespace Text

theorem padded_injective (width : Nat) : Function.Injective (padded width) := by
  intro m n same
  rw [← valueOf_padded width m, same, valueOf_padded]

theorem minus_notMem_padded (width n : Nat) : '-' ∉ padded width n :=
  fun mem => absurd (isDecimalDigit_of_mem_padded mem) (by decide)

theorem paddedInt_injective (width : Nat) : Function.Injective (paddedInt width) := by
  intro m n same
  unfold paddedInt at same
  split at same <;> split at same
  · have size := padded_injective _ (List.cons.inj same).2
    omega
  · exact absurd (same ▸ List.mem_cons_self ..) (minus_notMem_padded width n.natAbs)
  · exact absurd (same ▸ List.mem_cons_self ..) (minus_notMem_padded width m.natAbs)
  · have size := padded_injective _ same
    omega

end Text

namespace Lcid
open Text

variable {d e : Date} {m n : Nat}

/-! ## Letter and round -/

theorem toNat_letter (n : Nat) : (letter n).toNat = 65 + n % 26 := by
  have alphabet : ∀ k < 26, (Char.ofNat (65 + k)).toNat = 65 + k := by decide
  exact alphabet (n % 26) (Nat.mod_lt n (by decide))

theorem isDecimalDigit_letter (n : Nat) : isDecimalDigit (letter n) = false := by
  refine Bool.eq_false_iff.2 fun digit => ?_
  have range := toNat_of_isDecimalDigit digit
  rw [toNat_letter] at range
  omega

theorem isDecimalDigit_of_mem_roundPart {c : Char} (mem : c ∈ roundPart n) :
    isDecimalDigit c = true := by
  unfold roundPart at mem
  split at mem
  · exact absurd mem List.not_mem_nil
  · exact isDecimalDigit_of_mem_digits mem

theorem roundPart_injective {m n : Nat} (h : roundPart m = roundPart n) : m / 26 = n / 26 := by
  unfold roundPart at h
  split at h
  next first =>
    split at h
    next first' => rw [first, first']
    next => exact absurd h.symm Nat.toDigits_ne_nil
  next =>
    split at h
    next => exact absurd h Nat.toDigits_ne_nil
    next => exact digits_injective h

theorem eq_of_letter_of_roundPart (letters : letter m = letter n)
    (rounds : roundPart m = roundPart n) : m = n := by
  have rest : m % 26 = n % 26 := by
    have values := congrArg Char.toNat letters
    rw [toNat_letter, toNat_letter] at values
    omega
  rw [← Nat.div_add_mod m 26, ← Nat.div_add_mod n 26, roundPart_injective rounds, rest]

/-! ## The day -/

theorem length_ordinal (d : Date) : (padded 3 d.ordinal).length = 3 :=
  length_padded (by decide) (Nat.lt_of_le_of_lt d.ordinal_le (by decide))

theorem dayPart_eq_iff :
    dayPart d = dayPart e ↔ d.ordinal = e.ordinal ∧ d.year.tmod 100 = e.year.tmod 100 := by
  constructor
  · intro same
    -- The years may differ in width, so the two texts are cut from their ends.
    obtain ⟨years, places⟩ := List.append_inj' same (by rw [length_ordinal, length_ordinal])
    exact ⟨padded_injective 3 places, paddedInt_injective 2 years⟩
  · rintro ⟨places, years⟩
    rw [dayPart, dayPart, places, years]

theorem minus_or_digit_of_mem_dayPart {c : Char} (mem : c ∈ dayPart d) :
    c = '-' ∨ isDecimalDigit c = true := by
  rcases List.mem_append.1 mem with year | place
  · unfold paddedInt at year
    split at year
    · exact (List.mem_cons.1 year).imp_right isDecimalDigit_of_mem_padded
    · exact .inr (isDecimalDigit_of_mem_padded year)
  · exact .inr (isDecimalDigit_of_mem_padded place)

/-! ## The whole number -/

theorem letter_notMem_dayPart (d : Date) (n : Nat) : letter n ∉ dayPart d := by
  intro mem
  rcases minus_or_digit_of_mem_dayPart mem with minus | digit
  · have value := congrArg Char.toNat minus
    rw [toNat_letter] at value
    exact absurd value (by simp; omega)
  · exact Bool.false_ne_true ((isDecimalDigit_letter n).symm.trans digit)

theorem letter_notMem_roundPart (m n : Nat) : letter n ∉ roundPart m := fun mem =>
  Bool.false_ne_true ((isDecimalDigit_letter n).symm.trans (isDecimalDigit_of_mem_roundPart mem))

theorem number_eq_number_iff :
    number d m = number e n ↔
      m = n ∧ d.ordinal = e.ordinal ∧ d.year.tmod 100 = e.year.tmod 100 := by
  rw [number, number, String.ofList_inj, numberChars, numberChars,
    List.append_cons_inj_of_notMem (letter_notMem_dayPart d n) (letter_notMem_roundPart m n),
    dayPart_eq_iff]
  constructor
  · rintro ⟨day, letters, rounds⟩
    exact ⟨eq_of_letter_of_roundPart letters rounds, day⟩
  · rintro ⟨rfl, day⟩
    exact ⟨day, rfl, rfl⟩

theorem number_injective (date : Date) : Function.Injective (number date) :=
  fun _ _ same => (number_eq_number_iff.1 same).1

/-- Remainders by a hundred, whatever their sign, tell years apart that are closer than that. -/
theorem eq_of_tmod_eq {a b : Int} (same : a.tmod 100 = b.tmod 100) (near : (a - b).natAbs < 100) :
    a = b := by
  have first := Int.tmod_add_mul_tdiv a 100
  have second := Int.tmod_add_mul_tdiv b 100
  omega

/-- Two issues have one ID exactly when they are the same in number, fall on the same place of their
years, and the years leave the same remainder by a hundred, sign included. So all issues of a day have
different IDs, and so have issues of different days in years that are less than a hundred apart. -/
theorem numbers_tell_apart (d e : Date) (m n : Nat) :
    (number d m = number e n ↔
      m = n ∧ d.ordinal = e.ordinal ∧ d.year.tmod 100 = e.year.tmod 100) ∧
    (m ≠ n → number d m ≠ number d n) ∧
    (d ≠ e → (d.year - e.year).natAbs < 100 → number d m ≠ number e n) := by
  refine ⟨number_eq_number_iff, fun different same => ?_, fun different near same => ?_⟩
  · exact different (number_injective d same)
  · obtain ⟨-, places, years⟩ := number_eq_number_iff.1 same
    exact different (Date.eq_of_ordinal_eq (eq_of_tmod_eq years near) places)

/-- The first two issues of a day with one letter, and the same day ninety-nine years later. -/
theorem numbers_tell_apart_later :
    (0 ≠ 26 ∧ number ⟨1927, 10, 16, by decide⟩ 0 ≠ number ⟨1927, 10, 16, by decide⟩ 26) ∧
    ((⟨1927, 10, 16, by decide⟩ : Date) ≠ ⟨2026, 10, 16, by decide⟩ ∧
      (1927 - 2026 : Int).natAbs < 100 ∧
      number ⟨1927, 10, 16, by decide⟩ 0 ≠ number ⟨2026, 10, 16, by decide⟩ 0) := by
  have apart := numbers_tell_apart ⟨1927, 10, 16, by decide⟩ ⟨2026, 10, 16, by decide⟩ 0
  have letters : 0 ≠ 26 := by decide
  have days : (⟨1927, 10, 16, by decide⟩ : Date) ≠ ⟨2026, 10, 16, by decide⟩ := by decide
  have near : (1927 - 2026 : Int).natAbs < 100 := by decide
  exact ⟨⟨letters, (apart 26).2.1 letters⟩, days, near, (apart 0).2.2 days near⟩

-- After a hundred years the numbers come back, a day earlier where only the later year has a leap day.
example : number ⟨1900, 3, 2, by decide⟩ 27 = "00061B1" ∧
    number ⟨2000, 3, 1, by decide⟩ 27 = "00061B1" := by decide +kernel

end Lcid

end GovernanceDesk

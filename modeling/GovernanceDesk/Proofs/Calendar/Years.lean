import GovernanceDesk.Proofs.Calendar.Written

/-!
# The same day in a later year

A number of years is added to a date by way of months, which are counted in words of thirty-two bits.
Whatever the words cannot count lies behind the last date, so the sum is the same day in the later
year where there is one, and nothing otherwise.

* `Date.YearsAfter`: a date some years after another.
* `Date.exists_yearsAfter_iff`: how far the calendar goes.
* `Date.addMonths?_monthsIn_eq_some_iff`: what adding years as months gives.
-/

namespace GovernanceDesk
set_option autoImplicit false

namespace Date

variable {d e : Date} {years : Nat}

/-! ## Bounds -/

theorem year_bounds (d : Date) : firstYear ≤ d.year ∧ d.year ≤ lastYear := by
  have h := d.isDay
  simp only [isCalendarDay, Bool.and_eq_true, decide_eq_true_eq] at h
  exact h.1.1

theorem month_bounds (d : Date) : 1 ≤ d.month ∧ d.month ≤ 12 := by
  have day := d.day_bounds
  have notZero : d.month ≠ 0 := by
    intro zero
    have none : daysInMonth d.year d.month = 0 := by rw [zero]; rfl
    omega
  have notLarge : ¬12 < d.month := by
    intro large
    rw [daysInMonth_of_lt large] at day
    omega
  omega

theorem daysInMonth_pos {year : Int} {month : Nat} (low : 1 ≤ month) (high : month ≤ 12) :
    1 ≤ daysInMonth year month := by
  unfold daysInMonth
  split <;> grind

/-! ## Years after a date -/

/-- A date is another one some years on: the same day of the same month, or the last day of that
month where it is too short. -/
structure YearsAfter (d : Date) (years : Nat) (e : Date) : Prop where
  year : e.year = d.year + years
  month : e.month = d.month
  day : e.day = min d.day (daysInMonth e.year e.month)

theorem clamped?_eq_some_iff :
    clamped? (d.year + years) d.month d.day = some e ↔ d.YearsAfter years e := by
  rw [clamped?, ofYmd?]
  constructor
  · intro moved
    split at moved
    · cases moved
      exact ⟨rfl, rfl, rfl⟩
    · exact nomatch moved
  · rintro ⟨year, month, day⟩
    rw [year, month] at day
    have isDay := e.isDay
    rw [year, month, day] at isDay
    rw [dif_pos isDay]
    obtain ⟨_, _, _, _⟩ := e
    cases year
    cases month
    cases day
    rfl

theorem exists_yearsAfter_iff : (∃ e, d.YearsAfter years e) ↔ d.year + years ≤ lastYear := by
  constructor
  · rintro ⟨e, after⟩
    rw [← after.year]
    exact e.year_bounds.2
  · intro within
    have first := d.year_bounds.1
    have month := d.month_bounds
    have day := d.day_bounds
    have some : 1 ≤ daysInMonth (d.year + years) d.month := daysInMonth_pos month.1 month.2
    have isDay : isCalendarDay (d.year + years) d.month
        (min d.day (daysInMonth (d.year + years) d.month)) = true := by
      simp only [isCalendarDay, Bool.and_eq_true, decide_eq_true_eq]
      omega
    exact ⟨⟨_, _, _, isDay⟩, rfl, rfl, rfl⟩

theorem le_refl (d : Date) : d ≤ d := by
  change d.before d = false
  simp [before]

/-- No date lies after one that is some years after it. -/
theorem YearsAfter.le (after : d.YearsAfter years e) : d ≤ e := by
  change e.before d = false
  have day := d.day_bounds
  obtain ⟨year, month, clamped⟩ := after
  rcases Nat.eq_zero_or_pos years with rfl | pos
  · have same : e.year = d.year := by omega
    have unclamped : e.day = d.day := by
      rw [clamped, same, month]
      exact Nat.min_eq_left day.2
    simp [before, same, month, unclamped]
  · have notEarlier : ¬e.year < d.year := by omega
    have notSame : e.year ≠ d.year := by omega
    simp [before, notEarlier, notSame]

/-! ## Adding years as months -/

theorem toNat_monthsIn (years : UInt32) :
    (monthsIn years).toNat = min (years.toNat * 12) 4294967295 := by
  have small : min (years.toNat * 12) (UInt32.size - 1) < UInt32.size :=
    Nat.lt_of_le_of_lt (Nat.min_le_right _ _) (by decide)
  rw [monthsIn, UInt32.toNat_ofNat_of_lt' small]
  rfl

/-- A count of months that is too large for its word leads past the last date. -/
theorem addMonths?_monthsIn (d : Date) (years : UInt32) :
    d.addMonths? (monthsIn years) = clamped? (d.year + years.toNat) d.month d.day := by
  have year := d.year_bounds
  have month := d.month_bounds
  rw [firstYear, lastYear] at year
  rw [addMonths?, toNat_monthsIn, mostMonths]
  split
  next counted =>
    have inYears : (d.year * 12 + (d.month - 1) + (min (years.toNat * 12) 4294967295 : Nat)) / 12 =
        d.year + years.toNat := by
      omega
    have inMonths : ((d.year * 12 + (d.month - 1) + (min (years.toNat * 12) 4294967295 : Nat)) % 12
        : Int).toNat + 1 = d.month := by
      omega
    rw [inYears, inMonths]
  next uncounted =>
    have past : ¬d.year + years.toNat ≤ lastYear := by
      rw [lastYear]
      omega
    refine (Option.eq_none_iff_forall_ne_some.2 fun e moved => past ?_).symm
    exact exists_yearsAfter_iff.1 ⟨e, clamped?_eq_some_iff.1 moved⟩

theorem addMonths?_monthsIn_eq_some_iff {years : UInt32} :
    d.addMonths? (monthsIn years) = some e ↔ d.YearsAfter years.toNat e := by
  rw [addMonths?_monthsIn, clamped?_eq_some_iff]

end Date

end GovernanceDesk

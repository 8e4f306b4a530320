import GovernanceDesk.Proofs.Calendar.Years
import Mathlib.Order.Monotone.Basic

/-!
# Places in a year

The months of a year lie one after the other, and the place of a day counts the days of the months
before its own. So no year has more than 366 places, and in one year no two days share a place.

* `Date.daysThrough`: the days of the first months of a year.
* `Date.ordinal_bounds`: the place of a day lies among those of its month.
* `Date.eq_of_ordinal_eq`: a day is told by its year and its place.
-/

namespace GovernanceDesk
set_option autoImplicit false

namespace Date

variable {d e : Date}

/-! ## Days of months -/

def daysThrough (year : Int) : Nat → Nat
  | 0 => 0
  | months + 1 => daysThrough year months + daysInMonth year (months + 1)

theorem daysThrough_mono (year : Int) : Monotone (daysThrough year) :=
  monotone_nat_of_le_succ fun _ => Nat.le_add_right _ _

theorem daysThrough_twelve (year : Int) :
    daysThrough year 12 = if isLeapYear year then 366 else 365 := by
  cases leap : isLeapYear year <;> simp [daysThrough, daysInMonth, leap]

/-! ## The place of a day -/

theorem ordinal_eq (d : Date) : d.ordinal = daysThrough d.year (d.month - 1) + d.day := by
  have counted (months : Nat) :
      (List.range months).foldl (fun days m => days + daysInMonth d.year (m + 1)) d.day =
        daysThrough d.year months + d.day := by
    induction months with
    | zero => exact (Nat.zero_add _).symm
    | succ months ih =>
      rw [List.range_succ, List.foldl_append, ih, List.foldl_cons, List.foldl_nil, daysThrough]
      omega
  exact counted (d.month - 1)

theorem ordinal_bounds (d : Date) :
    daysThrough d.year (d.month - 1) < d.ordinal ∧ d.ordinal ≤ daysThrough d.year d.month := by
  have day := d.day_bounds
  have whole : daysThrough d.year d.month =
      daysThrough d.year (d.month - 1) + daysInMonth d.year d.month := by
    obtain ⟨months, past⟩ := Nat.exists_eq_add_of_le' d.month_bounds.1
    rw [past]
    rfl
  rw [ordinal_eq]
  omega

theorem ordinal_le (d : Date) : d.ordinal ≤ 366 := by
  have year : daysThrough d.year 12 ≤ 366 := by
    rw [daysThrough_twelve]
    split <;> decide
  exact (d.ordinal_bounds.2.trans (daysThrough_mono d.year d.month_bounds.2)).trans year

theorem ordinal_lt_of_month_lt (year : d.year = e.year) (month : d.month < e.month) :
    d.ordinal < e.ordinal :=
  calc d.ordinal
    _ ≤ daysThrough d.year d.month := d.ordinal_bounds.2
    _ ≤ daysThrough e.year (e.month - 1) := by
      rw [year]
      exact daysThrough_mono e.year (Nat.le_sub_one_of_lt month)
    _ < e.ordinal := e.ordinal_bounds.1

theorem eq_of_ordinal_eq (year : d.year = e.year) (same : d.ordinal = e.ordinal) : d = e := by
  have month : d.month = e.month := by
    rcases Nat.lt_trichotomy d.month e.month with sooner | alike | later
    · exact absurd same (ordinal_lt_of_month_lt year sooner).ne
    · exact alike
    · exact absurd same (ordinal_lt_of_month_lt year.symm later).ne'
  have day : d.day = e.day := by
    rw [ordinal_eq, ordinal_eq, year, month] at same
    exact Nat.add_left_cancel same
  have named := e.ofYmd?_self
  rw [← year, ← month, ← day, d.ofYmd?_self] at named
  exact Option.some.inj named

end Date

end GovernanceDesk

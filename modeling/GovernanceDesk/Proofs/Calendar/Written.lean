import GovernanceDesk.Calendar.Instant
import GovernanceDesk.Proofs.Text.Numbers

/-!
# Dates and instants read back

What records write and forms show is read back as the same value, for every date and every instant
that can be held: a year with its sign outside 0 to 9999, a fraction with as few digits as it needs,
and the leap second as a sixtieth second.

* `Date.readSpaced_isoChars`: the front of a text that starts with a written date.
* `Date.ofRecord?_iso`, `Instant.ofRecord?_text`: the whole text.
* `Date.ofForm?_slashed`: a date as forms show it.
-/

namespace GovernanceDesk
set_option autoImplicit false
open Text

/-! ## Bounds of a date -/

namespace Date

theorem daysInMonth_le (year : Int) (month : Nat) : daysInMonth year month ≤ 31 := by
  unfold daysInMonth
  split <;> (try split) <;> omega

theorem daysInMonth_of_lt {year : Int} {month : Nat} (h : 12 < month) : daysInMonth year month = 0 := by
  unfold daysInMonth
  split <;> first | rfl | omega

theorem day_bounds (d : Date) : 1 ≤ d.day ∧ d.day ≤ daysInMonth d.year d.month := by
  have h := d.isDay
  simp only [isCalendarDay, Bool.and_eq_true, decide_eq_true_eq] at h
  exact ⟨h.1.2, h.2⟩

theorem day_lt (d : Date) : d.day < 100 := by
  have h := d.day_bounds
  have h31 := daysInMonth_le d.year d.month
  omega

theorem month_lt (d : Date) : d.month < 100 := by
  have h := d.day_bounds
  rcases Nat.lt_or_ge 12 d.month with hm | hm
  · rw [daysInMonth_of_lt hm] at h
    omega
  · omega

@[simp] theorem ofYmd?_self (d : Date) : ofYmd? d.year d.month d.day = some d := dif_pos d.isDay

/-! ## Years -/

theorem spacedYear_minus (cs : List Char) :
    spacedYear ('-' :: cs) = (takeLongNat? cs).map fun p => (-(p.1 : Int), p.2) := by
  rw [spacedYear, trimStart_of_head (by decide)]
  rfl

theorem spacedYear_plus (cs : List Char) :
    spacedYear ('+' :: cs) = (takeLongNat? cs).map fun p => ((p.1 : Int), p.2) := by
  rw [spacedYear, trimStart_of_head (by decide)]
  rfl

theorem spacedYear_digit {c : Char} (h : isDecimalDigit c = true) (cs : List Char) :
    spacedYear (c :: cs) = (takeNat? 4 (c :: cs)).map fun p => ((p.1 : Int), p.2) := by
  rw [spacedYear, trimStart_of_head (isBlank_of_isDecimalDigit h)]
  split
  · next e => rw [(List.cons.inj e).1] at h; exact absurd h (by decide)
  · next e => rw [(List.cons.inj e).1] at h; exact absurd h (by decide)
  · rfl

theorem spacedYear_yearText (year : Int) (rest : List Char)
    (stop : ∀ c ∈ rest.head?, isDecimalDigit c = false) :
    spacedYear (yearText year ++ rest) = some (year, rest) := by
  unfold yearText
  split
  next small =>
    have read := takeNat?_padded (by decide : 0 < 4) (by omega : year.natAbs < 10 ^ 4) rest
    obtain ⟨c, cs, hc⟩ := List.exists_cons_of_ne_nil (padded_ne_nil 4 year.natAbs)
    have digit : isDecimalDigit c = true :=
      isDecimalDigit_of_mem_padded (hc ▸ List.mem_cons_self ..)
    rw [hc, List.cons_append] at read ⊢
    rw [spacedYear_digit digit, read, Option.map_some, Int.natAbs_of_nonneg small.1]
  next large =>
    split
    next negative =>
      rw [List.cons_append, spacedYear_minus, takeLongNat?_padded 4 _ stop, Option.map_some,
        Int.ofNat_natAbs_of_nonpos (Int.le_of_lt negative), Int.neg_neg]
    next positive =>
      rw [List.cons_append, spacedYear_plus, takeLongNat?_padded 4 _ stop, Option.map_some,
        Int.natAbs_of_nonneg (Int.not_lt.mp positive)]

/-! ## Whole dates -/

theorem skipBlanks_of_head {c : Char} {cs : List Char} (h : isBlank c = false) :
    skipBlanks (c :: cs) = some ((), c :: cs) := by
  rw [skipBlanks, trimStart_of_head h]

@[simp] theorem expect_self (c : Char) (cs : List Char) : expect c (c :: cs) = some ((), cs) := by
  rw [expect, if_pos rfl]

theorem readSpaced_isoChars (d : Date) (rest : List Char) :
    readSpaced (d.isoChars ++ rest) = some ((d.year, d.month, d.day), rest) := by
  have year := spacedYear_yearText d.year
    ('-' :: (padded 2 d.month ++ '-' :: (padded 2 d.day ++ rest))) (by rintro c ⟨⟩; decide)
  have month := spacedNat_padded d.month_lt ('-' :: (padded 2 d.day ++ rest))
  have day := spacedNat_padded d.day_lt rest
  have hyphen : ∀ cs, skipBlanks ('-' :: cs) = some ((), '-' :: cs) :=
    fun cs => skipBlanks_of_head (by decide)
  have text : d.isoChars ++ rest =
      yearText d.year ++ '-' :: (padded 2 d.month ++ '-' :: (padded 2 d.day ++ rest)) := by
    simp only [isoChars, List.append_assoc, List.cons_append]
  rw [text]
  simp only [readSpaced, year, month, day, hyphen, expect_self, Option.bind_eq_bind, Option.bind_some,
    Option.pure_def]

theorem ofRecord?_iso (d : Date) : ofRecord? d.iso = some d := by
  have read := d.readSpaced_isoChars []
  rw [List.append_nil] at read
  simp only [ofRecord?, iso, String.toList_ofList, ofRecordChars?, read, Option.bind_eq_bind,
    Option.bind_some]
  exact d.ofYmd?_self

/-! ## Dates on forms -/

theorem isBlank_of_mem_yearText {year : Int} {c : Char} (h : c ∈ yearText year) :
    isBlank c = false := by
  unfold yearText at h
  split at h
  · exact isBlank_of_isDecimalDigit (isDecimalDigit_of_mem_padded h)
  · rcases List.mem_cons.1 h with rfl | h
    · split <;> decide
    · exact isBlank_of_isDecimalDigit (isDecimalDigit_of_mem_padded h)

theorem isBlank_of_mem_slashedChars {d : Date} {c : Char} (h : c ∈ d.slashedChars) :
    isBlank c = false := by
  simp only [slashedChars, List.mem_append, List.mem_cons, or_assoc] at h
  rcases h with month | rfl | day | rfl | year
  · exact isBlank_of_isDecimalDigit (isDecimalDigit_of_mem_padded month)
  · decide
  · exact isBlank_of_isDecimalDigit (isDecimalDigit_of_mem_padded day)
  · decide
  · exact isBlank_of_mem_yearText year

theorem ofSlashedChars?_slashedChars (d : Date) : ofSlashedChars? d.slashedChars = some d := by
  have month := spacedNat_padded d.month_lt ('/' :: (padded 2 d.day ++ '/' :: yearText d.year))
  have day := spacedNat_padded d.day_lt ('/' :: yearText d.year)
  have year := spacedYear_yearText d.year [] (by rintro c ⟨⟩)
  rw [List.append_nil] at year
  have text : d.slashedChars =
      padded 2 d.month ++ '/' :: (padded 2 d.day ++ '/' :: yearText d.year) := by
    simp only [slashedChars, List.append_assoc, List.cons_append]
  rw [text]
  simp only [ofSlashedChars?, month, day, year, expect_self, Option.bind_eq_bind, Option.bind_some]
  exact d.ofYmd?_self

theorem trimChars_slashedChars (d : Date) : trimChars d.slashedChars = d.slashedChars :=
  trimChars_of_forall fun _ mem => isBlank_of_mem_slashedChars mem

theorem ofForm?_slashed (d : Date) : ofForm? d.slashed = some d := by
  rw [ofForm?, slashed, String.toList_ofList, ofFormChars?]
  rw [trimChars_slashedChars, ofSlashedChars?_slashedChars]
  rfl

end Date

/-! ## Times of day -/

namespace Instant

theorem time_bounds (t : Instant) : t.second < 86400 ∧ t.nano < 2000000000 ∧
    (t.nano < 1000000000 ∨ t.second % 60 = 59) := by
  have h := t.isTime
  simp only [isTimeOfDay, Bool.and_eq_true, Bool.or_eq_true, decide_eq_true_eq, beq_iff_eq] at h
  exact ⟨h.1.1, h.1.2, h.2⟩

@[simp] theorem at?_self (t : Instant) : at? t.date t.second t.nano = some t := dif_pos t.isTime

theorem ofSecond?_self (t : Instant) : ofSecond? t.date (t.second : Int) t.nano = some t := by
  have h := t.time_bounds
  rw [ofSecond?, if_neg (by omega), if_pos (by rw [secondsInDay]; omega), Int.toNat_natCast]
  exact t.at?_self

/-! ## Fractions -/

/-- Nine places of a fraction, of which the last ones are left off. -/
theorem readFraction_padded {places n : Nat} (hp : 0 < places) (h9 : places ≤ 9)
    (h : n < 10 ^ places) {rest : List Char} (stop : ∀ c ∈ rest.head?, isDecimalDigit c = false) :
    readFraction ('.' :: (padded places n ++ rest)) = some (n * 10 ^ (9 - places), rest) := by
  have hl := length_padded hp h
  have taken : takeDigits 9 (padded places n ++ rest) = (padded places n, rest) :=
    takeDigits_append (fun c hc => isDecimalDigit_of_mem_padded hc) (by omega) (.inr stop)
  have left : rest.dropWhile isDecimalDigit = rest := by
    cases rest with
    | nil => rfl
    | cons c rest => rw [List.dropWhile_cons, stop c (by simp)]; rfl
  obtain ⟨c, cs, hc⟩ := List.exists_cons_of_ne_nil (padded_ne_nil places n)
  have value := valueOf_padded places n
  rw [hc] at taken hl value ⊢
  simp only [readFraction, taken, value, hl, left]
  rfl

theorem readFraction_fractionChars {n : Nat} (h : n < 1000000000) (rest : List Char) :
    readFraction (fractionChars n ++ 'Z' :: rest) = some (n, 'Z' :: rest) := by
  have stop : ∀ c ∈ ('Z' :: rest).head?, isDecimalDigit c = false := by rintro c ⟨⟩; decide
  unfold fractionChars
  split
  · next h0 => rw [h0]; rfl
  · split
    · rw [List.cons_append, readFraction_padded (by decide) (by decide) (by omega) stop]
      rw [show n / 1000000 * 10 ^ (9 - 3) = n by omega]
    · split
      · rw [List.cons_append, readFraction_padded (by decide) (by decide) (by omega) stop]
        rw [show n / 1000 * 10 ^ (9 - 6) = n by omega]
      · rw [List.cons_append, readFraction_padded (by decide) (by decide) (by omega) stop]
        rw [show n * 10 ^ (9 - 9) = n by omega]

/-! ## Whole instants -/

theorem readClock_written {hour minute second nano : Nat} (hh : hour < 100) (hm : minute < 100)
    (hs : second < 100) (hn : nano < 1000000000) (rest : List Char) :
    readClock (padded 2 hour ++ ':' :: (padded 2 minute ++ ':' :: (padded 2 second ++
      (fractionChars nano ++ 'Z' :: rest)))) = some ((hour, minute, second, nano), 'Z' :: rest) := by
  have colon : ∀ cs, skipBlanks (':' :: cs) = some ((), ':' :: cs) :=
    fun cs => Date.skipBlanks_of_head (by decide)
  simp only [readClock, spacedNat_padded hh, spacedNat_padded hm, spacedNat_padded hs, colon,
    Date.expect_self, readFraction_fractionChars hn, Option.bind_eq_bind, Option.bind_some,
    Option.pure_def]

/-- The leap second is written as a sixtieth second, which is taken back when it is read. -/
theorem ofLocal?_written (t : Instant) :
    ofLocal? t.date (t.second / 3600) (t.second / 60 % 60) (t.second % 60 + t.nano / nanosInSecond)
      (t.nano - t.nano / nanosInSecond * nanosInSecond) 0 = some t := by
  have h := t.time_bounds
  have leap : (t.second % 60 + t.nano / nanosInSecond) / 60 = t.nano / nanosInSecond := by
    rw [nanosInSecond]
    omega
  have seconds : ((t.second / 3600 : Nat) : Int) * 3600 + ((t.second / 60 % 60 : Nat) : Int) * 60 +
      (((t.second % 60 + t.nano / nanosInSecond : Nat) : Int) - ((t.nano / nanosInSecond : Nat) : Int))
        - 0 = t.second := by
    rw [nanosInSecond]
    omega
  have nanos : t.nano - t.nano / nanosInSecond * nanosInSecond + t.nano / nanosInSecond * nanosInSecond
      = t.nano := by
    rw [nanosInSecond]
    omega
  have inDay : t.second / 3600 < 24 ∧ t.second / 60 % 60 < 60 ∧
      t.second % 60 + t.nano / nanosInSecond ≤ 60 ∧ (0 : Int).natAbs < secondsInDay := by
    rw [nanosInSecond, secondsInDay]
    omega
  rw [ofLocal?, if_pos inDay]
  simp only [leap, nanos]
  rw [seconds]
  exact t.ofSecond?_self

theorem ofRecord?_text (t : Instant) : ofRecord? t.text = some t := by
  have h := t.time_bounds
  have hour : t.second / 3600 < 100 := by omega
  have minute : t.second / 60 % 60 < 100 := by omega
  have second : t.second % 60 + t.nano / nanosInSecond < 100 := by
    rw [nanosInSecond]
    omega
  have nano : t.nano - t.nano / nanosInSecond * nanosInSecond < 1000000000 := by
    rw [nanosInSecond]
    omega
  have clock := readClock_written hour minute second nano []
  have offset : readOffset (trimStart ['Z']) = some (0, []) := by decide
  simp only [ofRecord?, text, textChars, String.toList_ofList, List.append_assoc, List.cons_append,
    ofRecordChars?, Date.readSpaced_isoChars, clockChars, clock, offset, Date.ofYmd?_self,
    Option.bind_eq_bind, Option.bind_some]
  exact t.ofLocal?_written

end Instant

end GovernanceDesk

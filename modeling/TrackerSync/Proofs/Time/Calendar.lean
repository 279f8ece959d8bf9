import TrackerSync.Time.Instant

/-!
The calendar behind instants: days and dates convert both ways within the calendar's range.
-/

namespace TrackerSync.Time

/-- A day of a 400-year era falls in a year of the era (years counted from March) and on a day
of that year; the year's 366th day exists only when the year ends in a leap February. -/
theorem eraDay_bounds {doe yoe doy : Int} (low : 0 ≤ doe) (high : doe ≤ 146096)
    (hyoe : yoe = (doe - doe / 1460 + doe / 36524 - doe / 146096) / 365)
    (hdoy : doy = doe - (365 * yoe + yoe / 4 - yoe / 100)) :
    (0 ≤ yoe ∧ yoe ≤ 399) ∧ (0 ≤ doy ∧ doy ≤ 365) ∧
      (doy = 365 → (yoe + 1) % 4 = 0 ∧ ((yoe + 1) % 100 ≠ 0 ∨ yoe = 399)) := by
  -- name every quotient with the bounds that define it
  obtain ⟨e, he⟩ : ∃ e, e = doe / 1460 := ⟨_, rfl⟩
  obtain ⟨f, hf⟩ : ∃ f, f = doe / 36524 := ⟨_, rfl⟩
  obtain ⟨g, hg⟩ : ∃ g, g = doe / 146096 := ⟨_, rfl⟩
  have e1 : 1460 * e ≤ doe ∧ doe < 1460 * e + 1460 := by omega
  have f1 : 36524 * f ≤ doe ∧ doe < 36524 * f + 36524 := by omega
  have g1 : 146096 * g ≤ doe ∧ doe < 146096 * g + 146096 := by omega
  have y1 : 365 * yoe ≤ doe - e + f - g ∧ doe - e + f - g < 365 * yoe + 365 := by
    rw [hyoe, ← he, ← hf, ← hg]; omega
  obtain ⟨c, hc⟩ : ∃ c, c = yoe / 4 := ⟨_, rfl⟩
  obtain ⟨d, hd⟩ : ∃ d, d = yoe / 100 := ⟨_, rfl⟩
  have c1 : 4 * c ≤ yoe ∧ yoe < 4 * c + 4 := by omega
  have d1 : 100 * d ≤ yoe ∧ yoe < 100 * d + 100 := by omega
  rw [← hc, ← hd] at hdoy
  -- the leap days the era's quotients count and those the year's count agree, but on the
  -- era's last day
  have ce : c ≤ e ∧ e ≤ c + 1 := by omega
  have df : d ≤ f ∧ f ≤ d + g := by omega
  have last : g = 0 ∨ (g = 1 ∧ doe = 146096) := by omega
  refine ⟨by omega, by omega, fun full => ?_⟩
  rcases last with g0 | ⟨g1', top⟩
  · -- a 366th day: the four-year count has moved past the year's own
    have four : yoe % 4 = 3 := by omega
    have century : d = 0 ∨ d = 1 ∨ d = 2 ∨ d = 3 := by omega
    refine ⟨by omega, ?_⟩
    rcases century with h | h | h | h <;> omega
  · omega

/-- A day of a year counted from March falls in a month of it, on a day the month has. -/
theorem monthDay_valid {doy mp m d : Int} (Y : Int) (low : 0 ≤ doy) (high : doy ≤ 365)
    (leap : doy = 365 → isLeapYear Y = true) (hmp : mp = (5 * doy + 2) / 153)
    (hm : m = if mp < 10 then mp + 3 else mp - 9) (hd : d = doy - (153 * mp + 2) / 5 + 1) :
    1 ≤ m ∧ m ≤ 12 ∧ 1 ≤ d ∧ d ≤ daysInMonth Y m.toNat := by
  have months : mp = 0 ∨ mp = 1 ∨ mp = 2 ∨ mp = 3 ∨ mp = 4 ∨ mp = 5 ∨ mp = 6 ∨ mp = 7 ∨
      mp = 8 ∨ mp = 9 ∨ mp = 10 ∨ mp = 11 := by omega
  have within : (153 * mp + 2) / 5 ≤ doy ∧ doy < (153 * (mp + 1) + 2) / 5 := by omega
  subst hm hd
  rcases months with h | h | h | h | h | h | h | h | h | h | h | h <;>
    simp only [h] at within ⊢ <;> simp [daysInMonth] at within ⊢ <;> try omega
  -- February: its 29th day is the year's last, which only a leap year has
  by_cases last : doy = 365
  · simp [leap last]; omega
  · split <;> omega

/-- The parts `civilFromDays` computes: the era and the day of the era, the year of the era and
the day of that year (both counted from March), and the month counted from March. -/
theorem civilFromDays_parts (z : Int) :
    ∃ era doe yoe doy mp, 0 ≤ doe ∧ doe ≤ 146096 ∧ z + 719468 = era * 146097 + doe ∧
      yoe = (doe - doe / 1460 + doe / 36524 - doe / 146096) / 365 ∧
      doy = doe - (365 * yoe + yoe / 4 - yoe / 100) ∧ mp = (5 * doy + 2) / 153 ∧
      civilFromDays z =
        ((if (if mp < 10 then mp + 3 else mp - 9) ≤ 2 then yoe + era * 400 + 1 else yoe + era * 400),
          (if mp < 10 then mp + 3 else mp - 9).toNat, (doy - (153 * mp + 2) / 5 + 1).toNat) :=
  ⟨_, _, _, _, _, by omega, by omega, by omega, rfl, rfl, rfl, rfl⟩

theorem civilFromDays_valid (z : Int) :
    1 ≤ (civilFromDays z).2.1 ∧ (civilFromDays z).2.1 ≤ 12 ∧ 1 ≤ (civilFromDays z).2.2 ∧
      (civilFromDays z).2.2 ≤ daysInMonth (civilFromDays z).1 (civilFromDays z).2.1 := by
  obtain ⟨era, doe, yoe, doy, mp, low, high, split, hyoe, hdoy, hmp, parts⟩ := civilFromDays_parts z
  obtain ⟨yoeBounds, doyBounds, leapDay⟩ := eraDay_bounds low high hyoe hdoy
  -- the year's last day is in February, so it counts into the next year of the calendar
  have leap : doy = 365 → isLeapYear (if (if mp < 10 then mp + 3 else mp - 9) ≤ 2 then
      yoe + era * 400 + 1 else yoe + era * 400) = true := by
    intro last
    obtain ⟨four, century⟩ := leapDay last
    have feb : mp = 11 := by omega
    simp only [feb, isLeapYear]
    simp
    omega
  have valid := monthDay_valid _ doyBounds.1 doyBounds.2 leap hmp rfl rfl
  rw [parts]
  dsimp only
  omega

/-- Counting the days to the date of a count of days gives the count back. -/
theorem daysFromCivil_civilFromDays (z : Int) :
    daysFromCivil (civilFromDays z).1 (civilFromDays z).2.1 (civilFromDays z).2.2 = z := by
  obtain ⟨era, doe, yoe, doy, mp, low, high, split, hyoe, hdoy, hmp, parts⟩ := civilFromDays_parts z
  obtain ⟨yoeBounds, doyBounds, -⟩ := eraDay_bounds low high hyoe hdoy
  have months : 0 ≤ mp ∧ mp ≤ 11 := by omega
  have day : (((doy - (153 * mp + 2) / 5 + 1).toNat : Nat) : Int) = doy - (153 * mp + 2) / 5 + 1 :=
    Int.toNat_of_nonneg (by omega)
  rw [parts, daysFromCivil]
  -- months from March to December are counted in the year they start, January and February in
  -- the year before
  by_cases spring : mp < 10
  · have month : (((mp + 3).toNat : Nat) : Int) = mp + 3 := Int.toNat_of_nonneg (by omega)
    have later : ¬ (mp + 3).toNat ≤ 2 := by omega
    simp only [spring, if_true, if_neg (show ¬ mp + 3 ≤ 2 by omega), later, if_false,
      if_pos (show (mp + 3).toNat > 2 by omega), month, day, Int.add_sub_cancel]
    have eraSame : (yoe + era * 400) / 400 = era := by omega
    rw [eraSame, Int.add_sub_cancel]
    omega
  · have month : (((mp - 9).toNat : Nat) : Int) = mp - 9 := Int.toNat_of_nonneg (by omega)
    have early : (mp - 9).toNat ≤ 2 := by omega
    simp only [spring, if_false, if_pos (show mp - 9 ≤ 2 by omega), early, if_true,
      if_neg (show ¬ (mp - 9).toNat > 2 by omega), month, day, Int.sub_add_cancel,
      Int.add_sub_cancel]
    have eraSame : (yoe + era * 400) / 400 = era := by omega
    rw [eraSame, Int.add_sub_cancel]
    omega

theorem daysFromCivil_minYear : daysFromCivil minYear 1 1 = -96465292 := by decide

theorem daysFromCivil_maxYear : daysFromCivil (maxYear + 1) 1 1 = 95026237 := by decide

/-- The days of the calendar are the days whose year is one of its years. -/
theorem civilFromDays_year_bounds {z : Int} (low : daysFromCivil minYear 1 1 ≤ z)
    (high : z < daysFromCivil (maxYear + 1) 1 1) :
    minYear ≤ (civilFromDays z).1 ∧ (civilFromDays z).1 ≤ maxYear := by
  obtain ⟨era, doe, yoe, doy, mp, low', high', split, hyoe, hdoy, hmp, parts⟩ := civilFromDays_parts z
  obtain ⟨yoeBounds, doyBounds, -⟩ := eraDay_bounds low' high' hyoe hdoy
  rw [daysFromCivil_minYear] at low
  rw [daysFromCivil_maxYear] at high
  rw [parts, minYear, maxYear]
  dsimp only
  constructor
  · split <;> omega
  · split <;> omega

namespace Instant

/-- An instant the calendar holds: within its range, its nanoseconds past one second only in a
leap second, which is the last second of its minute. -/
structure Valid (t : Instant) : Prop where
  inRange : inRange t.seconds = true
  nanos_lt : t.nanos < 2000000000
  leap : 1000000000 ≤ t.nanos → t.seconds % 60 = 59

/-- The date of an instant the calendar holds exists, and counting the days to it gives the
instant's day. -/
theorem date_spec {t : Instant} (valid : t.Valid) :
    validDate t.date.1 t.date.2.1 t.date.2.2 = true ∧
      daysFromCivil t.date.1 t.date.2.1 t.date.2.2 = t.seconds / 86400 := by
  have range := valid.inRange
  simp only [inRange, minSeconds, maxSeconds, daysFromCivil_minYear, daysFromCivil_maxYear,
    Bool.and_eq_true, decide_eq_true_eq] at range
  obtain ⟨low, high⟩ := @civilFromDays_year_bounds (t.seconds / 86400)
    (by rw [daysFromCivil_minYear]; omega) (by rw [daysFromCivil_maxYear]; omega)
  obtain ⟨monthLow, monthHigh, dayLow, dayHigh⟩ := civilFromDays_valid (t.seconds / 86400)
  refine ⟨?_, daysFromCivil_civilFromDays _⟩
  simp [validDate, date, low, high, monthLow, monthHigh, dayLow, dayHigh]

/-- The clock of an instant the calendar holds: an hour, a minute and a second of the day that,
with second 60 read as the last second of its minute, give the second of the day back; second 60
exactly in a leap second. -/
theorem clock_spec {t : Instant} (valid : t.Valid) :
    t.clock.1 < 24 ∧ t.clock.2.1 < 60 ∧ t.clock.2.2 ≤ 60 ∧
      (t.clock.2.2 = 60 ↔ 1000000000 ≤ t.nanos) ∧
      ((t.clock.1 * 3600 + t.clock.2.1 * 60 + min t.clock.2.2 59 : Nat) : Int) = t.seconds % 86400 := by
  simp only [clock, ge_iff_le]
  by_cases inLeap : 1000000000 ≤ t.nanos
  · -- a leap second is the last second of its minute, so its second reads 60
    have last := valid.leap inLeap
    simp only [inLeap, if_true, iff_true]
    omega
  · simp only [inLeap, if_false, iff_false]
    omega

end Instant

end TrackerSync.Time

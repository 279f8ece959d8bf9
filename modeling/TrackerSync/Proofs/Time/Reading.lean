import TrackerSync.Proofs.Text.Digits
import TrackerSync.Proofs.Time.Calendar

/-!
Reading instants back from their text, with the relaxed and the exact reader.
-/

namespace TrackerSync.Time

theorem scanChar_self (c : Char) (rest : List Char) : scanChar (c :: rest) c = .ok rest := by
  simp [scanChar]

/-- What follows the digits of a number stops it: the text ends or goes on with no digit. -/
def StopsDigits (r : List Char) : Prop := ∀ c rest, r = c :: rest → isDigit c = false

theorem stopsDigits_cons {c : Char} (r : List Char) (other : isDigit c = false) :
    StopsDigits (c :: r) := by
  intro c' rest h
  cases h
  exact other

theorem length_le_byteLength (s : List Char) : s.length ≤ byteLength s := by
  have grow : ∀ (l : List Char) (acc : Nat),
      acc + l.length ≤ (l.map Char.utf8Size).foldl (· + ·) acc := by
    intro l
    induction l with
    | nil => intro acc; simp
    | cons c l ih =>
      intro acc
      have := ih (acc + c.utf8Size)
      have := c.utf8Size_pos
      simp only [List.map_cons, List.foldl_cons, List.length_cons]
      omega
  simpa [byteLength] using grow s 0

/-- Digits are read into the number, up to `left` of them, until the text stops them. -/
theorem scanDigits_digits (min : Nat) (ds : List Char) :
    ∀ (left count n : Nat) {rest : List Char}, (∀ c ∈ ds, isDigit c = true) →
      ds.length ≤ left → (ds.length < left → StopsDigits rest) → min ≤ count + ds.length →
      Nat.ofDigitChars 10 ds n ≤ 9223372036854775807 →
      scanDigits min left count n (ds ++ rest) =
        .ok ((Nat.ofDigitChars 10 ds n, count + ds.length), rest) := by
  induction ds with
  | nil =>
    intro left count n rest _ _ stops enough _
    cases left with
    | zero => rfl
    | succ left =>
      cases rest with
      | nil => rfl
      | cons c r =>
        have other := stops (by simp) c r rfl
        simp only [List.length_nil, Nat.add_zero] at enough
        simp [scanDigits, other, Nat.not_lt.mpr enough]
  | cons d ds ih =>
    intro left count n rest digits short stops enough fits
    obtain ⟨left, rfl⟩ : ∃ k, left = k + 1 := ⟨left - 1, by simp at short; omega⟩
    have digit := digits d (List.mem_cons_self ..)
    have next : Nat.ofDigitChars 10 ds (10 * n + (d.toNat - 48)) ≤ 9223372036854775807 := by
      rwa [Nat.ofDigitChars_cons] at fits
    have small : n * 10 + (d.toNat - 48) ≤ 9223372036854775807 := by
      have := le_ofDigitChars ds (10 * n + (d.toNat - 48))
      omega
    have read := ih left (count + 1) (10 * n + (d.toNat - 48))
      (fun c mem => digits c (List.mem_cons_of_mem d mem)) (by simp at short; omega)
      (fun less => stops (by simp; omega)) (by simp at enough; omega) next
    rw [List.cons_append, scanDigits, if_pos digit]
    dsimp only
    rw [if_neg (by omega), Nat.mul_comm n 10, read, Nat.ofDigitChars_cons]
    simp only [List.length_cons]
    congr 3
    omega

theorem scanNumber_digits {ds rest : List Char} {min max : Nat} (digits : ∀ c ∈ ds, isDigit c = true)
    (low : min ≤ ds.length) (high : ds.length ≤ max) (stops : ds.length < max → StopsDigits rest)
    (fits : Nat.ofDigitChars 10 ds 0 ≤ 9223372036854775807) :
    scanNumber (ds ++ rest) min max = .ok (Nat.ofDigitChars 10 ds 0, rest) := by
  have long : min ≤ byteLength (ds ++ rest) := by
    have := length_le_byteLength (ds ++ rest)
    simp only [List.length_append] at this
    omega
  rw [scanNumber, if_neg (by omega), scanDigits_digits min ds max 0 0 digits high stops (by omega) fits]
  rfl

/-- A number written to a width is read back, up to `max` digits, when what follows stops it. -/
theorem scanNumber_padded {w n min max : Nat} {rest : List Char}
    (low : min ≤ (Instant.padded w n).toList.length) (high : (Instant.padded w n).toList.length ≤ max)
    (stops : (Instant.padded w n).toList.length < max → StopsDigits rest)
    (small : n ≤ 9223372036854775807) :
    scanNumber ((Instant.padded w n).toList ++ rest) min max = .ok (n, rest) := by
  have read := scanNumber_digits (fun c mem => Instant.isDigit_of_mem_padded mem) low high stops
    (by rw [Instant.ofDigitChars_padded]; exact small)
  rwa [Instant.ofDigitChars_padded] at read

/-- A number that fits a width is read back from its digits written to that width. -/
theorem scanNumber_width {w n : Nat} (rest : List Char) (wide : 0 < w) (fits : n < 10 ^ w)
    (small : n ≤ 9223372036854775807) :
    scanNumber ((Instant.padded w n).toList ++ rest) w w = .ok (n, rest) := by
  have size := Instant.length_padded wide fits
  exact scanNumber_padded (by omega) (by omega) (by omega) small

theorem dropWhile_isDigit_of_stops {rest : List Char} (stops : StopsDigits rest) :
    rest.dropWhile isDigit = rest := by
  cases rest with
  | nil => rfl
  | cons c r => simp [stops c r rfl]

theorem scanNanos_padded {k v : Nat} {rest : List Char} (wide : 1 ≤ k) (narrow : k ≤ 9)
    (fits : v < 10 ^ k) (stops : StopsDigits rest) :
    scanNanos ((Instant.padded k v).toList ++ rest) = .ok (v * 10 ^ (9 - k), rest) := by
  have size := Instant.length_padded (by omega) fits
  have long : 1 ≤ byteLength ((Instant.padded k v).toList ++ rest) := by
    have := length_le_byteLength ((Instant.padded k v).toList ++ rest)
    simp only [List.length_append] at this
    omega
  have small : v ≤ 9223372036854775807 := by
    have : 10 ^ k ≤ 10 ^ 9 := Nat.pow_le_pow_right (by decide) narrow
    omega
  rw [scanNanos, if_neg (by omega),
    scanDigits_digits 1 _ 9 0 0 (fun c mem => Instant.isDigit_of_mem_padded mem) (by omega)
      (fun _ => stops) (by omega) (by rw [Instant.ofDigitChars_padded]; exact small)]
  simp only [Instant.ofDigitChars_padded, size, Nat.zero_add, dropWhile_isDigit_of_stops stops]
  rfl

namespace Instant

theorem toList_dateTimeText_append (t : Instant) (sep : Char) (rest : List Char) :
    (t.dateTimeText (String.singleton sep)).toList ++ rest =
      (yearText t.date.1).toList ++ '-' :: ((padded 2 t.date.2.1).toList ++
      '-' :: ((padded 2 t.date.2.2).toList ++ sep :: ((padded 2 t.clock.1).toList ++
      ':' :: ((padded 2 t.clock.2.1).toList ++ ':' :: ((padded 2 t.clock.2.2).toList ++ rest))))) := by
  simp [dateTimeText]

theorem yearText_of_four {y : Int} (low : 0 ≤ y) (high : y ≤ 9999) : yearText y = padded 4 y.toNat := by
  simp [yearText, low, high]

theorem daysInMonth_le (y : Int) (m : Nat) : daysInMonth y m ≤ 31 := by
  unfold daysInMonth
  split
  · split <;> decide
  all_goals decide

/-- The fraction of a second is written as nothing when the nanoseconds within the second are
zero, and otherwise as a point and 3, 6 or 9 digits of a number that, scaled to nine digits,
gives them. -/
theorem fractionText_cases (nanos : Nat) :
    (nanos % 1000000000 = 0 ∧ fractionText nanos = "") ∨
      ∃ k v, 1 ≤ k ∧ k ≤ 9 ∧ v < 10 ^ k ∧ v * 10 ^ (9 - k) = nanos % 1000000000 ∧
        nanos % 1000000000 ≠ 0 ∧ (fractionText nanos).toList = '.' :: (padded k v).toList := by
  unfold fractionText
  dsimp only
  by_cases zero : nanos % 1000000000 = 0
  · exact .inl ⟨zero, by simp [zero]⟩
  · refine .inr ?_
    simp only [beq_iff_eq, zero, if_false]
    by_cases millis : nanos % 1000000 = 0
    · refine ⟨3, nanos % 1000000000 / 1000000, by decide, by decide, by omega, by omega, zero, ?_⟩
      simp [millis]
    · by_cases micros : nanos % 1000 = 0
      · refine ⟨6, nanos % 1000000000 / 1000, by decide, by decide, by omega, by omega, zero, ?_⟩
        simp [millis, micros]
      · refine ⟨9, nanos % 1000000000, by decide, by decide, by omega, by omega, zero, ?_⟩
        simp [millis, micros]

/-- The nanoseconds within the second that the text of an instant writes, when it writes any. -/
def fractionField (nanos : Nat) : Option Nat :=
  if nanos % 1000000000 = 0 then none else some (nanos % 1000000000)

def textFields (t : Instant) : Fields :=
  { year := some t.date.1, month := some t.date.2.1, day := some t.date.2.2,
    hour := some t.clock.1, minute := some t.clock.2.1, second := some t.clock.2.2,
    nanosecond := fractionField t.nanos, offset := some 0 }

theorem textFields_date {t : Instant} (valid : t.Valid) :
    t.textFields.date = .ok (t.seconds / 86400) := by
  obtain ⟨exists_, days⟩ := date_spec valid
  simp only [Fields.date, textFields, exists_, if_true, days]

theorem textFields_time {t : Instant} (valid : t.Valid) :
    t.textFields.time = .ok (t.clock.1 * 3600 + t.clock.2.1 * 60 + min t.clock.2.2 59, t.nanos) := by
  obtain ⟨-, -, second, sixty, -⟩ := clock_spec valid
  have below := valid.nanos_lt
  simp only [Fields.time, textFields, fractionField, Option.isSome_some, if_true]
  generalize t.clock.2.2 = sec at second sixty ⊢
  by_cases leap : sec = 60
  · -- second 60 is read as the last second of its minute, with a second of nanoseconds
    subst leap
    have full := sixty.mp rfl
    by_cases whole : t.nanos % 1000000000 = 0
    · simp only [whole, if_true]
      simp
      omega
    · simp only [whole, if_false]
      simp
      omega
  · have under : t.nanos < 1000000000 := Nat.lt_of_not_le fun past => leap (sixty.mpr past)
    by_cases whole : t.nanos % 1000000000 = 0
    · simp only [whole, if_true]
      simp
      omega
    · simp only [whole, if_false]
      simp
      omega

theorem textFields_instant {t : Instant} (valid : t.Valid) : t.textFields.instant = .ok t := by
  obtain ⟨-, -, -, -, secondOfDay⟩ := clock_spec valid
  have whole : t.seconds / 86400 * 86400 +
      ((t.clock.1 * 3600 + t.clock.2.1 * 60 + min t.clock.2.2 59 : Nat) : Int) - 0 = t.seconds := by
    omega
  have off : t.textFields.offset = some 0 := rfl
  rw [Fields.instant, off]
  dsimp only
  rw [textFields_date valid, textFields_time valid]
  dsimp only
  rw [if_pos (by decide), Fields.instantAt, textFields_date valid, textFields_time valid]
  dsimp only
  rw [whole, if_pos valid.inRange]

/-- The exact reader reads the fields back from the text of an instant of the years 0 to 9999,
with its offset written `+00:00`. -/
theorem scanRfc3339_text {t : Instant} (valid : t.Valid) (low : 0 ≤ t.date.1) (high : t.date.1 ≤ 9999) :
    scanRfc3339 ((t.dateTimeText "T").toList ++ ((fractionText t.nanos).toList ++
      ['+', '0', '0', ':', '0', '0'])) = .ok (t.textFields, []) := by
  obtain ⟨dateOk, -⟩ := date_spec valid
  obtain ⟨hourLt, minuteLt, secondLe, -, -⟩ := clock_spec valid
  simp only [validDate, Bool.and_eq_true, decide_eq_true_eq] at dateOk
  obtain ⟨⟨⟨⟨-, monthLow⟩, monthHigh⟩, dayLow⟩, dayHigh⟩ := dateOk
  have dayMost := Nat.le_trans dayHigh (daysInMonth_le _ _)
  rw [show "T" = String.singleton 'T' from rfl, toList_dateTimeText_append, yearText_of_four low high]
  unfold textFields
  clear valid
  obtain ⟨y, same⟩ : ∃ y : Nat, t.date.1 = y := ⟨t.date.1.toNat, (Int.toNat_of_nonneg low).symm⟩
  rw [same] at high dayHigh ⊢
  simp only [Int.toNat_natCast]
  generalize t.date.2.1 = mo at *
  generalize t.date.2.2 = d at *
  generalize t.clock.1 = h at *
  generalize t.clock.2.1 = mi at *
  generalize t.clock.2.2 = sec at *
  generalize t.nanos = nanos at *
  have readYear : ∀ rest, scanNumber ((padded 4 y).toList ++ rest) 4 4 = .ok (y, rest) :=
    fun rest => scanNumber_width rest (by decide) (by omega) (by omega)
  have two : ∀ {n}, n < 100 → ∀ rest, scanNumber ((padded 2 n).toList ++ rest) 2 2 = .ok (n, rest) :=
    fun fits rest => scanNumber_width rest (by decide) fits (by omega)
  have ranges : (-2147483648 : Int) ≤ y ∧ (y : Int) ≤ 2147483647 ∧ (1 : Int) ≤ mo ∧ (mo : Int) ≤ 12 ∧
      (1 : Int) ≤ d ∧ (d : Int) ≤ 31 ∧ (h : Int) ≤ 23 ∧ (mi : Int) ≤ 59 ∧ (sec : Int) ≤ 60 := by
    omega
  have offset : scanOffset ['+', '0', '0', ':', '0', '0'] (fun s => scanChar s ':') true = .ok (0, []) :=
    rfl
  rcases fractionText_cases nanos with ⟨whole, empty⟩ | ⟨k, v, kLow, kHigh, fits, scaled, nonzero, chars⟩
  · rw [empty]
    simp only [scanRfc3339, ↓Char.isValue, String.toList_empty, List.nil_append, readYear, Fields.set,
      Int.reduceNeg, Int.neg_ofNat_le_natCast, true_and, Except.map, setField, Int.toNat_natCast, beq_iff_eq,
      pure, Except.pure, Int.natCast_nonneg, gt_iff_lt, Fields.setOffset, ok_bind, bind_assoc, ranges,
      ↓reduceIte, scanChar_self, two (show mo < 100 by omega), and_self, two (show d < 100 by omega),
      Char.reduceEq, or_self, or_false, two (show h < 100 by omega), two (show mi < 100 by omega),
      two (show sec < 100 by omega), List.cons.injEq, false_and, imp_self, implies_true, offset, Int.neg_pos,
      Int.reduceLT, Int.neg_ofNat_le_ofNat, Int.zero_le_ofNat, fractionField, whole]
  · have readNanos : scanNanos ((padded k v).toList ++ ['+', '0', '0', ':', '0', '0']) =
        .ok (nanos % 1000000000, ['+', '0', '0', ':', '0', '0']) := by
      rw [scanNanos_padded kLow kHigh fits (stopsDigits_cons _ rfl), scaled]
    have small : nanos % 1000000000 ≤ 999999999 := by omega
    rw [chars]
    simp only [scanRfc3339, ↓Char.isValue, List.cons_append, readYear, Fields.set, Int.reduceNeg,
      Int.neg_ofNat_le_natCast, true_and, Except.map, setField, Int.toNat_natCast, beq_iff_eq, pure,
      Except.pure, Int.natCast_nonneg, Fields.setNanos, gt_iff_lt, Fields.setOffset, ok_bind, bind_assoc,
      ranges, ↓reduceIte, scanChar_self, two (show mo < 100 by omega), and_self,
      two (show d < 100 by omega), Char.reduceEq, or_self, or_false, two (show h < 100 by omega),
      two (show mi < 100 by omega), two (show sec < 100 by omega), readNanos, small, offset, Int.neg_pos,
      Int.reduceLT, Int.neg_ofNat_le_ofNat, Int.zero_le_ofNat, fractionField, nonzero]

end Instant

/-! The relaxed reader reads the same text part by part. -/

theorem isBlank_of_isDigit {c : Char} (digit : isDigit c = true) : Text.isBlank c = false := by
  simp only [isDigit, decide_eq_true_eq, Char.le_def] at digit
  have low : 48 ≤ c.toNat := digit.1
  have high : c.toNat ≤ 57 := digit.2
  simp only [Text.isBlank, Bool.or_eq_false_iff, decide_eq_false_iff_not, beq_eq_false_iff_ne]
  omega

theorem dropWhile_isBlank_padded (w n : Nat) (rest : List Char) :
    ((Instant.padded w n).toList ++ rest).dropWhile Text.isBlank = (Instant.padded w n).toList ++ rest := by
  obtain ⟨c, cs, chars⟩ : ∃ c cs, (Instant.padded w n).toList = c :: cs :=
    List.exists_cons_of_ne_nil (by simp [Instant.toList_padded])
  have digit := Instant.isDigit_of_mem_padded (chars ▸ List.mem_cons_self .. : c ∈ (Instant.padded w n).toList)
  rw [chars, List.cons_append, List.dropWhile_cons_of_neg (by simp [isBlank_of_isDigit digit])]

theorem Item.scan_number_padded (f : Fields) (part : Part) {w n : Nat} (rest : List Char)
    (wide : 0 < w) (fits : n < 10 ^ w) (small : n ≤ 9223372036854775807) :
    Item.scan f ((Instant.padded w n).toList ++ rest) (.number part w false) =
      f.set part n >>= fun f => .ok (f, rest) := by
  have size := Instant.length_padded wide fits
  unfold Item.scan
  rw [dropWhile_isBlank_padded]
  dsimp only
  rw [scanNumber_padded (by omega) (by omega) (by omega) small]
  rfl

theorem length_padded_le {w n k : Nat} (wk : w ≤ k) (wide : 0 < k) (fits : n < 10 ^ k) :
    1 ≤ (Instant.padded w n).toList.length ∧ (Instant.padded w n).toList.length ≤ k := by
  have short : (Nat.toDigits 10 n).length ≤ k := (Nat.length_toDigits_le_iff (by decide) wide).mpr fits
  have some : 0 < (Nat.toDigits 10 n).length := List.length_pos_iff.mpr Nat.toDigits_ne_nil
  rw [Instant.toList_padded, List.length_append, List.length_replicate]
  omega

/-- A year after its sign is read with all its digits, the dash after it stopping them. -/
theorem scanNumber_signedYear {n : Nat} (rest : List Char) (fits : n < 10 ^ 6) :
    scanNumber ((Instant.padded 4 n).toList ++ '-' :: rest) 1 1000 = .ok (n, '-' :: rest) := by
  obtain ⟨low, high⟩ := length_padded_le (show 4 ≤ 6 by decide) (by decide) fits
  exact scanNumber_padded low (by omega) (fun _ => stopsDigits_cons rest rfl) (by omega)

/-- The year of the relaxed form, with a sign outside 0 to 9999, is read as the year. -/
theorem Item.scan_year (f : Fields) {y : Int} (rest : List Char) (bounded : -1000000 < y ∧ y < 1000000) :
    Item.scan f ((Instant.yearText y).toList ++ '-' :: rest) (.number .year 4 true) =
      f.set .year y >>= fun f => .ok (f, '-' :: rest) := by
  unfold Item.scan Instant.yearText
  by_cases four : 0 ≤ y ∧ y ≤ 9999
  · rw [if_pos four, dropWhile_isBlank_padded]
    obtain ⟨c, cs, chars⟩ : ∃ c cs, (Instant.padded 4 y.toNat).toList = c :: cs :=
      List.exists_cons_of_ne_nil (by simp [Instant.toList_padded])
    have digit := Instant.isDigit_of_mem_padded
      (chars ▸ List.mem_cons_self .. : c ∈ (Instant.padded 4 y.toNat).toList)
    dsimp only
    split
    · rename_i r same
      rw [chars, List.cons_append] at same
      cases same
      cases digit
    · rename_i r same
      rw [chars, List.cons_append] at same
      cases same
      cases digit
    · have size := Instant.length_padded (show 0 < 4 by decide) (show y.toNat < 10 ^ 4 by omega)
      rw [scanNumber_padded (by omega) (by omega) (by omega) (by omega)]
      show (f.set .year ((y.toNat : Nat) : Int) >>= fun f => .ok (f, '-' :: rest)) = _
      rw [Int.toNat_of_nonneg four.1]
  · rw [if_neg four]
    have fits : y.natAbs < 10 ^ 6 := by omega
    have read := scanNumber_signedYear rest fits
    by_cases negative : y < 0
    · have back : -((y.natAbs : Nat) : Int) = y := by omega
      have chars : ("-" ++ Instant.padded 4 y.natAbs).toList ++ '-' :: rest =
          '-' :: ((Instant.padded 4 y.natAbs).toList ++ '-' :: rest) := by
        simp
      rw [if_pos negative, chars, List.dropWhile_cons_of_neg (by decide)]
      dsimp only
      split
      · rename_i r same
        obtain ⟨-, rfl⟩ := List.cons.inj same
        rw [read]
        show (f.set .year (-((y.natAbs : Nat) : Int)) >>= fun f => .ok (f, '-' :: rest)) = _
        rw [back]
      · rename_i r same
        exact absurd (List.cons.inj same).1 (by decide)
      · rename_i notMinus _
        exact absurd rfl (notMinus _ rfl)
    · have back : ((y.natAbs : Nat) : Int) = y := by omega
      have chars : ("+" ++ Instant.padded 4 y.natAbs).toList ++ '-' :: rest =
          '+' :: ((Instant.padded 4 y.natAbs).toList ++ '-' :: rest) := by
        simp
      rw [if_neg negative, chars, List.dropWhile_cons_of_neg (by decide)]
      dsimp only
      split
      · rename_i r same
        exact absurd (List.cons.inj same).1 (by decide)
      · rename_i r same
        obtain ⟨-, rfl⟩ := List.cons.inj same
        rw [read]
        show (f.set .year ((y.natAbs : Nat) : Int) >>= fun f => .ok (f, '-' :: rest)) = _
        rw [back]
      · rename_i _ notPlus
        exact absurd rfl (notPlus _ rfl)

theorem Item.scan_blanks (f : Fields) {c : Char} (rest : List Char) (solid : Text.isBlank c = false) :
    Item.scan f (c :: rest) .blanks = .ok (f, c :: rest) := by
  simp [Item.scan, solid]

theorem Item.scan_literal (f : Fields) (c : Char) (rest : List Char) :
    Item.scan f (c :: rest) (.literal [c]) = .ok (f, rest) := by
  have long : byteLength [c] ≤ byteLength (c :: rest) := by
    simp only [byteLength, List.map_cons, List.foldl_cons]
    have grow : ∀ (l : List Nat) (acc : Nat), acc ≤ l.foldl (· + ·) acc := by
      intro l
      induction l with
      | nil => intro acc; exact Nat.le_refl acc
      | cons x xs ih => intro acc; exact Nat.le_trans (Nat.le_add_right acc x) (ih (acc + x))
    exact grow _ _
  simp [Item.scan, Nat.not_lt.mpr long, List.isPrefixOf]

/-- The fraction of a second, before the `Z` of the offset, is read as the nanoseconds within
the second it writes. -/
theorem Item.scan_fraction (f : Fields) (nanos : Nat) (rest : List Char) (unset : f.nanosecond = none) :
    Item.scan f ((Instant.fractionText nanos).toList ++ 'Z' :: rest) .fraction =
      .ok ({ f with nanosecond := Instant.fractionField nanos }, 'Z' :: rest) := by
  rcases Instant.fractionText_cases nanos with ⟨whole, empty⟩ | ⟨k, v, kLow, kHigh, fits, scaled, nonzero, chars⟩
  · rw [empty, String.toList_empty, List.nil_append]
    unfold Item.scan
    dsimp only
    split
    · rename_i r same
      exact absurd (List.cons.inj same).1 (by decide)
    · rw [Instant.fractionField, if_pos whole, ← unset]
  · rw [chars, List.cons_append]
    unfold Item.scan
    dsimp only
    split
    · rename_i r same
      obtain ⟨-, rfl⟩ := List.cons.inj same
      have small : nanos % 1000000000 ≤ 999999999 := by omega
      rw [scanNanos_padded kLow kHigh fits (stopsDigits_cons rest rfl), ok_bind, scaled]
      simp [Fields.setNanos, small, unset, setField, Except.map, Functor.map, Instant.fractionField,
        nonzero]
    · rename_i notPoint
      exact absurd rfl (notPoint _)

/-- The exact reader gives back every instant of the years 0 to 9999 that the calendar holds from
its text, with `Z` written `+00:00`. -/
theorem rfc3339_text {t : Instant} (valid : t.Valid) (low : 0 ≤ t.date.1) (high : t.date.1 ≤ 9999) :
    rfc3339 (t.dateTimeText "T" ++ Instant.fractionText t.nanos ++ "+00:00") = .ok t := by
  have chars : (t.dateTimeText "T" ++ Instant.fractionText t.nanos ++ "+00:00").toList =
      (t.dateTimeText "T").toList ++ ((Instant.fractionText t.nanos).toList ++
        ['+', '0', '0', ':', '0', '0']) := by
    simp
  rw [rfc3339, chars, Instant.scanRfc3339_text valid low high, ok_bind]
  dsimp only
  rw [if_neg (by decide)]
  exact Instant.textFields_instant valid

theorem scanOffset_zulu (rest : List Char) (sep : List Char → Except TimeError (List Char)) :
    scanOffset ('Z' :: rest) sep true = .ok (0, rest) := rfl

theorem relaxed_text {t : Instant} (valid : t.Valid) : relaxed t.text = .ok t := by
  obtain ⟨dateOk, -⟩ := Instant.date_spec valid
  obtain ⟨hourLt, minuteLt, secondLe, -, -⟩ := Instant.clock_spec valid
  simp only [validDate, Bool.and_eq_true, decide_eq_true_eq] at dateOk
  obtain ⟨⟨⟨⟨⟨yearLow, yearHigh⟩, monthLow⟩, monthHigh⟩, dayLow⟩, dayHigh⟩ := dateOk
  have dayMost := Nat.le_trans dayHigh (Instant.daysInMonth_le _ _)
  have chars : t.text.toList = (t.dateTimeText (String.singleton 'T')).toList ++
      ((Instant.fractionText t.nanos).toList ++ ['Z']) := by
    simp [Instant.text]
  have yearBounded : -1000000 < t.date.1 ∧ t.date.1 < 1000000 := by
    simp only [minYear, maxYear] at yearLow yearHigh
    omega
  have year : ∀ (f : Fields) rest, Item.scan f ((Instant.yearText t.date.1).toList ++ '-' :: rest)
      (.number .year 4 true) = f.set .year t.date.1 >>= fun f => .ok (f, '-' :: rest) :=
    fun f rest => Item.scan_year f rest yearBounded
  have two : ∀ (f : Fields) (part : Part) {n}, n < 100 → ∀ rest,
      Item.scan f ((Instant.padded 2 n).toList ++ rest) (.number part 2 false) =
        f.set part n >>= fun f => .ok (f, rest) :=
    fun f part _ fits rest => Item.scan_number_padded f part rest (by decide) fits (by omega)
  have ranges : (-2147483648 : Int) ≤ t.date.1 ∧ t.date.1 ≤ 2147483647 ∧ (1 : Int) ≤ t.date.2.1 ∧
      (t.date.2.1 : Int) ≤ 12 ∧ (1 : Int) ≤ t.date.2.2 ∧ (t.date.2.2 : Int) ≤ 31 ∧
      (t.clock.1 : Int) ≤ 23 ∧ (t.clock.2.1 : Int) ≤ 59 ∧ (t.clock.2.2 : Int) ≤ 60 := by
    omega
  have dash : Text.isBlank '-' = false := by decide
  have colon : Text.isBlank ':' = false := by decide
  have zulu : Text.isBlank 'Z' = false := by decide
  rw [relaxed, chars, Instant.toList_dateTimeText_append]
  simp only [↓Char.isValue, relaxedDate, scanItems, year, Fields.set, Int.reduceNeg, ranges, and_self,
    ↓reduceIte, Except.map, setField, ok_bind, dash, Item.scan_blanks, Item.scan_literal,
    two _ _ (show t.date.2.1 < 100 by omega), Int.toNat_natCast, pure, Except.pure,
    two _ _ (show t.date.2.2 < 100 by omega), beq_iff_eq, relaxedTime, startsWithUtc, Bool.decide_and,
    Fields.setOffset, List.isEmpty_iff, ite_not, Int.neg_ofNat_le_ofNat, Int.zero_le_ofNat,
    Bool.decide_or, Bool.decide_eq_true, bind_assoc, Char.reduceEq, or_self, or_false,
    two _ _ (show t.clock.1 < 100 by omega), Int.natCast_nonneg, colon,
    two _ _ (show t.clock.2.1 < 100 by omega), two _ _ (show t.clock.2.2 < 100 by omega),
    Item.scan_fraction, zulu, Bool.false_eq_true, not_false_eq_true, List.dropWhile_cons_of_neg,
    scanOffset_zulu, List.dropWhile_nil]
  exact Instant.textFields_instant valid

end TrackerSync.Time

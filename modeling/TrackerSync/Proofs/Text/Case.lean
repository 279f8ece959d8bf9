import Mathlib.Data.List.DropRight
import TrackerSync.Status
import TrackerSync.Proofs.Snapshot.Writes

/-!
Lower case is stable: lowering twice lowers once, and a trimmed text stays trimmed.
-/

namespace TrackerSync.Text

/-- Lower-casing leaves the character as it is, and it is not the capital sigma (whose lower case
depends on its neighbours). -/
def lowerFixed (c : Char) : Bool := lowerChar c == [c] && c.toNat != 0x3A3

def runImage (run : Nat × Nat × Nat × Int) (k : Nat) : Nat :=
  Int.toNat (((run.1 + k * run.2.2.1 : Nat) : Int) + run.2.2.2)

def runHolds (run : Nat × Nat × Nat × Int) (n : Nat) : Bool :=
  Nat.ble run.1 n && Nat.blt n (run.1 + run.2.1 * run.2.2.1) && (n - run.1) % run.2.2.1 == 0

/-- A code point of a valid character that is not blank and is none of the characters whose lower
case is not themselves by rule: an upper-case ASCII letter, `İ` and `Σ`. -/
def plainImage (m : Nat) : Bool :=
  decide m.isValidChar && !(Nat.ble 65 m && Nat.blt m 91) && m != 0x130 && m != 0x3A3 &&
    !isBlank (Char.ofNat m)

theorem lowerRuns_images_plain : ∀ run ∈ lowerRuns, 0 < run.2.2.1 ∧
    0 ≤ ((run.1 : Nat) : Int) + run.2.2.2 ∧ ∀ k < run.2.1, plainImage (runImage run k) = true := by
  decide +kernel

/-- The images of a run miss every run: their interval misses it, or none of them is one of its
characters. -/
theorem lowerRuns_images_apart : ∀ run ∈ lowerRuns, ∀ other ∈ lowerRuns,
    (other.1 + other.2.1 * other.2.2.1 ≤ runImage run 0 ∨
      runImage run 0 + run.2.1 * run.2.2.1 ≤ other.1) ∨
    ∀ k < run.2.1, runHolds other (runImage run k) = false := by
  decide +kernel

theorem runHolds_iff (run : Nat × Nat × Nat × Int) (n : Nat) :
    runHolds run n = true ↔
      run.1 ≤ n ∧ n < run.1 + run.2.1 * run.2.2.1 ∧ (n - run.1) % run.2.2.1 = 0 := by
  simp [runHolds, and_assoc]

theorem runImage_outside {run : Nat × Nat × Nat × Int} (listed : run ∈ lowerRuns) {k : Nat}
    (inRun : k < run.2.1) {other : Nat × Nat × Nat × Int} (listed' : other ∈ lowerRuns) :
    runHolds other (runImage run k) = false := by
  obtain ⟨forward, start, -⟩ := lowerRuns_images_plain run listed
  rcases lowerRuns_images_apart run listed other listed' with apart | pointwise
  · -- the images of a run lie within one interval, which misses the other run
    have shift : runImage run k = runImage run 0 + k * run.2.2.1 := by
      unfold runImage
      omega
    have within : k * run.2.2.1 < run.2.1 * run.2.2.1 := Nat.mul_lt_mul_of_pos_right inRun forward
    rw [Bool.eq_false_iff, ne_eq, runHolds_iff]
    omega
  · exact pointwise k inRun

theorem lowerOffset_eq_zero {n : Nat} (outside : ∀ run ∈ lowerRuns, runHolds run n = false) :
    lowerOffset n = 0 := by
  unfold lowerOffset
  split
  · next first count step d found =>
    have holds := List.find?_some found
    have missed := outside _ (List.mem_of_find?_eq_some found)
    rw [Bool.eq_false_iff, ne_eq, runHolds_iff] at missed
    simp only [decide_eq_true_eq, beq_iff_eq] at holds
    exact absurd holds missed
  · rfl

theorem lowerOffset_run {n : Nat} (moved : lowerOffset n ≠ 0) :
    ∃ run ∈ lowerRuns, ∃ k < run.2.1, n = run.1 + k * run.2.2.1 ∧ lowerOffset n = run.2.2.2 := by
  unfold lowerOffset at moved ⊢
  split at moved
  · next first count step d found =>
    have holds := List.find?_some found
    simp only [decide_eq_true_eq, beq_iff_eq] at holds
    obtain ⟨above, below, aligned⟩ := holds
    -- the position in the run: the distance from its first character, in steps
    have split : n - first = (n - first) / step * step :=
      (Nat.div_mul_cancel (Nat.dvd_of_mod_eq_zero aligned)).symm
    have inRun : (n - first) / step < count := by
      refine Nat.lt_of_mul_lt_mul_right (a := step) ?_
      omega
    refine ⟨(first, count, step, d), List.mem_of_find?_eq_some found, (n - first) / step, inRun,
      ?_, rfl⟩
    dsimp only
    omega
  · exact absurd rfl moved

theorem ascii_lower_fixed : ∀ n < 0x80, ¬(65 ≤ n ∧ n < 91) →
    [(Char.ofNat n).toLower] = [Char.ofNat n] := by
  decide

/-- The character of a plain code point outside every run is its own lower case. -/
theorem lowerChar_plain {m : Nat} (plain : plainImage m = true)
    (outside : ∀ run ∈ lowerRuns, runHolds run m = false) :
    lowerFixed (Char.ofNat m) = true ∧ isBlank (Char.ofNat m) = false := by
  simp only [plainImage, Bool.and_eq_true, decide_eq_true_eq, Bool.not_eq_true', bne_iff_ne,
    ne_eq] at plain
  obtain ⟨⟨⟨⟨valid, notUpper⟩, notDotted⟩, notSigma⟩, notBlank⟩ := plain
  have point : (Char.ofNat m).toNat = m := by
    rw [Char.ofNat, dif_pos valid]
    rfl
  refine ⟨?_, notBlank⟩
  have same : lowerChar (Char.ofNat m) = [Char.ofNat m] := by
    unfold lowerChar
    rw [point]
    split
    · next ascii =>
      have lowerCase : ¬(65 ≤ m ∧ m < 91) := by
        rintro ⟨low, high⟩
        rw [Nat.ble_eq_true_of_le low, show Nat.blt m 91 = true from Nat.blt_eq.mpr high] at notUpper
        exact absurd notUpper (by decide)
      exact ascii_lower_fixed m ascii lowerCase
    · rw [if_neg (by simpa using notDotted), lowerOffset_eq_zero outside, Int.add_zero,
        Int.toNat_natCast]
  simp [lowerFixed, same, point, notSigma]

theorem lowerChar_ascii : ∀ n < 0x80, ∀ d ∈ lowerChar (Char.ofNat n),
    lowerFixed d ∧ (isBlank (Char.ofNat n) = false → isBlank d = false) := by
  -- checked as one Boolean table, so that each image is looked up in its list and not among
  -- every character
  have table : ∀ n < 0x80, (lowerChar (Char.ofNat n)).all
      (fun d => lowerFixed d && (isBlank (Char.ofNat n) || !isBlank d)) = true := by
    decide
  intro n ascii d mem
  have entry := List.all_eq_true.mp (table n ascii) d mem
  rw [Bool.and_eq_true, Bool.or_eq_true, Bool.not_eq_true'] at entry
  exact ⟨entry.1, fun notBlank => entry.2.resolve_left (by rw [notBlank]; decide)⟩

theorem lowerChar_dotted : ∀ d ∈ lowerChar (Char.ofNat 0x130), lowerFixed d ∧ isBlank d = false := by
  have images : (lowerChar (Char.ofNat 0x130)).all (fun d => lowerFixed d && !isBlank d) = true := by
    decide
  intro d mem
  have entry := List.all_eq_true.mp images d mem
  rw [Bool.and_eq_true, Bool.not_eq_true'] at entry
  exact entry

/-- Lower-casing writes only characters it leaves as they are, and a blank only for a blank. -/
theorem lowerChar_fixed (c : Char) :
    ∀ d ∈ lowerChar c, lowerFixed d ∧ (isBlank c = false → isBlank d = false) := by
  intro d mem
  by_cases ascii : c.toNat < 0x80
  · rw [← Char.ofNat_toNat c] at mem ⊢
    exact lowerChar_ascii c.toNat ascii d mem
  by_cases dotted : c.toNat = 0x130
  · rw [← Char.ofNat_toNat c, dotted] at mem
    obtain ⟨fixed, notBlank⟩ := lowerChar_dotted d mem
    exact ⟨fixed, fun _ => notBlank⟩
  unfold lowerChar at mem
  rw [if_neg ascii, if_neg (by simpa using dotted), List.mem_singleton] at mem
  subst mem
  by_cases moved : lowerOffset c.toNat = 0
  · -- a character outside every run is its own lower case
    have same : Char.ofNat (Int.toNat (c.toNat + lowerOffset c.toNat)) = c := by
      rw [moved, Int.add_zero, Int.toNat_natCast, Char.ofNat_toNat]
    have notSigma : c.toNat ≠ 0x3A3 := by
      intro sigma
      rw [sigma] at moved
      exact absurd moved (by decide)
    rw [same]
    refine ⟨?_, id⟩
    simp [lowerFixed, lowerChar, ascii, dotted, moved, notSigma]
  · obtain ⟨run, listed, k, inRun, position, offset⟩ := lowerOffset_run moved
    have image : Int.toNat (c.toNat + lowerOffset c.toNat) = runImage run k := by
      rw [offset, position]
      rfl
    obtain ⟨fixed, notBlank⟩ := lowerChar_plain
      ((lowerRuns_images_plain run listed).2.2 k inRun)
      fun other listed' => runImage_outside listed inRun listed'
    rw [image]
    exact ⟨fixed, fun _ => notBlank⟩

theorem lowerChar_ne_nil (c : Char) : lowerChar c ≠ [] := by
  unfold lowerChar
  split
  · simp
  · split <;> simp

def lowerAt (before : List Char) (c : Char) (after : List Char) : List Char :=
  if c.toNat == 0x3A3 then
    if casedAfterIgnorable before ∧ ¬ casedAfterIgnorable after then [Char.ofNat 0x3C2]
    else [Char.ofNat 0x3C3]
  else lowerChar c

theorem lowerChars_cons (before : List Char) (c : Char) (cs : List Char) :
    lowerChars before (c :: cs) = lowerAt before c cs ++ lowerChars (c :: before) cs := rfl

theorem lowerAt_fixed (before : List Char) (c : Char) (after : List Char) :
    lowerAt before c after ≠ [] ∧
      ∀ d ∈ lowerAt before c after, lowerFixed d ∧ (isBlank c = false → isBlank d = false) := by
  unfold lowerAt
  split
  · split
    · exact ⟨by simp, fun d mem => by
        rw [List.mem_singleton.mp mem]
        exact ⟨by decide, fun _ => by decide⟩⟩
    · exact ⟨by simp, fun d mem => by
        rw [List.mem_singleton.mp mem]
        exact ⟨by decide, fun _ => by decide⟩⟩
  · exact ⟨lowerChar_ne_nil c, lowerChar_fixed c⟩

theorem lowerChars_fixed (before cs : List Char) : ∀ d ∈ lowerChars before cs, lowerFixed d := by
  induction cs generalizing before with
  | nil => intro d mem; cases mem
  | cons c rest ih =>
    intro d mem
    rw [lowerChars_cons] at mem
    rcases List.mem_append.mp mem with here | later
    · exact ((lowerAt_fixed before c rest).2 d here).1
    · exact ih _ d later

theorem lowerChars_of_fixed (before cs : List Char) (fixed : ∀ d ∈ cs, lowerFixed d) :
    lowerChars before cs = cs := by
  induction cs generalizing before with
  | nil => rfl
  | cons c rest ih =>
    have stays := fixed c List.mem_cons_self
    simp only [lowerFixed, Bool.and_eq_true, beq_iff_eq, bne_iff_ne, ne_eq] at stays
    have here : lowerAt before c rest = [c] := by
      simp [lowerAt, stays.1, stays.2]
    rw [lowerChars_cons, here, ih _ fun d mem => fixed d (List.mem_cons_of_mem c mem)]
    rfl

theorem lower_lower (s : String) : lower (lower s) = lower s := by
  unfold lower
  rw [String.toList_ofList, lowerChars_of_fixed _ _ (lowerChars_fixed [] s.toList)]

theorem lowerChars_head (before : List Char) (c : Char) (cs : List Char) (notBlank : isBlank c = false) :
    ∃ d rest, lowerChars before (c :: cs) = d :: rest ∧ isBlank d = false := by
  obtain ⟨nonempty, fixed⟩ := lowerAt_fixed before c cs
  obtain ⟨d, rest, written⟩ := List.exists_cons_of_ne_nil nonempty
  refine ⟨d, rest ++ lowerChars (c :: before) cs, by rw [lowerChars_cons, written]; rfl, ?_⟩
  exact (fixed d (by rw [written]; exact List.mem_cons_self)).2 notBlank

theorem lowerChars_last (before cs : List Char) (c : Char) (notBlank : isBlank c = false) :
    ∃ front d, lowerChars before (cs ++ [c]) = front ++ [d] ∧ isBlank d = false := by
  induction cs generalizing before with
  | nil =>
    obtain ⟨nonempty, fixed⟩ := lowerAt_fixed before c []
    obtain ⟨front, d, written⟩ := (List.eq_nil_or_concat _).resolve_left nonempty
    refine ⟨front, d, ?_, (fixed d (by rw [written]; simp)).2 notBlank⟩
    rw [List.nil_append, lowerChars_cons, written, List.concat_eq_append,
      show lowerChars (c :: before) [] = [] from rfl, List.append_nil]
  | cons c' rest ih =>
    obtain ⟨front, d, written, lastNotBlank⟩ := ih (c' :: before)
    refine ⟨lowerAt before c' (rest ++ [c]) ++ front, d, ?_, lastNotBlank⟩
    rw [List.cons_append, lowerChars_cons, written, List.append_assoc]

theorem trim_head {s : String} {c : Char} {cs : List Char} (chars : (trim s).toList = c :: cs) :
    isBlank c = false := by
  have leading := dropWhile_trim s
  rw [chars] at leading
  simpa using List.dropWhile_eq_self_iff.mp leading (Nat.zero_lt_succ cs.length)

theorem trim_last {s : String} {c : Char} {cs : List Char} (chars : (trim s).toList = cs ++ [c]) :
    isBlank c = false := by
  have trailing := rdropWhile_trim s
  rw [chars] at trailing
  simpa using List.rdropWhile_eq_self_iff.mp trailing (by simp)

theorem trim_lower_trim (s : String) : trim (lower (trim s)) = lower (trim s) := by
  have front : (lowerChars [] (trim s).toList).dropWhile isBlank = lowerChars [] (trim s).toList := by
    cases chars : (trim s).toList with
    | nil => rfl
    | cons c cs =>
      obtain ⟨d, rest, written, lowered⟩ := lowerChars_head [] c cs (trim_head chars)
      rw [written, List.dropWhile_cons_of_neg (by simp [lowered])]
  have back : (lowerChars [] (trim s).toList).rdropWhile isBlank = lowerChars [] (trim s).toList := by
    rcases List.eq_nil_or_concat (trim s).toList with empty | ⟨cs, c, chars⟩
    · rw [empty]
      rfl
    · rw [List.concat_eq_append] at chars
      obtain ⟨front, d, written, lowered⟩ := lowerChars_last [] cs c (trim_last chars)
      rw [chars, written, List.rdropWhile_concat_neg _ _ _ (by simp [lowered])]
  unfold lower
  rw [trim_eq_rdropWhile, String.toList_ofList, front, back]

/-- A lowered trimmed text that is not empty starts with a character that is not blank. -/
theorem isBlankText_lower_trim {s : String} (nonempty : lower (trim s) ≠ "") :
    isBlankText (lower (trim s)) = false := by
  unfold lower at nonempty ⊢
  unfold isBlankText
  rw [String.toList_ofList]
  cases chars : (trim s).toList with
  | nil => rw [chars] at nonempty; exact absurd rfl nonempty
  | cons c cs =>
    obtain ⟨d, rest, written, lowered⟩ := lowerChars_head [] c cs (trim_head chars)
    rw [written, List.all_cons, lowered, Bool.false_and]

end TrackerSync.Text

namespace TrackerSync.Status

theorem canonicalStatuses_keys : ∀ c ∈ canonicalStatuses, key c = c ∧ Text.isBlankText c = false := by
  decide

theorem statusSynonyms_canonical : ∀ p ∈ statusSynonyms, p.2 ∈ canonicalStatuses := by
  decide

theorem lookup_mem {k c : String} (found : lookup k = some c) : c ∈ canonicalStatuses := by
  unfold lookup at found
  split at found
  · next listed =>
    cases found
    exact List.contains_iff_mem.mp listed
  · obtain ⟨p, synonym, rfl⟩ := Option.map_eq_some_iff.mp found
    exact statusSynonyms_canonical p (List.mem_of_find?_eq_some synonym)

theorem lookup_canonical {c : String} (listed : c ∈ canonicalStatuses) : lookup c = some c := by
  rw [lookup, if_pos (List.contains_iff_mem.mpr listed)]

theorem key_key (s : String) : key (key s) = key s := by
  unfold key
  rw [Text.trim_lower_trim, Text.lower_lower]

theorem canonical_canonical (s : String) : canonical (canonical s) = canonical s := by
  unfold canonical
  cases found : lookup (key s) with
  | some c =>
    have listed := lookup_mem found
    dsimp only
    rw [(canonicalStatuses_keys c listed).1, lookup_canonical listed]
  | none =>
    dsimp only
    rw [key_key, found]

theorem isBlankText_canonical {s : String} (nonempty : canonical s ≠ "") :
    Text.isBlankText (canonical s) = false := by
  unfold canonical at nonempty ⊢
  cases found : lookup (key s) with
  | some c => exact (canonicalStatuses_keys c (lookup_mem found)).2
  | none =>
    rw [found] at nonempty
    exact Text.isBlankText_lower_trim nonempty

end TrackerSync.Status

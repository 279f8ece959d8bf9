import TrackerSync.Json.Decode
import TrackerSync.Proofs.Json.Reading
import TrackerSync.Proofs.Text.Digits

/-!
Reading records back from their compact text, field by field, for the shapes of integers,
strings, options, lists of strings and nested records.
-/

namespace TrackerSync.Obj

theorem get?_insert (members : List (String × Json)) (k k' : String) (v : Json) :
    get? (insert members k v) k' = if k = k' then some v else get? members k' := by
  induction members with
  | nil => by_cases same : k = k' <;> simp [insert, get?, same]
  | cons member rest ih =>
    obtain ⟨key, value⟩ := member
    by_cases before : k < key
    · rw [insert, if_pos before]
      by_cases same : k = k' <;> simp [get?, same]
    · by_cases replaces : k = key
      · subst replaces
        rw [insert, if_neg before, if_pos (beq_self_eq_true k)]
        by_cases same : k = k' <;> simp [get?, same]
      · rw [insert, if_neg before, if_neg (by simpa using replaces)]
        by_cases here : key = k'
        · subst here
          simp [get?, replaces]
        · have skip : (key == k') = false := by simpa using here
          simp only [get?, List.find?_cons, skip] at ih ⊢
          exact ih

theorem get?_foldl_insert (members acc : List (String × Json)) (k : String) :
    get? (members.foldl (fun acc (k, v) => insert acc k v) acc) k =
      ((members.reverse.find? (·.1 == k)).map (·.2)).or (get? acc k) := by
  induction members generalizing acc with
  | nil => simp
  | cons member rest ih =>
    obtain ⟨key, value⟩ := member
    rw [List.foldl_cons, ih, get?_insert, List.reverse_cons, List.find?_append]
    by_cases same : key = k
    · simp only [same, if_true]
      cases List.find? (·.1 == k) rest.reverse <;> simp
    · simp [same]

theorem get?_ofList (members : List (String × Json)) (k : String) :
    get? (ofList members) k = (members.reverse.find? (·.1 == k)).map (·.2) := by
  rw [ofList, get?_foldl_insert]
  simp [get?]

end TrackerSync.Obj

namespace TrackerSync.Json

/-! Lookups of fields. -/

theorem getStr?_eq_bind (j : Json) (k : String) : j.getStr? k = (j.get? k).bind asStr? := by
  unfold getStr?
  cases j.get? k with
  | none => rfl
  | some v => cases v <;> rfl

@[simp] theorem asStr?_str (x : String) : (Json.str x).asStr? = some x := rfl

@[simp] theorem asStr?_null : Json.null.asStr? = none := rfl

@[simp] theorem asStr?_ofOption (x : Option String) : (ofOption x).asStr? = x := by
  cases x <;> rfl

@[simp] theorem strings_ofStrings (xs : List String) : (ofStrings xs).strings = xs := by
  have reads : (asStr? ∘ Json.str) = some := rfl
  simp [ofStrings, strings, List.filterMap_map, reads]

namespace Cursor

theorem skipBlanks_of_rest {c : Cursor} {ch : Char} {r : List Char} (h : c.rest = ch :: r)
    (solid : isBlank ch = false) : c.skipBlanks = c := by
  rw [skipBlanks]
  split
  · rename_i ch' r' h'
    obtain ⟨rfl, rfl⟩ := List.cons.inj (h.symm.trans h')
    simp [solid]
  · rename_i h'
    rw [h] at h'

theorem skipBlanks_nil {c : Cursor} (h : c.rest = []) : c.skipBlanks = c := by
  rw [skipBlanks]
  split
  · rename_i ch r h'
    rw [h] at h'
    cases h'
  · rfl

end Cursor

def EndsNumber (r : List Char) : Prop :=
  ∀ ch rest, r = ch :: rest → ch.isDigit = false ∧ ch ≠ '.' ∧ ch ≠ 'e' ∧ ch ≠ 'E'

theorem readIntegerDigits_digits (positive : Bool) (ds : List Char) :
    ∀ (acc : Nat) {c : Cursor} {r : List Char}, c.rest = ds ++ r → (∀ ch ∈ ds, ch.isDigit) →
      Nat.ofDigitChars 10 ds acc ≤ u64Max → EndsNumber r →
      ∃ c', c'.rest = r ∧
        readIntegerDigits positive acc c = readNumberTail positive (Nat.ofDigitChars 10 ds acc) c' := by
  induction ds with
  | nil =>
    intro acc c r h _ _ ends
    refine ⟨c, h, ?_⟩
    rw [readIntegerDigits]
    split
    · rename_i ch rest h'
      rw [h, List.nil_append] at h'
      simp [(ends ch rest h').1]
    · rfl
  | cons d ds ih =>
    intro acc c r h digits fits ends
    have digit : d.isDigit := digits d (List.mem_cons_self ..)
    have next : Nat.ofDigitChars 10 ds (10 * acc + (d.toNat - 48)) ≤ u64Max := by
      rwa [Nat.ofDigitChars_cons] at fits
    have small : acc * 10 + (d.toNat - 48) ≤ u64Max := by
      have := le_ofDigitChars ds (10 * acc + (d.toNat - 48))
      omega
    obtain ⟨c', rest, read⟩ := ih (10 * acc + (d.toNat - 48)) (Cursor.advance_rest h)
      (fun ch mem => digits ch (List.mem_cons_of_mem d mem)) next ends
    refine ⟨c', rest, ?_⟩
    rw [readIntegerDigits]
    split
    · rename_i ch rest' h'
      rw [h, List.cons_append] at h'
      cases h'
      simp only [digit, if_true, Nat.ofDigitChars_cons]
      rw [if_neg (by omega), Nat.mul_comm acc 10]
      exact read
    · rename_i h'
      rw [h] at h'
      cases h'

theorem toDigits_head {n : Nat} (positive : 0 < n) :
    ∃ ch cs, Nat.toDigits 10 n = ch :: cs ∧ ch ≠ '0' := by
  induction n using Nat.strongRecOn with
  | _ n ih =>
    by_cases small : n < 10
    · have single : ∀ k < 10, 0 < k → k.digitChar ≠ '0' := by decide
      exact ⟨_, _, Nat.toDigits_of_lt_base small, single n small positive⟩
    · obtain ⟨ch, cs, front, nonzero⟩ := ih (n / 10) (by omega) (by omega)
      refine ⟨ch, cs ++ [(n % 10).digitChar], ?_, nonzero⟩
      rw [Nat.toDigits_of_base_le (by decide) (by omega), front, List.cons_append]

theorem readNumberTail_end (positive : Bool) (n : Nat) {c : Cursor} {r : List Char}
    (h : c.rest = r) (ends : EndsNumber r) :
    readNumberTail positive n c =
      if positive then .ok (.nat n, c)
      else if n == 0 then .ok (.float (-0.0), c)
      else if n ≤ Nat.pow 2 63 then .ok (.neg n, c)
      else .ok (.float (-(UInt64.toFloat (UInt64.ofNat n))), c) := by
  rw [readNumberTail]
  split
  · rename_i rest h'
    exact absurd rfl (ends '.' rest (h.symm.trans h')).2.1
  · rename_i rest h'
    exact absurd rfl (ends 'e' rest (h.symm.trans h')).2.2.1
  · rename_i rest h'
    exact absurd rfl (ends 'E' rest (h.symm.trans h')).2.2.2
  · rfl

/-- The digits of a natural that fits 64 bits are read back as it, with the sign read before. -/
theorem readUnsigned_toDigits (positive : Bool) {n : Nat} (fits : n ≤ u64Max) {c : Cursor}
    {r : List Char} (h : c.rest = Nat.toDigits 10 n ++ r) (ends : EndsNumber r) :
    ∃ c', c'.rest = r ∧ readUnsigned positive c = readNumberTail positive n c' := by
  have digits : ∀ ch ∈ Nat.toDigits 10 n, ch.isDigit :=
    fun _ mem => Nat.isDigit_of_mem_toDigits (by decide) (by decide) mem
  by_cases zero : n = 0
  · subst zero
    rw [Nat.toDigits_zero, List.singleton_append] at h
    refine ⟨c.advance, Cursor.advance_rest h, ?_⟩
    rw [readUnsigned, h]
    dsimp only
    rw [if_pos (beq_self_eq_true _)]
    split
    · rename_i d rest h'
      rw [Cursor.advance_rest h] at h'
      simp [(ends d rest h').1]
    · rfl
  · obtain ⟨ch, cs, front, nonzero⟩ := toDigits_head (Nat.pos_of_ne_zero zero)
    rw [front, List.cons_append] at h
    have digit : ch.isDigit := digits ch (by rw [front]; exact List.mem_cons_self ..)
    have value : Nat.ofDigitChars 10 cs (ch.toNat - 48) = n := by
      have := Nat.ofDigitChars_ten_toDigits (n := n)
      rwa [front, Nat.ofDigitChars_cons, Nat.mul_zero, Nat.zero_add] at this
    obtain ⟨c', rest, read⟩ := readIntegerDigits_digits positive cs (ch.toNat - 48)
      (Cursor.advance_rest h)
      (fun d mem => digits d (by rw [front]; exact List.mem_cons_of_mem ch mem))
      (by rw [value]; exact fits) ends
    refine ⟨c', rest, ?_⟩
    rw [readUnsigned, h]
    dsimp only
    rw [if_neg (by simpa using nonzero), if_pos digit, read, value]

theorem readNumber_toDigits {n : Nat} (fits : n ≤ u64Max) {c : Cursor} {r : List Char}
    (h : c.rest = Nat.toDigits 10 n ++ r) (ends : EndsNumber r) :
    ∃ c', c'.rest = r ∧ readNumber c = .ok (.nat n, c') := by
  obtain ⟨c', rest, read⟩ := readUnsigned_toDigits true fits h ends
  refine ⟨c', rest, ?_⟩
  have unsigned : readNumber c = readUnsigned true c := by
    rw [readNumber]
    split
    · rename_i tail h'
      have minus : '-' ∈ Nat.toDigits 10 n := by
        have := h.symm.trans h'
        cases front : Nat.toDigits 10 n with
        | nil => exact absurd front Nat.toDigits_ne_nil
        | cons d ds =>
          rw [front, List.cons_append] at this
          rw [(List.cons.inj this).1]
          exact List.mem_cons_self ..
      exact absurd (Nat.isDigit_of_mem_toDigits (by decide) (by decide) minus) (by decide)
    · rfl
  rw [unsigned, read, readNumberTail_end true n rest ends]
  rfl

theorem readNumber_minus_toDigits {n : Nat} (positive : 0 < n) (fits : n ≤ 2 ^ 63) {c : Cursor}
    {r : List Char} (h : c.rest = '-' :: (Nat.toDigits 10 n ++ r)) (ends : EndsNumber r) :
    ∃ c', c'.rest = r ∧ readNumber c = .ok (.neg n, c') := by
  obtain ⟨c', rest, read⟩ :=
    readUnsigned_toDigits false (by unfold u64Max; omega) (Cursor.advance_rest h) ends
  refine ⟨c', rest, ?_⟩
  rw [readNumber, h]
  rw [read, readNumberTail_end false n rest ends]
  have nonzero : (n == 0) = false := by simpa using Nat.pos_iff_ne_zero.mp positive
  have within : n ≤ Nat.pow 2 63 := fits
  simp only [Bool.false_eq_true, if_false, nonzero, if_pos within]

/-- A shape reads the compact text of a value back as the value, when a comma or a closing
bracket, or anything else that cannot go on a number, follows it. -/
def ReadsBack (shape : Shape) (v : Json) : Prop :=
  ∀ (fuel depth : Nat) {c : Cursor} {r : List Char}, c.rest = (compact v).toList ++ r →
    EndsNumber r → ∃ c', c'.rest = r ∧ readShape (fuel + 1) depth shape c = .ok (v, c')

theorem readShape_text (fuel depth : Nat) {c : Cursor} {r : List Char} (h : c.rest = '"' :: r) :
    readShape (fuel + 1) depth .text c = lift c ((readString c).map fun (s, c) => (.str s, c)) := by
  rw [readShape.eq_def]
  dsimp only
  rw [Cursor.skipBlanks_of_rest h rfl]
  simp only [h]

theorem readShape_signed (fuel depth : Nat) (name : String) (lo hi : Int) {c : Cursor} {ch : Char}
    {r : List Char} (h : c.rest = ch :: r) (numeral : (ch == '-' || ch.isDigit) = true) :
    readShape (fuel + 1) depth (.signed name lo hi) c = readChecked (checkSigned name lo hi) c := by
  -- no blank starts a number
  have solid : Cursor.isBlank ch = false := by
    cases blank : Cursor.isBlank ch
    · rfl
    · simp only [Cursor.isBlank, Bool.or_eq_true, beq_iff_eq] at blank
      rcases blank with ((rfl | rfl) | rfl) | rfl <;> exact absurd numeral (by decide)
  rw [readShape.eq_def]
  dsimp only
  rw [Cursor.skipBlanks_of_rest h solid]
  simp only [h, numeral, if_true]

theorem toList_compact_nat (n : Nat) : (compact (.num (.nat n))).toList = Nat.toDigits 10 n := by
  show (toString n).toList = _
  simp

theorem toList_compact_neg (n : Nat) :
    (compact (.num (.neg n))).toList = '-' :: Nat.toDigits 10 n := by
  show ("-" ++ toString n).toList = _
  simp

theorem readChecked_of_readNumber {chk : Number → Except String Json} {c c' : Cursor} {n : Number}
    {j : Json} (read : readNumber c = .ok (n, c')) (checked : chk n = .ok j) :
    readChecked chk c = .ok (j, c') := by
  rw [readChecked, read]
  simp only [checked]

theorem readsBack_ofInt (name : String) {lo hi : Int} (low : -2 ^ 63 ≤ lo) (high : hi ≤ u64Max)
    {i : Int} (inside : lo ≤ i ∧ i ≤ hi) : ReadsBack (.signed name lo hi) (ofInt i) := by
  intro fuel depth c r h ends
  unfold ofInt at h ⊢
  split
  · rename_i nonneg
    rw [if_pos nonneg, toList_compact_nat] at h
    obtain ⟨d, ds, front⟩ : ∃ d ds, Nat.toDigits 10 i.toNat = d :: ds := by
      cases front : Nat.toDigits 10 i.toNat with
      | nil => exact absurd front Nat.toDigits_ne_nil
      | cons d ds => exact ⟨d, ds, rfl⟩
    have mem : d ∈ Nat.toDigits 10 i.toNat := by rw [front]; exact List.mem_cons_self ..
    have digit : d.isDigit := Nat.isDigit_of_mem_toDigits (by decide) (by decide) mem
    obtain ⟨c', rest, read⟩ := readNumber_toDigits (by omega) h ends
    refine ⟨c', rest, ?_⟩
    rw [front, List.cons_append] at h
    rw [readShape_signed fuel depth name lo hi h (by simp [digit])]
    exact readChecked_of_readNumber read (by simp [checkSigned]; omega)
  · rename_i negative
    rw [if_neg negative, toList_compact_neg, List.cons_append] at h
    obtain ⟨c', rest, read⟩ := readNumber_minus_toDigits (by omega) (by omega) h ends
    refine ⟨c', rest, ?_⟩
    rw [readShape_signed fuel depth name lo hi h rfl]
    exact readChecked_of_readNumber read (by simp [checkSigned]; omega)

theorem readsBack_text (s : String) : ReadsBack .text (.str s) := by
  intro fuel depth c r h _
  have quoted : c.rest = (quote s).toList ++ r := h
  obtain ⟨c', rest, read⟩ := readString_quote s quoted
  refine ⟨c', rest, ?_⟩
  rw [readShape_text fuel depth (by rw [quoted, toList_quote]; rfl), read]
  rfl

/-- A shape reads the compact text of `v` as `w`, given `fuel₀` steps and `depth₀` levels of
nesting or more, when what follows cannot go on a number. A record is read as the object of its
members in key order, so what is read need not be what was written. -/
def ReadsAs (fuel₀ depth₀ : Nat) (shape : Shape) (v w : Json) : Prop :=
  ∀ (fuel depth : Nat) {c : Cursor} {r : List Char}, depth₀ ≤ depth →
    c.rest = (compact v).toList ++ r → EndsNumber r →
    ∃ c', c'.rest = r ∧ readShape (fuel + fuel₀) depth shape c = .ok (w, c')

namespace ReadsAs

variable {f d : Nat} {shape : Shape} {v w : Json}

theorem mono (reads : ReadsAs f d shape v w) {f' d' : Nat} (more : f ≤ f') (deeper : d ≤ d') :
    ReadsAs f' d' shape v w := by
  intro fuel depth c r deep h ends
  have split : fuel + f' = fuel + (f' - f) + f := by omega
  rw [split]
  exact reads _ depth (Nat.le_trans deeper deep) h ends

theorem of_readsBack (reads : ReadsBack shape v) : ReadsAs 1 0 shape v v :=
  fun fuel depth _ _ _ h ends => reads fuel depth h ends

end ReadsAs

theorem endsNumber_comma (r : List Char) : EndsNumber (',' :: r) := by
  intro ch rest h
  cases h
  decide

theorem endsNumber_brace (r : List Char) : EndsNumber ('}' :: r) := by
  intro ch rest h
  cases h
  decide

theorem endsNumber_bracket (r : List Char) : EndsNumber (']' :: r) := by
  intro ch rest h
  cases h
  decide

/-! Optional values and lists of strings. -/

theorem readsAs_null (inner : Shape) : ReadsAs 1 0 (.optional inner) .null .null := by
  intro fuel depth c r _ h _
  have opened : c.rest = 'n' :: 'u' :: 'l' :: 'l' :: r := h
  have word : readKeyword ['u', 'l', 'l'] c.advance = .ok c.advance.advance.advance.advance := by
    have u := Cursor.advance_rest opened
    have l₁ := Cursor.advance_rest u
    have l₂ := Cursor.advance_rest l₁
    simp only [readKeyword, u, l₁, l₂]
    rfl
  refine ⟨c.advance.advance.advance.advance,
    Cursor.advance_rest (Cursor.advance_rest (Cursor.advance_rest (Cursor.advance_rest opened))), ?_⟩
  rw [readShape.eq_def]
  dsimp only
  rw [Cursor.skipBlanks_of_rest opened rfl]
  simp only [opened, word]
  rfl

/-- A value that starts with a quote is read under an optional shape as its inner shape reads it,
one step later. -/
theorem readsAs_optional {f d : Nat} {inner : Shape} {v w : Json} (reads : ReadsAs f d inner v w)
    (quoted : ∃ t, (compact v).toList = '"' :: t) : ReadsAs (f + 1) d (.optional inner) v w := by
  intro fuel depth c r deep h ends
  obtain ⟨t, front⟩ := quoted
  have opened : c.rest = '"' :: (t ++ r) := by rw [h, front]; rfl
  rw [show fuel + (f + 1) = fuel + f + 1 by omega, readShape.eq_def]
  dsimp only
  rw [Cursor.skipBlanks_of_rest opened rfl]
  simp only [opened]
  exact reads fuel depth deep h ends

/-- A string is read under a checked shape as what the check makes of it. -/
theorem readsAs_checked {expecting : String} {chk : String → Except String Json} {s : String}
    {j : Json} (checked : chk s = .ok j) : ReadsAs 1 0 (.checked expecting chk) (.str s) j := by
  intro fuel depth c r _ h _
  have written : c.rest = (quote s).toList ++ r := h
  obtain ⟨c', rest, read⟩ := readString_quote s written
  have quoted : c.rest = '"' :: ((quote s).toList.tail ++ r) := by
    rw [written, toList_quote]; rfl
  refine ⟨c', rest, ?_⟩
  rw [readShape.eq_def]
  dsimp only
  rw [Cursor.skipBlanks_of_rest quoted rfl]
  simp only [quoted]
  unfold readCheckedString
  rw [read]
  simp only [checked]

theorem readsAs_ofOption (x : Option String) : ReadsAs 2 0 (.optional .text) (ofOption x) (ofOption x) := by
  cases x with
  | none => exact (readsAs_null .text).mono (by decide) (Nat.le_refl 0)
  | some s => exact readsAs_optional (ReadsAs.of_readsBack (readsBack_text s)) ⟨_, toList_quote s⟩

theorem toList_items_strings (x : String) (xs : List String) :
    (compact.items_ ((x :: xs).map .str)).toList =
      (quote x).toList ++ xs.flatMap (fun y => ',' :: (quote y).toList) := by
  induction xs generalizing x with
  | nil => simp [compact.items_, compact]
  | cons y ys ih =>
    rw [items_strings_cons, ih]
    simp

theorem nextItem_close (first : Bool) {c : Cursor} {r : List Char} (h : c.rest = ']' :: r) :
    nextItem first c = .ok (.done c) := by
  simp only [nextItem]
  rw [Cursor.skipBlanks_of_rest h rfl]
  simp only [h]

theorem endList_close {c : Cursor} {r : List Char} (h : c.rest = ']' :: r) :
    endList c = (none, c.advance) := by
  simp only [endList]
  rw [Cursor.skipBlanks_of_rest h rfl]
  simp only [h]

/-- The strings after the first, each after its comma, are read one by one up to the closing
bracket. -/
theorem readListItems_strings (depth : Nat) (ys : List String) :
    ∀ (fuel : Nat) (acc : List Json) {c : Cursor} {r : List Char},
      c.rest = ys.flatMap (fun y => ',' :: (quote y).toList) ++ ']' :: r →
      ∃ c', c'.rest = ']' :: r ∧
        readListItems (fuel + ys.length + 1) depth .text false acc c =
          .ok (.arr (acc.reverse ++ ys.map .str), c') := by
  induction ys with
  | nil =>
    intro fuel acc c r h
    refine ⟨c, h, ?_⟩
    rw [readListItems.eq_def]
    simp only [nextItem_close false h, List.map_nil, List.append_nil]
  | cons y ys ih =>
    intro fuel acc c r h
    have comma : c.rest = ',' :: ((quote y).toList ++ (ys.flatMap (fun y => ',' :: (quote y).toList) ++
        ']' :: r)) := by
      rw [h]; simp
    have after := Cursor.advance_rest comma
    have quoted : c.advance.rest = '"' :: ((quote y).toList.tail ++
        (ys.flatMap (fun y => ',' :: (quote y).toList) ++ ']' :: r)) := by
      rw [after, toList_quote]; rfl
    have item : nextItem false c = .ok (.item c.advance) := by
      simp only [nextItem]
      rw [Cursor.skipBlanks_of_rest comma rfl, Cursor.skipBlanks_of_rest quoted rfl]
      simp only [comma, quoted, Bool.false_eq_true, if_false]
      rfl
    have tailEnds : EndsNumber (ys.flatMap (fun y => ',' :: (quote y).toList) ++ ']' :: r) := by
      cases ys with
      | nil => exact endsNumber_bracket r
      | cons _ _ => exact endsNumber_comma _
    obtain ⟨c₁, rest₁, read⟩ := readsBack_text y (fuel + ys.length) depth after tailEnds
    obtain ⟨c₂, rest₂, more⟩ := ih fuel (.str y :: acc) rest₁
    refine ⟨c₂, rest₂, ?_⟩
    rw [List.length_cons, show fuel + (ys.length + 1) + 1 = fuel + ys.length + 1 + 1 by omega,
      readListItems.eq_def]
    simp only [item, read, more, List.reverse_cons, List.map_cons, List.append_assoc,
      List.singleton_append]

/-- A list of strings is read back from its compact text, given a step for each string and two
more, and a level below it. -/
theorem readsAs_strings (xs : List String) :
    ReadsAs (xs.length + 2) 2 (.list .text) (ofStrings xs) (ofStrings xs) := by
  intro fuel depth c r deep h _
  obtain ⟨c₁, rest₁, items⟩ : ∃ c₁, c₁.rest = ']' :: r ∧
      readListItems (fuel + xs.length + 1) (depth - 1) .text true [] c.advance =
        .ok (ofStrings xs, c₁) := by
    cases xs with
    | nil =>
      have closing : c.advance.rest = ']' :: r := Cursor.advance_rest h
      refine ⟨c.advance, closing, ?_⟩
      rw [readListItems.eq_def]
      simp only [nextItem_close true closing]
      rfl
    | cons x xs =>
      have opened : c.rest = '[' :: ((quote x).toList ++ (xs.flatMap (fun y => ',' :: (quote y).toList) ++
          ']' :: r)) := by
        show c.rest = _
        rw [h]
        show ("[" ++ compact.items_ ((x :: xs).map .str) ++ "]").toList ++ r = _
        rw [String.toList_append, String.toList_append, toList_items_strings]
        simp
      have after := Cursor.advance_rest opened
      have quoted : c.advance.rest = '"' :: ((quote x).toList.tail ++
          (xs.flatMap (fun y => ',' :: (quote y).toList) ++ ']' :: r)) := by
        rw [after, toList_quote]; rfl
      have item : nextItem true c.advance = .ok (.item c.advance) := by
        simp only [nextItem]
        rw [Cursor.skipBlanks_of_rest quoted rfl]
        simp only [quoted]
        rfl
      have tailEnds : EndsNumber (xs.flatMap (fun y => ',' :: (quote y).toList) ++ ']' :: r) := by
        cases xs with
        | nil => exact endsNumber_bracket r
        | cons _ _ => exact endsNumber_comma _
      obtain ⟨c₂, rest₂, read⟩ := readsBack_text x (fuel + xs.length) (depth - 1) after tailEnds
      obtain ⟨c₃, rest₃, more⟩ := readListItems_strings (depth - 1) xs fuel [.str x] rest₂
      refine ⟨c₃, rest₃, ?_⟩
      rw [List.length_cons, show fuel + (xs.length + 1) + 1 = fuel + xs.length + 1 + 1 by omega,
        readListItems.eq_def]
      simp only [item, read, more]
      rfl
  have opened : c.rest = '[' :: ((compact.items_ (xs.map .str)).toList ++ ']' :: r) := by
    rw [h]
    show ("[" ++ compact.items_ (xs.map .str) ++ "]").toList ++ r = _
    simp
  refine ⟨c₁.advance, Cursor.advance_rest rest₁, ?_⟩
  rw [show fuel + (xs.length + 2) = fuel + xs.length + 1 + 1 by omega, readShape.eq_def]
  dsimp only
  rw [Cursor.skipBlanks_of_rest opened rfl]
  simp only [opened]
  rw [if_neg (by omega), items]
  simp only [close, endList_close rest₁]

theorem length_le_compact_strings (xs : List String) :
    xs.length ≤ (compact (ofStrings xs)).toList.length := by
  cases xs with
  | nil => simp
  | cons x xs =>
    have grow : ∀ l : List String, l.length ≤ (l.flatMap (fun y => ',' :: (quote y).toList)).length := by
      intro l
      induction l with
      | nil => simp
      | cons y ys ih => simp only [List.flatMap_cons, List.length_append, List.length_cons]; omega
    have whole : (compact (ofStrings (x :: xs))).toList =
        '[' :: ((quote x).toList ++ xs.flatMap (fun y => ',' :: (quote y).toList) ++ [']']) := by
      show ("[" ++ compact.items_ ((x :: xs).map .str) ++ "]").toList = _
      rw [String.toList_append, String.toList_append, toList_items_strings]
      simp
    rw [whole]
    have := grow xs
    simp only [List.length_cons, List.length_append]
    omega

/-- The characters of one member of a compact object: its quoted key, a colon, its value. -/
def memberChars (m : String × Json) : List Char := (quote m.1).toList ++ ':' :: (compact m.2).toList

theorem toList_members_cons (m : String × Json) (rest : List (String × Json)) :
    (compact.members_ (m :: rest)).toList =
      memberChars m ++ rest.flatMap (',' :: memberChars ·) := by
  induction rest generalizing m with
  | nil =>
    obtain ⟨k, v⟩ := m
    simp [compact.members_, memberChars]
  | cons m' rest ih =>
    obtain ⟨k, v⟩ := m
    have split : compact.members_ ((k, v) :: m' :: rest) =
        quote k ++ ":" ++ compact v ++ "," ++ compact.members_ (m' :: rest) := rfl
    rw [split]
    simp [ih, memberChars]

theorem nextKey_first {c : Cursor} {k : String} {r : List Char}
    (h : c.rest = (quote k).toList ++ r) : ∃ c', c'.rest = r ∧ nextKey true c = .ok (some k, c') := by
  obtain ⟨c', rest, read⟩ := readString_quote k h
  have quoted : c.rest = '"' :: ((quote k).toList.tail ++ r) := by
    rw [h, toList_quote]; rfl
  refine ⟨c', rest, ?_⟩
  simp only [nextKey]
  rw [Cursor.skipBlanks_of_rest quoted rfl]
  simp only [quoted, read]
  rfl

theorem nextKey_next {c : Cursor} {k : String} {r : List Char}
    (h : c.rest = ',' :: ((quote k).toList ++ r)) :
    ∃ c', c'.rest = r ∧ nextKey false c = .ok (some k, c') := by
  have after := Cursor.advance_rest h
  have quoted : c.advance.rest = '"' :: ((quote k).toList.tail ++ r) := by
    rw [after, toList_quote]; rfl
  obtain ⟨c', rest, read⟩ := readString_quote k after
  refine ⟨c', rest, ?_⟩
  simp only [nextKey]
  rw [Cursor.skipBlanks_of_rest h rfl, Cursor.skipBlanks_of_rest quoted rfl]
  simp only [h, quoted, read]
  rfl

theorem nextKey_close (first : Bool) {c : Cursor} {r : List Char} (h : c.rest = '}' :: r) :
    nextKey first c = .ok (none, c) := by
  simp only [nextKey]
  rw [Cursor.skipBlanks_of_rest h rfl]
  simp only [h]

theorem colon_rest {c : Cursor} {r : List Char} (h : c.rest = ':' :: r) : colon c = .ok c.advance := by
  simp only [colon]
  rw [Cursor.skipBlanks_of_rest h rfl]
  simp only [h]

/-- One member of a record, before a comma or the closing brace, is read as its field. -/
theorem readRecordMembers_member (fuel depth : Nat) (fields : List (String × Shape × Absent))
    (first : Bool) (found : List (String × Json)) {c : Cursor} {k : String} {v w : Json}
    {sh : Shape} {f d : Nat} {tail : List Char}
    (h : c.rest = (if first then [] else [',']) ++ memberChars (k, v) ++ tail)
    (shape : fieldShape fields k = some sh) (reads : ReadsAs (f + 1) d sh v w) (deep : d ≤ depth)
    (fresh : found.any (·.1 == k) = false) (ends : EndsNumber tail) :
    ∃ c', c'.rest = tail ∧ readRecordMembers (fuel + f + 2) depth fields first found c =
      readRecordMembers (fuel + f + 1) depth fields false ((k, w) :: found) c' := by
  obtain ⟨c₁, keyRest, key⟩ : ∃ c₁, c₁.rest = ':' :: ((compact v).toList ++ tail) ∧
      nextKey first c = .ok (some k, c₁) := by
    cases first with
    | true =>
      have keyFirst : c.rest = (quote k).toList ++ ':' :: ((compact v).toList ++ tail) := by
        rw [h]; simp [memberChars]
      exact nextKey_first keyFirst
    | false =>
      have keyNext : c.rest = ',' :: ((quote k).toList ++ ':' :: ((compact v).toList ++ tail)) := by
        rw [h]; simp [memberChars]
      exact nextKey_next keyNext
  obtain ⟨c₂, valueRest, read⟩ := reads fuel depth deep (Cursor.advance_rest keyRest) ends
  refine ⟨c₂, valueRest, ?_⟩
  rw [show fuel + f + 2 = fuel + (f + 1) + 1 by omega, readRecordMembers.eq_def]
  simp only [key, shape, fresh, Bool.false_eq_true, if_false, colon_rest keyRest, read]
  rfl

/-- The members of an object, in order, fit the fields of a record shape: each key names a field
whose shape reads the member's value back, no key comes twice, and every field is given. -/
structure FitsFields (fields : List (String × Shape × Absent)) (members : List (String × Json)) :
    Prop where
  readable : ∀ m ∈ members, ∃ sh, fieldShape fields m.1 = some sh ∧ ReadsBack sh m.2
  distinct : (members.map (·.1)).Nodup
  complete : ∀ f ∈ fields, f.1 ∈ members.map (·.1)

/-- Members given as a key, the value written and the value read: each key names a field whose
shape reads the written value as the read one, with `f + 1` steps and `d` levels, no key comes
twice, and every field is given. -/
structure ReadsFields (f d : Nat) (fields : List (String × Shape × Absent))
    (members : List (String × Json × Json)) : Prop where
  readable : ∀ m ∈ members, ∃ sh, fieldShape fields m.1 = some sh ∧ ReadsAs (f + 1) d sh m.2.1 m.2.2
  distinct : (members.map (·.1)).Nodup
  complete : ∀ f ∈ fields, f.1 ∈ members.map (·.1)

theorem FitsFields.readsFields {fields : List (String × Shape × Absent)}
    {members : List (String × Json)} (fits : FitsFields fields members) :
    ReadsFields 0 0 fields (members.map fun m => (m.1, m.2, m.2)) where
  readable := by
    intro m mem
    obtain ⟨m, given, rfl⟩ := List.mem_map.mp mem
    obtain ⟨sh, shape, reads⟩ := fits.readable m given
    exact ⟨sh, shape, ReadsAs.of_readsBack reads⟩
  distinct := by simpa [Function.comp_def] using fits.distinct
  complete := by simpa [Function.comp_def] using fits.complete

theorem readRecordMembers_rest (depth f d : Nat) (fields : List (String × Shape × Absent))
    (deep : d ≤ depth) (rest : List (String × Json × Json)) :
    ∀ (fuel : Nat) (found : List (String × Json)) {c : Cursor} {r : List Char},
      c.rest = (rest.map fun m => (m.1, m.2.1)).flatMap (',' :: memberChars ·) ++ '}' :: r →
      (∀ m ∈ rest, ∃ sh, fieldShape fields m.1 = some sh ∧ ReadsAs (f + 1) d sh m.2.1 m.2.2) →
      (∀ m ∈ rest, found.any (·.1 == m.1) = false) → (rest.map (·.1)).Nodup →
      ∃ c', c'.rest = '}' :: r ∧
        readRecordMembers (fuel + rest.length + f + 1) depth fields false found c =
          readRecordMembers (fuel + f + 1) depth fields false
            ((rest.map fun m => (m.1, m.2.2)).reverse ++ found) c' := by
  induction rest with
  | nil =>
    intro fuel found c r h _ _ _
    exact ⟨c, h, rfl⟩
  | cons m rest ih =>
    intro fuel found c r h readable fresh distinct
    obtain ⟨k, v, w⟩ := m
    obtain ⟨sh, shape, reads⟩ := readable (k, v, w) (List.mem_cons_self ..)
    have tailEnds : EndsNumber ((rest.map fun m => (m.1, m.2.1)).flatMap (',' :: memberChars ·) ++
        '}' :: r) := by
      cases rest with
      | nil => exact endsNumber_brace r
      | cons m' rest' => exact endsNumber_comma _
    obtain ⟨c₁, rest₁, step⟩ := readRecordMembers_member (fuel + rest.length) depth fields false
      found (by rw [h]; simp) shape reads deep (fresh (k, v, w) (List.mem_cons_self ..)) tailEnds
    have distinct' := List.nodup_cons.mp distinct
    -- the member just read is not among the later ones, by the distinctness of keys
    have fresh' : ∀ m ∈ rest, ((k, w) :: found).any (·.1 == m.1) = false := by
      intro m mem
      have other : k ≠ m.1 := fun same =>
        distinct'.1 (List.mem_map.mpr ⟨m, mem, same.symm⟩)
      simp [other, fresh m (List.mem_cons_of_mem _ mem)]
    obtain ⟨c₂, rest₂, more⟩ := ih fuel ((k, w) :: found) rest₁
      (fun m mem => readable m (List.mem_cons_of_mem _ mem)) fresh' distinct'.2
    refine ⟨c₂, rest₂, ?_⟩
    have fuelSplit : fuel + (rest.length + 1) + f + 1 = fuel + rest.length + f + 2 := by omega
    rw [List.length_cons, fuelSplit, step, more, List.map_cons, List.reverse_cons, List.append_assoc]
    rfl

theorem fillMissing_of_present (found : List (String × Json)) :
    ∀ fields : List (String × Shape × Absent),
      (∀ f ∈ fields, (Obj.get? (Obj.ofList found) f.1).isSome) →
      fillMissing fields found = .ok (mkObj found) := by
  intro fields
  induction fields with
  | nil => intro _; rfl
  | cons f fs ih =>
    intro present
    obtain ⟨k, sh, absent⟩ := f
    have given := present (k, sh, absent) (List.mem_cons_self ..)
    simp only [fillMissing, given, if_true]
    exact ih fun f mem => present f (List.mem_cons_of_mem _ mem)

theorem readRecordMembers_close (fuel depth : Nat) (fields : List (String × Shape × Absent))
    (found : List (String × Json)) {c : Cursor} {r : List Char} (h : c.rest = '}' :: r)
    (present : ∀ f ∈ fields, (Obj.get? (Obj.ofList found) f.1).isSome) :
    readRecordMembers (fuel + 1) depth fields false found c = .ok (mkObj found, c) := by
  rw [readRecordMembers.eq_def]
  simp only [nextKey_close false h, fillMissing_of_present found fields present]

theorem endObject_close {c : Cursor} {r : List Char} (h : c.rest = '}' :: r) :
    endObject c = (none, c.advance) := by
  simp only [endObject]
  rw [Cursor.skipBlanks_of_rest h rfl]
  simp only [h]

theorem ReadsFields.present {f d : Nat} {fields : List (String × Shape × Absent)}
    {members : List (String × Json × Json)} (fits : ReadsFields f d fields members) :
    ∀ field ∈ fields,
      (Obj.get? (Obj.ofList (members.map fun m => (m.1, m.2.2)).reverse) field.1).isSome := by
  intro field mem
  obtain ⟨m, given, named⟩ := List.mem_map.mp (fits.complete field mem)
  rw [Obj.get?_ofList, List.reverse_reverse, Option.isSome_map, List.find?_isSome]
  exact ⟨(m.1, m.2.2), List.mem_map_of_mem given, by simp [named]⟩

theorem toList_compact_obj (m : String × Json) (rest : List (String × Json)) :
    (compact (.obj (m :: rest))).toList =
      '{' :: (memberChars m ++ rest.flatMap (',' :: memberChars ·) ++ ['}']) := by
  show ("\x7b" ++ compact.members_ (m :: rest) ++ "\x7d").toList = _
  rw [String.toList_append, String.toList_append, toList_members_cons]
  simp

/-- A record whose members read under its fields is read from its compact text as the object of
what they read as. -/
theorem readShape_record (fuel depth : Nat) (name : String) (fields : List (String × Shape × Absent))
    {members : List (String × Json × Json)} {f d : Nat} (deep : d + 2 ≤ depth)
    (fits : ReadsFields f d fields members) (nonempty : members ≠ []) {c : Cursor} {r : List Char}
    (h : c.rest = (compact (.obj (members.map fun m => (m.1, m.2.1)))).toList ++ r) :
    ∃ c', c'.rest = r ∧
      readShape (fuel + members.length + f + 2) depth (.record name fields) c =
        .ok (mkObj (members.map fun m => (m.1, m.2.2)).reverse, c') := by
  obtain ⟨m, rest, rfl⟩ := List.exists_cons_of_ne_nil nonempty
  obtain ⟨k, v, w⟩ := m
  rw [List.map_cons, toList_compact_obj] at h
  have opened : c.rest = '{' :: (memberChars (k, v) ++
      (rest.map fun m => (m.1, m.2.1)).flatMap (',' :: memberChars ·) ++ '}' :: r) := by
    rw [h]; simp
  obtain ⟨sh, shape, reads⟩ := fits.readable (k, v, w) (List.mem_cons_self ..)
  have tailEnds : EndsNumber ((rest.map fun m => (m.1, m.2.1)).flatMap (',' :: memberChars ·) ++
      '}' :: r) := by
    cases rest with
    | nil => exact endsNumber_brace r
    | cons m' rest' => exact endsNumber_comma _
  obtain ⟨c₁, rest₁, first⟩ := readRecordMembers_member (fuel + rest.length) (depth - 1) fields
    true [] (by rw [Cursor.advance_rest opened]; simp) shape reads (by omega) rfl tailEnds
  have distinct := List.nodup_cons.mp fits.distinct
  have fresh : ∀ m ∈ rest, [(k, w)].any (·.1 == m.1) = false := by
    intro m mem
    have other : k ≠ m.1 := fun same => distinct.1 (List.mem_map.mpr ⟨m, mem, same.symm⟩)
    simp [other]
  obtain ⟨c₂, rest₂, others⟩ := readRecordMembers_rest (depth - 1) f d fields (by omega) rest fuel
    [(k, w)] rest₁ (fun m mem => fits.readable m (List.mem_cons_of_mem _ mem)) fresh distinct.2
  have closed := readRecordMembers_close (fuel + f) (depth - 1) fields
    ((rest.map fun m => (m.1, m.2.2)).reverse ++ [(k, w)]) rest₂
    (by rw [← List.reverse_cons]; exact fits.present)
  refine ⟨c₂.advance, Cursor.advance_rest rest₂, ?_⟩
  have fuelSplit : fuel + (rest.length + 1) + f + 2 = fuel + rest.length + f + 2 + 1 := by omega
  rw [List.length_cons, fuelSplit, readShape.eq_def]
  dsimp only
  rw [Cursor.skipBlanks_of_rest opened rfl]
  simp only [opened]
  rw [if_neg (by omega), first, others, closed]
  simp only [close, endObject_close rest₂, List.map_cons, List.reverse_cons]

theorem readsAs_record (name : String) (fields : List (String × Shape × Absent))
    {members : List (String × Json × Json)} {f d : Nat} (fits : ReadsFields f d fields members)
    (nonempty : members ≠ []) :
    ReadsAs (members.length + f + 2) (d + 2) (.record name fields)
      (.obj (members.map fun m => (m.1, m.2.1))) (mkObj (members.map fun m => (m.1, m.2.2)).reverse) := by
  intro fuel depth c r deep h _
  rw [show fuel + (members.length + f + 2) = fuel + members.length + f + 2 by omega]
  exact readShape_record fuel depth name fields deep fits nonempty h

theorem length_le_compact_obj (members : List (String × Json)) :
    members.length ≤ (compact (.obj members)).toList.length := by
  cases members with
  | nil => simp
  | cons m rest =>
    have grow : ∀ l : List (String × Json), l.length ≤ (l.flatMap (',' :: memberChars ·)).length := by
      intro l
      induction l with
      | nil => simp
      | cons x xs ih => simp only [List.flatMap_cons, List.length_append, List.length_cons]; omega
    rw [toList_compact_obj]
    have := grow rest
    simp only [List.length_cons, List.length_append]
    omega

/-- Decoding a text that is nothing but the compact text of `v` gives what the shape reads it as,
when the decoder's steps and levels are enough. -/
theorem Shape.decode_readsAs {f d : Nat} {shape : Shape} {v w : Json} (reads : ReadsAs f d shape v w)
    (enough : f ≤ 4 * (compact v).toList.length + 16) (shallow : d ≤ depthLimit) :
    shape.decode (compact v) = .ok w := by
  have whole : (Cursor.ofString (compact v)).rest = (compact v).toList ++ [] := by
    simp [Cursor.ofString]
  obtain ⟨c, rest, read⟩ := reads (4 * (compact v).toList.length + 16 - f) depthLimit shallow whole
    (fun _ _ nothing => by cases nothing)
  have fuel : 4 * (Cursor.ofString (compact v)).rest.length + 16 =
      4 * (compact v).toList.length + 16 - f + f := by
    simp only [Cursor.ofString]
    omega
  rw [Shape.decode, fuel, read]
  simp only [finish, Cursor.skipBlanks_nil rest, rest]

/-- Decoding the compact text of an object whose members fit a record's fields gives the record. -/
theorem Shape.decode_record (name : String) (fields : List (String × Shape × Absent))
    {members : List (String × Json)} (fits : FitsFields fields members) (nonempty : members ≠ []) :
    (Shape.record name fields).decode (compact (.obj members)) = .ok (mkObj members.reverse) := by
  have written : (members.map fun m => (m.1, m.2, m.2)).map (fun m => (m.1, m.2.1)) = members := by
    simp [Function.comp_def]
  have read : (members.map fun m => (m.1, m.2, m.2)).map (fun m => (m.1, m.2.2)) = members := by
    simp [Function.comp_def]
  have reads := readsAs_record name fields fits.readsFields (by simpa using nonempty)
  rw [written, read] at reads
  have := length_le_compact_obj members
  exact Shape.decode_readsAs reads (by simp; omega) (by decide)

end TrackerSync.Json

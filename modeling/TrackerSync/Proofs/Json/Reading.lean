import TrackerSync.Json.Parse
import TrackerSync.Json.Print

/-!
Reading back what the printer writes: a quoted string, or a list of strings, ends where its
text ends, whatever follows.
-/


namespace TrackerSync.Json

theorem readStringBody_cons (acc : List Char) {c : Cursor} {ch : Char} {r : List Char}
    (h : c.rest = ch :: r) :
    readStringBody acc c =
      if ch == '"' then .ok (String.ofList acc.reverse, c.advance)
      else if ch == '\\' then
        match readEscape c.advance with
        | .ok (e, c') =>
          if c'.rest.length < c.rest.length then readStringBody (e :: acc) c'
          else .error (Syntax.eofString.at c'.position)
        | .error err => .error err
      else if ch.toNat < 0x20 then .error (Syntax.controlCharacter.at c.advance.position)
      else readStringBody (ch :: acc) c.advance := by
  rw [readStringBody]
  split
  · rename_i h'; rw [h] at h'; cases h'
  · rename_i ch' r' h'
    rw [h] at h'
    cases h'
    rfl

theorem readStringBody_backslash (acc : List Char) {c c' : Cursor} {rest : List Char} {e : Char}
    (h : c.rest = '\\' :: rest) (read : readEscape c.advance = .ok (e, c'))
    (shorter : c'.rest.length < c.rest.length) :
    readStringBody acc c = readStringBody (e :: acc) c' := by
  rw [readStringBody_cons acc h]
  simp [read, shorter]

theorem length_le_bytesLeft (c : Cursor) : c.rest.length ≤ c.bytesLeft := by
  have grow : ∀ (l : List Char) (a : Nat), a + l.length ≤ (l.map Char.utf8Size).foldl (· + ·) a := by
    intro l
    induction l with
    | nil => intro a; simp
    | cons ch l ih =>
      intro a
      have := ih (a + ch.utf8Size)
      have := Char.utf8Size_pos ch
      simp only [List.map_cons, List.foldl_cons, List.length_cons]
      omega
  simpa [Cursor.bytesLeft] using grow c.rest 0

theorem hexValue_hexDigit : ∀ k < 16, hexValue (hexDigit k) = some k := by decide

theorem readEscape_control {c : Cursor} {n : Nat} {r : List Char} (small : n < 0x20)
    (h : c.rest = 'u' :: '0' :: '0' :: hexDigit (n / 16) :: hexDigit (n % 16) :: r) :
    ∃ c', readEscape c = .ok (Char.ofNat n, c') ∧ c'.rest = r := by
  have high := hexValue_hexDigit (n / 16) (by omega)
  have low := hexValue_hexDigit (n % 16) (by omega)
  have zero : hexValue '0' = some 0 := by decide
  have after : c.advance.rest = '0' :: '0' :: hexDigit (n / 16) :: hexDigit (n % 16) :: r :=
    Cursor.advance_rest h
  have enough : ¬ c.advance.bytesLeft < 4 := by
    have := length_le_bytesLeft c.advance
    rw [after] at this
    simp at this
    omega
  have value : ((0 * 16 + 0) * 16 + n / 16) * 16 + n % 16 = n := by omega
  refine ⟨c.advance.advance.advance.advance.advance, ?_, ?_⟩
  · simp only [readEscape, h, readUnicodeEscape, readHex4, enough, after, high, low, zero,
      value, if_false]
    have notSurrogate : ¬ (0xDC00 ≤ n ∧ n ≤ 0xDFFF) := by omega
    have plain : n < 0xD800 ∨ n > 0xDBFF := by omega
    simp [notSurrogate, plain]
  · rw [Cursor.advance_rest (Cursor.advance_rest (Cursor.advance_rest (Cursor.advance_rest after)))]

theorem readStringBody_twoChar (acc : List Char) {c : Cursor} {l e : Char} {r : List Char}
    (h : c.rest = '\\' :: l :: r) (read : readEscape c.advance = .ok (e, c.advance.advance)) :
    ∃ c', c'.rest = r ∧ readStringBody acc c = readStringBody (e :: acc) c' := by
  have after : c.advance.advance.rest = r := Cursor.advance_rest (Cursor.advance_rest h)
  refine ⟨c.advance.advance, after, readStringBody_backslash acc h read ?_⟩
  rw [after, h]
  simp only [List.length_cons]
  omega

theorem readStringBody_escapeChar (acc : List Char) (ch : Char) {c : Cursor} {r : List Char}
    (h : c.rest = escapeChar ch ++ r) :
    ∃ c', c'.rest = r ∧ readStringBody acc c = readStringBody (ch :: acc) c' := by
  by_cases quote : ch = '"'
  · subst quote
    have h : c.rest = '\\' :: '"' :: r := h
    exact readStringBody_twoChar acc h (by simp only [readEscape, Cursor.advance_rest h])
  by_cases backslash : ch = '\\'
  · subst backslash
    have h : c.rest = '\\' :: '\\' :: r := h
    exact readStringBody_twoChar acc h (by simp only [readEscape, Cursor.advance_rest h])
  by_cases control : ch.toNat < 0x20
  · -- a control character is written `\b`, `\t`, `\n`, `\f`, `\r` or `\u00XY`
    have named : ∀ {l : Char} (e : Char), e.toNat = ch.toNat → c.rest = '\\' :: l :: r →
        readEscape c.advance = .ok (e, c.advance.advance) →
        ∃ c', c'.rest = r ∧ readStringBody acc c = readStringBody (ch :: acc) c' := by
      intro l e code h read
      rw [← Char.toNat_inj.mp code]
      exact readStringBody_twoChar acc h read
    simp only [escapeChar, beq_iff_eq, quote, backslash, control, if_false, if_true] at h
    split at h
    · have h : c.rest = '\\' :: 'b' :: r := h
      exact named (Char.ofNat 8) (by simp_all) h (by simp only [readEscape, Cursor.advance_rest h])
    · have h : c.rest = '\\' :: 't' :: r := h
      exact named '\t' (by simp_all) h (by simp only [readEscape, Cursor.advance_rest h])
    · have h : c.rest = '\\' :: 'n' :: r := h
      exact named '\n' (by simp_all) h (by simp only [readEscape, Cursor.advance_rest h])
    · have h : c.rest = '\\' :: 'f' :: r := h
      exact named (Char.ofNat 12) (by simp_all) h (by simp only [readEscape, Cursor.advance_rest h])
    · have h : c.rest = '\\' :: 'r' :: r := h
      exact named '\r' (by simp_all) h (by simp only [readEscape, Cursor.advance_rest h])
    · have h : c.rest =
          '\\' :: 'u' :: '0' :: '0' :: hexDigit (ch.toNat / 16) :: hexDigit (ch.toNat % 16) :: r := h
      obtain ⟨c', read, after⟩ := readEscape_control control (Cursor.advance_rest h)
      have shorter : c'.rest.length < c.rest.length := by
        rw [after, h]
        simp only [List.length_cons]
        omega
      exact ⟨c', after, by rw [readStringBody_backslash acc h read shorter, Char.ofNat_toNat]⟩
  · have h : c.rest = ch :: r := by simpa [escapeChar, quote, backslash, control] using h
    refine ⟨c.advance, Cursor.advance_rest h, ?_⟩
    rw [readStringBody_cons acc h]
    simp [quote, backslash, control]

/-- The escaped characters of a text and a closing quote are read back as that text. -/
theorem readStringBody_escaped (s : List Char) :
    ∀ (acc : List Char) {c : Cursor} {r : List Char}, c.rest = s.flatMap escapeChar ++ '"' :: r →
      ∃ c', c'.rest = r ∧ readStringBody acc c = .ok (String.ofList (acc.reverse ++ s), c') := by
  induction s with
  | nil =>
    intro acc c r h
    refine ⟨c.advance, Cursor.advance_rest h, ?_⟩
    rw [readStringBody_cons acc h]
    simp
  | cons ch s ih =>
    intro acc c r h
    have split : c.rest = escapeChar ch ++ (s.flatMap escapeChar ++ '"' :: r) := by
      rw [h, List.flatMap_cons, List.append_assoc]
    obtain ⟨c₁, after, step⟩ := readStringBody_escapeChar acc ch split
    obtain ⟨c₂, rest, read⟩ := ih (ch :: acc) after
    exact ⟨c₂, rest, by rw [step, read, List.reverse_cons, List.append_assoc, List.singleton_append]⟩

theorem toList_quote (s : String) :
    (quote s).toList = '"' :: (s.toList.flatMap escapeChar ++ ['"']) :=
  String.toList_ofList

theorem readString_quote (s : String) {c : Cursor} {r : List Char}
    (h : c.rest = (quote s).toList ++ r) : ∃ c', c'.rest = r ∧ readString c = .ok (s, c') := by
  have whole : c.rest = '"' :: (s.toList.flatMap escapeChar ++ '"' :: r) := by
    rw [h, toList_quote]
    simp
  obtain ⟨c', rest, read⟩ := readStringBody_escaped s.toList [] (Cursor.advance_rest whole)
  exact ⟨c', rest, by rw [readString, read, List.reverse_nil, List.nil_append, String.ofList_toList]⟩

theorem quote_append_inj {s t : String} {r r' : List Char}
    (h : (quote s).toList ++ r = (quote t).toList ++ r') : s = t ∧ r = r' := by
  let start : Cursor := ⟨(quote s).toList ++ r, 0, 1, 0⟩
  obtain ⟨c₁, rest₁, read₁⟩ := readString_quote s (show start.rest = _ from rfl)
  obtain ⟨c₂, rest₂, read₂⟩ := readString_quote t (show start.rest = _ from h)
  have same := Except.ok.inj (read₁.symm.trans read₂)
  exact ⟨congrArg Prod.fst same, rest₁.symm.trans ((congrArg (·.2.rest) same).trans rest₂)⟩

theorem items_strings_cons (x y : String) (ys : List String) :
    (compact.items_ ((x :: y :: ys).map .str)).toList =
      (quote x).toList ++ ',' :: (compact.items_ ((y :: ys).map .str)).toList := by
  have split : compact.items_ ((x :: y :: ys).map .str) =
      quote x ++ "," ++ compact.items_ ((y :: ys).map .str) := rfl
  rw [split, String.toList_append, String.toList_append, List.append_assoc]
  rfl

theorem items_strings_head (x : String) (xs : List String) :
    ∃ tail, (compact.items_ ((x :: xs).map .str)).toList = '"' :: tail := by
  cases xs with
  | nil => exact ⟨_, toList_quote x⟩
  | cons y ys =>
    rw [items_strings_cons, toList_quote]
    exact ⟨_, rfl⟩

/-- The items of a list of strings and a closing bracket are told apart from what follows. -/
theorem strings_append_inj {xs ys : List String} {r r' : List Char}
    (h : (compact.items_ (xs.map .str)).toList ++ ']' :: r =
      (compact.items_ (ys.map .str)).toList ++ ']' :: r') : xs = ys ∧ r = r' := by
  induction xs generalizing ys with
  | nil =>
    cases ys with
    | nil => exact ⟨rfl, (List.cons.inj h).2⟩
    | cons y ys =>
      obtain ⟨tail, head⟩ := items_strings_head y ys
      rw [head, List.cons_append] at h
      exact absurd (List.cons.inj h).1 (by decide)
  | cons x xs ih =>
    cases ys with
    | nil =>
      obtain ⟨tail, head⟩ := items_strings_head x xs
      rw [head, List.cons_append] at h
      exact absurd (List.cons.inj h).1 (by decide)
    | cons y ys =>
      cases xs with
      | nil =>
        cases ys with
        | nil =>
          have h : (quote x).toList ++ ']' :: r = (quote y).toList ++ ']' :: r' := by
            simpa [compact.items_, compact] using h
          obtain ⟨same, rest⟩ := quote_append_inj h
          exact ⟨by rw [same], (List.cons.inj rest).2⟩
        | cons y' ys =>
          rw [items_strings_cons] at h
          have h : (quote x).toList ++ ']' :: r =
              (quote y).toList ++ ',' :: ((compact.items_ ((y' :: ys).map .str)).toList ++ ']' :: r') := by
            simpa [compact.items_, compact] using h
          cases (quote_append_inj h).2
      | cons x' xs =>
        cases ys with
        | nil =>
          rw [items_strings_cons] at h
          have h : (quote x).toList ++ ',' :: ((compact.items_ ((x' :: xs).map .str)).toList ++ ']' :: r) =
              (quote y).toList ++ ']' :: r' := by
            simpa [compact.items_, compact] using h
          cases (quote_append_inj h).2
        | cons y' ys =>
          rw [items_strings_cons, items_strings_cons] at h
          simp only [List.append_assoc, List.cons_append] at h
          obtain ⟨same, rest⟩ := quote_append_inj h
          obtain ⟨sameRest, final⟩ := ih (List.cons.inj rest).2
          exact ⟨by rw [same, sameRest], final⟩

end TrackerSync.Json

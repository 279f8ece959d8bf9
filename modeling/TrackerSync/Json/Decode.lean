import TrackerSync.Json.Shape

/-!
Reading a shape directly from text, front to back, so the first fault met decides the answer.
-/

namespace TrackerSync.Json

/-- A reading step: a value and the cursor after it, or an error and the cursor where it
stopped. -/
abbrev Reading := Except (JsonError × Cursor) (Json × Cursor)

def custom (message : String) : JsonError := ⟨message, none⟩

/-- Give an error without a place the place just after what the cursor has read. -/
def fixAt (c : Cursor) (e : JsonError) : JsonError :=
  match e.position with
  | some _ => e
  | none => { e with position := some c.position }

def lift (c : Cursor) : Step Json → Reading
  | .ok r => .ok r
  | .error e => .error (e, c)

/-- The error for a value of the wrong kind under the cursor: a scalar is read first and the
error placed after it; an array or object is placed at its bracket; anything else is not a
value. -/
def peekInvalid (expected : String) (c : Cursor) : JsonError :=
  match c.rest with
  | 'n' :: _ =>
    match readKeyword ['u', 'l', 'l'] c.advance with
    | .ok c' => fixAt c' (custom (invalidType "null" expected))
    | .error e => e
  | 't' :: _ =>
    match readKeyword ['r', 'u', 'e'] c.advance with
    | .ok c' => fixAt c' (custom (invalidType (unexpected (.bool true)) expected))
    | .error e => e
  | 'f' :: _ =>
    match readKeyword ['a', 'l', 's', 'e'] c.advance with
    | .ok c' => fixAt c' (custom (invalidType (unexpected (.bool false)) expected))
    | .error e => e
  | '"' :: _ =>
    match readString c with
    | .ok (s, c') => fixAt c' (custom (invalidType (unexpected (.str s)) expected))
    | .error e => e
  | '[' :: _ => fixAt c (custom (invalidType "sequence" expected))
  | '{' :: _ => fixAt c (custom (invalidType "map" expected))
  | ch :: _ =>
    if ch == '-' || ch.isDigit then
      match readNumber c with
      | .ok (n, c') => fixAt c' (custom (invalidType (unexpected (.num n)) expected))
      | .error e => e
    else Syntax.expectedValue.at c.peekPosition
  | [] => Syntax.expectedValue.at c.peekPosition

/-- The end of an array: its closing bracket, or what is wrong instead. The cursor moves past
the blanks (and a stray comma) it looked at. -/
def endList (c : Cursor) : Option JsonError × Cursor :=
  let c := c.skipBlanks
  match c.rest with
  | ']' :: _ => (none, c.advance)
  | ',' :: _ =>
    let c := c.advance.skipBlanks
    match c.rest with
    | ']' :: _ => (some (Syntax.trailingComma.at c.peekPosition), c)
    | _ => (some (Syntax.trailingCharacters.at c.peekPosition), c)
  | [] => (some (Syntax.eofList.at c.peekPosition), c)
  | _ :: _ => (some (Syntax.trailingCharacters.at c.peekPosition), c)

/-- The end of an object: its closing brace, or what is wrong instead. -/
def endObject (c : Cursor) : Option JsonError × Cursor :=
  let c := c.skipBlanks
  match c.rest with
  | '}' :: _ => (none, c.advance)
  | ',' :: _ => (some (Syntax.trailingComma.at c.peekPosition), c)
  | [] => (some (Syntax.eofObject.at c.peekPosition), c)
  | _ :: _ => (some (Syntax.trailingCharacters.at c.peekPosition), c)

/-- Close a container after reading its inside. The close is attempted even after a failure
inside, and an error without a place is placed where the close stopped. -/
def close (closer : Cursor → Option JsonError × Cursor) : Reading → Reading
  | .ok (v, c) =>
    match closer c with
    | (none, c') => .ok (v, c')
    | (some e, c') => .error (e, c')
  | .error (e, c) =>
    let c' := (closer c).2
    .error (fixAt c' e, c')

/-- What comes next inside an array. -/
inductive Next where
  /-- An item starts at the cursor. -/
  | item (c : Cursor)
  /-- The closing bracket is under the cursor. -/
  | done (c : Cursor)

/-- Find the next item of an array, past the comma before it (none before the first). -/
def nextItem (first : Bool) (c : Cursor) : Except JsonError Next :=
  let c := c.skipBlanks
  match c.rest with
  | ']' :: _ => .ok (.done c)
  | ',' :: _ =>
    if first then .ok (.item c)
    else
      let c := c.advance.skipBlanks
      match c.rest with
      | ']' :: _ => .error (Syntax.trailingComma.at c.peekPosition)
      | [] => .error (Syntax.eofValue.at c.peekPosition)
      | _ :: _ => .ok (.item c)
  | [] => .error (Syntax.eofList.at c.peekPosition)
  | _ :: _ => if first then .ok (.item c) else .error (Syntax.expectedListCommaOrEnd.at c.peekPosition)

/-- Read the next key of an object, past the comma before it; `none` at the closing brace,
which is left unread. -/
def nextKey (first : Bool) (c : Cursor) : Except JsonError (Option String × Cursor) :=
  let c := c.skipBlanks
  let key (c : Cursor) : Except JsonError (Option String × Cursor) :=
    match c.rest with
    | '"' :: _ => (readString c).map fun (k, c) => (some k, c)
    | '}' :: _ => .error (Syntax.trailingComma.at c.peekPosition)
    | [] => .error (Syntax.eofValue.at c.peekPosition)
    | _ :: _ => .error (Syntax.keyMustBeString.at c.peekPosition)
  match c.rest with
  | '}' :: _ => .ok (none, c)
  | ',' :: _ =>
    if first then .error (Syntax.keyMustBeString.at c.peekPosition) else key c.advance.skipBlanks
  | [] => .error (Syntax.eofObject.at c.peekPosition)
  | _ :: _ => if first then key c else .error (Syntax.expectedObjectCommaOrEnd.at c.peekPosition)

def colon (c : Cursor) : Except JsonError Cursor :=
  let c := c.skipBlanks
  match c.rest with
  | ':' :: _ => .ok c.advance
  | [] => .error (Syntax.eofObject.at c.peekPosition)
  | _ :: _ => .error (Syntax.expectedColon.at c.peekPosition)

/-- A number under the cursor checked by `chk`; a failed check is placed after the number. -/
def readChecked (chk : Number → Except String Json) (c : Cursor) : Reading :=
  match readNumber c with
  | .error e => .error (e, c)
  | .ok (n, c') =>
    match chk n with
    | .ok j => .ok (j, c')
    | .error msg => .error (fixAt c' (custom msg), c')

/-- A string under the cursor checked by `chk`; a failed check is placed after the string. -/
def readCheckedString (chk : String → Except String Json) (c : Cursor) : Reading :=
  match readString c with
  | .error e => .error (e, c)
  | .ok (s, c') =>
    match chk s with
    | .ok j => .ok (j, c')
    | .error msg => .error (fixAt c' (custom msg), c')

/-- A string read as the name of a choice (under a brace or alone). -/
def readVariantName (variants : List String) (c : Cursor) : Reading :=
  let c := c.skipBlanks
  match c.rest with
  | '"' :: _ => readCheckedString (checkVariant variants) c
  | [] => .error (Syntax.eofValue.at c.peekPosition, c)
  | _ :: _ => .error (peekInvalid "variant identifier" c, c)

/-- A choice written as an object `{"name": null}` after its opening brace. -/
def readVariantObject (variants : List String) (c : Cursor) : Reading :=
  match readVariantName variants c with
  | .error ec => .error ec
  | .ok (name, c) =>
    match colon c with
    | .error e => .error (e, c)
    | .ok c =>
      let c := c.skipBlanks
      let unit : Except JsonError Cursor :=
        match c.rest with
        | 'n' :: _ => readKeyword ['u', 'l', 'l'] c.advance
        | [] => .error (Syntax.eofValue.at c.peekPosition)
        | _ :: _ => .error (peekInvalid "unit" c)
      match unit with
      | .error e => .error (e, c)
      | .ok c =>
        let c := c.skipBlanks
        match c.rest with
        | '}' :: _ => .ok (name, c.advance)
        | [] => .error (Syntax.eofObject.at c.position, c)
        | _ :: _ => .error (Syntax.expectedValue.at c.position, c)

mutual

/-- Read a value of a shape at the cursor (blanks first). `depth` counts the nesting levels still
allowed and `fuel` bounds the steps. -/
def readShape : Nat → Nat → Shape → Cursor → Reading
  | 0, _, _, c => .error (Syntax.recursionLimit.at c.position, c)
  | fuel + 1, depth, shape, c0 =>
    let c := c0.skipBlanks
    let eof : Reading := .error (Syntax.eofValue.at c.peekPosition, c)
    let deeper (k : Nat → Reading) : Reading :=
      if depth ≤ 1 then .error (Syntax.recursionLimit.at c.peekPosition, c) else k (depth - 1)
    match shape, c.rest with
    | .any, _ => lift c (readValue c.fuel depth c)
    | .text, [] => eof
    | .text, '"' :: _ => lift c ((readString c).map fun (s, c) => (.str s, c))
    | .text, _ :: _ => .error (peekInvalid "a string" c, c)
    | .flag, [] => eof
    | .flag, 't' :: _ => lift c ((readKeyword ['r', 'u', 'e'] c.advance).map (.bool true, ·))
    | .flag, 'f' :: _ => lift c ((readKeyword ['a', 'l', 's', 'e'] c.advance).map (.bool false, ·))
    | .flag, _ :: _ => .error (peekInvalid "a boolean" c, c)
    | .unsigned _ _, [] => eof
    | .unsigned name max, ch :: _ =>
      if ch == '-' || ch.isDigit then readChecked (checkUnsigned name max) c
      else .error (peekInvalid name c, c)
    | .signed _ _ _, [] => eof
    | .signed name lo hi, ch :: _ =>
      if ch == '-' || ch.isDigit then readChecked (checkSigned name lo hi) c
      else .error (peekInvalid name c, c)
    | .optional _, 'n' :: _ => lift c ((readKeyword ['u', 'l', 'l'] c.advance).map (.null, ·))
    | .optional inner, _ => readShape fuel depth inner c
    | .list _, [] => eof
    | .list inner, '[' :: _ =>
      deeper fun d => close endList (readListItems fuel d inner true [] c.advance)
    | .list _, _ :: _ => .error (peekInvalid "a sequence" c, c)
    | .table _, [] => eof
    | .table inner, '{' :: _ =>
      deeper fun d => close endObject (readTableMembers fuel d inner true [] c.advance)
    | .table _, _ :: _ => .error (peekInvalid "a map" c, c)
    | .record _ _, [] => eof
    | .record name fields, '[' :: _ =>
      deeper fun d => close endList (readRecordItems fuel d name fields fields true [] c.advance)
    | .record _ fields, '{' :: _ =>
      deeper fun d => close endObject (readRecordMembers fuel d fields true [] c.advance)
    | .record name _, _ :: _ => .error (peekInvalid ("struct " ++ name) c, c)
    | .choice _, [] => eof
    | .choice variants, '{' :: _ => deeper fun _ => readVariantObject variants c.advance
    | .choice variants, '"' :: _ => readCheckedString (checkVariant variants) c
    | .choice _, _ :: _ => .error (Syntax.expectedValue.at c.peekPosition, c)
    | .checked _ _, [] => eof
    | .checked _ chk, '"' :: _ => readCheckedString chk c
    | .checked expecting _, _ :: _ => .error (peekInvalid expecting c, c)
    | .either name alternatives, _ =>
      match readValue c.fuel depth c with
      | .error e => .error (e, c)
      | .ok (v, c') =>
        match firstFit Shape.check alternatives v with
        | some j => .ok (j, c')
        | none => .error (custom ("data did not match any variant of untagged enum " ++ name), c')

/-- The items of an array of a shape, after the opening bracket, up to the closing one (left
unread). -/
def readListItems : Nat → Nat → Shape → Bool → List Json → Cursor → Reading
  | 0, _, _, _, _, c => .error (Syntax.recursionLimit.at c.position, c)
  | fuel + 1, depth, inner, first, acc, c =>
    match nextItem first c with
    | .error e => .error (e, c)
    | .ok (.done c) => .ok (.arr acc.reverse, c)
    | .ok (.item c) =>
      match readShape fuel depth inner c with
      | .ok (v, c) => readListItems fuel depth inner false (v :: acc) c
      | .error ec => .error ec

/-- The members of an object of a shape, after the opening brace, up to the closing one (left
unread); a later member of a key replaces an earlier one. -/
def readTableMembers : Nat → Nat → Shape → Bool → List (String × Json) → Cursor → Reading
  | 0, _, _, _, _, c => .error (Syntax.recursionLimit.at c.position, c)
  | fuel + 1, depth, inner, first, acc, c =>
    match nextKey first c with
    | .error e => .error (e, c)
    | .ok (none, c) => .ok (.obj acc, c)
    | .ok (some k, c) =>
      match colon c with
      | .error e => .error (e, c)
      | .ok c =>
        match readShape fuel depth inner c with
        | .ok (v, c) => readTableMembers fuel depth inner false (Obj.insert acc k v) c
        | .error ec => .error ec

/-- The fields of a record from an object, after the opening brace, up to the closing one (left
unread). Unknown keys are read and dropped; a field given twice is an error. -/
def readRecordMembers : Nat → Nat → List (String × Shape × Absent) → Bool →
    List (String × Json) → Cursor → Reading
  | 0, _, _, _, _, c => .error (Syntax.recursionLimit.at c.position, c)
  | fuel + 1, depth, fields, first, found, c =>
    match nextKey first c with
    | .error e => .error (e, c)
    | .ok (none, c) =>
      match fillMissing fields found with
      | .ok j => .ok (j, c)
      | .error msg => .error (custom msg, c)
    | .ok (some k, c) =>
      match fieldShape fields k with
      | some s =>
        if found.any (·.1 == k) then .error (custom (duplicateField k), c)
        else
          match colon c with
          | .error e => .error (e, c)
          | .ok c =>
            match readShape fuel depth s c with
            | .ok (v, c) => readRecordMembers fuel depth fields false ((k, v) :: found) c
            | .error ec => .error ec
      | none =>
        match colon c with
        | .error e => .error (e, c)
        | .ok c =>
          match readValue c.fuel depth c with
          | .ok (_, c) => readRecordMembers fuel depth fields false found c
          | .error e => .error (e, c)

/-- The fields of a record from an array, in field order, after the opening bracket; missing
trailing fields take their fallback or end the reading with an error of length. -/
def readRecordItems : Nat → Nat → String → List (String × Shape × Absent) →
    List (String × Shape × Absent) → Bool → List (String × Json) → Cursor → Reading
  | 0, _, _, _, _, _, _, c => .error (Syntax.recursionLimit.at c.position, c)
  | fuel + 1, depth, name, all, fields, first, found, c =>
    match fields with
    | [] => .ok (mkObj found, c)
    | (k, s, absent) :: fs =>
      match nextItem first c with
      | .error e => .error (e, c)
      | .ok (.done c) =>
        match absent with
        | .fallback d => readRecordItems fuel depth name all fs first ((k, d) :: found) c
        | _ => .error (custom (invalidLength found.length (recordExpecting name all)), c)
      | .ok (.item c) =>
        match readShape fuel depth s c with
        | .ok (v, c) => readRecordItems fuel depth name all fs false ((k, v) :: found) c
        | .error ec => .error ec

end

/-- Read a whole text as a value of a shape; only blanks may follow it. -/
def Shape.decode (shape : Shape) (text : String) : Except JsonError Json :=
  let c := Cursor.ofString text
  match readShape (4 * c.rest.length + 16) depthLimit shape c with
  | .error (e, _) => .error e
  | .ok (v, c) =>
    match finish c with
    | .ok () => .ok v
    | .error e => .error e

end TrackerSync.Json

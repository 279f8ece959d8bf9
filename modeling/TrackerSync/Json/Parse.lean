import TrackerSync.Json.Value

/-!
Reading JSON text, with every error placed as `line L column C` (bytes from the line's start).
-/

namespace TrackerSync.Json

/-- A place in a text: a line (from 1) and a column (bytes from the start of the line). -/
structure Position where
  line : Nat
  column : Nat
  deriving BEq, Repr

/-- Why a text is not JSON, or a value not of the expected kind. -/
structure JsonError where
  message : String
  position : Option Position := none
  deriving Repr

def JsonError.text (e : JsonError) : String :=
  match e.position with
  | some p => e.message ++ " at line " ++ toString p.line ++ " column " ++ toString p.column
  | none => e.message

/-- The ways a text fails to be JSON. -/
inductive Syntax where
  | eofList | eofObject | eofString | eofValue
  | expectedColon | expectedListCommaOrEnd | expectedObjectCommaOrEnd
  | expectedIdent | expectedValue
  | invalidEscape | invalidNumber | numberOutOfRange | controlCharacter
  | keyMustBeString | loneLeadingSurrogate | trailingComma | trailingCharacters
  | unexpectedEndOfHexEscape | recursionLimit
  deriving BEq, Repr

def Syntax.message : Syntax → String
  | .eofList => "EOF while parsing a list"
  | .eofObject => "EOF while parsing an object"
  | .eofString => "EOF while parsing a string"
  | .eofValue => "EOF while parsing a value"
  | .expectedColon => "expected `:`"
  | .expectedListCommaOrEnd => "expected `,` or `]`"
  | .expectedObjectCommaOrEnd => "expected `,` or `\x7d`"
  | .expectedIdent => "expected ident"
  | .expectedValue => "expected value"
  | .invalidEscape => "invalid escape"
  | .invalidNumber => "invalid number"
  | .numberOutOfRange => "number out of range"
  | .controlCharacter => "control character (\\u0000-\\u001F) found while parsing a string"
  | .keyMustBeString => "key must be a string"
  | .loneLeadingSurrogate => "lone leading surrogate in hex escape"
  | .trailingComma => "trailing comma"
  | .trailingCharacters => "trailing characters"
  | .unexpectedEndOfHexEscape => "unexpected end of hex escape"
  | .recursionLimit => "recursion limit exceeded"

def Syntax.at (s : Syntax) (p : Position) : JsonError := ⟨s.message, some p⟩

/-- The reader's place in a text: what is left, the bytes read, the line, and where it starts. -/
structure Cursor where
  rest : List Char
  offset : Nat
  line : Nat
  lineStart : Nat

namespace Cursor

def ofString (s : String) : Cursor := ⟨s.toList, 0, 1, 0⟩

def peek? (c : Cursor) : Option Char := c.rest.head?

def advance (c : Cursor) : Cursor :=
  match c.rest with
  | [] => c
  | ch :: r =>
    if ch == '\n' then ⟨r, c.offset + ch.utf8Size, c.line + 1, c.offset + 1⟩
    else ⟨r, c.offset + ch.utf8Size, c.line, c.lineStart⟩

theorem advance_rest {c : Cursor} {ch : Char} {r : List Char} (h : c.rest = ch :: r) :
    c.advance.rest = r := by
  simp only [advance, h]
  split <;> rfl

def position (c : Cursor) : Position := ⟨c.line, c.offset - c.lineStart⟩

def peekPosition (c : Cursor) : Position :=
  match c.rest with
  | [] => c.position
  | '\n' :: _ => ⟨c.line + 1, 0⟩
  | _ :: _ => ⟨c.line, c.offset + 1 - c.lineStart⟩

def isBlank (ch : Char) : Bool := ch == ' ' || ch == '\n' || ch == '\t' || ch == '\r'

-- `h` is used by the termination proofs only, which the linter does not see
set_option linter.unusedVariables false in
def skipBlanks (c : Cursor) : Cursor :=
  match h : c.rest with
  | ch :: _ => if isBlank ch then skipBlanks c.advance else c
  | [] => c
termination_by c.rest.length
decreasing_by rw [advance_rest h, h]; simp

set_option linter.unusedVariables false in
def toEnd (c : Cursor) : Cursor :=
  match h : c.rest with
  | _ :: _ => toEnd c.advance
  | [] => c
termination_by c.rest.length
decreasing_by rw [advance_rest h, h]; simp

/-- The place `n` bytes further on (stopping at the end of the text). -/
def positionAfterBytes (c : Cursor) (n : Nat) : Position :=
  match h : c.rest, n with
  | _, 0 => c.position
  | [], _ => c.position
  | ch :: _, n + 1 =>
    if ch.utf8Size ≤ n + 1 then positionAfterBytes c.advance (n + 1 - ch.utf8Size)
    else ⟨c.line, c.offset + n + 1 - c.lineStart⟩
termination_by c.rest.length
decreasing_by rw [advance_rest h, h]; simp

def bytesLeft (c : Cursor) : Nat := (c.rest.map Char.utf8Size).foldl (· + ·) 0

end Cursor

/-- A step of the reader: a result and the cursor after it, or an error. -/
abbrev Step (α : Type) := Except JsonError (α × Cursor)

/-- Step over the literal `rest` of a keyword whose first letter has been read. -/
def readKeyword (lit : List Char) (c : Cursor) : Except JsonError Cursor :=
  match lit with
  | [] => .ok c
  | l :: ls =>
    match c.rest with
    | [] => .error (Syntax.eofValue.at c.position)
    | ch :: _ => if ch == l then readKeyword ls c.advance else .error (Syntax.expectedIdent.at c.advance.position)

def hexValue (ch : Char) : Option Nat :=
  if '0' ≤ ch ∧ ch ≤ '9' then some (ch.toNat - 48)
  else if 'a' ≤ ch ∧ ch ≤ 'f' then some (ch.toNat - 87)
  else if 'A' ≤ ch ∧ ch ≤ 'F' then some (ch.toNat - 55)
  else none

def readHex4 (c : Cursor) : Step Nat :=
  if c.bytesLeft < 4 then .error (Syntax.eofString.at c.toEnd.position)
  else
    match c.rest with
    | a :: b :: d :: e :: _ =>
      match hexValue a, hexValue b, hexValue d, hexValue e with
      | some x, some y, some z, some w =>
        .ok (((x * 16 + y) * 16 + z) * 16 + w, c.advance.advance.advance.advance)
      | _, _, _, _ => .error (Syntax.invalidEscape.at (c.positionAfterBytes 4))
    | _ => .error (Syntax.invalidEscape.at (c.positionAfterBytes 4))

/-- The rest of a `\u` escape after the `u`: one code point, or a surrogate pair. -/
def readUnicodeEscape (c : Cursor) : Step Char :=
  match readHex4 c with
  | .error e => .error e
  | .ok (n, c) =>
    if 0xDC00 ≤ n ∧ n ≤ 0xDFFF then .error (Syntax.loneLeadingSurrogate.at c.position)
    else if n < 0xD800 ∨ n > 0xDBFF then .ok (Char.ofNat n, c)
    else
      match c.rest with
      | [] => .error (Syntax.eofString.at c.position)
      | '\\' :: _ =>
        let c := c.advance
        match c.rest with
        | [] => .error (Syntax.eofString.at c.position)
        | 'u' :: _ =>
          match readHex4 c.advance with
          | .error e => .error e
          | .ok (n2, c) =>
            if n2 < 0xDC00 ∨ n2 > 0xDFFF then .error (Syntax.loneLeadingSurrogate.at c.position)
            else .ok (Char.ofNat ((n - 0xD800) * 1024 + (n2 - 0xDC00) + 0x10000), c)
        | _ :: _ => .error (Syntax.unexpectedEndOfHexEscape.at c.advance.position)
      | _ :: _ => .error (Syntax.unexpectedEndOfHexEscape.at c.advance.position)

def readEscape (c : Cursor) : Step Char :=
  match c.rest with
  | [] => .error (Syntax.eofString.at c.position)
  | ch :: _ =>
    let c := c.advance
    match ch with
    | '"' => .ok ('"', c)
    | '\\' => .ok ('\\', c)
    | '/' => .ok ('/', c)
    | 'b' => .ok (Char.ofNat 8, c)
    | 'f' => .ok (Char.ofNat 12, c)
    | 'n' => .ok ('\n', c)
    | 'r' => .ok ('\r', c)
    | 't' => .ok ('\t', c)
    | 'u' => readUnicodeEscape c
    | _ => .error (Syntax.invalidEscape.at c.position)

set_option linter.unusedVariables false in
/-- The characters of a string up to its closing quote, which is read too. -/
def readStringBody (acc : List Char) (c : Cursor) : Step String :=
  match h : c.rest with
  | [] => .error (Syntax.eofString.at c.position)
  | ch :: _ =>
    if ch == '"' then .ok (String.ofList acc.reverse, c.advance)
    else if ch == '\\' then
      match readEscape c.advance with
      | .ok (e, c') =>
        if c'.rest.length < c.rest.length then readStringBody (e :: acc) c'
        else .error (Syntax.eofString.at c'.position)
      | .error err => .error err
    else if ch.toNat < 0x20 then .error (Syntax.controlCharacter.at c.advance.position)
    else readStringBody (ch :: acc) c.advance
termination_by c.rest.length
decreasing_by
  · assumption
  · rw [Cursor.advance_rest h, h]; simp

def readString (c : Cursor) : Step String := readStringBody [] c.advance

/-- The double `± significand · 10^exponent` as the reader makes it: the significand rounded, then
scaled by the double nearest to a power of ten; an overflow is out of range. -/
def floatOfParts (positive : Bool) (significand : Nat) (exponent : Int) (here : Position) :
    Except JsonError Float :=
  let rec go : Nat → Float → Int → Except JsonError Float
    | 0, f, _ => .ok f
    | fuel + 1, f, e =>
      if e.natAbs ≤ 308 then
        if 0 ≤ e then
          let g := f * Decimal.pow10 e.natAbs
          if g.isInf then .error (Syntax.numberOutOfRange.at here) else .ok g
        else .ok (f / Decimal.pow10 e.natAbs)
      else if f == 0 then .ok f
      else if 0 ≤ e then .error (Syntax.numberOutOfRange.at here)
      else go fuel (f / Decimal.pow10 308) (e + 308)
  (go 8 (UInt64.toFloat (UInt64.ofNat significand)) exponent).map (fun f => if positive then f else -f)

def expMax : Int := 2147483647

def clampExp (e : Int) : Int := max (-2147483648) (min expMax e)

set_option linter.unusedVariables false in
def skipDigits (c : Cursor) : Cursor :=
  match h : c.rest with
  | ch :: _ => if ch.isDigit then skipDigits c.advance else c
  | [] => c
termination_by c.rest.length
decreasing_by rw [Cursor.advance_rest h, h]; simp

/-- The digits of an exponent after its first digit; `none` when it overflows 32 bits. -/
def readExpDigits (acc : Nat) (c : Cursor) : Option Nat × Cursor :=
  match h : c.rest with
  | ch :: _ =>
    if ch.isDigit then
      let acc' := acc * 10 + (ch.toNat - 48)
      if acc' > 2147483647 then (none, c.advance) else readExpDigits acc' c.advance
    else (some acc, c)
  | [] => (some acc, c)
termination_by c.rest.length
decreasing_by all_goals (rw [Cursor.advance_rest h, h]; simp)

/-- The exponent part of a number, with `e` or `E` under the cursor. -/
def readExponent (positive : Bool) (significand : Nat) (start : Int) (c : Cursor) : Step Float :=
  let c := c.advance
  let (positiveExp, c) := match c.rest with
    | '+' :: _ => (true, c.advance)
    | '-' :: _ => (false, c.advance)
    | _ => (true, c)
  match c.rest with
  | [] => .error (Syntax.eofValue.at c.position)
  | ch :: _ =>
    let c := c.advance
    if !ch.isDigit then .error (Syntax.invalidNumber.at c.position)
    else
      match readExpDigits (ch.toNat - 48) c with
      | (some e, c) =>
        let final := clampExp (if positiveExp then start + e else start - e)
        (floatOfParts positive significand final c.position).map (·, c)
      | (none, c) =>
        if significand != 0 && positiveExp then .error (Syntax.numberOutOfRange.at c.position)
        else
          let c := skipDigits c
          .ok ((if positive then 0.0 else -0.0), c)

def u64Max : Nat := 18446744073709551615

/-- The digits after a decimal point once the significand has no more room: they are read
and dropped. -/
def readDecimalOverflow (positive : Bool) (significand : Nat) (exponent : Int) (c : Cursor) :
    Step Float :=
  let c := skipDigits c
  match c.rest with
  | 'e' :: _ | 'E' :: _ => readExponent positive significand exponent c
  | _ => (floatOfParts positive significand exponent c.position).map (·, c)

def readFraction (positive : Bool) (significand : Nat) (before : Int) (after : Nat) (c : Cursor) :
    Step Float :=
  match h : c.rest with
  | ch :: _ =>
    if ch.isDigit then
      let d := ch.toNat - 48
      if significand * 10 + d > u64Max then
        readDecimalOverflow positive significand (before - after) c
      else readFraction positive (significand * 10 + d) before (after + 1) c.advance
    else finish
  | [] => finish
termination_by c.rest.length
decreasing_by rw [Cursor.advance_rest h, h]; simp
where
  finish :=
    if after == 0 then
      match c.rest with
      | _ :: _ => .error (Syntax.invalidNumber.at c.peekPosition)
      | [] => .error (Syntax.eofValue.at c.peekPosition)
    else
      match c.rest with
      | 'e' :: _ | 'E' :: _ => readExponent positive significand (before - after) c
      | _ => (floatOfParts positive significand (before - after) c.position).map (·, c)

/-- A number's fraction or exponent, or its end, after the integer digits. -/
def readNumberTail (positive : Bool) (significand : Nat) (c : Cursor) : Step Number :=
  match c.rest with
  | '.' :: _ => (readFraction positive significand 0 0 c.advance).map fun (f, c) => (.float f, c)
  | 'e' :: _ | 'E' :: _ => (readExponent positive significand 0 c).map fun (f, c) => (.float f, c)
  | _ =>
    if positive then .ok (.nat significand, c)
    else if significand == 0 then .ok (.float (-0.0), c)
    else if significand ≤ Nat.pow 2 63 then .ok (.neg significand, c)
    else .ok (.float (-(UInt64.toFloat (UInt64.ofNat significand))), c)

/-- Integer digits beyond what 64 bits hold: each one scales the double by ten. -/
def readLongInteger (positive : Bool) (significand : Nat) (extra : Nat) (c : Cursor) : Step Float :=
  match h : c.rest with
  | ch :: _ =>
    if ch.isDigit then readLongInteger positive significand (extra + 1) c.advance
    else if ch == '.' then readFraction positive significand extra 0 c.advance
    else if ch == 'e' || ch == 'E' then readExponent positive significand extra c
    else (floatOfParts positive significand extra c.position).map (·, c)
  | [] => (floatOfParts positive significand extra c.position).map (·, c)
termination_by c.rest.length
decreasing_by rw [Cursor.advance_rest h, h]; simp

def readIntegerDigits (positive : Bool) (significand : Nat) (c : Cursor) : Step Number :=
  match h : c.rest with
  | ch :: _ =>
    if ch.isDigit then
      let d := ch.toNat - 48
      if significand * 10 + d > u64Max then
        (readLongInteger positive significand 0 c).map fun (f, c) => (.float f, c)
      else readIntegerDigits positive (significand * 10 + d) c.advance
    else readNumberTail positive significand c
  | [] => readNumberTail positive significand c
termination_by c.rest.length
decreasing_by rw [Cursor.advance_rest h, h]; simp

/-- A number after its sign: the cursor is on its first digit. -/
def readUnsigned (positive : Bool) (c : Cursor) : Step Number :=
  match c.rest with
  | [] => .error (Syntax.eofValue.at c.position)
  | ch :: _ =>
    let c := c.advance
    if ch == '0' then
      match c.rest with
      | d :: _ => if d.isDigit then .error (Syntax.invalidNumber.at c.peekPosition)
                  else readNumberTail positive 0 c
      | [] => readNumberTail positive 0 c
    else if ch.isDigit then readIntegerDigits positive (ch.toNat - 48) c
    else .error (Syntax.invalidNumber.at c.position)

/-- A number whose first character (a digit or a minus) is under the cursor. -/
def readNumber (c : Cursor) : Step Number :=
  match c.rest with
  | '-' :: _ => readUnsigned false c.advance
  | _ => readUnsigned true c

def depthLimit : Nat := 128

mutual

/-- One value at the cursor (blanks first). `depth` counts the levels still allowed and
`fuel` bounds the steps; a text of `n` characters needs at most `2n + 2`. -/
def readValue : Nat → Nat → Cursor → Step Json
  | 0, _, c => .error (Syntax.eofValue.at c.position)
  | fuel + 1, depth, c =>
    let c := c.skipBlanks
    match c.rest with
    | [] => .error (Syntax.eofValue.at c.peekPosition)
    | 'n' :: _ => (readKeyword ['u', 'l', 'l'] c.advance).map (.null, ·)
    | 't' :: _ => (readKeyword ['r', 'u', 'e'] c.advance).map (.bool true, ·)
    | 'f' :: _ => (readKeyword ['a', 'l', 's', 'e'] c.advance).map (.bool false, ·)
    | '"' :: _ => (readString c).map fun (s, c) => (.str s, c)
    | '[' :: _ =>
      if depth ≤ 1 then .error (Syntax.recursionLimit.at c.peekPosition)
      else readItems fuel (depth - 1) true [] c.advance
    | '{' :: _ =>
      if depth ≤ 1 then .error (Syntax.recursionLimit.at c.peekPosition)
      else readMembers fuel (depth - 1) true [] c.advance
    | ch :: _ =>
      if ch == '-' || ch.isDigit then (readNumber c).map fun (n, c) => (.num n, c)
      else .error (Syntax.expectedValue.at c.peekPosition)

/-- The items of an array after its opening bracket, up to and with the closing one. -/
def readItems : Nat → Nat → Bool → List Json → Cursor → Step Json
  | 0, _, _, _, c => .error (Syntax.eofList.at c.position)
  | fuel + 1, depth, first, acc, c =>
    let c := c.skipBlanks
    match c.rest with
    | [] => .error (Syntax.eofList.at c.peekPosition)
    | ']' :: _ => .ok (.arr acc.reverse, c.advance)
    | ',' :: _ =>
      if first then item fuel depth acc c
      else
        let c := c.advance.skipBlanks
        match c.rest with
        | ']' :: _ => .error (Syntax.trailingComma.at c.peekPosition)
        | [] => .error (Syntax.eofValue.at c.peekPosition)
        | _ :: _ => item fuel depth acc c
    | _ :: _ =>
      if first then item fuel depth acc c
      else .error (Syntax.expectedListCommaOrEnd.at c.peekPosition)
where
  item (fuel depth : Nat) (acc : List Json) (c : Cursor) : Step Json :=
    match readValue fuel depth c with
    | .ok (v, c) => readItems fuel depth false (v :: acc) c
    | .error e => .error e

/-- The members of an object after its opening brace, up to and with the closing one. -/
def readMembers : Nat → Nat → Bool → List (String × Json) → Cursor → Step Json
  | 0, _, _, _, c => .error (Syntax.eofObject.at c.position)
  | fuel + 1, depth, first, acc, c =>
    let c := c.skipBlanks
    match c.rest with
    | [] => .error (Syntax.eofObject.at c.peekPosition)
    | '}' :: _ => .ok (.obj acc, c.advance)
    | ',' :: _ =>
      if first then .error (Syntax.keyMustBeString.at c.peekPosition)
      else
        let c := c.advance.skipBlanks
        match c.rest with
        | '"' :: _ => member fuel depth acc c
        | '}' :: _ => .error (Syntax.trailingComma.at c.peekPosition)
        | [] => .error (Syntax.eofValue.at c.peekPosition)
        | _ :: _ => .error (Syntax.keyMustBeString.at c.peekPosition)
    | '"' :: _ =>
      if first then member fuel depth acc c
      else .error (Syntax.expectedObjectCommaOrEnd.at c.peekPosition)
    | _ :: _ =>
      if first then .error (Syntax.keyMustBeString.at c.peekPosition)
      else .error (Syntax.expectedObjectCommaOrEnd.at c.peekPosition)
where
  member (fuel depth : Nat) (acc : List (String × Json)) (c : Cursor) : Step Json :=
    match readString c with
    | .error e => .error e
    | .ok (k, c) =>
      let c := c.skipBlanks
      match c.rest with
      | ':' :: _ =>
        match readValue fuel depth c.advance with
        | .ok (v, c) => readMembers fuel depth false (Obj.insert acc k v) c
        | .error e => .error e
      | [] => .error (Syntax.eofObject.at c.peekPosition)
      | _ :: _ => .error (Syntax.expectedColon.at c.peekPosition)

end

/-- Enough fuel to read any value of a text starting at the cursor. -/
def Cursor.fuel (c : Cursor) : Nat := 2 * c.rest.length + 2

def readAny (c : Cursor) : Step Json := readValue c.fuel depthLimit c

def finish (c : Cursor) : Except JsonError Unit :=
  let c := c.skipBlanks
  match c.rest with
  | [] => .ok ()
  | _ :: _ => .error (Syntax.trailingCharacters.at c.peekPosition)

def parse (s : String) : Except JsonError Json := do
  let (v, c) ← readAny (Cursor.ofString s)
  finish c
  return v

end TrackerSync.Json

/-!
Percent-encoding of URL components and the `application/x-www-form-urlencoded` format.
-/

namespace TrackerSync.Http

def hexUpper (n : Nat) : Char := if n < 10 then Char.ofNat (48 + n) else Char.ofNat (55 + n)

def utf8Bytes (c : Char) : List Nat := (String.singleton c).toUTF8.toList.map (·.toNat)

def percentByte (b : Nat) : String := String.ofList ['%', hexUpper (b / 16), hexUpper (b % 16)]

/-- A text with the characters `escape` selects written as percent-encoded UTF-8 bytes. -/
def encodeWith (escape : Char → Bool) (s : String) : String :=
  String.join (s.toList.map fun c =>
    if escape c then String.join ((utf8Bytes c).map percentByte) else String.singleton c)

def isC0OrBeyond (c : Char) : Bool := c.toNat < 0x20 || c.toNat > 0x7E

def querySet (c : Char) : Bool := isC0OrBeyond c || " \"#<>'".toList.contains c

def pathSet (c : Char) : Bool := isC0OrBeyond c || " \"#<>?`{}".toList.contains c

def userinfoSet (c : Char) : Bool :=
  pathSet c || "/:;=@[\\]^|".toList.contains c

def formEncode (s : String) : String :=
  String.join (s.toList.map fun c =>
    if c == ' ' then "+"
    else if c.isAlphanum && c.toNat < 128 || "*-._".toList.contains c then String.singleton c
    else String.join ((utf8Bytes c).map percentByte))

def formEncodePairs (pairs : List (String × String)) : String :=
  "&".intercalate (pairs.map fun (k, v) => formEncode k ++ "=" ++ formEncode v)

def hexValue? (c : Char) : Option Nat :=
  if '0' ≤ c && c ≤ '9' then some (c.toNat - 48)
  else if 'a' ≤ c && c ≤ 'f' then some (c.toNat - 87)
  else if 'A' ≤ c && c ≤ 'F' then some (c.toNat - 55)
  else none

def unescapeBytes : List Char → List Nat
  | '%' :: a :: b :: rest =>
    match hexValue? a, hexValue? b with
    | some x, some y => (16 * x + y) :: unescapeBytes rest
    | _, _ => utf8Bytes '%' ++ unescapeBytes (a :: b :: rest)
  | c :: rest => utf8Bytes c ++ unescapeBytes rest
  | [] => []

def inRange (lo hi : Nat) (b : Nat) : Bool := lo ≤ b && b ≤ hi

/-- The length of a UTF-8 sequence by its lead byte and the range its second byte must lie in. -/
def leadShape (b : Nat) : Option (Nat × Nat × Nat) :=
  if 0xC2 ≤ b && b ≤ 0xDF then some (2, 0x80, 0xBF)
  else if b == 0xE0 then some (3, 0xA0, 0xBF)
  else if 0xE1 ≤ b && b ≤ 0xEC || b == 0xEE || b == 0xEF then some (3, 0x80, 0xBF)
  else if b == 0xED then some (3, 0x80, 0x9F)
  else if b == 0xF0 then some (4, 0x90, 0xBF)
  else if 0xF1 ≤ b && b ≤ 0xF3 then some (4, 0x80, 0xBF)
  else if b == 0xF4 then some (4, 0x80, 0x8F)
  else none

/-- How many bytes after the lead continue a sequence of `len` bytes whose second byte lies in
`[lo, hi]` (the rest in `[0x80, 0xBF]`). -/
def validTail (len lo hi : Nat) (rest : List Nat) : Nat :=
  match rest with
  | b :: more =>
    if inRange lo hi b then 1 + ((more.take (len - 2)).takeWhile (inRange 0x80 0xBF)).length else 0
  | [] => 0

def charOfSeq (bs : List Nat) : Char :=
  match bs with
  | [a, b] => Char.ofNat ((a % 32) * 64 + b % 64)
  | [a, b, c] => Char.ofNat ((a % 16) * 4096 + (b % 64) * 64 + c % 64)
  | [a, b, c, d] => Char.ofNat ((a % 8) * 262144 + (b % 64) * 4096 + (c % 64) * 64 + d % 64)
  | _ => '\uFFFD'

def decodeLossy (bs : List Nat) : List Char :=
  match bs with
  | [] => []
  | b :: rest =>
    if b < 0x80 then Char.ofNat b :: decodeLossy rest
    else
      match leadShape b with
      | none => '\uFFFD' :: decodeLossy rest
      | some (len, lo, hi) =>
        let k := validTail len lo hi rest
        if k + 1 == len then charOfSeq (b :: rest.take k) :: decodeLossy (rest.drop k)
        else '\uFFFD' :: decodeLossy (rest.drop k)
termination_by bs.length
decreasing_by all_goals (try simp only [List.length_drop, List.length_cons]); all_goals omega

def percentDecode (s : String) : String := String.ofList (decodeLossy (unescapeBytes s.toList))

def formDecode (s : String) : List (String × String) :=
  (s.splitOn "&").filterMap fun piece =>
    if piece.isEmpty then none
    else
      let plain := piece.map fun c => if c == '+' then ' ' else c
      match plain.splitOn "=" with
      | [] => none
      | [k] => some (percentDecode k, "")
      | k :: vs => some (percentDecode k, percentDecode ("=".intercalate vs))

end TrackerSync.Http

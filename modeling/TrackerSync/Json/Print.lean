import TrackerSync.Json.Value

/-!
JSON text in compact and pretty form, with strings escaped alike in both.
-/

namespace TrackerSync.Json

def hexDigit (n : Nat) : Char :=
  if n < 10 then Char.ofNat (48 + n) else Char.ofNat (87 + n)

/-- The characters that stand for one character inside a quoted JSON string. -/
def escapeChar (c : Char) : List Char :=
  if c == '"' then ['\\', '"']
  else if c == '\\' then ['\\', '\\']
  else if c.toNat < 0x20 then
    match c.toNat with
    | 0x08 => ['\\', 'b']
    | 0x09 => ['\\', 't']
    | 0x0a => ['\\', 'n']
    | 0x0c => ['\\', 'f']
    | 0x0d => ['\\', 'r']
    | n => ['\\', 'u', '0', '0', hexDigit (n / 16), hexDigit (n % 16)]
  else [c]

def quote (s : String) : String :=
  String.ofList ('"' :: (s.toList.flatMap escapeChar ++ ['"']))

def compact : Json → String
  | .null => "null"
  | .bool true => "true"
  | .bool false => "false"
  | .num n => n.text
  | .str s => quote s
  | .arr items => "[" ++ items_ items ++ "]"
  | .obj members => "\x7b" ++ members_ members ++ "\x7d"
where
  items_ : List Json → String
    | [] => ""
    | [x] => compact x
    | x :: xs => compact x ++ "," ++ items_ xs
  members_ : List (String × Json) → String
    | [] => ""
    | [(k, v)] => quote k ++ ":" ++ compact v
    | (k, v) :: rest => quote k ++ ":" ++ compact v ++ "," ++ members_ rest

def indent (level : Nat) : String := String.ofList (List.replicate (2 * level) ' ')

def prettyAt (level : Nat) : Json → String
  | .arr [] => "[]"
  | .obj [] => "\x7b\x7d"
  | .arr items => "[\n" ++ items_ level items ++ "\n" ++ indent level ++ "]"
  | .obj members => "\x7b\n" ++ members_ level members ++ "\n" ++ indent level ++ "\x7d"
  | other => compact other
where
  items_ (level : Nat) : List Json → String
    | [] => ""
    | [x] => indent (level + 1) ++ prettyAt (level + 1) x
    | x :: xs => indent (level + 1) ++ prettyAt (level + 1) x ++ ",\n" ++ items_ level xs
  members_ (level : Nat) : List (String × Json) → String
    | [] => ""
    | [(k, v)] => indent (level + 1) ++ quote k ++ ": " ++ prettyAt (level + 1) v
    | (k, v) :: rest =>
      indent (level + 1) ++ quote k ++ ": " ++ prettyAt (level + 1) v ++ ",\n" ++ members_ level rest

def pretty (j : Json) : String := prettyAt 0 j

end TrackerSync.Json

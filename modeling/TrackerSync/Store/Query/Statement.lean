import TrackerSync.Store.Row

/-!
Statements that change stored rows: `UPDATE`, `DELETE` and `INSERT`, read from text.
-/

namespace TrackerSync.Query

/-- A token of a statement. -/
inductive Token where
  /-- A keyword or a name, as written. -/
  | word (text : String)
  /-- A name in double quotes. -/
  | quotedName (name : String) (raw : String)
  /-- A text in single quotes. -/
  | literal (text : String) (raw : String)
  /-- A whole number. -/
  | number (n : Nat) (raw : String)
  /-- An operator or punctuation. -/
  | symbol (text : String)
  /-- Text that starts no token, with the message that refuses it. -/
  | bad (message : String)
  deriving BEq, Repr, Inhabited

namespace Token

def raw : Token → String
  | .word t | .symbol t => t
  | .quotedName _ r | .literal _ r | .number _ r => r
  | .bad m => m

def isKeyword (t : Token) (kw : String) : Bool :=
  match t with
  | .word w => w.toUpper == kw
  | _ => false

end Token

def isNameChar (c : Char) : Bool := c.isAlphanum || c == '_' || c == '$'

/-- The body of a quoted token up to its closing quote, a doubled quote standing for one, and
what follows; none when the quote is never closed. -/
def readQuoted (q : Char) : List Char → List Char → Option (List Char × List Char)
  | _, [] => none
  | acc, c :: rest =>
    if c == q then
      match rest with
      | d :: more => if d == q then readQuoted q (q :: acc) more else some (acc.reverse, rest)
      | [] => some (acc.reverse, [])
    else readQuoted q (c :: acc) rest

def afterComment : List Char → List Char
  | '*' :: '/' :: rest => rest
  | _ :: rest => afterComment rest
  | [] => []

def pairSymbols : List String := ["==", "!=", "<>", "<=", ">=", "||"]

def singleSymbols : List Char := ['=', '<', '>', ',', '(', ')', ';', '*', '+', '-', '.', '/', '%']

def unrecognized (cs : List Char) : Token := .bad ("unrecognized token: \"" ++ String.ofList cs ++ "\"")

def digitsValue (ds : List Char) : Nat := ds.foldl (fun n d => 10 * n + (d.toNat - '0'.toNat)) 0

/-- The tokens of a text, each step taking at least one character; text that starts no token
ends the list with a `bad` token. -/
def scan : Nat → List Char → List Token → List Token
  | 0, _, acc => acc.reverse
  | _, [], acc => acc.reverse
  | fuel + 1, c :: rest, acc =>
    if c == ' ' || c == '\t' || c == '\n' || c == '\r' || c == '\x0c' then scan fuel rest acc
    else if c == '-' && rest.head? == some '-' then scan fuel (rest.dropWhile (· != '\n')) acc
    else if c == '/' && rest.head? == some '*' then scan fuel (afterComment rest.tail) acc
    else if c.isAlpha || c == '_' then
      let name := c :: rest.takeWhile isNameChar
      scan fuel (rest.dropWhile isNameChar) (.word (String.ofList name) :: acc)
    else if c.isDigit then
      let digits := c :: rest.takeWhile Char.isDigit
      let more := rest.dropWhile Char.isDigit
      match more with
      | d :: _ =>
        if isNameChar d || d == '.' then
          (unrecognized (digits ++ more.takeWhile fun x => isNameChar x || x == '.') :: acc).reverse
        else scan fuel more (.number (digitsValue digits) (String.ofList digits) :: acc)
      | [] => scan fuel more (.number (digitsValue digits) (String.ofList digits) :: acc)
    else if c == '\'' || c == '"' then
      match readQuoted c [] rest with
      | none => (unrecognized (c :: rest) :: acc).reverse
      | some (body, more) =>
        let raw := String.ofList ((c :: rest).take ((c :: rest).length - more.length))
        let tok := if c == '\'' then Token.literal (String.ofList body) raw
          else .quotedName (String.ofList body) raw
        scan fuel more (tok :: acc)
    else
      match rest with
      | d :: more =>
        let pair := String.ofList [c, d]
        if pairSymbols.contains pair then scan fuel more (.symbol pair :: acc)
        else if singleSymbols.contains c then scan fuel rest (.symbol (String.singleton c) :: acc)
        else (unrecognized [c] :: acc).reverse
      | [] =>
        if singleSymbols.contains c then scan fuel rest (.symbol (String.singleton c) :: acc)
        else (unrecognized [c] :: acc).reverse

def tokens (text : String) : List Token := scan (text.length + 1) text.toList []

/-- A comparison. -/
inductive Comparison where
  | eq
  | ne
  | lt
  | le
  | gt
  | ge
  deriving BEq, Repr, Inhabited

def Comparison.ofSymbol? : String → Option Comparison
  | "=" | "==" => some .eq
  | "!=" | "<>" => some .ne
  | "<" => some .lt
  | "<=" => some .le
  | ">" => some .gt
  | ">=" => some .ge
  | _ => none

/-- An expression. -/
inductive Expr where
  /-- A literal value. -/
  | value (c : Cell)
  /-- A column by name. -/
  | column (name : String)
  /-- A name in double quotes: a column if one has it, else a text. -/
  | quoted (name : String)
  | negate (e : Expr)
  | concat (a b : Expr)
  | compare (op : Comparison) (a b : Expr)
  /-- `IS NULL`, or `IS NOT NULL` when negated. -/
  | isNull (e : Expr) (negated : Bool)
  | not (e : Expr)
  | both (a b : Expr)
  | either (a b : Expr)
  deriving Repr, Inhabited

/-- A statement. -/
inductive Statement where
  | update (table : String) (assignments : List (String × Expr)) (condition : Option Expr)
  | delete (table : String) (condition : Option Expr)
  | insert (table : String) (columns : Option (List String)) (rows : List (List Expr))
  deriving Repr, Inhabited

def stopAt : List Token → String
  | [] => "incomplete input"
  | .bad m :: _ => m
  | t :: _ => "near \"" ++ t.raw ++ "\": syntax error"

def keyword (kw : String) : List Token → Except String (Unit × List Token)
  | t :: rest => if t.isKeyword kw then .ok ((), rest) else .error (stopAt (t :: rest))
  | [] => .error (stopAt [])

def symbol (s : String) : List Token → Except String (Unit × List Token)
  | .symbol t :: rest => if t == s then .ok ((), rest) else .error (stopAt (.symbol t :: rest))
  | ts => .error (stopAt ts)

/-- The words that end an expression or a name list and can be no name. -/
def reserved : List String :=
  ["SET", "WHERE", "FROM", "INTO", "VALUES", "AND", "OR", "NOT", "IS", "NULL", "UPDATE", "DELETE",
   "INSERT"]

/-- Take a name: a word that is not reserved, or a name in double quotes. -/
def name : List Token → Except String (String × List Token)
  | .word w :: rest => if reserved.contains w.toUpper then .error (stopAt (.word w :: rest)) else .ok (w, rest)
  | .quotedName n _ :: rest => .ok (n, rest)
  | ts => .error (stopAt ts)

def names : Nat → List Token → Except String (List String × List Token)
  | 0, ts => .error (stopAt ts)
  | fuel + 1, ts => do
    let (n, ts) ← name ts
    match ts with
    | .symbol "," :: rest => do
      let (more, ts) ← names fuel rest
      return (n :: more, ts)
    | _ => return ([n], ts)

mutual

def orExpr : Nat → List Token → Except String (Expr × List Token)
  | 0, ts => .error (stopAt ts)
  | fuel + 1, ts => do
    let (a, ts) ← andExpr fuel ts
    orRest fuel a ts

def orRest : Nat → Expr → List Token → Except String (Expr × List Token)
  | 0, _, ts => .error (stopAt ts)
  | fuel + 1, a, ts =>
    match ts with
    | t :: rest =>
      if t.isKeyword "OR" then do
        let (b, ts) ← andExpr fuel rest
        orRest fuel (.either a b) ts
      else .ok (a, ts)
    | [] => .ok (a, [])

def andExpr : Nat → List Token → Except String (Expr × List Token)
  | 0, ts => .error (stopAt ts)
  | fuel + 1, ts => do
    let (a, ts) ← notExpr fuel ts
    andRest fuel a ts

def andRest : Nat → Expr → List Token → Except String (Expr × List Token)
  | 0, _, ts => .error (stopAt ts)
  | fuel + 1, a, ts =>
    match ts with
    | t :: rest =>
      if t.isKeyword "AND" then do
        let (b, ts) ← notExpr fuel rest
        andRest fuel (.both a b) ts
      else .ok (a, ts)
    | [] => .ok (a, [])

def notExpr : Nat → List Token → Except String (Expr × List Token)
  | 0, ts => .error (stopAt ts)
  | fuel + 1, ts =>
    match ts with
    | t :: rest =>
      if t.isKeyword "NOT" then do
        let (e, ts) ← notExpr fuel rest
        return (.not e, ts)
      else comparison fuel ts
    | [] => .error (stopAt [])

/-- A comparison of two operands, an `IS [NOT] NULL` test, or one operand. -/
def comparison : Nat → List Token → Except String (Expr × List Token)
  | 0, ts => .error (stopAt ts)
  | fuel + 1, ts => do
    let (a, ts) ← concatExpr fuel ts
    match ts with
    | .symbol s :: rest =>
      match Comparison.ofSymbol? s with
      | some op => do
        let (b, ts) ← concatExpr fuel rest
        return (.compare op a b, ts)
      | none => return (a, ts)
    | t :: rest =>
      if t.isKeyword "IS" then
        match rest with
        | n :: rest' =>
          if n.isKeyword "NOT" then do
            let ((), ts) ← keyword "NULL" rest'
            return (.isNull a true, ts)
          else do
            let ((), ts) ← keyword "NULL" (n :: rest')
            return (.isNull a false, ts)
        | [] => .error (stopAt [])
      else return (a, ts)
    | [] => return (a, [])

def concatExpr : Nat → List Token → Except String (Expr × List Token)
  | 0, ts => .error (stopAt ts)
  | fuel + 1, ts => do
    let (a, ts) ← unary fuel ts
    concatRest fuel a ts

def concatRest : Nat → Expr → List Token → Except String (Expr × List Token)
  | 0, _, ts => .error (stopAt ts)
  | fuel + 1, a, ts =>
    match ts with
    | .symbol "||" :: rest => do
      let (b, ts) ← unary fuel rest
      concatRest fuel (.concat a b) ts
    | _ => .ok (a, ts)

def unary : Nat → List Token → Except String (Expr × List Token)
  | 0, ts => .error (stopAt ts)
  | fuel + 1, ts =>
    match ts with
    | .symbol "-" :: rest => do
      let (e, ts) ← unary fuel rest
      return (.negate e, ts)
    | .symbol "+" :: rest => unary fuel rest
    | _ => primary fuel ts

def primary : Nat → List Token → Except String (Expr × List Token)
  | 0, ts => .error (stopAt ts)
  | fuel + 1, ts =>
    match ts with
    | .literal s _ :: rest => .ok (.value (.text s), rest)
    | .number n _ :: rest => .ok (.value (.integer n), rest)
    | .quotedName n _ :: rest => .ok (.quoted n, rest)
    | .symbol "(" :: rest => do
      let (e, ts) ← orExpr fuel rest
      let ((), ts) ← symbol ")" ts
      return (e, ts)
    | .word w :: rest =>
      if w.toUpper == "NULL" then .ok (.value .null, rest)
      else if reserved.contains w.toUpper then .error (stopAt ts)
      else .ok (.column w, rest)
    | _ => .error (stopAt ts)

end

def expr (ts : List Token) : Except String (Expr × List Token) := orExpr (4 * ts.length + 4) ts

def assignments : Nat → List Token → Except String (List (String × Expr) × List Token)
  | 0, ts => .error (stopAt ts)
  | fuel + 1, ts => do
    let (n, ts) ← name ts
    let ((), ts) ← symbol "=" ts
    let (e, ts) ← expr ts
    match ts with
    | .symbol "," :: rest => do
      let (more, ts) ← assignments fuel rest
      return ((n, e) :: more, ts)
    | _ => return ([(n, e)], ts)

def exprList : Nat → List Token → Except String (List Expr × List Token)
  | 0, ts => .error (stopAt ts)
  | fuel + 1, ts => do
    let (e, ts) ← expr ts
    match ts with
    | .symbol "," :: rest => do
      let (more, ts) ← exprList fuel rest
      return (e :: more, ts)
    | _ => return ([e], ts)

def valueRows : Nat → List Token → Except String (List (List Expr) × List Token)
  | 0, ts => .error (stopAt ts)
  | fuel + 1, ts => do
    let ((), ts) ← symbol "(" ts
    let (row, ts) ← exprList ts.length ts
    let ((), ts) ← symbol ")" ts
    match ts with
    | .symbol "," :: rest => do
      let (more, ts) ← valueRows fuel rest
      return (row :: more, ts)
    | _ => return ([row], ts)

def condition (ts : List Token) : Except String (Option Expr × List Token) :=
  match ts with
  | t :: rest =>
    if t.isKeyword "WHERE" then do
      let (e, ts) ← expr rest
      return (some e, ts)
    else .ok (none, ts)
  | [] => .ok (none, [])

def statement (ts : List Token) : Except String (Statement × List Token) :=
  match ts with
  | t :: rest =>
    if t.isKeyword "UPDATE" then do
      let (table, ts) ← name rest
      let ((), ts) ← keyword "SET" ts
      let (sets, ts) ← assignments ts.length ts
      let (cond, ts) ← condition ts
      return (.update table sets cond, ts)
    else if t.isKeyword "DELETE" then do
      let ((), ts) ← keyword "FROM" rest
      let (table, ts) ← name ts
      let (cond, ts) ← condition ts
      return (.delete table cond, ts)
    else if t.isKeyword "INSERT" then do
      let ((), ts) ← keyword "INTO" rest
      let (table, ts) ← name ts
      let (cols, ts) ← match ts with
        | .symbol "(" :: more => do
          let (cs, ts) ← names more.length more
          let ((), ts) ← symbol ")" ts
          pure (some cs, ts)
        | _ => pure (none, ts)
      let ((), ts) ← keyword "VALUES" ts
      let (rows, ts) ← valueRows ts.length ts
      return (.insert table cols rows, ts)
    else .error (stopAt ts)
  | [] => .error (stopAt [])

/-- The next statement of a batch and the tokens after it, skipping empty statements; none
at the end of the batch. A statement must end at a `;` or at the end. -/
def next : Nat → List Token → Except String (Option (Statement × List Token))
  | 0, _ => .ok none
  | _, [] => .ok none
  | fuel + 1, .symbol ";" :: rest => next fuel rest
  | _, ts => do
    let (s, ts) ← statement ts
    match ts with
    | [] => return some (s, [])
    | .symbol ";" :: rest => return some (s, rest)
    | _ => throw (stopAt ts)

end TrackerSync.Query

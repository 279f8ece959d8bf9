/-!
Decimal text of a double: the fewest significant digits that read back to the same double,
found by exact arithmetic on naturals over decimal grids from coarse to fine.
-/

namespace TrackerSync.Decimal

/-- A finite double split into sign, mantissa and binary exponent: `± mantissa · 2^exponent`. -/
structure Binary where
  negative : Bool
  mantissa : Nat
  exponent : Int
  /-- The gap to the next lower double is half the gap to the next higher one
  (the mantissa is a power of two and the double is not the least normal one). -/
  narrowBelow : Bool
  deriving Repr

/-- Reads the sign, mantissa and exponent off the bits of a finite double. -/
def Binary.ofBits (bits : UInt64) : Binary :=
  let b := bits.toNat
  let frac := b % Nat.pow 2 52
  let field : Nat := (b / Nat.pow 2 52) % 2048
  let negative := b / Nat.pow 2 63 == 1
  if field == 0 then ⟨negative, frac, -1074, false⟩
  else ⟨negative, frac + Nat.pow 2 52, Int.ofNat field - 1075, frac == 0 && field > 1⟩

/-- A nonnegative rational `num / den`, compared by cross multiplication. -/
structure Frac where
  num : Nat
  den : Nat

def Frac.ofScaled (x : Nat) (k : Int) : Frac :=
  if 0 ≤ k then ⟨x * Nat.pow 2 k.toNat, 1⟩ else ⟨x, Nat.pow 2 (-k).toNat⟩

def Frac.shiftDown (f : Frac) (s : Int) : Frac :=
  if 0 ≤ s then ⟨f.num, f.den * Nat.pow 10 s.toNat⟩ else ⟨f.num * Nat.pow 10 (-s).toNat, f.den⟩

/-- The least natural `d` with `d ≥ f` (or `d > f` when `strict`). -/
def Frac.ceilFrom (f : Frac) (strict : Bool) : Nat :=
  let q := f.num / f.den
  if f.num % f.den == 0 then (if strict then q + 1 else q) else q + 1

/-- The greatest natural `d` with `d ≤ f` (or `d < f` when `strict`); `none` if there is none. -/
def Frac.floorTo (f : Frac) (strict : Bool) : Option Nat :=
  let q := f.num / f.den
  if f.num % f.den == 0 && strict then (if q == 0 then none else some (q - 1)) else some q

/-- The point of `[lo, hi]` nearest to `v`; an exact tie between two points goes to the even one. -/
def nearestIn (lo hi : Nat) (v : Frac) : Nat :=
  let r := v.num / v.den
  if r + 1 ≤ lo then lo
  else if hi ≤ r then hi
  else
    let twice := 2 * (v.num - r * v.den)
    if twice < v.den then r
    else if twice > v.den then r + 1
    else if r % 2 == 0 then r else r + 1

/-- A grid exponent from which coarser grids hold no point of the interval of `b`:
`10^s` exceeds the double. The factor is rounded so as to overestimate. -/
def startGrid (b : Binary) : Int :=
  let x : Int := (Nat.log2 b.mantissa + 1 : Nat) + b.exponent
  if 0 ≤ x then (x * 30103 + 99999) / 100000 + 1 else (x * 30102) / 100000 + 1

/-- The shortest digits of a positive finite double as `(d, s)` with value `d · 10^s`,
trying grids `10^s` downwards from `s`, for at most `fuel` grids. -/
def searchGrid (b : Binary) (fuel : Nat) (s : Int) : Nat × Int :=
  let lowMul : Nat := if b.narrowBelow then 1 else 2
  let low := Frac.ofScaled (4 * b.mantissa - lowMul) (b.exponent - 2)
  let high := Frac.ofScaled (4 * b.mantissa + 2) (b.exponent - 2)
  let v := Frac.ofScaled b.mantissa b.exponent
  let strict := b.mantissa % 2 == 1
  match fuel with
  | 0 => (b.mantissa, 0)
  | fuel + 1 =>
    let lo := (low.shiftDown s).ceilFrom strict
    match (high.shiftDown s).floorTo strict with
    | some hi => if lo ≤ hi then (nearestIn lo hi (v.shiftDown s), s) else searchGrid b fuel (s - 1)
    | none => searchGrid b fuel (s - 1)

/-- The shortest digits `(d, s)` of a positive finite double, value `d · 10^s`. -/
def shortest (b : Binary) : Nat × Int :=
  searchGrid b 48 (startGrid b)

def zeros (n : Nat) : String := String.ofList (List.replicate n '0')

/-- Digits `ds` times `10^s` written out in full, with `.0` on an integer. -/
def positional (ds : String) (s : Int) : String :=
  let kk : Int := ds.length + s
  if 0 ≤ s then ds ++ zeros s.toNat ++ ".0"
  else if 0 < kk then
    String.ofList (ds.toList.take kk.toNat) ++ "." ++ String.ofList (ds.toList.drop kk.toNat)
  else "0." ++ zeros (-kk).toNat ++ ds

/-- Digits `ds` times `10^s` as one digit, a point and the rest (if any), `e`, and the exponent
with its sign. -/
def scientific (ds : String) (s : Int) : String :=
  let e : Int := ds.length + s - 1
  let rest := String.ofList (ds.toList.drop 1)
  let head := String.ofList (ds.toList.take 1)
  (if rest.isEmpty then head else head ++ "." ++ rest) ++ "e" ++ (if e < 0 then "-" else "+") ++
    toString e.natAbs

/-- The layout of JSON numbers: positional when the decimal point falls after at most 16 digits
and before at most four zeros, scientific otherwise. -/
def layout (ds : String) (s : Int) : String :=
  let kk : Int := ds.length + s
  if -5 < kk ∧ kk ≤ 16 then positional ds s else scientific ds s

/-- The text of a finite double (bits given) by a layout of its shortest digits, with its sign;
zero is `0.0`. -/
def textBy (lay : String → Int → String) (bits : UInt64) : String :=
  let b := Binary.ofBits bits
  let sign := if b.negative then "-" else ""
  if b.mantissa == 0 then sign ++ "0.0"
  else
    let (d, s) := shortest b
    sign ++ lay (toString d) s

def textOfBits (bits : UInt64) : String := textBy layout bits

/-- The text of a finite double (bits given) written out in full, as messages about values
show it. -/
def plainTextOfBits (bits : UInt64) : String := textBy positional bits

/-- The double nearest to a positive natural below `2^1024`, as bits (a tie goes to the even
mantissa). -/
def bitsOfNat (n : Nat) : UInt64 :=
  if n == 0 then 0
  else
    let len := Nat.log2 n + 1
    if len ≤ 53 then
      let m := n * Nat.pow 2 (53 - len)
      UInt64.ofNat (((len - 1 + 1023) * Nat.pow 2 52) + (m - Nat.pow 2 52))
    else
      let shift := len - 53
      let q := n / Nat.pow 2 shift
      let r := n % Nat.pow 2 shift
      let half := Nat.pow 2 (shift - 1)
      let q := if r > half || (r == half && q % 2 == 1) then q + 1 else q
      let (q, shift) := if q == Nat.pow 2 53 then (Nat.pow 2 52, shift + 1) else (q, shift)
      UInt64.ofNat (((shift + 52 + 1023) * Nat.pow 2 52) + (q - Nat.pow 2 52))

def pow10 (k : Nat) : Float := Float.ofBits (bitsOfNat (Nat.pow 10 k))

end TrackerSync.Decimal

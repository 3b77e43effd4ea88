/-
  Binary floating-point numbers of 64 bits, kept as exact fractions `mantissa · 2 ^ exponent`.

  Two operations: reading a decimal fraction, which rounds to the nearest number and a half to the
  even one, and the shortest decimal that reads back, which is what a reader is shown.
-/
import OrmLens.Number.Integer

namespace OrmLens.Number

/-- A magnitude: `mantissa · 2 ^ exponent`, or too large for any mantissa. -/
inductive Magnitude where
  | finite (mantissa : Nat) (exponent : Int)
  | infinite
deriving DecidableEq, Repr

/-- A signed binary number. -/
structure Binary64 where
  negative : Bool
  magnitude : Magnitude
deriving DecidableEq, Repr

/-- The least exponent of a mantissa. -/
def minExponent : Int := -1074

/-- The greatest exponent of a mantissa. -/
def maxExponent : Int := 971

/-- The least mantissa of full precision, `2 ^ 52`. -/
def leastNormal : Nat := 0x10000000000000

/-- `2 ^ n` for `n ≥ 0`, and 1 below. -/
def pow2 (n : Int) : Nat := Nat.pow 2 n.toNat

/-- `10 ^ n` for `n ≥ 0`, and 1 below. -/
def pow10 (n : Int) : Nat := Nat.pow 10 n.toNat

/-- The quotient rounded to the nearest integer, a half to the even one. -/
def roundQuotient (num den : Nat) : Nat :=
  let q := num / den
  let twice := 2 * (num % den)
  if twice > den || (twice == den && q % 2 == 1) then q + 1 else q

/-- The binary logarithm of `num / den`, rounded down. -/
def floorLog2 (num den : Nat) : Int :=
  let guess := (num.log2 : Int) - den.log2
  if num * pow2 (-guess) ≥ den * pow2 guess then guess else guess - 1

/-- The magnitude nearest to `num / den`. -/
def nearest (num den : Nat) : Magnitude :=
  if num = 0 then .finite 0 minExponent
  else
    let q := max minExponent (floorLog2 num den - 52)
    let m := roundQuotient (num * pow2 (-q)) (den * pow2 q)
    let (m, q) := if m = 2 * leastNormal then (leastNormal, q + 1) else (m, q)
    if q > maxExponent then .infinite else .finite m q

/-- Reads `-?digits.digits`, with at least one digit. -/
def Binary64.ofText? (t : Text) : Option Binary64 :=
  let (negative, body) := match t with
    | '-' :: rest => (true, rest)
    | _ => (false, t)
  let whole := body.takeWhile Char.isDigit
  match body.dropWhile Char.isDigit with
  | '.' :: fraction =>
    if !fraction.all Char.isDigit || (whole.isEmpty && fraction.isEmpty) then none
    else some ⟨negative, nearest (digitsValue 0 (whole ++ fraction)) (pow10 fraction.length)⟩
  | _ => none

/-! ## The shortest decimal -/

/-- A decimal `0.d₁d₂… · 10 ^ point`. -/
structure Decimal where
  digits : Text
  point : Int
deriving DecidableEq, Repr

/-- Four times the ends of the interval of fractions that round to `m · 2 ^ q`, and four times the
    number itself, over the denominator `2 ^ -q`. Below a power of two the spacing is half as
    wide. -/
def roundingInterval (m : Nat) (q : Int) : Nat × Nat × Nat :=
  let unit := pow2 q
  let below := if m = leastNormal && q > minExponent then 1 else 2
  ((4 * m - below) * unit, 4 * m * unit, (4 * m + 2) * unit)

/-- The decimal logarithm of `num / den`, rounded down and increased by one. -/
def decimalPoint (num den : Nat) : Int :=
  let guess := ((num.log2 : Int) - den.log2) * 30103 / 100000
  let fits (k : Int) : Bool := num * pow10 (-k) < den * pow10 k
  if fits (guess - 1) then guess - 1
  else if fits guess then guess
  else if fits (guess + 1) then guess + 1
  else guess + 2

/-- The nearest multiple of `10 ^ (point - count)` that still rounds to the number, if one does; of
    two equally near the greater. -/
def gridPoint? (m : Nat) (q : Int) (point : Int) (count : Nat) : Option Nat :=
  let (low, value, high) := roundingInterval m q
  let scale := point - count
  -- a grid point `g` stands for `g · 10 ^ scale`, compared over the common denominator
  let den := 4 * pow2 (-q) * pow10 scale
  let up := pow10 (-scale)
  let floor := value * up / den
  let holds (g : Nat) : Bool :=
    if m % 2 == 0 then low * up ≤ g * den && g * den ≤ high * up
    else low * up < g * den && g * den < high * up
  let distance (g : Nat) : Nat := (g * den - value * up) + (value * up - g * den)
  match holds floor, holds (floor + 1) with
  | true, true => if distance (floor + 1) ≤ distance floor then some (floor + 1) else some floor
  | true, false => some floor
  | false, true => some (floor + 1)
  | false, false => none

/-- The digits of a grid point, without the zeros at their end. -/
def gridDecimal (g : Nat) (point : Int) (count : Nat) : Decimal :=
  let digits := Nat.toDigits 10 g
  ⟨Text.dropEndWhile (· == '0') digits, point + (digits.length - count : Int)⟩

/-- Tries grids of growing precision. -/
def shortestFrom (m : Nat) (q : Int) (point : Int) : List Nat → Decimal
  | [] => ⟨['0'], 1⟩
  | count :: rest =>
    match gridPoint? m q point count with
    | some g => gridDecimal g point count
    | none => shortestFrom m q point rest

/-- The decimal with the fewest digits that reads back as `m · 2 ^ q`, for `m > 0`. -/
def shortest (m : Nat) (q : Int) : Decimal :=
  shortestFrom m q (decimalPoint (m * pow2 q) (pow2 (-q))) ((List.range 17).map (· + 1))

/-- A decimal written without exponent. -/
def Decimal.positional (d : Decimal) : Text :=
  if d.point ≤ 0 then ['0', '.'] ++ List.replicate (-d.point).toNat '0' ++ d.digits
  else
    let whole := d.point.toNat
    if d.digits.length ≤ whole then d.digits ++ List.replicate (whole - d.digits.length) '0'
    else d.digits.take whole ++ ['.'] ++ d.digits.drop whole

/-- The number as shown to a reader: shortest digits, never an exponent. -/
def Binary64.shown (x : Binary64) : Text :=
  let text : Text := match x.magnitude with
    | .infinite => "inf"
    | .finite 0 _ => "0"
    | .finite m q => (shortest m q).positional
  if x.negative then '-' :: text else text

/-- A decimal as written in data: positional near one, else with an exponent, and always marked as a
    fraction. -/
def Decimal.scientific (d : Decimal) : Text :=
  let count := d.digits.length
  if 0 < d.point && d.point ≤ 16 then
    if count ≤ d.point.toNat then d.positional ++ ['.', '0'] else d.positional
  else if -5 < d.point && d.point ≤ 0 then d.positional
  else
    let exponent := 'e' :: Text.ofInt (d.point - 1)
    match d.digits with
    | [] => ['0']
    | [c] => c :: exponent
    | c :: rest => c :: '.' :: rest ++ exponent

/-- The number as data, or nothing for an infinity. -/
def Binary64.literal? (x : Binary64) : Option Text :=
  let text : Option Text := match x.magnitude with
    | .infinite => none
    | .finite 0 _ => some "0.0"
    | .finite m q => some (shortest m q).scientific
  text.map fun t => if x.negative then '-' :: t else t

end OrmLens.Number

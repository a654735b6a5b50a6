import EndpointInference.Decimal.Reading

/-!
The shortest decimal that reads back as a given binary number, and the text of it. Of two decimals
of the same length the nearer one is taken, and the greater one if both are as near.
-/

namespace EndpointInference

/-- The positive number `mantissa` times two to the power of `exponent`. The number below it is as
far away as the one above, or half as far if the mantissa is the least one. -/
structure Binary where
  mantissa : Nat
  exponent : Int
  isLeast : Bool
deriving DecidableEq, Repr

namespace Binary

def ofBits (bits : UInt64) : Binary :=
  let fraction : Nat := bits.toNat % Nat.pow 2 52
  let exponent : Nat := bits.toNat / Nat.pow 2 52 % Nat.pow 2 11
  if exponent == 0 then ⟨fraction, -1074, false⟩
  else ⟨fraction + Nat.pow 2 52, (exponent : Int) - 1075, fraction == 0 && exponent > 1⟩

/-- The numbers that read back as this one, in quarters of its last place: the least and the
greatest, and whether these two do too. -/
def lower (x : Binary) : Nat :=
  4 * x.mantissa - if x.isLeast then 1 else 2

def upper (x : Binary) : Nat :=
  4 * x.mantissa + 2

def isClosed (x : Binary) : Bool :=
  x.mantissa % 2 == 0

/-- Factors by which a multiple of ten to the power of `k` and a number of quarters are comparable:
`c` times the first with `n` times the second. -/
def factors (x : Binary) (k : Int) : Nat × Nat :=
  let p := x.exponent - 2
  (Nat.pow 10 k.toNat * Nat.pow 2 (-p).toNat, Nat.pow 10 (-k).toNat * Nat.pow 2 p.toNat)

def readsBack (x : Binary) (k : Int) (c : Nat) : Bool :=
  let (a, b) := x.factors k
  if x.isClosed then x.lower * b ≤ c * a && c * a ≤ x.upper * b
  else x.lower * b < c * a && c * a < x.upper * b

/-- The power of ten that is not above the number, ten times which is. -/
def magnitude (x : Binary) : Int :=
  let (a, b) := x.factors 0
  let guess : Int := (Decimal.width (4 * x.mantissa * b) : Int) - Decimal.width a
  let (a, b) := x.factors guess
  if a ≤ 4 * x.mantissa * b then guess else guess - 1

/-- The nearer of the number's neighbours among the multiples of ten to the power of `k`, if it
reads back. -/
def nearest? (x : Binary) (k : Int) : Option Nat :=
  let (a, b) := x.factors k
  let value := 4 * x.mantissa * b
  let below := value / a
  let choices :=
    if value - below * a < (below + 1) * a - value then [below, below + 1] else [below + 1, below]
  choices.find? (x.readsBack k)

def shortest (x : Binary) : Decimal :=
  let top := x.magnitude
  let found := (List.range 17).findSome? fun (n : Nat) =>
    (x.nearest? (top - n)).map fun c => Decimal.mk c (top - n)
  found.getD ⟨0, 0⟩

end Binary

namespace Decimal

/-- Zeros at the end of the digits, left out. -/
def significant (decimal : Decimal) : List Char :=
  ((Nat.toDigits 10 decimal.digits).reverse.dropWhile (· == '0')).reverse

/-- The power of ten of the first digit. -/
def leading (decimal : Decimal) : Int :=
  decimal.exponent + width decimal.digits - 1

def scientific (digits : List Char) (power : Int) : List Char :=
  let mantissa :=
    match digits with
    | [] => ['0']
    | [first] => [first]
    | first :: rest => first :: '.' :: rest
  mantissa ++ 'e' :: (toString power).toList

def positional (digits : List Char) (power : Int) : List Char :=
  if power < 0 then
    '0' :: '.' :: (List.replicate ((-power).toNat - 1) '0' ++ digits)
  else
    let whole := power.toNat + 1
    let fraction := digits.drop whole
    digits.take whole ++ List.replicate (whole - digits.length) '0' ++
      '.' :: if fraction.isEmpty then ['0'] else fraction

/-- The text of a positive number: with an exponent from 1e16 on and below 1e-4. -/
def chars (decimal : Decimal) : List Char :=
  let digits := decimal.significant
  let power := decimal.leading
  if power ≥ 16 || power < -4 then scientific digits power else positional digits power

def floatText (x : Float) : String :=
  let sign := if x.toBits ≥ 0x8000000000000000 then "-" else ""
  if x.isNaN then "NaN"
  else if x.isInf then sign ++ "inf"
  else if x == 0.0 then sign ++ "0.0"
  else sign ++ String.ofList (Binary.ofBits x.toBits).shortest.chars

end Decimal

end EndpointInference

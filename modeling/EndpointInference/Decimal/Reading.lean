/-!
Decimal numbers and the binary numbers nearest to them.
-/

namespace EndpointInference

/-- The number `digits` times ten to the power of `exponent`. -/
structure Decimal where
  digits : Nat
  exponent : Int
deriving DecidableEq, Repr

namespace Decimal

def infinity : Float := Float.ofBits 0x7FF0000000000000

def notANumber : Float := Float.ofBits 0x7FF8000000000000

def width (n : Nat) : Nat :=
  (Nat.toDigits 10 n).length

/-- The nearest binary number. No such number but zero is below ten to the power of -400, none but
infinity above ten to the power of 400. -/
def toFloat (decimal : Decimal) : Float :=
  let size := decimal.exponent + width decimal.digits
  if decimal.digits == 0 || size < -400 then 0.0
  else if size > 400 then infinity
  else Float.ofScientific decimal.digits (decimal.exponent < 0) decimal.exponent.natAbs

/-- The value of decimal digits, behind those already read. -/
def digitsValue (value : Nat) (digits : List Char) : Nat :=
  digits.foldl (fun value c => value * 10 + (c.toNat - '0'.toNat)) value

def ofParts (whole fraction : List Char) (exponent : Int) : Decimal where
  digits := digitsValue (digitsValue 0 whole) fraction
  exponent := exponent - fraction.length

def sign : List Char → Bool × List Char
  | '-' :: rest => (true, rest)
  | '+' :: rest => (false, rest)
  | cs => (false, cs)

def int? (cs : List Char) : Option Int :=
  let (isNegative, digits) := sign cs
  if !digits.isEmpty && digits.all Char.isDigit then
    let value := digitsValue 0 digits
    some (if isNegative then -value else value)
  else none

def int64? (value : Int) : Option Int64 :=
  if Int64.minValue.toInt ≤ value && value ≤ Int64.maxValue.toInt then some (Int64.ofInt value)
  else none

/-- The exponent behind a number: nothing, or a mark and a whole number. -/
def exponent? : List Char → Option Int
  | [] => some 0
  | c :: rest => if c == 'e' || c == 'E' then int? rest else none

/-- A number without a sign: digits, perhaps a point and digits, perhaps an exponent. -/
def ofChars? (cs : List Char) : Option Decimal :=
  let whole := cs.takeWhile Char.isDigit
  if whole.isEmpty then none
  else
    match cs.dropWhile Char.isDigit with
    | '.' :: rest =>
      let fraction := rest.takeWhile Char.isDigit
      if fraction.isEmpty then none
      else (exponent? (rest.dropWhile Char.isDigit)).map (ofParts whole fraction)
    | rest => (exponent? rest).map (ofParts whole [])

def float? (cs : List Char) : Option Float :=
  let (isNegative, magnitude) := sign cs
  let signed (value : Float) : Float := if isNegative then -value else value
  if magnitude == ['i', 'n', 'f'] then some (signed infinity)
  else if magnitude == ['N', 'a', 'N'] then some notANumber
  else (ofChars? magnitude).map fun decimal => signed decimal.toFloat

end Decimal

end EndpointInference

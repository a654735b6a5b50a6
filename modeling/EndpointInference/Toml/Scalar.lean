import EndpointInference.Decimal.Reading
import EndpointInference.Toml.Moment

/-!
The values of a configuration file, and how texts and numbers are written in it.
-/

namespace EndpointInference.Toml

inductive Value
  | text (value : String)
  | int (value : Int64)
  | float (value : Float)
  | bool (value : Bool)
  | moment (value : Moment)
  | array (items : List Value)
  /-- Entries in the order in which they are written, or of their keys once the table is settled. -/
  | table (entries : List (String × Value))
deriving Inhabited

/-! ### Characters -/

def isSpace (c : Char) : Bool :=
  c == ' ' || c == '\t'

def isLineChar (c : Char) : Bool :=
  c == '\t' || (' ' ≤ c && c ≤ '~') || c.toNat ≥ 0x80

def newline? : List Char → Option (List Char)
  | '\n' :: rest => some rest
  | '\r' :: '\n' :: rest => some rest
  | _ => none

def skipSpaces : List Char → List Char :=
  List.dropWhile isSpace

/-! ### Texts -/

def hexDigit? (c : Char) : Option Nat :=
  if c.isDigit then some (c.toNat - '0'.toNat)
  else if 'a' ≤ c && c ≤ 'f' then some (c.toNat - 'a'.toNat + 10)
  else if 'A' ≤ c && c ≤ 'F' then some (c.toNat - 'A'.toNat + 10)
  else none

def charOfHex? (digits : List Char) : Option Char := do
  let value ← digits.foldlM (fun value c => (hexDigit? c).map (value * 16 + ·)) 0
  if value.isValidChar then some (Char.ofNat value) else none

def hexEscape (count : Nat) : Reader Char := fun cs => do
  let digits := cs.take count
  if digits.length == count then (charOfHex? digits).map fun c => (c, cs.drop count) else none

def escape : Reader Char
  | 'b' :: rest => some ('\x08', rest)
  | 't' :: rest => some ('\t', rest)
  | 'n' :: rest => some ('\n', rest)
  | 'f' :: rest => some ('\x0c', rest)
  | 'r' :: rest => some ('\r', rest)
  | '"' :: rest => some ('"', rest)
  | '\\' :: rest => some ('\\', rest)
  | 'u' :: rest => hexEscape 4 rest
  | 'U' :: rest => hexEscape 8 rest
  | _ => none

def behind (c : Char) (result : Option (List Char × List Char)) :
    Option (List Char × List Char) :=
  result.map fun (text, rest) => (c :: text, rest)

def basicChars : Nat → Reader (List Char)
  | 0, _ | _, [] => none
  | budget + 1, c :: rest =>
    if c == '"' then some ([], rest)
    else if c == '\\' then
      match escape rest with
      | some (value, rest) => behind value (basicChars budget rest)
      | none => none
    else if isLineChar c then behind c (basicChars budget rest)
    else none

def literalChars : Reader (List Char)
  | [] => none
  | c :: rest =>
    if c == '\'' then some ([], rest)
    else if isLineChar c then behind c (literalChars rest)
    else none

/-- The end of a text on several lines: three quotes, with up to two more of the text before
them. -/
def closing (quote : Char) : Reader (List Char)
  | a :: b :: c :: rest =>
    if a == quote && b == quote && c == quote then
      match rest with
      | d :: e :: rest' =>
        if d == quote then
          if e == quote then some ([quote, quote], rest') else some ([quote], e :: rest')
        else some ([], rest)
      | [d] => if d == quote then some ([quote], []) else some ([], [d])
      | [] => some ([], [])
    else none
  | _ => none

def skipLineBreaks : List Char → List Char
  | ' ' :: rest => skipLineBreaks rest
  | '\t' :: rest => skipLineBreaks rest
  | '\n' :: rest => skipLineBreaks rest
  | '\r' :: '\n' :: rest => skipLineBreaks rest
  | cs => cs

/-- A text on several lines, with escapes; a backslash at the end of a line leaves out all blanks
up to the next character. -/
def basicLines : Nat → Reader (List Char)
  | 0, _ | _, [] => none
  | budget + 1, c :: rest =>
    match closing '"' (c :: rest) with
    | some result => some result
    | none =>
      if c == '\\' then
        match newline? (skipSpaces rest) with
        | some rest => basicLines budget (skipLineBreaks rest)
        | none =>
          match escape rest with
          | some (value, rest) => behind value (basicLines budget rest)
          | none => none
      else
        match newline? (c :: rest) with
        | some rest => behind '\n' (basicLines budget rest)
        | none => if isLineChar c then behind c (basicLines budget rest) else none

def literalLines : Nat → Reader (List Char)
  | 0, _ | _, [] => none
  | budget + 1, c :: rest =>
    match closing '\'' (c :: rest) with
    | some result => some result
    | none =>
      match newline? (c :: rest) with
      | some rest => behind '\n' (literalLines budget rest)
      | none => if isLineChar c then behind c (literalLines budget rest) else none

def withoutFirstBreak (cs : List Char) : List Char :=
  (newline? cs).getD cs

def readText (cs : List Char) : Option (List Char × List Char) :=
  match cs with
  | '"' :: '"' :: '"' :: rest => basicLines (rest.length + 1) (withoutFirstBreak rest)
  | '"' :: rest => basicChars (rest.length + 1) rest
  | '\'' :: '\'' :: '\'' :: rest => literalLines (rest.length + 1) (withoutFirstBreak rest)
  | '\'' :: rest => literalChars rest
  | _ => none

/-! ### Numbers -/

def moreDigits (isDigit : Char → Bool) : Reader (List Char)
  | '_' :: c :: rest => if isDigit c then behind c (moreDigits isDigit rest) else none
  | '_' :: [] => none
  | c :: rest => if isDigit c then behind c (moreDigits isDigit rest) else some ([], c :: rest)
  | [] => some ([], [])

def someDigits (isDigit : Char → Bool) : Reader (List Char)
  | c :: rest => if isDigit c then behind c (moreDigits isDigit rest) else none
  | [] => none

def wholeDigits : Reader (List Char)
  | '0' :: rest => some (['0'], rest)
  | cs => someDigits Char.isDigit cs

def basedNumber (base : Nat) : Reader Value := fun cs => do
  let isDigit (c : Char) : Bool := (hexDigit? c).any (· < base)
  let (digits, rest) ← someDigits isDigit cs
  let value := digits.foldl (fun value c => value * base + (hexDigit? c).getD 0) 0
  let value ← Decimal.int64? value
  some (.int value, rest)

def exponent : Reader Int := fun cs => do
  let (isNegative, cs) := Decimal.sign cs
  let (digits, rest) ← someDigits Char.isDigit cs
  let value := Decimal.digitsValue 0 digits
  some (if isNegative then -value else value, rest)

def optionalExponent : Reader Int
  | [] => some (0, [])
  | c :: rest => if c == 'e' || c == 'E' then exponent rest else some (0, c :: rest)

/-- A binary number from its parts; one that is too great is refused. -/
def float? (isNegative : Bool) (decimal : Decimal) : Option Value :=
  let value := decimal.toFloat
  if isNegative then some (.float (-value))
  else if value.isInf then none
  else some (.float value)

def decimalNumber (isNegative : Bool) : Reader Value := fun cs => do
  let (whole, rest) ← wholeDigits cs
  match rest with
  | '.' :: rest => do
    let (fraction, rest) ← someDigits Char.isDigit rest
    let (power, rest) ← optionalExponent rest
    let value ← float? isNegative (.ofParts whole fraction power)
    some (value, rest)
  | c :: rest =>
    if c == 'e' || c == 'E' then do
      let (power, rest) ← exponent rest
      let value ← float? isNegative (.ofParts whole [] power)
      some (value, rest)
    else wholeNumber whole (c :: rest)
  | [] => wholeNumber whole []
where
  wholeNumber (digits rest : List Char) : Option (Value × List Char) := do
    let magnitude : Int := Decimal.digitsValue 0 digits
    let value ← Decimal.int64? (if isNegative then -magnitude else magnitude)
    some (.int value, rest)

def readNumber (cs : List Char) : Option (Value × List Char) :=
  match cs with
  | '0' :: 'x' :: rest => basedNumber 16 rest
  | '0' :: 'o' :: rest => basedNumber 8 rest
  | '0' :: 'b' :: rest => basedNumber 2 rest
  | cs =>
    let (isNegative, magnitude) := Decimal.sign cs
    match magnitude with
    | 'i' :: 'n' :: 'f' :: rest =>
      some (.float (if isNegative then -Decimal.infinity else Decimal.infinity), rest)
    | 'n' :: 'a' :: 'n' :: rest => some (.float Decimal.notANumber, rest)
    | magnitude => decimalNumber isNegative magnitude

def readMomentOrNumber (cs : List Char) : Option (Value × List Char) :=
  match Moment.read cs with
  | some (moment, rest) => some (.moment moment, rest)
  | none => readNumber cs

def readBool (cs : List Char) : Option (Value × List Char) :=
  match cs with
  | 't' :: 'r' :: 'u' :: 'e' :: rest => some (.bool true, rest)
  | 'f' :: 'a' :: 'l' :: 's' :: 'e' :: rest => some (.bool false, rest)
  | _ => none

end EndpointInference.Toml

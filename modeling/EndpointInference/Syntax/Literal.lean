import EndpointInference.Syntax.Token.Lexeme

/-!
Values of literals. Texts are read with their escapes resolved, whole numbers in any base with
underscores and suffix dropped. Other literals (bytes, characters, numbers with a point) have no
value here.
-/

namespace EndpointInference.Syntax

inductive Literal
  | text (value : String)
  | int (value : Nat)
  | bool (value : Bool)
  | other
deriving DecidableEq, Repr

namespace Literal

def byteValue : List Char → Option (Nat × List Char)
  | a :: b :: rest => do
    let high ← Lexeme.hexValue a
    let low ← Lexeme.hexValue b
    some (high * 16 + low, rest)
  | _ => none

def simpleEscape (c : Char) : Char :=
  if c == 'n' then '\n'
  else if c == 'r' then '\r'
  else if c == 't' then '\t'
  else if c == '0' then '\x00'
  else c

def skipBlank : List Char → List Char :=
  List.dropWhile fun c => c == ' ' || c == '\t' || c == '\n' || c == '\r'

/-- The text up to the closing quote, escapes resolved; a line break counts as a line feed. -/
def cookedValue : Nat → List Char → List Char
  | 0, _ => []
  | _ + 1, [] => []
  | budget + 1, c :: rest =>
    if c == '"' then []
    else if c == '\r' then '\n' :: cookedValue budget (rest.drop 1)
    else if c == '\\' then
      match rest with
      | [] => []
      | e :: rest =>
        if e == 'x' then
          match byteValue rest with
          | some (value, rest) => Char.ofNat value :: cookedValue budget rest
          | none => []
        else if e == 'u' then
          match Lexeme.bracedEscape rest with
          | some (value, rest) => Char.ofNat value :: cookedValue budget rest
          | none => []
        else if e == '\n' || e == '\r' then cookedValue budget (skipBlank rest)
        else simpleEscape e :: cookedValue budget rest
    else c :: cookedValue budget rest

def rawValue (fence : List Char) : List Char → List Char
  | [] => []
  | c :: rest => if c == '"' && Lexeme.startsWith fence rest then [] else c :: rawValue fence rest

/-- The digits of a whole number in `base` and what follows them; underscores are passed over. -/
def digitsValue (base value : Nat) : List Char → Nat × List Char
  | [] => (value, [])
  | c :: rest =>
    if c == '_' then digitsValue base value rest
    else
      match Lexeme.hexValue c with
      | some digit =>
        if digit < base then digitsValue base (value * base + digit) rest else (value, c :: rest)
      | none => (value, c :: rest)

/-- Whether the rest of a decimal number shows that it is not whole: a point, or an exponent with
digits. -/
def isFraction (rest : List Char) : Bool :=
  match rest with
  | c :: rest =>
    c == '.' || ((c == 'e' || c == 'E') && (Lexeme.exponent false false rest).isSome)
  | [] => false

def number (cs : List Char) : Literal :=
  match cs with
  | '0' :: 'x' :: rest => .int (digitsValue 16 0 rest).1
  | '0' :: 'o' :: rest => .int (digitsValue 8 0 rest).1
  | '0' :: 'b' :: rest => .int (digitsValue 2 0 rest).1
  | _ =>
    let (value, rest) := digitsValue 10 0 cs
    if isFraction rest then .other else .int value

def ofLexeme (lexeme : String) : Literal :=
  match lexeme.toList with
  | '"' :: rest => .text (String.ofList (cookedValue (rest.length + 1) rest))
  | 'r' :: rest =>
    let fence := rest.takeWhile (· == '#')
    .text (String.ofList (rawValue fence (rest.drop (fence.length + 1))))
  | c :: rest => if c.isDigit then number (c :: rest) else .other
  | [] => .other

/-- A decimal number without a suffix, as it names a member of a tuple. -/
def index? (lexeme : List Char) : Option Nat :=
  match number lexeme with
  | .int value =>
    let digits :=
      match lexeme with
      | '0' :: 'x' :: rest => digitsValue 16 0 rest
      | '0' :: 'o' :: rest => digitsValue 8 0 rest
      | '0' :: 'b' :: rest => digitsValue 2 0 rest
      | _ => digitsValue 10 0 lexeme
    if digits.2.isEmpty && value < 4294967296 then some value else none
  | _ => none

def isFloat (lexeme : String) : Bool :=
  match lexeme.toList with
  | c :: rest => c.isDigit && number (c :: rest) == .other
  | [] => false

end Literal

end EndpointInference.Syntax

import EndpointInference.Text.Blank
import EndpointInference.Text.Identifier

/-!
Recognisers of single lexemes. Each takes the characters that are left and gives those behind the
lexeme, or nothing if none starts here.
-/

namespace EndpointInference.Syntax.Lexeme

open EndpointInference.Text

def behind (start : List Char) (cs : List Char) : Option (List Char) :=
  match start, cs with
  | [], cs => some cs
  | a :: start, c :: cs => if a == c then behind start cs else none
  | _ :: _, [] => none

def startsWith (start cs : List Char) : Bool :=
  (behind start cs).isSome

def isDigit (c : Char) : Bool :=
  c.isDigit

def hexValue (c : Char) : Option Nat :=
  if c.isDigit then some (c.toNat - '0'.toNat)
  else if 'a' ≤ c && c ≤ 'f' then some (c.toNat - 'a'.toNat + 10)
  else if 'A' ≤ c && c ≤ 'F' then some (c.toNat - 'A'.toNat + 10)
  else none

def name (cs : List Char) : Option (List Char) :=
  match cs with
  | c :: rest => if isNameStart c then some (rest.dropWhile isNameContinue) else none
  | [] => none

/-- What is written right behind a literal belongs to it, if it is a name. -/
def suffixed (cs : List Char) : List Char :=
  (name cs).getD cs

/-! ### Escapes -/

/-- Which escapes and characters the inside of a quoted literal may have. -/
structure QuotedForm where
  plain : Char → Bool
  escapes : List Char
  byteEscape : Nat → Nat → Bool
  /-- The number of a braced escape; none are allowed where this is absent. -/
  braced : Option (Nat → Bool)

def QuotedForm.text : QuotedForm where
  plain _ := true
  escapes := ['n', 'r', 't', '\\', '\'', '"', '0']
  byteEscape high _ := high < 8
  braced := some fun _ => true

def QuotedForm.bytes : QuotedForm where
  plain c := c.toNat < 0x80
  escapes := ['n', 'r', 't', '\\', '\'', '"', '0']
  byteEscape _ _ := true
  braced := none

/-- Text that ends at its first zero, so none may stand in it. -/
def QuotedForm.zeroFree : QuotedForm where
  plain c := c.toNat != 0
  escapes := ['n', 'r', 't', '\\', '\'', '"']
  byteEscape high low := high != 0 || low != 0
  braced := some fun value => value != 0

def isScalarValue (value : Nat) : Bool :=
  value < 0xd800 || (0xdfff < value && value < 0x110000)

/-- The digits of a braced escape, up to six, with underscores between them; gives their number
and what follows the closing brace. -/
def bracedDigits (value count : Nat) : List Char → Option (Nat × List Char)
  | [] => none
  | c :: rest =>
    if c == '_' then if count == 0 then none else bracedDigits value count rest
    else if c == '\x7d' then
      if count == 0 || !isScalarValue value then none else some (value, rest)
    else
      match hexValue c with
      | some digit => if count == 6 then none else bracedDigits (value * 16 + digit) (count + 1) rest
      | none => none

def bracedEscape : List Char → Option (Nat × List Char)
  | '\x7b' :: rest => bracedDigits 0 0 rest
  | _ => none

def byteEscape (allowed : Nat → Nat → Bool) : List Char → Option (List Char)
  | a :: b :: rest => do
    let high ← hexValue a
    let low ← hexValue b
    if allowed high low then some rest else none
  | _ => none

def escape (form : QuotedForm) : List Char → Option (List Char)
  | [] => none
  | c :: rest =>
    if c == 'x' then byteEscape form.byteEscape rest
    else if c == 'u' then
      match form.braced with
      | some allowed => do
        let (value, rest) ← bracedEscape rest
        if allowed value then some rest else none
      | none => none
    else if form.escapes.contains c then some rest
    else none

/-- The white space that a backslash at the end of a line skips; a carriage return counts only
with the line feed after it. -/
def lineSkip : List Char → Option (List Char)
  | [] => none
  | '\r' :: '\n' :: rest => lineSkip rest
  | c :: rest =>
    if c == '\r' then none
    else if c == ' ' || c == '\t' || c == '\n' then lineSkip rest
    else some (c :: rest)

/-! ### Quoted literals -/

def cooked (form : QuotedForm) : Nat → List Char → Option (List Char)
  | 0, _ => none
  | _ + 1, [] => none
  | budget + 1, c :: rest =>
    if c == '"' then some (suffixed rest)
    else if c == '\r' then
      match rest with
      | '\n' :: rest => cooked form budget rest
      | _ => none
    else if c == '\\' then
      match rest with
      | '\n' :: rest => (lineSkip rest).bind (cooked form budget)
      | '\r' :: '\n' :: rest => (lineSkip rest).bind (cooked form budget)
      | rest => (escape form rest).bind (cooked form budget)
    else if form.plain c then cooked form budget rest
    else none

def cookedText (form : QuotedForm) (cs : List Char) : Option (List Char) :=
  cooked form (cs.length + 1) cs

def rawBody (plain : Char → Bool) (fence : List Char) : List Char → Option (List Char)
  | [] => none
  | '\r' :: '\n' :: rest => rawBody plain fence rest
  | c :: rest =>
    if c == '"' && startsWith fence rest then some (suffixed (rest.drop fence.length))
    else if c == '\r' || !plain c then none
    else rawBody plain fence rest

/-- A raw literal behind its letters: a fence of at most 255 number signs, then the quoted text. -/
def raw (plain : Char → Bool) (cs : List Char) : Option (List Char) :=
  let fence := cs.takeWhile (· == '#')
  match cs.drop fence.length with
  | '"' :: rest => if fence.length > 255 then none else rawBody plain fence rest
  | _ => none

def string (cs : List Char) : Option (List Char) :=
  match cs with
  | '"' :: rest => cookedText .text rest
  | 'r' :: rest => raw QuotedForm.text.plain rest
  | _ => none

def byteString (cs : List Char) : Option (List Char) :=
  match cs with
  | 'b' :: '"' :: rest => cookedText .bytes rest
  | 'b' :: 'r' :: rest => raw QuotedForm.bytes.plain rest
  | _ => none

def zeroFreeString (cs : List Char) : Option (List Char) :=
  match cs with
  | 'c' :: '"' :: rest => cookedText .zeroFree rest
  | 'c' :: 'r' :: rest => raw QuotedForm.zeroFree.plain rest
  | _ => none

def singleQuoted (form : QuotedForm) (cs : List Char) : Option (List Char) := do
  let rest ←
    match cs with
    | [] => none
    | '\\' :: rest => escape form rest
    | _ :: rest => some rest
  match rest with
  | '\'' :: rest => some (suffixed rest)
  | _ => none

def byte (cs : List Char) : Option (List Char) :=
  match cs with
  | 'b' :: '\'' :: rest =>
    match rest with
    | c :: _ => if c.toNat < 0x80 then singleQuoted .bytes rest else none
    | [] => none
  | _ => none

def character (cs : List Char) : Option (List Char) :=
  match cs with
  | '\'' :: rest => singleQuoted .text rest
  | _ => none

/-! ### Numbers -/

/-- A number's suffix. A character that only goes on a name may not follow a number. -/
def numberEnd (cs : List Char) : Option (List Char) :=
  match cs with
  | c :: _ => if isNameStart c then name cs else if isNameContinue c then none else some cs
  | [] => some []

/-- What is behind the letter of an exponent: a sign, digits and underscores. `seen` says that a
digit was read. -/
def exponent (signed seen : Bool) : List Char → Option (List Char)
  | [] => if seen then some [] else none
  | c :: rest =>
    if c == '+' || c == '-' then
      if seen then some (c :: rest) else if signed then none else exponent true seen rest
    else if isDigit c then exponent signed true rest
    else if c == '_' then exponent signed seen rest
    else if seen then some (c :: rest)
    else none

/-- The digits of a number with a point or an exponent, behind its first digit. `dotted` says that
the point was read. An exponent without digits is left out if there is a point before it. -/
def floatDigits (dotted : Bool) : List Char → Option (List Char)
  | [] => if dotted then some [] else none
  | c :: rest =>
    if isDigit c || c == '_' then floatDigits dotted rest
    else if c == '.' then
      if dotted then some (c :: rest)
      else
        match rest with
        | d :: _ => if d == '.' || isNameStart d then none else floatDigits true rest
        | [] => some []
    else if c == 'e' || c == 'E' then
      match exponent false false rest with
      | some rest => some rest
      | none => if dotted then some (c :: rest) else none
    else if dotted then some (c :: rest)
    else none

def float (cs : List Char) : Option (List Char) :=
  match cs with
  | c :: rest => if isDigit c then (floatDigits false rest).bind numberEnd else none
  | [] => none

/-- The digits of a whole number in `base`; a decimal digit beyond the base is an error, a letter
beyond it ends the number. -/
def intDigits (base : Nat) (empty : Bool) : List Char → Option (List Char)
  | [] => if empty then none else some []
  | c :: rest =>
    if c == '_' then if empty && base == 10 then none else intDigits base empty rest
    else
      match hexValue c with
      | some digit =>
        if digit < base then intDigits base false rest
        else if isDigit c then none
        else if empty then none
        else some (c :: rest)
      | none => if empty then none else some (c :: rest)

def int (cs : List Char) : Option (List Char) :=
  let digits :=
    match cs with
    | '0' :: 'x' :: rest => intDigits 16 true rest
    | '0' :: 'o' :: rest => intDigits 8 true rest
    | '0' :: 'b' :: rest => intDigits 2 true rest
    | _ => intDigits 10 true cs
  digits.bind numberEnd

/-- A comment in parentheses that stands for an expression that could not be written; it is a
literal without a value. -/
def errorMark : List Char :=
  "(/*ERROR*/)".toList

def literal (cs : List Char) : Option (List Char) :=
  string cs <|> byteString cs <|> zeroFreeString cs <|> byte cs <|> character cs <|> float cs
    <|> int cs

/-! ### Marks and names -/

def marks : List Char :=
  "~!@#$%^&*-=+|;:,<.>/?'".toList

/-- Whether a punctuation mark stands here; the slash of a comment is none. -/
def isMarkHere (cs : List Char) : Bool :=
  match cs with
  | '/' :: '/' :: _ => false
  | '/' :: '*' :: _ => false
  | c :: _ => marks.contains c
  | [] => false

def anyName (cs : List Char) : Option (List Char) :=
  match cs with
  | 'r' :: '#' :: rest => do
    let behindName ← name rest
    let text := rest.take (rest.length - behindName.length)
    if ["_", "super", "self", "Self", "crate"].contains (String.ofList text) then none
    else some behindName
  | _ => name cs

/-- Beginnings of quoted literals, which are no names where the literal is malformed. -/
def literalStarts : List (List Char) :=
  ["r\"", "r#\"", "r##", "b\"", "b'", "br\"", "br#", "c\"", "cr\"", "cr#"].map String.toList

def ident (cs : List Char) : Option (List Char) :=
  if literalStarts.any (startsWith · cs) then none else anyName cs

/-! ### Comments -/

def blockComment (depth : Nat) : List Char → Option (List Char)
  | '/' :: '*' :: rest => blockComment (depth + 1) rest
  | '*' :: '/' :: rest => if depth ≤ 1 then some rest else blockComment (depth - 1) rest
  | _ :: rest => blockComment depth rest
  | [] => none

def lineEnd : List Char → List Char
  | [] => []
  | '\r' :: '\n' :: rest => '\r' :: '\n' :: rest
  | c :: rest => if c == '\n' then c :: rest else lineEnd rest

def isTokenBlank (c : Char) : Bool :=
  isBlank c || c == '\u200e' || c == '\u200f'

def gap : Nat → List Char → List Char
  | 0, cs => cs
  | budget + 1, cs =>
    let line := startsWith ['/', '/'] cs && !startsWith ['/', '/', '!'] cs &&
      (!startsWith ['/', '/', '/'] cs || startsWith ['/', '/', '/', '/'] cs)
    let block := startsWith ['/', '*'] cs && !startsWith ['/', '*', '!'] cs &&
      (!startsWith ['/', '*', '*'] cs || startsWith ['/', '*', '*', '*'] cs)
    if line then gap budget (lineEnd cs)
    else if startsWith ['/', '*', '*', '/'] cs then gap budget (cs.drop 4)
    else if block then
      match blockComment 0 cs with
      | some rest => gap budget rest
      | none => cs
    else
      match cs with
      | c :: rest => if isTokenBlank c then gap budget rest else cs
      | [] => []

def skipGap (cs : List Char) : List Char :=
  gap (cs.length + 1) cs

/-- A carriage return without a line feed, which documentation may not hold. -/
def hasBareReturn : List Char → Bool
  | [] => false
  | '\r' :: '\n' :: rest => hasBareReturn rest
  | c :: rest => c == '\r' || hasBareReturn rest

/-- A documentation comment: whether it documents what it stands in, its text, and the rest. -/
def documentation (cs : List Char) : Option (Bool × List Char × List Char) := do
  let lineText (inner : Bool) (body : List Char) : Bool × List Char × List Char :=
    let rest := lineEnd body
    (inner, body.take (body.length - rest.length), rest)
  let blockText (inner : Bool) : Option (Bool × List Char × List Char) := do
    let rest ← blockComment 0 cs
    let text := (cs.take (cs.length - rest.length - 2)).drop 3
    some (inner, text, rest)
  let found ←
    match cs with
    | '/' :: '/' :: '!' :: body => some (lineText true body)
    | '/' :: '*' :: '!' :: _ => blockText true
    | '/' :: '/' :: '/' :: body =>
      if startsWith ['/'] body then none else some (lineText false body)
    | '/' :: '*' :: '*' :: body => if startsWith ['*'] body then none else blockText false
    | _ => none
  if hasBareReturn found.2.1 then none else some found

end EndpointInference.Syntax.Lexeme

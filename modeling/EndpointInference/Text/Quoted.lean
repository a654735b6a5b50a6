import EndpointInference.Text.Printable

/-!
Text in quotes, with escapes for what cannot stand in a line of output as it is.
-/

namespace EndpointInference.Text

def numberEscape (c : Char) : List Char :=
  ['\\', 'u', '\x7b'] ++ Nat.toDigits 16 c.toNat ++ ['\x7d']

def quotedChar (c : Char) : List Char :=
  if c == '"' then ['\\', '"']
  else if c == '\\' then ['\\', '\\']
  else if c == '\n' then ['\\', 'n']
  else if c == '\r' then ['\\', 'r']
  else if c == '\t' then ['\\', 't']
  else if c == '\x00' then ['\\', '0']
  else if isExtending c || !isPrintable c then numberEscape c
  else [c]

def quoted (text : String) : String :=
  String.ofList ('"' :: (text.toList.flatMap quotedChar ++ ['"']))

/-- The inside of a text literal. A zero before an octal digit is written with two digits, as it
would read as part of one number with it otherwise. -/
def literalChars : List Char → List Char
  | [] => []
  | c :: rest =>
    let atOctal := match rest with
      | next :: _ => '0' ≤ next && next ≤ '7'
      | [] => false
    (if c == '\x00' && atOctal then ['\\', 'x', '0', '0'] else quotedChar c) ++ literalChars rest

def literalText (cs : List Char) : String :=
  String.ofList ('"' :: (literalChars cs ++ ['"']))

def quotedList (texts : List String) : String :=
  "[" ++ ", ".intercalate (texts.map quoted) ++ "]"

end EndpointInference.Text

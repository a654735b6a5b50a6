import EndpointInference.Syntax.Token
import EndpointInference.Syntax.Token.Lexeme
import EndpointInference.Text.Quoted

/-!
From characters to token trees. White space and comments are passed over, except that a
documentation comment stands for the attribute that holds its text. Delimiters have to match.
-/

namespace EndpointInference.Syntax

open EndpointInference.Text

def Position.after (place : Position) : List Char → Position
  | [] => place
  | c :: rest =>
    if c == '\n' then Position.after ⟨place.line + 1, 1⟩ rest
    else Position.after ⟨place.line, place.column + 1⟩ rest

namespace Lexer

def before (rest cs : List Char) : List Char :=
  cs.take (cs.length - rest.length)

/-- The delimiter that opens here; that of an error mark opens nothing. -/
def opening (cs : List Char) : Option Delimiter :=
  match cs with
  | '(' :: _ => if Lexeme.startsWith Lexeme.errorMark cs then none else some .paren
  | '[' :: _ => some .bracket
  | '\x7b' :: _ => some .brace
  | _ => none

def closing (c : Char) : Option Delimiter :=
  if c == ')' then some .paren
  else if c == ']' then some .bracket
  else if c == '\x7d' then some .brace
  else none

/-- A punctuation mark. A single quote is one only as the start of a lifetime; it is then joined to
the name. Other marks are joined to a mark right behind them. -/
def mark (place : Position) : List Char → Option (TokenTree × List Char)
  | [] => none
  | c :: rest =>
    if !Lexeme.isMarkHere (c :: rest) then none
    else if c == '\'' then do
      let behindName ← Lexeme.anyName rest
      if Lexeme.startsWith ['\''] behindName ||
          (Lexeme.startsWith ['#'] behindName && !Lexeme.startsWith ['r', '#'] rest) then none
      else some (.punct c true place, rest)
    else some (.punct c (Lexeme.isMarkHere rest) place, rest)

/-- A token that is no group: a literal first, then a mark, then a name. -/
def leaf (place : Position) (cs : List Char) : Option (TokenTree × List Char) :=
  match Lexeme.literal cs <|> Lexeme.behind Lexeme.errorMark cs with
  | some rest => some (.literal (String.ofList (before rest cs)) place, rest)
  | none =>
    match mark place cs with
    | some found => some found
    | none => (Lexeme.ident cs).map fun rest => (.ident (String.ofList (before rest cs)) place, rest)

def documentation (place : Position) (inner : Bool) (text : List Char) : List TokenTree :=
  let body := TokenTree.group .bracket
    [.ident "doc" place, .punct '=' false place, .literal (literalText text) place] place
  if inner then [.punct '#' false place, .punct '!' false place, body]
  else [.punct '#' false place, body]

/-- A group that is still open: its delimiter, its place, and the tokens before it in reverse. -/
structure Frame where
  delimiter : Delimiter
  start : Position
  outer : List TokenTree

/-- Reads tokens; `done` are those of the innermost open group so far, in reverse. -/
def tokens : Nat → Position → List Char → List Frame → List TokenTree → Option (List TokenTree)
  | 0, _, _, _, _ => none
  | budget + 1, place, cs, frames, done =>
    let here := Lexeme.skipGap cs
    let place := place.after (before here cs)
    match Lexeme.documentation here with
    | some (inner, text, rest) =>
      tokens budget (place.after (before rest here)) rest frames
        ((documentation place inner text).reverse ++ done)
    | none =>
      match here with
      | [] => if frames.isEmpty then some done.reverse else none
      | c :: rest =>
        match opening here with
        | some delimiter =>
          tokens budget (place.after [c]) rest (⟨delimiter, place, done⟩ :: frames) []
        | none =>
          match closing c with
          | some delimiter =>
            match frames with
            | frame :: frames =>
              if frame.delimiter = delimiter then
                tokens budget (place.after [c]) rest frames
                  (.group delimiter done.reverse frame.start :: frame.outer)
              else none
            | [] => none
          | none =>
            match leaf place here with
            | some (tree, rest) =>
              tokens budget (place.after (before rest here)) rest frames (tree :: done)
            | none => none

def byteOrderMark : Char :=
  '\ufeff'

def tokens? (cs : List Char) : Option (List TokenTree) :=
  match cs with
  | c :: rest =>
    if c == byteOrderMark then tokens (cs.length + 1) ⟨1, 2⟩ rest [] []
    else tokens (cs.length + 1) ⟨1, 1⟩ cs [] []
  | [] => some []

def isInterpreterLine (cs : List Char) : Bool :=
  match cs with
  | '#' :: '!' :: rest => !Lexeme.startsWith ['['] (Lexeme.skipGap rest)
  | _ => false

/-- The tokens of a whole file: a byte order mark is dropped, and a line that names an interpreter
is left out. -/
def fileTokens? (source : String) : Option (List TokenTree) :=
  let cs :=
    match source.toList with
    | c :: rest => if c == byteOrderMark then rest else c :: rest
    | [] => []
  if isInterpreterLine cs then tokens? (cs.dropWhile (· != '\n')) else tokens? cs

end Lexer

end EndpointInference.Syntax

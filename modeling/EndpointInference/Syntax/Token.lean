/-!
Tokens of a source text. A text is a list of token trees: names, punctuation marks, literals as
they are written, and groups between matching delimiters.

The text of a list of tokens separates them by one space, except that a mark joined to the next
one is not followed by a space. Round and square brackets stand close to what they hold, braces do
not.
-/

namespace EndpointInference.Syntax

/-- A place in a source text: line and column, both counted from one, columns in characters. -/
structure Position where
  line : Nat := 1
  column : Nat := 1
deriving DecidableEq, Repr

inductive Delimiter
  | paren
  | bracket
  | brace
deriving DecidableEq, Repr

/-- A token, or a group of tokens between delimiters; `start` is the place of its first character. -/
inductive TokenTree
  | ident (text : String) (start : Position)
  | punct (mark : Char) (joint : Bool) (start : Position)
  | literal (text : String) (start : Position)
  | group (delimiter : Delimiter) (inner : List TokenTree) (start : Position)
deriving Repr

namespace TokenTree

def start : TokenTree → Position
  | ident _ start => start
  | punct _ _ start => start
  | literal _ start => start
  | group _ _ start => start

def isPunct : TokenTree → Bool
  | punct .. => true
  | _ => false

/-- Whether the next token is written right after this one. -/
def isJoint : TokenTree → Bool
  | punct _ joint _ => joint
  | _ => false

mutual
def text : TokenTree → String
  | ident text _ => text
  | punct mark _ _ => mark.toString
  | literal text _ => text
  | group .paren inner _ => "(" ++ listText inner ++ ")"
  | group .bracket inner _ => "[" ++ listText inner ++ "]"
  | group .brace inner _ => "\x7b " ++ listText inner ++ (if inner.isEmpty then "\x7d" else " \x7d")

def listText : List TokenTree → String
  | [] => ""
  | [tree] => tree.text
  | tree :: next :: rest =>
    tree.text ++ (if tree.isJoint then "" else " ") ++ listText (next :: rest)
end

mutual
/-- The number of tokens, delimiters counted once for a group. -/
def size : TokenTree → Nat
  | group _ inner _ => listSize inner + 1
  | _ => 1

def listSize : List TokenTree → Nat
  | [] => 0
  | tree :: rest => tree.size + listSize rest
end

end TokenTree

end EndpointInference.Syntax

import EndpointInference.Syntax.Token

/-!
Patterns: what a parameter, a `let` or a match arm binds. Only forms that may hold a single name
have a shape of their own; the others are kept as the tokens they are written with.
-/

namespace EndpointInference.Syntax

inductive Pattern
  | binding (name : String)
  | wild
  /-- A constructor with patterns for its fields, such as `Path(id)`. -/
  | tupleStruct (elements : List Pattern) (written : List TokenTree)
  | typed (inner : Pattern)
  | reference (inner : Pattern)
  | paren (inner : Pattern)
  | rest
  /-- A range; `bounded` says that it has both ends. -/
  | range (bounded : Bool) (written : List TokenTree)
  | other (written : List TokenTree)

instance : Inhabited Pattern := ⟨.wild⟩

/-- The name a pattern goes by: that of its only binding, or its text. -/
def Pattern.name : Pattern → String
  | binding name => name
  | wild => "_"
  | tupleStruct [element] _ => element.name
  | tupleStruct _ written => TokenTree.listText written
  | typed inner => inner.name
  | reference inner => inner.name
  | paren inner => inner.name
  | rest => ".."
  | range _ written => TokenTree.listText written
  | other written => TokenTree.listText written

end EndpointInference.Syntax

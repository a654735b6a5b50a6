import EndpointInference.Syntax.Grammar.Cursor
import EndpointInference.Syntax.Item

/-!
The recursive parts of the grammar, taken as given by the phrases built on them; attributes and
macro calls.
-/

namespace EndpointInference.Syntax

structure TyPhrase where
  ty : Ty
  parts : List Expr := []

/-- How binding an operator is, the loosest first. -/
inductive Precedence
  | lowest
  | assign
  | range
  | or
  | and
  | compare
  | bitOr
  | bitXor
  | bitAnd
  | shift
  | sum
  | product
deriving DecidableEq, Repr

def Precedence.rank (precedence : Precedence) : Nat :=
  precedence.ctorIdx

/-- What a bound belongs to. Lifetimes and traits may stand everywhere. -/
inductive BoundPlace
  /-- A parameter, a condition, a supertrait or an associated type. -/
  | constraint
  | object
  /-- Another name for bounds. -/
  | abbreviation
  /-- A type that is known by its traits only. -/
  | existential

def BoundPlace.allowsConst : BoundPlace → Bool
  | constraint => true
  | object => false
  | abbreviation => false
  | existential => true

def BoundPlace.allowsCapture : BoundPlace → Bool
  | constraint => false
  | object => false
  | abbreviation => false
  | existential => true

structure BoundPhrase where
  bound : Bound
  /-- Whether it is a trait, of which a type given by bounds has at least one. -/
  isTrait : Bool
  parts : List Expr := []

/-- The phrases that may stand inside one another. -/
structure Grammar where
  /-- An expression; the flag says whether a struct literal may stand there. -/
  expr : Bool → Parser Expr
  operand : Bool → Parser Expr
  /-- The operators behind an operand, down to a precedence. -/
  operators : Bool → Precedence → Expr → Parser Expr
  /-- An expression that a block ends, unless a point or a question mark follows: a statement, or
  the body of a match arm. -/
  statementExpr : Parser Expr
  /-- A type; the flag says whether further bounds may follow behind a plus sign. -/
  ty : Bool → Parser TyPhrase
  bound : BoundPlace → Parser BoundPhrase
  /-- A pattern without alternatives. -/
  pattern : Parser Pattern
  /-- A pattern with alternatives. -/
  patterns : Parser Pattern
  stmts : Parser (List Stmt)
  item : Parser Item

def Grammar.empty : Grammar where
  expr _ := failure
  operand _ := failure
  operators _ _ _ := failure
  statementExpr := failure
  ty _ := failure
  bound _ := failure
  pattern := failure
  patterns := failure
  stmts := failure
  item := failure

namespace Grammar

open EndpointInference.Syntax.Parser

/-- Names divided by `::`, without arguments; says whether the path starts with `::`. -/
def plainPath : Parser (Bool × List String) := do
  let isGlobal ← mark? "::"
  let isSegment (trees : List TokenTree) : Bool :=
    Ahead.name trees || Ahead.word "super" trees || Ahead.word "self" trees ||
      Ahead.word "Self" trees || Ahead.word "crate" trees
  let segment : Parser String := do
    require (isSegment (← rest))
    return (← anyWord).text
  let first ← segment
  let others ← repeatWhile (Ahead.mark "::") (do mark "::"; segment)
  return (isGlobal, first :: others)

/-! ### Members -/

inductive MemberName
  | named (name : Ident)
  | index (index : Nat)

/-- The number of a member as it is written out: in decimal, without a zero in front. -/
def indexTree (start : Position) (index : Nat) : TokenTree :=
  .literal (toString index) start

def memberName : Parser MemberName := do
  match ← rest with
  | .literal text start :: _ =>
    let index ← Literal.index? text.toList
    replace 1 [indexTree start index]
    return .index index
  | _ => return .named (← name)

/-! ### Attributes -/

/-- The value of an attribute: a lone literal or an expression, which starts with no attribute. -/
def attributeValue (g : Grammar) : Parser Expr := fun cursor =>
  match (literal cursor : Option (Literal × Cursor)) with
  | some (value, after) =>
    if after.rest.isEmpty then some (.literal value, after) else expression cursor
  | none => expression cursor
where
  expression : Parser Expr := do
    let trees ← rest
    require !(Ahead.mark "#" trees && Ahead.group .bracket (Ahead.next trees))
    g.expr true

def attributeArgs (g : Grammar) : Parser AttributeArgs := do
  match ← rest with
  | .group _ _ _ :: _ =>
    let (_, tokens) ← anyGroup
    return .list tokens
  | _ =>
    if ← mark? "=" then return .value (← g.attributeValue) else return .none

def attributeBody (g : Grammar) : Parser Attribute := do
  let (isGlobal, names) ←
    if ← ahead (Ahead.word "unsafe") then do
      let _ ← anyWord
      pure (false, ["unsafe"])
    else plainPath
  return ⟨if isGlobal then none else some names, ← g.attributeArgs⟩

/-- Attributes before what they belong to. -/
def outerAttributes (g : Grammar) : Parser (List Attribute) :=
  repeatWhile (Ahead.mark "#") do
    mark "#"
    delimited .bracket g.attributeBody

/-- Attributes inside what they belong to. -/
def innerAttributes (g : Grammar) : Parser (List Attribute) :=
  repeatWhile (fun trees => Ahead.mark "#" trees && Ahead.mark "!" (Ahead.next trees)) do
    mark "#"
    mark "!"
    delimited .bracket g.attributeBody

/-! ### Blocks -/

def block (g : Grammar) : Parser (List Stmt) :=
  delimited .brace g.stmts

def attributedBlock (g : Grammar) : Parser (List Expr × List Stmt) :=
  delimited .brace do
    let attributes ← g.innerAttributes
    return (attributeValues attributes, ← g.stmts)

/-! ### Macro calls -/

/-- Those arguments of a macro call that read as expressions: the first one, for a macro that tests
a value against a pattern; for others all of them, if all do. -/
def macroArguments (g : Grammar) (names : List String) (tokens : List TokenTree) : List Expr :=
  let name := names.getLastD ""
  if name == "matches" || name == "assert_matches" then
    match g.expr true ⟨tokens, []⟩ with
    | some (value, _) => [value]
    | none => []
  else
    (readAll (commaList (g.expr true)) tokens).getD []

/-- A macro call behind its path: whether its arguments stand in braces, and those that read as
expressions. -/
def macroCall (g : Grammar) (names : List String) : Parser (Bool × List Expr) := do
  mark "!"
  let (delimiter, tokens) ← anyGroup
  return (delimiter = .brace, g.macroArguments names tokens)

/-- What only the compiler reads: `builtin`, a mark, a name and tokens in parentheses. -/
def builtinCall : Parser Unit := do
  word "builtin"
  mark "#"
  let _ ← name
  require (← ahead (Ahead.group .paren))
  let _ ← anyGroup

def atBuiltin (trees : List TokenTree) : Bool :=
  Ahead.word "builtin" trees && Ahead.mark "#" (Ahead.next trees)

def atBang (trees : List TokenTree) : Bool :=
  Ahead.mark "!" trees && !Ahead.mark "!=" trees

end Grammar

end EndpointInference.Syntax

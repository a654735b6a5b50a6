import EndpointInference.Syntax.Grammar.Basic

/-!
Paths with their arguments in angle brackets.
-/

namespace EndpointInference.Syntax

inductive SegmentArgs
  | none
  | angle (args : List GenericArg)
  | paren

structure SegmentPhrase where
  name : String
  args : SegmentArgs := .none
  parts : List Expr := []

def SegmentPhrase.segment (phrase : SegmentPhrase) : Segment :=
  match phrase.args with
  | .angle args => .mk phrase.name args
  | _ => .mk phrase.name []

/-- Whether it has no arguments at all, not even empty brackets. -/
def SegmentPhrase.isPlain (phrase : SegmentPhrase) : Bool :=
  match phrase.args with
  | .none => true
  | _ => false

structure PathPhrase where
  isGlobal : Bool
  segments : List SegmentPhrase

namespace PathPhrase

def names (path : PathPhrase) : List String :=
  path.segments.map (·.name)

def parts (path : PathPhrase) : List Expr :=
  path.segments.flatMap (·.parts)

def isPlain (path : PathPhrase) : Bool :=
  path.segments.all (·.isPlain)

def setLast (path : PathPhrase) (last : SegmentPhrase) : PathPhrase :=
  { path with segments := path.segments.dropLast ++ [last] }

end PathPhrase

structure QualifiedPath where
  selfParts : Option (List Expr)
  path : PathPhrase

def QualifiedPath.parts (phrase : QualifiedPath) : List Expr :=
  phrase.selfParts.getD [] ++ phrase.path.parts

def QualifiedPath.exprPath (phrase : QualifiedPath) : ExprPath where
  isQualified := phrase.selfParts.isSome
  isGlobal := phrase.path.isGlobal
  names := phrase.path.names
  hasArguments := !phrase.path.isPlain

namespace Grammar

open EndpointInference.Syntax.Parser

def constArgument (g : Grammar) : Parser Expr := do
  if ← ahead Ahead.literal then
    return .literal (← literal)
  else
    let (values, stmts) ← g.attributedBlock
    return (Expr.block stmts).withAttributes none values

/-! ### Lists in angle brackets -/

structure Listed (α : Type) where
  value : α
  trees : List TokenTree
  comma : Bool

def Listed.all (element : Listed α) : List TokenTree :=
  if element.comma then element.trees ++ [.punct ',' false {}] else element.trees

/-- The elements as they are written out: lifetimes first, divided from the others by a comma. -/
def lifetimesFirst (isLifetime : α → Bool) (elements : List (Listed α)) : List TokenTree :=
  let lifetimes := elements.filter (isLifetime ·.value)
  let others := elements.filter (!isLifetime ·.value)
  let gap :=
    match lifetimes.getLast? with
    | some last => if last.comma || others.isEmpty then [] else [.punct ',' false {}]
    | none => []
  lifetimes.flatMap (·.all) ++ gap ++ others.flatMap (·.all)

def listedUpTo (phrase : Parser α) : Nat → Parser (List (Listed α))
  | 0 => failure
  | budget + 1 => do
    if ← ahead (Ahead.mark ">") then return []
    let (value, trees) ← written phrase
    if ← ahead (Ahead.mark ">") then return [⟨value, trees, false⟩]
    mark ","
    return ⟨value, trees, true⟩ :: (← listedUpTo phrase budget)

def angleList (isLifetime : α → Bool) (phrase : Parser α) : Parser (List α) := do
  mark "<"
  let before ← get
  let elements ← listedUpTo phrase (before.rest.length + 1)
  writeOut before (lifetimesFirst isLifetime elements)
  mark ">"
  return elements.map (·.value)

/-! ### Arguments in angle brackets -/

structure AngleArg where
  arg : GenericArg
  isLifetime : Bool := false
  parts : List Expr := []

/-- Whether a type is a lone name, which may be that of an associated type; its arguments' parts
stay where they are. -/
def isAssociatedName : Ty → Bool
  | .path [_] => true
  | _ => false

def boundsWhile (g : Grammar) (place : BoundPlace) (more : List TokenTree → Bool) :
    Parser (List BoundPhrase) := do
  go ((← rest).length + 1)
where
  go : Nat → Parser (List BoundPhrase)
    | 0 => failure
    | budget + 1 => do
      if !more (← rest) then return []
      let first ← g.bound place
      if ← mark? "+" then
        return first :: (← go budget)
      else
        return [first]

def angleArg (g : Grammar) : Parser AngleArg := do
  let trees ← rest
  if Ahead.lifetime trees && !Ahead.mark "+" (Ahead.next trees) then
    lifetime
    return { arg := .other, isLifetime := true }
  if Ahead.literal trees || Ahead.group .brace trees then
    return { arg := .other, parts := [← g.constArgument] }
  let startsGlobal := Ahead.mark "::" trees
  let phrase ← g.ty true
  if isAssociatedName phrase.ty && !startsGlobal then
    if ← mark? "=" then
      let trees ← rest
      if Ahead.literal trees || Ahead.group .brace trees then
        return { arg := .other, parts := phrase.parts ++ [← g.constArgument] }
      else
        let value ← g.ty true
        return { arg := .assoc value.ty, parts := phrase.parts ++ value.parts }
    if ← mark? ":" then
      let bounds ← g.boundsWhile .constraint fun trees =>
        !Ahead.mark "," trees && !Ahead.mark ">" trees
      return { arg := .other, parts := phrase.parts ++ bounds.flatMap (·.parts) }
  return { arg := .ty phrase.ty, parts := phrase.parts }

def angleArgs (g : Grammar) : Parser (List GenericArg × List Expr) := do
  let _ ← mark? "::"
  let args ← angleList (·.isLifetime) g.angleArg
  return (args.map (·.arg), args.flatMap (·.parts))

/-! ### Paths -/

/-- Whether arguments in angle brackets come next behind a name. In an expression they are marked
by `::`. -/
def atAngleArgs (exprStyle : Bool) (trees : List TokenTree) : Bool :=
  (!exprStyle && Ahead.mark "<" trees && !Ahead.mark "<=" trees && !Ahead.mark "<<=" trees) ||
    (Ahead.mark "::" trees && Ahead.mark "<" (Ahead.next (Ahead.next trees)))

def segment (g : Grammar) (exprStyle : Bool) :
    Parser SegmentPhrase := do
  let trees ← rest
  if Ahead.word "super" trees || Ahead.word "self" trees || Ahead.word "crate" trees ||
      Ahead.word "try" trees then
    return { name := (← anyWord).text }
  let found ← if Ahead.word "Self" trees then anyWord else name
  if ← ahead (atAngleArgs exprStyle) then
    let (args, parts) ← g.angleArgs
    return { name := found.text, args := .angle args, parts }
  else
    return { name := found.text }

/-- Further segments, each behind `::`; one before an opening parenthesis starts none. -/
def moreSegments (g : Grammar) (exprStyle : Bool) :
    Parser (List SegmentPhrase) :=
  repeatWhile
    (fun trees =>
      Ahead.mark "::" trees && !Ahead.group .paren (Ahead.next (Ahead.next trees)))
    (do mark "::"; g.segment exprStyle)

def path (g : Grammar) (exprStyle : Bool) :
    Parser PathPhrase := do
  let isGlobal ← mark? "::"
  let first ← g.segment exprStyle
  return ⟨isGlobal, first :: (← g.moreSegments exprStyle)⟩

/-- A path that may start with a self type, as in `<T as Trait>::Item`. -/
def qualifiedPath (g : Grammar) (exprStyle : Bool) :
    Parser QualifiedPath := do
  if ← mark? "<" then
    let self ← g.ty true
    let through ←
      if ← word? "as" then some <$> g.path false else pure none
    mark ">"
    mark "::"
    let first ← g.segment exprStyle
    let others ← repeatWhile (Ahead.mark "::") (do mark "::"; g.segment exprStyle)
    let path :=
      match through with
      | some trait => ⟨trait.isGlobal, trait.segments ++ first :: others⟩
      | none => ⟨true, first :: others⟩
    return ⟨some self.parts, path⟩
  else
    return ⟨none, ← g.path exprStyle⟩

end Grammar

end EndpointInference.Syntax

import EndpointInference.Syntax.Grammar.Generics

/-!
Types. Those that name a type keep their structure; raw pointers, function types, paths with a self
type, macro calls and placeholders are kept as they are written.
-/

namespace EndpointInference.Syntax

def Ty.writtenAs (trees : List TokenTree) : Ty → Ty
  | .other _ => .other trees
  | .bounds traits _ => .bounds traits trees
  | ty => ty

def TyPhrase.unnamed (parts : List Expr) : TyPhrase :=
  ⟨.other [], parts⟩

def TyPhrase.ofBounds (bounds : List BoundPhrase) : TyPhrase :=
  ⟨.bounds (bounds.map (·.bound)) [], bounds.flatMap (·.parts)⟩

namespace Grammar

open EndpointInference.Syntax.Parser

def writtenTy (phrase : Parser TyPhrase) : Parser TyPhrase := do
  let (found, trees) ← written phrase
  return { found with ty := found.ty.writtenAs trees }

/-! ### Types given by bounds -/

def someTrait (phrase : Parser (List BoundPhrase)) : Parser (List BoundPhrase) := do
  let bounds ← phrase
  require (bounds.any (·.isTrait))
  return bounds

/-- A trait object. One with a star behind its keyword is kept as it stands in the source. -/
def objectTy (g : Grammar) (allowPlus : Bool) : Parser TyPhrase := do
  let before ← get
  word "dyn"
  let starred ← mark? "*"
  let bounds ← someTrait (g.boundList .object allowPlus)
  if starred then
    keepSource before
    return .unnamed []
  else
    return .ofBounds bounds

def plusBounds (g : Grammar) : Parser (List BoundPhrase) :=
  repeatWhile (Ahead.mark "+") (do mark "+"; g.bound .object)

def endsWithPlus (trees : List TokenTree) : Bool :=
  Ahead.mark "+" (trees.drop (trees.length - 1))

/-- The bound that a type in parentheses is, where bounds follow it: a path, or a lone bound with
no keyword before it and no plus sign behind it. -/
def boundOfTy : Ty → Option Bound
  | .path segments => some (.path segments)
  | .bounds [bound] trees =>
    if Ahead.word "dyn" trees || Ahead.word "impl" trees || endsWithPlus trees then none
    else some bound
  | _ => none

/-! ### Types in parentheses -/

def ownParens? : Ty → Option TokenTree
  | .bounds _ [.group .paren trees start] => some (.group .paren trees start)
  | _ => none

inductive ParenTy
  | unit
  | tuple (elements : List TyPhrase)
  | maybe (bound : BoundPhrase)
  | single (inner : TyPhrase)

def parenTyInside (g : Grammar) : Parser ParenTy := do
  let trees ← rest
  if trees.isEmpty then return .unit
  if Ahead.lifetime trees then
    return .single (← writtenTy (.ofBounds <$> someTrait (g.boundList .object true)))
  if Ahead.mark "?" trees then
    match ← g.traitBound false with
    | some bound => return .maybe bound
    | none => failure
  let first ← g.ty true
  if ← mark? "," then
    return .tuple (first :: (← commaList (g.ty true)))
  else
    return .single first

/-- A type in parentheses: a tuple, a type, or the first of several bounds, which is written out
with one pair of parentheses. -/
def parenTy (g : Grammar) (allowPlus : Bool) : Parser TyPhrase := do
  let before ← get
  match ← delimited .paren g.parenTyInside with
  | .unit => return ⟨.tuple [], []⟩
  | .tuple elements => return ⟨.tuple (elements.map (·.ty)), elements.flatMap (·.parts)⟩
  | .maybe bound => return .ofBounds (bound :: (← g.plusBounds))
  | .single inner =>
    if allowPlus && (← ahead (Ahead.mark "+")) then
      match boundOfTy inner.ty with
      | some bound =>
        if let some parens := ownParens? inner.ty then writeOut before [parens]
        return .ofBounds (⟨bound, true, inner.parts⟩ :: (← g.plusBounds))
      | none => return ⟨.paren inner.ty, inner.parts⟩
    else
      return ⟨.paren inner.ty, inner.parts⟩

/-! ### Function types -/

def convention? : Parser Bool := do
  if ← word? "extern" then
    match ← rest with
    | .literal text _ :: _ =>
      if text.startsWith "\"" || text.startsWith "r" then
        let _ ← token
    | _ => pure ()
    return true
  else
    return false

def atParamName (isFirst : Bool) (trees : List TokenTree) : Bool :=
  let colon := Ahead.next trees
  (Ahead.name trees || Ahead.word "_" trees || (isFirst && Ahead.word "self" trees)) &&
    Ahead.mark ":" colon && !Ahead.mark "::" colon

def atVariadic (trees : List TokenTree) : Bool :=
  Ahead.mark "..." trees ||
    (atParamName false trees && Ahead.mark "..." (Ahead.next (Ahead.next trees)))

def atMutSelf (trees : List TokenTree) : Bool :=
  Ahead.word "mut" trees && Ahead.word "self" (Ahead.next trees)

/-- A parameter of a function type, which may have a name. The first one may be `self`; one that is
`mut self` is kept as it stands in the source. -/
def fnTyParam (g : Grammar) (isFirst : Bool) : Parser (List Expr) := do
  let before ← get
  let mutSelf := isFirst && atMutSelf before.rest
  if mutSelf then word "mut"
  let trees ← rest
  let named := atParamName isFirst trees
  let isSelf := named && Ahead.word "self" trees
  if named then
    let _ ← anyWord
    mark ":"
  if isFirst && !isSelf && atMutSelf (← rest) then
    word "mut"
    word "self"
    keepSource before
    return []
  else if mutSelf && !named then
    word "self"
    keepSource before
    return []
  else
    let ty ← g.ty true
    if mutSelf then
      keepSource before
      return []
    else
      return ty.parts

def fnTyParams (g : Grammar) : Nat → Bool → Parser (List Expr)
  | 0, _ => failure
  | budget + 1, isFirst => do
    if ← isEmpty then return []
    let values := attributeValues (← g.outerAttributes)
    let trees ← rest
    if atVariadic trees then
      if !Ahead.mark "..." trees then
        let _ ← anyWord
        mark ":"
      mark "..."
      let _ ← mark? ","
      require (← isEmpty)
      return values
    else
      let parts ← g.fnTyParam isFirst
      if ← isEmpty then return values ++ parts
      mark ","
      return values ++ parts ++ (← g.fnTyParams budget false)

def atFnTy (trees : List TokenTree) : Bool :=
  Ahead.word "fn" trees || Ahead.word "unsafe" trees || Ahead.word "extern" trees

def fnTy (g : Grammar) : Parser (List Expr) := do
  let _ ← word? "unsafe"
  let _ ← convention?
  word "fn"
  let inputs ← delimited .paren (do g.fnTyParams ((← rest).length + 1) true)
  let result ← g.output false
  return inputs ++ (result.map (·.parts)).getD []

/-! ### Other types -/

/-- Bounds of which the first is a path that was read; further ones stand behind plus signs, if
those are allowed. -/
def objectFrom (g : Grammar) (first : BoundPhrase) (allowPlus : Bool) : Parser TyPhrase := do
  let others ←
    if ← plus? allowPlus then g.boundsWhile .object (atBound .object) else pure []
  return .ofBounds (first :: others)

def boundOfPath (path : PathPhrase) (parts : List Expr) : BoundPhrase :=
  ⟨.path (path.segments.map (·.segment)), true, parts⟩

def pathTy (g : Grammar) (allowPlus : Bool) : Parser TyPhrase := do
  let found ← g.qualifiedPath false
  if found.selfParts.isSome then
    return .unnamed found.parts
  else if found.path.isPlain && (← ahead atBang) then
    let (_, args) ← g.macroCall found.path.names
    return .unnamed args
  else if allowPlus && (← ahead (Ahead.mark "+")) then
    g.objectFrom (boundOfPath found.path found.parts) allowPlus
  else
    return ⟨.path (found.path.segments.map (·.segment)), found.parts⟩

def bracketTy (g : Grammar) : Parser TyPhrase :=
  delimited .bracket do
    let element ← g.ty true
    if ← mark? ";" then
      let length ← g.expr true
      return ⟨.array element.ty, element.parts ++ [length]⟩
    else
      return ⟨.slice element.ty, element.parts⟩

def pointerTy (g : Grammar) : Parser TyPhrase := do
  mark "*"
  if !(← word? "const") then word "mut"
  return .unnamed (← g.ty false).parts

def referenceTy (g : Grammar) : Parser TyPhrase := do
  mark "&"
  let _ ← lifetime?
  let _ ← word? "mut"
  let inner ← g.ty false
  return ⟨.reference inner.ty, inner.parts⟩

def freeTy (g : Grammar) (allowPlus : Bool) : Parser TyPhrase := do
  let before ← get
  let trees := before.rest
  if atFnTy trees then
    return .unnamed (← g.fnTy)
  else if atBuiltin trees then
    builtinCall
    keepSource before
    return .unnamed []
  else if Ahead.pathStart trees then
    g.pathTy allowPlus
  else if Ahead.group .paren trees then
    g.parenTy allowPlus
  else if Ahead.word "dyn" trees then
    g.objectTy allowPlus
  else if Ahead.group .bracket trees then
    g.bracketTy
  else if Ahead.mark "*" trees then
    g.pointerTy
  else if Ahead.mark "&" trees then
    g.referenceTy
  else if Ahead.mark "!" trees then
    mark "!"
    return .unnamed []
  else if Ahead.word "impl" trees then
    word "impl"
    return .ofBounds (← someTrait (g.boundList .existential allowPlus))
  else if Ahead.word "_" trees then
    word "_"
    return .unnamed []
  else if Ahead.lifetime trees then
    return .ofBounds (← someTrait (g.boundList .object true))
  else
    failure

/-- A type behind a binder, which starts at `before`: a function type or a trait. A macro call is
written out without the binder; what only the compiler reads is kept as it stands in the source,
with the binder. -/
def boundTy (g : Grammar) (before : Cursor) (binder : List Expr) (allowPlus : Bool) :
    Parser TyPhrase := do
  let trees ← rest
  if atFnTy trees then
    return .unnamed (binder ++ (← g.fnTy))
  else if atBuiltin trees then
    builtinCall
    keepSource before
    return .unnamed []
  else
    require (Ahead.pathStart trees && !Ahead.mark "::" trees && !Ahead.mark "<" trees)
    let (path, pathTrees) ← written (g.path false)
    if path.isPlain && (← ahead atBang) then
      writeOut before pathTrees
      let (_, args) ← g.macroCall path.names
      return .unnamed args
    else
      g.objectFrom (boundOfPath path (binder ++ path.parts)) allowPlus

def tyPhrase (g : Grammar) (allowPlus : Bool) : Parser TyPhrase := do
  writtenTy do
    let before ← get
    match ← g.binder? with
    | some binder => g.boundTy before binder allowPlus
    | none => g.freeTy allowPlus

end Grammar

end EndpointInference.Syntax

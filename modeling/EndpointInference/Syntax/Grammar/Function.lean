import EndpointInference.Syntax.Grammar.Ty

/-!
Visibility, and functions: their parameters, signatures and bodies.
-/

namespace EndpointInference.Syntax

namespace Grammar

open EndpointInference.Syntax.Parser

/-! ### Visibility -/

inductive Visibility
  | inherited
  | restricted
  | isPublic
deriving DecidableEq

/-- The inside of `pub(..)`. A lone word or `in` with a path restricts; anything else belongs to
what follows. -/
def restriction : Parser Unit := do
  let trees ← rest
  if Ahead.word "crate" trees || Ahead.word "self" trees || Ahead.word "super" trees then
    let _ ← anyWord
  else
    word "in"
    let _ ← plainPath

def visibility : Parser Visibility := do
  if ← word? "pub" then
    match ← lookAhead (delimited .paren restriction) with
    | some _ =>
      delimited .paren restriction
      return .restricted
    | none => return .isPublic
  else
    return .inherited

/-! ### Parameters -/

/-- `self`, perhaps by reference or with a type; one that starts a path is none. -/
def receiver (g : Grammar) : Parser Unit := do
  let byRef ← mark? "&"
  if byRef then
    let _ ← lifetime?
  let _ ← word? "mut"
  word "self"
  require !(Ahead.mark "::" (← rest))
  if !byRef then
    if ← mark? ":" then
      let _ ← g.ty true

/-- A parameter. One that is only a type with arguments goes by no name, which is written out as an
underscore; variable arguments are none. -/
def fnParam (g : Grammar) : Parser (Option FnParam) := do
  let attributes ← g.outerAttributes
  if ← mark? "..." then return none
  match ← lookAhead g.receiver with
  | some _ =>
    g.receiver
    return some .receiver
  | none =>
    let start ← position
    let trees ← rest
    if Ahead.name trees && Ahead.mark "<" (Ahead.next trees) then
      replace 0 [.ident "_" start, .punct ':' false start]
      let ty ← g.ty true
      return some (.typed ⟨attributes, .wild, start, ty.ty⟩)
    else
      let pattern ← g.pattern
      mark ":"
      if ← mark? "..." then return none
      let ty ← g.ty true
      return some (.typed ⟨attributes, pattern, start, ty.ty⟩)

def isReceiver : FnParam → Bool
  | .receiver => true
  | .typed _ => false

/-- Parameters; a receiver comes first or not at all, and variable arguments come last. -/
def fnParams (g : Grammar) : Nat → Bool → Parser (List FnParam)
  | 0, _ => failure
  | budget + 1, isFirst => do
    if ← isEmpty then return []
    match ← g.fnParam with
    | none =>
      if !(← isEmpty) then mark ","
      require (← isEmpty)
      return []
    | some param =>
      require (isFirst || !isReceiver param)
      if ← isEmpty then return [param]
      mark ","
      return param :: (← g.fnParams budget false)

/-! ### Signatures and bodies -/

structure FnQualifiers where
  isAsync : Bool
  isSafe : Bool

/-- The words before `fn`. Where `allowSafe` holds, `safe` may stand in place of `unsafe`. -/
def fnQualifiers (allowSafe : Bool) : Parser FnQualifiers := do
  let _ ← word? "const"
  let isAsync ← word? "async"
  let isUnsafe ← word? "unsafe"
  let isSafe ← if allowSafe && !isUnsafe then word? "safe" else pure false
  let _ ← convention?
  return ⟨isAsync, isSafe⟩

def signature (g : Grammar) (allowSafe : Bool) : Parser Signature := do
  let qualifiers ← fnQualifiers allowSafe
  word "fn"
  let found ← name
  let (_, typeParams) ← g.genericParams
  let params ← delimited .paren (do g.fnParams ((← rest).length + 1) true)
  let result ← g.output true
  let _ ← g.whereClause
  return ⟨found, qualifiers.isAsync, typeParams, params, result.map (·.ty)⟩

def signatureAhead (allowSafe : Bool) : Parser (Option FnQualifiers) :=
  lookAhead do
    let qualifiers ← fnQualifiers allowSafe
    word "fn"
    return qualifiers

def atSignature : Parser Bool := do
  return (← signatureAhead false).isSome

def fnBody (g : Grammar) : Parser (List Attribute × List Stmt) :=
  delimited .brace do
    let attributes ← g.innerAttributes
    return (attributes, ← g.stmts)

end Grammar

end EndpointInference.Syntax

import EndpointInference.Syntax.Grammar.Path

/-!
Parameters in angle brackets, the bounds of a type, and the conditions behind `where`.
-/

namespace EndpointInference.Syntax

structure ParamPhrase where
  param : Option TypeParam := none
  isLifetime : Bool := false
  parts : List Expr := []

namespace Grammar

open EndpointInference.Syntax.Parser

def output (g : Grammar) (allowPlus : Bool) : Parser (Option TyPhrase) := do
  if ← mark? "->" then some <$> g.ty allowPlus else return none

/-! ### Parameters -/

def lifetimesWhile (more : List TokenTree → Bool) : Parser Unit := do
  go ((← rest).length + 1)
where
  go : Nat → Parser Unit
    | 0 => failure
    | budget + 1 => do
      if !more (← rest) then return
      lifetime
      if ← mark? "+" then go budget else return

/-- Takes the colon before bounds, if there is one; it is not written out where none follow. -/
def boundColon? (ends : List TokenTree → Bool) : Parser Bool := do
  if ← ahead (Ahead.mark ":") then
    if ends (Ahead.next (← rest)) then replace 1 [] else mark ":"
    return true
  else
    return false

def atParamEnd (trees : List TokenTree) : Bool :=
  Ahead.mark "," trees || Ahead.mark ">" trees

def lifetimeParam : Parser ParamPhrase := do
  lifetime
  if ← boundColon? atParamEnd then
    lifetimesWhile fun trees => !atParamEnd trees
  return { isLifetime := true }

def typeParam (g : Grammar) : Parser ParamPhrase := do
  let found ← name
  let ends (trees : List TokenTree) : Bool := atParamEnd trees || Ahead.mark "=" trees
  let bounds ←
    if ← boundColon? ends then g.boundsWhile .constraint fun trees => !ends trees
    else pure []
  let default ← if ← mark? "=" then pure (← g.ty true).parts else pure []
  let param : TypeParam := ⟨found.text, bounds.map (·.bound)⟩
  return { param := some param, parts := bounds.flatMap (·.parts) ++ default }

def constParam (g : Grammar) : Parser ParamPhrase := do
  word "const"
  let _ ← name
  mark ":"
  let ty ← g.ty true
  if ← mark? "=" then
    let default ←
      if Ahead.name (← rest) then do pure (Expr.path { names := [(← name).text] })
      else g.constArgument
    return { parts := ty.parts ++ [default] }
  else
    return { parts := ty.parts }

def genericParam (g : Grammar) (allowBlank : Bool) : Parser ParamPhrase := do
  let values := attributeValues (← g.outerAttributes)
  let trees ← rest
  let found : ParamPhrase ←
    if Ahead.lifetime trees then lifetimeParam
    else if Ahead.name trees then g.typeParam
    else if Ahead.word "const" trees then g.constParam
    else do
      require allowBlank
      word "_"
      pure { param := some ⟨"_", []⟩ }
  return { found with parts := values ++ found.parts }

/-- The parameters of a declaration, if it has any; says whether there are brackets. Empty ones are
not written out. -/
def genericParams (g : Grammar) : Parser (Bool × List TypeParam) := do
  let before ← get
  if Ahead.mark "<" before.rest then
    let params ← angleList (·.isLifetime) (g.genericParam true)
    if params.isEmpty then writeOut before []
    return (true, params.filterMap (·.param))
  else
    return (false, [])

/-- Whether angle brackets here hold parameters and do not start a path. -/
def atParams (trees : List TokenTree) : Bool :=
  let second := Ahead.next trees
  let third := Ahead.next second
  Ahead.mark "<" trees &&
    (Ahead.mark ">" second || Ahead.mark "#" second ||
      ((Ahead.lifetime second || Ahead.name second) &&
        (Ahead.mark ">" third || Ahead.mark "," third ||
          (Ahead.mark ":" third && !Ahead.mark "::" third) || Ahead.mark "=" third)) ||
      Ahead.word "const" second)

/-- `for` with parameters, if it is there: the expressions in them. -/
def binder? (g : Grammar) : Parser (Option (List Expr)) := do
  if ← word? "for" then
    mark "<"
    let params ← separated "," (Ahead.mark ">") (g.genericParam false)
    mark ">"
    return some (params.flatMap (·.parts))
  else
    return none

/-! ### Bounds -/

def atParenArgs (trees : List TokenTree) : Bool :=
  Ahead.group .paren trees ||
    (Ahead.mark "::" trees && Ahead.group .paren (Ahead.next (Ahead.next trees)))

/-- Arguments in parentheses and the output; a `::` before them is not written out. -/
def parenArgs (g : Grammar) : Parser (List Expr) := do
  if ← ahead (Ahead.mark "::") then replace 2 []
  let inputs ← delimited .paren (commaList (g.ty true))
  let result ← g.output false
  return inputs.flatMap (·.parts) ++ (result.map (·.parts)).getD []

/-- Whether a segment has no arguments; those in parentheses take the place of empty brackets. -/
def lacksArgs : SegmentArgs → Bool
  | .none => true
  | .angle args => args.isEmpty
  | .paren => false

def traitPath (g : Grammar) : Parser PathPhrase := do
  let path ← g.path false
  match path.segments.getLast? with
  | some last =>
    if lacksArgs last.args && (← ahead atParenArgs) then
      modify fun cursor => { cursor with taken := cursor.taken.dropWhile TokenTree.isPunct }
      return path.setLast { last with args := .paren, parts := ← g.parenArgs }
    else
      return path
  | none => return path

/-- A trait with what stands before it. One under `const` is no bound that is looked at. -/
def traitBound (g : Grammar) (allowConst : Bool) : Parser (Option BoundPhrase) := do
  let binder ← g.binder?
  let isConst ←
    if ← ahead (Ahead.group .bracket) then do
      delimited .bracket (word "const")
      pure true
    else word? "const"
  require (allowConst || !isConst)
  let maybe ← mark? "?"
  require !(maybe && (binder.isSome || (← ahead (Ahead.word "for"))))
  let path ← g.traitPath
  if isConst then
    return none
  else
    return some
      { bound := .path (path.segments.map (·.segment))
        isTrait := true
        parts := binder.getD [] ++ path.parts }

def capture : Parser Unit := do
  word "use"
  let _ ← angleList id do
    let trees ← rest
    if Ahead.lifetime trees then
      lifetime
      return true
    else
      require (Ahead.name trees || Ahead.word "Self" trees)
      let _ ← anyWord
      return false

/-- A bound: a lifetime, what a type captures, or a trait, which may stand in parentheses. A trait
under `const` is kept as it stands in the source. -/
def boundPhrase (g : Grammar) (place : BoundPlace) : Parser BoundPhrase := do
  let trees ← rest
  if Ahead.lifetime trees then
    lifetime
    return { bound := .other, isTrait := false }
  else if Ahead.word "use" trees then
    require place.allowsCapture
    capture
    return { bound := .other, isTrait := false }
  else
    let before ← get
    let trait := g.traitBound place.allowsConst
    match ← if Ahead.group .paren trees then delimited .paren trait else trait with
    | some found => return found
    | none =>
      keepSource before
      return { bound := .other, isTrait := true }

def atBound (place : BoundPlace) (trees : List TokenTree) : Bool :=
  Ahead.anyWord trees || Ahead.mark "::" trees || Ahead.mark "?" trees || Ahead.lifetime trees ||
    Ahead.group .paren trees || (place.allowsConst && Ahead.group .bracket trees)

def plus? (allowPlus : Bool) : Parser Bool :=
  if allowPlus then mark? "+" else return false

def boundList (g : Grammar) (place : BoundPlace) (allowPlus : Bool) :
    Parser (List BoundPhrase) := do
  let first ← g.bound place
  if ← plus? allowPlus then
    return first :: (← g.boundsWhile place (atBound place))
  else
    return [first]

/-! ### Conditions -/

def atWhereEnd (trees : List TokenTree) : Bool :=
  trees.isEmpty || Ahead.group .brace trees || Ahead.mark "," trees || Ahead.mark ";" trees ||
    (Ahead.mark ":" trees && !Ahead.mark "::" trees) || Ahead.mark "=" trees

def wherePredicate (g : Grammar) : Parser Unit := do
  let trees ← rest
  if Ahead.lifetime trees && Ahead.mark ":" (Ahead.next trees) then
    lifetime
    mark ":"
    lifetimesWhile fun trees => !atWhereEnd trees
  else
    let _ ← g.binder?
    let _ ← g.ty true
    mark ":"
    let _ ← g.boundsWhile .constraint fun trees => !atWhereEnd trees

def wherePredicates (g : Grammar) : Nat → Parser Unit
  | 0 => failure
  | budget + 1 => do
    if ← ahead atWhereEnd then return
    g.wherePredicate
    if ← mark? "," then g.wherePredicates budget else return

/-- The conditions behind `where`, which has no parameters; says whether it is there. Without a
condition it is not written out. -/
def whereClause (g : Grammar) : Parser Bool := do
  let before ← get
  if ← word? "where" then
    let trees ← rest
    require !(atParams trees)
    if atWhereEnd trees then writeOut before [] else g.wherePredicates (trees.length + 1)
    return true
  else
    return false

end Grammar

end EndpointInference.Syntax

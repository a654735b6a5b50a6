import EndpointInference.Syntax.Grammar.Generics

/-!
Expressions: operators by precedence, then casts and prefix operators, then what may follow an
operand, then operands. Where a block may follow an expression, a struct literal may not be its last part.
-/

namespace EndpointInference.Syntax

namespace Grammar

open EndpointInference.Syntax.Parser

/-! ### Operators -/

/-- Operators between two operands, the longer ones first. -/
def operatorTable : List (String × Precedence) :=
  [("+=", .assign), ("-=", .assign), ("*=", .assign), ("/=", .assign), ("%=", .assign),
   ("^=", .assign), ("&=", .assign), ("|=", .assign), ("<<=", .assign), (">>=", .assign),
   ("&&", .and), ("||", .or), ("<<", .shift), (">>", .shift), ("==", .compare), ("<=", .compare),
   ("!=", .compare), (">=", .compare), ("+", .sum), ("-", .sum), ("*", .product), ("/", .product),
   ("%", .product), ("^", .bitXor), ("&", .bitAnd), ("|", .bitOr), ("<", .compare),
   (">", .compare)]

def operatorAhead (trees : List TokenTree) : Option (String × Precedence) :=
  operatorTable.find? fun entry => Ahead.mark entry.1 trees

def assignAhead (trees : List TokenTree) : Bool :=
  Ahead.mark "=" trees && !Ahead.mark "=>" trees

def precedenceAhead (trees : List TokenTree) : Precedence :=
  match operatorAhead trees with
  | some (_, precedence) => precedence
  | none =>
    if assignAhead trees then .assign
    else if Ahead.mark ".." trees then .range
    else .lowest

/-- What may not follow a cast. -/
def isAfterCast (trees : List TokenTree) : Bool :=
  !((Ahead.mark "." trees && !Ahead.mark ".." trees) || Ahead.mark "?" trees ||
    Ahead.group .bracket trees || Ahead.group .paren trees)

/-- Whether an operator comes next that could as well open the arguments of a name. -/
def atOpeningOperator (trees : List TokenTree) : Bool :=
  Ahead.mark "<" trees && !Ahead.mark "<=" trees && !Ahead.mark "<<=" trees

def endsWithName : List TokenTree → Bool
  | .ident text _ :: _ => text != "_"
  | _ => false

/-- Casts of an operand that starts at `before`. Where its type ends with a name that the next
operator could give arguments to, a cast is written out in parentheses. -/
def casts (g : Grammar) (before : Cursor) : Nat → Expr → Parser Expr
  | 0, e => return e
  | budget + 1, e => do
    if !e.isRange && (← ahead (Ahead.word "as")) then
      word "as"
      let target ← g.ty false
      let trees ← rest
      require (isAfterCast trees)
      if atOpeningOperator trees && endsWithName (← get).taken then parenthesize before
      g.casts before budget (.cast e target.parts)
    else
      return e

def castOperand (g : Grammar) (allowStruct : Bool) : Parser Expr := do
  let before ← get
  let e ← g.operand allowStruct
  g.casts before (before.rest.length + 1) e

/-- An operand on the right of an operator, with the operators that bind it more strongly. -/
def rightOperand (g : Grammar) (allowStruct : Bool) (precedence : Precedence) : Parser Expr := do
  let first ← g.castOperand allowStruct
  go ((← rest).length + 1) first
where
  go : Nat → Expr → Parser Expr
    | 0, e => return e
    | budget + 1, e => do
      let next := precedenceAhead (← rest)
      if next.rank > precedence.rank || (next = precedence && precedence = .assign) then
        let before := (← rest).length
        let e ← g.operators allowStruct next e
        if (← rest).length = before then return e else go budget e
      else
        return e

def rangeEndsHere (allowStruct : Bool) (trees : List TokenTree) : Bool :=
  trees.isEmpty || Ahead.mark "," trees || Ahead.mark ";" trees ||
    (Ahead.mark "." trees && !Ahead.mark ".." trees) || Ahead.mark "?" trees ||
    Ahead.mark "=>" trees || (!allowStruct && Ahead.group .brace trees) || Ahead.mark "=" trees ||
    Ahead.mark "+" trees || Ahead.mark "/" trees || Ahead.mark "%" trees || Ahead.mark "^" trees ||
    Ahead.mark ">" trees || Ahead.mark "<=" trees || Ahead.mark "!=" trees ||
    Ahead.mark "-=" trees || Ahead.mark "*=" trees || Ahead.mark "&=" trees ||
    Ahead.mark "|=" trees || Ahead.mark "<<=" trees || Ahead.word "as" trees

def rangeRest (g : Grammar) (allowStruct : Bool) : Parser (List Expr) := do
  require !(Ahead.mark "..." (← rest))
  let closed ← mark? "..="
  if !closed then mark ".."
  if !closed && rangeEndsHere allowStruct (← rest) then
    return []
  else
    return [← g.rightOperand allowStruct .range]

def operatorsPhrase (g : Grammar) (allowStruct : Bool) (base : Precedence) (left : Expr) :
    Parser Expr := do
  go ((← rest).length + 1) left
where
  go : Nat → Expr → Parser Expr
    | 0, left => return left
    | budget + 1, left => do
      if left.isRange then return left
      let trees ← rest
      match operatorAhead trees with
      | some (operator, precedence) =>
        if precedence.rank < base.rank then return left
        require !(precedence = .compare && left.isComparison)
        mark operator
        let right ← g.rightOperand allowStruct precedence
        go budget (.compound (.binary (precedence = .compare)) [left, right])
      | none =>
        if base.rank ≤ Precedence.rank .assign && assignAhead trees then
          mark "="
          let right ← g.rightOperand allowStruct .assign
          go budget (.compound .assign [left, right])
        else if base.rank ≤ Precedence.rank .range && Ahead.mark ".." trees then
          go budget (.compound .range (left :: (← g.rangeRest allowStruct)))
        else
          return left

def exprPhrase (g : Grammar) (allowStruct : Bool) : Parser Expr := do
  let first ← g.castOperand allowStruct
  g.operators allowStruct .lowest first

/-! ### Attributes of expressions -/

/-- Where attributes start, if there are any, and their values. -/
def exprAttributes (g : Grammar) : Parser (Option Position × List Expr) := do
  let start ← position
  let attributes ← g.outerAttributes
  return (if attributes.isEmpty then none else some start, attributeValues attributes)

/-! ### Blocks and control -/

def blockExpr (g : Grammar) (build : List Stmt → Expr) : Parser Expr := do
  let (values, stmts) ← g.attributedBlock
  return (build stmts).withAttributes none values

def ifExpr (g : Grammar) : Nat → Parser Expr
  | 0 => failure
  | budget + 1 => do
    word "if"
    let condition ← g.expr false
    let yes ← g.block
    if ← word? "else" then
      if ← ahead (Ahead.word "if") then
        let no ← g.ifExpr budget
        return .compound .ifElse [condition, .block yes, no]
      else
        let no ← g.block
        return .compound .ifElse [condition, .block yes, .block no]
    else
      return .compound .ifElse [condition, .block yes]

def whileExpr (g : Grammar) : Parser Expr := do
  word "while"
  let condition ← g.expr false
  g.blockExpr fun body => .compound .whileLoop [condition, .block body]

def forExpr (g : Grammar) : Parser Expr := do
  word "for"
  let pattern ← g.patterns
  word "in"
  let iterated ← g.expr false
  g.blockExpr fun body => .forLoop pattern iterated body

def loopExpr (g : Grammar) : Parser Expr := do
  word "loop"
  g.blockExpr fun body => .compound .loop [.block body]

def unsafeExpr (g : Grammar) : Parser Expr := do
  word "unsafe"
  g.blockExpr fun body => .compound .unsafeBlock [.block body]

def constExpr (g : Grammar) : Parser Expr := do
  word "const"
  g.blockExpr fun body => .compound .constBlock [.block body]

def tryBlock (g : Grammar) : Parser Expr := do
  word "try"
  return .compound .tryBlock [.block (← g.block)]

def asyncExpr (g : Grammar) : Parser Expr := do
  word "async"
  let _ ← word? "move"
  return .compound .asyncBlock [.block (← g.block)]

def labelled (g : Grammar) : Parser Expr := do
  lifetime
  mark ":"
  let trees ← rest
  if Ahead.word "while" trees then g.whileExpr
  else if Ahead.word "for" trees then g.forExpr
  else if Ahead.word "loop" trees then g.loopExpr
  else g.blockExpr .block

/-- Behind a block that ends a statement: whether the expression goes on. -/
def goesOn (trees : List TokenTree) : Bool :=
  (Ahead.mark "." trees && !Ahead.mark ".." trees) || Ahead.mark "?" trees

/-! ### Behind an operand -/

def indexTrees (start : Position) (indices : List Nat) : List TokenTree :=
  (indices.map (indexTree start)).intersperse (.punct '.' false start)

def memberRest (g : Grammar) (base : Expr) : Parser Expr := do
  if ← word? "await" then return .await base
  match ← memberName with
  | .index index => return .field base (toString index)
  | .named name =>
    let turbofish ←
      if ← ahead (Ahead.mark "::") then some <$> g.angleArgs else pure none
    if turbofish.isSome || (← ahead (Ahead.group .paren)) then
      let args ← delimited .paren (commaList (g.expr true))
      return .methodCall [] base name ((turbofish.map (·.2)).getD []) args
    else
      return .field base name.text

/-- A member or a method call behind an operand. Members of nested tuples may be read as one number,
as in `pair.0.1`. -/
def memberAccess (g : Grammar) (base : Expr) : Parser Expr := do
  mark "."
  match ← rest with
  | .literal text start :: _ =>
    if Literal.isFloat text then
      let cs := text.toList
      let dotted := cs.getLast? == some '.'
      let parts := (if dotted then cs.dropLast else cs).splitOn '.'
      let indices ← (parts.mapM Literal.index? : Option (List Nat))
      replace 1 (indexTrees start indices)
      let base := indices.foldl (fun base index => .field base (toString index)) base
      if dotted then
        replace 0 [.punct '.' false start]
        g.memberRest base
      else
        return base
    else
      g.memberRest base
  | _ => g.memberRest base

def suffixes (g : Grammar) (start : Position) : Nat → Expr → Parser Expr
  | 0, e => return e
  | budget + 1, e => do
    let trees ← rest
    if Ahead.group .paren trees then
      let args ← delimited .paren (commaList (g.expr true))
      g.suffixes start budget (.call start e args)
    else if e.isRange then
      return e
    else if Ahead.mark "." trees && !Ahead.mark ".." trees then
      g.suffixes start budget (← g.memberAccess e)
    else if Ahead.mark "?" trees then
      mark "?"
      g.suffixes start budget (.tryOp e)
    else if Ahead.group .bracket trees then
      let index ← delimited .bracket (g.expr true)
      g.suffixes start budget (.compound .index [e, index])
    else
      return e

def withSuffixes (g : Grammar) (start : Position) (e : Expr) : Parser Expr := do
  g.suffixes start ((← rest).length + 1) e

/-! ### Operands -/

/-- The fields of a struct literal, and what the others are taken from. -/
def fieldValues (g : Grammar) : Nat → Parser (List Expr)
  | 0 => failure
  | budget + 1 => do
    if ← isEmpty then return []
    if ← mark? ".." then
      if ← isEmpty then return [] else return [← g.expr true]
    let values := attributeValues (← g.outerAttributes)
    let field ←
      match ← memberName with
      | .named name =>
        if ← mark? ":" then g.expr true else pure (.path { names := [name.text] })
      | .index _ =>
        mark ":"
        g.expr true
    if ← isEmpty then return values ++ [field]
    mark ","
    return values ++ field :: (← g.fieldValues budget)

def pathExpr (g : Grammar) (allowStruct : Bool) : Parser Expr := do
  let found ← g.qualifiedPath true
  let trees ← rest
  if found.selfParts.isNone && atBang trees && found.path.isPlain then
    let (braced, args) ← g.macroCall found.path.names
    return .invocation args braced
  else if allowStruct && Ahead.group .brace trees then
    let fields ← delimited .brace (do g.fieldValues ((← rest).length + 1))
    return .compound .structLiteral (found.parts ++ fields)
  else
    return .path found.exprPath

def parenExpr (g : Grammar) : Parser Expr := do
  let (elements, trailing) ←
    delimited .paren (do separatedUpTo ((← rest).length + 1) "," List.isEmpty (g.expr true))
  match elements, trailing with
  | [element], false => return .paren element
  | _, _ => return .compound .tuple elements

def bracketExpr (g : Grammar) : Parser Expr :=
  delimited .bracket do
    if ← isEmpty then return .compound .array []
    let first ← g.expr true
    if ← isEmpty then return .compound .array [first]
    if ← mark? ";" then
      return .compound .repetition [first, ← g.expr true]
    else
      mark ","
      return .compound .array (first :: (← commaList (g.expr true)))

def exprStart (trees : List TokenTree) : Bool :=
  (Ahead.anyWord trees && !Ahead.word "as" trees) || Ahead.group .paren trees ||
    Ahead.group .bracket trees || Ahead.group .brace trees || Ahead.literal trees ||
    (Ahead.mark "!" trees && !Ahead.mark "!=" trees) ||
    (Ahead.mark "-" trees && !Ahead.mark "-=" trees && !Ahead.mark "->" trees) ||
    (Ahead.mark "*" trees && !Ahead.mark "*=" trees) ||
    (Ahead.mark "|" trees && !Ahead.mark "|=" trees) ||
    (Ahead.mark "&" trees && !Ahead.mark "&=" trees) || Ahead.mark ".." trees ||
    (Ahead.mark "<" trees && !Ahead.mark "<=" trees && !Ahead.mark "<<=" trees) ||
    Ahead.mark "::" trees || Ahead.lifetime trees || Ahead.mark "#" trees

def breakExpr (g : Grammar) (allowStruct : Bool) : Parser Expr := do
  word "break"
  if ← lifetime? then
    require !(Ahead.mark ":" (← rest))
  let trees ← rest
  if exprStart trees && (allowStruct || !Ahead.group .brace trees) then
    return .compound .breakOut [← g.expr true]
  else
    return .compound .breakOut []

def returnExpr (g : Grammar) : Parser Expr := do
  word "return"
  if ← ahead exprStart then
    return .compound .returnOut [← g.expr true]
  else
    return .compound .returnOut []

def yieldExpr (g : Grammar) : Parser Expr := do
  word "yield"
  if ← ahead exprStart then
    return .compound .yieldOut [← g.expr true]
  else
    return .compound .yieldOut []

def letExpr (g : Grammar) (allowStruct : Bool) : Parser Expr := do
  word "let"
  let pattern ← g.patterns
  mark "="
  let first ← g.castOperand allowStruct
  return .letIs pattern (← g.operators allowStruct .compare first)

def matchArm (g : Grammar) : Parser Arm := do
  let values := attributeValues (← g.outerAttributes)
  let pattern ← g.patterns
  let guard ← if ← word? "if" then some <$> g.expr true else pure none
  mark "=>"
  let result ← g.statementExpr
  if !result.endsArm && !(← isEmpty) then
    mark ","
  else
    let _ ← mark? ","
  return .mk values pattern guard result

def matchExpr (g : Grammar) : Parser Expr := do
  word "match"
  let scrutinee ← g.expr false
  delimited .brace do
    let values := attributeValues (← g.innerAttributes)
    let arms ← repeatWhile (fun trees => !trees.isEmpty) g.matchArm
    return (Expr.matchOn scrutinee arms).withAttributes none values

/-- A parameter of a closure. A pattern for a box without a type loses its attributes. -/
def closureParam (g : Grammar) : Parser Pattern := do
  let before ← get
  let _ ← g.outerAttributes
  let boxed ← ahead (Ahead.word "box")
  let (pattern, trees) ← written g.pattern
  if ← mark? ":" then
    let _ ← g.ty true
    return .typed pattern
  else
    if boxed then writeOut before trees
    return pattern

def closureExpr (g : Grammar) (allowStruct : Bool) : Parser Expr := do
  let binder ← g.binder?
  let typeParts := binder.getD []
  let _ ← word? "const"
  let _ ← word? "static"
  let _ ← word? "async"
  let _ ← word? "move"
  mark "|"
  let inputs ← separated "," (Ahead.mark "|") g.closureParam
  mark "|"
  if ← mark? "->" then
    let result ← g.ty true
    return .closure inputs (typeParts ++ result.parts) (.block (← g.block))
  else
    return .closure inputs typeParts (← g.expr allowStruct)

def atClosure (trees : List TokenTree) : Bool :=
  let second := Ahead.next trees
  Ahead.mark "|" trees || Ahead.word "move" trees ||
    (Ahead.word "for" trees && atParams second) ||
    (Ahead.word "const" trees && !Ahead.group .brace second) || Ahead.word "static" trees ||
    (Ahead.word "async" trees && (Ahead.mark "|" second || Ahead.word "move" second))

def atom (g : Grammar) (allowStruct : Bool) : Parser Expr := do
  let trees ← rest
  let second := Ahead.next trees
  if Ahead.literal trees then
    return .literal (← literal)
  else if Ahead.word "async" trees &&
      (Ahead.group .brace second ||
        (Ahead.word "move" second && Ahead.group .brace (Ahead.next second))) then
    g.asyncExpr
  else if Ahead.word "try" trees && Ahead.group .brace second then
    g.tryBlock
  else if atClosure trees then
    g.closureExpr allowStruct
  else if atBuiltin trees then
    builtinCall
    return .compound .unread []
  else if Ahead.pathStart trees ||
      (Ahead.word "try" trees && (Ahead.mark "!" second || Ahead.mark "::" second)) then
    g.pathExpr allowStruct
  else if Ahead.group .paren trees then
    g.parenExpr
  else if Ahead.word "break" trees then
    g.breakExpr allowStruct
  else if Ahead.word "continue" trees then
    word "continue"
    let _ ← lifetime?
    return .compound .continueOn []
  else if Ahead.word "return" trees then
    g.returnExpr
  else if Ahead.word "become" trees then
    let _ ← verbatim (do word "become"; g.expr true)
    return .compound .unread []
  else if Ahead.group .bracket trees then
    g.bracketExpr
  else if Ahead.word "let" trees then
    g.letExpr allowStruct
  else if Ahead.word "if" trees then
    g.ifExpr (trees.length + 1)
  else if Ahead.word "while" trees then
    g.whileExpr
  else if Ahead.word "for" trees then
    g.forExpr
  else if Ahead.word "loop" trees then
    g.loopExpr
  else if Ahead.word "match" trees then
    g.matchExpr
  else if Ahead.word "yield" trees then
    g.yieldExpr
  else if Ahead.word "unsafe" trees then
    g.unsafeExpr
  else if Ahead.word "const" trees then
    g.constExpr
  else if Ahead.group .brace trees then
    g.blockExpr .block
  else if Ahead.mark ".." trees then
    return .compound .range (← g.rangeRest allowStruct)
  else if Ahead.word "_" trees then
    word "_"
    return .compound .infer []
  else if Ahead.lifetime trees then
    g.labelled
  else
    failure

def blockLike? (g : Grammar) (trees : List TokenTree) : Option (Parser Expr) :=
  let second := Ahead.next trees
  if Ahead.word "if" trees then some (g.ifExpr (trees.length + 1))
  else if Ahead.word "while" trees then some g.whileExpr
  else if Ahead.word "for" trees && !atParams second then some g.forExpr
  else if Ahead.word "loop" trees then some g.loopExpr
  else if Ahead.word "match" trees then some g.matchExpr
  else if Ahead.word "try" trees && Ahead.group .brace second then some g.tryBlock
  else if Ahead.word "unsafe" trees then some g.unsafeExpr
  else if Ahead.word "const" trees && Ahead.group .brace second then some g.constExpr
  else if Ahead.group .brace trees then some (g.blockExpr .block)
  else if Ahead.lifetime trees then some g.labelled
  else none

/-- An expression that a block ends, unless a point or a question mark follows. One that is kept as
it stands in the source loses its attributes. -/
def statementExprPhrase (g : Grammar) : Parser Expr := do
  let before ← get
  let (attrStart, values) ← g.exprAttributes
  let trees ← rest
  let start ← position
  match g.blockLike? trees with
  | some phrase =>
    let e ← phrase
    if ← ahead goesOn then
      let e ← g.withSuffixes start e
      finish before (e.withAttributes attrStart values)
    else
      return e.withAttributes attrStart values
  | none =>
    let (e, trees) ← written (g.operand true)
    if e.isUnread then writeOut before trees
    finish before (e.withAttributes attrStart values)
where
  finish (before : Cursor) (e : Expr) : Parser Expr := do
    let e ← g.casts before ((← rest).length + 1) e
    g.operators true .lowest e

def operandPhrase (g : Grammar) (allowStruct : Bool) : Parser Expr := do
  let before ← get
  let (attrStart, values) ← g.exprAttributes
  let trees ← rest
  if ← mark? "&" then
    let second := Ahead.next (← rest)
    if Ahead.word "raw" (← rest) && (Ahead.word "mut" second || Ahead.word "const" second) then
      word "raw"
      if !(← word? "mut") then word "const"
      let operand ← g.operand allowStruct
      return (Expr.compound .rawAddress [operand]).withAttributes attrStart values
    else
      let _ ← word? "mut"
      let operand ← g.operand allowStruct
      return (Expr.reference operand).withAttributes attrStart values
  else if Ahead.mark "*" trees then
    mark "*"
    return (Expr.unary .deref (← g.operand allowStruct)).withAttributes attrStart values
  else if Ahead.mark "!" trees then
    mark "!"
    return (Expr.unary .not (← g.operand allowStruct)).withAttributes attrStart values
  else if Ahead.mark "-" trees then
    mark "-"
    return (Expr.unary .neg (← g.operand allowStruct)).withAttributes attrStart values
  else
    let start ← position
    let e ← g.atom allowStruct
    let e ← g.withSuffixes start e
    require !(attrStart.isSome && e.isRange)
    if e.isUnread then keepSource before
    return e.withAttributes attrStart values

end Grammar

end EndpointInference.Syntax

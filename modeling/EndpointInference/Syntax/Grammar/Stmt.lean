import EndpointInference.Syntax.Grammar.Expr

/-!
Statements. A block in braces ends a statement; other expressions end with a semicolon, unless they
are the last of their block.
-/

namespace EndpointInference.Syntax

namespace Grammar

open EndpointInference.Syntax.Parser

def atItem (trees : List TokenTree) : Bool :=
  let second := Ahead.next trees
  let third := Ahead.next second
  let word (text : String) := Ahead.word text trees
  let word2 (text : String) := Ahead.word text second
  let word3 (text : String) := Ahead.word text third
  word "pub" || (word "crate" && !Ahead.mark "::" second) || word "extern" || word "use" ||
    (word "static" && (word2 "mut" || Ahead.name second)) ||
    (word "const" &&
      !(Ahead.group .brace second || word2 "static" ||
        (word2 "async" && !(word3 "unsafe" || word3 "extern" || word3 "fn")) ||
        word2 "move" || Ahead.mark "|" second)) ||
    (word "unsafe" && !Ahead.group .brace second) ||
    (word "async" && (word2 "unsafe" || word2 "extern" || word2 "fn")) || word "fn" ||
    word "mod" || word "type" || word "struct" || word "enum" ||
    (word "union" && Ahead.name second) || (word "auto" && word2 "trait") || word "trait" ||
    (word "default" && (word2 "unsafe" || word2 "impl")) || word "impl" || word "macro"

inductive MacroStart
  /-- A declaration by a macro, with a name behind the mark. -/
  | item
  /-- A call with braces, which is a statement. -/
  | statement
  | neither

def macroStart : Parser MacroStart := do
  match ← lookAhead (do let _ ← plainPath; rest) with
  | some trees =>
    let second := Ahead.next trees
    let third := Ahead.next second
    if !Ahead.mark "!" trees then return .neither
    else if Ahead.name second || Ahead.word "try" second then return .item
    else if Ahead.group .brace second && !goesOn third then return .statement
    else return .neither
  | none => return .neither

/-- `let`, with a block for a pattern that does not match; that block may not follow another. -/
def letStmt (g : Grammar) (values : List Expr) : Parser Stmt := do
  word "let"
  let pattern ← g.pattern
  let pattern ←
    if ← mark? ":" then do
      let _ ← g.ty true
      pure (Pattern.typed pattern)
    else pure pattern
  let (init, otherwise) ←
    if ← mark? "=" then do
      let init ← g.expr true
      let braced := Ahead.group .brace ((← get).taken.take 1)
      if !braced && (← ahead (Ahead.word "else")) then do
        word "else"
        let otherwise ← g.block
        pure (some init, some (Expr.block otherwise))
      else pure (some init, none)
    else pure (none, none)
  mark ";"
  return .letBinding values pattern init otherwise

/-- An expression as a statement that starts at `before`. Attributes are lost where they would stand
on an operand that is kept as it stands in the source. -/
def exprStmt (g : Grammar) (before : Cursor) (attrStart : Option Position) (values : List Expr) :
    Parser Stmt := do
  let (e, trees) ← written g.statementExpr
  if e.leftmost.isUnread then writeOut before trees
  let e := e.attributeLeftmost attrStart values
  let ended ← mark? ";"
  require (ended || e.endsStatement || (← isEmpty))
  return .expr e

def itemStmt (g : Grammar) (before : Cursor) : Parser Stmt := do
  set before
  let (_, trees) ← written g.item
  return .item trees

def stmt (g : Grammar) : Parser Stmt := do
  let before ← get
  let (attrStart, values) ← g.exprAttributes
  let trees ← rest
  match ← macroStart with
  | .statement =>
    let (_, names) ← plainPath
    let (braced, args) ← g.macroCall names
    let _ ← mark? ";"
    return .expr ((Expr.invocation args braced).withAttributes attrStart values)
  | .item => g.itemStmt before
  | .neither =>
    if Ahead.word "let" trees then
      g.letStmt values
    else if atItem trees then
      g.itemStmt before
    else
      g.exprStmt before attrStart values

def stmtsPhrase (g : Grammar) : Parser (List Stmt) :=
  repeatWhile (fun trees => !trees.isEmpty) do
    if ← mark? ";" then return .empty else g.stmt

end Grammar

end EndpointInference.Syntax

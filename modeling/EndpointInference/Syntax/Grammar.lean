import EndpointInference.Syntax.Grammar.Item
import EndpointInference.Syntax.Grammar.Pattern
import EndpointInference.Syntax.Grammar.Stmt
import EndpointInference.Syntax.Token.Lexer

/-!
The grammar closed over itself, and the two things that are read with it: the declarations of a
file, and a single expression.

Phrases stand inside one another to any depth, so the grammar is built in levels, each of which
uses the one below it. Three steps down take a token, so four levels for each, with a margin, are
never used up (`Grammar.readAll_fileItems_ofDepth`, `Grammar.readAll_expr_ofDepth`).
-/

namespace EndpointInference.Syntax

namespace Grammar

def ofDepth : Nat → Grammar
  | 0 => .empty
  | depth + 1 =>
    { expr := fun allowStruct => (ofDepth depth).exprPhrase allowStruct
      operand := fun allowStruct => (ofDepth depth).operandPhrase allowStruct
      operators := fun allowStruct base left =>
        (ofDepth depth).operatorsPhrase allowStruct base left
      statementExpr := fun cursor => (ofDepth depth).statementExprPhrase cursor
      ty := fun allowPlus => (ofDepth depth).tyPhrase allowPlus
      bound := fun place => (ofDepth depth).boundPhrase place
      pattern := fun cursor => (ofDepth depth).patternPhrase cursor
      patterns := fun cursor => (ofDepth depth).patternsPhrase cursor
      stmts := fun cursor => (ofDepth depth).stmtsPhrase cursor
      item := fun cursor => (ofDepth depth).itemPhrase cursor }

def ofTokens (trees : List TokenTree) : Grammar :=
  ofDepth (4 * TokenTree.listSize trees + 16)

end Grammar

def parseFile? (source : String) : Option (List Item) := do
  let trees ← Lexer.fileTokens? source
  Parser.readAll (Grammar.ofTokens trees).fileItems trees

def parseExpr? (source : String) : Option Expr := do
  let trees ← Lexer.tokens? source.toList
  Parser.readAll ((Grammar.ofTokens trees).expr true) trees

end EndpointInference.Syntax

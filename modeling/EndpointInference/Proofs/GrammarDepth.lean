import EndpointInference.Proofs.GrammarAgreement

/-!
# The levels of the grammar are never used up

A phrase takes a token at most three levels down: statements start with an expression, an expression
with an operand, and an operand takes a token before it uses the level below. So three levels more
make the grammar agree with deeper ones on one token more, and a grammar with enough levels for the
tokens of a text reads it as any deeper one does. Tokens inside a macro call are among those of the
text around it, so its arguments are read in full at any depth.
-/

namespace EndpointInference.Syntax.Grammar

open EndpointInference.Syntax.Parser

-- ---------------------------------------------------------------------------
-- Levels
-- ---------------------------------------------------------------------------

section
variable {n : Nat} {taken : Bool} {d d' : Nat} [Alike n (ofDepth d) (ofDepth d')]

-- phrases that take a token before they use the level below

instance (allowStruct : Bool) :
    Agree n taken ((ofDepth (d + 1)).operand allowStruct)
      ((ofDepth (d' + 1)).operand allowStruct) :=
  inferInstanceAs (Agree n taken ((ofDepth d).operandPhrase allowStruct)
    ((ofDepth d').operandPhrase allowStruct))

instance (allowStruct : Bool) (base : Precedence) (left : Expr) :
    Agree n taken ((ofDepth (d + 1)).operators allowStruct base left)
      ((ofDepth (d' + 1)).operators allowStruct base left) :=
  inferInstanceAs (Agree n taken ((ofDepth d).operatorsPhrase allowStruct base left)
    ((ofDepth d').operatorsPhrase allowStruct base left))

instance (place : BoundPlace) :
    Agree n taken ((ofDepth (d + 1)).bound place) ((ofDepth (d' + 1)).bound place) :=
  inferInstanceAs (Agree n taken ((ofDepth d).boundPhrase place)
    ((ofDepth d').boundPhrase place))

instance : Agree n taken (ofDepth (d + 1)).pattern (ofDepth (d' + 1)).pattern :=
  inferInstanceAs (Agree n taken (ofDepth d).patternPhrase (ofDepth d').patternPhrase)

instance : Agree n taken (ofDepth (d + 1)).item (ofDepth (d' + 1)).item :=
  inferInstanceAs (Agree n taken (ofDepth d).itemPhrase (ofDepth d').itemPhrase)

-- phrases that use one of those before they take a token

variable [Alike n (ofDepth (d + 1)) (ofDepth (d' + 1))]

instance (allowStruct : Bool) :
    Agree n taken ((ofDepth (d + 2)).expr allowStruct)
      ((ofDepth (d' + 2)).expr allowStruct) :=
  inferInstanceAs (Agree n taken ((ofDepth (d + 1)).exprPhrase allowStruct)
    ((ofDepth (d' + 1)).exprPhrase allowStruct))

instance : Agree n taken (ofDepth (d + 2)).statementExpr
    (ofDepth (d' + 2)).statementExpr :=
  inferInstanceAs (Agree n taken (ofDepth (d + 1)).statementExprPhrase
    (ofDepth (d' + 1)).statementExprPhrase)

instance (allowPlus : Bool) :
    Agree n taken ((ofDepth (d + 2)).ty allowPlus) ((ofDepth (d' + 2)).ty allowPlus) :=
  inferInstanceAs (Agree n taken ((ofDepth (d + 1)).tyPhrase allowPlus)
    ((ofDepth (d' + 1)).tyPhrase allowPlus))

instance : Agree n taken (ofDepth (d + 2)).patterns (ofDepth (d' + 2)).patterns :=
  inferInstanceAs (Agree n taken (ofDepth (d + 1)).patternsPhrase
    (ofDepth (d' + 1)).patternsPhrase)

variable [Alike n (ofDepth (d + 2)) (ofDepth (d' + 2))]

instance : Agree n taken (ofDepth (d + 3)).stmts (ofDepth (d' + 3)).stmts :=
  inferInstanceAs (Agree n taken (ofDepth (d + 2)).stmtsPhrase
    (ofDepth (d' + 2)).stmtsPhrase)

theorem alike_succ : Alike (n + 1) (ofDepth (d + 3)) (ofDepth (d' + 3)) where
  expr _ := .succ inferInstance
  operand _ := .succ inferInstance
  operators _ _ _ := .succ inferInstance
  statementExpr := .succ inferInstance
  ty _ := .succ inferInstance
  bound _ := .succ inferInstance
  pattern := .succ inferInstance
  patterns := .succ inferInstance
  stmts := .succ inferInstance
  item := .succ inferInstance

end

theorem alike_ofDepth (n : Nat) {d d' : Nat} (hd : 3 * n ≤ d) (hd' : 3 * n ≤ d') :
    Alike n (ofDepth d) (ofDepth d') := by
  -- for all depths at once, as the next token needs the three levels below
  induction n generalizing d d' with
  | zero => constructor <;> intros <;> exact .zero
  | succ n ih =>
    obtain ⟨d, rfl⟩ := Nat.exists_eq_add_of_le' (show 3 ≤ d by omega)
    obtain ⟨d', rfl⟩ := Nat.exists_eq_add_of_le' (show 3 ≤ d' by omega)
    have h : Alike n (ofDepth d) (ofDepth d') := ih (by omega) (by omega)
    have h₁ : Alike n (ofDepth (d + 1)) (ofDepth (d' + 1)) := ih (by omega) (by omega)
    have h₂ : Alike n (ofDepth (d + 2)) (ofDepth (d' + 2)) := ih (by omega) (by omega)
    exact alike_succ

-- ---------------------------------------------------------------------------
-- Whole texts
-- ---------------------------------------------------------------------------

/-- What a macro call is given reads the same wherever the call stands: the levels that are left
there, if there are three for each token and three more, do not matter. -/
theorem macroArguments_ofDepth (names : List String) {tokens : List TokenTree} {depth : Nat}
    (h : 3 * (TokenTree.listSize tokens + 1) ≤ depth) :
    (ofDepth depth).macroArguments names tokens = (ofTokens tokens).macroArguments names tokens :=
  (alike_ofDepth _ h (by omega)).macroArguments_eq names (Nat.lt_succ_self _)

theorem readAll_fileItems_ofDepth {trees : List TokenTree} {depth : Nat}
    (h : 4 * TokenTree.listSize trees + 16 ≤ depth) :
    readAll (ofDepth depth).fileItems trees = readAll (ofTokens trees).fileItems trees := by
  have halike : Alike (TokenTree.listSize trees + 1) (ofDepth depth) (ofTokens trees) :=
    alike_ofDepth _ (by omega) (by omega)
  exact Agree.readAll_eq inferInstance (Nat.lt_succ_self _)

theorem readAll_expr_ofDepth {trees : List TokenTree} {depth : Nat} (allowStruct : Bool)
    (h : 4 * TokenTree.listSize trees + 16 ≤ depth) :
    readAll ((ofDepth depth).expr allowStruct) trees =
      readAll ((ofTokens trees).expr allowStruct) trees := by
  have halike : Alike (TokenTree.listSize trees + 1) (ofDepth depth) (ofTokens trees) :=
    alike_ofDepth _ (by omega) (by omega)
  exact (halike.expr allowStruct).readAll_eq (Nat.lt_succ_self _)

end EndpointInference.Syntax.Grammar

import EndpointInference.Proofs.PhraseAgreement

/-!
# Grammars that agree on few tokens

Each phrase of the grammar uses others only behind a token or inside a group, but for the few that
start with another phrase. So where two grammars agree up to `n`, what is built from them does too,
and up to one token more where it starts with a token of its own. Phrases that start with another
one have that as a hypothesis, or are only considered behind a token.
-/

namespace EndpointInference.Syntax.Grammar

open EndpointInference.Syntax.Parser

-- An instance is as large as the phrase that it is found for. What follows a choice without an
-- `else` is a function of its own at first; `dsimp only` puts it behind both ways.
set_option synthInstance.maxSize 40000

-- ---------------------------------------------------------------------------
-- Phrases without recursion
-- ---------------------------------------------------------------------------

section
variable {n : Nat} {taken : Bool}

instance : Agree n taken plainPath plainPath := by
  unfold plainPath
  dsimp only
  infer_instance

instance : Agree n taken memberName memberName := by
  unfold memberName
  exact .andThen fun trees => by split <;> infer_instance

instance (priority := high) {β : Type} {p p' : Parser MemberName} {f f' : MemberName → Parser β}
    [Agree n taken p p'] [hn : ∀ name, Agree n taken (f (.named name)) (f' (.named name))]
    [hi : ∀ index, Agree n taken (f (.index index)) (f' (.index index))] :
    Agree n taken (p >>= f) (p' >>= f') :=
  .andThen fun found => match found with
    | .named name => hn name
    | .index index => hi index

instance : Takes builtinCall := by unfold builtinCall; infer_instance

instance (more : List TokenTree → Bool) (budget : Nat) :
    Agree n taken (lifetimesWhile.go more budget) (lifetimesWhile.go more budget) := by
  induction budget generalizing taken with
  | zero => exact inferInstanceAs (Agree n taken failure failure)
  | succ budget ih =>
    unfold lifetimesWhile.go
    infer_instance

instance (more : List TokenTree → Bool) :
    Agree n taken (lifetimesWhile more) (lifetimesWhile more) := by
  unfold lifetimesWhile
  infer_instance

instance (ends : List TokenTree → Bool) : Agree n taken (boundColon? ends) (boundColon? ends) := by
  unfold boundColon?
  infer_instance

instance : Agree n taken lifetimeParam lifetimeParam := by unfold lifetimeParam; infer_instance

instance (allowPlus : Bool) : TakesIf (plus? allowPlus) := by
  cases allowPlus with
  | true => exact inferInstanceAs (TakesIf (mark? "+"))
  | false =>
    exact ⟨fun h => by cases h; exact Nat.le_refl _, nofun⟩

instance : Agree n taken convention? convention? := by
  unfold convention?
  dsimp only
  refine .andThen fun found => ?_
  split
  · exact .andThen fun trees => by split <;> infer_instance
  · infer_instance

instance : Agree n taken (rangeMark allowObsolete) (rangeMark allowObsolete) := by
  unfold rangeMark
  infer_instance

instance : Agree n taken macroStart macroStart := by unfold macroStart; infer_instance

instance : Agree n taken restriction restriction := by unfold restriction; infer_instance

instance : Agree n taken visibility visibility := by unfold visibility; infer_instance

instance : Agree n taken (fnQualifiers allowSafe) (fnQualifiers allowSafe) := by
  unfold fnQualifiers
  infer_instance

instance : Agree n taken (signatureAhead allowSafe) (signatureAhead allowSafe) := by
  unfold signatureAhead
  infer_instance

instance : Agree n taken atSignature atSignature := by unfold atSignature; infer_instance

instance : Agree n taken (macroItem allowName) (macroItem allowName) := by
  unfold macroItem
  dsimp only
  infer_instance

instance (budget : Nat) (allowGlobal : Bool) :
    Agree n true (useTree budget allowGlobal) (useTree budget allowGlobal) := by
  induction budget generalizing allowGlobal with
  | zero => exact inferInstanceAs (Agree n true failure failure)
  | succ budget ih =>
    unfold useTree
    dsimp only
    infer_instance

instance : Agree n taken useItem useItem := by unfold useItem; infer_instance

instance : Agree n taken libraryItem libraryItem := by
  unfold libraryItem
  dsimp only
  infer_instance

instance : Agree n taken macroDeclaration macroDeclaration := by
  unfold macroDeclaration
  dsimp only
  infer_instance

variable {α : Type} {p p' : Parser α}

instance [Agree n true p p'] (budget : Nat) :
    Agree n true (listedUpTo p budget) (listedUpTo p' budget) := by
  induction budget with
  | zero => exact inferInstanceAs (Agree n true failure failure)
  | succ budget ih =>
    unfold listedUpTo
    infer_instance

instance [Agree n true p p'] (isLifetime : α → Bool) :
    Agree n taken (angleList isLifetime p) (angleList isLifetime p') := by
  unfold angleList
  infer_instance

instance : Agree n taken capture capture := by unfold capture; infer_instance

instance {p p' : Parser TyPhrase} [Agree n taken p p'] :
    Agree n taken (writtenTy p) (writtenTy p') := by
  unfold writtenTy
  infer_instance

instance {p p' : Parser (List BoundPhrase)} [Agree n taken p p'] :
    Agree n taken (someTrait p) (someTrait p') := by
  unfold someTrait
  infer_instance

end

-- ---------------------------------------------------------------------------
-- Grammars
-- ---------------------------------------------------------------------------

/-- Two grammars whose phrases read the same from fewer than `n` tokens. -/
class Alike (n : Nat) (g g' : Grammar) : Prop where
  expr : ∀ allowStruct, Agree n true (g.expr allowStruct) (g'.expr allowStruct)
  operand : ∀ allowStruct, Agree n true (g.operand allowStruct) (g'.operand allowStruct)
  operators : ∀ allowStruct base left,
    Agree n true (g.operators allowStruct base left) (g'.operators allowStruct base left)
  statementExpr : Agree n true g.statementExpr g'.statementExpr
  ty : ∀ allowPlus, Agree n true (g.ty allowPlus) (g'.ty allowPlus)
  bound : ∀ place, Agree n true (g.bound place) (g'.bound place)
  pattern : Agree n true g.pattern g'.pattern
  patterns : Agree n true g.patterns g'.patterns
  stmts : Agree n true g.stmts g'.stmts
  item : Agree n true g.item g'.item

attribute [instance] Alike.expr Alike.operand Alike.operators Alike.statementExpr Alike.ty
  Alike.bound Alike.pattern Alike.patterns Alike.stmts Alike.item

section
variable {n : Nat} {taken : Bool} {g g' : Grammar} [h : Alike n g g']

-- ---------------------------------------------------------------------------
-- Attributes, blocks and macro calls
-- ---------------------------------------------------------------------------

instance : Agree n true g.attributeValue g'.attributeValue := by
  have hliteral : Agree n true literal literal := inferInstance
  have hexpression : Agree n true (attributeValue.expression g)
      (attributeValue.expression g') := by
    unfold attributeValue.expression
    infer_instance
  refine ⟨fun size hs before hb => ?_⟩
  unfold attributeValue SameAt
  dsimp only
  split
  · next value after hr =>
    split
    · refine ⟨rfl, ?_⟩
      rintro _ _ ⟨⟩
      exact (hliteral.same size hs before hb).2 value after hr
    · exact hexpression.same size hs before hb
  · exact hexpression.same size hs before hb

instance : Agree n true g.attributeArgs g'.attributeArgs := by
  unfold attributeArgs
  exact .andThen fun trees => by split <;> infer_instance

instance : Agree n true g.attributeBody g'.attributeBody := by
  unfold attributeBody
  dsimp only
  infer_instance

instance : Agree n taken g.outerAttributes g'.outerAttributes := by
  unfold outerAttributes
  infer_instance

instance : Agree n taken g.innerAttributes g'.innerAttributes := by
  unfold innerAttributes
  infer_instance

instance : Agree n taken g.block g'.block := by unfold block; infer_instance

instance : Agree n taken g.attributedBlock g'.attributedBlock := by
  unfold attributedBlock
  infer_instance

omit h in
theorem Alike.macroArguments_eq (h : Alike n g g') (names : List String)
    {tokens : List TokenTree} (hn : TokenTree.listSize tokens < n) :
    g.macroArguments names tokens = g'.macroArguments names tokens := by
  have hexpr : g.expr true ⟨tokens, []⟩ = g'.expr true ⟨tokens, []⟩ :=
    ((h.expr true).same _ (.inl hn) ⟨tokens, []⟩ (Nat.le_refl _)).1
  have hlist : readAll (commaList (g.expr true)) tokens =
      readAll (commaList (g'.expr true)) tokens := Agree.readAll_eq inferInstance hn
  simp only [macroArguments, hexpr, hlist]

theorem listSize_anyGroup (h : anyGroup before = some ((delimiter, tokens), after)) :
    TokenTree.listSize tokens < before.size := by
  obtain ⟨tree, between, ht, h⟩ := bind_eq_some.mp h
  unfold token at ht
  split at ht
  · next hr =>
    cases ht
    split at h
    · cases h
      simp only [Cursor.size, hr, TokenTree.listSize, TokenTree.size]
      omega
    · cases h
  · cases ht

/-- The arguments of a macro call are read from fewer tokens than there are at its mark. -/
instance (names : List String) : Agree n taken (g.macroCall names) (g'.macroCall names) := by
  refine ⟨fun size hs before hb => .bind rfl fun _ behind hm => ?_⟩
  have hmark : behind.size < before.size := Takes.size_lt hm
  refine .bind rfl fun ⟨delimiter, tokens⟩ after ha => ?_
  have hafter : after.size < behind.size := Takes.size_lt ha
  have htokens : TokenTree.listSize tokens < behind.size := listSize_anyGroup ha
  have heq : g.macroArguments names tokens = g'.macroArguments names tokens :=
    h.macroArguments_eq names (by omega)
  refine ⟨by simp only [heq], ?_⟩
  rintro _ _ ⟨⟩
  omega

-- ---------------------------------------------------------------------------
-- Paths
-- ---------------------------------------------------------------------------

instance : Agree n taken g.constArgument g'.constArgument := by unfold constArgument; infer_instance

instance (place : BoundPlace) (more : List TokenTree → Bool) (budget : Nat) :
    Agree n true (boundsWhile.go g place more budget)
      (boundsWhile.go g' place more budget) := by
  induction budget with
  | zero => exact inferInstanceAs (Agree n true failure failure)
  | succ budget ih =>
    unfold boundsWhile.go
    infer_instance

instance (place : BoundPlace) (more : List TokenTree → Bool) :
    Agree n true (g.boundsWhile place more) (g'.boundsWhile place more) := by
  unfold boundsWhile
  infer_instance

instance : Agree n true g.angleArg g'.angleArg := by unfold angleArg; infer_instance

instance : Agree n taken g.angleArgs g'.angleArgs := by unfold angleArgs; infer_instance

instance (exprStyle : Bool) : Agree n taken (g.segment exprStyle) (g'.segment exprStyle) := by
  unfold segment
  infer_instance

instance (exprStyle : Bool) :
    Agree n taken (g.moreSegments exprStyle) (g'.moreSegments exprStyle) := by
  unfold moreSegments
  infer_instance

instance (exprStyle : Bool) : Agree n taken (g.path exprStyle) (g'.path exprStyle) := by
  unfold path
  infer_instance

instance (exprStyle : Bool) :
    Agree n taken (g.qualifiedPath exprStyle) (g'.qualifiedPath exprStyle) := by
  unfold qualifiedPath
  infer_instance

-- ---------------------------------------------------------------------------
-- Parameters, bounds and conditions
-- ---------------------------------------------------------------------------

instance (allowPlus : Bool) : Agree n taken (g.output allowPlus) (g'.output allowPlus) := by
  unfold output
  infer_instance

instance : Agree n taken g.typeParam g'.typeParam := by
  unfold typeParam
  dsimp only
  infer_instance

instance : Agree n taken g.constParam g'.constParam := by unfold constParam; infer_instance

instance (allowBlank : Bool) :
    Agree n taken (g.genericParam allowBlank) (g'.genericParam allowBlank) := by
  unfold genericParam
  infer_instance

instance : Agree n taken g.genericParams g'.genericParams := by unfold genericParams; infer_instance

instance : Agree n taken g.binder? g'.binder? := by unfold binder?; infer_instance

instance : Agree n taken g.parenArgs g'.parenArgs := by
  unfold parenArgs
  dsimp only
  infer_instance

instance : Agree n taken g.traitPath g'.traitPath := by
  unfold traitPath
  refine .andThen fun path => ?_
  split
  · have hdrop : Agree n taken
        (modify fun cursor => { cursor with taken := cursor.taken.dropWhile TokenTree.isPunct })
        (modify fun cursor => { cursor with taken := cursor.taken.dropWhile TokenTree.isPunct }) :=
      .modify fun _ => Nat.le_refl _
    infer_instance
  · infer_instance

instance (allowConst : Bool) :
    Agree n taken (g.traitBound allowConst) (g'.traitBound allowConst) := by
  unfold traitBound
  infer_instance

instance (place : BoundPlace) : Agree n taken (g.boundPhrase place) (g'.boundPhrase place) := by
  unfold boundPhrase
  dsimp only
  infer_instance

instance (place : BoundPlace) (allowPlus : Bool)
    [Agree n taken (g.bound place) (g'.bound place)] :
    Agree n taken (g.boundList place allowPlus) (g'.boundList place allowPlus) := by
  unfold boundList
  infer_instance

instance : Agree n true g.wherePredicate g'.wherePredicate := by
  unfold wherePredicate
  infer_instance

instance (budget : Nat) : Agree n true (g.wherePredicates budget) (g'.wherePredicates budget) := by
  induction budget with
  | zero => exact inferInstanceAs (Agree n true failure failure)
  | succ budget ih =>
    unfold wherePredicates
    infer_instance

instance : Agree n taken g.whereClause g'.whereClause := by
  unfold whereClause
  dsimp only
  infer_instance

-- ---------------------------------------------------------------------------
-- Types
-- ---------------------------------------------------------------------------

instance (allowPlus : Bool) : Agree n taken (g.objectTy allowPlus) (g'.objectTy allowPlus) := by
  unfold objectTy
  infer_instance

instance : Agree n taken g.plusBounds g'.plusBounds := by unfold plusBounds; infer_instance

instance : Agree n true g.parenTyInside g'.parenTyInside := by
  unfold parenTyInside
  dsimp only
  infer_instance

instance (allowPlus : Bool) : Agree n taken (g.parenTy allowPlus) (g'.parenTy allowPlus) := by
  unfold parenTy
  dsimp only
  refine .andThen fun before => .andThen fun inside => ?_
  split
  · infer_instance
  · infer_instance
  · infer_instance
  · refine .andThen fun plus => ?_
    split
    · split
      · split <;> infer_instance
      · infer_instance
    · infer_instance

instance (isFirst : Bool) : Agree n true (g.fnTyParam isFirst) (g'.fnTyParam isFirst) := by
  unfold fnTyParam
  dsimp only
  infer_instance

instance (budget : Nat) (isFirst : Bool) :
    Agree n true (g.fnTyParams budget isFirst) (g'.fnTyParams budget isFirst) := by
  induction budget generalizing isFirst with
  | zero => exact inferInstanceAs (Agree n true failure failure)
  | succ budget ih =>
    unfold fnTyParams
    dsimp only
    infer_instance

instance : Agree n taken g.fnTy g'.fnTy := by unfold fnTy; infer_instance

instance (first : BoundPhrase) (allowPlus : Bool) :
    Agree n taken (g.objectFrom first allowPlus) (g'.objectFrom first allowPlus) := by
  unfold objectFrom
  dsimp only
  infer_instance

instance (allowPlus : Bool) : Agree n taken (g.pathTy allowPlus) (g'.pathTy allowPlus) := by
  unfold pathTy
  infer_instance

instance : Agree n taken g.bracketTy g'.bracketTy := by unfold bracketTy; infer_instance

instance : Agree n taken g.pointerTy g'.pointerTy := by
  unfold pointerTy
  dsimp only
  infer_instance

instance : Agree n taken g.referenceTy g'.referenceTy := by unfold referenceTy; infer_instance

instance [∀ place, Agree n taken (g.bound place) (g'.bound place)] (allowPlus : Bool) :
    Agree n taken (g.freeTy allowPlus) (g'.freeTy allowPlus) := by
  unfold freeTy
  dsimp only
  infer_instance

instance (before : Cursor) (binder : List Expr) (allowPlus : Bool) :
    Agree n taken (g.boundTy before binder allowPlus) (g'.boundTy before binder allowPlus) := by
  unfold boundTy
  infer_instance

instance [∀ place, Agree n taken (g.bound place) (g'.bound place)] (allowPlus : Bool) :
    Agree n taken (g.tyPhrase allowPlus) (g'.tyPhrase allowPlus) := by
  unfold tyPhrase
  infer_instance

-- ---------------------------------------------------------------------------
-- Patterns
-- ---------------------------------------------------------------------------

instance : Agree n taken g.rangeBound g'.rangeBound := by unfold rangeBound; infer_instance

instance : Agree n taken g.rangePattern g'.rangePattern := by unfold rangePattern; infer_instance

instance : Agree n taken g.openRangePattern g'.openRangePattern := by
  unfold openRangePattern
  infer_instance

instance : Agree n true g.fieldPattern g'.fieldPattern := by unfold fieldPattern; infer_instance

instance (budget : Nat) : Agree n true (g.fieldPatterns budget) (g'.fieldPatterns budget) := by
  induction budget with
  | zero => exact inferInstanceAs (Agree n true failure failure)
  | succ budget ih =>
    unfold fieldPatterns
    infer_instance

instance : Agree n taken g.pathPattern g'.pathPattern := by unfold pathPattern; infer_instance

instance : Agree n taken g.bindingPattern g'.bindingPattern := by
  unfold bindingPattern
  dsimp only
  infer_instance

instance : Agree n taken g.parenPattern g'.parenPattern := by
  unfold parenPattern
  refine .andThen fun ⟨elements, trailing⟩ => ?_
  dsimp only
  split <;> infer_instance

instance : Agree n taken g.slicePattern g'.slicePattern := by unfold slicePattern; infer_instance

instance : Agree n taken g.literalPattern g'.literalPattern := by
  unfold literalPattern
  infer_instance

instance : Agree n taken g.patternShape g'.patternShape := by unfold patternShape; infer_instance

instance : Agree n taken g.patternPhrase g'.patternPhrase := by unfold patternPhrase; infer_instance

instance [Agree n taken g.pattern g'.pattern] :
    Agree n taken g.patternsPhrase g'.patternsPhrase := by
  unfold patternsPhrase
  dsimp only
  infer_instance

-- ---------------------------------------------------------------------------
-- Operators
-- ---------------------------------------------------------------------------

instance (before : Cursor) (budget : Nat) (e : Expr) :
    Agree n taken (g.casts before budget e) (g'.casts before budget e) := by
  induction budget generalizing taken e with
  | zero => exact inferInstanceAs (Agree n taken (pure e) (pure e))
  | succ budget ih =>
    unfold casts
    dsimp only
    infer_instance

instance (allowStruct : Bool)
    [Agree n taken (g.operand allowStruct) (g'.operand allowStruct)] :
    Agree n taken (g.castOperand allowStruct) (g'.castOperand allowStruct) := by
  unfold castOperand
  infer_instance

instance (allowStruct : Bool) (precedence : Precedence) (budget : Nat) (e : Expr) :
    Agree n true (rightOperand.go g allowStruct precedence budget e)
      (rightOperand.go g' allowStruct precedence budget e) := by
  induction budget generalizing e with
  | zero => exact inferInstanceAs (Agree n true (pure e) (pure e))
  | succ budget ih =>
    unfold rightOperand.go
    infer_instance

instance (allowStruct : Bool) (precedence : Precedence) :
    Agree n true (g.rightOperand allowStruct precedence)
      (g'.rightOperand allowStruct precedence) := by
  unfold rightOperand
  infer_instance

instance (allowStruct : Bool) :
    Agree n taken (g.rangeRest allowStruct) (g'.rangeRest allowStruct) := by
  unfold rangeRest
  dsimp only
  infer_instance

instance (allowStruct : Bool) (base : Precedence) (budget : Nat) (left : Expr) :
    Agree n taken (operatorsPhrase.go g allowStruct base budget left)
      (operatorsPhrase.go g' allowStruct base budget left) := by
  induction budget generalizing taken left with
  | zero => exact inferInstanceAs (Agree n taken (pure left) (pure left))
  | succ budget ih =>
    unfold operatorsPhrase.go
    split
    · infer_instance
    · refine .andThen fun trees => ?_
      split <;> infer_instance

instance (allowStruct : Bool) (base : Precedence) (left : Expr) :
    Agree n taken (g.operatorsPhrase allowStruct base left)
      (g'.operatorsPhrase allowStruct base left) := by
  unfold operatorsPhrase
  infer_instance

instance (allowStruct : Bool)
    [Agree n taken (g.operand allowStruct) (g'.operand allowStruct)]
    [∀ base left, Agree n taken (g.operators allowStruct base left)
      (g'.operators allowStruct base left)] :
    Agree n taken (g.exprPhrase allowStruct) (g'.exprPhrase allowStruct) := by
  unfold exprPhrase
  infer_instance

-- ---------------------------------------------------------------------------
-- Operands
-- ---------------------------------------------------------------------------

instance : Agree n taken g.exprAttributes g'.exprAttributes := by
  unfold exprAttributes
  infer_instance

instance (build : List Stmt → Expr) : Agree n taken (g.blockExpr build) (g'.blockExpr build) := by
  unfold blockExpr
  infer_instance

instance (budget : Nat) : Agree n taken (g.ifExpr budget) (g'.ifExpr budget) := by
  induction budget generalizing taken with
  | zero => exact inferInstanceAs (Agree n taken failure failure)
  | succ budget ih =>
    unfold ifExpr
    infer_instance

instance : Agree n taken g.whileExpr g'.whileExpr := by unfold whileExpr; infer_instance

instance : Agree n taken g.forExpr g'.forExpr := by unfold forExpr; infer_instance

instance : Agree n taken g.loopExpr g'.loopExpr := by unfold loopExpr; infer_instance

instance : Agree n taken g.unsafeExpr g'.unsafeExpr := by unfold unsafeExpr; infer_instance

instance : Agree n taken g.constExpr g'.constExpr := by unfold constExpr; infer_instance

instance : Agree n taken g.tryBlock g'.tryBlock := by unfold tryBlock; infer_instance

instance : Agree n taken g.asyncExpr g'.asyncExpr := by unfold asyncExpr; infer_instance

instance : Agree n taken g.labelled g'.labelled := by unfold labelled; infer_instance

instance (base : Expr) : Agree n true (g.memberRest base) (g'.memberRest base) := by
  unfold memberRest
  dsimp only
  infer_instance

instance (base : Expr) : Agree n taken (g.memberAccess base) (g'.memberAccess base) := by
  unfold memberAccess
  refine .behind fun _ => .andThen fun trees => ?_
  split
  · split <;> infer_instance
  · infer_instance

instance (start : Position) (budget : Nat) (e : Expr) :
    Agree n taken (g.suffixes start budget e) (g'.suffixes start budget e) := by
  induction budget generalizing taken e with
  | zero => exact inferInstanceAs (Agree n taken (pure e) (pure e))
  | succ budget ih =>
    unfold suffixes
    infer_instance

instance (start : Position) (e : Expr) :
    Agree n taken (g.withSuffixes start e) (g'.withSuffixes start e) := by
  unfold withSuffixes
  infer_instance

instance (budget : Nat) : Agree n true (g.fieldValues budget) (g'.fieldValues budget) := by
  induction budget with
  | zero => exact inferInstanceAs (Agree n true failure failure)
  | succ budget ih =>
    unfold fieldValues
    dsimp only
    infer_instance

instance (allowStruct : Bool) :
    Agree n taken (g.pathExpr allowStruct) (g'.pathExpr allowStruct) := by
  unfold pathExpr
  infer_instance

instance : Agree n taken g.parenExpr g'.parenExpr := by
  unfold parenExpr
  refine .andThen fun ⟨elements, trailing⟩ => ?_
  dsimp only
  split <;> infer_instance

instance : Agree n taken g.bracketExpr g'.bracketExpr := by unfold bracketExpr; infer_instance

instance (allowStruct : Bool) :
    Agree n taken (g.breakExpr allowStruct) (g'.breakExpr allowStruct) := by
  unfold breakExpr
  dsimp only
  infer_instance

instance : Agree n taken g.returnExpr g'.returnExpr := by unfold returnExpr; infer_instance

instance : Agree n taken g.yieldExpr g'.yieldExpr := by unfold yieldExpr; infer_instance

instance (allowStruct : Bool) : Agree n taken (g.letExpr allowStruct) (g'.letExpr allowStruct) := by
  unfold letExpr
  infer_instance

instance : Agree n true g.matchArm g'.matchArm := by
  unfold matchArm
  dsimp only
  infer_instance

instance : Agree n taken g.matchExpr g'.matchExpr := by unfold matchExpr; infer_instance

instance : Agree n true g.closureParam g'.closureParam := by
  unfold closureParam
  dsimp only
  infer_instance

instance (allowStruct : Bool) :
    Agree n taken (g.closureExpr allowStruct) (g'.closureExpr allowStruct) := by
  unfold closureExpr
  infer_instance

instance (allowStruct : Bool) : Agree n taken (g.atom allowStruct) (g'.atom allowStruct) := by
  unfold atom
  infer_instance

instance (allowStruct : Bool) :
    Agree n taken (g.operandPhrase allowStruct) (g'.operandPhrase allowStruct) := by
  unfold operandPhrase
  dsimp only
  infer_instance

omit h in
theorem rel_ite {c : Prop} [Decidable c] {p p' : Parser Expr} {q q' : Option (Parser Expr)}
    (hp : Agree n taken p p') (hq : Option.Rel (Agree n taken) q q') :
    Option.Rel (Agree n taken) (if c then some p else q) (if c then some p' else q') := by
  split
  · exact .some hp
  · exact hq

theorem rel_blockLike? (trees : List TokenTree) :
    Option.Rel (Agree n taken) (g.blockLike? trees) (g'.blockLike? trees) := by
  unfold blockLike?
  dsimp only
  repeat refine rel_ite inferInstance ?_
  exact .none

section
variable [Agree n taken (g.operand true) (g'.operand true)]
  [∀ base left, Agree n taken (g.operators true base left) (g'.operators true base left)]

instance (before : Cursor) (e : Expr) :
    Agree n taken (statementExprPhrase.finish g before e)
      (statementExprPhrase.finish g' before e) := by
  unfold statementExprPhrase.finish
  infer_instance

instance : Agree n taken g.statementExprPhrase g'.statementExprPhrase := by
  unfold statementExprPhrase
  refine .andThen fun before => .andThen fun ⟨attrStart, values⟩ => .andThen fun trees =>
    .andThen fun start => ?_
  have hrel : Option.Rel (Agree n taken) (g.blockLike? trees) (g'.blockLike? trees) :=
    rel_blockLike? trees
  revert hrel
  dsimp only
  generalize g.blockLike? trees = phrase, g'.blockLike? trees = phrase'
  intro hrel
  cases hrel with
  | some hphrase => infer_instance
  | none => dsimp only; infer_instance

end

-- ---------------------------------------------------------------------------
-- Statements
-- ---------------------------------------------------------------------------

instance (values : List Expr) : Agree n taken (g.letStmt values) (g'.letStmt values) := by
  unfold letStmt
  dsimp only
  infer_instance

-- a declaration is read once more from where the statement starts
omit h in
theorem sameAt_itemStmt [Agree n taken g.item g'.item] {before between : Cursor}
    (hs : size < n ∨ taken = false ∧ size = n) (hb : before.size ≤ size) :
    SameAt between size (g.itemStmt before) (g'.itemStmt before) := by
  refine .bind rfl ?_
  rintro _ _ ⟨⟩
  exact .andThen hs hb fun found after ha => ⟨rfl, by rintro _ _ ⟨⟩; exact ha⟩

section
variable [Agree n taken g.statementExpr g'.statementExpr]
  [Agree n taken g.item g'.item]

instance (before : Cursor) (attrStart : Option Position) (values : List Expr) :
    Agree n taken (g.exprStmt before attrStart values)
      (g'.exprStmt before attrStart values) := by
  unfold exprStmt
  dsimp only
  infer_instance

instance : Agree n taken g.stmt g'.stmt := by
  refine ⟨fun size hs before hb => .bind rfl ?_⟩
  rintro _ _ ⟨⟩
  refine .andThen hs hb fun ⟨attrStart, values⟩ between hbetween => ?_
  refine .andThen hs hbetween fun trees _ hrest => .andThen hs hrest fun start after hafter => ?_
  cases start with
  | item => exact sameAt_itemStmt hs hb
  | statement => exact Agree.same size hs after hafter
  | neither =>
    dsimp only
    split
    · exact Agree.same size hs after hafter
    · split
      · exact sameAt_itemStmt hs hb
      · exact Agree.same size hs after hafter

instance : Agree n taken g.stmtsPhrase g'.stmtsPhrase := by unfold stmtsPhrase; infer_instance

end

-- ---------------------------------------------------------------------------
-- Functions
-- ---------------------------------------------------------------------------

instance : Agree n taken g.receiver g'.receiver := by
  unfold receiver
  dsimp only
  infer_instance

instance : Agree n true g.fnParam g'.fnParam := by unfold fnParam; infer_instance

instance (budget : Nat) (isFirst : Bool) :
    Agree n true (g.fnParams budget isFirst) (g'.fnParams budget isFirst) := by
  induction budget generalizing isFirst with
  | zero => exact inferInstanceAs (Agree n true failure failure)
  | succ budget ih =>
    unfold fnParams
    dsimp only
    infer_instance

instance (allowSafe : Bool) : Agree n taken (g.signature allowSafe) (g'.signature allowSafe) := by
  unfold signature
  infer_instance

instance : Agree n taken g.fnBody g'.fnBody := by unfold fnBody; infer_instance

-- ---------------------------------------------------------------------------
-- Declarations
-- ---------------------------------------------------------------------------

instance (budget : Nat) : Agree n taken (g.namedFields budget) (g'.namedFields budget) := by
  induction budget generalizing taken with
  | zero => exact inferInstanceAs (Agree n taken failure failure)
  | succ budget ih =>
    unfold namedFields
    dsimp only
    infer_instance

instance : Agree n taken g.bracedFields g'.bracedFields := by unfold bracedFields; infer_instance

instance : Agree n taken g.tupleFields g'.tupleFields := by unfold tupleFields; infer_instance

instance (attributes : List Attribute) :
    Agree n taken (g.structItem attributes) (g'.structItem attributes) := by
  unfold structItem
  infer_instance

instance : Agree n true g.enumVariant g'.enumVariant := by
  unfold enumVariant
  dsimp only
  infer_instance

instance (attributes : List Attribute) :
    Agree n taken (g.enumItem attributes) (g'.enumItem attributes) := by
  unfold enumItem
  infer_instance

instance : Agree n taken g.unionItem g'.unionItem := by unfold unionItem; infer_instance

instance (conditions : AliasConditions) :
    Agree n taken (g.typeAlias conditions) (g'.typeAlias conditions) := by
  unfold typeAlias
  dsimp only
  infer_instance

instance : Agree n true g.constRest g'.constRest := by unfold constRest; infer_instance

instance : Agree n taken g.constItem g'.constItem := by
  unfold constItem
  refine .behind fun _ => .andThen fun found => ?_
  split <;> infer_instance

instance : Agree n taken g.staticItem g'.staticItem := by unfold staticItem; infer_instance

instance (attributes : List Attribute) :
    Agree n taken (g.traitFunction attributes) (g'.traitFunction attributes) := by
  unfold traitFunction
  infer_instance

instance (attributes : List Attribute) :
    Agree n taken (g.traitMemberRest attributes) (g'.traitMemberRest attributes) := by
  unfold traitMemberRest
  dsimp only
  infer_instance

instance : Agree n taken g.traitMember g'.traitMember := by unfold traitMember; infer_instance

instance (attributes : List Attribute) :
    Agree n taken (g.implMemberRest attributes) (g'.implMemberRest attributes) := by
  have hconst : Agree n true
      (do
        match ← g.constRest with
        | some (found, some value) => return some (some (Member.const found (some value)))
        | _ => return none)
      (do
        match ← g'.constRest with
        | some (found, some value) => return some (some (Member.const found (some value)))
        | _ => return none) :=
    .andThen fun found => by split <;> infer_instance
  unfold implMemberRest
  dsimp only
  infer_instance

instance : Agree n taken g.implMember g'.implMember := by unfold implMember; infer_instance

instance : Agree n taken g.traitItem g'.traitItem := by
  unfold traitItem
  dsimp only
  infer_instance

instance (attributes : List Attribute) (isPlain : Bool) :
    Agree n taken (g.implItem attributes isPlain) (g'.implItem attributes isPlain) := by
  unfold implItem
  dsimp only
  infer_instance

instance : Agree n taken g.moduleItem g'.moduleItem := by unfold moduleItem; infer_instance

instance : Agree n taken g.foreignFunction g'.foreignFunction := by
  unfold foreignFunction
  infer_instance

instance : Agree n taken g.foreignStatic g'.foreignStatic := by
  unfold foreignStatic
  dsimp only
  infer_instance

instance : Agree n taken g.foreignMember g'.foreignMember := by unfold foreignMember; infer_instance

instance : Agree n taken g.foreignItem g'.foreignItem := by unfold foreignItem; infer_instance

instance (attributes : List Attribute) (vis : Visibility) :
    Agree n taken (g.functionItem attributes vis) (g'.functionItem attributes vis) := by
  unfold functionItem
  dsimp only
  infer_instance

instance (attributes : List Attribute) :
    Agree n taken (g.itemRest attributes) (g'.itemRest attributes) := by
  unfold itemRest
  dsimp only
  infer_instance

instance : Agree n taken g.itemPhrase g'.itemPhrase := by unfold itemPhrase; infer_instance

instance [Agree n taken g.item g'.item] : Agree n taken g.fileItems g'.fileItems := by
  unfold fileItems
  infer_instance

end

end EndpointInference.Syntax.Grammar

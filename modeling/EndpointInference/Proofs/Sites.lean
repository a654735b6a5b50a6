import EndpointInference.Scan.Site
import Mathlib.Data.List.Basic

/-!
# The sites of a body are those of its visited expressions

`exprSites` lists the sites of a whole tree at once. Here the tree is taken apart: `parts` are the
expressions that are visited right below one, `ownSites` the sites that an expression is itself, and
`Visited` says which expressions of a body are visited at all, and `bodyOccurrences` lists them.
`bodySites_eq_flatMap`: the sites of a body are the own sites of its visited expressions, in order.
-/

namespace EndpointInference

open EndpointInference.Syntax

-- ---------------------------------------------------------------------------
-- One level of a tree
-- ---------------------------------------------------------------------------

/-- What is visited of the expression that is called: a path was looked up with the call. -/
def calleeParts : Expr → List Expr
  | .path _ => []
  | callee => [callee]

/-- What is visited of a statement: not its pattern, and nothing of a declaration. -/
def stmtParts : Stmt → List Expr
  | .letBinding values _ init otherwise => values ++ init.toList ++ otherwise.toList
  | .item _ => []
  | .expr value => [value]
  | .empty => []

def armParts : Arm → List Expr
  | .mk values _ guard body => values ++ guard.toList ++ [body]

def bodyParts : Body → List Expr
  | .block stmts => stmts.flatMap stmtParts
  | .expr value => [value]

namespace SiteContext

/-- The expressions that are visited right below an expression, in order; nothing below a call that
makes an error. -/
def parts (cx : SiteContext) : Expr → List Expr
  | .literal _ => []
  | .path _ => []
  | .call _ callee args =>
    if (cx.calledFactory? callee).isSome then [] else calleeParts callee ++ args
  | .methodCall values receiver _ typeArgs args => values ++ receiver :: typeArgs ++ args
  | .field base _ => [base]
  | .reference operand => [operand]
  | .unary _ operand => [operand]
  | .paren inner => [inner]
  | .cast operand typeParts => operand :: typeParts
  | .tryOp operand => [operand]
  | .await operand => [operand]
  | .invocation args _ => args
  | .block stmts => stmts.flatMap stmtParts
  | .letIs _ operand => [operand]
  | .forLoop _ iterated body => iterated :: body.flatMap stmtParts
  | .matchOn scrutinee arms => scrutinee :: arms.flatMap armParts
  | .closure _ typeParts body => typeParts ++ [body]
  | .compound _ parts => parts
  | .attributed values inner => values ++ [inner]

def ownSites (cx : SiteContext) : Expr → List Site
  | .path p => cx.pathSites p
  | .call start callee args =>
    match cx.calledFactory? callee with
    | some factory => [cx.factorySite args start factory]
    | none => cx.callSites (.function callee) start
  | .methodCall _ receiver method _ _ => cx.callSites (.method receiver method.text) method.start
  | _ => []

-- ---------------------------------------------------------------------------
-- Lists of sites
-- ---------------------------------------------------------------------------

theorem listSites_eq (cx : SiteContext) (es : List Expr) :
    cx.listSites es = es.flatMap cx.exprSites := by
  induction es with
  | nil => simp [listSites]
  | cons e rest ih => simp [listSites, ih]

theorem optionSites_eq (cx : SiteContext) (e : Option Expr) :
    cx.optionSites e = e.toList.flatMap cx.exprSites := by
  cases e <;> simp [optionSites]

theorem calleeSites_eq (cx : SiteContext) (callee : Expr) :
    cx.calleeSites callee = (calleeParts callee).flatMap cx.exprSites := by
  cases callee <;> simp [calleeSites, calleeParts]

theorem stmtSites_eq (cx : SiteContext) (stmt : Stmt) :
    cx.stmtSites stmt = (stmtParts stmt).flatMap cx.exprSites := by
  cases stmt <;> simp [stmtSites, stmtParts, listSites_eq, optionSites_eq]

theorem stmtsSites_eq (cx : SiteContext) (stmts : List Stmt) :
    cx.stmtsSites stmts = (stmts.flatMap stmtParts).flatMap cx.exprSites := by
  induction stmts with
  | nil => simp [stmtsSites]
  | cons stmt rest ih => simp [stmtsSites, stmtSites_eq, ih]

theorem armSites_eq (cx : SiteContext) (arm : Arm) :
    cx.armSites arm = (armParts arm).flatMap cx.exprSites := by
  cases arm
  simp [armSites, armParts, listSites_eq, optionSites_eq]

theorem armsSites_eq (cx : SiteContext) (arms : List Arm) :
    cx.armsSites arms = (arms.flatMap armParts).flatMap cx.exprSites := by
  induction arms with
  | nil => simp [armsSites]
  | cons arm rest ih => simp [armsSites, armSites_eq, ih]

theorem exprSites_eq (cx : SiteContext) (e : Expr) :
    cx.exprSites e = cx.ownSites e ++ (cx.parts e).flatMap cx.exprSites := by
  cases e with
  | call start callee args =>
    simp only [exprSites, ownSites, parts]
    cases cx.calledFactory? callee with
    | some factory => simp
    | none => simp [calleeSites_eq, listSites_eq]
  | _ =>
    simp [exprSites, ownSites, parts, listSites_eq, stmtsSites_eq, armsSites_eq]

theorem bodySites_eq (cx : SiteContext) (body : Body) :
    cx.bodySites body = (bodyParts body).flatMap cx.exprSites := by
  cases body <;> simp [bodySites, bodyParts, stmtsSites_eq]

-- ---------------------------------------------------------------------------
-- Parts are smaller
-- ---------------------------------------------------------------------------

theorem sizeOf_lt_of_mem_stmtParts {stmt : Stmt} (h : e ∈ stmtParts stmt) :
    sizeOf e < sizeOf stmt := by
  cases stmt with
  | letBinding values pattern init otherwise =>
    simp only [stmtParts, List.mem_append, Option.mem_toList] at h
    grind [→ List.sizeOf_lt_of_mem, Stmt.letBinding.sizeOf_spec, Option.some.sizeOf_spec]
  | expr value =>
    simp only [stmtParts, List.mem_singleton] at h
    simp [h]
  | _ => simp [stmtParts] at h

theorem sizeOf_lt_of_mem_armParts {arm : Arm} (h : e ∈ armParts arm) : sizeOf e < sizeOf arm := by
  obtain ⟨values, pattern, guard, body⟩ := arm
  simp only [armParts, List.mem_append, Option.mem_toList, List.mem_singleton] at h
  grind [→ List.sizeOf_lt_of_mem, Arm.mk.sizeOf_spec, Option.some.sizeOf_spec]

theorem sizeOf_lt_of_mem_stmts {stmts : List Stmt} (h : e ∈ stmts.flatMap stmtParts) :
    sizeOf e < sizeOf stmts := by
  obtain ⟨stmt, hs, he⟩ := List.mem_flatMap.mp h
  exact Nat.lt_trans (sizeOf_lt_of_mem_stmtParts he) (List.sizeOf_lt_of_mem hs)

theorem sizeOf_lt_of_mem_arms {arms : List Arm} (h : e ∈ arms.flatMap armParts) :
    sizeOf e < sizeOf arms := by
  obtain ⟨arm, ha, he⟩ := List.mem_flatMap.mp h
  exact Nat.lt_trans (sizeOf_lt_of_mem_armParts he) (List.sizeOf_lt_of_mem ha)

theorem mem_calleeParts (h : e ∈ calleeParts callee) : e = callee := by
  cases callee <;> simp_all [calleeParts]

/-- A part is smaller than the expression it is part of, so visiting downwards ends. -/
theorem sizeOf_lt_of_mem_parts (cx : SiteContext) {e part : Expr} (h : part ∈ cx.parts e) :
    sizeOf part < sizeOf e := by
  cases e with
  | call start callee args =>
    have hp : part ∈ calleeParts callee ++ args := by
      simp only [parts] at h
      split at h
      · simp at h
      · exact h
    rcases List.mem_append.mp hp with hp | hp
    · have := mem_calleeParts hp
      simp [this]; omega
    · have := List.sizeOf_lt_of_mem hp
      simp; omega
  | block stmts =>
    have := sizeOf_lt_of_mem_stmts h
    simp; omega
  | forLoop pattern iterated body =>
    rcases List.mem_cons.mp h with h | h
    · simp [h]; omega
    · have := sizeOf_lt_of_mem_stmts h
      simp; omega
  | matchOn scrutinee arms =>
    rcases List.mem_cons.mp h with h | h
    · simp [h]; omega
    · have := sizeOf_lt_of_mem_arms h
      simp; omega
  | literal value => simp [parts] at h
  | path p => simp [parts] at h
  -- all others have operands and lists of operands only
  | _ =>
    simp only [parts, List.mem_append, List.mem_cons, List.not_mem_nil, or_false] at h
    grind [→ List.sizeOf_lt_of_mem]

-- ---------------------------------------------------------------------------
-- Visited expressions
-- ---------------------------------------------------------------------------

inductive Visited (cx : SiteContext) (body : Body) : Expr → Prop
  | top : e ∈ bodyParts body → Visited cx body e
  | part : Visited cx body e → e' ∈ cx.parts e → Visited cx body e'

-- ---------------------------------------------------------------------------
-- Occurrences
-- ---------------------------------------------------------------------------

/-- The expressions visited from one on, each as often as it stands there. -/
def occurrences (cx : SiteContext) (e : Expr) : List Expr :=
  e :: (cx.parts e).attach.flatMap fun part => cx.occurrences part.1
termination_by sizeOf e
decreasing_by exact cx.sizeOf_lt_of_mem_parts part.2

def bodyOccurrences (cx : SiteContext) (body : Body) : List Expr :=
  (bodyParts body).flatMap cx.occurrences

theorem occurrences_eq (cx : SiteContext) (e : Expr) :
    cx.occurrences e = e :: (cx.parts e).flatMap cx.occurrences := by
  rw [occurrences]
  simp [List.flatMap_subtype]

theorem exprSites_eq_flatMap (cx : SiteContext) (e : Expr) :
    cx.exprSites e = (cx.occurrences e).flatMap cx.ownSites := by
  rw [exprSites_eq, occurrences_eq, List.flatMap_cons, List.flatMap_assoc]
  congr 1
  exact List.flatMap_congr fun part hp => exprSites_eq_flatMap cx part
termination_by sizeOf e
decreasing_by exact cx.sizeOf_lt_of_mem_parts hp

/-- The sites of a body are the own sites of what occurs in it, in that order. -/
theorem bodySites_eq_flatMap (cx : SiteContext) (body : Body) :
    cx.bodySites body = (cx.bodyOccurrences body).flatMap cx.ownSites := by
  rw [bodySites_eq, bodyOccurrences, List.flatMap_assoc]
  exact List.flatMap_congr fun e _ => cx.exprSites_eq_flatMap e

section
variable {cx : SiteContext}

theorem mem_occurrences : e' ∈ cx.occurrences e ↔
    e' = e ∨ ∃ part ∈ cx.parts e, e' ∈ cx.occurrences part := by
  rw [occurrences_eq, List.mem_cons, List.mem_flatMap]

theorem Visited.occurrence (h : cx.Visited body e) (ho : e' ∈ cx.occurrences e) :
    cx.Visited body e' := by
  rcases mem_occurrences.mp ho with rfl | ⟨part, hp, ho⟩
  · exact h
  · exact Visited.occurrence (h.part hp) ho
termination_by sizeOf e
decreasing_by exact cx.sizeOf_lt_of_mem_parts hp

theorem part_mem_occurrences (h : e ∈ cx.occurrences top) (hp : part ∈ cx.parts e) :
    part ∈ cx.occurrences top := by
  rcases mem_occurrences.mp h with rfl | ⟨below, hb, h⟩
  · exact mem_occurrences.mpr (.inr ⟨part, hp, mem_occurrences.mpr (.inl rfl)⟩)
  · exact mem_occurrences.mpr (.inr ⟨below, hb, part_mem_occurrences h hp⟩)
termination_by sizeOf top
decreasing_by exact cx.sizeOf_lt_of_mem_parts hb

theorem mem_bodyOccurrences : e ∈ cx.bodyOccurrences body ↔ cx.Visited body e := by
  constructor
  · intro h
    obtain ⟨top, ht, ho⟩ := List.mem_flatMap.mp h
    exact (Visited.top ht).occurrence ho
  · intro h
    induction h with
    | top he => exact List.mem_flatMap.mpr ⟨_, he, mem_occurrences.mpr (.inl rfl)⟩
    | part _ hp ih =>
      obtain ⟨top, ht, ho⟩ := List.mem_flatMap.mp ih
      exact List.mem_flatMap.mpr ⟨top, ht, part_mem_occurrences ho hp⟩

theorem mem_bodySites :
    site ∈ cx.bodySites body ↔ ∃ e, cx.Visited body e ∧ site ∈ cx.ownSites e := by
  simp only [bodySites_eq_flatMap, List.mem_flatMap, mem_bodyOccurrences]

end

end SiteContext

end EndpointInference

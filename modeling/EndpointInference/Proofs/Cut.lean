import EndpointInference.Index.Handlers
import EndpointInference.Proofs.Lists
import EndpointInference.Proofs.Sites

/-!
# Bodies without what is not read

A `Cut` takes out of a body what a scan should not depend on: its patterns, the declarations inside
it, the places of its calls, and the arguments of calls that make an error other than a custom one.
Two bodies that differ in such parts only, wherever these stand, are the same once they are cut.

The arguments of a custom error are read, not visited. On the way to the literal of its code,
`String::from` is a text as its argument is, also where the error type itself is named `String`; a
cut with `keepsTexts` leaves it that argument there, and there only.
-/

namespace EndpointInference

open EndpointInference.Syntax

/-- How an expression is looked at. -/
inductive Reading
  | visited
  /-- On the way to the literal of a custom error's code. -/
  | code
  /-- Off that way, in the arguments of a custom error. -/
  | unread
deriving DecidableEq

namespace Reading

def inside : Reading → Reading
  | visited => visited
  | _ => unread

def receiver (how : Reading) (method : String) (args : List Expr) : Reading :=
  if args.isEmpty && ["to_string", "into", "to_owned"].contains method then how else how.inside

@[simp] theorem inside_visited : visited.inside = visited := rfl

@[simp] theorem receiver_visited (method : String) (args : List Expr) :
    visited.receiver method args = visited := by
  simp [receiver]

end Reading

inductive Arguments
  | dropped
  | custom
  | read (how : Reading)

structure Cut where
  known : WellKnown
  /-- Whether `String::from` keeps its argument on the way to the code of a custom error. -/
  keepsTexts : Bool

namespace Cut

def factory? (cut : Cut) : Expr → Option Factory
  | .path p => Factory.ofNames? cut.known p.names
  | _ => none

def convertsText : Expr → List Expr → Bool
  | .path p, [_] => p.names == ["String", "from"]
  | _, _ => false

def arguments (cut : Cut) (how : Reading) (callee : Expr) (args : List Expr) : Arguments :=
  match cut.factory? callee with
  | none => .read (if convertsText callee args then how else how.inside)
  | some .custom => if how = .visited then .custom else .read .unread
  | some _ =>
    if cut.keepsTexts && how = .code && convertsText callee args then .read .code else .dropped

mutual
def expr (cut : Cut) (how : Reading) : Expr → Expr
  | .literal value => .literal value
  | .path p => .path p
  | .call _ callee args =>
    .call {} (cut.expr how.inside callee)
      (match cut.arguments how callee args with
      | .dropped => []
      | .custom => cut.customArgs args
      | .read how => cut.list how args)
  | .methodCall values receiver method typeArgs args =>
    .methodCall (cut.list how.inside values) (cut.expr (how.receiver method.text args) receiver)
      ⟨method.text, {}⟩ (cut.list how.inside typeArgs) (cut.list how.inside args)
  | .field base member => .field (cut.expr how.inside base) member
  | .reference operand => .reference (cut.expr how operand)
  | .unary op operand => .unary op (cut.expr how.inside operand)
  | .paren inner => .paren (cut.expr how inner)
  | .cast operand typeParts =>
    .cast (cut.expr how.inside operand) (cut.list how.inside typeParts)
  | .tryOp operand => .tryOp (cut.expr how.inside operand)
  | .await operand => .await (cut.expr how.inside operand)
  | .invocation args braced => .invocation (cut.list how.inside args) braced
  | .block stmts => .block (cut.stmts how.inside stmts)
  | .letIs _ operand => .letIs .wild (cut.expr how.inside operand)
  | .forLoop _ iterated body =>
    .forLoop .wild (cut.expr how.inside iterated) (cut.stmts how.inside body)
  | .matchOn scrutinee arms =>
    .matchOn (cut.expr how.inside scrutinee) (cut.arms how.inside arms)
  | .closure _ typeParts body =>
    .closure [] (cut.list how.inside typeParts) (cut.expr how.inside body)
  | .compound form parts => .compound form (cut.list how.inside parts)
  | .attributed values inner => .attributed (cut.list how.inside values) (cut.expr how inner)

def list (cut : Cut) (how : Reading) : List Expr → List Expr
  | [] => []
  | e :: rest => cut.expr how e :: cut.list how rest

/-- The arguments of a custom error, the second of which is its code. -/
def customArgs (cut : Cut) : List Expr → List Expr
  | status :: code :: rest =>
    cut.expr .unread status :: cut.expr .code code :: cut.list .unread rest
  | [status] => [cut.expr .unread status]
  | [] => []

def option (cut : Cut) (how : Reading) : Option Expr → Option Expr
  | none => none
  | some e => some (cut.expr how e)

def stmt (cut : Cut) (how : Reading) : Stmt → List Stmt
  | .letBinding values _ init otherwise =>
    [.letBinding (cut.list how values) .wild (cut.option how init) (cut.option how otherwise)]
  | .item _ => []
  | .expr value => [.expr (cut.expr how value)]
  | .empty => [.empty]

def stmts (cut : Cut) (how : Reading) : List Stmt → List Stmt
  | [] => []
  | stmt :: rest => cut.stmt how stmt ++ cut.stmts how rest

def arm (cut : Cut) (how : Reading) : Arm → Arm
  | .mk values _ guard body =>
    .mk (cut.list how values) .wild (cut.option how guard) (cut.expr how body)

def arms (cut : Cut) (how : Reading) : List Arm → List Arm
  | [] => []
  | arm :: rest => cut.arm how arm :: cut.arms how rest
end

def body (cut : Cut) : Body → Body
  | .block stmts => .block (cut.stmts .visited stmts)
  | .expr value => .expr (cut.expr .visited value)

-- ---------------------------------------------------------------------------
-- Parts of what is cut
-- ---------------------------------------------------------------------------

section
variable (cut : Cut) (how : Reading)

attribute [local simp] expr list option stmt stmts arm arms

theorem list_eq_map (es : List Expr) : cut.list how es = es.map (cut.expr how) := by
  induction es with
  | nil => simp
  | cons e rest ih => simp [ih]

theorem toList_option (e : Option Expr) :
    (cut.option how e).toList = e.toList.map (cut.expr how) := by
  cases e <;> simp

@[simp] theorem isEmpty_list (es : List Expr) : (cut.list how es).isEmpty = es.isEmpty := by
  cases es <;> simp

theorem stmtParts_stmt (stmt : Stmt) :
    (cut.stmt how stmt).flatMap stmtParts = (stmtParts stmt).map (cut.expr how) := by
  cases stmt with
  | letBinding values pattern init otherwise =>
    simp [stmtParts, list_eq_map, toList_option]
  | _ => simp [stmtParts]

theorem stmtParts_stmts (stmts : List Stmt) :
    (cut.stmts how stmts).flatMap stmtParts = (stmts.flatMap stmtParts).map (cut.expr how) := by
  induction stmts with
  | nil => simp
  | cons stmt rest ih => simp [stmtParts_stmt, ih]

theorem armParts_arm (arm : Arm) :
    armParts (cut.arm how arm) = (armParts arm).map (cut.expr how) := by
  cases arm
  simp [armParts, list_eq_map, toList_option]

theorem armParts_arms (arms : List Arm) :
    (cut.arms how arms).flatMap armParts = (arms.flatMap armParts).map (cut.expr how) := by
  induction arms with
  | nil => simp
  | cons arm rest ih => simp [armParts_arm, ih]

theorem bodyParts_body (body : Body) :
    bodyParts (cut.body body) = (bodyParts body).map (cut.expr .visited) := by
  cases body <;> simp [Cut.body, bodyParts, stmtParts_stmts]

theorem calleeParts_expr (callee : Expr) :
    calleeParts (cut.expr how callee) = (calleeParts callee).map (cut.expr how) := by
  cases callee <;> simp [calleeParts]

theorem expr_eq_path_iff : cut.expr how e = .path p ↔ e = .path p := by
  cases e <;> simp

theorem bare_expr (e : Expr) : (cut.expr how e).bare = cut.expr how e.bare := by
  cases e <;> simp [Expr.bare]

end

-- ---------------------------------------------------------------------------
-- Literals
-- ---------------------------------------------------------------------------

theorem literalStatus?_expr (cut : Cut) (how : Reading) (e : Expr) :
    literalStatus? (cut.expr how e) = literalStatus? e := by
  fun_induction literalStatus? e generalizing how with
  | case5 e => cases e <;> simp_all [expr, literalStatus?]
  | _ => simp_all [expr, literalStatus?]

theorem not_custom_text (known : WellKnown) :
    Factory.ofNames? known ["String", "from"] ≠ some .custom := by
  simp only [Factory.ofNames?, List.reverse_cons, List.reverse_nil, List.nil_append,
    List.singleton_append]
  split
  · decide
  · simp

theorem arguments_text (cut : Cut) (hk : cut.keepsTexts = true) (p : ExprPath) (arg : Expr)
    (h : p.names = ["String", "from"]) : cut.arguments .code (.path p) [arg] = .read .code := by
  have hc : convertsText (.path p) [arg] = true := by simp [convertsText, h]
  have hn : cut.factory? (.path p) ≠ some .custom := by
    simpa [factory?, h] using not_custom_text cut.known
  unfold arguments
  split
  · simp [hc]
  · contradiction
  · simp [hk, hc]

theorem literalText?_call_eq_none (start : Position) {callee : Expr} {args : List Expr}
    (h : ∀ p arg, callee = .path p → args = [arg] → p.names ≠ ["String", "from"]) :
    literalText? (.call start callee args) = none := by
  unfold literalText?
  split <;> simp_all

theorem exists_argument (cut : Cut) {how : Reading} {callee : Expr} {args : List Expr}
    (h : (match cut.arguments how callee args with
      | .dropped => []
      | .custom => cut.customArgs args
      | .read how => cut.list how args) = [left]) : ∃ arg, args = [arg] := by
  split at h
  · cases h
  · match args with
    | [arg] => exact ⟨arg, rfl⟩
    | [] | _ :: _ :: _ => simp [customArgs] at h
  · rw [list_eq_map] at h
    obtain ⟨arg, ha, -⟩ := List.map_eq_singleton_iff.mp h
    exact ⟨arg, ha⟩

/-- On the way to a literal, what is cut is the same text. -/
theorem literalText?_expr (cut : Cut) (hk : cut.keepsTexts = true) (e : Expr) :
    literalText? (cut.expr .code e) = literalText? e := by
  fun_induction literalText? e with
  | case4 start p arg hp ih =>
    have hn : p.names = ["String", "from"] := by simpa using hp
    simp [expr, list, literalText?, cut.arguments_text hk p arg hn, hn, ih]
  | case5 start p arg hp =>
    refine literalText?_call_eq_none _ fun q other hq _ => ?_
    obtain rfl : p = q := by simpa [expr] using hq
    simpa using hp
  | case9 e _ _ hn =>
    cases e with
    | call start callee args =>
      refine literalText?_call_eq_none _ fun p left hp hl => ?_
      obtain ⟨arg, rfl⟩ := cut.exists_argument hl
      obtain rfl : callee = .path p := (cut.expr_eq_path_iff _).mp hp
      exact absurd rfl (hn start p arg)
    | _ => simp_all [expr, literalText?]
  | _ => simp_all [expr, literalText?, Reading.receiver]

-- ---------------------------------------------------------------------------
-- The index of cut bodies
-- ---------------------------------------------------------------------------

def function (cut : Cut) (entry : FunctionEntry) : FunctionEntry :=
  { entry with body := entry.body.map (cut.stmts .visited) }

def constant (cut : Cut) (entry : ConstantEntry) : ConstantEntry :=
  { entry with value := cut.expr .visited entry.value }

def index (cut : Cut) (index : Index) : Index :=
  { index with
    functions := index.functions.map (Prod.map id cut.function)
    constants := index.constants.map (Prod.map id cut.constant) }

section
variable (cut : Cut) (index : Index) (scope : ElementId)

theorem function?_index (id : ElementId) :
    (cut.index index).function? id = (index.function? id).map cut.function :=
  lookup_map_snd ..

theorem constant?_index (id : ElementId) :
    (cut.index index).constant? id = (index.constant? id).map cut.constant :=
  lookup_map_snd ..

theorem body?_index (element : ElementId) :
    (cut.index index).body? element = (index.body? element).map cut.body := by
  simp only [Index.body?, function?_index, constant?_index]
  cases index.function? element with
  | some entry => cases h : entry.body <;> simp [function, body, h]
  | none => cases index.constant? element <;> simp [constant, body]

theorem ownerOf?_index : (cut.index index).ownerOf? scope = index.ownerOf? scope := by
  simp only [Index.ownerOf?, function?_index, constant?_index]
  cases index.function? scope with
  | some entry => rfl
  | none => cases index.constant? scope <;> rfl

theorem moduleOf_index : (cut.index index).moduleOf scope = index.moduleOf scope := by
  simp only [Index.moduleOf, function?_index, constant?_index]
  cases index.function? scope with
  | some entry => rfl
  | none => cases index.constant? scope <;> rfl

theorem place?_index (qualifier : List String) :
    (cut.index index).place? scope qualifier = index.place? scope qualifier := by
  simp only [Index.place?, ownerOf?_index, moduleOf_index]

theorem lookupMethod?_index (owner method : String) :
    (cut.index index).lookupMethod? owner method =
      (index.lookupMethod? owner method).map cut.function := by
  simp only [Index.lookupMethod?, function?_index, Option.map_or, List.map_findSome?]
  rfl

theorem lookupPath?_index (names : List String) :
    (cut.index index).lookupPath? scope names =
      (index.lookupPath? scope names).map cut.function := by
  simp only [Index.lookupPath?, function?_index, place?_index, lookupMethod?_index]
  cases splitLast? names with
  | none => rfl
  | some split =>
    cases hp : index.place? scope split.1 with
    | none => simp [hp]
    | some place =>
      cases place with
      | type owner => simp [hp]
      | modules candidates => simp [hp, List.map_findSome?, Function.comp_def]

theorem isParameter_index (name : String) :
    (cut.index index).isParameter scope name = index.isParameter scope name := by
  simp only [Index.isParameter, function?_index]
  cases index.function? scope <;> rfl

theorem isDeclared_index : (cut.index index).isDeclared = index.isDeclared := by
  funext id
  simp [Index.isDeclared, function?_index, constant?_index]

theorem resolveReference?_index (path : ExprPath) :
    (cut.index index).resolveReference? scope path = index.resolveReference? scope path := by
  simp only [Index.resolveReference?, isParameter_index, place?_index, isDeclared_index]

theorem paramType?_index (name : String) :
    (cut.index index).paramType? scope name = index.paramType? scope name := by
  simp only [Index.paramType?, function?_index]
  cases index.function? scope <;> rfl

theorem receiverType?_index (how : Reading) (e : Expr) :
    (cut.index index).receiverType? scope (cut.expr how e) = index.receiverType? scope e := by
  fun_induction index.receiverType? scope e generalizing how with
  | case4 base member ih =>
    rw [expr, Index.receiverType?, ih]
    rfl
  | case8 operand ih =>
    rw [expr, Index.receiverType?, ih]
    rfl
  | case11 values receiver method typeArgs args h ih =>
    rw [expr, Index.receiverType?, isEmpty_list, if_neg h, ih]
    simp only [lookupMethod?_index, Option.map_map]
    rfl
  | case13 e _ _ _ _ _ _ _ hm =>
    cases e with
    | methodCall values receiver method typeArgs args => exact (hm _ _ _ _ _ rfl).elim
    | _ => simp_all [expr, Index.receiverType?]
  | _ => simp_all [expr, Index.receiverType?, ownerOf?_index, paramType?_index]

theorem callee?_function_index (how : Reading) (callee : Expr) :
    (cut.index index).callee? scope (.function (cut.expr how callee)) =
      (index.callee? scope (.function callee)).map cut.function := by
  simp only [Index.callee?, bare_expr]
  cases callee.bare with
  | path p => cases h : p.isQualified <;> simp [expr, h, lookupPath?_index]
  | _ => simp [expr]

theorem callee?_method_index (how : Reading) (receiver : Expr) (name : String) :
    (cut.index index).callee? scope (.method (cut.expr how receiver) name) =
      (index.callee? scope (.method receiver name)).map cut.function := by
  simp only [Index.callee?, receiverType?_index, lookupMethod?_index]
  cases index.receiverType? scope receiver <;> rfl

theorem foldWith_index (valueOf : ElementId → Option Constant) (how : Reading) (e : Expr) :
    (cut.index index).foldWith valueOf scope (cut.expr how e) =
      index.foldWith valueOf scope e := by
  fun_induction index.foldWith valueOf scope e generalizing how with
  | case10 e => cases e <;> simp_all [expr, Index.foldWith]
  | _ => simp_all [expr, Index.foldWith, resolveReference?_index]

theorem valueUnseen_index : (cut.index index).valueUnseen = index.valueUnseen := by
  funext seen
  refine Index.valueUnseen_congr (fun valueOf id => ?_) seen
  rw [constant?_index]
  cases index.constant? id with
  | none => rfl
  | some entry => exact cut.foldWith_index index id valueOf .visited entry.value

theorem foldConstant?_index (how : Reading) (e : Expr) :
    (cut.index index).foldConstant? scope (cut.expr how e) = index.foldConstant? scope e := by
  rw [Index.foldConstant?, valueUnseen_index, foldWith_index]
  rfl

theorem describe_index : (cut.index index).describe = index.describe := by
  have hq : (cut.index index).queryAnnotation? = index.queryAnnotation? := rfl
  have hu : (cut.index index).unwrapExtractor = index.unwrapExtractor := by
    funext ty
    simp only [Index.unwrapExtractor, Index.extractor?, hq]
  have hb : (cut.index index).customBinding? = index.customBinding? := rfl
  have hn : (cut.index index).known = index.known := rfl
  funext name attributes ty location
  simp only [Index.describe, hu, hb, hn]

theorem handlers_index : (cut.index index).handlers = index.handlers := by
  have hh : (cut.index index).handler? = index.handler? := by
    funext id
    simp only [Index.handler?, function?_index, Index.describeHandler, Index.describeParams,
      describe_index]
    cases index.function? id <;> rfl
  have ho : (cut.index index).handlerOrder = index.handlerOrder := rfl
  rw [Index.handlers, hh, ho, Index.handlers]

end

end Cut

end EndpointInference

import EndpointInference.Index.Fold
import EndpointInference.Proofs.Lists

/-!
# The values of constants

`Evaluates` are the rules by which an expression has a value, and they know nothing of a search.
The search keeps the constants that it is inside of, and gives up where it meets one of them again.
A value has a finite derivation, so a constant with a value never leads back to itself
(`Evaluates.acc`), and what the search gives up on has none. Hence it finds exactly the values that
can be derived, and none for what depends on a cycle (`constant_folding_exact`).
-/

namespace EndpointInference

open EndpointInference.Syntax

/-- The parts of an expression that are evaluated with it; those inside its types, attributes and
statements are not. -/
def Syntax.Expr.operands : Expr → List Expr
  | .call _ callee args => callee :: args
  | .methodCall _ receiver _ _ args => receiver :: args
  | .field base _ => [base]
  | .reference operand => [operand]
  | .unary _ operand => [operand]
  | .paren inner => [inner]
  | .cast operand _ => [operand]
  | .tryOp operand => [operand]
  | .await operand => [operand]
  | .invocation args _ => args
  | .letIs _ operand => [operand]
  | .forLoop _ iterated _ => [iterated]
  | .matchOn scrutinee _ => [scrutinee]
  | .compound _ parts => parts
  | .attributed _ inner => [inner]
  | .literal _ | .path _ | .block _ | .closure .. => []

namespace Index

-- ---------------------------------------------------------------------------
-- Values by rules
-- ---------------------------------------------------------------------------

/-- The value of an expression in the body of an element. -/
inductive Evaluates (index : Index) : ElementId → Expr → Constant → Prop
  | text {scope value} : Evaluates index scope (.literal (.text value)) (.text value)
  | int {scope} {value : Nat} : value < Nat.pow 2 127 →
      Evaluates index scope (.literal (.int value)) (.int value)
  | bool {scope value} : Evaluates index scope (.literal (.bool value)) (.bool value)
  | paren {scope inner value} : Evaluates index scope inner value →
      Evaluates index scope (.paren inner) value
  | attributed {scope values inner value} : Evaluates index scope inner value →
      Evaluates index scope (.attributed values inner) value
  | cast {scope operand typeParts value} : Evaluates index scope operand value →
      Evaluates index scope (.cast operand typeParts) value
  | reference {scope operand value} : Evaluates index scope operand value →
      Evaluates index scope (.reference operand) value
  | negated {scope operand} {value : Int} : Evaluates index scope operand (.int value) →
      Evaluates index scope (.unary .neg operand) (.int (-value))
  | converted {scope values receiver method typeArgs value} :
      method.text ∈ ["to_string", "to_owned", "into"] →
      Evaluates index scope receiver (.text value) →
      Evaluates index scope (.methodCall values receiver method typeArgs []) (.text value)
  /-- A constant has the value of its own expression, in its own scope. -/
  | constant {scope path id entry value} : index.resolveReference? scope path = some id →
      index.constant? id = some entry → Evaluates index id entry.value value →
      Evaluates index scope (.path path) value

def HasValue (index : Index) (id : ElementId) (value : Constant) : Prop :=
  ∃ entry, index.constant? id = some entry ∧ index.Evaluates id entry.value value

inductive Mentions (index : Index) (scope : ElementId) : Expr → ElementId → Prop
  | path {path id} : index.resolveReference? scope path = some id →
      Mentions index scope (.path path) id
  | operand {e part id} : part ∈ e.operands → Mentions index scope part id →
      Mentions index scope e id

def Needs (index : Index) (id other : ElementId) : Prop :=
  ∃ entry, index.constant? id = some entry ∧ index.Mentions id entry.value other

def FoldCalls (index : Index) (caller callee : List ElementId × ElementId) : Prop :=
  caller.2 ∉ caller.1 ∧ index.Needs caller.2 callee.2 ∧ callee.1 = caller.2 :: caller.1

section
variable {index : Index}

theorem Mentions.resolved {scope : ElementId} {path : ExprPath} {id : ElementId}
    (h : index.Mentions scope (.path path) id) : index.resolveReference? scope path = some id := by
  cases h with
  | path hr => exact hr
  | operand hp => cases hp

-- ---------------------------------------------------------------------------
-- What has a value leads back nowhere
-- ---------------------------------------------------------------------------

theorem acc_of_mentions {id : ElementId} {entry : ConstantEntry}
    (hc : index.constant? id = some entry)
    (h : ∀ next, index.Mentions id entry.value next → Acc (Function.swap index.Needs) next) :
    Acc (Function.swap index.Needs) id := by
  refine .intro _ ?_
  rintro next ⟨entry', hc', hn⟩
  obtain rfl := Option.some.inj (hc.symm.trans hc')
  exact h next hn

/-- From what an expression with a value mentions there is no endless chain of constants. -/
theorem Evaluates.acc {scope : ElementId} {e : Expr} {value : Constant}
    (h : index.Evaluates scope e value) :
    ∀ id, index.Mentions scope e id → Acc (Function.swap index.Needs) id := by
  induction h with
  | text | int | bool =>
    rintro id (_ | ⟨hp, -⟩)
    cases hp
  | paren _ ih | attributed _ ih | cast _ ih | reference _ ih | negated _ ih | converted _ _ ih =>
    rintro id (_ | ⟨hp, hm⟩)
    obtain rfl := List.mem_singleton.mp hp
    exact ih id hm
  | @constant scope path id entry value hr hc _ ih =>
    intro other hm
    obtain rfl : id = other := Option.some.inj (hr.symm.trans hm.resolved)
    exact acc_of_mentions hc ih

theorem HasValue.acc {id : ElementId} {value : Constant} (h : index.HasValue id value) :
    Acc (Function.swap index.Needs) id := by
  obtain ⟨entry, hc, he⟩ := h
  exact acc_of_mentions hc he.acc

theorem HasValue.not_needs_self {id : ElementId} {value : Constant} (h : index.HasValue id value) :
    ¬ Relation.TransGen index.Needs id id :=
  fun hn => not_transGen_self h.acc hn.swap

def OnWay (index : Index) (seen : List ElementId) (id : ElementId) : Prop :=
  ∀ other ∈ seen, Relation.TransGen index.Needs other id

theorem OnWay.next {seen : List ElementId} {id next : ElementId} (h : index.OnWay seen id)
    (hn : index.Needs id next) : index.OnWay (id :: seen) next := by
  intro other ho
  rcases List.mem_cons.mp ho with rfl | ho
  · exact .single hn
  · exact (h other ho).tail hn

theorem onWay_of_calls {start : ElementId} {call : List ElementId × ElementId}
    (h : Relation.ReflTransGen index.FoldCalls ([], start) call) : index.OnWay call.1 call.2 := by
  induction h with
  | refl => exact fun _ ho => absurd ho List.not_mem_nil
  | tail _ hstep ih =>
    obtain ⟨-, hn, hs⟩ := hstep
    rw [hs]
    exact ih.next hn

theorem HasValue.not_mem {seen : List ElementId} {id : ElementId} {value : Constant}
    (h : index.HasValue id value) (hw : index.OnWay seen id) : id ∉ seen :=
  fun hm => h.not_needs_self (hw id hm)

-- ---------------------------------------------------------------------------
-- The search finds the values
-- ---------------------------------------------------------------------------

theorem mem_textConversions {method : String} :
    textConversions.contains method = true ↔ method ∈ ["to_string", "to_owned", "into"] :=
  List.contains_iff_mem

theorem evaluates_of_literal {scope : ElementId} {literal : Literal} {value : Constant}
    (h : Constant.ofLiteral? literal = some value) :
    index.Evaluates scope (.literal literal) value := by
  cases literal with
  | text text =>
    obtain rfl := Option.some.inj h
    exact .text
  | int number =>
    obtain ⟨hlt, hv⟩ := Option.ite_none_right_eq_some.mp h
    obtain rfl := Option.some.inj hv
    exact .int hlt
  | bool truth =>
    obtain rfl := Option.some.inj h
    exact .bool
  | other => cases h

theorem evaluates_of_foldWith {valueOf : ElementId → Option Constant}
    (hv : ∀ id value, valueOf id = some value → index.HasValue id value) (scope : ElementId)
    (e : Expr) {value : Constant} (h : index.foldWith valueOf scope e = some value) :
    index.Evaluates scope e value := by
  cases e with
  | literal literal => exact evaluates_of_literal h
  | path path =>
    obtain ⟨id, hr, hid⟩ := Option.bind_eq_some_iff.mp h
    obtain ⟨entry, hc, he⟩ := hv id value hid
    exact .constant hr hc he
  | paren inner => exact .paren (evaluates_of_foldWith hv scope inner h)
  | attributed values inner => exact .attributed (evaluates_of_foldWith hv scope inner h)
  | cast operand typeParts => exact .cast (evaluates_of_foldWith hv scope operand h)
  | reference operand => exact .reference (evaluates_of_foldWith hv scope operand h)
  | unary op operand =>
    cases op with
    | neg =>
      obtain ⟨inner, hi, hn⟩ := Option.bind_eq_some_iff.mp h
      cases inner with
      | int number =>
        obtain rfl := Option.some.inj hn
        exact .negated (evaluates_of_foldWith hv scope operand hi)
      | _ => cases hn
    | _ => cases h
  | methodCall values receiver method typeArgs args =>
    obtain ⟨hm, hb⟩ := Option.ite_none_right_eq_some.mp h
    obtain ⟨inner, hi, ht⟩ := Option.bind_eq_some_iff.mp hb
    rw [Bool.and_eq_true, List.isEmpty_iff, mem_textConversions] at hm
    obtain ⟨rfl, hm⟩ := hm
    cases inner with
    | text text =>
      obtain rfl := Option.some.inj ht
      exact .converted hm (evaluates_of_foldWith hv scope receiver hi)
    | _ => cases ht
  | _ => cases h

theorem hasValue_of_valueUnseen {seen : List ElementId} {id : ElementId} {value : Constant}
    (h : index.valueUnseen seen id = some value) : index.HasValue id value := by
  fun_induction index.valueUnseen seen id generalizing value with
  | case1 => cases h
  | case2 => cases h
  | case3 seen id entry hc _ ih => exact ⟨entry, hc, evaluates_of_foldWith (fun _ _ => ih _) id _ h⟩

/-- What has a value is found, if each constant on the way needs what is mentioned. -/
theorem Evaluates.foldWith {scope : ElementId} {e : Expr} {value : Constant}
    (h : index.Evaluates scope e value) (seen : List ElementId)
    (hw : ∀ id, index.Mentions scope e id → index.OnWay seen id) :
    index.foldWith (index.valueUnseen seen) scope e = some value := by
  induction h generalizing seen with
  | text | bool => rfl
  | int hlt => exact if_pos hlt
  | paren _ ih | attributed _ ih | cast _ ih | reference _ ih =>
    exact ih seen fun id hm => hw id (.operand List.mem_cons_self hm)
  | negated _ ih =>
    rw [Index.foldWith, ih seen fun id hm => hw id (.operand List.mem_cons_self hm)]
    rfl
  | converted hm _ ih =>
    rw [Index.foldWith, ih seen fun id hm => hw id (.operand List.mem_cons_self hm),
      mem_textConversions.mpr hm]
    rfl
  | @constant scope path id entry value hr hc he ih =>
    have hway : index.OnWay seen id := hw id (.path hr)
    -- were it on the way, it would need itself and have no value
    have hfresh : ¬ seen.contains id = true := by
      simpa using HasValue.not_mem ⟨entry, hc, he⟩ hway
    have hinner : index.foldWith (index.valueUnseen (id :: seen)) id entry.value = some value :=
      ih (id :: seen) fun next hm => hway.next ⟨entry, hc, hm⟩
    rw [Index.foldWith, hr, Option.bind_some, valueUnseen_eq, if_neg hfresh, hc, Option.bind_some,
      hinner]

theorem valueUnseen_eq_some_iff {seen : List ElementId} {id : ElementId} {value : Constant}
    (hw : index.OnWay seen id) :
    index.valueUnseen seen id = some value ↔ index.HasValue id value := by
  refine ⟨hasValue_of_valueUnseen, fun h => ?_⟩
  have hfresh : ¬ seen.contains id = true := by simpa using h.not_mem hw
  obtain ⟨entry, hc, he⟩ := h
  rw [valueUnseen_eq, if_neg hfresh, hc, Option.bind_some,
    he.foldWith (id :: seen) fun next hm => hw.next ⟨entry, hc, hm⟩]

theorem foldConstant?_eq_some_iff {scope : ElementId} {e : Expr} {value : Constant} :
    index.foldConstant? scope e = some value ↔ index.Evaluates scope e value :=
  ⟨evaluates_of_foldWith (fun _ _ => hasValue_of_valueUnseen) scope e,
    fun h => h.foldWith [] fun _ _ _ ho => absurd ho List.not_mem_nil⟩

end

end Index

open Index in
/-- An expression has the value that the rules derive, and none if they derive none, in whatever
pattern constants refer to each other. On the way a constant has the value that it has by itself:
what is met again has none. So nothing that depends on a cycle of constants has a value. -/
theorem constant_folding_exact (index : Index) (scope : ElementId) (e : Expr) :
    (∀ value, index.foldConstant? scope e = some value ↔ index.Evaluates scope e value) ∧
    (∀ start seen id, index.Mentions scope e start →
      Relation.ReflTransGen index.FoldCalls ([], start) (seen, id) →
        (∀ value, index.valueUnseen seen id = some value ↔ index.HasValue id value) ∧
        (id ∈ seen → ∀ value, ¬ index.HasValue id value)) ∧
    ∀ start id, index.Mentions scope e start → Relation.ReflTransGen index.Needs start id →
      Relation.TransGen index.Needs id id → index.foldConstant? scope e = none := by
  refine ⟨fun value => foldConstant?_eq_some_iff, ?_, ?_⟩
  · intro start seen id _ hcalls
    have hway : index.OnWay seen id := onWay_of_calls hcalls
    exact ⟨fun value => valueUnseen_eq_some_iff hway, fun hm value hv => hv.not_mem hway hm⟩
  · intro start id hm hreach hcycle
    cases hf : index.foldConstant? scope e with
    | none => rfl
    | some value =>
      have hstart : Acc (Function.swap index.Needs) start :=
        (foldConstant?_eq_some_iff.mp hf).acc start hm
      have hid : Acc (Function.swap index.Needs) id := by
        clear hcycle
        induction hreach with
        | refl => exact hstart
        | tail _ hn ih => exact ih.inv hn
      exact absurd hcycle.swap (not_transGen_self hid)

end EndpointInference

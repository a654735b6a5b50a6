import EndpointInference.Proofs.ConstantValues
import Mathlib.Algebra.Group.Int.Defs
import Mathlib.Algebra.Group.Nat.Defs

/-!
# The numbers that constants have

Evaluating an expression comes down to one literal, through signs, casts and constants
(`Evaluates.exists_reads`), and a value differs from its literal in nothing but the sign
(`Evaluates.fromLiteral`). A literal has no sign and at most 127 bits, so the least word of 128 bits,
which has no opposite, is never the value of an expression (`folded_numbers_negatable`).
-/

namespace EndpointInference

open EndpointInference.Syntax

structure Negatable (number : Int) : Prop where
  lower : -(2 ^ 127 - 1) ≤ number
  upper : number ≤ 2 ^ 127 - 1
  held : (BitVec.ofInt 128 number).toInt = number
  noOverflow : (BitVec.ofInt 128 number).negOverflow = false
  opposite : (-BitVec.ofInt 128 number).toInt = -number

theorem Negatable.of_natAbs_lt {number : Int} (h : number.natAbs < 2 ^ 127) :
    Negatable number := by
  have hlower : -(2 ^ 127 - 1) ≤ number := by omega
  have hupper : number ≤ 2 ^ 127 - 1 := by omega
  have hheld : (BitVec.ofInt 128 number).toInt = number :=
    BitVec.toInt_ofInt_eq_self (by decide) (by omega) (by omega)
  have hfits : (BitVec.ofInt 128 number).negOverflow = false := by
    rw [BitVec.negOverflow, hheld]
    exact beq_false_of_ne (by omega)
  refine ⟨hlower, hupper, hheld, hfits, ?_⟩
  rw [BitVec.toInt_neg_of_not_negOverflow (by simp [hfits]), hheld]

-- ---------------------------------------------------------------------------
-- Values and the literals that they are written with
-- ---------------------------------------------------------------------------

def Constant.FromLiteral (value : Constant) (literal : Literal) : Prop :=
  ∃ written, ofLiteral? literal = some written ∧
    (value = written ∨ written.negate? = some value)

namespace Constant.FromLiteral

theorem negated {number : Int} {literal : Literal} (h : FromLiteral (.int number) literal) :
    FromLiteral (.int (-number)) literal := by
  obtain ⟨written, hw, rfl | hn⟩ := h
  · exact ⟨_, hw, .inr rfl⟩
  · cases written with
    | int other =>
      obtain rfl : -other = number := by simpa [negate?] using hn
      exact ⟨_, hw, .inl (by rw [Int.neg_neg])⟩
    | _ => cases hn

theorem natAbs_lt {number : Int} {literal : Literal} (h : FromLiteral (.int number) literal) :
    number.natAbs < 2 ^ 127 := by
  obtain ⟨written, hw, hv⟩ := h
  cases literal with
  | int size =>
    obtain ⟨hlt, hs⟩ := Option.ite_none_right_eq_some.mp hw
    obtain rfl := Option.some.inj hs
    rcases hv with hv | hv
    · obtain rfl : number = size := Constant.int.inj hv
      exact hlt
    · obtain rfl : -(size : Int) = number := by simpa [negate?] using hv
      rwa [Int.natAbs_neg]
  | text | bool =>
    obtain rfl := Option.some.inj hw
    rcases hv with hv | hv <;> cases hv
  | other => cases hw

end Constant.FromLiteral

namespace Index

/-- A literal stands at a place that is evaluated with an expression, in it or in a constant that it
refers to. -/
inductive Reads (index : Index) : ElementId → Expr → Literal → Prop
  | literal {scope literal} : Reads index scope (.literal literal) literal
  | operand {scope e part literal} : part ∈ e.operands → Reads index scope part literal →
      Reads index scope e literal
  | constant {scope path id entry literal} : index.resolveReference? scope path = some id →
      index.constant? id = some entry → Reads index id entry.value literal →
      Reads index scope (.path path) literal

section
variable {index : Index}

theorem Reads.eq_literal {scope : ElementId} {written literal : Literal}
    (h : index.Reads scope (.literal written) literal) : literal = written := by
  cases h with
  | literal => rfl
  | operand hp => cases hp

theorem Reads.of_operand {scope : ElementId} {e part : Expr} {literal : Literal}
    (h : index.Reads scope e literal) (he : e.operands = [part]) :
    index.Reads scope part literal := by
  cases h with
  | operand hp hr =>
    rw [he, List.mem_singleton] at hp
    exact hp ▸ hr
  | literal | constant => cases he

theorem Reads.of_constant {scope id : ElementId} {path : ExprPath} {entry : ConstantEntry}
    {literal : Literal} (h : index.Reads scope (.path path) literal)
    (hr : index.resolveReference? scope path = some id) (hc : index.constant? id = some entry) :
    index.Reads id entry.value literal := by
  cases h with
  | operand hp => cases hp
  | constant hr' hc' h =>
    obtain rfl := Option.some.inj (hr.symm.trans hr')
    obtain rfl := Option.some.inj (hc.symm.trans hc')
    exact h

theorem Evaluates.exists_reads {scope : ElementId} {e : Expr} {value : Constant}
    (h : index.Evaluates scope e value) : ∃ literal, index.Reads scope e literal := by
  induction h with
  | text | int | bool => exact ⟨_, .literal⟩
  | paren _ ih | attributed _ ih | cast _ ih | reference _ ih | negated _ ih | converted _ _ ih =>
    obtain ⟨literal, hr⟩ := ih
    exact ⟨literal, .operand List.mem_cons_self hr⟩
  | constant hp hc _ ih =>
    obtain ⟨literal, hr⟩ := ih
    exact ⟨literal, .constant hp hc hr⟩

/-- Whatever literal is read on the way to a value, the value is its own up to the sign. -/
theorem Evaluates.fromLiteral {scope : ElementId} {e : Expr} {value : Constant} {literal : Literal}
    (h : index.Evaluates scope e value) (hl : index.Reads scope e literal) :
    value.FromLiteral literal := by
  induction h with
  | text | bool => exact ⟨_, by rw [hl.eq_literal]; rfl, .inl rfl⟩
  | int hlt => exact ⟨_, by rw [hl.eq_literal]; exact if_pos hlt, .inl rfl⟩
  | paren _ ih | attributed _ ih | cast _ ih | reference _ ih | converted _ _ ih =>
    exact ih (hl.of_operand rfl)
  | negated _ ih => exact (ih (hl.of_operand rfl)).negated
  | constant hp hc _ ih => exact ih (hl.of_constant hp hc)

theorem Evaluates.natAbs_lt {scope : ElementId} {e : Expr} {number : Int}
    (h : index.Evaluates scope e (.int number)) : number.natAbs < 2 ^ 127 := by
  obtain ⟨literal, hl⟩ := h.exists_reads
  exact (h.fromLiteral hl).natAbs_lt

/-- A literal of more than 127 bits leaves an expression without a value. -/
theorem Reads.not_evaluates {scope : ElementId} {e : Expr} {size : Nat} {value : Constant}
    (hl : index.Reads scope e (.int size)) (hs : 2 ^ 127 ≤ size) :
    ¬ index.Evaluates scope e value := by
  intro h
  obtain ⟨written, hw, -⟩ := h.fromLiteral hl
  obtain ⟨hlt, -⟩ := Option.ite_none_right_eq_some.mp hw
  exact absurd hlt (Nat.not_lt.mpr hs)

end

theorem exists_evaluates (index : Index) (scope : ElementId) {number : Int}
    (h : number.natAbs < 2 ^ 127) : ∃ e, index.Evaluates scope e (.int number) := by
  obtain ⟨size, rfl | rfl⟩ := Int.eq_nat_or_neg number
  · exact ⟨.literal (.int size), .int h⟩
  · rw [Int.natAbs_neg] at h
    exact ⟨.unary .neg (.literal (.int size)), .negated (.int h)⟩

end Index

open Index in
/-- Whatever constants an evaluation is inside of, a number that it gives can be negated in a word
of 128 bits. A literal that does not fit such a word, at whatever place it is read, leaves the
expression without a value. All numbers that can be negated occur. -/
theorem folded_numbers_negatable (index : Index) (scope : ElementId) :
    (∀ seen e number, index.foldWith (index.valueUnseen seen) scope e = some (.int number) →
      Negatable number) ∧
    (∀ seen e size, index.Reads scope e (.int size) → 2 ^ 127 ≤ size →
      index.foldWith (index.valueUnseen seen) scope e = none) ∧
    ∀ number, (∃ e, index.foldConstant? scope e = some (.int number)) ↔
      -(2 ^ 127 - 1) ≤ number ∧ number ≤ 2 ^ 127 - 1 := by
  have hrules : ∀ {seen e value}, index.foldWith (index.valueUnseen seen) scope e = some value →
      index.Evaluates scope e value :=
    fun h => evaluates_of_foldWith (fun _ _ => hasValue_of_valueUnseen) scope _ h
  refine ⟨?_, ?_, fun number => ⟨?_, ?_⟩⟩
  · intro seen e number h
    exact .of_natAbs_lt (hrules h).natAbs_lt
  · intro seen e size hl hs
    exact Option.eq_none_iff_forall_ne_some.mpr fun value h => hl.not_evaluates hs (hrules h)
  · rintro ⟨e, h⟩
    have hn : Negatable number := .of_natAbs_lt (hrules h).natAbs_lt
    exact ⟨hn.lower, hn.upper⟩
  · rintro ⟨hlower, hupper⟩
    have hn : number.natAbs < 2 ^ 127 := by omega
    obtain ⟨e, h⟩ := index.exists_evaluates scope hn
    exact ⟨e, foldConstant?_eq_some_iff.mpr h⟩

end EndpointInference

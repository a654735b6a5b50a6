import EndpointInference.Index.Handlers
import EndpointInference.Proofs.ConstantValues
import EndpointInference.Scan.Factory

/-!
# Codes and statuses of custom errors

An argument of a custom error is read in two ways: by its value as a constant, and as a literal by
its form alone. Where both find something, they find the same
(`Evaluates.eq_text_of_literal`), and a status that is read as a literal is also a value
(`evaluates_of_literalStatus?`). So the order in which they are tried does not matter, and only the
value decides on a status (`custom_codes_agree`).
-/

namespace EndpointInference

open EndpointInference.Syntax

-- ---------------------------------------------------------------------------
-- Numbers as statuses
-- ---------------------------------------------------------------------------

theorem statusOfNat?_eq_some_iff {value : Nat} {status : UInt16} :
    statusOfNat? value = some status ↔ value = status.toNat := by
  constructor
  · intro h
    obtain ⟨hlt, hs⟩ := Option.ite_none_right_eq_some.mp h
    obtain rfl := Option.some.inj hs
    exact (UInt16.toNat_ofNat_of_lt hlt).symm
  · rintro rfl
    rw [statusOfNat?, if_pos status.toNat_lt]
    exact congrArg some UInt16.ofNat_toNat

theorem statusOfInt?_eq_some_iff {number : Int} {status : UInt16} :
    statusOfInt? number = some status ↔ number = status.toNat := by
  cases number with
  | ofNat value => rw [statusOfInt?, statusOfNat?_eq_some_iff, Int.ofNat_eq_natCast, Int.ofNat_inj]
  | negSucc value =>
    constructor
    · intro h
      cases h
    · intro h
      omega

theorem exists_status {number : Int} (hn : 0 ≤ number) (hlt : number < 65536) :
    ∃ status : UInt16, number = status.toNat := by
  obtain ⟨size, rfl⟩ := Int.eq_ofNat_of_zero_le hn
  have hbits : size < 65536 := by omega
  have hsize : (UInt16.ofNat size).toNat = size := UInt16.toNat_ofNat_of_lt hbits
  exact ⟨UInt16.ofNat size, by rw [hsize]⟩

-- ---------------------------------------------------------------------------
-- Literals and values
-- ---------------------------------------------------------------------------

namespace Index

section
variable {index : Index} {scope : ElementId}

theorem Evaluates.eq_text_of_literal {e : Expr} {value : Constant} {text : String}
    (h : index.Evaluates scope e value) (ht : literalText? e = some text) : value = .text text := by
  induction h with
  | text =>
    rw [literalText?] at ht
    rw [Option.some.inj ht]
  | paren _ ih | attributed _ ih | reference _ ih =>
    rw [literalText?] at ht
    exact ih ht
  | converted hm _ ih =>
    rw [literalText?] at ht
    exact ih (Option.ite_none_right_eq_some.mp ht).2
  | int | bool | cast | negated | constant => simp [literalText?] at ht

theorem evaluates_of_literalStatus? (e : Expr) {status : UInt16}
    (h : literalStatus? e = some status) : index.Evaluates scope e (.int status.toNat) := by
  cases e with
  | literal literal =>
    cases literal with
    | int value =>
      obtain rfl := statusOfNat?_eq_some_iff.mp h
      exact .int (Nat.lt_trans status.toNat_lt (by decide))
    | _ => cases h
  | cast operand typeParts => exact .cast (evaluates_of_literalStatus? operand h)
  | paren inner => exact .paren (evaluates_of_literalStatus? inner h)
  | attributed values inner => exact .attributed (evaluates_of_literalStatus? inner h)
  | _ => cases h

theorem foldConstant?_of_literalText? {e : Expr} {text : String} (h : literalText? e = some text) :
    index.foldConstant? scope e = none ∨ index.foldConstant? scope e = some (.text text) := by
  cases hf : index.foldConstant? scope e with
  | none => exact .inl rfl
  | some value =>
    rw [(foldConstant?_eq_some_iff.mp hf).eq_text_of_literal h]
    exact .inr rfl

theorem foldConstant?_of_literalStatus? {e : Expr} {status : UInt16}
    (h : literalStatus? e = some status) :
    index.foldConstant? scope e = some (.int status.toNat) :=
  foldConstant?_eq_some_iff.mpr (evaluates_of_literalStatus? e h)

end

end Index

-- ---------------------------------------------------------------------------
-- The two ways in either order
-- ---------------------------------------------------------------------------

def Constant.text? : Constant → Option String
  | .text value => some value
  | _ => none

def Constant.status? : Constant → Option UInt16
  | .int value => statusOfInt? value
  | _ => none

def foldedText? (symbols : Symbols) (scope : ElementId) (expr : Expr) : Option String :=
  (symbols.foldConstant? scope expr).bind Constant.text?

def foldedStatus? (symbols : Symbols) (scope : ElementId) (expr : Expr) : Option UInt16 :=
  (symbols.foldConstant? scope expr).bind Constant.status?

/-- The custom error of the arguments, each read as a literal first, and by its value where it is
none. -/
def customErrorLiteralFirst? (symbols : Symbols) (scope : ElementId) :
    List Expr → Option CustomErrorCode
  | status :: code :: _ =>
    ((literalText? code).or (foldedText? symbols scope code)).map fun text =>
      ⟨text, ((literalStatus? status).or (foldedStatus? symbols scope status)).getD fallbackStatus⟩
  | _ => none

section
variable {symbols : Symbols} {scope : ElementId} {e : Expr}

theorem foldedStatus?_eq_some_iff {status : UInt16} :
    foldedStatus? symbols scope e = some status ↔
      symbols.foldConstant? scope e = some (.int status.toNat) := by
  rw [foldedStatus?]
  rcases symbols.foldConstant? scope e with _ | (_ | _ | _) <;>
    simp [Constant.status?, statusOfInt?_eq_some_iff]

theorem constantText?_of_not_literal (h : literalText? e = none) :
    constantText? symbols scope e = foldedText? symbols scope e := by
  rw [constantText?, foldedText?, h]
  rcases symbols.foldConstant? scope e with _ | (_ | _ | _) <;> rfl

theorem constantStatus?_of_not_literal (h : literalStatus? e = none) :
    constantStatus? symbols scope e = foldedStatus? symbols scope e := by
  rw [constantStatus?, foldedStatus?, h]
  rcases symbols.foldConstant? scope e with _ | (_ | _ | _) <;> rfl

end

section
variable {index : Index} {scope : ElementId} {e : Expr}

theorem constantText?_eq_literal_or :
    constantText? index.symbols scope e =
      (literalText? e).or (foldedText? index.symbols scope e) := by
  cases hl : literalText? e with
  | none => exact constantText?_of_not_literal hl
  | some text =>
    have hf : index.symbols.foldConstant? scope e = none ∨
        index.symbols.foldConstant? scope e = some (.text text) :=
      Index.foldConstant?_of_literalText? hl
    rcases hf with hf | hf
    · rw [constantText?, hf]
      exact hl
    · rw [constantText?, hf]
      rfl

theorem foldedStatus?_of_literalStatus? {status : UInt16} (h : literalStatus? e = some status) :
    foldedStatus? index.symbols scope e = some status :=
  foldedStatus?_eq_some_iff.mpr (Index.foldConstant?_of_literalStatus? h)

/-- The literal adds nothing to what the value says of a status. -/
theorem constantStatus?_eq_folded :
    constantStatus? index.symbols scope e = foldedStatus? index.symbols scope e := by
  cases hl : literalStatus? e with
  | none => exact constantStatus?_of_not_literal hl
  | some status =>
    have hf : foldedStatus? index.symbols scope e = some status :=
      foldedStatus?_of_literalStatus? hl
    rw [hf, constantStatus?, foldedStatus?_eq_some_iff.mp hf]
    exact statusOfInt?_eq_some_iff.mpr rfl

theorem constantStatus?_eq_literal_or :
    constantStatus? index.symbols scope e =
      (literalStatus? e).or (foldedStatus? index.symbols scope e) := by
  rw [constantStatus?_eq_folded]
  cases hl : literalStatus? e with
  | none => rfl
  | some status => exact foldedStatus?_of_literalStatus? hl

theorem customError?_eq_literalFirst (args : List Expr) :
    customError? index.symbols scope args = customErrorLiteralFirst? index.symbols scope args := by
  match args with
  | [] | [_] => rfl
  | status :: code :: rest =>
    rw [customError?, customErrorLiteralFirst?, constantText?_eq_literal_or,
      constantStatus?_eq_literal_or]

theorem status_of_customError? {status code : Expr} {rest : List Expr} {error : CustomErrorCode}
    (h : customError? index.symbols scope (status :: code :: rest) = some error) :
    error.status = (foldedStatus? index.symbols scope status).getD fallbackStatus := by
  obtain ⟨text, -, rfl⟩ := Option.map_eq_some_iff.mp h
  exact congrArg (Option.getD · fallbackStatus) constantStatus?_eq_folded

end

/-- What is read as a literal agrees with the value: a text if there is a value, a status always.
So it does not matter which of the two is tried first, and a status is the number that is the value
of its argument if it has 16 bits and no sign, else 500. -/
theorem custom_codes_agree (index : Index) (scope : ElementId) :
    (∀ e text, literalText? e = some text →
      index.foldConstant? scope e = none ∨ index.foldConstant? scope e = some (.text text)) ∧
    (∀ e status, literalStatus? e = some status →
      index.foldConstant? scope e = some (.int status.toNat)) ∧
    (∀ args, customError? index.symbols scope args =
      customErrorLiteralFirst? index.symbols scope args) ∧
    ∀ status code rest error,
      customError? index.symbols scope (status :: code :: rest) = some error →
        (∀ number, index.foldConstant? scope status = some (.int number) →
          0 ≤ number → number < 65536 → (error.status.toNat : Int) = number) ∧
        ((∀ number, index.foldConstant? scope status = some (.int number) →
          number < 0 ∨ 65536 ≤ number) → error.status = 500) := by
  refine ⟨fun _ _ => Index.foldConstant?_of_literalText?,
    fun _ _ => Index.foldConstant?_of_literalStatus?, customError?_eq_literalFirst, ?_⟩
  intro status code rest error h
  rw [status_of_customError? h]
  constructor
  · intro number hf hn hlt
    obtain ⟨found, rfl⟩ := exists_status hn hlt
    rw [foldedStatus?_eq_some_iff.mpr hf, Option.getD_some]
  · intro hout
    have hnone : foldedStatus? index.symbols scope status = none := by
      refine Option.eq_none_iff_forall_ne_some.mpr fun found hs => ?_
      have hrange := hout _ (foldedStatus?_eq_some_iff.mp hs)
      have hlt : found.toNat < 65536 := found.toNat_lt
      omega
    rw [hnone]
    rfl

end EndpointInference

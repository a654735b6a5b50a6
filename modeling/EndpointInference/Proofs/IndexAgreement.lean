import EndpointInference.Index.Handlers
import EndpointInference.Proofs.Agreement
import Mathlib.Data.List.Perm.Basic

/-!
# What an index answers depends on its tables alone

Two indexes in which every name is looked up with the same result, in whatever order their tables
are (`Index.Agree`), give the same answers to an analysis (`Index.Agree.symbols`) and describe the
same handlers (`Index.Agree.handler?`). The number of types bounds a recursion, so it has to be the
same as well.
-/

namespace EndpointInference

open EndpointInference.Syntax

namespace Index

structure Agree (first second : Index) : Prop where
  known : first.known = second.known
  function? : first.function? = second.function?
  type? : first.type? = second.type?
  constant? : first.constant? = second.constant?
  controller? : first.controller? = second.controller?
  traitsOf : first.traitsOf = second.traitsOf
  constructorsOf : first.constructorsOf = second.constructorsOf
  locate : first.locate = second.locate
  types : first.types.Perm second.types

namespace Agree

section
variable {first second : Index} (h : first.Agree second)
include h

-- ---------------------------------------------------------------------------
-- Parameters and types
-- ---------------------------------------------------------------------------

theorem isScalar : first.isScalar = second.isScalar := by
  funext ty
  rw [Index.isScalar, Index.isScalar, isEnumeration, isEnumeration, h.known, h.type?]

theorem unwrapExtractor : first.unwrapExtractor = second.unwrapExtractor := by
  have hquery : first.queryAnnotation? = second.queryAnnotation? := by
    funext inner
    rw [queryAnnotation?, queryAnnotation?, h.isScalar]
  funext ty
  simp only [Index.unwrapExtractor, extractor?, hquery]

theorem describe : first.describe = second.describe := by
  have hcustom : first.customBinding? = second.customBinding? := by
    funext ty
    rw [customBinding?, customBinding?, h.traitsOf]
  funext name attributes ty location
  rw [Index.describe, Index.describe, h.unwrapExtractor, h.known, hcustom]

theorem describeParams : first.describeParams = second.describeParams := by
  funext file signature
  rw [Index.describeParams, Index.describeParams, h.describe]

theorem expandFields : first.expandFields = second.expandFields := by
  funext expand found position fields
  induction fields generalizing found position with
  | nil => rfl
  | cons field rest ih =>
    simp only [Index.expandFields, h.known, ih]

theorem propertiesWithin (depth : Nat) :
    first.propertiesWithin depth = second.propertiesWithin depth := by
  induction depth with
  | zero => rfl
  | succ depth ih =>
    funext seen name
    simp only [Index.propertiesWithin, h.type?, h.expandFields, ih]

theorem properties : first.properties = second.properties := by
  funext name
  rw [Index.properties, Index.properties, h.types.length_eq, h.propertiesWithin]

theorem describeType : first.describeType = second.describeType := by
  have hfields : first.fieldConstructor = second.fieldConstructor := by
    funext file struct
    rw [fieldConstructor, fieldConstructor, h.describe]
  have hassociated : first.associatedConstructor = second.associatedConstructor := by
    funext entry
    rw [associatedConstructor, associatedConstructor, h.describeParams]
  funext name entry
  simp only [Index.describeType, hfields, hassociated, h.constructorsOf, h.properties]

theorem typeInfo? : first.typeInfo? = second.typeInfo? := by
  funext ty
  rw [Index.typeInfo?, Index.typeInfo?, h.type?, h.describeType]

theorem memberTypes : first.memberTypes.Perm second.memberTypes := by
  simp only [Index.memberTypes, h.describeType]
  exact h.types.flatMap_right _

theorem fieldType? : first.fieldType? = second.fieldType? := by
  funext owner field
  simp only [Index.fieldType?, struct?, h.type?, h.known]

-- ---------------------------------------------------------------------------
-- Names
-- ---------------------------------------------------------------------------

theorem ownerOf? : first.ownerOf? = second.ownerOf? := by
  funext scope
  rw [Index.ownerOf?, Index.ownerOf?, h.function?, h.constant?]

theorem place? : first.place? = second.place? := by
  have hmodule : first.moduleOf = second.moduleOf := by
    funext scope
    rw [moduleOf, moduleOf, h.function?, h.constant?]
  funext scope qualifier
  rw [Index.place?, Index.place?, hmodule, h.ownerOf?]

theorem lookupMethod? : first.lookupMethod? = second.lookupMethod? := by
  funext owner method
  rw [Index.lookupMethod?, Index.lookupMethod?, h.function?, h.traitsOf]

theorem lookupPath? : first.lookupPath? = second.lookupPath? := by
  funext scope names
  simp only [Index.lookupPath?, h.place?, h.lookupMethod?, h.function?]

theorem resolveReference? : first.resolveReference? = second.resolveReference? := by
  have hparameter : first.isParameter = second.isParameter := by
    funext scope name
    rw [isParameter, isParameter, h.function?]
  have hdeclared : first.isDeclared = second.isDeclared := by
    funext id
    rw [isDeclared, isDeclared, h.constant?, h.function?]
  funext scope path
  simp only [Index.resolveReference?, hparameter, hdeclared, h.place?]

theorem paramType? : first.paramType? = second.paramType? := by
  have hbound : first.boundOf? = second.boundOf? := by
    funext signature name
    rw [boundOf?, boundOf?, h.known]
  funext scope name
  simp only [Index.paramType?, hbound, h.function?, h.known]

theorem receiverType? (scope : ElementId) (e : Expr) :
    first.receiverType? scope e = second.receiverType? scope e := by
  have hsuccess : first.successType? = second.successType? := by
    funext ty
    rw [successType?, successType?, h.known]
  cases e with
  | path p => simp only [Index.receiverType?, h.ownerOf?, h.paramType?]
  | field base member => simp only [Index.receiverType?, receiverType? scope base, h.fieldType?]
  | reference operand => simp only [Index.receiverType?, receiverType? scope operand]
  | paren inner => simp only [Index.receiverType?, receiverType? scope inner]
  | unary op operand => cases op <;> simp only [Index.receiverType?, receiverType? scope operand]
  | tryOp operand => simp only [Index.receiverType?, receiverType? scope operand, hsuccess]
  | await operand => simp only [Index.receiverType?, receiverType? scope operand]
  | methodCall values receiver method typeArgs args =>
    simp only [Index.receiverType?, receiverType? scope receiver, h.lookupMethod?, h.known]
  | attributed values inner => simp only [Index.receiverType?, receiverType? scope inner]
  | _ => rfl

theorem resolveCall? : first.resolveCall? = second.resolveCall? := by
  have htarget : first.callTarget = second.callTarget := by
    funext entry
    rw [callTarget, callTarget, h.known]
  have hcallee : first.callee? = second.callee? := by
    funext scope site
    cases site with
    | function callee => simp only [callee?, h.lookupPath?]
    | method receiver name => simp only [callee?, h.receiverType?, h.lookupMethod?]
  funext scope site
  rw [Index.resolveCall?, Index.resolveCall?, htarget, hcallee]

-- ---------------------------------------------------------------------------
-- Values and bodies
-- ---------------------------------------------------------------------------

theorem foldWith (valueOf : ElementId → Option Constant) (scope : ElementId) (e : Expr) :
    first.foldWith valueOf scope e = second.foldWith valueOf scope e := by
  cases e with
  | path p => simp only [Index.foldWith, h.resolveReference?]
  | paren inner => simp only [Index.foldWith, foldWith valueOf scope inner]
  | cast operand typeParts => simp only [Index.foldWith, foldWith valueOf scope operand]
  | reference operand => simp only [Index.foldWith, foldWith valueOf scope operand]
  | unary op operand => cases op <;> simp only [Index.foldWith, foldWith valueOf scope operand]
  | methodCall values receiver method typeArgs args =>
    simp only [Index.foldWith, foldWith valueOf scope receiver]
  | attributed values inner => simp only [Index.foldWith, foldWith valueOf scope inner]
  | _ => rfl

theorem foldConstant? : first.foldConstant? = second.foldConstant? := by
  have hvalue : first.valueUnseen [] = second.valueUnseen [] :=
    valueUnseen_congr (fun valueOf id => by simp only [h.constant?, h.foldWith]) []
  funext scope e
  rw [Index.foldConstant?, Index.foldConstant?, h.foldWith, hvalue]

theorem body? : first.body? = second.body? := by
  funext element
  rw [Index.body?, Index.body?, h.function?, h.constant?]

theorem symbols : first.symbols.Agree second.symbols where
  typeInfo? := h.typeInfo?
  resolveCall? := h.resolveCall?
  resolveReference? := h.resolveReference?
  body? := h.body?
  foldConstant? := h.foldConstant?
  locate := h.locate
  memberTypes := h.memberTypes.length_eq

theorem handler? : first.handler? = second.handler? := by
  have hcontroller : first.controllerOf = second.controllerOf := by
    funext entry
    rw [controllerOf, controllerOf, h.controller?]
  have hdescribe : first.describeHandler = second.describeHandler := by
    funext entry verb path
    simp only [describeHandler, hcontroller, h.describeParams, h.known]
  funext id
  rw [Index.handler?, Index.handler?, h.function?, hdescribe]

end

end Agree

end Index

end EndpointInference

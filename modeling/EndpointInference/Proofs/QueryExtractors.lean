import EndpointInference.Index.Handlers
import EndpointInference.Proofs.ImplicitBinding

/-!
# Parameters inside an extractor of the query

Whether a type is a scalar is asked twice: by the index, when it says what an extractor of the query
implies, and by the rules, when they bind the parameter. The one looks at the declarations, the
other at what is known about a type; both look at its name only, and agree
(`isPrimitive_view`). So what the index implies is what the rules can bind, and they never reject
such a parameter for a type that the query cannot hold.
-/

namespace EndpointInference

open EndpointInference.Syntax

def queryExtractors : List String :=
  ["RequestParam", "ValidatedRequestParam", "Query"]

-- ---------------------------------------------------------------------------
-- The shape of a parameter
-- ---------------------------------------------------------------------------

namespace ParamShape

theorem unwrapOption_cases (ty : TypeRef) :
    ty.name = "Option" ∧ ty.args = [(unwrapOption ty).1] ∨
      (unwrapOption ty).1 = ty ∧ ¬(ty.name = "Option" ∧ ∃ value, ty.args = [value]) := by
  unfold unwrapOption
  split
  · next inner hargs =>
    split
    · next his => exact .inl ⟨by simpa [TypeRef.is] using his, hargs⟩
    · next hnot => exact .inr ⟨rfl, fun h => hnot (by simpa [TypeRef.is] using h.1)⟩
  · next hargs => exact .inr ⟨rfl, fun ⟨_, value, h⟩ => hargs value h⟩

theorem element?_eq_some_iff {ty element : TypeRef} :
    element? ty = some element ↔ ty.name ∈ collectionNames ∧ ty.args = [element] := by
  unfold element?
  split
  · next only hargs => simp [hargs, and_comm]
  · next hargs =>
    constructor
    · intro h
      cases h
    · rintro ⟨-, h⟩
      exact absurd h (hargs element)

end ParamShape

-- ---------------------------------------------------------------------------
-- The rules
-- ---------------------------------------------------------------------------

namespace TypeView

section
variable {view : TypeView} {cx : BindingContext} {param : Parameter}

theorem classify_query (cx : BindingContext) (ha : param.annotation = some (.query name))
    (hb : view.isRouteBindable param = true) :
    (view.classify cx param).value = some (.keyed param .query name) ∧
      (view.classify cx param).diagnostics = [] := by
  have hbefore : ∀ rule ∈ BindingRule.order.take 6,
      view.applyRule? (view.expandGroup cx) cx param rule = none := by
    simp [BindingRule.order, applyRule?, ha]
  have hr : view.applyRule? (view.expandGroup cx) cx param .explicitQuery =
      some (pure (some (.keyed param .query name))) := by
    simp [applyRule?, ha, hb]
  exact classifyWith_of_first rfl hbefore hr

theorem classify_group (ha : param.annotation = some .asParameters) :
    (view.classify cx param).value = (view.expandGroup cx param).value ∧
      (view.classify cx param).diagnostics = (view.expandGroup cx param).diagnostics := by
  have hbefore : ∀ rule ∈ BindingRule.order.take 0,
      view.applyRule? (view.expandGroup cx) cx param rule = none := by
    simp
  have hr : view.applyRule? (view.expandGroup cx) cx param .parameterGroup =
      some (view.expandGroup cx param) := by
    simp [applyRule?, ha]
  exact classifyWith_of_first rfl hbefore hr

theorem classifyChild_eq (parent : Parameter) (ha : param.annotation ≠ some .asParameters) :
    view.classifyChild cx parent param = view.classify cx param := by
  have hgroup : ∀ group, view.applyRule? group cx param .parameterGroup = none := by
    intro group
    simp only [applyRule?]
  have hrule : view.applyRule? (fun _ => pure none) cx param =
      view.applyRule? (view.expandGroup cx) cx param := by
    funext rule
    cases rule with
    | parameterGroup => rw [hgroup, hgroup]
    | _ => rfl
  rw [classifyChild, if_neg ha, classifyMember, classify, classifyWith, classifyWith, hrule]

theorem expandGroup_reports (h : diagnostic ∈ (view.expandGroup cx param).diagnostics) :
    diagnostic = nullableGroup param ∨ diagnostic = noUsableConstructor param ∨
      ∃ ctor, view.constructor? param.ty = some ctor ∧
        ∃ child ∈ ctor.params, diagnostic ∈ (view.classifyChild cx param child).diagnostics := by
  unfold expandGroup at h
  split at h
  · left
    simpa using h
  · split at h
    · right; left
      simpa using h
    · next ctor hc =>
      right; right
      refine ⟨ctor, hc, ?_⟩
      simpa using h

theorem classify_textual_reports (ha : param.annotation = none)
    (ht : view.isTextual param = true) (h : diagnostic ∈ (view.classify cx param).diagnostics) :
    diagnostic.code = .invalidRouteType := by
  cases hs : param.special with
  | some role =>
    rw [(classify_special ha hs).2] at h
    cases h
  | none =>
    cases hv : cx.isRouteVariable param.name with
    | false =>
      rw [(classify_textual ha hs hv ht).2] at h
      cases h
    | true =>
      rw [(classify_route ha hs hv).2] at h
      split at h
      · cases h
      · rw [List.mem_singleton] at h
        rw [h]
        rfl

end

end TypeView

-- ---------------------------------------------------------------------------
-- The index
-- ---------------------------------------------------------------------------

namespace Index

def view (index : Index) : TypeView :=
  ⟨index.symbols, index.known⟩

def CollectionsApart (index : Index) : Prop :=
  ∀ name ∈ collectionNames, name ∉ index.known.primitives ∧
    ∀ file, index.type? name ≠ some ⟨.enumeration, file⟩

section
variable {index : Index} {inner : TypeRef}

theorem isPrimitive_view (index : Index) (ty : TypeRef) :
    index.view.isPrimitive ty = index.isScalar ty := by
  have hinfo : index.symbols.typeInfo? ty = index.typeInfo? ty := rfl
  simp only [view, TypeView.isPrimitive, isScalar, hinfo, typeInfo?, isEnumeration]
  cases index.type? ty.name with
  | none => rfl
  | some entry =>
    obtain ⟨shape, file⟩ := entry
    cases shape <;> rfl

theorem CollectionsApart.isScalar (h : index.CollectionsApart) (hn : ty.name ∈ collectionNames) :
    index.isScalar ty = false := by
  obtain ⟨hprimitive, henum⟩ := h _ hn
  rw [Index.isScalar, Bool.or_eq_false_iff]
  constructor
  · rw [WellKnown.isPrimitive, List.any_eq_false]
    intro primitive hp his
    have hname : ty.name = primitive := by simpa [TypeRef.is] using his
    exact hprimitive (hname ▸ hp)
  · unfold isEnumeration
    split
    · next file he => exact absurd he (henum file)
    · rfl

theorem CollectionsApart.element? (h : index.CollectionsApart) (hs : index.isScalar ty = true) :
    ParamShape.element? ty = none := by
  rw [Option.eq_none_iff_forall_ne_some]
  intro element he
  cases (h.isScalar (ParamShape.element?_eq_some_iff.mp he).1).symm.trans hs

theorem unwrapExtractor_query (hq : TypeRef.lastSegment extractor ∈ queryExtractors) :
    index.unwrapExtractor ⟨extractor, [inner]⟩ = (inner, index.queryAnnotation? inner) := by
  simp only [queryExtractors, List.mem_cons, List.not_mem_nil, or_false] at hq
  rcases hq with hq | hq | hq <;> simp [unwrapExtractor, extractor?, TypeRef.name, hq]

/-- What an extractor of the query implies, in the terms of the rules. -/
inductive Implied (index : Index) (param : Parameter) : Prop
  | scalar : index.view.isPrimitive param.ty = true → param.element = none →
      param.annotation = some (.query none) → Implied index param
  | collection (element : TypeRef) : index.view.isPrimitive param.ty = false →
      param.element = some element → index.view.isPrimitive element = true →
      param.annotation = none → Implied index param
  | group : index.view.isPrimitive param.ty = false →
      (∀ element, param.element = some element → index.view.isPrimitive element = false) →
      param.annotation = some .asParameters → Implied index param

theorem implied_of_queryAnnotation? (h : index.CollectionsApart) {param : Parameter}
    (hty : param.ty = (ParamShape.ofTypeRef inner).ty)
    (helement : param.element = (ParamShape.ofTypeRef inner).element)
    (ha : param.annotation = index.queryAnnotation? inner) : index.Implied param := by
  have hshape : param.element = ParamShape.element? param.ty := by rw [helement, hty]; rfl
  simp only [queryAnnotation?, ← hty, ← helement] at ha
  cases hs : index.isScalar param.ty with
  | true =>
    have hnone : param.element = none := hshape.trans (h.element? hs)
    refine .scalar (index.isPrimitive_view _ ▸ hs) hnone ?_
    simpa [hnone, hs] using ha
  | false =>
    have hp : index.view.isPrimitive param.ty = false := index.isPrimitive_view _ ▸ hs
    cases he : param.element with
    | none => exact .group hp (by simp [he]) (by simpa [he, hs] using ha)
    | some element =>
      have hsame := index.isPrimitive_view element
      cases hes : index.isScalar element with
      | true => exact .collection element hp he (hsame.trans hes) (by simpa [he, hes] using ha)
      | false =>
        refine .group hp ?_ (by simpa [he, hes, hs] using ha)
        rintro other ho
        cases he.symm.trans ho
        exact hsame.trans hes

section
variable {param : Parameter}

theorem Implied.query_iff (h : index.Implied param) :
    param.annotation = some (.query none) ↔ index.view.isPrimitive param.ty = true := by
  cases h with
  | scalar hp _ ha => simp [ha, hp]
  | collection _ hp _ _ ha => simp [ha, hp]
  | group hp _ ha => simp [ha, hp]

theorem Implied.none_iff (h : index.Implied param) :
    param.annotation = none ↔
      ∃ element, param.element = some element ∧ index.view.isPrimitive element = true := by
  cases h with
  | scalar _ hnone ha => simp [ha, hnone]
  | collection _ _ hsome hscalar ha => simp [ha, hsome, hscalar]
  | group _ hother ha =>
    constructor
    · intro hnone
      cases ha.symm.trans hnone
    · rintro ⟨element, hsome, hscalar⟩
      cases (hother element hsome).symm.trans hscalar

theorem Implied.group_iff (h : index.Implied param) :
    param.annotation = some .asParameters ↔ index.view.isPrimitive param.ty = false ∧
      ∀ element, param.element = some element → index.view.isPrimitive element = false := by
  cases h with
  | scalar hp _ ha => simp [ha, hp]
  | collection _ hp hsome hscalar ha => simp [ha, hp, hsome, hscalar]
  | group hp hother ha => exact iff_of_true ha ⟨hp, hother⟩

theorem Implied.bound (h : index.Implied param) (hp : index.view.isPrimitive param.ty = true)
    (cx : BindingContext) :
    (index.view.classify cx param).value = some (.keyed param .query none) ∧
      (index.view.classify cx param).diagnostics = [] := by
  cases h with
  | scalar _ hnone ha =>
    apply TypeView.classify_query cx ha
    simp [TypeView.isRouteBindable, Parameter.isCollection, hnone, hp]
  | collection _ hno => cases hno.symm.trans hp
  | group hno => cases hno.symm.trans hp

/-- Only a group is told of types that the query cannot hold, and only those of its members. -/
theorem Implied.of_invalidQueryType (h : index.Implied param)
    (hd : diagnostic ∈ (index.view.classify cx param).diagnostics)
    (hc : diagnostic.code = .invalidQueryType) :
    param.annotation = some .asParameters ∧
      ∃ ctor, index.view.constructor? param.ty = some ctor ∧ ∃ child ∈ ctor.params,
        diagnostic ∈ (index.view.classifyChild cx param child).diagnostics := by
  have hi := h
  cases h with
  | scalar hp _ _ =>
    rw [(hi.bound hp cx).2] at hd
    cases hd
  | collection _ _ hsome hscalar ha =>
    have htextual : index.view.isTextual param = true := by
      simp [TypeView.isTextual, TypeView.isCollectionOfPrimitives, hsome, hscalar]
    rw [TypeView.classify_textual_reports ha htextual hd] at hc
    cases hc
  | group _ _ ha =>
    rw [(TypeView.classify_group ha).2] at hd
    rcases TypeView.expandGroup_reports hd with rfl | rfl | hmember
    · cases hc
    · cases hc
    · exact ⟨ha, hmember⟩

/-- As a member of another group, a group is rejected as such before its own members are read. -/
theorem Implied.member_reports (h : index.Implied param)
    (hd : diagnostic ∈ (index.view.classifyChild cx parent param).diagnostics) :
    diagnostic.code ≠ .invalidQueryType := by
  intro hc
  by_cases hg : param.annotation = some .asParameters
  · obtain rfl : diagnostic = TypeView.nestedGroup parent param := by
      simpa [TypeView.classifyChild, hg] using hd
    cases hc
  · rw [TypeView.classifyChild_eq parent hg] at hd
    exact hg (h.of_invalidQueryType hd hc).1

end

end

end Index

/-- A parameter or a field whose type is `T` inside an extractor of the query, with no annotation of
its own: it is part of the query exactly if `T`, without one `Option`, is a scalar for the rules,
and they then bind it under its own name; it is left to the rules exactly if that is a collection of
scalars; and it is a group of parameters in all other cases. Neither on its own nor as a member is
it ever rejected as a type that the query cannot hold: where this is said of a group, it is said of
one of its members. -/
theorem query_extractors_agree (index : Index) (h : index.CollectionsApart) (name : String)
    (attributes : List Attribute) (ty : Ty) (location : Location) (extractor : String)
    (inner : TypeRef) (ha : Annotations.binding? attributes = none)
    (hl : Lowering.lower index.known ty = ⟨extractor, [inner]⟩)
    (hq : TypeRef.lastSegment extractor ∈ queryExtractors) :
    let param := index.describe name attributes ty location
    param.name = name ∧
    (inner.name = "Option" ∧ inner.args = [param.ty] ∨
      param.ty = inner ∧ ¬(inner.name = "Option" ∧ ∃ value, inner.args = [value])) ∧
    (∀ element, param.element = some element ↔
      param.ty.name ∈ collectionNames ∧ param.ty.args = [element]) ∧
    (param.annotation = some (.query none) ↔ index.view.isPrimitive param.ty = true) ∧
    (param.annotation = none ↔ ∃ element,
      (param.ty.name ∈ collectionNames ∧ param.ty.args = [element]) ∧
        index.view.isPrimitive element = true) ∧
    (param.annotation = some .asParameters ↔ index.view.isPrimitive param.ty = false ∧
      ∀ element, param.ty.name ∈ collectionNames ∧ param.ty.args = [element] →
        index.view.isPrimitive element = false) ∧
    (index.view.isPrimitive param.ty = true → ∀ cx,
      (index.view.classify cx param).value =
        some { EndpointParameter.ofParameter param .query with key := some name } ∧
      (index.view.classify cx param).diagnostics = [] ∧
      ∀ parent, index.view.classifyChild cx parent param = index.view.classify cx param) ∧
    ∀ cx, (∀ diagnostic ∈ (index.view.classify cx param).diagnostics,
        diagnostic.code = .invalidQueryType →
          ∃ ctor, index.view.constructor? param.ty = some ctor ∧ ∃ child ∈ ctor.params,
            diagnostic ∈ (index.view.classifyChild cx param child).diagnostics) ∧
      ∀ parent, ∀ diagnostic ∈ (index.view.classifyChild cx parent param).diagnostics,
        diagnostic.code ≠ .invalidQueryType := by
  intro param
  have hunwrap : index.unwrapExtractor (Lowering.lower index.known ty) =
      (inner, index.queryAnnotation? inner) := by
    rw [hl, Index.unwrapExtractor_query hq]
  have hty : param.ty = (ParamShape.ofTypeRef inner).ty := by simp [param, Index.describe, hunwrap]
  have helement : param.element = (ParamShape.ofTypeRef inner).element := by
    simp [param, Index.describe, hunwrap]
  have hannotation : param.annotation = index.queryAnnotation? inner := by
    simp [param, Index.describe, hunwrap, ha]
  have hi : index.Implied param :=
    Index.implied_of_queryAnnotation? h hty helement hannotation
  have hcollection : ∀ element, param.element = some element ↔
      param.ty.name ∈ collectionNames ∧ param.ty.args = [element] := by
    intro element
    rw [helement, hty]
    exact ParamShape.element?_eq_some_iff
  have hnone := hi.none_iff
  have hgroup := hi.group_iff
  simp only [hcollection] at hnone hgroup
  refine ⟨rfl, ?_, hcollection, hi.query_iff, hnone, hgroup, ?_, ?_⟩
  · rw [hty]
    exact ParamShape.unwrapOption_cases inner
  · intro hp cx
    obtain ⟨hvalue, hquiet⟩ := hi.bound hp cx
    have hquery : param.annotation = some (.query none) := hi.query_iff.mpr hp
    exact ⟨hvalue, hquiet, fun parent => TypeView.classifyChild_eq parent (by simp [hquery])⟩
  · intro cx
    exact ⟨fun diagnostic hd hc => (hi.of_invalidQueryType hd hc).2,
      fun parent diagnostic hd => hi.member_reports hd⟩

theorem query_extractors_agree_sort :
    let index : Index := { types := [("Sort", ⟨.enumeration, none⟩)] }
    let sortTy : Ty := .path [.mk "web" [], .mk "RequestParam"
      [.ty (.path [.mk "Option" [.ty (.path [.mk "Sort" []])]])]]
    let idsTy : Ty := .path [.mk "Query" [.ty (.path [.mk "Vec" [.ty (.path [.mk "u32" []])]])]]
    let sort := index.describe "sort" [] sortTy {}
    let ids := index.describe "ids" [] idsTy {}
    let cx : BindingContext := { handler := "items", verb := .get, bodyless := true }
    index.CollectionsApart ∧ Annotations.binding? [] = none ∧
    Lowering.lower index.known sortTy = ⟨"web::RequestParam", [⟨"Option", [.named "Sort"]⟩]⟩ ∧
    TypeRef.lastSegment "web::RequestParam" ∈ queryExtractors ∧
    sort.ty = .named "Sort" ∧ sort.annotation = some (.query none) ∧
    (index.view.classify cx sort).value =
      some { EndpointParameter.ofParameter sort .query with key := some "sort" } ∧
    Lowering.lower index.known idsTy = ⟨"Query", [⟨"Vec", [.named "u32"]⟩]⟩ ∧
    TypeRef.lastSegment "Query" ∈ queryExtractors ∧
    ids.ty = ⟨"Vec", [.named "u32"]⟩ ∧ ids.element = some (.named "u32") ∧ ids.annotation = none := by
  intro index sortTy idsTy sort ids cx
  have hapart : index.CollectionsApart := by
    intro name hn
    refine ⟨by revert name; decide, ?_⟩
    intro file
    have hnone : index.type? name = none := by revert name; decide
    simp [hnone]
  have hsl : Lowering.lower index.known sortTy =
      ⟨"web::RequestParam", [⟨"Option", [.named "Sort"]⟩]⟩ := by decide +kernel
  have hsq : TypeRef.lastSegment "web::RequestParam" ∈ queryExtractors := by decide +kernel
  have hil : Lowering.lower index.known idsTy = ⟨"Query", [⟨"Vec", [.named "u32"]⟩]⟩ := by
    decide +kernel
  have hiq : TypeRef.lastSegment "Query" ∈ queryExtractors := by decide +kernel
  obtain ⟨-, -, -, hquery, -, -, hbound, -⟩ :=
    query_extractors_agree index hapart "sort" [] sortTy {} _ _ rfl hsl hsq
  obtain ⟨-, -, helement, -, hnone, -⟩ :=
    query_extractors_agree index hapart "ids" [] idsTy {} _ _ rfl hil hiq
  have hscalar : index.view.isPrimitive sort.ty = true := by decide +kernel
  have hvec : ids.ty = ⟨"Vec", [.named "u32"]⟩ := by decide +kernel
  have hseveral : ids.ty.name ∈ collectionNames ∧ ids.ty.args = [.named "u32"] := by
    rw [hvec]
    decide +kernel
  exact ⟨hapart, rfl, hsl, hsq, by decide +kernel, hquery.mpr hscalar, (hbound hscalar cx).1, hil,
    hiq, hvec, (helement _).mpr hseveral, hnone.mpr ⟨_, hseveral, by decide +kernel⟩⟩

end EndpointInference

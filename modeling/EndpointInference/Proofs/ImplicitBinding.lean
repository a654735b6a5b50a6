import EndpointInference.Proofs.BodyExclusive
import EndpointInference.Proofs.BoundTree

/-!
# Parameters without an annotation

The first rule that applies decides (`classifyWith_of_first`). Without an annotation five of the
rules can apply, and their tests overlap. Put one behind the other they come to a single case
distinction on the parameter (`implicitSource`): a parameter is rejected only where it is named like
a variable of the route and cannot be read from a text (`Unroutable`), and remarked on only where it
might have been meant for a body that the request does not have (`Ambiguous`).
-/

namespace EndpointInference

namespace TypeView

/-- A variable of the route that is not a single value, or cannot be read from a text. -/
def Unroutable (view : TypeView) (cx : BindingContext) (param : Parameter) : Prop :=
  param.special = none ∧ cx.isRouteVariable param.name = true ∧
    (param.isCollection = true ∨ view.isPrimitive param.ty = false ∧ param.hasTryParse = false)

def isTextual (view : TypeView) (param : Parameter) : Bool :=
  view.isScalar param || view.isCollectionOfPrimitives param || param.hasTryParse

def implicitSource (view : TypeView) (cx : BindingContext) (param : Parameter) : BindingSource :=
  match param.special with
  | some role => .ofSpecial role
  | none =>
    if cx.isRouteVariable param.name then .route
    else if view.isTextual param then .query
    else if param.customBinding = some .bindAsync ∨ param.customBinding = some .bindable then
      .custom
    else if view.looksLikeService param then .service
    else if view.isPrimitive param.ty then .service
    else if cx.bodyless then .service
    else .body

/-- All rules but the last pass over the parameter, and it could only come from a body. -/
def Ambiguous (view : TypeView) (cx : BindingContext) (param : Parameter) : Prop :=
  param.special = none ∧ cx.isRouteVariable param.name = false ∧ view.isTextual param = false ∧
    param.customBinding = none ∧ view.looksLikeService param = false ∧
    view.isPrimitive param.ty = false ∧ cx.bodyless = true

instance (view : TypeView) (cx : BindingContext) (param : Parameter) :
    Decidable (view.Unroutable cx param) :=
  inferInstanceAs (Decidable (_ ∧ _ ∧ (_ ∨ _ ∧ _)))

instance (view : TypeView) (cx : BindingContext) (param : Parameter) :
    Decidable (view.Ambiguous cx param) :=
  inferInstanceAs (Decidable (_ ∧ _ ∧ _ ∧ _ ∧ _ ∧ _ ∧ _))

section
variable {view : TypeView} {cx : BindingContext} {param : Parameter}

-- ---------------------------------------------------------------------------
-- The first rule that applies
-- ---------------------------------------------------------------------------

@[simp] theorem diagnostics_decided (rule : BindingRule) (result : Bound) :
    (decided cx param rule result).diagnostics = [] := by
  cases result <;> rfl

theorem classifyWith_of_first {group : Parameter → Logged Bound} {before after : List BindingRule}
    (ho : BindingRule.order = before ++ rule :: after)
    (hb : ∀ other ∈ before, view.applyRule? group cx param other = none)
    (hr : view.applyRule? group cx param rule = some result) :
    (view.classifyWith group cx param).value = result.value ∧
      (view.classifyWith group cx param).diagnostics = result.diagnostics := by
  have hbefore : before.findSome? (fun rule =>
      (view.applyRule? group cx param rule).map fun result => (rule, result)) = none := by
    rw [List.findSome?_eq_none_iff]
    intro other hm
    rw [hb other hm, Option.map_none]
  have hfirst : BindingRule.order.findSome? (fun rule =>
      (view.applyRule? group cx param rule).map fun result => (rule, result)) =
        some (rule, result) := by
    rw [ho, List.findSome?_append, hbefore, Option.none_or, List.findSome?_cons, hr,
      Option.map_some]
  simp [classifyWith, hfirst]

-- ---------------------------------------------------------------------------
-- The last rule
-- ---------------------------------------------------------------------------

/-- Behind the other rules a complex type is one that is not primitive. -/
theorem isComplex_of_not_textual (hs : param.special = none) (ht : view.isTextual param = false) :
    view.isComplex param = !view.isPrimitive param.ty := by
  simp only [isTextual, isScalar, Bool.or_eq_false_iff] at ht
  obtain ⟨⟨hscalar, hcoll⟩, hparse⟩ := ht
  cases hp : view.isPrimitive param.ty <;> simp_all [isComplex, isRouteBindable]

theorem bindFallback_eq (cx : BindingContext) (hs : param.special = none)
    (ht : view.isTextual param = false) :
    (view.bindFallback cx param).value =
        some (.ofParameter param
          (if view.looksLikeService param || view.isPrimitive param.ty || cx.bodyless then .service
            else .body)) ∧
      (view.bindFallback cx param).diagnostics =
        if !view.looksLikeService param && !view.isPrimitive param.ty && cx.bodyless then
          [.ambiguousBodylessBinding param.name param.ty.text cx.verb.text param.location]
        else [] := by
  unfold bindFallback
  rw [isComplex_of_not_textual hs ht]
  cases view.looksLikeService param <;> cases view.isPrimitive param.ty <;>
    cases cx.bodyless <;> simp

-- ---------------------------------------------------------------------------
-- Rule by rule
-- ---------------------------------------------------------------------------

theorem classify_special (h : param.annotation = none) (hs : param.special = some role) :
    (view.classify cx param).value = some (.ofParameter param (.ofSpecial role)) ∧
      (view.classify cx param).diagnostics = [] := by
  have hb : ∀ rule ∈ BindingRule.order.take 7,
      view.applyRule? (view.expandGroup cx) cx param rule = none := by
    simp [BindingRule.order, applyRule?, h]
  have hr : view.applyRule? (view.expandGroup cx) cx param .specialRole =
      some (pure (some (.ofParameter param (.ofSpecial role)))) := by
    simp [applyRule?, hs]
  exact classifyWith_of_first rfl hb hr

theorem classify_route (h : param.annotation = none) (hs : param.special = none)
    (hv : cx.isRouteVariable param.name = true) :
    (view.classify cx param).value =
        (if view.isRouteBindable param then some (.keyed param .route none) else none) ∧
      (view.classify cx param).diagnostics =
        if view.isRouteBindable param then []
        else [.invalidBindingType .invalidRouteType param.name param.ty.text param.location] := by
  have hb : ∀ rule ∈ BindingRule.order.take 8,
      view.applyRule? (view.expandGroup cx) cx param rule = none := by
    simp [BindingRule.order, applyRule?, h, hs]
  have hr : view.applyRule? (view.expandGroup cx) cx param .implicitRoute =
      some (if view.isRouteBindable param then pure (some (.keyed param .route none))
        else rejectType .invalidRouteType param) := by
    simp [applyRule?, hv]
  obtain ⟨hvalue, hdiagnostics⟩ := classifyWith_of_first rfl hb hr
  rw [classify, hvalue, hdiagnostics]
  cases view.isRouteBindable param <;> exact ⟨rfl, rfl⟩

/-- A value that is read from a text is bound by a later rule than the others, in the same way. -/
theorem classify_textual (h : param.annotation = none) (hs : param.special = none)
    (hv : cx.isRouteVariable param.name = false) (ht : view.isTextual param = true) :
    (view.classify cx param).value = some (.keyed param .query none) ∧
      (view.classify cx param).diagnostics = [] := by
  cases hp : view.isScalar param || view.isCollectionOfPrimitives param with
  | true =>
    have hb : ∀ rule ∈ BindingRule.order.take 9,
        view.applyRule? (view.expandGroup cx) cx param rule = none := by
      simp [BindingRule.order, applyRule?, h, hs, hv]
    have hr : view.applyRule? (view.expandGroup cx) cx param .implicitQuery =
        some (pure (some (.keyed param .query none))) := by
      simp [applyRule?, hp]
    exact classifyWith_of_first rfl hb hr
  | false =>
    have hb : ∀ rule ∈ BindingRule.order.take 10,
        view.applyRule? (view.expandGroup cx) cx param rule = none := by
      simp [BindingRule.order, applyRule?, h, hs, hv, hp]
    have hparse : param.customBinding = some .tryParse := by
      simpa [isTextual, hp, Parameter.hasTryParse] using ht
    have hr : view.applyRule? (view.expandGroup cx) cx param .customParsing =
        some (pure (some (.keyed param .query none))) := by
      simp [applyRule?, hparse, hv]
    exact classifyWith_of_first rfl hb hr

theorem classify_custom (h : param.annotation = none) (hs : param.special = none)
    (hv : cx.isRouteVariable param.name = false) (ht : view.isTextual param = false)
    (hc : param.customBinding = some .bindAsync ∨ param.customBinding = some .bindable) :
    (view.classify cx param).value = some (.ofParameter param .custom) ∧
      (view.classify cx param).diagnostics = [] := by
  have hp : (view.isScalar param || view.isCollectionOfPrimitives param) = false :=
    (Bool.or_eq_false_iff.mp ht).1
  have hb : ∀ rule ∈ BindingRule.order.take 10,
      view.applyRule? (view.expandGroup cx) cx param rule = none := by
    simp [BindingRule.order, applyRule?, h, hs, hv, hp]
  have hr : view.applyRule? (view.expandGroup cx) cx param .customParsing =
      some (pure (some (.ofParameter param .custom))) := by
    rcases hc with hc | hc <;> simp [applyRule?, hc]
  exact classifyWith_of_first rfl hb hr

theorem classify_fallback (h : param.annotation = none) (hs : param.special = none)
    (hv : cx.isRouteVariable param.name = false) (ht : view.isTextual param = false)
    (hc : param.customBinding = none) :
    (view.classify cx param).value = (view.bindFallback cx param).value ∧
      (view.classify cx param).diagnostics = (view.bindFallback cx param).diagnostics := by
  have hp : (view.isScalar param || view.isCollectionOfPrimitives param) = false :=
    (Bool.or_eq_false_iff.mp ht).1
  have hb : ∀ rule ∈ BindingRule.order.take 11,
      view.applyRule? (view.expandGroup cx) cx param rule = none := by
    simp [BindingRule.order, applyRule?, h, hs, hv, hp, hc]
  exact classifyWith_of_first rfl hb (by simp [applyRule?])

theorem unroutable_iff (hs : param.special = none) (hv : cx.isRouteVariable param.name = true) :
    view.Unroutable cx param ↔ view.isRouteBindable param = false := by
  cases hc : param.isCollection <;> simp [Unroutable, isRouteBindable, hs, hv, hc]

end

end TypeView

open TypeView in
/-- A parameter without an annotation is rejected exactly if it is a variable of the route that
cannot be one, with one diagnostic that says so. Every other is bound from the source that its case
gives, under its own name where it comes from the route or the query. Nothing is remarked on but the
ambiguous case, and that once. -/
theorem implicit_binding_complete (view : TypeView) (cx : BindingContext) (param : Parameter)
    (h : param.annotation = none) :
    ((view.classify cx param).value = none ↔ view.Unroutable cx param) ∧
    (view.Unroutable cx param → (view.classify cx param).diagnostics =
      [.invalidBindingType .invalidRouteType param.name param.ty.text param.location]) ∧
    (¬ view.Unroutable cx param →
      (view.classify cx param).value = some
        { EndpointParameter.ofParameter param (view.implicitSource cx param) with
          key :=
            if view.implicitSource cx param = .route ∨ view.implicitSource cx param = .query then
              some param.name
            else none } ∧
      (view.Ambiguous cx param → (view.classify cx param).diagnostics =
        [.ambiguousBodylessBinding param.name param.ty.text cx.verb.text param.location]) ∧
      (¬ view.Ambiguous cx param → (view.classify cx param).diagnostics = [])) := by
  cases hs : param.special with
  | some role =>
    obtain ⟨hvalue, hdiagnostics⟩ := classify_special h hs
    have hu : ¬ view.Unroutable cx param := by simp [Unroutable, hs]
    have ha : ¬ view.Ambiguous cx param := by simp [Ambiguous, hs]
    have hsource : view.implicitSource cx param = .ofSpecial role := by simp [implicitSource, hs]
    rw [hvalue, hdiagnostics, hsource]
    cases role <;> simp [hu, ha, BindingSource.ofSpecial, EndpointParameter.ofParameter]
  | none =>
    cases hv : cx.isRouteVariable param.name with
    | true =>
      obtain ⟨hvalue, hdiagnostics⟩ := classify_route h hs hv
      have hu : view.Unroutable cx param ↔ view.isRouteBindable param = false :=
        unroutable_iff hs hv
      have ha : ¬ view.Ambiguous cx param := by simp [Ambiguous, hv]
      have hsource : view.implicitSource cx param = .route := by simp [implicitSource, hs, hv]
      rw [hvalue, hdiagnostics, hsource]
      cases hb : view.isRouteBindable param <;> simp [hu, hb, ha, EndpointParameter.keyed]
    | false =>
      have hu : ¬ view.Unroutable cx param := by simp [Unroutable, hv]
      cases ht : view.isTextual param with
      | true =>
        obtain ⟨hvalue, hdiagnostics⟩ := classify_textual h hs hv ht
        have ha : ¬ view.Ambiguous cx param := by simp [Ambiguous, ht]
        have hsource : view.implicitSource cx param = .query := by
          simp [implicitSource, hs, hv, ht]
        rw [hvalue, hdiagnostics, hsource]
        simp [hu, ha, EndpointParameter.keyed]
      | false =>
        by_cases hc : param.customBinding = some .bindAsync ∨ param.customBinding = some .bindable
        · obtain ⟨hvalue, hdiagnostics⟩ := classify_custom h hs hv ht hc
          have ha : ¬ view.Ambiguous cx param := by
            rcases hc with hc | hc <;> simp [Ambiguous, hc]
          have hsource : view.implicitSource cx param = .custom := by
            simp [implicitSource, hs, hv, ht, hc]
          rw [hvalue, hdiagnostics, hsource]
          simp [hu, ha, EndpointParameter.ofParameter]
        · have hnone : param.customBinding = none := by
            have hparse : param.hasTryParse = false := (Bool.or_eq_false_iff.mp ht).2
            cases hb : param.customBinding with
            | none => rfl
            | some binding => cases binding <;> simp_all [Parameter.hasTryParse]
          obtain ⟨hvalue, hdiagnostics⟩ := classify_fallback h hs hv ht hnone
          obtain ⟨hfvalue, hfdiagnostics⟩ := bindFallback_eq cx hs ht
          rw [hvalue, hdiagnostics, hfvalue, hfdiagnostics]
          simp only [implicitSource, Ambiguous, hs, hv, ht, hnone]
          cases view.looksLikeService param <;> cases view.isPrimitive param.ty <;>
            cases cx.bodyless <;> simp [hu, EndpointParameter.ofParameter]

theorem implicit_binding_complete_search :
    let view : TypeView := ⟨.ofTypes searchTypes, {}⟩
    let cx : BindingContext :=
      { handler := "search", routeVariables := ["id"], verb := .get, bodyless := true }
    let param : Parameter := { name := "filter", ty := .named "Search" }
    param.annotation = none ∧ ¬ view.Unroutable cx param ∧ view.Ambiguous cx param ∧
    (view.classify cx param).value = some (.ofParameter param .service) ∧
    (view.classify cx param).diagnostics =
      [.ambiguousBodylessBinding "filter" "Search" "GET" param.location] := by
  intro view cx param
  have hu : ¬ view.Unroutable cx param := by decide +kernel
  have ha : view.Ambiguous cx param := by decide +kernel
  have hsource : view.implicitSource cx param = .service := by decide +kernel
  obtain ⟨-, -, hbound⟩ := implicit_binding_complete view cx param rfl
  obtain ⟨hvalue, hremark, -⟩ := hbound hu
  rw [hsource] at hvalue
  exact ⟨rfl, hu, ha, hvalue, hremark ha⟩

end EndpointInference

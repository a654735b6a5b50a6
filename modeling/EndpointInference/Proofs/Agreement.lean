import EndpointInference.Analysis
import EndpointInference.Proofs.Course

/-!
# An analysis depends on the answers alone

Symbols come with lists that bound an analysis: the elements that may have a body, and the types of
constructor parameters. Symbols that give the same answers (`Symbols.Agree`) may differ in the first
list and in the order of the second. A handler's analysis is the same for both
(`Symbols.Agree.analyze`), since a scan follows one course whatever bounds it.
-/

namespace EndpointInference

open EndpointInference.Syntax

/-- The same answers, and as many types of constructor parameters. -/
structure Symbols.Agree (first second : Symbols) : Prop where
  typeInfo? : first.typeInfo? = second.typeInfo?
  resolveCall? : first.resolveCall? = second.resolveCall?
  resolveReference? : first.resolveReference? = second.resolveReference?
  body? : first.body? = second.body?
  foldConstant? : first.foldConstant? = second.foldConstant?
  locate : first.locate = second.locate
  memberTypes : first.memberTypes.length = second.memberTypes.length

-- ---------------------------------------------------------------------------
-- Binding
-- ---------------------------------------------------------------------------

namespace TypeView

structure Alike (first second : TypeView) : Prop where
  known : first.known = second.known
  typeInfo? : first.symbols.typeInfo? = second.symbols.typeInfo?
  memberTypes : first.symbols.memberTypes.length = second.symbols.memberTypes.length

namespace Alike

section
variable {first second : TypeView} (h : first.Alike second)
include h

theorem isPrimitive : first.isPrimitive = second.isPrimitive := by
  funext ty
  rw [TypeView.isPrimitive, TypeView.isPrimitive, h.known, h.typeInfo?]

theorem isCollectionOfPrimitives :
    first.isCollectionOfPrimitives = second.isCollectionOfPrimitives := by
  funext param
  rw [TypeView.isCollectionOfPrimitives, TypeView.isCollectionOfPrimitives, h.isPrimitive]

theorem isScalar : first.isScalar = second.isScalar := by
  funext param
  rw [TypeView.isScalar, TypeView.isScalar, h.isPrimitive]

theorem isRouteBindable : first.isRouteBindable = second.isRouteBindable := by
  funext param
  rw [TypeView.isRouteBindable, TypeView.isRouteBindable, h.isPrimitive]

theorem isHeaderBindable : first.isHeaderBindable = second.isHeaderBindable := by
  funext param
  rw [TypeView.isHeaderBindable, TypeView.isHeaderBindable, h.isRouteBindable,
    h.isCollectionOfPrimitives]

theorem looksLikeService : first.looksLikeService = second.looksLikeService := by
  funext param
  rw [TypeView.looksLikeService, TypeView.looksLikeService, h.typeInfo?, h.known]

theorem isComplex : first.isComplex = second.isComplex := by
  funext param
  rw [TypeView.isComplex, TypeView.isComplex, h.isPrimitive, h.isRouteBindable,
    h.isCollectionOfPrimitives]

theorem constructor? : first.constructor? = second.constructor? := by
  funext ty
  rw [TypeView.constructor?, TypeView.constructor?, h.typeInfo?]

theorem bindFormWithin : first.bindFormWithin = second.bindFormWithin := by
  funext depth path param name
  induction depth generalizing path param name with
  | zero =>
    unfold TypeView.bindFormWithin
    rw [h.isScalar, h.isCollectionOfPrimitives, h.constructor?]
    cases second.constructor? param.ty <;> rfl
  | succ depth ih =>
    unfold TypeView.bindFormWithin
    rw [h.isScalar, h.isCollectionOfPrimitives, h.constructor?]
    cases second.constructor? param.ty with
    | none => rfl
    | some ctor => simp only [ih]

theorem bindForm : first.bindForm = second.bindForm := by
  funext param name
  rw [TypeView.bindForm, TypeView.bindForm, h.memberTypes, h.bindFormWithin]

theorem bindFallback : first.bindFallback = second.bindFallback := by
  funext cx param
  rw [TypeView.bindFallback, TypeView.bindFallback, h.looksLikeService, h.isComplex]

theorem applyRule? : first.applyRule? = second.applyRule? := by
  funext group cx param rule
  cases rule <;>
    simp only [TypeView.applyRule?, h.isScalar, h.isRouteBindable, h.isHeaderBindable,
      h.isCollectionOfPrimitives, h.bindForm, h.bindFallback]

theorem classifyWith : first.classifyWith = second.classifyWith := by
  funext group cx param
  rw [TypeView.classifyWith, TypeView.classifyWith, h.applyRule?]

theorem expandGroup : first.expandGroup = second.expandGroup := by
  have hchild : first.classifyChild = second.classifyChild := by
    funext cx param child
    simp only [classifyChild, classifyMember, h.classifyWith]
  funext cx param
  simp only [TypeView.expandGroup, h.constructor?, hchild]

theorem classifyHandler : first.classifyHandler = second.classifyHandler := by
  have hclassify : first.classify = second.classify := by
    funext cx param
    rw [classify, classify, h.classifyWith, h.expandGroup]
  funext handler
  rw [TypeView.classifyHandler, TypeView.classifyHandler, hclassify]

end

end Alike

end TypeView

-- ---------------------------------------------------------------------------
-- Sites
-- ---------------------------------------------------------------------------

namespace Symbols.Agree

section
variable {first second : Symbols} (h : first.Agree second) (known : WellKnown)
include h

theorem customError? : customError? first = customError? second := by
  funext scope args
  simp only [EndpointInference.customError?, constantText?, constantStatus?, h.foldConstant?]

theorem ownSites (scope : ElementId) (e : Expr) :
    SiteContext.ownSites ⟨first, known, scope⟩ e =
      SiteContext.ownSites ⟨second, known, scope⟩ e := by
  cases e with
  | path p => simp only [SiteContext.ownSites, SiteContext.pathSites, h.resolveReference?]
  | call start callee args =>
    have hfactory (factory : Factory) :
        SiteContext.factorySite ⟨first, known, scope⟩ args start factory =
          SiteContext.factorySite ⟨second, known, scope⟩ args start factory := by
      cases factory <;> simp only [SiteContext.factorySite, h.customError?]
    simp only [SiteContext.ownSites, SiteContext.callSites, SiteContext.calledFactory?, hfactory,
      h.resolveCall?]
  | methodCall values receiver method typeArgs args =>
    simp only [SiteContext.ownSites, SiteContext.callSites, h.resolveCall?]
  | _ => rfl

omit h in
/-- Where an analysis looks further down does not depend on the symbols. -/
theorem parts_eq (scope : ElementId) (e : Expr) :
    SiteContext.parts ⟨first, known, scope⟩ e = SiteContext.parts ⟨second, known, scope⟩ e := by
  cases e <;> rfl

theorem exprSites (scope : ElementId) (e : Expr) :
    SiteContext.exprSites ⟨first, known, scope⟩ e =
      SiteContext.exprSites ⟨second, known, scope⟩ e := by
  rw [SiteContext.exprSites_eq, SiteContext.exprSites_eq, h.ownSites, ← parts_eq]
  congr 1
  exact List.flatMap_congr fun part hp => exprSites scope part
termination_by sizeOf e
decreasing_by exact SiteContext.sizeOf_lt_of_mem_parts _ hp

end

end Symbols.Agree

-- ---------------------------------------------------------------------------
-- Scans
-- ---------------------------------------------------------------------------

namespace Scan

structure Alike (first second : Scan) : Prop where
  known : first.known = second.known
  handler : first.handler = second.handler
  declaresErrors : first.declaresErrors = second.declaresErrors
  locate : first.symbols.locate = second.symbols.locate
  sitesOf? : first.sitesOf? = second.sitesOf?

namespace Alike

section
variable {first second : Scan} (h : first.Alike second)
include h

theorem enter : first.enter = second.enter := by
  funext state element
  simp only [Scan.enter, h.sitesOf?, h.handler]

theorem visit : first.visit = second.visit := by
  have hfallible : first.isFallible = second.isFallible := by
    funext target
    rw [isFallible, isFallible, h.known]
  have hboundary : first.visitBoundary = second.visitBoundary := by
    funext state target start
    simp only [visitBoundary, hfallible, h.handler, h.declaresErrors, h.locate]
  funext state site
  cases site <;>
    simp only [Scan.visit, recordKind, recordCustom, h.handler, h.locate, h.enter, hboundary]

theorem run (state : ScanState) (work : List Site) :
    first.run state work = second.run state work := by
  obtain ⟨visits, entered, hc, hr⟩ := first.run_course state work
  have hsites : ∀ element, second.sites element = (first.sites element).map id := by
    intro element
    rw [List.map_id, sites, sites, h.sitesOf?]
  have hc' : second.Course state.visited work visits entered := by
    simpa using hc.map (fun _ => rfl) hsites
  rw [hr, hc'.run_eq state rfl, after, after, h.visit]

end

end Alike

end Scan

-- ---------------------------------------------------------------------------
-- Handlers
-- ---------------------------------------------------------------------------

namespace Symbols.Agree

section
variable {first second : Symbols} (h : first.Agree second) (known : WellKnown)
include h

theorem view : TypeView.Alike ⟨first, known⟩ ⟨second, known⟩ :=
  ⟨rfl, h.typeInfo?, h.memberTypes⟩

theorem scan (handler : Handler) :
    (Scan.ofHandler first known handler).Alike (Scan.ofHandler second known handler) := by
  refine ⟨rfl, rfl, rfl, h.locate, ?_⟩
  have hsites (element : ElementId) : SiteContext.bodySites ⟨first, known, element⟩ =
      SiteContext.bodySites ⟨second, known, element⟩ := by
    funext body
    rw [SiteContext.bodySites_eq, SiteContext.bodySites_eq]
    exact List.flatMap_congr fun e _ => h.exprSites known element e
  funext element
  simp only [Scan.sitesOf?, Scan.ofHandler, h.body?, hsites]

theorem collectErrors : collectErrors first known = collectErrors second known := by
  funext handler
  have hscan := h.scan known handler
  rw [collectErrors_eq, collectErrors_eq, hscan.run, Scan.sites, Scan.sites, hscan.sitesOf?]

theorem inferSuccess? : inferSuccess? first known = inferSuccess? second known := by
  funext returnType isAsync
  simp only [EndpointInference.inferSuccess?]
  congr 1
  funext payload
  simp only [SuccessShape.ofPayload, h.typeInfo?]

theorem analyze (options : Options) :
    Analyzer.analyze ⟨first, options⟩ = Analyzer.analyze ⟨second, options⟩ := by
  funext handler
  simp only [Analyzer.analyze, Analyzer.success?, Analyzer.view, Analyzer.contract, Analyzer.known,
    h.inferSuccess?, h.collectErrors, (h.view _).classifyHandler]

end

end Symbols.Agree

end EndpointInference

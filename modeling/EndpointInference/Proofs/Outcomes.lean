import EndpointInference.Index.Handlers
import EndpointInference.Proofs.Collector
import EndpointInference.Proofs.Course

/-!
# The errors of a handler are those that can be reached

The graph is read off the program and not off the scan: an element uses another where an expression
visited in its body calls it or refers to it. `collectErrors_exact`: the errors collected for a
handler are the ones it declares, and those that are made, or declared for a call without a body, in
the bodies of the elements that can be reached from it.
-/

namespace EndpointInference

open EndpointInference.Syntax

-- ---------------------------------------------------------------------------
-- What a body does
-- ---------------------------------------------------------------------------

theorem CallTarget.isBoundary_iff {target : CallTarget} :
    target.isBoundary = true ↔ target.kind = .interface ∨ target.kind = .abstract := by
  simp [CallTarget.isBoundary]

theorem CallTarget.isBoundary_eq_false_iff {target : CallTarget} :
    target.isBoundary = false ↔ target.kind ≠ .interface ∧ target.kind ≠ .abstract := by
  simp [CallTarget.isBoundary]

namespace SiteContext

def callSite? (cx : SiteContext) : Expr → Option CallSite
  | .call _ callee _ => if (cx.calledFactory? callee).isSome then none else some (.function callee)
  | .methodCall _ receiver method _ _ => some (.method receiver method.text)
  | _ => none

def Visits (cx : SiteContext) (e : Expr) : Prop :=
  ∃ body, cx.symbols.body? cx.scope = some body ∧ cx.Visited body e

def Calls (cx : SiteContext) (target : CallTarget) : Prop :=
  ∃ e site found, cx.Visits e ∧ cx.callSite? e = some site ∧
    cx.symbols.resolveCall? cx.scope site = some found ∧ found.value = target

/-- The body has a path, other than one of the error type, that refers to this element. -/
def RefersTo (cx : SiteContext) (element : ElementId) : Prop :=
  ∃ p, cx.Visits (.path p) ∧ Factory.ofNames? cx.known p.names = none ∧
    cx.symbols.resolveReference? cx.scope p = some element

/-- The body calls this element, and its body can be scanned, or refers to it. -/
def Uses (cx : SiteContext) (element : ElementId) : Prop :=
  (∃ target, cx.Calls target ∧ (target.kind ≠ .interface ∧ target.kind ≠ .abstract) ∧
    target.element = some element) ∨ cx.RefersTo element

def MakesKind (cx : SiteContext) (kind : ErrorKind) : Prop :=
  ∃ p, Factory.ofNames? cx.known p.names = some (.kind kind) ∧
    (cx.Visits (.path p) ∨ ∃ start args, cx.Visits (.call start (.path p) args))

def MakesCustom (cx : SiteContext) (code : CustomErrorCode) : Prop :=
  ∃ p start args, Factory.ofNames? cx.known p.names = some .custom ∧
    cx.Visits (.call start (.path p) args) ∧ customError? cx.symbols cx.scope args = some code

/-- The body calls something without a body that may fail and declares these errors. -/
def Inherits (cx : SiteContext) (declared : DeclaredErrors) : Prop :=
  ∃ target ty, cx.Calls target ∧ (target.kind = .interface ∨ target.kind = .abstract) ∧
    target.returns = some ty ∧ (cx.known.falliblePayload? ty).isSome ∧
      target.declaredErrors = some declared

-- ---------------------------------------------------------------------------
-- The sites of one expression
-- ---------------------------------------------------------------------------

section
variable {cx : SiteContext}

theorem call_mem_callSites :
    .call found start ∈ cx.callSites site place ↔
      cx.symbols.resolveCall? cx.scope site = some found ∧ start = place := by
  cases h : cx.symbols.resolveCall? cx.scope site <;> simp [callSites, h, eq_comm]

theorem kind_mem_ownSites :
    .kind kind ∈ cx.ownSites e ↔ ∃ p, Factory.ofNames? cx.known p.names = some (.kind kind) ∧
      (e = .path p ∨ ∃ start args, e = .call start (.path p) args) := by
  cases e with
  | path p =>
    cases h : Factory.ofNames? cx.known p.names with
    | none => simp [ownSites, pathSites, h]
    | some factory => cases factory <;> simp [ownSites, pathSites, h, eq_comm]
  | call start callee args =>
    cases callee with
    | path p =>
      cases h : Factory.ofNames? cx.known p.names with
      | none => simp [ownSites, calledFactory?, callSites, h]
      | some factory => cases factory <;> simp [ownSites, calledFactory?, factorySite, h, eq_comm]
    | _ => simp [ownSites, calledFactory?, callSites]
  | _ => simp [ownSites, callSites]

theorem custom_mem_ownSites :
    .custom (some code) ∈ cx.ownSites e ↔
      ∃ p start args, e = .call start (.path p) args ∧
        Factory.ofNames? cx.known p.names = some .custom ∧
          customError? cx.symbols cx.scope args = some code := by
  cases e with
  | path p =>
    cases h : Factory.ofNames? cx.known p.names with
    | none => simp [ownSites, pathSites, h]
    | some factory => cases factory <;> simp [ownSites, pathSites, h]
  | call start callee args =>
    cases callee with
    | path p =>
      cases h : Factory.ofNames? cx.known p.names with
      | none => simp [ownSites, calledFactory?, callSites, h]
      | some factory =>
        cases factory with
        | custom =>
          simp only [ownSites, calledFactory?, factorySite, h, List.mem_singleton,
            Site.custom.injEq]
          constructor
          · intro hc
            exact ⟨p, start, args, rfl, h, hc.symm⟩
          · rintro ⟨p', start', args', he, -, hc⟩
            cases he
            exact hc.symm
        | _ => simp [ownSites, calledFactory?, factorySite, h]
    | _ => simp [ownSites, calledFactory?, callSites]
  | _ => simp [ownSites, callSites]

theorem reference_mem_ownSites :
    .reference element ∈ cx.ownSites e ↔ ∃ p, e = .path p ∧
      Factory.ofNames? cx.known p.names = none ∧
        cx.symbols.resolveReference? cx.scope p = some element := by
  cases e with
  | path p =>
    simp only [ownSites, pathSites]
    split <;> simp_all
  | call start callee args =>
    simp only [ownSites]
    split
    · next factory _ => cases factory <;> simp [factorySite]
    · simp [callSites]
  | _ => simp [ownSites, callSites]

theorem call_mem_ownSites :
    (∃ start, .call found start ∈ cx.ownSites e) ↔
      ∃ site, cx.callSite? e = some site ∧ cx.symbols.resolveCall? cx.scope site = some found := by
  cases e with
  | path p =>
    simp only [ownSites, pathSites, callSite?]
    split <;> simp
  | call start callee args =>
    simp only [ownSites, callSite?]
    split
    · next factory h => cases factory <;> simp [factorySite, h]
    · next h => simp [call_mem_callSites, h]
  | methodCall values receiver method typeArgs args =>
    simp [ownSites, call_mem_callSites, callSite?]
  | _ => simp [ownSites, callSite?]

end

end SiteContext

namespace Scan

def within (scan : Scan) (element : ElementId) : SiteContext :=
  ⟨scan.symbols, scan.known, element⟩

theorem mem_sites {scan : Scan} :
    site ∈ scan.sites element ↔
      ∃ e, (scan.within element).Visits e ∧ site ∈ (scan.within element).ownSites e := by
  unfold sites sitesOf? SiteContext.Visits within
  cases scan.symbols.body? element with
  | none => simp
  | some body => simp [SiteContext.mem_bodySites]

section
variable {scan : Scan}

theorem call_mem_sites :
    (∃ start, .call found start ∈ scan.sites element) ↔
      ∃ e site, (scan.within element).Visits e ∧ (scan.within element).callSite? e = some site ∧
        scan.symbols.resolveCall? element site = some found := by
  constructor
  · rintro ⟨start, h⟩
    obtain ⟨e, hv, ho⟩ := mem_sites.mp h
    obtain ⟨site, hc, hf⟩ := SiteContext.call_mem_ownSites.mp ⟨start, ho⟩
    exact ⟨e, site, hv, hc, hf⟩
  · rintro ⟨e, site, hv, hc, hf⟩
    obtain ⟨start, ho⟩ := SiteContext.call_mem_ownSites.mpr ⟨site, hc, hf⟩
    exact ⟨start, mem_sites.mpr ⟨e, hv, ho⟩⟩

theorem leads_iff_uses : scan.Leads element other ↔ (scan.within element).Uses other := by
  constructor
  · rintro ⟨site, hs, hl⟩
    cases site with
    | call found start =>
      obtain ⟨e, place, hv, hc, hf⟩ := call_mem_sites.mp ⟨start, hs⟩
      simp only [Site.leadsTo?] at hl
      split at hl
      · cases hl
      · next hb =>
        have hkind := CallTarget.isBoundary_eq_false_iff.mp (Bool.not_eq_true _ ▸ hb)
        exact .inl ⟨found.value, ⟨e, place, found, hv, hc, hf, rfl⟩, hkind, hl⟩
    | reference element =>
      obtain rfl : element = other := by simpa [Site.leadsTo?] using hl
      obtain ⟨e, hv, ho⟩ := mem_sites.mp hs
      obtain ⟨p, rfl, hn, hr⟩ := SiteContext.reference_mem_ownSites.mp ho
      exact .inr ⟨p, hv, hn, hr⟩
    | _ => simp [Site.leadsTo?] at hl
  · rintro (⟨target, ⟨e, site, found, hv, hc, hf, rfl⟩, hb, he⟩ | ⟨p, hv, hn, hr⟩)
    · obtain ⟨start, hs⟩ := call_mem_sites.mpr ⟨e, site, hv, hc, hf⟩
      exact ⟨_, hs, by simp [Site.leadsTo?, CallTarget.isBoundary_eq_false_iff.mpr hb, he]⟩
    · refine ⟨.reference other, mem_sites.mpr ⟨_, hv, ?_⟩, rfl⟩
      exact SiteContext.reference_mem_ownSites.mpr ⟨p, rfl, hn, hr⟩

-- ---------------------------------------------------------------------------
-- The errors of a site
-- ---------------------------------------------------------------------------

def errorsOf (scan : Scan) : Site → DeclaredErrors
  | .kind kind => { kinds := [kind] }
  | .custom (some code) => { custom := [code] }
  | .call target _ =>
    if target.value.isBoundary && scan.isFallible target.value then
      target.value.declaredErrors.getD {}
    else {}
  | _ => {}

def allErrors (scan : Scan) (visits : List Site) : DeclaredErrors where
  kinds := visits.flatMap fun site => (scan.errorsOf site).kinds
  custom := visits.flatMap fun site => (scan.errorsOf site).custom

theorem outcomes_enter (state : ScanState) (element : ElementId) :
    (scan.enter state element).1.outcomes = state.outcomes := by
  unfold enter
  split
  · rfl
  · split <;> rfl

theorem outcomes_visitBoundary (state : ScanState) (hb : target.isBoundary = true) :
    (scan.visitBoundary state target start).outcomes =
      state.outcomes.recordDeclared (scan.errorsOf (.call ⟨target, log⟩ start)) := by
  unfold visitBoundary
  by_cases hf : scan.isFallible target = true
  · cases hd : target.declaredErrors with
    | some declared => simp [errorsOf, hb, hf, hd]
    | none =>
      simp only [hf, Bool.not_true, Bool.false_eq_true, ↓reduceIte, errorsOf, hb, hd]
      split <;> rfl
  · simp [errorsOf, hf, OutcomeCollector.recordDeclared]

theorem outcomes_visit (state : ScanState) (site : Site) :
    (scan.visit state site).1.outcomes =
      state.outcomes.recordDeclared (scan.errorsOf site) := by
  cases site with
  | kind kind =>
    simp only [visit, recordKind]
    split <;> rfl
  | custom code => cases code <;> rfl
  | unknown text start => rfl
  | reference element => exact outcomes_enter state element
  | call target start =>
    simp only [visit]
    split
    · next hb => exact outcomes_visitBoundary (state.tell target.log) hb
    · next hb =>
      have hn : scan.errorsOf (.call target start) = {} := by simp [errorsOf, hb]
      rw [hn]
      split
      · exact outcomes_enter (state.tell target.log) _
      · rfl

theorem outcomes_after (state : ScanState) (visits : List Site) :
    (scan.after state visits).outcomes =
      state.outcomes.recordDeclared (scan.allErrors visits) := by
  induction visits generalizing state with
  | nil => rfl
  | cons site rest ih =>
    rw [after_cons, ih, outcomes_visit, ← OutcomeCollector.recordDeclared_append]
    rfl

theorem isFallible_iff :
    scan.isFallible target = true ↔
      ∃ ty, target.returns = some ty ∧ (scan.known.falliblePayload? ty).isSome := by
  cases h : target.returns <;> simp [isFallible, h]

theorem mem_errorsOf_call {P : DeclaredErrors → Prop} (hn : ¬P {}) :
    P (scan.errorsOf (.call found start)) ↔ ∃ ty declared,
      (found.value.kind = .interface ∨ found.value.kind = .abstract) ∧
        found.value.returns = some ty ∧ (scan.known.falliblePayload? ty).isSome ∧
          found.value.declaredErrors = some declared ∧ P declared := by
  constructor
  · intro h
    simp only [errorsOf] at h
    split at h
    · next hc =>
      obtain ⟨hb, hf⟩ := Bool.and_eq_true_iff.mp hc
      obtain ⟨ty, hr, hp⟩ := isFallible_iff.mp hf
      cases hd : found.value.declaredErrors with
      | none =>
        rw [hd] at h
        exact absurd h hn
      | some declared =>
        rw [hd] at h
        exact ⟨ty, declared, CallTarget.isBoundary_iff.mp hb, hr, hp, rfl, h⟩
    · exact absurd h hn
  · rintro ⟨ty, declared, hk, hr, hp, hd, h⟩
    have hb := CallTarget.isBoundary_iff.mpr hk
    have hf : scan.isFallible found.value = true := isFallible_iff.mpr ⟨ty, hr, hp⟩
    simpa [errorsOf, hb, hf, hd] using h

theorem exists_call_iff_inherits {P : DeclaredErrors → Prop} (hn : ¬P {}) :
    (∃ found start, .call found start ∈ scan.sites element ∧
        P (scan.errorsOf (.call found start))) ↔
      ∃ declared, (scan.within element).Inherits declared ∧ P declared := by
  constructor
  · rintro ⟨found, start, hs, h⟩
    obtain ⟨e, site, hv, hc, hf⟩ := call_mem_sites.mp ⟨start, hs⟩
    obtain ⟨ty, declared, hb, hr, hp, hd, h⟩ := (mem_errorsOf_call hn).mp h
    exact ⟨declared, ⟨found.value, ty, ⟨e, site, found, hv, hc, hf, rfl⟩, hb, hr, hp, hd⟩, h⟩
  · rintro ⟨declared, ⟨_, ty, ⟨e, site, found, hv, hc, hf, rfl⟩, hb, hr, hp, hd⟩, h⟩
    obtain ⟨start, hs⟩ := call_mem_sites.mpr ⟨e, site, hv, hc, hf⟩
    exact ⟨found, start, hs, (mem_errorsOf_call hn).mpr ⟨ty, declared, hb, hr, hp, hd, h⟩⟩

theorem kind_mem_sites :
    .kind kind ∈ scan.sites element ↔ (scan.within element).MakesKind kind := by
  rw [mem_sites]
  constructor
  · rintro ⟨e, hv, ho⟩
    obtain ⟨p, hp, rfl | ⟨start, args, rfl⟩⟩ := SiteContext.kind_mem_ownSites.mp ho
    · exact ⟨p, hp, .inl hv⟩
    · exact ⟨p, hp, .inr ⟨start, args, hv⟩⟩
  · rintro ⟨p, hp, hv | ⟨start, args, hv⟩⟩
    · exact ⟨_, hv, SiteContext.kind_mem_ownSites.mpr ⟨p, hp, .inl rfl⟩⟩
    · exact ⟨_, hv, SiteContext.kind_mem_ownSites.mpr ⟨p, hp, .inr ⟨start, args, rfl⟩⟩⟩

theorem custom_mem_sites :
    .custom (some code) ∈ scan.sites element ↔ (scan.within element).MakesCustom code := by
  rw [mem_sites]
  constructor
  · rintro ⟨e, hv, ho⟩
    obtain ⟨p, start, args, rfl, hp, hc⟩ := SiteContext.custom_mem_ownSites.mp ho
    exact ⟨p, start, args, hp, hv, hc⟩
  · rintro ⟨p, start, args, hp, hv, hc⟩
    exact ⟨_, hv, SiteContext.custom_mem_ownSites.mpr ⟨p, start, args, rfl, hp, hc⟩⟩

theorem kind_mem_errors :
    (∃ site ∈ scan.sites element, kind ∈ (scan.errorsOf site).kinds) ↔
      (scan.within element).MakesKind kind ∨
        ∃ declared, (scan.within element).Inherits declared ∧ kind ∈ declared.kinds := by
  rw [← kind_mem_sites, ← exists_call_iff_inherits (by simp)]
  constructor
  · rintro ⟨site, hs, hk⟩
    cases site with
    | kind other =>
      obtain rfl : kind = other := by simpa [errorsOf] using hk
      exact .inl hs
    | call found start => exact .inr ⟨found, start, hs, hk⟩
    | custom code => cases code <;> simp [errorsOf] at hk
    | _ => simp [errorsOf] at hk
  · rintro (hs | ⟨found, start, hs, hk⟩)
    · exact ⟨_, hs, by simp [errorsOf]⟩
    · exact ⟨_, hs, hk⟩

theorem text_mem_errors :
    (∃ site ∈ scan.sites element, text ∈ CustomErrorCode.texts (scan.errorsOf site).custom) ↔
      (∃ code, (scan.within element).MakesCustom code ∧ code.code = text) ∨
        ∃ declared, (scan.within element).Inherits declared ∧
          text ∈ CustomErrorCode.texts declared.custom := by
  simp only [← custom_mem_sites]
  rw [← exists_call_iff_inherits (by simp)]
  constructor
  · rintro ⟨site, hs, hc⟩
    cases site with
    | custom code =>
      cases code with
      | none => simp [errorsOf, CustomErrorCode.texts] at hc
      | some code =>
        obtain rfl : text = code.code := by simpa [errorsOf, CustomErrorCode.texts] using hc
        exact .inl ⟨code, hs, rfl⟩
    | call found start => exact .inr ⟨found, start, hs, hc⟩
    | _ => simp [errorsOf, CustomErrorCode.texts] at hc
  · rintro (⟨code, hs, rfl⟩ | ⟨found, start, hs, hc⟩)
    · exact ⟨_, hs, by simp [errorsOf, CustomErrorCode.texts]⟩
    · exact ⟨_, hs, hc⟩

end

end Scan

-- ---------------------------------------------------------------------------
-- The errors of a handler
-- ---------------------------------------------------------------------------

def ReachedFrom (symbols : Symbols) (known : WellKnown) : ElementId → ElementId → Prop :=
  Relation.ReflTransGen fun scope element => SiteContext.Uses ⟨symbols, known, scope⟩ element

theorem Scan.reaches_iff {scan : Scan} :
    scan.Reaches root element ↔ ReachedFrom scan.symbols scan.known root element := by
  have hl : scan.Leads = fun scope element => (scan.within scope).Uses element := by
    funext scope element
    exact propext Scan.leads_iff_uses
  unfold Scan.Reaches ReachedFrom
  rw [hl]
  rfl

/-- The errors collected for a handler, as one declaration: its own, then those of the sites. -/
theorem collectErrors_value (symbols : Symbols) (known : WellKnown) (handler : Handler) :
    ∃ visits, (∀ site, site ∈ visits ↔ ∃ element,
        ReachedFrom symbols known handler.id element ∧
          site ∈ (Scan.ofHandler symbols known handler).sites element) ∧
      (collectErrors symbols known handler).value =
        (({} : OutcomeCollector).recordDeclared ((handler.declaredErrors.getD {}).append
          ((Scan.ofHandler symbols known handler).allErrors visits))).finish := by
  obtain ⟨visits, entered, hc, hr⟩ := collectErrors_course symbols known handler
  refine ⟨visits, fun site => ?_, ?_⟩
  · rw [hc.mem_visits_iff]
    simp only [Scan.reaches_iff]
    rfl
  · rw [hr, OutcomeCollector.recordDeclared_append]
    simp only [ScanState.summary, Scan.outcomes_after, ScanState.ofHandler]

theorem mem_declared_getD {declared : Option DeclaredErrors} {P : DeclaredErrors → Prop}
    (hn : ¬P {}) : P (declared.getD {}) ↔ ∃ found, declared = some found ∧ P found := by
  cases declared <;> simp [hn]

/-- The kinds of errors collected for a handler are exactly those it declares, those that bodies
reached from it make, and those declared for what these bodies call without seeing its body; and so
are the texts of the custom codes. -/
theorem collectErrors_exact (index : Index) (known : WellKnown) (handler : Handler) :
    (∀ kind, kind ∈ (collectErrors index.symbols known handler).value.kinds ↔
      (∃ declared, handler.declaredErrors = some declared ∧ kind ∈ declared.kinds) ∨
      ∃ element, ReachedFrom index.symbols known handler.id element ∧
        (SiteContext.MakesKind ⟨index.symbols, known, element⟩ kind ∨
          ∃ declared, SiteContext.Inherits ⟨index.symbols, known, element⟩ declared ∧
            kind ∈ declared.kinds)) ∧
    (∀ text,
      text ∈ CustomErrorCode.texts (collectErrors index.symbols known handler).value.customCodes ↔
      (∃ declared, handler.declaredErrors = some declared ∧
        text ∈ CustomErrorCode.texts declared.custom) ∨
      ∃ element, ReachedFrom index.symbols known handler.id element ∧
        ((∃ code, SiteContext.MakesCustom ⟨index.symbols, known, element⟩ code ∧
            code.code = text) ∨
          ∃ declared, SiteContext.Inherits ⟨index.symbols, known, element⟩ declared ∧
            text ∈ CustomErrorCode.texts declared.custom)) := by
  let scan := Scan.ofHandler index.symbols known handler
  obtain ⟨visits, hv, hr⟩ := collectErrors_value index.symbols known handler
  have hvisits (Q : Site → Prop) : (∃ site ∈ visits, Q site) ↔
      ∃ element, ReachedFrom index.symbols known handler.id element ∧
        ∃ site ∈ scan.sites element, Q site := by
    constructor
    · rintro ⟨site, hs, hq⟩
      obtain ⟨element, he, hs⟩ := (hv site).mp hs
      exact ⟨element, he, site, hs, hq⟩
    · rintro ⟨element, he, site, hs, hq⟩
      exact ⟨site, (hv site).mpr ⟨element, he, hs⟩, hq⟩
  rw [hr]
  constructor
  · intro kind
    have hkinds : kind ∈ (scan.allErrors visits).kinds ↔
        ∃ site ∈ visits, kind ∈ (scan.errorsOf site).kinds := List.mem_flatMap
    rw [OutcomeCollector.mem_kinds_finish, OutcomeCollector.mem_kinds_recordDeclared]
    simp only [DeclaredErrors.append, List.mem_append, List.not_mem_nil, false_or]
    rw [hkinds, hvisits, mem_declared_getD (P := fun declared => kind ∈ declared.kinds) (by simp)]
    simp only [Scan.kind_mem_errors]
    rfl
  · intro text
    have htexts : text ∈ CustomErrorCode.texts (scan.allErrors visits).custom ↔
        ∃ site ∈ visits, text ∈ CustomErrorCode.texts (scan.errorsOf site).custom := by
      simp only [CustomErrorCode.texts, Scan.allErrors, List.map_flatMap, List.mem_flatMap]
    rw [OutcomeCollector.finish, OutcomeCollector.mem_texts_recordDeclared]
    simp only [DeclaredErrors.append, CustomErrorCode.texts_append, CustomErrorCode.texts_nil,
      List.mem_append, List.not_mem_nil, false_or]
    rw [htexts, hvisits, mem_declared_getD
      (P := fun declared => text ∈ CustomErrorCode.texts declared.custom) (by simp)]
    simp only [Scan.text_mem_errors]
    rfl

def Index.ofRepository : Index where
  functions :=
    let entry (id : ElementId) (name : String) (kind : TargetKind) : FunctionEntry :=
      { id, name, owner := none, module := [], kind,
        signature := ⟨⟨name, {}⟩, false, [], [], some (.path [.mk "ApiResult" [.ty (.tuple [])]])⟩,
        attributes := [], body := none, file := none, mapping := none, implMiddleware := {} }
    let method (name : String) : FunctionEntry :=
      { entry (.method "Repository" name) name .interface with owner := some "Repository" }
    let call (name : String) : Expr := .call {} (.path { names := ["Repository", name] }) []
    [(.method "Repository" "find",
      { method "find" with
        attributes := [⟨["produces_errors"], .list [.ident "not_found" {}]⟩] }),
     (.method "Repository" "save", method "save"),
     (.function "show",
      { entry (.function "show") "show" .function with
        body := some [.expr (call "find"), .expr (call "save")] })]

example : SiteContext.Inherits ⟨Index.ofRepository.symbols, {}, .function "show"⟩
    { kinds := [.notFound] } :=
  ⟨_, _, ⟨_, .function _, _, ⟨_, rfl, .top (.head _)⟩, rfl, rfl, rfl⟩, .inl rfl, rfl, rfl, rfl⟩

end EndpointInference

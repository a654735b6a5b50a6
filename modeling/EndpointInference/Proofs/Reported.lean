import EndpointInference.Proofs.Warnings
import Mathlib

/-!
# Warnings are complete and not repeated

A call without a body is reported where it is first met, and then never again, on whatever way the
scan comes back to it. `Reported` is what holds of the warnings at each point of a scan: one for
each name that was met so far, and one for each call of an unknown member. A scan visits the bodies
that can be reached and each of them once, so `warnings_complete_once` follows with the sites of a
body read as the expressions that are visited in it.
-/

namespace EndpointInference

open EndpointInference.Syntax

-- ---------------------------------------------------------------------------
-- Which call a warning is about
-- ---------------------------------------------------------------------------

def Diagnostic.isUndocumentedCall (handler target : String) (diagnostic : Diagnostic) : Bool :=
  diagnostic == .undocumentedInterfaceCall handler target diagnostic.location

theorem Diagnostic.isUndocumentedCall_iff {handler target other : String} {place : Location} :
    (undocumentedInterfaceCall handler target place).isUndocumentedCall handler other = true ↔
      target = other := by
  rw [isUndocumentedCall, beq_iff_eq]
  constructor
  · intro h
    obtain ⟨-, -, hm⟩ := Diagnostic.mk.inj h
    simpa [String.ext_iff, toString] using hm
  · rintro rfl
    rfl

theorem Diagnostic.isUndocumentedCall_unknown {handler target call : String} {place : Location} :
    (unknownErrorFactory call place).isUndocumentedCall handler target = false := by
  rw [isUndocumentedCall, beq_eq_false_iff_ne]
  intro h
  cases (Diagnostic.mk.inj h).1

-- ---------------------------------------------------------------------------
-- What is reported so far
-- ---------------------------------------------------------------------------

/-- What is reported after these sites: each call without a body once, under its name, and each
unknown member as often as it was met. -/
structure Reported (scan : Scan) (visits : List Site) (state : ScanState) : Prop where
  once : ∀ name, state.diagnostics.countP (·.isUndocumentedCall scan.handler name) =
    if name ∈ state.reported then 1 else 0
  names : ∀ name, name ∈ state.reported ↔
    scan.declaresErrors = false ∧ ∃ site ∈ visits, scan.undocumented? site = some name
  named : ∀ diagnostic ∈ state.diagnostics, diagnostic.code = .undocumentedInterfaceCall →
    ∃ name, diagnostic.isUndocumentedCall scan.handler name = true
  unknowns : state.diagnostics.countP (·.code == .unknownErrorFactory) =
    visits.countP Site.isUnknown

namespace Reported

theorem start (scan : Scan) (handler : Handler) : Reported scan [] (.ofHandler handler) :=
  ⟨by simp [ScanState.ofHandler], by simp [ScanState.ofHandler], by simp [ScanState.ofHandler], rfl⟩

section
variable {scan : Scan} {state : ScanState}

theorem visit (h : Reported scan visits state) (site : Site) :
    Reported scan (visits ++ [site]) (scan.visit state site).1 := by
  cases scan.visit_warns state site with
  | unknown hs hd hr =>
    subst hs
    refine ⟨fun name => ?_, fun name => ?_, fun diagnostic hm hc => ?_, ?_⟩
    · simp [hd, hr, h.once, Diagnostic.isUndocumentedCall_unknown]
    · simp [hr, h.names, Scan.undocumented?]
    · rw [hd] at hm
      rcases List.mem_append.mp hm with hm | hm
      · exact h.named diagnostic hm hc
      · rw [List.mem_singleton.mp hm] at hc
        cases hc
    · simp [hd, h.unknowns, Diagnostic.unknownErrorFactory, Site.isUnknown]
  | @undocumented target place hs hn hm hd hr =>
    refine ⟨fun name => ?_, fun name => ?_, fun diagnostic hm hc => ?_, ?_⟩
    · rw [hd, hr, List.countP_append, h.once, List.countP_singleton]
      by_cases ht : target = name
      · subst ht
        simp [hm, Diagnostic.isUndocumentedCall_iff]
      · simp [ht, Ne.symm ht, Diagnostic.isUndocumentedCall_iff]
    · simp [hr, h.names, hn, hs, or_and_right, exists_or, or_comm, eq_comm]
    · rw [hd] at hm
      rcases List.mem_append.mp hm with hm | hm
      · exact h.named diagnostic hm hc
      · rw [List.mem_singleton.mp hm]
        exact ⟨target, Diagnostic.isUndocumentedCall_iff.mpr rfl⟩
    · simp [hd, h.unknowns, Diagnostic.undocumentedInterfaceCall, Scan.isUnknown_eq_false hs]
  | silent hs hq hd hr =>
    refine ⟨by rw [hd, hr]; exact h.once, fun name => ?_, by rw [hd]; exact h.named, ?_⟩
    · rw [hr, h.names]
      constructor
      · rintro ⟨hn, other, ho, hu⟩
        exact ⟨hn, other, List.mem_append_left _ ho, hu⟩
      · rintro ⟨hn, other, ho, hu⟩
        rcases List.mem_append.mp ho with ho | ho
        · exact ⟨hn, other, ho, hu⟩
        · -- the site itself was reported before, as nothing is declared
          rw [List.mem_singleton.mp ho] at hu
          rcases hq name hu with hy | hy
          · cases hn.symm.trans hy
          · exact (h.names name).mp hy
    · simp [hd, h.unknowns, hs]

theorem after (h : Reported scan seen state) (visits : List Site) :
    Reported scan (seen ++ visits) (scan.after state visits) := by
  induction visits generalizing seen state with
  | nil => simpa using h
  | cons site rest ih => simpa using ih (h.visit site)

end

end Reported

-- ---------------------------------------------------------------------------
-- Reasons to warn, read off the program
-- ---------------------------------------------------------------------------

namespace SiteContext

/-- The body calls something of this name without a body that may fail and declares nothing. -/
def CallsUndocumented (cx : SiteContext) (name : String) : Prop :=
  ∃ target ty, cx.Calls target ∧ (target.kind = .interface ∨ target.kind = .abstract) ∧
    target.displayName = name ∧ target.returns = some ty ∧
      (cx.known.falliblePayload? ty).isSome ∧ target.declaredErrors = none

def isUnknownCall (cx : SiteContext) : Expr → Bool
  | .call _ (.path p) _ =>
    match Factory.ofNames? cx.known p.names with
    | some (.unknown _) => true
    | _ => false
  | _ => false

def unknownCalls (cx : SiteContext) : Nat :=
  ((cx.symbols.body? cx.scope).elim [] cx.bodyOccurrences).countP cx.isUnknownCall

section
variable {cx : SiteContext}

theorem countP_callSites : (cx.callSites site start).countP Site.isUnknown = 0 := by
  cases h : cx.symbols.resolveCall? cx.scope site <;> simp [callSites, h, Site.isUnknown]

theorem countP_ownSites (e : Expr) :
    (cx.ownSites e).countP Site.isUnknown = if cx.isUnknownCall e then 1 else 0 := by
  cases e with
  | path p =>
    simp only [ownSites, pathSites, isUnknownCall]
    split
    · rfl
    · rfl
    · cases cx.symbols.resolveReference? cx.scope p <;> rfl
  | call start callee args =>
    cases callee with
    | path p =>
      cases h : Factory.ofNames? cx.known p.names with
      | none => simp [ownSites, calledFactory?, isUnknownCall, h, countP_callSites]
      | some factory =>
        cases factory <;>
          simp [ownSites, calledFactory?, isUnknownCall, h, factorySite, Site.isUnknown]
    | _ => exact countP_callSites
  | methodCall values receiver method typeArgs args => exact countP_callSites
  | _ => rfl

theorem countP_flatMap_ownSites (es : List Expr) :
    (es.flatMap cx.ownSites).countP Site.isUnknown = es.countP cx.isUnknownCall := by
  induction es with
  | nil => rfl
  | cons e rest ih =>
    rw [List.flatMap_cons, List.countP_append, ih, countP_ownSites, List.countP_cons, Nat.add_comm]

end

end SiteContext

namespace Scan

section
variable {scan : Scan}

theorem countP_sites (element : ElementId) :
    (scan.sites element).countP Site.isUnknown = (scan.within element).unknownCalls := by
  unfold sites sitesOf? SiteContext.unknownCalls within
  cases scan.symbols.body? element with
  | none => rfl
  | some body =>
    simp [SiteContext.bodySites_eq_flatMap, SiteContext.countP_flatMap_ownSites]

theorem undocumented?_eq_some :
    scan.undocumented? (.call found start) = some name ↔
      ∃ ty, (found.value.kind = .interface ∨ found.value.kind = .abstract) ∧
        found.value.displayName = name ∧ found.value.returns = some ty ∧
          (scan.known.falliblePayload? ty).isSome ∧ found.value.declaredErrors = none := by
  simp only [undocumented?, Option.ite_none_right_eq_some, Bool.and_eq_true, isFallible_iff,
    CallTarget.isBoundary_iff, Option.isNone_iff_eq_none, Option.some.injEq]
  constructor
  · rintro ⟨⟨⟨hb, ty, hr, hf⟩, hd⟩, hn⟩
    exact ⟨ty, hb, hn, hr, hf, hd⟩
  · rintro ⟨ty, hb, hn, hr, hf, hd⟩
    exact ⟨⟨⟨hb, ty, hr, hf⟩, hd⟩, hn⟩

theorem exists_undocumented_iff :
    (∃ site ∈ scan.sites element, scan.undocumented? site = some name) ↔
      (scan.within element).CallsUndocumented name := by
  constructor
  · rintro ⟨site, hs, hu⟩
    cases site with
    | call found start =>
      obtain ⟨e, place, hv, hc, hf⟩ := call_mem_sites.mp ⟨start, hs⟩
      obtain ⟨ty, h⟩ := undocumented?_eq_some.mp hu
      exact ⟨found.value, ty, ⟨e, place, found, hv, hc, hf, rfl⟩, h⟩
    | _ => cases hu
  · rintro ⟨_, ty, ⟨e, place, found, hv, hc, hf, rfl⟩, h⟩
    obtain ⟨start, hs⟩ := call_mem_sites.mpr ⟨e, place, hv, hc, hf⟩
    exact ⟨_, hs, undocumented?_eq_some.mpr ⟨ty, h⟩⟩

theorem Course.exists_visit_iff {P : Site → Prop}
    (h : scan.Course [root] (scan.sites root) visits entered) :
    (∃ site ∈ visits, P site) ↔
      ∃ element, ReachedFrom scan.symbols scan.known root element ∧
        ∃ site ∈ scan.sites element, P site := by
  simp only [h.mem_visits_iff, reaches_iff]
  constructor
  · rintro ⟨site, ⟨element, he, hs⟩, hp⟩
    exact ⟨element, he, site, hs, hp⟩
  · rintro ⟨element, he, site, hs, hp⟩
    exact ⟨site, ⟨element, he, hs⟩, hp⟩

/-- A course meets as many unknown members as the bodies on it call, each body counted once. -/
theorem Course.countP_visits (h : scan.Course [root] (scan.sites root) visits entered) :
    visits.countP Site.isUnknown =
      ((root :: entered).map fun element => (scan.within element).unknownCalls).sum := by
  have hall : scan.sites root ++ entered.flatMap scan.sites =
      (root :: entered).flatMap scan.sites := rfl
  rw [h.perm.countP_eq, hall, List.countP_flatMap]
  simp only [Function.comp_def, countP_sites]

end

end Scan

-- ---------------------------------------------------------------------------
-- The warnings of a handler
-- ---------------------------------------------------------------------------

/-- A call without a body is reported at most once, under its name, and it is reported exactly if
the handler declares no errors and a body that can be reached makes such a call; and there are no
other warnings of this kind. Unknown members are reported as often as the bodies that can be reached
call them, each body counted once. -/
theorem warnings_complete_once (index : Index) (known : WellKnown) (handler : Handler) :
    let diagnostics := (collectErrors index.symbols known handler).diagnostics
    (∀ name,
      diagnostics.countP (·.isUndocumentedCall handler.name name) ≤ 1 ∧
      (diagnostics.countP (·.isUndocumentedCall handler.name name) = 1 ↔
        handler.declaredErrors = none ∧
          ∃ element, ReachedFrom index.symbols known handler.id element ∧
            SiteContext.CallsUndocumented ⟨index.symbols, known, element⟩ name)) ∧
    (∀ diagnostic ∈ diagnostics, diagnostic.code = .undocumentedInterfaceCall →
      ∃ name, diagnostic.isUndocumentedCall handler.name name = true) ∧
    ∃ reached : List ElementId, reached.Nodup ∧
      (∀ element, element ∈ reached ↔ ReachedFrom index.symbols known handler.id element) ∧
      diagnostics.count .unknownErrorFactory =
        (reached.map fun element =>
          SiteContext.unknownCalls ⟨index.symbols, known, element⟩).sum := by
  intro diagnostics
  let scan := Scan.ofHandler index.symbols known handler
  obtain ⟨visits, entered, hc, -⟩ := collectErrors_course index.symbols known handler
  replace hc : scan.Course [handler.id] (scan.sites handler.id) visits entered := hc
  have hd : diagnostics = (scan.after (.ofHandler handler) visits).diagnostics :=
    collectErrors_diagnostics index.symbols_remarking hc
  have hreport : Reported scan visits (scan.after (.ofHandler handler) visits) :=
    (Reported.start scan handler).after visits
  have hdeclares : scan.declaresErrors = false ↔ handler.declaredErrors = none := by
    simp [scan, Scan.ofHandler]
  refine ⟨fun name => ?_, ?_, handler.id :: entered, ?_, fun element => ?_, ?_⟩
  · have honce : diagnostics.countP (·.isUndocumentedCall handler.name name) =
        if name ∈ (scan.after (.ofHandler handler) visits).reported then 1 else 0 := by
      rw [hd]
      exact hreport.once name
    have hmet : name ∈ (scan.after (.ofHandler handler) visits).reported ↔
        handler.declaredErrors = none ∧
          ∃ element, ReachedFrom index.symbols known handler.id element ∧
            SiteContext.CallsUndocumented ⟨index.symbols, known, element⟩ name := by
      rw [hreport.names, hdeclares, hc.exists_visit_iff]
      simp only [Scan.exists_undocumented_iff]
      rfl
    rw [honce, ← hmet]
    by_cases hn : name ∈ (scan.after (.ofHandler handler) visits).reported <;> simp [hn]
  · rw [hd]
    exact hreport.named
  · exact List.nodup_cons.mpr ⟨fun he => hc.not_mem _ he List.mem_cons_self, hc.nodup⟩
  · rw [hc.mem_entered_iff, Scan.reaches_iff]
    rfl
  · rw [hd, Diagnostics.count, Diagnostics.withCode, ← List.countP_eq_length_filter,
      hreport.unknowns, hc.countP_visits]
    rfl

example : SiteContext.CallsUndocumented ⟨Index.ofRepository.symbols, {}, .function "show"⟩
    "Repository::save" :=
  ⟨_, _, ⟨_, .function _, _, ⟨_, rfl, .top (.tail _ (.head _))⟩, rfl, rfl, rfl⟩, .inl rfl, rfl, rfl,
    rfl, rfl⟩

end EndpointInference

import EndpointInference.Proofs.Sites
import EndpointInference.Scan.Run
import Mathlib.Logic.Relation

/-!
# The course of a scan

What a scan visits next depends on the elements visited so far and on nothing else it has found. A
`Course` is that part of a run alone: which sites are visited, and which elements are entered on the
way. `run_course`: a run is a course, with the state carried along its sites.

Each element is entered once (`Course.nodup`), so the visited sites are those at the start and those
of the entered elements, each as often as it stands there (`Course.perm`). From a single element the
course enters all that can be reached from it and nothing else (`Course.mem_entered_iff`).
-/

namespace EndpointInference

open EndpointInference.Syntax

def Site.leadsTo? : Site → Option ElementId
  | .call target _ => if target.value.isBoundary then none else target.value.element
  | .reference element => some element
  | _ => none

namespace Scan

def sites (scan : Scan) (element : ElementId) : List Site :=
  (scan.sitesOf? element).getD []

-- ---------------------------------------------------------------------------
-- One visit
-- ---------------------------------------------------------------------------

theorem enter_visited (scan : Scan) (state : ScanState) (h : element ∈ state.visited) :
    (scan.enter state element).1.visited = state.visited ∧ (scan.enter state element).2 = [] := by
  simp [enter, h, ScanState.trace, ScanState.tell]

theorem enter_fresh (scan : Scan) (state : ScanState) (h : element ∉ state.visited) :
    (scan.enter state element).1.visited = element :: state.visited ∧
      (scan.enter state element).2 = scan.sites element := by
  cases hs : scan.sitesOf? element <;>
    simp [enter, h, sites, hs, ScanState.trace, ScanState.tell]

theorem visit_pass (scan : Scan) (h : ∀ element, site.leadsTo? = some element →
      element ∈ state.visited) :
    (scan.visit state site).1.visited = state.visited ∧ (scan.visit state site).2 = [] := by
  cases site with
  | kind kind => simp [visit]
  | custom code => simp [visit]
  | unknown text start => simp [visit]
  | reference element => exact scan.enter_visited state (h element rfl)
  | call target start =>
    simp only [visit]
    split
    · simp [ScanState.tell]
    · next hb =>
      split
      · next element he =>
        exact scan.enter_visited (state.tell target.log)
          (h element (by simp [Site.leadsTo?, hb, he]))
      · exact ⟨rfl, rfl⟩

theorem visit_enter (scan : Scan) (h : site.leadsTo? = some element)
    (hn : element ∉ state.visited) :
    (scan.visit state site).1.visited = element :: state.visited ∧
      (scan.visit state site).2 = scan.sites element := by
  cases site with
  | reference other =>
    obtain rfl : other = element := by simpa [Site.leadsTo?] using h
    exact scan.enter_fresh state hn
  | call target start =>
    simp only [Site.leadsTo?] at h
    split at h
    · cases h
    · next hb =>
      simp only [visit, hb, h]
      exact scan.enter_fresh (state.tell target.log) hn
  | _ => simp [Site.leadsTo?] at h

-- ---------------------------------------------------------------------------
-- Courses
-- ---------------------------------------------------------------------------

/-- From the elements visited so far and the sites to visit: the sites that are visited, and the
elements that are entered on the way, both in order. -/
inductive Course (scan : Scan) : List ElementId → List Site → List Site → List ElementId → Prop
  | done : Course scan visited [] [] []
  | pass {site visited rest visits entered} :
      (∀ element, site.leadsTo? = some element → element ∈ visited) →
      Course scan visited rest visits entered →
      Course scan visited (site :: rest) (site :: visits) entered
  | enter {site element visited rest visits entered} :
      site.leadsTo? = some element → element ∉ visited →
      Course scan (element :: visited) (scan.sites element ++ rest) visits entered →
      Course scan visited (site :: rest) (site :: visits) (element :: entered)

def after (scan : Scan) (state : ScanState) (visits : List Site) : ScanState :=
  visits.foldl (fun state site => (scan.visit state site).1) state

@[simp] theorem after_nil (scan : Scan) (state : ScanState) : scan.after state [] = state := rfl

@[simp] theorem after_cons (scan : Scan) (state : ScanState) (site : Site) (visits : List Site) :
    scan.after state (site :: visits) = scan.after (scan.visit state site).1 visits := rfl

theorem run_course (scan : Scan) (state : ScanState) (work : List Site) :
    ∃ visits entered, Course scan state.visited work visits entered ∧
      scan.run state work = scan.after state visits := by
  fun_induction scan.run state work with
  | case1 state => exact ⟨[], [], .done, rfl⟩
  | case2 state site rest ih =>
    obtain ⟨visits, entered, hc, hr⟩ := ih
    by_cases h : ∀ element, site.leadsTo? = some element → element ∈ state.visited
    · obtain ⟨hv, hs⟩ := scan.visit_pass h
      rw [hv, hs] at hc
      exact ⟨site :: visits, entered, .pass h hc, hr⟩
    · simp only [Classical.not_forall] at h
      obtain ⟨element, he, hn⟩ := h
      obtain ⟨hv, hs⟩ := scan.visit_enter he hn
      rw [hv, hs] at hc
      exact ⟨site :: visits, element :: entered, .enter he hn hc, hr⟩

section
variable {scan : Scan}

theorem Course.run_eq (h : Course scan visited work visits entered) (state : ScanState)
    (hv : state.visited = visited) : scan.run state work = scan.after state visits := by
  induction h generalizing state with
  | done => rw [run, after_nil]
  | pass hp _ ih =>
    subst hv
    obtain ⟨hv, hs⟩ := visit_pass scan hp
    rw [run, hs, after_cons]
    exact ih _ hv
  | enter he hn _ ih =>
    subst hv
    obtain ⟨hv, hs⟩ := visit_enter scan he hn
    rw [run, hs, after_cons]
    exact ih _ hv

theorem Course.map {scan' : Scan} {f : Site → Site}
    (hl : ∀ site, (f site).leadsTo? = site.leadsTo?)
    (hs : ∀ element, scan'.sites element = (scan.sites element).map f)
    (h : Course scan visited work visits entered) :
    Course scan' visited (work.map f) (visits.map f) entered := by
  induction h with
  | done => exact .done
  | pass hp _ ih => exact .pass (by rwa [hl]) ih
  | enter he hn _ ih =>
    refine .enter (by rwa [hl]) hn ?_
    rw [hs, ← List.map_append]
    exact ih

theorem Course.not_mem (h : Course scan visited work visits entered) :
    ∀ element ∈ entered, element ∉ visited := by
  induction h with
  | done => simp
  | pass _ _ ih => exact ih
  | enter _ hn _ ih =>
    intro element he
    rcases List.mem_cons.mp he with rfl | he
    · exact hn
    · exact fun hv => ih element he (List.mem_cons_of_mem _ hv)

theorem Course.nodup (h : Course scan visited work visits entered) : entered.Nodup := by
  induction h with
  | done => simp
  | pass _ _ ih => exact ih
  | enter _ _ hc ih =>
    exact List.nodup_cons.mpr ⟨fun he => hc.not_mem _ he List.mem_cons_self, ih⟩

theorem Course.perm (h : Course scan visited work visits entered) :
    visits.Perm (work ++ entered.flatMap scan.sites) := by
  induction h with
  | done => simp
  | pass _ _ ih => simpa using ih
  | @enter site element visited rest visits entered _ _ _ ih =>
    rw [List.flatMap_cons, List.cons_append]
    refine .cons _ (ih.trans ?_)
    rw [List.append_assoc]
    exact List.perm_append_comm_assoc ..

theorem Course.leadsTo_mem (h : Course scan visited work visits entered) :
    ∀ site ∈ visits, ∀ element, site.leadsTo? = some element →
      element ∈ visited ∨ element ∈ entered := by
  induction h with
  | done => simp
  | pass hp _ ih =>
    intro site hs element he
    rcases List.mem_cons.mp hs with rfl | hs
    · exact .inl (hp element he)
    · exact ih site hs element he
  | enter he _ _ ih =>
    intro site hs other ho
    rcases List.mem_cons.mp hs with rfl | hs
    · obtain rfl : _ = other := Option.some.inj (he.symm.trans ho)
      exact .inr List.mem_cons_self
    · rcases ih site hs other ho with hv | hv
      · rcases List.mem_cons.mp hv with rfl | hv
        · exact .inr List.mem_cons_self
        · exact .inl hv
      · exact .inr (List.mem_cons_of_mem _ hv)

/-- What holds of all that the sites lead to, and is handed on from each element to those that its
sites lead to, holds of every element that is entered. -/
theorem Course.forall_entered {P : ElementId → Prop}
    (h : Course scan visited work visits entered)
    (start : ∀ site ∈ work, ∀ element, site.leadsTo? = some element → P element)
    (next : ∀ element, P element → ∀ site ∈ scan.sites element, ∀ other,
      site.leadsTo? = some other → P other) :
    ∀ element ∈ entered, P element := by
  induction h with
  | done => simp
  | pass _ _ ih => exact ih fun site hs => start site (List.mem_cons_of_mem _ hs)
  | @enter site element _ _ _ _ he _ _ ih =>
    have hp : P element := start site List.mem_cons_self element he
    intro other ho
    rcases List.mem_cons.mp ho with rfl | ho
    · exact hp
    · refine ih (fun site hs => ?_) other ho
      rcases List.mem_append.mp hs with hs | hs
      · exact next element hp site hs
      · exact start site (List.mem_cons_of_mem _ hs)

def Leads (scan : Scan) (element other : ElementId) : Prop :=
  ∃ site ∈ scan.sites element, site.leadsTo? = some other

abbrev Reaches (scan : Scan) : ElementId → ElementId → Prop :=
  Relation.ReflTransGen scan.Leads

theorem Course.reaches_of_mem (h : Course scan [root] (scan.sites root) visits entered) :
    ∀ element ∈ entered, scan.Reaches root element := by
  refine h.forall_entered (fun site hs element he => ?_) (fun element hr site hs other ho => ?_)
  · exact .single ⟨site, hs, he⟩
  · exact hr.tail ⟨site, hs, ho⟩

/-- A course from the sites of one element enters exactly what can be reached from it. An element is
entered where it is first met, perhaps in the middle of another body; the sites that are then still
to visit come later, so nothing is lost. -/
theorem Course.mem_entered_iff (h : Course scan [root] (scan.sites root) visits entered) :
    element ∈ root :: entered ↔ scan.Reaches root element := by
  constructor
  · intro he
    rcases List.mem_cons.mp he with rfl | he
    · exact .refl
    · exact h.reaches_of_mem element he
  · intro hr
    induction hr with
    | refl => exact List.mem_cons_self
    | @tail element other _ hl ih =>
      obtain ⟨site, hs, ho⟩ := hl
      have hv : site ∈ visits := h.perm.mem_iff.mpr (by
        rcases List.mem_cons.mp ih with rfl | he
        · exact List.mem_append_left _ hs
        · exact List.mem_append_right _ (List.mem_flatMap.mpr ⟨element, he, hs⟩))
      rcases h.leadsTo_mem site hv other ho with hm | hm
      · exact List.mem_cons.mpr (.inl (List.mem_singleton.mp hm))
      · exact List.mem_cons_of_mem _ hm

theorem Course.mem_visits_iff (h : Course scan [root] (scan.sites root) visits entered) :
    site ∈ visits ↔ ∃ element, scan.Reaches root element ∧ site ∈ scan.sites element := by
  have hall : scan.sites root ++ entered.flatMap scan.sites =
      (root :: entered).flatMap scan.sites := rfl
  rw [h.perm.mem_iff, hall, List.mem_flatMap]
  simp only [h.mem_entered_iff]

end

-- ---------------------------------------------------------------------------
-- The scan of a handler
-- ---------------------------------------------------------------------------

def ofHandler (symbols : Symbols) (known : WellKnown) (handler : Handler) : Scan :=
  ⟨symbols, known, handler.name, handler.declaredErrors.isSome⟩

end Scan

namespace ScanState

def ofHandler (handler : Handler) : ScanState where
  visited := [handler.id]
  outcomes := ({} : OutcomeCollector).recordDeclared (handler.declaredErrors.getD {})

def summary (final : ScanState) (handler : Handler) : Logged ErrorOutcomes :=
  ⟨final.outcomes.finish,
   final.log ++
     .event ⟨.debug, "Call graph traversal finished",
       [("handler", handler.name), ("visited", toString final.visited.length)]⟩ ::
     final.diagnostics.map .report⟩

end ScanState

theorem collectErrors_eq (symbols : Symbols) (known : WellKnown) (handler : Handler) :
    collectErrors symbols known handler =
      ((Scan.ofHandler symbols known handler).run (.ofHandler handler)
        ((Scan.ofHandler symbols known handler).sites handler.id)).summary handler := by
  have hd : (handler.declaredErrors.map ({} : OutcomeCollector).recordDeclared).getD {} =
      ({} : OutcomeCollector).recordDeclared (handler.declaredErrors.getD {}) := by
    cases handler.declaredErrors <;> rfl
  unfold collectErrors
  rw [hd]
  rfl

theorem collectErrors_of_course
    (h : (Scan.ofHandler symbols known handler).Course [handler.id]
      ((Scan.ofHandler symbols known handler).sites handler.id) visits entered) :
    collectErrors symbols known handler =
      ((Scan.ofHandler symbols known handler).after (.ofHandler handler) visits).summary
        handler := by
  rw [collectErrors_eq, h.run_eq (.ofHandler handler) rfl]

theorem collectErrors_course (symbols : Symbols) (known : WellKnown) (handler : Handler) :
    ∃ visits entered,
      (Scan.ofHandler symbols known handler).Course [handler.id]
        ((Scan.ofHandler symbols known handler).sites handler.id) visits entered ∧
      collectErrors symbols known handler =
        ((Scan.ofHandler symbols known handler).after (.ofHandler handler) visits).summary
          handler := by
  obtain ⟨visits, entered, hc, hr⟩ := (Scan.ofHandler symbols known handler).run_course
    (.ofHandler handler) ((Scan.ofHandler symbols known handler).sites handler.id)
  exact ⟨visits, entered, hc, by rw [collectErrors_eq, hr]⟩

end EndpointInference

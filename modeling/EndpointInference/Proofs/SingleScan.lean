import EndpointInference.Proofs.Remarks
import Mathlib

/-!
# A scan ends, and enters each body once

A scan is taken step by step: one step visits the next site. The body of an element is entered where
the log says so, and the handler's own body at the start. `scan_ends_entering_once`: no body is
entered twice, the scan is at its end after as many steps as there are sites in the bodies entered,
and those are at most all sites of the program. The arguments of a macro are expressions of the body
like all others, however deep they are nested, and their sites are counted with it.
-/

namespace EndpointInference

open EndpointInference.Syntax

-- ---------------------------------------------------------------------------
-- What the log says is entered
-- ---------------------------------------------------------------------------

def LogEntry.entered? : LogEntry → Option ElementId
  | .event ⟨.trace, "Scanning", fields⟩ => (fields.lookup "element").map ElementId.mk
  | _ => none

def Log.entered (log : Log) : List ElementId :=
  log.filterMap LogEntry.entered?

@[simp] theorem Log.entered_append (first second : Log) :
    Log.entered (first ++ second) = first.entered ++ second.entered :=
  List.filterMap_append

theorem Log.AllRemarks.entered_eq_nil {log : Log} (h : log.AllRemarks) : log.entered = [] := by
  refine List.filterMap_eq_nil_iff.mpr fun entry he => ?_
  cases entry with
  | event event =>
    obtain ⟨level, message, fields⟩ := event
    obtain rfl : level = .debug := h _ he
    rfl
  | _ => rfl

namespace Scan

def withBody (scan : Scan) (elements : List ElementId) : List ElementId :=
  elements.filter fun element => (scan.symbols.body? element).isSome

@[simp] theorem log_visitBoundary (scan : Scan) (state : ScanState) (target : CallTarget)
    (start : Position) : (scan.visitBoundary state target start).log = state.log := by
  unfold visitBoundary
  split
  · rfl
  · split
    · rfl
    · split <;> rfl

section
variable {scan : Scan}

theorem entered_tell (state : ScanState) (h : log.AllRemarks) :
    (state.tell log).log.entered = state.log.entered := by
  simp [ScanState.tell, h.entered_eq_nil]

theorem entered_enter_visited (state : ScanState) (h : element ∈ state.visited) :
    (scan.enter state element).1.log.entered = state.log.entered := by
  simp [enter, h, ScanState.trace, ScanState.tell, Log.entered, LogEntry.entered?]

theorem entered_enter_fresh (state : ScanState) (h : element ∉ state.visited) :
    (scan.enter state element).1.log.entered = state.log.entered ++ scan.withBody [element] := by
  cases hb : scan.symbols.body? element with
  | none => simp [enter, h, sitesOf?, hb, withBody]
  | some body =>
    simp [enter, h, sitesOf?, hb, withBody, ScanState.trace, ScanState.tell, Log.entered,
      LogEntry.entered?, List.lookup]

theorem entered_visit_pass (state : ScanState) (hq : site.log.AllRemarks)
    (h : ∀ element, site.leadsTo? = some element → element ∈ state.visited) :
    (scan.visit state site).1.log.entered = state.log.entered := by
  cases site with
  | kind kind =>
    simp only [visit, recordKind]
    split
    · simp [ScanState.trace, ScanState.tell, Log.entered, LogEntry.entered?]
    · rfl
  | custom code =>
    cases code with
    | some code => rfl
    | none =>
      simp [visit, recordCustom, ScanState.trace, ScanState.tell, Log.entered, LogEntry.entered?]
  | unknown text start => rfl
  | reference element => exact entered_enter_visited state (h element rfl)
  | call target start =>
    rw [← entered_tell state hq]
    simp only [visit, Site.log]
    split
    · rw [log_visitBoundary]
    · next hb =>
      split
      · next element he =>
        exact entered_enter_visited _ (h element (by simp [Site.leadsTo?, hb, he]))
      · rfl

theorem entered_visit_enter (state : ScanState) (hq : site.log.AllRemarks)
    (h : site.leadsTo? = some element) (hn : element ∉ state.visited) :
    (scan.visit state site).1.log.entered = state.log.entered ++ scan.withBody [element] := by
  cases site with
  | reference other =>
    obtain rfl : other = element := by simpa [Site.leadsTo?] using h
    exact entered_enter_fresh state hn
  | call target start =>
    simp only [Site.leadsTo?] at h
    split at h
    · cases h
    · next hb =>
      rw [← entered_tell state hq]
      simp only [visit, hb, h, Site.log]
      exact entered_enter_fresh _ hn
  | _ => simp [Site.leadsTo?] at h

/-- The bodies entered by a run are those of the elements on its course. -/
theorem Course.entered_after (h : scan.Course visited work visits entered)
    (hq : ∀ site ∈ visits, site.log.AllRemarks) (state : ScanState) (hv : state.visited = visited) :
    (scan.after state visits).log.entered = state.log.entered ++ scan.withBody entered := by
  induction h generalizing state with
  | done => simp [withBody]
  | @pass site visited rest visits entered hp _ ih =>
    subst hv
    have hs := hq site List.mem_cons_self
    rw [after_cons, ih (fun site h => hq site (List.mem_cons_of_mem _ h)) _ (visit_pass scan hp).1,
      entered_visit_pass state hs hp]
  | @enter site element visited rest visits entered he hn _ ih =>
    subst hv
    have hs := hq site List.mem_cons_self
    have hw : scan.withBody (element :: entered) =
        scan.withBody [element] ++ scan.withBody entered := by
      simp only [withBody, ← List.filter_append, List.singleton_append]
    rw [after_cons,
      ih (fun site h => hq site (List.mem_cons_of_mem _ h)) _ (visit_enter scan he hn).1,
      entered_visit_enter state hs he hn, hw, List.append_assoc]

end

-- ---------------------------------------------------------------------------
-- Step by step
-- ---------------------------------------------------------------------------

def step (scan : Scan) : ScanState × List Site → ScanState × List Site
  | (state, []) => (state, [])
  | (state, site :: rest) => ((scan.visit state site).1, (scan.visit state site).2 ++ rest)

section
variable {scan : Scan}

/-- A course takes a step for each site it visits, and then there is nothing left to visit. -/
theorem Course.iterate_step (h : scan.Course visited work visits entered) (state : ScanState)
    (hv : state.visited = visited) :
    scan.step^[visits.length] (state, work) = (scan.after state visits, []) := by
  induction h generalizing state with
  | done => rfl
  | pass hp _ ih =>
    subst hv
    obtain ⟨hv, hs⟩ := visit_pass scan hp
    rw [List.length_cons, Function.iterate_succ_apply, step, hs]
    exact ih _ hv
  | enter he hn _ ih =>
    subst hv
    obtain ⟨hv, hs⟩ := visit_enter scan he hn
    rw [List.length_cons, Function.iterate_succ_apply, step, hs]
    exact ih _ hv

def siteCount (scan : Scan) (elements : List ElementId) : Nat :=
  (elements.map fun element => (scan.sites element).length).sum

@[simp] theorem siteCount_cons (element : ElementId) (rest : List ElementId) :
    scan.siteCount (element :: rest) = (scan.sites element).length + scan.siteCount rest := by
  simp [siteCount]

theorem siteCount_withBody (elements : List ElementId) :
    scan.siteCount (scan.withBody elements) = scan.siteCount elements := by
  induction elements with
  | nil => rfl
  | cons element rest ih =>
    cases hb : scan.symbols.body? element with
    | none => simpa [withBody, hb, sites, sitesOf?] using ih
    | some body => simpa [withBody, hb] using ih

theorem Course.length_visits (h : scan.Course [root] (scan.sites root) visits entered) :
    visits.length = scan.siteCount (root :: entered) := by
  rw [h.perm.length_eq, List.length_append, List.length_flatMap, siteCount_cons]
  rfl

theorem siteCount_le (hd : first.Nodup) (hs : first ⊆ second) :
    scan.siteCount first ≤ scan.siteCount second := by
  obtain ⟨middle, hp, hm⟩ := List.subperm_of_subset hd hs
  calc scan.siteCount first = scan.siteCount middle := ((hp.map _).sum_eq).symm
    _ ≤ scan.siteCount second := (hm.map _).sum_le_sum fun _ _ => Nat.zero_le _

end

end Scan

theorem entered_summary (final : ScanState) (handler : Handler) :
    (final.summary handler).log.entered = final.log.entered := by
  simp [ScanState.summary, Log.entered, LogEntry.entered?]

/-- The scan of a handler ends, and enters no body twice, the handler's own included: it is at its
end after one step for each site of the bodies it enters, at most all sites of the program. -/
theorem scan_ends_entering_once (index : Index) (known : WellKnown) (handler : Handler) :
    let scan := Scan.ofHandler index.symbols known handler
    let entered := (collectErrors index.symbols known handler).log.entered
    (handler.id :: entered).Nodup ∧
    (∀ element ∈ entered, (index.body? element).isSome) ∧
    (∃ final, scan.step^[scan.siteCount (handler.id :: entered)]
        (.ofHandler handler, scan.sites handler.id) = (final, []) ∧
      collectErrors index.symbols known handler = final.summary handler) ∧
    scan.siteCount (handler.id :: entered) ≤ scan.siteCount (handler.id :: index.elements) := by
  intro scan entered
  obtain ⟨visits, met, hc, hr⟩ := collectErrors_course index.symbols known handler
  have hentered : entered = scan.withBody met := by
    have hq := hc.remarking index.symbols_remarking
    have ha := hc.entered_after hq (.ofHandler handler) rfl
    simp only [entered, hr, entered_summary]
    exact ha
  have hnodup : (handler.id :: entered).Nodup := by
    rw [hentered]
    refine List.nodup_cons.mpr ⟨fun h => ?_, hc.nodup.filter _⟩
    exact hc.not_mem _ (List.mem_of_mem_filter h) List.mem_cons_self
  have hbody : ∀ element ∈ entered, (index.body? element).isSome := by
    intro element he
    rw [hentered] at he
    exact (List.mem_filter.mp he).2
  refine ⟨hnodup, hbody, ⟨scan.after (.ofHandler handler) visits, ?_, hr⟩, ?_⟩
  · have hn : scan.siteCount (handler.id :: entered) = visits.length := by
      rw [hc.length_visits, Scan.siteCount_cons, hentered, Scan.siteCount_withBody,
        ← Scan.siteCount_cons]
    rw [hn]
    exact hc.iterate_step (.ofHandler handler) rfl
  · refine Scan.siteCount_le hnodup fun element he => ?_
    rcases List.mem_cons.mp he with rfl | he
    · exact List.mem_cons_self
    · obtain ⟨body, hb⟩ := Option.isSome_iff_exists.mp (hbody element he)
      exact List.mem_cons_of_mem _ (index.mem_elements_of_body? element body hb)

end EndpointInference

import EndpointInference.Proofs.Naming
import EndpointInference.Proofs.Outcomes

/-!
# Functions that are passed on

A function can be called, or its name can be passed on to something that calls it. Both look the
name up under the same candidates (`candidates`), a name that is passed on may be that of a constant
too. Only a call goes on to the traits of a type: a method that the type has from a trait alone is
found by a call of it and not by its name (`OnlyInTrait`).

Where both lead to one element, a scan goes on alike from both (`run_call`), as long as the element
has a body.
-/

namespace EndpointInference

open EndpointInference.Syntax

namespace Index

-- ---------------------------------------------------------------------------
-- Candidates
-- ---------------------------------------------------------------------------

/-- Under which ids a name is looked up in a place, in order: that of a constant and that of a
function. -/
def candidatesAt (index : Index) (member : String) : Place → List (ElementId × ElementId)
  | .type owner => (owner :: index.traitsOf owner).map fun name =>
    (.value (name ++ "::" ++ member), .method name member)
  | .modules modules => modules.map fun module =>
    (.value (qualify module member), .function (qualify module member))

def candidates (index : Index) (scope : ElementId) (names : List String) :
    List (ElementId × ElementId) :=
  match splitLast? names with
  | some (qualifier, member) =>
    ((index.place? scope qualifier).map (index.candidatesAt member)).getD []
  | none => []

def constantAmong? (index : Index) (candidates : List (ElementId × ElementId)) :
    Option ElementId :=
  (candidates.map Prod.fst).find? fun id => (index.constant? id).isSome

/-- The path refers to this element, which is the first function under the candidates, or to the
first constant under the same or an earlier candidate. -/
def FoundAlike (index : Index) (scope : ElementId) (path : ExprPath) (element : ElementId) : Prop :=
  ∃ earlier constant later,
    index.candidates scope path.names = earlier ++ (constant, element) :: later ∧
    (∀ candidate ∈ earlier, index.function? candidate.2 = none) ∧
    index.resolveReference? scope path =
      some ((index.constantAmong? (earlier ++ [(constant, element)])).getD element)

/-- A member of a type that has no method or constant of this name itself. -/
def OnlyInTrait (index : Index) (scope : ElementId) (names : List String) : Prop :=
  ∃ qualifier member owner, splitLast? names = some (qualifier, member) ∧
    index.place? scope qualifier = some (.type owner) ∧
    index.function? (.method owner member) = none ∧
    index.constant? (.value (owner ++ "::" ++ member)) = none

section
variable {index : Index} {scope : ElementId} {path : ExprPath} {names : List String}

theorem candidates_eq (hs : splitLast? names = some (qualifier, member))
    (hp : index.place? scope qualifier = some place) :
    index.candidates scope names = index.candidatesAt member place := by
  simp [candidates, hs, hp]

theorem Filed.of_candidate (h : index.Filed) (hm : candidate ∈ index.candidatesAt member place) :
    index.function? candidate.1 = none ∧ index.constant? candidate.2 = none := by
  cases place with
  | type owner =>
    obtain ⟨name, -, rfl⟩ := List.mem_map.mp hm
    exact ⟨h.function?_value _, h.constant?_eq_none fun _ => ElementId.method_ne_value⟩
  | modules modules =>
    obtain ⟨module, -, rfl⟩ := List.mem_map.mp hm
    exact ⟨h.function?_value _, h.constant?_eq_none fun _ => ElementId.function_ne_value⟩

-- ---------------------------------------------------------------------------
-- Calls and references
-- ---------------------------------------------------------------------------

theorem findSome?_candidatesAt (index : Index) (member : String) (place : Place) :
    (index.candidatesAt member place).findSome? (fun candidate => index.function? candidate.2) =
      match place with
      | .type owner => index.lookupMethod? owner member
      | .modules modules =>
        modules.findSome? fun module => index.function? (.function (qualify module member)) := by
  cases place with
  | type owner =>
    simp only [candidatesAt, List.findSome?_map, List.findSome?_cons, lookupMethod?,
      Function.comp_def]
    cases index.function? (.method owner member) <;> rfl
  | modules modules =>
    rw [candidatesAt, List.findSome?_map]
    rfl

theorem exists_candidate (h : index.lookupPath? scope names = some entry) :
    ∃ qualifier member place earlier constant id later,
      splitLast? names = some (qualifier, member) ∧
      index.place? scope qualifier = some place ∧
      index.candidatesAt member place = earlier ++ (constant, id) :: later ∧
      (∀ candidate ∈ earlier, index.function? candidate.2 = none) ∧
      index.function? id = some entry := by
  obtain ⟨⟨qualifier, member⟩, hs, h⟩ := Option.bind_eq_some_iff.mp h
  obtain ⟨place, hp, h⟩ := Option.bind_eq_some_iff.mp h
  have hfirst : (index.candidatesAt member place).findSome?
      (fun candidate => index.function? candidate.2) = some entry := by
    cases place with
    | type owner => exact (index.findSome?_candidatesAt member _).trans h
    | modules modules => exact (index.findSome?_candidatesAt member _).trans h
  obtain ⟨earlier, ⟨constant, id⟩, later, hsplit, hid, hnone⟩ :=
    List.findSome?_eq_some_iff.mp hfirst
  exact ⟨qualifier, member, place, earlier, constant, id, later, hs, hp, hsplit, hnone, hid⟩

theorem function?_of_lookupPath? (hc : index.Consistent)
    (h : index.lookupPath? scope names = some entry) : index.function? entry.id = some entry := by
  obtain ⟨-, -, -, -, -, id, -, -, -, -, -, hid⟩ := exists_candidate h
  obtain rfl : entry.id = id := hc.ownId _ (mem_of_lookup hid)
  exact hid

theorem Filed.body?_of_boundary (hf : index.Filed) (h : index.function? entry.id = some entry)
    (hb : (index.callTarget entry).value.isBoundary = true) : index.body? entry.id = none := by
  have hkind : entry.kind = .interface ∨ entry.kind = .abstract := CallTarget.isBoundary_iff.mp hb
  have hbody : entry.body = none := hf.bodiless _ (mem_of_lookup h) hkind
  simp [body?, h, hbody]

/-- Constants are looked up before functions under each candidate, so the first that is declared is
the first constant up to the candidate of the function, or else the function. -/
theorem find?_isDeclared {constant element : ElementId}
    {earlier later : List (ElementId × ElementId)}
    (hkinds : ∀ candidate ∈ earlier ++ [(constant, element)],
      index.function? candidate.1 = none ∧ index.constant? candidate.2 = none)
    (hnone : ∀ candidate ∈ earlier, index.function? candidate.2 = none)
    (he : index.function? element = some entry) :
    ((earlier ++ (constant, element) :: later).flatMap fun candidate =>
        [candidate.1, candidate.2]).find? index.isDeclared =
      some ((index.constantAmong? (earlier ++ [(constant, element)])).getD element) := by
  induction earlier with
  | nil =>
    obtain ⟨hvalue, -⟩ := hkinds (constant, element) List.mem_cons_self
    cases hc : index.constant? constant <;>
      simp [isDeclared, constantAmong?, hvalue, he, hc]
  | cons first rest ih =>
    obtain ⟨hvalue, hfunction⟩ := hkinds first List.mem_cons_self
    have hfirst : index.function? first.2 = none := hnone first List.mem_cons_self
    have hrest := ih (fun candidate hm => hkinds candidate (List.mem_cons_of_mem _ hm))
      (fun candidate hm => hnone candidate (List.mem_cons_of_mem _ hm))
    cases hc : index.constant? first.1 with
    | some value => simp [isDeclared, constantAmong?, hvalue, hc]
    | none =>
      have hpassed : index.isDeclared first.1 = false ∧ index.isDeclared first.2 = false := by
        simp [isDeclared, hvalue, hfunction, hfirst, hc]
      have hamong : index.constantAmong? (first :: rest ++ [(constant, element)]) =
          index.constantAmong? (rest ++ [(constant, element)]) := by
        simp [constantAmong?, List.find?_cons, hc]
      rw [hamong, ← hrest]
      simp [List.find?_cons, hpassed]

theorem resolveReference?_eq (hu : path.isQualified = false)
    (hparam : ∀ name, path.names = [name] → index.isParameter scope name = false)
    (hs : splitLast? path.names = some (qualifier, member))
    (hp : index.place? scope qualifier = some place) :
    index.resolveReference? scope path = (referents member place).find? index.isDeclared := by
  have hfree : (qualifier.isEmpty && index.isParameter scope member) = false := by
    cases qualifier with
    | nil => exact hparam member (splitLast?_eq_some_iff.mp hs)
    | cons first rest => rfl
  simp only [resolveReference?, hu, hs, hp, hfree, Option.bind_eq_bind, Option.bind_some,
    Bool.false_eq_true, if_false]

theorem OnlyInTrait.resolveReference? (hf : index.Filed) (hu : path.isQualified = false)
    (hparam : ∀ name, path.names = [name] → index.isParameter scope name = false)
    (h : index.OnlyInTrait scope path.names) : index.resolveReference? scope path = none := by
  obtain ⟨qualifier, member, owner, hs, hp, hmethod, hvalue⟩ := h
  have hconstant : index.constant? (.method owner member) = none :=
    hf.constant?_eq_none fun _ => ElementId.method_ne_value
  rw [resolveReference?_eq hu hparam hs hp]
  simp [referents, isDeclared, hmethod, hvalue, hf.function?_value, hconstant]

theorem foundAlike_of_lookupPath? (hc : index.Consistent) (hf : index.Filed)
    (hu : path.isQualified = false)
    (hparam : ∀ name, path.names = [name] → index.isParameter scope name = false)
    (hcall : index.lookupPath? scope path.names = some entry)
    (ht : ¬ index.OnlyInTrait scope path.names) : index.FoundAlike scope path entry.id := by
  obtain ⟨qualifier, member, place, earlier, constant, id, later, hs, hp, hsplit, hnone, hid⟩ :=
    exists_candidate hcall
  obtain rfl : entry.id = id := hc.ownId _ (mem_of_lookup hid)
  refine ⟨earlier, constant, later, (candidates_eq hs hp).trans hsplit, hnone, ?_⟩
  have hkinds : ∀ candidate ∈ earlier ++ [(constant, entry.id)],
      index.function? candidate.1 = none ∧ index.constant? candidate.2 = none := by
    intro candidate hm
    have hplace : candidate ∈ index.candidatesAt member place := by
      rw [hsplit, List.append_cons]
      exact List.mem_append_left later hm
    exact hf.of_candidate hplace
  rw [resolveReference?_eq hu hparam hs hp]
  cases place with
  | modules modules =>
    have hall : referents member (.modules modules) =
        (index.candidatesAt member (.modules modules)).flatMap fun candidate =>
          [candidate.1, candidate.2] := by
      simp [referents, candidatesAt, List.flatMap_map]
    rw [hall, hsplit]
    exact find?_isDeclared hkinds hnone hid
  | type owner =>
    cases earlier with
    | nil =>
      -- the type has the method itself
      obtain ⟨hfirst, -⟩ := List.cons.inj hsplit
      have hown : referents member (.type owner) =
          ([] ++ [(constant, entry.id)]).flatMap fun candidate : ElementId × ElementId =>
            [candidate.1, candidate.2] := by
        rw [← hfirst]
        rfl
      rw [hown]
      exact find?_isDeclared hkinds hnone hid
    | cons first rest =>
      -- it has none, so it has a constant of this name
      obtain ⟨rfl, -⟩ := List.cons.inj hsplit
      have hmethod : index.function? (.method owner member) = none := hnone _ List.mem_cons_self
      cases hv : index.constant? (.value (owner ++ "::" ++ member)) with
      | none => exact absurd ⟨qualifier, member, owner, hs, hp, hmethod, hv⟩ ht
      | some value => simp [referents, isDeclared, constantAmong?, hv]

end

end Index

-- ---------------------------------------------------------------------------
-- Scans
-- ---------------------------------------------------------------------------

def ScanState.unlogged (state : ScanState) : ScanState :=
  { state with log := [] }

namespace Scan

theorem enter_unlogged (scan : Scan) (state : ScanState) (log : Log) (element : ElementId) :
    (scan.enter { state with log } element).1.unlogged =
      (scan.enter state element).1.unlogged := by
  simp only [enter]
  split
  · rfl
  · split <;> rfl

theorem visitBoundary_unlogged (scan : Scan) (state : ScanState) (log : Log) (target : CallTarget)
    (start : Position) :
    (scan.visitBoundary { state with log } target start).unlogged =
      (scan.visitBoundary state target start).unlogged := by
  simp only [visitBoundary]
  split
  · rfl
  · split
    · rfl
    · split <;> rfl

theorem visit_unlogged (scan : Scan) (state : ScanState) (log : Log) (site : Site) :
    (scan.visit { state with log } site).1.unlogged = (scan.visit state site).1.unlogged := by
  cases site with
  | kind kind =>
    simp only [visit, recordKind]
    split <;> rfl
  | custom code => cases code <;> rfl
  | unknown text start => rfl
  | reference element => exact scan.enter_unlogged state log element
  | call target start =>
    simp only [visit]
    split
    · exact scan.visitBoundary_unlogged (state.tell target.log) (log ++ target.log) _ start
    · split
      · exact scan.enter_unlogged (state.tell target.log) (log ++ target.log) _
      · rfl

theorem after_unlogged (scan : Scan) (visits : List Site) {state' state : ScanState}
    (h : state'.unlogged = state.unlogged) :
    (scan.after state' visits).unlogged = (scan.after state visits).unlogged := by
  induction visits generalizing state' state with
  | nil => exact h
  | cons site rest ih =>
    refine ih ?_
    calc (scan.visit state' site).1.unlogged
        = (scan.visit state'.unlogged site).1.unlogged := (scan.visit_unlogged state' [] site).symm
      _ = (scan.visit state.unlogged site).1.unlogged := by rw [h]
      _ = (scan.visit state site).1.unlogged := scan.visit_unlogged state [] site

theorem run_unlogged (scan : Scan) (work : List Site) {state' state : ScanState}
    (h : state'.unlogged = state.unlogged) :
    (scan.run state' work).unlogged = (scan.run state work).unlogged := by
  obtain ⟨visits, entered, hc, hr⟩ := scan.run_course state work
  have hv : state'.visited = state.visited := congrArg (·.visited) h
  rw [hr, hc.run_eq state' hv]
  exact scan.after_unlogged visits h

/-- A scan goes on from a call as from a mention of what is called, if that has a body to scan. -/
theorem run_call (scan : Scan) (state : ScanState) {target : Logged CallTarget}
    (hb : target.value.isBoundary = false) (he : target.value.element = some element)
    (start : Position) (rest : List Site) :
    (scan.run state (.call target start :: rest)).unlogged =
      (scan.run state (.reference element :: rest)).unlogged := by
  have hcall : scan.visit state (.call target start) =
      scan.enter (state.tell target.log) element := by
    simp [visit, hb, he]
  have hnext : (scan.enter (state.tell target.log) element).2 = (scan.enter state element).2 := by
    by_cases hv : element ∈ state.visited
    · rw [(scan.enter_visited state hv).2, (scan.enter_visited (state.tell target.log) hv).2]
    · rw [(scan.enter_fresh state hv).2, (scan.enter_fresh (state.tell target.log) hv).2]
  have hreference : scan.visit state (.reference element) = scan.enter state element := rfl
  rw [run, run, hcall, hreference, hnext]
  exact scan.run_unlogged _ (scan.enter_unlogged state _ element)

section
variable {scope : ElementId} {path : ExprPath}

theorem exprSites_mention (scan : Scan)
    (h : scan.symbols.resolveReference? scope path = some element)
    (hf : Factory.ofNames? scan.known path.names = none) :
    (scan.within scope).exprSites (.path path) = [.reference element] := by
  simp [SiteContext.exprSites, SiteContext.pathSites, within, h, hf]

theorem exprSites_call (scan : Scan)
    (h : scan.symbols.resolveCall? scope (.function (.path path)) = some target)
    (hf : Factory.ofNames? scan.known path.names = none) :
    (scan.within scope).exprSites (.call start (.path path) args) =
      .call target start :: (scan.within scope).listSites args := by
  simp [SiteContext.exprSites, SiteContext.calledFactory?, SiteContext.callSites,
    SiteContext.calleeSites, within, h, hf]

end

end Scan

open Index in
/-- A call and a mention of the same path find the same function, or the mention finds a constant
that is declared no later; unless the path leads to a type that has the method from a trait alone,
and then the mention finds nothing. From a function that both find a scan goes on alike, if it has a
body; a method without one counts where it is called, and there is nothing to scan where it is
mentioned. -/
theorem passed_function_found (known : WellKnown) (sources : List SourceFile) (scope : ElementId)
    (path : ExprPath) (target : Logged CallTarget) :
    let index := sources.foldl Index.after { known }
    path.isQualified = false →
    (∀ name, path.names = [name] → index.isParameter scope name = false) →
    index.resolveCall? scope (.function (.path path)) = some target →
    ∃ element, target.value.element = some element ∧
      (index.FoundAlike scope path element ↔ ¬ index.OnlyInTrait scope path.names) ∧
      (index.OnlyInTrait scope path.names → index.resolveReference? scope path = none) ∧
      (target.value.isBoundary = true → index.body? element = none) ∧
      (target.value.isBoundary = false → index.resolveReference? scope path = some element →
        ∀ (scan : Scan) (state : ScanState) (start : Position) (args : List Expr)
          (rest : List Site), scan.symbols = index.symbols →
          Factory.ofNames? scan.known path.names = none →
          (scan.run state
            ((scan.within scope).exprSites (.call start (.path path) args) ++ rest)).unlogged =
          (scan.run state ((scan.within scope).exprSites (.path path) ++
            (scan.within scope).listSites args ++ rest)).unlogged) := by
  intro index hu hparam hcall
  have hc : index.Consistent := (Consistent.empty known).run sources
  have hf : index.Filed := filed_of_sources known sources
  obtain ⟨entry, hcallee, rfl⟩ := Option.map_eq_some_iff.mp hcall
  have hlookup : index.lookupPath? scope path.names = some entry := by
    simpa [callee?, Expr.bare, hu] using hcallee
  have hnone := OnlyInTrait.resolveReference? hf hu hparam
  refine ⟨entry.id, rfl, ⟨?_, foundAlike_of_lookupPath? hc hf hu hparam hlookup⟩, hnone, ?_, ?_⟩
  · rintro ⟨earlier, constant, later, -, -, hfound⟩ htrait
    rw [hnone htrait] at hfound
    cases hfound
  · intro hboundary
    exact hf.body?_of_boundary (function?_of_lookupPath? hc hlookup) hboundary
  · intro hboundary hfound scan state start args rest hsymbols hfactory
    have hmention : scan.symbols.resolveReference? scope path = some entry.id := by
      rw [hsymbols]
      exact hfound
    have hsite : scan.symbols.resolveCall? scope (.function (.path path)) =
        some (index.callTarget entry) := by
      rw [hsymbols]
      exact hcall
    rw [scan.exprSites_mention hmention hfactory, scan.exprSites_call hsite hfactory]
    exact scan.run_call state hboundary rfl start _

def namedUsers : SourceFile where
  name := none
  content :=
    "trait Named { fn check() {} } struct User; impl Named for User {} fn pass() { f(User::check) }"

theorem passed_function_found_in_trait :
    let index := [namedUsers].foldl Index.after {}
    let pass : ElementId := .function "pass"
    let path : ExprPath := { names := ["Named", "check"] }
    path.isQualified = false ∧ (∀ name, path.names = [name] → index.isParameter pass name = false) ∧
    ∃ target, index.resolveCall? pass (.function (.path path)) = some target ∧
      ¬ index.OnlyInTrait pass path.names ∧ target.value.element = some (.method "Named" "check") ∧
      index.FoundAlike pass path (.method "Named" "check") := by
  intro index pass path
  have hparam : ∀ name, path.names = [name] → index.isParameter pass name = false := by
    intro name h
    simp [path] at h
  have hread : (index.function? (.method "Named" "check")).isSome = true ∧
      (index.resolveCall? pass (.function (.path path))).map (·.value.element) =
        some (some (.method "Named" "check")) := by decide +kernel
  obtain ⟨hmethod, hcall⟩ := hread
  obtain ⟨target, hcall, htarget⟩ := Option.map_eq_some_iff.mp hcall
  have htrait : ¬ index.OnlyInTrait pass path.names := by
    rintro ⟨qualifier, member, owner, hs, hp, hnone, -⟩
    cases hs
    cases hp
    have hsome : index.function? (.method "Named" "check") = none := hnone
    rw [hsome] at hmethod
    cases hmethod
  obtain ⟨element, he, halike, -⟩ :=
    passed_function_found {} [namedUsers] pass path target rfl hparam hcall
  obtain rfl : element = .method "Named" "check" := Option.some.inj (he.symm.trans htarget)
  exact ⟨rfl, hparam, target, hcall, htrait, htarget, halike.mpr htrait⟩

theorem trait_method_lost_when_passed :
    let index := [namedUsers].foldl Index.after {}
    let pass : ElementId := .function "pass"
    let path : ExprPath := { names := ["User", "check"] }
    (index.resolveCall? pass (.function (.path path))).map (·.value.element) =
      some (some (.method "Named" "check")) ∧
    index.constantAmong? (index.candidates pass path.names) = none ∧
    index.resolveReference? pass path = none := by
  decide +kernel

end EndpointInference

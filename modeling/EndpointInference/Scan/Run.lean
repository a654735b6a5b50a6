import EndpointInference.Scan.Site

/-!
The scan of a handler: its body and, at each call or reference, the body of what is called or
referred to, before the rest. A body is entered at most once. Where a call has no body to scan,
the errors declared for it count, and a call that declares none is reported once.
-/

namespace EndpointInference

open EndpointInference.Syntax

structure Scan where
  symbols : Symbols
  known : WellKnown
  handler : String
  declaresErrors : Bool

structure ScanState where
  visited : List ElementId := []
  outcomes : OutcomeCollector := {}
  reported : List String := []
  diagnostics : List Diagnostic := []
  log : Log := []

namespace ScanState

def tell (state : ScanState) (log : Log) : ScanState :=
  { state with log := state.log ++ log }

def trace (state : ScanState) (message : String) (fields : List (String × String)) : ScanState :=
  state.tell [.event ⟨.trace, message, fields⟩]

end ScanState

namespace Scan

def sitesOf? (scan : Scan) (element : ElementId) : Option (List Site) :=
  (scan.symbols.body? element).map
    (SiteContext.bodySites ⟨scan.symbols, scan.known, element⟩)

/-- Enters an element: the state behind it, and the sites to visit next. -/
def enter (scan : Scan) (state : ScanState) (element : ElementId) : ScanState × List Site :=
  if state.visited.contains element then
    (state.trace "Already visited" [("handler", scan.handler), ("element", element.text)], [])
  else
    let state := { state with visited := element :: state.visited }
    match scan.sitesOf? element with
    | some sites =>
      (state.trace "Scanning" [("handler", scan.handler), ("element", element.text)], sites)
    | none => (state, [])

def recordKind (scan : Scan) (state : ScanState) (kind : ErrorKind) : ScanState :=
  let (isNew, outcomes) := state.outcomes.recordKind kind
  let state := { state with outcomes }
  if isNew then
    state.trace "Error kind recorded" [("handler", scan.handler), ("kind", kind.name)]
  else state

def recordCustom (scan : Scan) (state : ScanState) : Option CustomErrorCode → ScanState
  | some code => { state with outcomes := (state.outcomes.recordCustom code).2 }
  | none => state.trace "Custom error without constant code" [("handler", scan.handler)]

def isFallible (scan : Scan) (target : CallTarget) : Bool :=
  target.returns.any fun ty => (scan.known.falliblePayload? ty).isSome

def visitBoundary (scan : Scan) (state : ScanState) (target : CallTarget) (start : Position) :
    ScanState :=
  if !scan.isFallible target then state
  else
    match target.declaredErrors with
    | some declared => { state with outcomes := state.outcomes.recordDeclared declared }
    | none =>
      if scan.declaresErrors || state.reported.contains target.displayName then state
      else
        { state with
          reported := target.displayName :: state.reported
          diagnostics := state.diagnostics ++
            [.undocumentedInterfaceCall scan.handler target.displayName
              (scan.symbols.locate start)] }

def visit (scan : Scan) (state : ScanState) : Site → ScanState × List Site
  | .kind kind => (scan.recordKind state kind, [])
  | .custom code => (scan.recordCustom state code, [])
  | .unknown text start =>
    ({ state with
        diagnostics := state.diagnostics ++
          [.unknownErrorFactory text (scan.symbols.locate start)] }, [])
  | .call target start =>
    let state := state.tell target.log
    if target.value.isBoundary then (scan.visitBoundary state target.value start, [])
    else
      match target.value.element with
      | some element => scan.enter state element
      | none => (state, [])
  | .reference element => scan.enter state element

/-! ### Running -/

def unvisited (scan : Scan) (visited : List ElementId) : Nat :=
  (scan.symbols.declared.filter fun element => !visited.contains element).length

theorem unvisited_cons_le (scan : Scan) (element : ElementId) (visited : List ElementId) :
    scan.unvisited (element :: visited) ≤ scan.unvisited visited := by
  unfold unvisited
  rw [← List.countP_eq_length_filter, ← List.countP_eq_length_filter]
  apply List.countP_mono_left
  intro x _ hx
  simp_all

theorem unvisited_cons_lt (scan : Scan) {element : ElementId} {visited : List ElementId}
    (declared : element ∈ scan.symbols.declared) (fresh : visited.contains element = false) :
    scan.unvisited (element :: visited) < scan.unvisited visited :=
  unseen_cons_lt declared fresh

/-- Entering an element uses it up, or gives nothing more to visit. -/
theorem enter_decreases (scan : Scan) (state : ScanState) (element : ElementId) :
    scan.unvisited (scan.enter state element).1.visited < scan.unvisited state.visited ∨
      (scan.unvisited (scan.enter state element).1.visited ≤ scan.unvisited state.visited ∧
        (scan.enter state element).2 = []) := by
  unfold enter
  split
  · exact .inr ⟨Nat.le_refl _, rfl⟩
  · next fresh =>
    cases h : scan.symbols.body? element with
    | none =>
      simp only [sitesOf?, h, Option.map_none]
      exact .inr ⟨scan.unvisited_cons_le _ _, trivial⟩
    | some body =>
      simp only [sitesOf?, h, Option.map_some]
      exact .inl (scan.unvisited_cons_lt (scan.symbols.mem_declared _ _ h) (by simpa using fresh))

@[simp] theorem visited_recordKind (scan : Scan) (state : ScanState) (kind : ErrorKind) :
    (scan.recordKind state kind).visited = state.visited := by
  unfold recordKind
  dsimp only
  split <;> rfl

@[simp] theorem visited_recordCustom (scan : Scan) (state : ScanState)
    (code : Option CustomErrorCode) : (scan.recordCustom state code).visited = state.visited := by
  cases code <;> rfl

@[simp] theorem visited_visitBoundary (scan : Scan) (state : ScanState) (target : CallTarget)
    (start : Position) : (scan.visitBoundary state target start).visited = state.visited := by
  unfold visitBoundary
  split
  · rfl
  · split
    · rfl
    · split <;> rfl

theorem visit_decreases (scan : Scan) (state : ScanState) (site : Site) :
    scan.unvisited (scan.visit state site).1.visited < scan.unvisited state.visited ∨
      (scan.unvisited (scan.visit state site).1.visited ≤ scan.unvisited state.visited ∧
        (scan.visit state site).2 = []) := by
  cases site with
  | kind kind => exact .inr ⟨by simp [visit], rfl⟩
  | custom code => exact .inr ⟨by simp [visit], rfl⟩
  | unknown text start => exact .inr ⟨Nat.le_refl _, rfl⟩
  | reference element => exact scan.enter_decreases state element
  | call target start =>
    simp only [visit]
    split
    · exact .inr ⟨by simp [ScanState.tell], rfl⟩
    · split
      · exact scan.enter_decreases (state.tell target.log) _
      · exact .inr ⟨Nat.le_refl _, rfl⟩

def run (scan : Scan) (state : ScanState) : List Site → ScanState
  | [] => state
  | site :: rest =>
    scan.run (scan.visit state site).1 ((scan.visit state site).2 ++ rest)
termination_by work => (scan.unvisited state.visited, work.length)
decreasing_by
  rcases scan.visit_decreases state site with h | ⟨h, hn⟩
  · exact .left _ _ h
  · rw [hn]
    rcases Nat.lt_or_eq_of_le h with h | h
    · exact .left _ _ h
    · rw [h]
      exact .right _ (by simp)

def runFrom (scan : Scan) (state : ScanState) (root : ElementId) : ScanState :=
  scan.run { state with visited := root :: state.visited } ((scan.sitesOf? root).getD [])

end Scan

def collectErrors (symbols : Symbols) (known : WellKnown) (handler : Handler) :
    Logged ErrorOutcomes :=
  let scan : Scan := ⟨symbols, known, handler.name, handler.declaredErrors.isSome⟩
  let declared := (handler.declaredErrors.map ({} : OutcomeCollector).recordDeclared).getD {}
  let final := scan.runFrom { outcomes := declared } handler.id
  ⟨final.outcomes.finish,
   final.log ++
     .event ⟨.debug, "Call graph traversal finished",
       [("handler", handler.name), ("visited", toString final.visited.length)]⟩ ::
     final.diagnostics.map .report⟩

end EndpointInference

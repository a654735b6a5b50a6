import EndpointInference.Analysis
import EndpointInference.Proofs.Rejection
import EndpointInference.Proofs.Remarks

/-!
# A missing contract is explained by an error

The three stages of an analysis report diagnostics of their own. Binding the parameters fails
exactly where it reports an error; scanning for errors reports warnings, and building the responses
at most one remark on their number. `analyzeAll_explained`: over a list of handlers, those that may
fail and have no contract are those for which an error is reported, and what is reported for one
handler does not depend on the others.
-/

namespace EndpointInference

open EndpointInference.Syntax

-- ---------------------------------------------------------------------------
-- What a scan reports
-- ---------------------------------------------------------------------------

def Diagnostic.IsScanWarning (diagnostic : Diagnostic) : Prop :=
  diagnostic.code = .undocumentedInterfaceCall ∨ diagnostic.code = .unknownErrorFactory

structure ScanState.Warning (state : ScanState) : Prop where
  warnings : ∀ diagnostic ∈ state.diagnostics, diagnostic.IsScanWarning
  silent : state.log.diagnostics = []

namespace ScanState.Warning

theorem tell {state : ScanState} (h : state.Warning) {log : Log} (hl : log.diagnostics = []) :
    (state.tell log).Warning :=
  ⟨h.warnings, by simp [ScanState.tell, h.silent, hl]⟩

theorem trace {state : ScanState} (h : state.Warning) (message : String)
    (fields : List (String × String)) : (state.trace message fields).Warning :=
  h.tell rfl

theorem report {state : ScanState} (h : state.Warning) (hd : diagnostic.IsScanWarning) :
    ∀ other ∈ state.diagnostics ++ [diagnostic], other.IsScanWarning := by
  intro other ho
  rcases List.mem_append.mp ho with ho | ho
  · exact h.warnings other ho
  · rwa [List.mem_singleton.mp ho]

theorem enter {state : ScanState} (h : state.Warning) (scan : Scan) (element : ElementId) :
    (scan.enter state element).1.Warning := by
  unfold Scan.enter
  split
  · exact h.trace _ _
  · have hs : { state with visited := element :: state.visited : ScanState }.Warning :=
      ⟨h.warnings, h.silent⟩
    split
    · exact hs.trace _ _
    · exact hs

theorem visitBoundary {state : ScanState} (h : state.Warning) (scan : Scan) (target : CallTarget)
    (start : Position) : (scan.visitBoundary state target start).Warning := by
  unfold Scan.visitBoundary
  split
  · exact h
  · split
    · exact ⟨h.warnings, h.silent⟩
    · split
      · exact h
      · exact ⟨h.report (.inl rfl), h.silent⟩

theorem visit {state : ScanState} (h : state.Warning) (scan : Scan) (hq : site.log.AllRemarks) :
    (scan.visit state site).1.Warning := by
  cases site with
  | kind kind =>
    have hs : { state with outcomes := (state.outcomes.recordKind kind).2 : ScanState }.Warning :=
      ⟨h.warnings, h.silent⟩
    simp only [Scan.visit, Scan.recordKind]
    split
    · exact hs.trace _ _
    · exact hs
  | custom code =>
    cases code with
    | some code => exact ⟨h.warnings, h.silent⟩
    | none => exact h.trace _ _
  | unknown text start => exact ⟨h.report (.inr rfl), h.silent⟩
  | reference element => exact h.enter scan element
  | call target start =>
    have ht : (state.tell target.log).Warning := h.tell hq.diagnostics_eq_nil
    simp only [Scan.visit]
    split
    · exact ht.visitBoundary scan target.value start
    · split
      · exact ht.enter scan _
      · exact ht

theorem after {state : ScanState} (h : state.Warning) (scan : Scan)
    (hq : ∀ site ∈ visits, site.log.AllRemarks) : (scan.after state visits).Warning := by
  induction visits generalizing state with
  | nil => exact h
  | cons site rest ih =>
    exact ih (h.visit scan (hq site List.mem_cons_self))
      fun other ho => hq other (List.mem_cons_of_mem _ ho)

end ScanState.Warning

theorem collectErrors_warnings {symbols : Symbols} (hs : symbols.Remarking) (known : WellKnown)
    (handler : Handler) :
    ∀ diagnostic ∈ (collectErrors symbols known handler).diagnostics,
      diagnostic.IsScanWarning := by
  obtain ⟨visits, entered, hc, hr⟩ := collectErrors_course symbols known handler
  have hstart : (ScanState.ofHandler handler).Warning := ⟨nofun, rfl⟩
  have hfinal := hstart.after (Scan.ofHandler symbols known handler) (hc.remarking hs)
  rw [hr]
  simpa [Logged.diagnostics, ScanState.summary, hfinal.silent] using hfinal.warnings

-- ---------------------------------------------------------------------------
-- What building the responses reports
-- ---------------------------------------------------------------------------

theorem ResponseUnion.build_diagnostics (options : Options) (handler : Handler)
    (success : SuccessShape) (parameters : List EndpointParameter) (errors : ErrorOutcomes) :
    (build options handler success parameters errors).diagnostics.length ≤ 1 ∧
      ∀ diagnostic ∈ (build options handler success parameters errors).diagnostics,
        diagnostic.code = .tooManyResultTypes := by
  unfold build
  dsimp only
  split <;> simp [Diagnostic.tooManyResultTypes]

-- ---------------------------------------------------------------------------
-- One handler
-- ---------------------------------------------------------------------------

/-- What may be reported for a handler with a contract: ambiguous bindings, then what the scan warns
of, then perhaps a remark on the number of responses. -/
def Diagnostics.OfContract (diagnostics : Diagnostics) : Prop :=
  ∃ ambiguous warnings remarks, diagnostics = ambiguous ++ warnings ++ remarks ∧
    (∀ diagnostic ∈ ambiguous, diagnostic.code = .ambiguousBodylessBinding) ∧
    (∀ diagnostic ∈ warnings, diagnostic.IsScanWarning) ∧
    remarks.length ≤ 1 ∧ ∀ diagnostic ∈ remarks, diagnostic.code = .tooManyResultTypes

theorem Diagnostics.OfContract.hasErrors_eq_false {diagnostics : Diagnostics}
    (h : diagnostics.OfContract) : diagnostics.hasErrors = false := by
  obtain ⟨ambiguous, warnings, remarks, rfl, ha, hw, -, hr⟩ := h
  refine List.any_eq_false.mpr fun diagnostic hd => ?_
  have hcode : diagnostic.code.severity ≠ .error := by
    rcases List.mem_append.mp hd with hd | hd
    · rcases List.mem_append.mp hd with hd | hd
      · simp [ha diagnostic hd, DiagnosticCode.severity]
      · rcases hw diagnostic hd with h | h <;> simp [h, DiagnosticCode.severity]
    · simp [hr diagnostic hd, DiagnosticCode.severity]
  simpa [Diagnostic.isError, Diagnostic.severity] using hcode

namespace Analyzer

def MayFail (analyzer : Analyzer) (handler : Handler) : Prop :=
  (analyzer.known.falliblePayload? handler.returnType).isSome

section
variable {analyzer : Analyzer} {handler : Handler}

theorem mayFail_iff :
    analyzer.MayFail handler ↔ ∃ success, analyzer.success? handler = some success := by
  rw [← Option.isSome_iff_exists, success?, inferSuccess?, Option.isSome_map]
  rfl

theorem analyze_of_not_mayFail (h : ¬analyzer.MayFail handler) :
    (analyzer.analyze handler).value = none ∧ (analyzer.analyze handler).diagnostics = [] := by
  have hs : analyzer.success? handler = none :=
    Option.eq_none_iff_forall_ne_some.mpr fun success hs => h (mayFail_iff.mpr ⟨success, hs⟩)
  simp [analyze, hs, notFallible]

theorem analyze_of_incomplete (h : analyzer.success? handler = some success)
    (hc : (analyzer.view.classifyHandler handler).value.complete? = none) :
    (analyzer.analyze handler).value = none ∧
      (analyzer.analyze handler).diagnostics =
        (analyzer.view.classifyHandler handler).diagnostics := by
  simp [analyze, h, hc]

theorem analyze_of_complete (h : analyzer.success? handler = some success)
    (hc : (analyzer.view.classifyHandler handler).value.complete? = some parameters) :
    (analyzer.analyze handler).value =
        some (analyzer.contract handler success parameters).value ∧
      (analyzer.analyze handler).diagnostics =
        (analyzer.view.classifyHandler handler).diagnostics ++
          (analyzer.contract handler success parameters).diagnostics := by
  simp [analyze, h, hc]

theorem ofContract_of_complete (hs : analyzer.symbols.Remarking)
    (hb : (analyzer.view.classifyHandler handler).diagnostics.hasErrors = false)
    (success : SuccessShape) (parameters : List EndpointParameter) :
    Diagnostics.OfContract ((analyzer.view.classifyHandler handler).diagnostics ++
      (analyzer.contract handler success parameters).diagnostics) := by
  obtain ⟨hone, hmany⟩ := ResponseUnion.build_diagnostics analyzer.options handler success
    parameters (collectErrors analyzer.symbols analyzer.known handler).value
  refine ⟨(analyzer.view.classifyHandler handler).diagnostics, _, _, ?_, fun diagnostic hd => ?_,
    collectErrors_warnings hs analyzer.known handler, hone, hmany⟩
  · simp only [contract, Logged.diagnostics_bind, Logged.diagnostics_pure, List.append_nil]
    exact (List.append_assoc ..).symm
  · have he := List.any_eq_false.mp hb diagnostic hd
    have hc := (analyzer.view.classifyHandler_explained handler).codes diagnostic
      (by simpa using hd)
    exact hc.resolve_left he

theorem analyze_explained (hs : analyzer.symbols.Remarking) (h : analyzer.MayFail handler) :
    ((analyzer.analyze handler).value = none ↔
        (analyzer.analyze handler).diagnostics.hasErrors = true) ∧
      ((analyzer.analyze handler).value ≠ none →
        (analyzer.analyze handler).diagnostics.OfContract) := by
  obtain ⟨success, h⟩ := mayFail_iff.mp h
  have hmissing : (analyzer.view.classifyHandler handler).value.complete? = none ↔
      (analyzer.view.classifyHandler handler).diagnostics.hasErrors = true := by
    simpa using (analyzer.view.classifyHandler_explained handler).missing
  cases hc : (analyzer.view.classifyHandler handler).value.complete? with
  | none =>
    obtain ⟨hv, hd⟩ := analyze_of_incomplete h hc
    rw [hv, hd]
    exact ⟨by simp [hmissing.mp hc], fun hn => absurd rfl hn⟩
  | some parameters =>
    obtain ⟨hv, hd⟩ := analyze_of_complete h hc
    have hb : (analyzer.view.classifyHandler handler).diagnostics.hasErrors = false := by
      simpa [hc] using hmissing
    have hok := ofContract_of_complete hs hb success parameters
    rw [hv, hd]
    exact ⟨by simp [hok.hasErrors_eq_false], fun _ => hok⟩

end

-- ---------------------------------------------------------------------------
-- All handlers
-- ---------------------------------------------------------------------------

/-- One more handler adds its own contract and its own diagnostics, whatever came before. -/
theorem analyzeAll_concat (analyzer : Analyzer) (before : List Handler) (handler : Handler) :
    (analyzer.analyzeAll (before ++ [handler])).value =
        (analyzer.analyzeAll before).value ++ [(analyzer.analysis handler).contract] ∧
      (analyzer.analyzeAll (before ++ [handler])).diagnostics =
        (analyzer.analyzeAll before).diagnostics ++ (analyzer.analysis handler).diagnostics := by
  simp [analyzeAll, analysis]

theorem hasErrors_analyzeAll (analyzer : Analyzer) (handlers : List Handler) :
    (analyzer.analyzeAll handlers).diagnostics.hasErrors = true ↔
      ∃ handler ∈ handlers, (analyzer.analysis handler).diagnostics.hasErrors = true := by
  rw [analyzeAll, Logged.diagnostics_mapM]
  exact Diagnostics.hasErrors_flatMap

end Analyzer

inductive Origin
  | program (index : Index)
  | table (types : List TypeInfo)

def Origin.symbols : Origin → Symbols
  | .program index => index.symbols
  | .table types => .ofTypes types

theorem Origin.symbols_remarking (origin : Origin) : origin.symbols.Remarking := by
  cases origin with
  | program index => exact index.symbols_remarking
  | table types => exact Symbols.ofTypes_remarking types

/-- Handlers are analysed one after the other, each as if it were alone. One that cannot fail has no
contract, and nothing is reported for it. One that may fail has none exactly where an error is
reported for it, and else only what `OfContract` says is reported. So there are errors in the end
exactly where some handler that may fail has no contract. -/
theorem analyzeAll_explained (origin : Origin) (options : Options) (handlers : List Handler) :
    let analyzer : Analyzer := ⟨origin.symbols, options⟩
    (∀ before handler,
      (analyzer.analyzeAll (before ++ [handler])).value =
          (analyzer.analyzeAll before).value ++ [(analyzer.analysis handler).contract] ∧
        (analyzer.analyzeAll (before ++ [handler])).diagnostics =
          (analyzer.analyzeAll before).diagnostics ++ (analyzer.analysis handler).diagnostics) ∧
    (∀ handler, ¬analyzer.MayFail handler →
      (analyzer.analysis handler).contract = none ∧
        (analyzer.analysis handler).diagnostics = []) ∧
    (∀ handler, analyzer.MayFail handler →
      ((analyzer.analysis handler).contract = none ↔
          ∃ diagnostic ∈ (analyzer.analysis handler).diagnostics, diagnostic.severity = .error) ∧
        ((analyzer.analysis handler).contract ≠ none →
          (analyzer.analysis handler).diagnostics.OfContract)) ∧
    ((analyzer.analyzeAll handlers).diagnostics.hasErrors = true ↔
      ∃ handler ∈ handlers, analyzer.MayFail handler ∧
        (analyzer.analysis handler).contract = none) := by
  intro analyzer
  have hnot (handler : Handler) (h : ¬analyzer.MayFail handler) :
      (analyzer.analysis handler).contract = none ∧ (analyzer.analysis handler).diagnostics = [] :=
    Analyzer.analyze_of_not_mayFail h
  have hmay (handler : Handler) (h : analyzer.MayFail handler) :
      ((analyzer.analysis handler).contract = none ↔
          (analyzer.analysis handler).diagnostics.hasErrors = true) ∧
        ((analyzer.analysis handler).contract ≠ none →
          (analyzer.analysis handler).diagnostics.OfContract) :=
    Analyzer.analyze_explained origin.symbols_remarking h
  refine ⟨analyzer.analyzeAll_concat, hnot, fun handler h => ⟨?_, (hmay handler h).2⟩, ?_⟩
  · rw [(hmay handler h).1, Diagnostics.hasErrors_iff]
    simp [Diagnostic.isError]
  · rw [Analyzer.hasErrors_analyzeAll]
    refine exists_congr fun handler => and_congr_right fun _ => ⟨fun he => ?_, fun hn => ?_⟩
    · have hf : analyzer.MayFail handler := by
        -- nothing at all is reported for a handler that cannot fail
        refine Classical.byContradiction fun hf => ?_
        simp [(hnot handler hf).2] at he
      exact ⟨hf, (hmay handler hf).1.mpr he⟩
    · exact (hmay handler hn.1).1.mp hn.2

end EndpointInference

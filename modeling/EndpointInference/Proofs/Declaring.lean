import EndpointInference.Proofs.Warnings

/-!
# Declaring errors only adds them and silences warnings

Two scans of one handler are compared, one as if it declared no errors and one as if it declared
some. Both take the same course, since what is declared leads nowhere. So the second collects what
the first does behind what is declared, and warns of the same unknown members, but of no call
(`declaring_merges_and_silences`).
-/

namespace EndpointInference

open EndpointInference.Syntax

-- ---------------------------------------------------------------------------
-- Collecting in two parts
-- ---------------------------------------------------------------------------

namespace OutcomeCollector

theorem foldl_addCode_addCode (codes first : List CustomErrorCode) (code : CustomErrorCode) :
    (addCode first code).foldl addCode codes = addCode (first.foldl addCode codes) code := by
  by_cases h : code.code ∈ CustomErrorCode.texts first
  · rw [addCode_of_mem h, addCode_of_mem ((mem_texts_foldl first).mpr (.inr h))]
  · rw [addCode_of_not_mem h, List.foldl_append]
    rfl

theorem foldl_addCode_foldl (codes first added : List CustomErrorCode) :
    (added.foldl addCode first).foldl addCode codes =
      added.foldl addCode (first.foldl addCode codes) := by
  induction added generalizing first with
  | nil => rfl
  | cons code rest ih => rw [List.foldl_cons, ih, foldl_addCode_addCode, List.foldl_cons]

theorem eraseDupsBy_loop_eq (added codes : List CustomErrorCode) :
    List.eraseDupsBy.loop (·.code == ·.code) added codes.reverse = added.foldl addCode codes := by
  induction added generalizing codes with
  | nil => simp [List.eraseDupsBy.loop]
  | cons code rest ih =>
    have hs : codes.reverse.any (code.code == ·.code) = codes.any (·.code == code.code) := by
      rw [List.any_reverse]
      congr 1
      funext other
      exact Bool.beq_comm
    rw [List.foldl_cons, List.eraseDupsBy.loop, hs, addCode]
    cases codes.any (·.code == code.code) with
    | true => exact ih codes
    | false =>
      rw [← List.reverse_concat]
      exact ih (codes ++ [code])

theorem foldl_addCode_eq (added : List CustomErrorCode) :
    added.foldl addCode [] = added.eraseDupsBy (·.code == ·.code) :=
  (eraseDupsBy_loop_eq added []).symm

end OutcomeCollector

-- ---------------------------------------------------------------------------
-- Warnings that declaring does not silence
-- ---------------------------------------------------------------------------

namespace Scan

def unknownWarning? (scan : Scan) : Site → Option Diagnostic
  | .unknown text start => some (.unknownErrorFactory text (scan.symbols.locate start))
  | _ => none

theorem Course.of_same_program {scan scan' : Scan} (h : Course scan visited work visits entered)
    (hs : scan'.symbols = scan.symbols) (hk : scan'.known = scan.known) :
    Course scan' visited work visits entered := by
  have hsites : ∀ element, scan'.sites element = (scan.sites element).map id := by
    intro element
    rw [List.map_id, sites, sites, sitesOf?, sitesOf?, hs, hk]
  simpa using h.map (fun _ => rfl) hsites

theorem unknownWarning?_eq_none {scan : Scan} (h : site.isUnknown = false) :
    scan.unknownWarning? site = none := by
  cases site with
  | unknown text start => cases h
  | _ => rfl

/-- Apart from calls without a body, a run warns of the unknown members it visits, in order. -/
theorem filter_diagnostics_after (scan : Scan) (state : ScanState) (visits : List Site) :
    (scan.after state visits).diagnostics.filter (·.code != .undocumentedInterfaceCall) =
      state.diagnostics.filter (·.code != .undocumentedInterfaceCall) ++
        visits.filterMap scan.unknownWarning? := by
  induction visits generalizing state with
  | nil => simp
  | cons site rest ih =>
    rw [after_cons, ih, List.filterMap_cons]
    cases scan.visit_warns state site with
    | unknown hs hd hr =>
      subst hs
      simp [hd, unknownWarning?, Diagnostic.unknownErrorFactory]
    | undocumented hs _ _ hd hr =>
      simp [hd, unknownWarning?_eq_none (isUnknown_eq_false hs),
        Diagnostic.undocumentedInterfaceCall]
    | silent hs _ hd hr => simp [hd, unknownWarning?_eq_none hs]

theorem diagnostics_after_declaring {scan : Scan} (h : scan.declaresErrors = true)
    (state : ScanState) (visits : List Site) :
    (scan.after state visits).diagnostics =
      state.diagnostics ++ visits.filterMap scan.unknownWarning? := by
  induction visits generalizing state with
  | nil => simp
  | cons site rest ih =>
    rw [after_cons, ih, List.filterMap_cons]
    cases scan.visit_warns state site with
    | unknown hs hd hr =>
      subst hs
      simp [hd, unknownWarning?]
    | undocumented _ hn => cases h.symm.trans hn
    | silent hs _ hd hr => simp [hd, unknownWarning?_eq_none hs]

end Scan

-- ---------------------------------------------------------------------------
-- The same handler, declaring errors
-- ---------------------------------------------------------------------------

theorem collectErrors_value_of_course
    (h : (Scan.ofHandler symbols known handler).Course [handler.id]
      ((Scan.ofHandler symbols known handler).sites handler.id) visits entered) :
    (collectErrors symbols known handler).value =
      ((({} : OutcomeCollector).recordDeclared (handler.declaredErrors.getD {})).recordDeclared
        ((Scan.ofHandler symbols known handler).allErrors visits)).finish := by
  rw [collectErrors_of_course h]
  simp only [ScanState.summary, Scan.outcomes_after, ScanState.ofHandler]

def Handler.declaring (handler : Handler) (declared : Option DeclaredErrors) : Handler :=
  { handler with declaredErrors := declared }

/-- Of a handler that declares no errors and the same one with some declared: the second gets the
kinds of the first and those declared, ordered by name and each once; of the declared custom codes
followed by those of the first, the first of each text; and all diagnostics of the first but those
about calls without a body. -/
theorem declaring_merges_and_silences (index : Index) (known : WellKnown) (handler : Handler)
    (declared : DeclaredErrors) :
    let plain := collectErrors index.symbols known (handler.declaring none)
    let declaring := collectErrors index.symbols known (handler.declaring (some declared))
    (∀ kind, kind ∈ declaring.value.kinds ↔ kind ∈ plain.value.kinds ∨ kind ∈ declared.kinds) ∧
    declaring.value.kinds.Pairwise (·.name < ·.name) ∧
    declaring.value.customCodes =
      (declared.custom ++ plain.value.customCodes).eraseDupsBy (·.code == ·.code) ∧
    declaring.diagnostics = plain.diagnostics.filter (·.code != .undocumentedInterfaceCall) := by
  intro plain declaring
  let scan := Scan.ofHandler index.symbols known (handler.declaring none)
  let scan' := Scan.ofHandler index.symbols known (handler.declaring (some declared))
  obtain ⟨visits, entered, hc, -⟩ :=
    collectErrors_course index.symbols known (handler.declaring none)
  have hc' : scan'.Course [handler.id] (scan'.sites handler.id) visits entered :=
    hc.of_same_program rfl rfl
  have hplain : plain.value =
      (({} : OutcomeCollector).recordDeclared (scan.allErrors visits)).finish :=
    collectErrors_value_of_course hc
  have hdeclaring : declaring.value =
      ((({} : OutcomeCollector).recordDeclared declared).recordDeclared
        (scan.allErrors visits)).finish :=
    collectErrors_value_of_course hc'
  refine ⟨fun kind => ?_, ?_, ?_, ?_⟩
  · rw [hplain, hdeclaring]
    simp only [OutcomeCollector.mem_kinds_finish, OutcomeCollector.mem_kinds_recordDeclared,
      List.not_mem_nil, false_or]
    exact or_comm
  · rw [hdeclaring]
    exact OutcomeCollector.kinds_finish_sorted _
  · rw [hplain, hdeclaring, ← OutcomeCollector.foldl_addCode_eq, List.foldl_append]
    simp only [OutcomeCollector.finish, OutcomeCollector.recordDeclared_eq]
    rw [OutcomeCollector.foldl_addCode_foldl]
    rfl
  · have hd := collectErrors_diagnostics index.symbols_remarking hc
    have hd' := collectErrors_diagnostics index.symbols_remarking hc'
    calc declaring.diagnostics
        = (scan'.after (.ofHandler (handler.declaring (some declared))) visits).diagnostics := hd'
      _ = visits.filterMap scan'.unknownWarning? := Scan.diagnostics_after_declaring rfl _ visits
      _ = (scan.after (.ofHandler (handler.declaring none)) visits).diagnostics.filter
            (·.code != .undocumentedInterfaceCall) :=
          (scan.filter_diagnostics_after (.ofHandler (handler.declaring none)) visits).symm
      _ = plain.diagnostics.filter (·.code != .undocumentedInterfaceCall) := by rw [← hd]

end EndpointInference

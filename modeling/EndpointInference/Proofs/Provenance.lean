import EndpointInference.Proofs.Joining
import EndpointInference.Proofs.Reported

/-!
# Which file a warning names

A body does not say which file it is from. The file of a warning is looked up when it is reported:
it is the name of the only file with a name, if there is just one. `warning_file_exact`: each warning
is about a call in a body, and this body is from one of the texts that the index was given
(`origin?`). The warning names the file of this text or none, unless the text has no name and exactly
one other text has one. Then it names that other file.
-/

namespace EndpointInference

open EndpointInference.Syntax

-- ---------------------------------------------------------------------------
-- What the texts declare
-- ---------------------------------------------------------------------------

namespace Declaration

def function? (id : ElementId) : Declaration → Option FunctionEntry
  | .function entry => if entry.id = id then some entry else none
  | _ => none

def constant? (id : ElementId) : Declaration → Option ConstantEntry
  | .constant own entry => if own = id then some entry else none
  | _ => none

end Declaration

namespace Index

section
variable {index : Index} {id : ElementId}

theorem function?_declare (declaration : Declaration) :
    (index.declare declaration).value.function? id =
      (index.function? id).or (declaration.function? id) := by
  cases declaration with
  | function entry =>
    simp only [declare, addFunction, Declaration.function?]
    split
    · next hs =>
      by_cases hid : entry.id = id
      · subst hid
        rw [Logged.value_bind, Logged.value_pure, Option.or_of_isSome hs]
      · rw [if_neg hid, Option.or_none]
        rfl
    · next hs =>
      simp only [Logged.value_pure, function?, List.lookup_append, List.lookup_cons,
        List.lookup_nil]
      by_cases hid : entry.id = id
      · simp [hid]
      · simp [hid, beq_false_of_ne (Ne.symm hid)]
  | type name entry =>
    simp only [declare, Logged.value_pure, Declaration.function?, Option.or_none]
    split <;> rfl
  | controller name isMapped entry =>
    simp only [declare, Logged.value_pure, Declaration.function?, Option.or_none]
    split <;> rfl
  | _ => exact (Option.or_none).symm

theorem constant?_declare (declaration : Declaration) :
    (index.declare declaration).value.constant? id =
      (declaration.constant? id).or (index.constant? id) := by
  cases declaration with
  | constant own entry =>
    simp only [declare, Logged.value_pure, constant?, List.lookup_cons, Declaration.constant?]
    by_cases hid : own = id
    · simp [hid]
    · simp [hid, beq_false_of_ne (Ne.symm hid)]
  | function entry =>
    simp only [declare, addFunction]
    split <;> rfl
  | type name entry =>
    simp only [declare, Logged.value_pure]
    split <;> rfl
  | controller name isMapped entry =>
    simp only [declare, Logged.value_pure]
    split <;> rfl
  | _ => rfl

theorem function?_declareAll (declarations : List Declaration) :
    (index.declareAll declarations).value.function? id =
      (index.function? id).or (declarations.findSome? (·.function? id)) := by
  induction declarations generalizing index with
  | nil => exact (Option.or_none).symm
  | cons declaration rest ih =>
    rw [declareAll, Logged.value_bind, ih, function?_declare, Option.or_assoc, List.findSome?_cons]
    cases declaration.function? id <;> rfl

theorem constant?_declareAll (declarations : List Declaration) :
    (index.declareAll declarations).value.constant? id =
      (declarations.reverse.findSome? (·.constant? id)).or (index.constant? id) := by
  induction declarations generalizing index with
  | nil => rfl
  | cons declaration rest ih =>
    rw [declareAll, Logged.value_bind, ih, constant?_declare, List.reverse_cons,
      List.findSome?_append, Option.or_assoc, List.findSome?_singleton]

end

def ofSource (known : WellKnown) (source : SourceFile) : Index :=
  ({ known } : Index).after source

end Index

def SourceFile.readName? (source : SourceFile) : Option String :=
  if (parseFile? source.content).isSome then source.name else none

namespace Index

theorem after_of_parse {index : Index} (h : parseFile? source.content = some items) :
    index.after source = ({ index with files := index.files ++ source.name.toList }.declareAll
      (DeclarationContext.itemsDeclarations ⟨index.known, source.name⟩ [] items)).value := by
  rw [after_eq_addItems h]
  rfl

section
variable {index : Index} {id : ElementId}

theorem settings_after (source : SourceFile) :
    (index.after source).known = index.known ∧
      (index.after source).files = index.files ++ source.readName?.toList := by
  unfold SourceFile.readName?
  cases h : parseFile? source.content with
  | none => simp [after_of_not_parse h]
  | some items =>
    rw [after_of_parse h]
    exact declareAll_settings _ _

theorem function?_after (source : SourceFile) :
    (index.after source).function? id =
      (index.function? id).or ((ofSource index.known source).function? id) := by
  unfold ofSource
  cases h : parseFile? source.content with
  | none =>
    rw [after_of_not_parse h, after_of_not_parse h]
    exact (Option.or_none).symm
  | some items =>
    rw [after_of_parse h, after_of_parse h, function?_declareAll, function?_declareAll]
    rfl

theorem constant?_after (source : SourceFile) :
    (index.after source).constant? id =
      ((ofSource index.known source).constant? id).or (index.constant? id) := by
  unfold ofSource
  cases h : parseFile? source.content with
  | none =>
    rw [after_of_not_parse h, after_of_not_parse h]
    rfl
  | some items =>
    rw [after_of_parse h, after_of_parse h, constant?_declareAll, constant?_declareAll]
    exact congrArg (Option.or · _) (Option.or_none).symm

/-- Of a function the first text that declares it counts, of a constant the last. -/
theorem run_eq (sources : List SourceFile) :
    (sources.foldl after index).files = index.files ++ sources.filterMap SourceFile.readName? ∧
    (sources.foldl after index).function? id =
      (index.function? id).or
        (sources.findSome? fun source => (ofSource index.known source).function? id) ∧
    (sources.foldl after index).constant? id =
      (sources.reverse.findSome? fun source => (ofSource index.known source).constant? id).or
        (index.constant? id) := by
  induction sources generalizing index with
  | nil => simp
  | cons source rest ih =>
    obtain ⟨hk, hf⟩ := index.settings_after source
    obtain ⟨hfiles, hfunction, hconstant⟩ := @ih (index.after source)
    rw [List.foldl_cons, hfiles, hfunction, hconstant, hk, hf, function?_after, constant?_after]
    refine ⟨?_, ?_, ?_⟩
    · rw [List.append_assoc, List.filterMap_cons]
      cases source.readName? <;> rfl
    · rw [Option.or_assoc, List.findSome?_cons]
      cases (ofSource index.known source).function? id <;> rfl
    · rw [List.reverse_cons, List.findSome?_append, Option.or_assoc, List.findSome?_singleton]

end

-- ---------------------------------------------------------------------------
-- Which text a body is from
-- ---------------------------------------------------------------------------

/-- The text that the body of an element is from. -/
def origin? (known : WellKnown) (sources : List SourceFile) (element : ElementId) :
    Option SourceFile :=
  (sources.find? fun source => ((ofSource known source).function? element).isSome).or
    (sources.reverse.find? fun source => ((ofSource known source).constant? element).isSome)

theorem find?_of_findSome? {f : α → Option β} {xs : List α} (h : xs.findSome? f = some b) :
    ∃ a, xs.find? (fun a => (f a).isSome) = some a ∧ f a = some b := by
  obtain ⟨before, a, after, rfl, hf, hb⟩ := List.findSome?_eq_some_iff.mp h
  refine ⟨a, List.find?_eq_some_iff_append.mpr ⟨by simp [hf], before, after, rfl, ?_⟩, hf⟩
  intro other ho
  simp [hb other ho]

theorem exists_origin {known : WellKnown} {sources : List SourceFile} {element : ElementId}
    {body : Body} (h : (sources.foldl after { known }).body? element = some body) :
    ∃ source, origin? known sources element = some source ∧
      (ofSource known source).body? element = some body := by
  obtain ⟨-, hfunction, hconstant⟩ := @run_eq { known } element sources
  replace hfunction : (sources.foldl after { known }).function? element =
      sources.findSome? fun source => (ofSource known source).function? element := hfunction
  replace hconstant : (sources.foldl after { known }).constant? element =
      sources.reverse.findSome? fun source => (ofSource known source).constant? element :=
    hconstant.trans Option.or_none
  unfold body? at h
  rw [hfunction, hconstant] at h
  unfold origin?
  split at h
  · next entry hf =>
    obtain ⟨source, hs, he⟩ := find?_of_findSome? hf
    refine ⟨source, by rw [hs, Option.some_or], ?_⟩
    rw [body?, he]
    exact h
  · next hn =>
    -- no text has a function of this id, so in none of them one hides the constant
    have hnone := List.findSome?_eq_none_iff.mp hn
    obtain ⟨entry, hc, rfl⟩ := Option.map_eq_some_iff.mp h
    obtain ⟨source, hs, he⟩ := find?_of_findSome? hc
    have hmem : source ∈ sources := List.mem_reverse.mp (List.mem_of_find?_eq_some hs)
    refine ⟨source, ?_, ?_⟩
    · rw [hs, List.find?_eq_none.mpr (by simpa using hnone), Option.none_or]
    · rw [body?, hnone source hmem, he]
      rfl

theorem mem_of_origin? {known : WellKnown} {sources : List SourceFile}
    (h : origin? known sources element = some source) : source ∈ sources := by
  rcases Option.or_eq_some_iff.mp h with h | ⟨-, h⟩
  · exact List.mem_of_find?_eq_some h
  · exact List.mem_reverse.mp (List.mem_of_find?_eq_some h)

theorem readName?_of_body? {known : WellKnown} {source : SourceFile} {element : ElementId}
    (h : (ofSource known source).body? element = some body) : source.readName? = source.name := by
  cases hp : parseFile? source.content with
  | none =>
    rw [ofSource, after_of_not_parse hp] at h
    cases h
  | some items => simp [SourceFile.readName?, hp]

theorem file_locate (index : Index) (position : Position) :
    (index.locate position).file = some name ↔ index.files = [name] := by
  unfold locate
  split
  · next file hf => simp [Location.ofPosition, hf]
  · next hn => simpa [Location.ofPosition] using hn name

theorem place_locate (index : Index) (position : Position) :
    (index.locate position).line = position.line ∧
      (index.locate position).column = position.column := by
  unfold locate
  split <;> exact ⟨rfl, rfl⟩

end Index

-- ---------------------------------------------------------------------------
-- Where a scan warns
-- ---------------------------------------------------------------------------

def Syntax.Expr.callPlace? : Expr → Option Position
  | .call start _ _ => some start
  | .methodCall _ _ method _ _ => some method.start
  | _ => none

namespace Scan

inductive WarnsOf (scan : Scan) : Site → Diagnostic → Prop
  | unknown {text start} : WarnsOf scan (.unknown text start)
      (.unknownErrorFactory text (scan.symbols.locate start))
  | undocumented {found start target} : scan.undocumented? (.call found start) = some target →
      WarnsOf scan (.call found start)
        (.undocumentedInterfaceCall scan.handler target (scan.symbols.locate start))

section
variable {scan : Scan}

theorem visit_warnsOf (state : ScanState) (site : Site)
    (h : diagnostic ∈ (scan.visit state site).1.diagnostics) :
    diagnostic ∈ state.diagnostics ∨ scan.WarnsOf site diagnostic := by
  cases scan.visit_warns state site with
  | unknown hs hd _ =>
    subst hs
    rw [hd] at h
    refine (List.mem_append.mp h).imp_right fun h => ?_
    rw [List.mem_singleton.mp h]
    exact .unknown
  | undocumented hs _ _ hd _ hp =>
    rw [hd] at h
    refine (List.mem_append.mp h).imp_right fun h => ?_
    rw [List.mem_singleton.mp h]
    cases site with
    | call found start =>
      obtain rfl := Option.some.inj hp
      exact .undocumented hs
    | _ => cases hs
  | silent _ _ hd _ => exact .inl (hd ▸ h)

theorem after_warnsOf (state : ScanState) (visits : List Site)
    (h : diagnostic ∈ (scan.after state visits).diagnostics) :
    diagnostic ∈ state.diagnostics ∨ ∃ site ∈ visits, scan.WarnsOf site diagnostic := by
  induction visits generalizing state with
  | nil => exact .inl h
  | cons site rest ih =>
    rcases ih _ h with h | ⟨other, ho, hw⟩
    · exact (visit_warnsOf state site h).imp_right fun hw => ⟨site, List.mem_cons_self, hw⟩
    · exact .inr ⟨other, List.mem_cons_of_mem _ ho, hw⟩

end

end Scan

namespace SiteContext

/-- An expression is a call that a handler is warned of: of an unknown member of the error type, or
of something that has no body, may fail and declares nothing. -/
inductive WarnsOf (cx : SiteContext) (handler : String) : Expr → Diagnostic → Prop
  | unknown {p start args text place} : Factory.ofNames? cx.known p.names = some (.unknown text) →
      WarnsOf cx handler (.call start (.path p) args) (.unknownErrorFactory text place)
  | undocumented {e site found ty place} : cx.callSite? e = some site →
      cx.symbols.resolveCall? cx.scope site = some found →
      found.value.kind = .interface ∨ found.value.kind = .abstract →
      found.value.returns = some ty → (cx.known.falliblePayload? ty).isSome →
      found.value.declaredErrors = none →
      WarnsOf cx handler e (.undocumentedInterfaceCall handler found.value.displayName place)

section
variable {cx : SiteContext}

theorem unknown_mem_ownSites (h : .unknown text start ∈ cx.ownSites e) :
    ∃ p args, e = .call start (.path p) args ∧
      Factory.ofNames? cx.known p.names = some (.unknown text) := by
  cases e with
  | path p =>
    simp only [ownSites, pathSites] at h
    split at h <;> simp at h
  | call place callee args =>
    cases callee with
    | path p =>
      cases hf : Factory.ofNames? cx.known p.names with
      | none => simp [ownSites, calledFactory?, callSites, hf] at h
      | some factory =>
        cases factory with
        | unknown name =>
          simp only [ownSites, calledFactory?, hf, factorySite, List.mem_singleton,
            Site.unknown.injEq] at h
          obtain ⟨rfl, rfl⟩ := h
          exact ⟨p, args, rfl, hf⟩
        | _ => simp [ownSites, calledFactory?, hf, factorySite] at h
    | _ => simp [ownSites, calledFactory?, callSites] at h
  | _ => simp [ownSites, callSites] at h

theorem callPlace?_of_mem_ownSites (h : .call found start ∈ cx.ownSites e) :
    e.callPlace? = some start := by
  cases e with
  | path p =>
    simp only [ownSites, pathSites] at h
    split at h <;> simp at h
  | call place callee args =>
    simp only [ownSites] at h
    split at h
    · next factory _ => cases factory <;> simp [factorySite] at h
    · exact congrArg some (call_mem_callSites.mp h).2.symm
  | methodCall values receiver method typeArgs args =>
    exact congrArg some (call_mem_callSites.mp h).2.symm
  | _ => simp [ownSites] at h

end

end SiteContext

theorem Scan.WarnsOf.exists_call {scan : Scan} (h : scan.WarnsOf site diagnostic)
    (hs : site ∈ scan.sites element) :
    ∃ e position, (scan.within element).Visits e ∧ e.callPlace? = some position ∧
      (scan.within element).WarnsOf scan.handler e diagnostic ∧
      diagnostic.location = scan.symbols.locate position := by
  obtain ⟨e, hv, ho⟩ := Scan.mem_sites.mp hs
  cases h with
  | @unknown text start =>
    obtain ⟨p, args, rfl, hf⟩ := SiteContext.unknown_mem_ownSites ho
    exact ⟨_, start, hv, rfl, .unknown hf, rfl⟩
  | @undocumented found start target hu =>
    obtain ⟨ty, hb, rfl, hr, hf, hd⟩ := Scan.undocumented?_eq_some.mp hu
    obtain ⟨site, hc, hfound⟩ := SiteContext.call_mem_ownSites.mp ⟨start, ho⟩
    exact ⟨e, start, hv, SiteContext.callPlace?_of_mem_ownSites ho,
      .undocumented hc hfound hb hr hf hd, rfl⟩

theorem collectErrors_warnsOf {symbols : Symbols} (hs : symbols.Remarking)
    (h : diagnostic ∈ (collectErrors symbols known handler).diagnostics) :
    ∃ element, ReachedFrom symbols known handler.id element ∧
      ∃ site ∈ (Scan.ofHandler symbols known handler).sites element,
        (Scan.ofHandler symbols known handler).WarnsOf site diagnostic := by
  obtain ⟨visits, entered, hc, -⟩ := collectErrors_course symbols known handler
  rw [collectErrors_diagnostics hs hc] at h
  rcases Scan.after_warnsOf _ visits h with h | hw
  · cases h
  · exact hc.exists_visit_iff.mp hw

/-- Only the scan warns so, and it takes place once all parameters are bound. -/
theorem Analyzer.mem_analyze_iff {analyzer : Analyzer} {handler : Handler}
    (hw : diagnostic.IsScanWarning) :
    diagnostic ∈ (analyzer.analyze handler).diagnostics ↔
      analyzer.MayFail handler ∧
      (analyzer.view.classifyHandler handler).value.complete?.isSome ∧
      diagnostic ∈ (collectErrors analyzer.symbols analyzer.known handler).diagnostics := by
  -- binding reports errors and ambiguous bindings, building the responses a remark on their number
  have hbinding : diagnostic ∉ (analyzer.view.classifyHandler handler).diagnostics := by
    intro hm
    have hc := (analyzer.view.classifyHandler_explained handler).codes diagnostic
      (by simpa using hm)
    rcases hw with h | h <;>
      simp [Diagnostic.isError, Diagnostic.severity, h, DiagnosticCode.severity] at hc
  by_cases hf : analyzer.MayFail handler
  · obtain ⟨success, hsuccess⟩ := mayFail_iff.mp hf
    cases hc : (analyzer.view.classifyHandler handler).value.complete? with
    | none =>
      rw [(analyze_of_incomplete hsuccess hc).2]
      simp [hbinding]
    | some parameters =>
      have hbuild : diagnostic ∉ (ResponseUnion.build analyzer.options handler success parameters
          (collectErrors analyzer.symbols analyzer.known handler).value).diagnostics := by
        intro hm
        have hcode := (ResponseUnion.build_diagnostics ..).2 diagnostic hm
        rcases hw with h | h <;> cases h.symm.trans hcode
      rw [(analyze_of_complete hsuccess hc).2, contract]
      simp [hbinding, hbuild, hf]
  · rw [(analyze_of_not_mayFail hf).2]
    simp [hf]

-- ---------------------------------------------------------------------------
-- The file of a warning
-- ---------------------------------------------------------------------------

/-- Each warning of a scan is about a call in a body that can be reached, and this body is from one
of the texts. The warning has the place of the call, and the file that alone has a name. That is
never another file than the one of the text, unless the text has no name. -/
theorem warning_file_exact (known : WellKnown) (sources : List SourceFile) (options : Options)
    (handler : Handler) (diagnostic : Diagnostic) :
    let index := sources.foldl Index.after { known }
    let names := sources.filterMap SourceFile.readName?
    diagnostic ∈ (Analyzer.analyze ⟨index.symbols, options⟩ handler).diagnostics →
    diagnostic.IsScanWarning →
    ∃ element source body e position,
      ReachedFrom index.symbols options.wellKnown handler.id element ∧
      Index.origin? known sources element = some source ∧
      (Index.ofSource known source).body? element = some body ∧
      SiteContext.Visited ⟨index.symbols, options.wellKnown, element⟩ body e ∧
      SiteContext.WarnsOf ⟨index.symbols, options.wellKnown, element⟩ handler.name e diagnostic ∧
      e.callPlace? = some position ∧
      diagnostic.location.line = position.line ∧ diagnostic.location.column = position.column ∧
      (∀ name, diagnostic.location.file = some name ↔ names = [name]) ∧
      ((diagnostic.location.file = none ∨ diagnostic.location.file = source.name) ↔
        ¬ (source.name = none ∧ ∃ name, names = [name])) := by
  intro index names hd hw
  obtain ⟨element, hr, site, hs, hsite⟩ := collectErrors_warnsOf index.symbols_remarking
    ((Analyzer.mem_analyze_iff hw).mp hd).2.2
  obtain ⟨e, position, ⟨body, hb, hv⟩, hp, hcall, hl⟩ := hsite.exists_call hs
  obtain ⟨source, ho, hbody⟩ := Index.exists_origin hb
  have hfiles : index.files = names := (@Index.run_eq { known } element sources).1
  have hfile (name : String) : diagnostic.location.file = some name ↔ names = [name] := by
    rw [hl, ← hfiles]
    exact index.file_locate position
  have hown (name : String) (hn : source.name = some name) : name ∈ names :=
    List.mem_filterMap.mpr
      ⟨source, Index.mem_of_origin? ho, (Index.readName?_of_body? hbody).trans hn⟩
  obtain ⟨hline, hcolumn⟩ := index.place_locate position
  refine ⟨element, source, body, e, position, hr, ho, hbody, hv, hcall, hp, ?_, ?_, hfile, ?_⟩
  · rw [hl]
    exact hline
  · rw [hl]
    exact hcolumn
  · cases hf : diagnostic.location.file with
    | none =>
      have hnone : ¬ ∃ name, names = [name] := fun ⟨name, hn⟩ => by
        cases hf.symm.trans ((hfile name).mpr hn)
      simp [hnone]
    | some name =>
      -- the text is one of those taken in, so its name, if it has one, is the only one
      have hn := (hfile name).mp hf
      cases hs : source.name with
      | none => simp [hn]
      | some own =>
        obtain rfl : own = name := by simpa [hn] using hown own hs
        simp

/-- Where the only statement of a body is the call of a path: its place, and the names. -/
def Syntax.Body.soleCall? : Body → Option (Position × List String)
  | .block [.expr (.call start (.path p) _)] => some (start, p.names)
  | _ => none

theorem Syntax.Body.soleCall?_eq_some {body : Body} (h : body.soleCall? = some (start, names)) :
    ∃ p args, body = .block [.expr (.call start (.path p) args)] ∧ p.names = names := by
  unfold soleCall? at h
  split at h
  · next p args =>
    obtain ⟨rfl, rfl⟩ := Prod.mk.inj (Option.some.inj h)
    exact ⟨p, args, rfl, rfl⟩
  · cases h

theorem collectErrors_unknown {symbols : Symbols} (hq : symbols.Remarking)
    (hb : (symbols.body? handler.id).bind Body.soleCall? = some (start, names))
    (hf : Factory.ofNames? known names = some (.unknown text)) :
    (collectErrors symbols known handler).diagnostics =
      [.unknownErrorFactory text (symbols.locate start)] := by
  let scan := Scan.ofHandler symbols known handler
  obtain ⟨body, hbody, hcall⟩ := Option.bind_eq_some_iff.mp hb
  obtain ⟨p, args, rfl, rfl⟩ := Body.soleCall?_eq_some hcall
  have hs : scan.sites handler.id = [.unknown text start] := by
    have he : scan.sites handler.id = (scan.within handler.id).bodySites
        (.block [.expr (.call start (.path p) args)]) := by
      unfold Scan.sites Scan.sitesOf?
      rw [show scan.symbols.body? handler.id = _ from hbody]
      rfl
    have hfactory : (scan.within handler.id).calledFactory? (.path p) = some (.unknown text) := hf
    rw [he, SiteContext.bodySites_eq, bodyParts, List.flatMap_singleton, stmtParts,
      List.flatMap_singleton, SiteContext.exprSites_eq]
    simp [SiteContext.ownSites, SiteContext.parts, hfactory, SiteContext.factorySite]
  have hc : scan.Course [handler.id] (scan.sites handler.id) [.unknown text start] [] := by
    rw [hs]
    exact .pass (by simp [Site.leadsTo?]) .done
  rw [collectErrors_diagnostics hq hc]
  rfl

def unknownCall : String :=
  "#[get_mapping]fn f()->ApiResult<()>{ApiError::x()}"

def unknownCaller (file : Option String) : Handler where
  id := .function "f"
  name := "f"
  verb := .get
  returnType := ⟨"ApiResult", [.named "()"]⟩
  location := ⟨file, 1, 18⟩

theorem unknownCaller_warned {index : Index} (file : Option String)
    (h : (index.body? (.function "f")).bind Body.soleCall? =
      some (⟨1, 37⟩, ["ApiError", "x"])) :
    .unknownErrorFactory "ApiError::x" (index.locate ⟨1, 37⟩) ∈
      (Analyzer.analyze ⟨index.symbols, {}⟩ (unknownCaller file)).diagnostics := by
  have hread : (({} : WellKnown).falliblePayload? ⟨"ApiResult", [.named "()"]⟩).isSome ∧
      Factory.ofNames? {} ["ApiError", "x"] = some (.unknown "ApiError::x") := by decide +kernel
  obtain ⟨hfail, hunknown⟩ := hread
  have hd : (collectErrors index.symbols {} (unknownCaller file)).diagnostics =
      [.unknownErrorFactory "ApiError::x" (index.locate ⟨1, 37⟩)] :=
    collectErrors_unknown index.symbols_remarking h hunknown
  refine (Analyzer.mem_analyze_iff (.inr rfl)).mpr ⟨hfail, rfl, ?_⟩
  exact hd ▸ List.mem_singleton_self _

theorem warning_file_exact_single :
    let sources : List SourceFile := [⟨some "a.rs", unknownCall⟩]
    let index := sources.foldl Index.after {}
    let handler := unknownCaller (some "a.rs")
    let diagnostic := Diagnostic.unknownErrorFactory "ApiError::x" (index.locate ⟨1, 37⟩)
    handler ∈ index.handlers.value ∧
    diagnostic ∈ (Analyzer.analyze ⟨index.symbols, {}⟩ handler).diagnostics ∧
    diagnostic.IsScanWarning ∧
    ∃ element, ReachedFrom index.symbols {} handler.id element ∧
      Index.origin? {} sources element = some ⟨some "a.rs", unknownCall⟩ ∧
      diagnostic.location.file = some "a.rs" := by
  intro sources index handler diagnostic
  have hread : handler ∈ index.handlers.value ∧
      (index.body? (.function "f")).bind Body.soleCall? =
        some (⟨1, 37⟩, ["ApiError", "x"]) ∧
      sources.filterMap SourceFile.readName? = ["a.rs"] := by decide +kernel
  obtain ⟨hm, hbody, hnames⟩ := hread
  have hd := unknownCaller_warned (some "a.rs") hbody
  obtain ⟨element, source, body, e, position, hr, ho, -, -, -, -, -, -, hfile, -⟩ :=
    warning_file_exact {} sources {} handler diagnostic hd (.inr rfl)
  obtain rfl := List.mem_singleton.mp (Index.mem_of_origin? ho)
  exact ⟨hm, hd, .inr rfl, element, hr, ho, (hfile "a.rs").mpr hnames⟩

theorem unnamed_text_given_other_file :
    let sources : List SourceFile := [⟨some "a.rs", ""⟩, ⟨none, unknownCall⟩]
    let index := sources.foldl Index.after {}
    let handler := unknownCaller none
    let diagnostic := Diagnostic.unknownErrorFactory "ApiError::x" (index.locate ⟨1, 37⟩)
    handler ∈ index.handlers.value ∧
    diagnostic ∈ (Analyzer.analyze ⟨index.symbols, {}⟩ handler).diagnostics ∧
    diagnostic.IsScanWarning ∧
    Index.origin? {} sources handler.id = some ⟨none, unknownCall⟩ ∧
    (Index.ofSource {} ⟨some "a.rs", ""⟩).elements = [] ∧
    diagnostic.location.file = some "a.rs" := by
  intro sources index handler diagnostic
  have hread : handler ∈ index.handlers.value ∧
      (index.body? (.function "f")).bind Body.soleCall? =
        some (⟨1, 37⟩, ["ApiError", "x"]) ∧
      Index.origin? {} sources handler.id = some ⟨none, unknownCall⟩ ∧
      (Index.ofSource {} ⟨some "a.rs", ""⟩).elements = [] ∧
      index.files = ["a.rs"] := by decide +kernel
  obtain ⟨hm, hbody, horigin, hempty, hfiles⟩ := hread
  have hfile : (index.locate ⟨1, 37⟩).file = some "a.rs" :=
    (index.file_locate ⟨1, 37⟩).mpr hfiles
  exact ⟨hm, unknownCaller_warned none hbody, .inr rfl, horigin, hempty, hfile⟩

end EndpointInference

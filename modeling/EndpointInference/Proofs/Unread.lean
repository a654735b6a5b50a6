import EndpointInference.Proofs.Course
import EndpointInference.Proofs.Cut
import EndpointInference.Proofs.Diagnostics
import EndpointInference.Proofs.Lists
import Mathlib.Logic.Function.Basic

/-!
# What a scan does not depend on

A scan over cut bodies visits the same sites as one over the bodies themselves, at other places
(`exprSites_expr`). So the two go side by side, step by step, and end in the same state but for the
places in its diagnostics (`scanHandler_index`). Two bodies that are the same once they are cut can
therefore stand for each other (`unread_parts_irrelevant`).
-/

namespace EndpointInference

open EndpointInference.Syntax

-- ---------------------------------------------------------------------------
-- Sites of cut bodies
-- ---------------------------------------------------------------------------

def Site.placeless : Site → Site
  | .unknown text _ => .unknown text {}
  | .call target _ => .call target {}
  | site => site

theorem Site.leadsTo?_placeless (site : Site) : site.placeless.leadsTo? = site.leadsTo? := by
  cases site <;> rfl

namespace Cut

def context (cut : Cut) (index : Index) (scope : ElementId) : SiteContext :=
  ⟨index.symbols, cut.known, scope⟩

section
variable (cut : Cut) (index : Index) (scope : ElementId)

theorem pathSites_index (p : ExprPath) :
    (cut.context (cut.index index) scope).pathSites p =
      ((cut.context index scope).pathSites p).map Site.placeless := by
  have hr : (cut.index index).symbols.resolveReference? scope p =
      index.symbols.resolveReference? scope p := cut.resolveReference?_index index scope p
  simp only [SiteContext.pathSites, context, hr]
  split
  · rfl
  · rfl
  · cases index.symbols.resolveReference? scope p <;> rfl

theorem callSites_index {site' site : CallSite} (start : Position)
    (h : (cut.index index).callee? scope site' = (index.callee? scope site).map cut.function) :
    (cut.context (cut.index index) scope).callSites site' {} =
      ((cut.context index scope).callSites site start).map Site.placeless := by
  have hr : (cut.index index).symbols.resolveCall? scope site' =
      index.symbols.resolveCall? scope site := by
    simp only [Index.symbols, Index.resolveCall?, h, Option.map_map]
    rfl
  simp only [SiteContext.callSites, context, hr]
  cases index.symbols.resolveCall? scope site <;> rfl

theorem customError?_index (hk : cut.keepsTexts = true) (args : List Expr) :
    customError? (cut.index index).symbols scope (cut.customArgs args) =
      customError? index.symbols scope args := by
  have hf : ∀ how e, (cut.index index).symbols.foldConstant? scope (cut.expr how e) =
      index.symbols.foldConstant? scope e := cut.foldConstant?_index index scope
  match args with
  | [] => simp [customArgs, customError?]
  | [_] => simp [customArgs, customError?]
  | status :: code :: rest =>
    simp only [customArgs, customError?, constantText?, constantStatus?, hf,
      cut.literalText?_expr hk, literalStatus?_expr]

theorem calledFactory?_expr (callee : Expr) :
    (cut.context (cut.index index) scope).calledFactory? (cut.expr .visited callee) =
      (cut.context index scope).calledFactory? callee := by
  cases callee <;> simp [expr, SiteContext.calledFactory?, context]

theorem factory?_eq (callee : Expr) :
    cut.factory? callee = (cut.context index scope).calledFactory? callee := by
  cases callee <;> rfl

theorem ownSites_expr (hk : cut.keepsTexts = true) (e : Expr) :
    (cut.context (cut.index index) scope).ownSites (cut.expr .visited e) =
      ((cut.context index scope).ownSites e).map Site.placeless := by
  cases e with
  | path p => exact cut.pathSites_index index scope p
  | methodCall values receiver method typeArgs args =>
    exact cut.callSites_index index scope _ (cut.callee?_method_index index scope _ ..)
  | call start callee args =>
    simp only [expr, SiteContext.ownSites, Reading.inside_visited, calledFactory?_expr]
    cases h : (cut.context index scope).calledFactory? callee with
    | none => exact cut.callSites_index index scope start (cut.callee?_function_index ..)
    | some factory =>
      cases factory with
      | kind kind => rfl
      | unknown text => rfl
      | custom =>
        -- its arguments are read, so they were cut as what is read
        have ha : cut.arguments .visited callee args = .custom := by
          simp [arguments, cut.factory?_eq index scope, h]
        have he := cut.customError?_index index scope hk args
        simp [ha, SiteContext.factorySite, context, he, Site.placeless]
  | _ => rfl

theorem parts_expr (e : Expr) :
    (cut.context (cut.index index) scope).parts (cut.expr .visited e) =
      ((cut.context index scope).parts e).map (cut.expr .visited) := by
  cases e with
  | call start callee args =>
    simp only [expr, SiteContext.parts, Reading.inside_visited, calledFactory?_expr]
    cases h : (cut.context index scope).calledFactory? callee with
    | some factory => rfl
    | none =>
      have ha : cut.arguments .visited callee args = .read .visited := by
        simp [arguments, cut.factory?_eq index scope, h]
      simp [ha, calleeParts_expr, list_eq_map]
  | _ => simp [expr, SiteContext.parts, list_eq_map, stmtParts_stmts, armParts_arms]

theorem exprSites_expr (hk : cut.keepsTexts = true) (e : Expr) :
    (cut.context (cut.index index) scope).exprSites (cut.expr .visited e) =
      ((cut.context index scope).exprSites e).map Site.placeless := by
  -- on the size of the expression: what is visited below the cut one are the cut parts
  rw [SiteContext.exprSites_eq, ownSites_expr _ _ _ hk, parts_expr, SiteContext.exprSites_eq _ e,
    List.map_append, List.map_flatMap, List.flatMap_map]
  congr 1
  exact List.flatMap_congr fun part hp => exprSites_expr hk part
termination_by sizeOf e
decreasing_by exact (cut.context index scope).sizeOf_lt_of_mem_parts hp

theorem bodySites_body (hk : cut.keepsTexts = true) (body : Body) :
    (cut.context (cut.index index) scope).bodySites (cut.body body) =
      ((cut.context index scope).bodySites body).map Site.placeless := by
  simp only [SiteContext.bodySites_eq, bodyParts_body, List.flatMap_map, List.map_flatMap,
    exprSites_expr _ _ _ hk]

end

end Cut

-- ---------------------------------------------------------------------------
-- Two scans side by side
-- ---------------------------------------------------------------------------

def Diagnostic.placeless (diagnostic : Diagnostic) : Diagnostic :=
  { diagnostic with location := {} }

def ScanState.placeless (state : ScanState) : ScanState :=
  { state with diagnostics := state.diagnostics.map Diagnostic.placeless }

theorem ScanState.eq_of_placeless {state' state : ScanState}
    (h : state'.placeless = state.placeless) :
    ∃ diagnostics, state' = { state with diagnostics } ∧
      diagnostics.map Diagnostic.placeless = state.diagnostics.map Diagnostic.placeless := by
  obtain ⟨visited, outcomes, reported, diagnostics, log⟩ := state
  obtain ⟨visited', outcomes', reported', diagnostics', log'⟩ := state'
  simp only [placeless, mk.injEq] at h
  obtain ⟨rfl, rfl, rfl, hd, rfl⟩ := h
  exact ⟨diagnostics', rfl, hd⟩

namespace Scan

/-- A scan for the same in the same sites, at no place in particular. -/
structure Shadows (scan' scan : Scan) : Prop where
  known : scan'.known = scan.known
  handler : scan'.handler = scan.handler
  declaresErrors : scan'.declaresErrors = scan.declaresErrors
  sitesOf? : ∀ element, scan'.sitesOf? element = (scan.sitesOf? element).map (·.map Site.placeless)

section
variable {scan' scan : Scan} {state' state : ScanState}

theorem Shadows.sites (h : Shadows scan' scan) (element : ElementId) :
    scan'.sites element = (scan.sites element).map Site.placeless := by
  simp only [Scan.sites, h.sitesOf?]
  cases scan.sitesOf? element <;> rfl

theorem Shadows.enter (h : Shadows scan' scan) (hs : state'.placeless = state.placeless)
    (element : ElementId) :
    (scan'.enter state' element).1.placeless = (scan.enter state element).1.placeless := by
  obtain ⟨diagnostics, rfl, hd⟩ := ScanState.eq_of_placeless hs
  -- both scans find a body or none, and say so in the same words
  simp only [Scan.enter, h.sitesOf?, h.handler]
  split
  · simp [ScanState.placeless, ScanState.trace, ScanState.tell, hd]
  · cases scan.sitesOf? element <;>
      simp [ScanState.placeless, ScanState.trace, ScanState.tell, hd]

theorem Shadows.visitBoundary (h : Shadows scan' scan) (hs : state'.placeless = state.placeless)
    (target : CallTarget) (start : Position) :
    (scan'.visitBoundary state' target {}).placeless =
      (scan.visitBoundary state target start).placeless := by
  obtain ⟨diagnostics, rfl, hd⟩ := ScanState.eq_of_placeless hs
  have hf : scan'.isFallible target = scan.isFallible target := by
    rw [isFallible, isFallible, h.known]
  simp only [Scan.visitBoundary, hf, h.handler, h.declaresErrors]
  split
  · simp [ScanState.placeless, hd]
  · split
    · simp [ScanState.placeless, hd]
    · split
      · simp [ScanState.placeless, hd]
      · simp [ScanState.placeless, hd, Diagnostic.placeless, Diagnostic.undocumentedInterfaceCall]

theorem Shadows.visit (h : Shadows scan' scan) (hs : state'.placeless = state.placeless)
    (site : Site) :
    (scan'.visit state' site.placeless).1.placeless = (scan.visit state site).1.placeless := by
  cases site with
  | kind kind =>
    obtain ⟨diagnostics, rfl, hd⟩ := ScanState.eq_of_placeless hs
    simp only [Site.placeless, Scan.visit, recordKind, h.handler]
    split <;> simp [ScanState.placeless, ScanState.trace, ScanState.tell, hd]
  | custom code =>
    obtain ⟨diagnostics, rfl, hd⟩ := ScanState.eq_of_placeless hs
    cases code <;>
      simp [Site.placeless, Scan.visit, recordCustom, h.handler, ScanState.placeless,
        ScanState.trace, ScanState.tell, hd]
  | unknown text start =>
    obtain ⟨diagnostics, rfl, hd⟩ := ScanState.eq_of_placeless hs
    simp [Site.placeless, Scan.visit, ScanState.placeless, hd, Diagnostic.placeless,
      Diagnostic.unknownErrorFactory]
  | reference element => exact h.enter hs element
  | call target start =>
    have ht : (state'.tell target.log).placeless = (state.tell target.log).placeless := by
      obtain ⟨diagnostics, rfl, hd⟩ := ScanState.eq_of_placeless hs
      simp [ScanState.placeless, ScanState.tell, hd]
    simp only [Site.placeless, Scan.visit]
    split
    · exact h.visitBoundary ht target.value start
    · split
      · exact h.enter ht _
      · exact ht

theorem Shadows.after (h : Shadows scan' scan) (visits : List Site)
    (hs : state'.placeless = state.placeless) :
    (scan'.after state' (visits.map Site.placeless)).placeless =
      (scan.after state visits).placeless := by
  induction visits generalizing state' state with
  | nil => exact hs
  | cons site rest ih => exact ih (h.visit hs site)

theorem Shadows.run (h : Shadows scan' scan) (work : List Site)
    (hs : state'.placeless = state.placeless) :
    (scan'.run state' (work.map Site.placeless)).placeless = (scan.run state work).placeless := by
  obtain ⟨visits, entered, hc, hr⟩ := scan.run_course state work
  have hv : state'.visited = state.visited := by
    obtain ⟨diagnostics, rfl, -⟩ := ScanState.eq_of_placeless hs
    rfl
  rw [hr, (hc.map Site.leadsTo?_placeless h.sites).run_eq state' hv]
  exact h.after visits hs

end

end Scan

def scanHandler (symbols : Symbols) (known : WellKnown) (handler : Handler) : ScanState :=
  let scan := Scan.ofHandler symbols known handler
  scan.run (.ofHandler handler) (scan.sites handler.id)

theorem collectErrors_eq_summary (symbols : Symbols) (known : WellKnown) (handler : Handler) :
    collectErrors symbols known handler = (scanHandler symbols known handler).summary handler :=
  collectErrors_eq symbols known handler

theorem Cut.shadows (cut : Cut) (hk : cut.keepsTexts = true) (index : Index) (handler : Handler) :
    (Scan.ofHandler (cut.index index).symbols cut.known handler).Shadows
      (Scan.ofHandler index.symbols cut.known handler) where
  known := by simp only [Scan.ofHandler]
  handler := by simp only [Scan.ofHandler]
  declaresErrors := by simp only [Scan.ofHandler]
  sitesOf? element := by
    have hb : (cut.index index).symbols.body? element =
        (index.symbols.body? element).map cut.body := cut.body?_index index element
    simp only [Scan.sitesOf?, Scan.ofHandler, hb]
    cases index.symbols.body? element with
    | none => rfl
    | some body => exact congrArg some (cut.bodySites_body index element hk body)

/-- A scan of cut bodies ends as one of the bodies themselves does, but for places. -/
theorem Cut.scanHandler_index (cut : Cut) (hk : cut.keepsTexts = true) (index : Index)
    (handler : Handler) :
    (scanHandler (cut.index index).symbols cut.known handler).placeless =
      (scanHandler index.symbols cut.known handler).placeless := by
  have h := cut.shadows hk index handler
  rw [scanHandler, h.sites]
  exact h.run _ rfl

-- ---------------------------------------------------------------------------
-- Another body
-- ---------------------------------------------------------------------------

namespace Index

/-- The index with another body for an element that has one of this form. -/
def replaceBody (index : Index) (element : ElementId) : Body → Index
  | .block stmts =>
    { index with functions := amend element ({ · with body := some stmts }) index.functions }
  | .expr value =>
    { index with constants := amend element ({ · with value }) index.constants }

section
variable {index : Index} {element : ElementId}

theorem body?_eq_block (h : index.body? element = some (.block stmts)) :
    ∃ entry, index.function? element = some entry ∧ entry.body = some stmts := by
  unfold body? at h
  split at h
  · next entry hf => exact ⟨entry, hf, by simpa using h⟩
  · simp at h

theorem body?_eq_expr (h : index.body? element = some (.expr value)) :
    index.function? element = none ∧
      ∃ entry, index.constant? element = some entry ∧ entry.value = value := by
  unfold body? at h
  split at h
  · simp at h
  · next hf => exact ⟨hf, by simpa using h⟩

theorem function?_replaceBody_block (stmts : List Stmt) (id : ElementId) :
    (index.replaceBody element (.block stmts)).function? id =
      if id = element then (index.function? element).map ({ · with body := some stmts })
      else index.function? id :=
  lookup_amend ..

theorem constant?_replaceBody_expr (value : Expr) (id : ElementId) :
    (index.replaceBody element (.expr value)).constant? id =
      if id = element then (index.constant? element).map ({ · with value })
      else index.constant? id :=
  lookup_amend ..

end

end Index

section
variable {index : Index} {element : ElementId} {cut : Cut} {body body' : Body}

theorem Cut.body_cases (h : cut.body body' = cut.body body) :
    (∃ stmts' stmts, body' = .block stmts' ∧ body = .block stmts ∧
      cut.stmts .visited stmts' = cut.stmts .visited stmts) ∨
    (∃ value' value, body' = .expr value' ∧ body = .expr value ∧
      cut.expr .visited value' = cut.expr .visited value) := by
  cases body' <;> cases body <;> simp_all [Cut.body]

theorem Index.body?_replaceBody (hb : index.body? element = some body)
    (hc : cut.body body' = cut.body body) :
    (index.replaceBody element body').body? = Function.update index.body? element (some body') := by
  funext other
  rcases Cut.body_cases hc with ⟨stmts', stmts, rfl, rfl, -⟩ | ⟨value', value, rfl, rfl, -⟩
  · obtain ⟨entry, hf, -⟩ := Index.body?_eq_block hb
    have hk : ∀ id, (index.replaceBody element (.block stmts')).constant? id = index.constant? id :=
      fun _ => rfl
    by_cases ho : other = element
    · subst ho
      simp [Index.body?, function?_replaceBody_block, hf]
    · simp [Index.body?, function?_replaceBody_block, ho, hk]
  · obtain ⟨hf, entry, hv, -⟩ := Index.body?_eq_expr hb
    have hk : ∀ id, (index.replaceBody element (.expr value')).function? id = index.function? id :=
      fun _ => rfl
    by_cases ho : other = element
    · subst ho
      simp [Index.body?, hk, hf, constant?_replaceBody_expr, hv]
    · simp [Index.body?, hk, constant?_replaceBody_expr, ho]

theorem Cut.index_replaceBody (hb : index.body? element = some body)
    (hc : cut.body body' = cut.body body) :
    cut.index (index.replaceBody element body') = cut.index index := by
  rcases Cut.body_cases hc with ⟨stmts', stmts, rfl, rfl, hs⟩ | ⟨value', value, rfl, rfl, hs⟩
  · obtain ⟨entry, hf, he⟩ := Index.body?_eq_block hb
    have hm : (amend element ({ · with body := some stmts' }) index.functions).map
        (Prod.map id cut.function) = index.functions.map (Prod.map id cut.function) := by
      refine map_amend fun other ho => ?_
      obtain rfl : entry = other := Option.some.inj (hf.symm.trans ho)
      simp [Cut.function, he, hs]
    simp only [Cut.index, Index.replaceBody, hm]
  · obtain ⟨-, entry, hv, he⟩ := Index.body?_eq_expr hb
    have hm : (amend element ({ · with value := value' }) index.constants).map
        (Prod.map id cut.constant) = index.constants.map (Prod.map id cut.constant) := by
      refine map_amend fun other ho => ?_
      obtain rfl : entry = other := Option.some.inj (hv.symm.trans ho)
      simp [Cut.constant, he, hs]
    simp only [Cut.index, Index.replaceBody, hm]

end

theorem diagnostics_summary (final : ScanState) (handler : Handler) :
    (final.summary handler).diagnostics = final.log.diagnostics ++ final.diagnostics := by
  simp [ScanState.summary, Logged.diagnostics]

/-- The errors of a handler, the elements visited for them and the diagnostics, apart from their
places, do not depend on patterns, on declarations inside bodies, and on the arguments of calls that
make an error: where a body is replaced by one that is the same without them, nothing changes. Only
`String::from` on the way to the code of a custom error counts with its argument. -/
theorem unread_parts_irrelevant (index : Index) (known : WellKnown) (element : ElementId)
    (body body' : Body) (hb : index.body? element = some body)
    (hc : Cut.body ⟨known, true⟩ body' = Cut.body ⟨known, true⟩ body) :
    let replaced := index.replaceBody element body'
    replaced.body? = Function.update index.body? element (some body') ∧
    replaced.handlers = index.handlers ∧
    ∀ handler,
      (collectErrors replaced.symbols known handler).value =
        (collectErrors index.symbols known handler).value ∧
      (scanHandler replaced.symbols known handler).visited =
        (scanHandler index.symbols known handler).visited ∧
      (collectErrors replaced.symbols known handler).diagnostics.map Diagnostic.placeless =
        (collectErrors index.symbols known handler).diagnostics.map Diagnostic.placeless := by
  intro replaced
  let cut : Cut := ⟨known, true⟩
  -- both indexes are the same once they are cut, so both scans end as the one of that index does
  have hi : cut.index replaced = cut.index index := Cut.index_replaceBody hb hc
  refine ⟨Index.body?_replaceBody hb hc, ?_, fun handler => ?_⟩
  · rw [← cut.handlers_index replaced, hi, cut.handlers_index]
  · have hs : (scanHandler replaced.symbols known handler).placeless =
        (scanHandler index.symbols known handler).placeless := by
      rw [← cut.scanHandler_index rfl replaced, hi, cut.scanHandler_index rfl]
    obtain ⟨diagnostics, hr, hd⟩ := ScanState.eq_of_placeless hs
    rw [collectErrors_eq_summary, collectErrors_eq_summary, diagnostics_summary,
      diagnostics_summary, hr, List.map_append, List.map_append, hd]
    exact ⟨rfl, rfl, rfl⟩

-- ---------------------------------------------------------------------------
-- Two programs
-- ---------------------------------------------------------------------------

def Index.ofBodies (known : WellKnown) (bodies : List (String × List Stmt)) : Index where
  known
  functions := bodies.map fun (name, stmts) =>
    (.function name,
      { id := .function name, name, owner := none, module := [], kind := .function,
        signature := ⟨⟨name, {}⟩, false, [], [], none⟩, attributes := [], body := some stmts,
        file := none, mapping := none, implMiddleware := {} })

def Handler.ofFunction (name : String) : Handler where
  id := .function name
  name
  verb := .get
  returnType := .named "ApiResult"

def memberCall (start : Position) (owner name : String) (args : List Expr) : Expr :=
  .call start (.path { names := [owner, name] }) args

def textErrors : WellKnown := { errorType := "String" }

def textOf (text : String) : Expr :=
  memberCall {} "String" "from" [.literal (.text text)]

def terseStmts : List Stmt :=
  [.letBinding [] (.binding "found") (some (memberCall {} "String" "not_found" [])) none,
   .expr (.matchOn (.path { names := ["found"] })
     [.mk [] .wild none (memberCall {} "String" "teapot" []),
      .mk [] .wild none (memberCall {} "String" "custom"
        [.literal (.int 409), textOf "GONE", textOf "for now"])])]

/-- The same with a declaration, other patterns, errors that are made of others, and another text
after the code of its own error. -/
def wordyStmts : List Stmt :=
  [.item [.ident "struct" {}, .ident "Inner" {}, .punct ';' false {}],
   .letBinding [] (.tupleStruct [.binding "found", .rest] [])
     (some (memberCall ⟨2, 9⟩ "String" "not_found"
       [memberCall ⟨2, 29⟩ "String" "conflict" []])) none,
   .expr (.matchOn (.path { names := ["found"] })
     [.mk [] (.typed (.binding "other")) none
       (memberCall ⟨3, 9⟩ "String" "teapot"
         [.closure [.wild] [] (memberCall ⟨3, 30⟩ "String" "forbidden" [])]),
      .mk [] .rest none (memberCall ⟨4, 9⟩ "String" "custom"
        [.literal (.int 409), textOf "GONE", textOf "for good"])])]

theorem unread_parts_irrelevant_in_callee :
    let index := Index.ofBodies textErrors
      [("show", [.expr (.call {} (.path { names := ["find"] }) [])]), ("find", terseStmts)]
    let replaced := index.replaceBody (.function "find") (.block wordyStmts)
    let handler := Handler.ofFunction "show"
    index.body? (.function "find") = some (.block terseStmts) ∧
    Cut.body ⟨textErrors, true⟩ (.block wordyStmts) =
      Cut.body ⟨textErrors, true⟩ (.block terseStmts) ∧
    (collectErrors replaced.symbols textErrors handler).value =
      (collectErrors index.symbols textErrors handler).value ∧
    (scanHandler replaced.symbols textErrors handler).visited =
      (scanHandler index.symbols textErrors handler).visited ∧
    (collectErrors replaced.symbols textErrors handler).diagnostics.map Diagnostic.placeless =
      (collectErrors index.symbols textErrors handler).diagnostics.map Diagnostic.placeless := by
  intro index replaced handler
  have hb : index.body? (.function "find") = some (.block terseStmts) := rfl
  have hc : Cut.body ⟨textErrors, true⟩ (.block wordyStmts) =
      Cut.body ⟨textErrors, true⟩ (.block terseStmts) := rfl
  obtain ⟨-, -, hh⟩ := unread_parts_irrelevant index textErrors (.function "find")
    (.block terseStmts) (.block wordyStmts) hb hc
  exact ⟨hb, hc, hh handler⟩

/-- A custom error with a code that is itself made by a member of the error type. -/
def customText (text : String) : Expr :=
  memberCall {} "String" "custom" [.literal (.int 409), textOf text]

theorem customError?_text (index : Index) (scope : ElementId) (text : String) :
    customError? index.symbols scope [.literal (.int 409), textOf text] = some ⟨text, 409⟩ := by
  have hf : index.symbols.foldConstant? scope (.literal (.int 409)) = some (.int 409) := rfl
  have hn : index.symbols.foldConstant? scope (textOf text) = none := rfl
  have ht : literalText? (textOf text) = some text := by simp [textOf, memberCall, literalText?]
  rw [customError?, constantText?, hn, constantStatus?, hf, ht]
  rfl

theorem collectErrors_customText (text : String) :
    (collectErrors (Index.ofBodies textErrors [("make", [.expr (customText text)])]).symbols
      textErrors (.ofFunction "make")).value = ⟨[], [⟨text, 409⟩]⟩ := by
  let index := Index.ofBodies textErrors [("make", [.expr (customText text)])]
  let scan := Scan.ofHandler index.symbols textErrors (.ofFunction "make")
  let site : Site := .custom (some ⟨text, 409⟩)
  have hs : scan.sites (.function "make") = [site] := by
    have he : scan.sites (.function "make") = SiteContext.bodySites
        ⟨index.symbols, textErrors, .function "make"⟩ (.block [.expr (customText text)]) := rfl
    rw [he, SiteContext.bodySites_eq, bodyParts, List.flatMap_singleton, stmtParts,
      List.flatMap_singleton, SiteContext.exprSites_eq]
    exact congrArg (fun code => [Site.custom code]) (customError?_text index _ text)
  have hc : scan.Course [.function "make"] (scan.sites (.function "make")) [site] [] := by
    rw [hs]
    exact .pass (by simp [site, Site.leadsTo?]) .done
  rw [collectErrors_of_course hc]
  rfl

/-- Where the error type is named `String`, the argument of one of its members is read as the code
of a custom error, and another text there is another error. -/
theorem text_of_error_type_is_read :
    let index := Index.ofBodies textErrors [("make", [.expr (customText "A")])]
    let replaced := index.replaceBody (.function "make") (.block [.expr (customText "B")])
    let handler := Handler.ofFunction "make"
    index.body? (.function "make") = some (.block [.expr (customText "A")]) ∧
    Cut.body ⟨textErrors, false⟩ (.block [.expr (customText "B")]) =
      Cut.body ⟨textErrors, false⟩ (.block [.expr (customText "A")]) ∧
    (collectErrors index.symbols textErrors handler).value = ⟨[], [⟨"A", 409⟩]⟩ ∧
    (collectErrors replaced.symbols textErrors handler).value = ⟨[], [⟨"B", 409⟩]⟩ :=
  ⟨rfl, rfl, collectErrors_customText "A", collectErrors_customText "B"⟩

end EndpointInference

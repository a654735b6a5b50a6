import EndpointInference.Binding.Classify
import EndpointInference.Proofs.Diagnostics

/-!
# A parameter is rejected exactly where an error is reported

`Explained` says it of one computation: its result is missing if and only if it reported an error,
and what else it reported is the warning about ambiguous bindings. Every rule is explained, a group
if its members are, a form if its fields are, and so is the binding of a whole handler
(`classifyHandler_explained`).
-/

namespace EndpointInference

/-- The result is missing exactly where an error was reported; all else that was reported is that a
binding is ambiguous. -/
structure Explained (x : Logged (Option α)) : Prop where
  missing : x.value = none ↔ x.diagnostics.hasErrors = true
  codes : ∀ diagnostic ∈ x.diagnostics,
    diagnostic.isError = true ∨ diagnostic.code = .ambiguousBodylessBinding

namespace Explained

theorem found (a : α) : Explained (pure (some a)) :=
  ⟨by simp, by simp⟩

theorem reject (h : diagnostic.isError = true) :
    Explained (do Logged.report diagnostic; return (none : Option α)) :=
  ⟨by simp [Diagnostics.hasErrors, h], by simp [h]⟩

end Explained

-- ---------------------------------------------------------------------------
-- Several parameters
-- ---------------------------------------------------------------------------

theorem allBound_eq_none_iff {results : List Bound} : allBound results = none ↔ none ∈ results := by
  induction results with
  | nil => simp [allBound]
  | cons result rest ih =>
    cases result with
    | none => simp [allBound]
    | some bound =>
      have h : allBound (some bound :: rest) =
          (allBound rest).bind fun others => some (bound :: others) := by simp [allBound]
      cases hr : allBound rest <;> simp_all

section
variable {f : α → Logged Bound} {xs : List α}

theorem mapM_missing (h : ∀ x ∈ xs, Explained (f x)) :
    none ∈ (xs.mapM f).value ↔ (xs.mapM f).diagnostics.hasErrors = true := by
  rw [Logged.value_mapM, Logged.diagnostics_mapM, Diagnostics.hasErrors_flatMap, List.mem_map]
  constructor
  · rintro ⟨x, hx, hn⟩
    exact ⟨x, hx, (h x hx).missing.mp hn⟩
  · rintro ⟨x, hx, he⟩
    exact ⟨x, hx, (h x hx).missing.mpr he⟩

theorem mapM_codes (h : ∀ x ∈ xs, Explained (f x)) :
    ∀ diagnostic ∈ (xs.mapM f).diagnostics,
      diagnostic.isError = true ∨ diagnostic.code = .ambiguousBodylessBinding := by
  intro diagnostic hd
  rw [Logged.diagnostics_mapM] at hd
  obtain ⟨x, hx, hd⟩ := List.mem_flatMap.mp hd
  exact (h x hx).codes diagnostic hd

theorem Explained.all (h : ∀ x ∈ xs, Explained (f x))
    (make : List EndpointParameter → EndpointParameter) :
    Explained (do
      let results ← xs.mapM f
      return (allBound results).map make) := by
  constructor
  · rw [Logged.diagnostics_bind, Logged.diagnostics_pure, List.append_nil, ← mapM_missing h]
    rw [Logged.value_bind, Logged.value_pure, Option.map_eq_none_iff, allBound_eq_none_iff]
  · rw [Logged.diagnostics_bind, Logged.diagnostics_pure, List.append_nil]
    exact mapM_codes h

end

-- ---------------------------------------------------------------------------
-- Rules
-- ---------------------------------------------------------------------------

theorem rejectType_explained (h : code.severity = .error) (param : Parameter) :
    Explained (rejectType code param) :=
  .reject (by simp [Diagnostic.isError, Diagnostic.severity, Diagnostic.invalidBindingType, h])

namespace TypeView

section
variable (view : TypeView)

/-- The depth only cuts off types that are being bound already, and those are rejected too. -/
theorem bindFormWithin_explained (depth : Nat) (path : List TypeRef) (param : Parameter)
    (name : Option String) : Explained (view.bindFormWithin depth path param name) := by
  induction depth generalizing path param name with
  | zero =>
    unfold bindFormWithin
    split
    · exact .found _
    · split
      · exact .found _
      · split
        · next h => cases h
        · exact rejectType_explained rfl param
  | succ depth ih =>
    unfold bindFormWithin
    split
    · exact .found _
    · split
      · exact .found _
      · split
        · next h =>
          cases h
          split
          · exact rejectType_explained rfl param
          · exact .all (fun child _ => ih _ child _) _
        · exact rejectType_explained rfl param

theorem bindFallback_explained (cx : BindingContext) (param : Parameter) :
    Explained (view.bindFallback cx param) := by
  unfold bindFallback
  split
  · exact .found _
  · split
    · split
      · exact .found _
      · exact ⟨by simp [Diagnostics.hasErrors, Diagnostic.isError, Diagnostic.severity,
          Diagnostic.ambiguousBodylessBinding, DiagnosticCode.severity],
          by simp [Diagnostic.ambiguousBodylessBinding]⟩
    · exact .found _

theorem bound_or_reject_explained {condition : Bool} (h : code.severity = .error)
    (bound : EndpointParameter) (param : Parameter) :
    Explained (if condition then pure (some bound) else rejectType code param) := by
  split
  · exact .found _
  · exact rejectType_explained h param

theorem applyRule?_explained {group : Parameter → Logged Bound} {cx : BindingContext}
    (hg : param.annotation = some .asParameters → Explained (group param)) (rule : BindingRule) :
    ∀ result, view.applyRule? group cx param rule = some result → Explained result := by
  intro result h
  cases rule with
  | parameterGroup =>
    simp only [applyRule?] at h
    split at h
    · next ha => cases h; exact hg ha
    · cases h
  | explicitForm =>
    simp only [applyRule?] at h
    split at h
    · cases h; exact view.bindFormWithin_explained ..
    · cases h
  | fallback => cases h; exact view.bindFallback_explained cx param
  | specialRole =>
    obtain ⟨role, -, rfl⟩ := Option.map_eq_some_iff.mp h
    exact .found _
  | explicitHeader | explicitRoute | explicitQuery | implicitRoute =>
    simp only [applyRule?] at h
    split at h
    · cases h; exact bound_or_reject_explained rfl _ param
    · cases h
  | explicitBody | explicitService | implicitQuery | customParsing =>
    simp only [applyRule?] at h
    split at h
    all_goals
      cases h
      try exact .found _

theorem decided_explained {x : Logged Bound} (h : Explained x) (cx : BindingContext)
    (param : Parameter) (rule : BindingRule) :
    Explained (do decided cx param rule (← x)) := by
  have hd : ∀ result : Bound, (decided cx param rule result).diagnostics = [] ∧
      (decided cx param rule result).value = result := by
    intro result
    cases result <;> exact ⟨rfl, rfl⟩
  exact ⟨by simpa [hd] using h.missing, by simpa [hd] using h.codes⟩

/-- The last rule always applies, so some rule decides. -/
theorem classifyWith_explained {group : Parameter → Logged Bound} (cx : BindingContext)
    (hg : param.annotation = some .asParameters → Explained (group param)) :
    Explained (view.classifyWith group cx param) := by
  unfold classifyWith
  split
  · next rule result h =>
    obtain ⟨other, -, ho⟩ := List.exists_of_findSome?_eq_some h
    obtain ⟨applied, ha, he⟩ := Option.map_eq_some_iff.mp ho
    cases he
    exact decided_explained (view.applyRule?_explained hg rule result ha) cx param rule
  · next h =>
    have hf := List.findSome?_eq_none_iff.mp h .fallback (by simp [BindingRule.order])
    simp [applyRule?] at hf

theorem classifyChild_explained (cx : BindingContext) (param child : Parameter) :
    Explained (view.classifyChild cx param child) := by
  unfold classifyChild
  split
  · exact .reject rfl
  · next h => exact view.classifyWith_explained cx fun hg => absurd hg h

theorem expandGroup_explained (cx : BindingContext) (param : Parameter) :
    Explained (view.expandGroup cx param) := by
  unfold expandGroup
  split
  · exact .reject rfl
  · split
    · exact .reject rfl
    · exact .all (fun child _ => view.classifyChild_explained cx param child) _

theorem classify_explained (cx : BindingContext) (param : Parameter) :
    Explained (view.classify cx param) :=
  view.classifyWith_explained cx fun _ => view.expandGroup_explained cx param

-- ---------------------------------------------------------------------------
-- Handlers
-- ---------------------------------------------------------------------------

theorem failed_ofResults {results : List Bound} :
    (Classification.ofResults results).failed = 0 ↔ none ∉ results := by
  simp only [Classification.ofResults, List.countP_eq_zero, Option.isNone_iff_eq_none]
  exact ⟨fun h hn => h none hn rfl, fun h result hr hn => h (hn ▸ hr)⟩

theorem complete?_ofResults {results : List Bound} :
    (Classification.ofResults results).complete? = none ↔ none ∈ results := by
  have ha : (Classification.ofResults results).aborted = false := rfl
  by_cases h : none ∈ results <;>
    simp [Classification.complete?, Classification.isComplete, ha, failed_ofResults, h]

theorem classifyHandler_explained (handler : Handler) :
    Explained ((·.complete?) <$> view.classifyHandler handler) := by
  have hgave : Classification.gaveUp.complete? = none := rfl
  have herror (names : List String) :
      (Diagnostic.multipleBodySources handler.name names handler.location).isError = true := rfl
  have hall := fun param (_ : param ∈ handler.parameters) =>
    view.classify_explained (.ofHandler handler) param
  have hmissing := mapM_missing hall
  have hcodes := mapM_codes hall
  unfold classifyHandler
  split
  · exact ⟨by simp [hgave, Diagnostics.hasErrors, herror], by simp [herror]⟩
  · generalize handler.parameters.mapM (view.classify (.ofHandler handler)) = bound at *
    by_cases hn : none ∈ bound.value
    · have hf : (Classification.ofResults bound.value).failed ≠ 0 :=
        mt failed_ofResults.mp (not_not_intro hn)
      constructor
      · simp [hf, complete?_ofResults, hn, hmissing.mp hn]
      · simpa [hf] using hcodes
    · have hf : (Classification.ofResults bound.value).failed = 0 := failed_ofResults.mpr hn
      have he : bound.diagnostics.hasErrors = false := by
        simpa using mt hmissing.mpr hn
      cases hb : bodyConflict? (boundBodies (Classification.ofResults bound.value).parameters) with
      | none =>
        constructor
        · simp [hf, hb, complete?_ofResults, hn, he]
        · simpa [hf, hb] using hcodes
      | some names =>
        constructor
        · simp [hf, hb, hgave, Diagnostics.hasErrors, herror]
        · intro diagnostic hd
          rcases (by simpa [hf, hb] using hd :
            diagnostic ∈ bound.diagnostics ∨ diagnostic = _) with hd | rfl
          · exact hcodes diagnostic hd
          · exact .inl (herror names)

end

end TypeView

end EndpointInference

import EndpointInference.Proofs.Rejection
import EndpointInference.Proofs.Responses

/-!
# The body of a request is read in one way

Handlers are checked twice for parameters that read the body: as they are declared, and as they are
bound, with all that groups and forms hold. A declared parameter that reads the body is bound to
read it in the same way (`classify_bodyCategory?`), so what the first check counts is among what the
second one counts, and the first check refuses nothing that the second would accept
(`body_read_in_one_way`).
-/

namespace EndpointInference

-- ---------------------------------------------------------------------------
-- Conflicts
-- ---------------------------------------------------------------------------

namespace BodyCategory

def Covers : BodyCategory → BindingSource → Prop
  | .body, source => source = .body
  | .form, source => source.isFormLike = true
  | .stream, source => source = .stream
  | .pipeReader, source => source = .pipeReader

theorem covers_iff {category : BodyCategory} {source : BindingSource} :
    category.Covers source ↔ source.bodyCategory? = some category := by
  cases category <;> cases source <;>
    simp [Covers, BindingSource.isFormLike, BindingSource.bodyCategory?]

/-- These cannot stand together: two whole bodies, or two different categories. -/
def Conflicting (categories : List BodyCategory) : Prop :=
  1 < categories.count .body ∨ ∃ a ∈ categories, ∃ b ∈ categories, a ≠ b

theorem Conflicting.of_sublist (h : Conflicting first) (hs : first.Sublist second) :
    Conflicting second := by
  rcases h with h | ⟨a, ha, b, hb, hn⟩
  · exact .inl (Nat.lt_of_lt_of_le h (hs.count_le _))
  · exact .inr ⟨a, hs.subset ha, b, hs.subset hb, hn⟩

theorem one_lt_length_eraseDups {categories : List BodyCategory} :
    1 < categories.eraseDups.length ↔ ∃ a ∈ categories, ∃ b ∈ categories, a ≠ b := by
  cases categories with
  | nil => simp
  | cons first rest =>
    rw [List.eraseDups_cons, List.length_cons, Nat.lt_add_left_iff_pos,
      List.length_pos_iff_exists_mem]
    simp only [List.mem_eraseDups, List.mem_filter]
    constructor
    · rintro ⟨b, hb, hn⟩
      exact ⟨b, List.mem_cons_of_mem _ hb, first, List.mem_cons_self, by simpa using hn⟩
    · rintro ⟨a, ha, b, hb, hn⟩
      -- one of the two is not the first
      by_cases hf : a = first
      · subst hf
        exact ⟨b, (List.mem_cons.mp hb).resolve_left (Ne.symm hn), by simpa using Ne.symm hn⟩
      · exact ⟨a, (List.mem_cons.mp ha).resolve_left hf, by simpa using hf⟩

end BodyCategory

theorem bodyConflict?_isSome_iff {entries : List (String × BodyCategory)} :
    (bodyConflict? entries).isSome ↔ BodyCategory.Conflicting (entries.map (·.2)) := by
  have hbodies : (entries.filter (·.2 == .body)).length = (entries.map (·.2)).count .body := by
    rw [← List.countP_eq_length_filter, List.count, List.countP_map]
    rfl
  unfold bodyConflict? BodyCategory.Conflicting
  rw [hbodies, ← BodyCategory.one_lt_length_eraseDups]
  simp

def EndpointParameter.bodyCategory? (param : EndpointParameter) : Option BodyCategory :=
  param.source.bodyCategory?

theorem declaredBodies_categories (handler : Handler) :
    (declaredBodies handler).map (·.2) = handler.parameters.filterMap Parameter.bodyCategory? := by
  simp [declaredBodies, List.map_filterMap, Function.comp_def]

theorem boundBodies_categories (params : List EndpointParameter) :
    (boundBodies params).map (·.2) =
      (EndpointParameter.flattenList params).filterMap EndpointParameter.bodyCategory? := by
  simp only [boundBodies, List.map_filterMap, Option.map_map, Function.comp_def, Option.map_id']
  rfl

-- ---------------------------------------------------------------------------
-- Declared and bound parameters
-- ---------------------------------------------------------------------------

theorem EndpointParameter.flattenList_cons (param : EndpointParameter)
    (rest : List EndpointParameter) :
    flattenList (param :: rest) = param :: (flattenList param.children ++ flattenList rest) := by
  simp [flattenList, flatten_eq]

namespace TypeView

section
variable {view : TypeView} {cx : BindingContext} {param : Parameter}

theorem bindFormWithin_bodyCategory?
    (h : (view.bindFormWithin depth path param name).value = some bound) :
    bound.bodyCategory? = some .form := by
  unfold bindFormWithin at h
  split at h
  · next source hs =>
    cases h
    unfold Parameter.uploadSource? at hs
    split at hs <;> cases hs <;> rfl
  · split at h
    · cases h
      rfl
    · split at h
      · split at h
        · cases h
        · simp only [Logged.value_bind, Logged.value_pure, Option.map_eq_some_iff] at h
          obtain ⟨children, -, rfl⟩ := h
          rfl
      · cases h

@[simp] theorem value_decided (rule : BindingRule) (result : Bound) :
    (decided cx param rule result).value = result := by
  cases result <;> rfl

theorem classify_bodyCategory? (h : (view.classify cx param).value = some bound)
    (hc : param.bodyCategory? = some category) : bound.bodyCategory? = some category := by
  unfold Parameter.bodyCategory? at hc
  split at hc
  · next allowEmpty ha =>
    cases hc
    have hb : { EndpointParameter.ofParameter param .body with allowEmptyBody := allowEmpty } =
        bound := by
      simpa [classify, classifyWith, BindingRule.order, applyRule?, ha] using h
    rw [← hb]
    rfl
  · next name ha =>
    cases hc
    have hf : (view.bindForm param name).value = some bound := by
      simpa [classify, classifyWith, BindingRule.order, applyRule?, ha] using h
    exact bindFormWithin_bodyCategory? hf
  · cases hc
  · next ha =>
    cases hs : param.special with
    | none => simp [hs] at hc
    | some role =>
      have hb : EndpointParameter.ofParameter param (.ofSpecial role) = bound := by
        simpa [classify, classifyWith, BindingRule.order, applyRule?, ha, hs] using h
      rw [← hb, ← hc, hs]
      cases role <;> rfl

theorem categories_sublist (params : List Parameter)
    (h : ∀ param ∈ params, (view.classify cx param).value ≠ none) :
    (params.filterMap Parameter.bodyCategory?).Sublist
      ((EndpointParameter.flattenList
        (params.filterMap fun param => (view.classify cx param).value)).filterMap
          EndpointParameter.bodyCategory?) := by
  induction params with
  | nil => exact List.nil_sublist _
  | cons param rest ih =>
    obtain ⟨bound, hb⟩ := Option.ne_none_iff_exists'.mp (h param List.mem_cons_self)
    have hrest := ih fun other ho => h other (List.mem_cons_of_mem _ ho)
    have hbelow : (rest.filterMap Parameter.bodyCategory?).Sublist
        ((EndpointParameter.flattenList bound.children ++ EndpointParameter.flattenList
          (rest.filterMap fun param => (view.classify cx param).value)).filterMap
            EndpointParameter.bodyCategory?) := by
      rw [List.filterMap_append]
      exact List.sublist_append_of_sublist_right hrest
    rw [List.filterMap_cons_some (f := fun param => (view.classify cx param).value) hb,
      EndpointParameter.flattenList_cons]
    cases hc : param.bodyCategory? with
    | none =>
      rw [List.filterMap_cons_none hc]
      exact hbelow.trans ((List.sublist_cons_self _ _).filterMap _)
    | some category =>
      rw [List.filterMap_cons_some hc, List.filterMap_cons_some (classify_bodyCategory? hb hc)]
      exact hbelow.cons_cons _

end

end TypeView

-- ---------------------------------------------------------------------------
-- Binding a parameter does not report several bodies
-- ---------------------------------------------------------------------------

def Logged.NoConflict (x : Logged α) : Prop :=
  ∀ diagnostic ∈ x.diagnostics, diagnostic.code ≠ .multipleBodySources

namespace Logged.NoConflict

theorem pure (a : α) : NoConflict (pure a) := by
  simp [NoConflict]

theorem bind {x : Logged α} {f : α → Logged β} (hx : x.NoConflict) (hf : ∀ a, (f a).NoConflict) :
    (x >>= f).NoConflict := by
  intro diagnostic hd
  rw [Logged.diagnostics_bind] at hd
  rcases List.mem_append.mp hd with hd | hd
  · exact hx diagnostic hd
  · exact hf x.value diagnostic hd

theorem report (h : diagnostic.code ≠ .multipleBodySources) :
    (Logged.report diagnostic).NoConflict := by
  simpa [NoConflict] using h

theorem mapM {f : α → Logged β} {xs : List α} (h : ∀ x ∈ xs, (f x).NoConflict) :
    (xs.mapM f).NoConflict := by
  intro diagnostic hd
  rw [Logged.diagnostics_mapM] at hd
  obtain ⟨x, hx, hd⟩ := List.mem_flatMap.mp hd
  exact h x hx diagnostic hd

end Logged.NoConflict

open Logged (NoConflict)

theorem rejectType_noConflict (h : code ≠ .multipleBodySources) (param : Parameter) :
    (rejectType code param).NoConflict :=
  (NoConflict.report h).bind fun _ => .pure _

namespace TypeView

section
variable (view : TypeView)

theorem bindFormWithin_noConflict (depth : Nat) (path : List TypeRef) (param : Parameter)
    (name : Option String) : (view.bindFormWithin depth path param name).NoConflict := by
  induction depth generalizing path param name with
  | zero =>
    unfold bindFormWithin
    split
    · exact .pure _
    · split
      · exact .pure _
      · split
        · next h => cases h
        · exact rejectType_noConflict (by decide) param
  | succ depth ih =>
    unfold bindFormWithin
    split
    · exact .pure _
    · split
      · exact .pure _
      · split
        · next h =>
          cases h
          split
          · exact rejectType_noConflict (by decide) param
          · exact (NoConflict.mapM fun child _ => ih _ child _).bind fun _ => .pure _
        · exact rejectType_noConflict (by decide) param

theorem bindFallback_noConflict (cx : BindingContext) (param : Parameter) :
    (view.bindFallback cx param).NoConflict := by
  unfold bindFallback
  split
  · exact .pure _
  · split
    · split
      · exact .pure _
      · exact (NoConflict.report (by simp [Diagnostic.ambiguousBodylessBinding])).bind
          fun _ => .pure _
    · exact .pure _

theorem applyRule?_noConflict {group : Parameter → Logged Bound} {cx : BindingContext}
    (hg : param.annotation = some .asParameters → (group param).NoConflict) (rule : BindingRule) :
    ∀ result, view.applyRule? group cx param rule = some result → result.NoConflict := by
  intro result h
  cases rule with
  | parameterGroup =>
    simp only [applyRule?] at h
    split at h
    · next ha => cases h; exact hg ha
    · cases h
  | explicitForm =>
    simp only [applyRule?] at h
    split at h
    · cases h; exact view.bindFormWithin_noConflict _ _ _ _
    · cases h
  | fallback => cases h; exact view.bindFallback_noConflict cx param
  | specialRole =>
    obtain ⟨role, -, rfl⟩ := Option.map_eq_some_iff.mp h
    exact .pure _
  | explicitHeader | explicitRoute | explicitQuery | implicitRoute =>
    simp only [applyRule?] at h
    split at h
    · cases h
      split
      · exact .pure _
      · exact rejectType_noConflict (by decide) param
    · cases h
  | explicitBody | explicitService | implicitQuery | customParsing =>
    simp only [applyRule?] at h
    split at h
    all_goals
      cases h
      try exact .pure _

theorem decided_noConflict (cx : BindingContext) (param : Parameter) (rule : BindingRule)
    (result : Bound) : (decided cx param rule result).NoConflict := by
  cases result <;> simp [decided, NoConflict]

theorem classifyWith_noConflict {group : Parameter → Logged Bound} (cx : BindingContext)
    (hg : param.annotation = some .asParameters → (group param).NoConflict) :
    (view.classifyWith group cx param).NoConflict := by
  unfold classifyWith
  split
  · next rule result h =>
    obtain ⟨other, -, ho⟩ := List.exists_of_findSome?_eq_some h
    obtain ⟨applied, ha, he⟩ := Option.map_eq_some_iff.mp ho
    cases he
    exact (view.applyRule?_noConflict hg rule result ha).bind (decided_noConflict cx param rule)
  · exact .pure _

theorem classifyChild_noConflict (cx : BindingContext) (param child : Parameter) :
    (view.classifyChild cx param child).NoConflict := by
  unfold classifyChild
  split
  · exact (NoConflict.report (by simp [nestedGroup])).bind fun _ => .pure _
  · next h => exact view.classifyWith_noConflict cx fun hg => absurd hg h

theorem expandGroup_noConflict (cx : BindingContext) (param : Parameter) :
    (view.expandGroup cx param).NoConflict := by
  unfold expandGroup
  split
  · exact (NoConflict.report (by simp [nullableGroup])).bind fun _ => .pure _
  · split
    · exact (NoConflict.report (by simp [noUsableConstructor])).bind fun _ => .pure _
    · exact (NoConflict.mapM fun child _ => view.classifyChild_noConflict cx param child).bind
        fun _ => .pure _

theorem classify_noConflict (cx : BindingContext) (param : Parameter) :
    (view.classify cx param).NoConflict :=
  view.classifyWith_noConflict cx fun _ => view.expandGroup_noConflict cx param

-- ---------------------------------------------------------------------------
-- Handlers
-- ---------------------------------------------------------------------------

def boundParameters (handler : Handler) : List EndpointParameter :=
  handler.parameters.filterMap fun param => (view.classify (.ofHandler handler) param).value

def BindsAll (handler : Handler) : Prop :=
  ∀ param ∈ handler.parameters, (view.classify (.ofHandler handler) param).value ≠ none

/-- The ways in which binding a handler ends: it is given up for what is declared, or for what is
bound, or the result is kept. -/
inductive Ends (handler : Handler) (result : Logged Classification) : Prop
  | declared (names : List String) :
      BodyCategory.Conflicting (handler.parameters.filterMap Parameter.bodyCategory?) →
      result.value = .gaveUp →
      result.diagnostics = [.multipleBodySources handler.name names handler.location] →
      Ends handler result
  | bound (names : List String) : view.BindsAll handler →
      BodyCategory.Conflicting ((EndpointParameter.flattenList
        (view.boundParameters handler)).filterMap EndpointParameter.bodyCategory?) →
      result.value = .gaveUp →
      result.diagnostics = reported ++ [.multipleBodySources handler.name names handler.location] →
      (∀ diagnostic ∈ reported, diagnostic.code ≠ .multipleBodySources) →
      Ends handler result
  | kept : result.value.aborted = false → result.value.parameters = view.boundParameters handler →
      (result.value.failed = 0 ↔ view.BindsAll handler) →
      (view.BindsAll handler → ¬BodyCategory.Conflicting ((EndpointParameter.flattenList
        (view.boundParameters handler)).filterMap EndpointParameter.bodyCategory?)) →
      Ends handler result

theorem bindsAll_iff (handler : Handler) : view.BindsAll handler ↔
    none ∉ (handler.parameters.mapM (view.classify (.ofHandler handler))).value := by
  rw [Logged.value_mapM, List.mem_map]
  exact ⟨fun h ⟨param, hp, hn⟩ => h param hp hn, fun h param hp hn => h ⟨param, hp, hn⟩⟩

theorem parameters_ofResults (handler : Handler) :
    (Classification.ofResults
      (handler.parameters.mapM (view.classify (.ofHandler handler))).value).parameters =
        view.boundParameters handler := by
  rw [Logged.value_mapM]
  simp only [Classification.ofResults, List.filterMap_map]
  rfl

theorem classifyHandler_ends (handler : Handler) :
    view.Ends handler (view.classifyHandler handler) := by
  have hbound : (bodyConflict? (boundBodies (view.boundParameters handler))).isSome ↔
      BodyCategory.Conflicting ((EndpointParameter.flattenList
        (view.boundParameters handler)).filterMap EndpointParameter.bodyCategory?) := by
    rw [bodyConflict?_isSome_iff, boundBodies_categories]
  have hreported : (handler.parameters.mapM (view.classify (.ofHandler handler))).NoConflict :=
    .mapM fun param _ => view.classify_noConflict _ param
  have hall := view.bindsAll_iff handler
  have hparams := view.parameters_ofResults handler
  unfold classifyHandler
  split
  · next names h =>
    refine .declared names ?_ rfl rfl
    rw [← declaredBodies_categories, ← bodyConflict?_isSome_iff, h]
    rfl
  · generalize handler.parameters.mapM (view.classify (.ofHandler handler)) = results at *
    rw [← failed_ofResults] at hall
    have haborted : (Classification.ofResults results.value).aborted = false := rfl
    by_cases hf : (Classification.ofResults results.value).failed = 0
    · cases hb : bodyConflict? (boundBodies (view.boundParameters handler)) with
      | some names =>
        refine .bound names (hall.mpr hf) (hbound.mp (by rw [hb]; rfl)) ?_ ?_ hreported
        · simp [hf, hparams, hb]
        · simp [hf, hparams, hb]
      | none =>
        have hn : ¬BodyCategory.Conflicting ((EndpointParameter.flattenList
            (view.boundParameters handler)).filterMap EndpointParameter.bodyCategory?) := by
          simpa [hb] using mt hbound.mpr
        refine .kept ?_ ?_ ?_ fun _ => hn
        · simp [hf, hparams, hb, haborted]
        · simp [hf, hparams, hb]
        · simp [hf, hparams, hb, hall]
    · refine .kept ?_ ?_ ?_ fun h => absurd (hall.mp h) hf
      · simp [hf, haborted]
      · simp [hf, hparams]
      · simp [hf, hall]

end

end TypeView

theorem conflicting_nodes_iff {nodes : List EndpointParameter} :
    BodyCategory.Conflicting (nodes.filterMap EndpointParameter.bodyCategory?) ↔
      1 < nodes.countP (·.source == .body) ∨
        ∃ node ∈ nodes, ∃ other ∈ nodes, ∃ a b : BodyCategory,
          a.Covers node.source ∧ b.Covers other.source ∧ a ≠ b := by
  have hcount : (nodes.filterMap EndpointParameter.bodyCategory?).count .body =
      nodes.countP (·.source == .body) := by
    rw [List.count_filterMap]
    refine List.countP_congr fun node _ => ?_
    have hbody : node.bodyCategory? = some .body ↔ node.source = .body :=
      BodyCategory.covers_iff.symm
    simpa using hbody
  unfold BodyCategory.Conflicting
  rw [hcount]
  refine or_congr_right ?_
  simp only [List.mem_filterMap, BodyCategory.covers_iff]
  constructor
  · rintro ⟨a, ⟨node, hn, ha⟩, b, ⟨other, ho, hb⟩, h⟩
    exact ⟨node, hn, other, ho, a, b, ha, hb, h⟩
  · rintro ⟨node, hn, other, ho, a, b, ha, hb, h⟩
    exact ⟨a, ⟨node, hn, ha⟩, b, ⟨other, ho, hb⟩, h⟩

theorem exists_category {nodes : List EndpointParameter}
    (h : ¬∃ node ∈ nodes, ∃ other ∈ nodes, ∃ a b : BodyCategory,
      a.Covers node.source ∧ b.Covers other.source ∧ a ≠ b) :
    ∃ category : BodyCategory, ∀ node ∈ nodes, ∀ other : BodyCategory,
      other.Covers node.source → other = category := by
  by_cases hs : ∃ node ∈ nodes, ∃ category : BodyCategory, category.Covers node.source
  · obtain ⟨first, hf, category, hc⟩ := hs
    refine ⟨category, fun node hn other ho => Classical.byContradiction fun hne => ?_⟩
    exact h ⟨node, hn, first, hf, other, category, ho, hc, hne⟩
  · exact ⟨.body, fun node hn other ho => absurd ⟨node, hn, other, ho⟩ hs⟩

theorem Diagnostics.count_concat_of_not_mem {diagnostics : Diagnostics}
    (hc : diagnostic.code = code) (h : ∀ other ∈ diagnostics, other.code ≠ code) :
    Diagnostics.count (diagnostics ++ [diagnostic]) code = 1 := by
  have hnone : diagnostics.filter (·.code == code) = [] :=
    List.filter_eq_nil_iff.mpr fun other ho => by simpa using h other ho
  simp [Diagnostics.count, Diagnostics.withCode, hnone, hc]

/-- Where a handler is given up there are no parameters and none counts as rejected, and it is
reported once. Where its parameters are complete, their trees hold at most one whole body, and all
that reads the body does it in one way. And if each parameter can be bound, the handler is given up
exactly where the bound ones read the body twice or in two ways: what is declared is never refused
where what is bound would be accepted. -/
theorem body_read_in_one_way (view : TypeView) (handler : Handler) :
    let result := view.classifyHandler handler
    let nodes := EndpointParameter.flattenList result.value.parameters
    let bound := EndpointParameter.flattenList (view.boundParameters handler)
    (result.value.aborted = true →
      result.value.parameters = [] ∧ result.value.failed = 0 ∧
        result.diagnostics.count .multipleBodySources = 1) ∧
    (result.value.isComplete = true →
      nodes.countP (·.source == .body) ≤ 1 ∧
        ∃ category : BodyCategory, ∀ node ∈ nodes, ∀ other : BodyCategory,
          other.Covers node.source → other = category) ∧
    (view.BindsAll handler →
      (result.value.aborted = true ↔
        1 < bound.countP (·.source == .body) ∨
          ∃ node ∈ bound, ∃ other ∈ bound, ∃ a b : BodyCategory,
            a.Covers node.source ∧ b.Covers other.source ∧ a ≠ b) ∧
      ((bodyConflict? (declaredBodies handler)).isSome →
        (bodyConflict? (boundBodies (view.boundParameters handler))).isSome)) := by
  intro result nodes bound
  have hends : view.Ends handler result := view.classifyHandler_ends handler
  refine ⟨fun h => ?_, fun h => ?_, fun h => ⟨?_, fun hd => ?_⟩⟩
  · cases hends with
    | declared names _ hv hd =>
      refine ⟨by rw [hv]; rfl, by rw [hv]; rfl, ?_⟩
      rw [hd]
      rfl
    | bound names _ _ hv hd hq =>
      refine ⟨by rw [hv]; rfl, by rw [hv]; rfl, ?_⟩
      rw [hd]
      exact Diagnostics.count_concat_of_not_mem rfl hq
    | kept ha => cases ha.symm.trans h
  · simp only [Classification.isComplete, Bool.and_eq_true, beq_iff_eq, Bool.not_eq_true'] at h
    cases hends with
    | declared names _ hv => cases h.2.symm.trans (congrArg _ hv)
    | bound names _ _ hv => cases h.2.symm.trans (congrArg _ hv)
    | kept _ hp hf hn =>
      have hfree := hn (hf.mp h.1)
      rw [← hp, conflicting_nodes_iff, not_or, Nat.not_lt] at hfree
      exact ⟨hfree.1, exists_category hfree.2⟩
  · rw [← conflicting_nodes_iff]
    cases hends with
    | declared names hc hv =>
      exact iff_of_true (by rw [hv]; rfl) (hc.of_sublist (TypeView.categories_sublist _ h))
    | bound names _ hc hv => exact iff_of_true (by rw [hv]; rfl) hc
    | kept ha _ _ hn => exact iff_of_false (by simp [ha]) (hn h)
  · rw [bodyConflict?_isSome_iff, declaredBodies_categories] at hd
    rw [bodyConflict?_isSome_iff, boundBodies_categories]
    exact hd.of_sublist (TypeView.categories_sublist _ h)

end EndpointInference

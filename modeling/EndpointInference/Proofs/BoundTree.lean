import EndpointInference.Proofs.BodyExclusive
import Mathlib.Data.List.Forall2

/-!
# The trees of bound parameters

A parameter is bound as a single value, as the tree of a form, or as a group with a member for each
parameter of a constructor. Members of groups are bound as the first two, and all that is below a
form is part of the form (`Simple`). So groups stand at the roots only, and at every node of every
tree the key, the children and the source fit together (`bound_trees_wellFormed`).
-/

namespace EndpointInference

-- ---------------------------------------------------------------------------
-- The constructor that counts
-- ---------------------------------------------------------------------------

namespace TypeInfo

/-- The first one with the most parameters among the public constructors. -/
def IsBest (info : TypeInfo) (ctor : Constructor) : Prop :=
  ∃ before after, info.constructors = before ++ ctor :: after ∧ ctor.isPublic = true ∧
    (∀ other ∈ before, other.isPublic = true → other.params.length < ctor.params.length) ∧
    ∀ other ∈ after, other.isPublic = true → other.params.length ≤ ctor.params.length

theorem better_cases (best : Option Constructor) (next : Constructor) :
    (better best next = some next ∧
        ∀ current ∈ best, current.params.length < next.params.length) ∨
      ∃ current, best = some current ∧ better best next = some current ∧
        next.params.length ≤ current.params.length := by
  cases best with
  | none => exact .inl ⟨rfl, nofun⟩
  | some current =>
    by_cases h : current.params.length ≥ next.params.length
    · exact .inr ⟨current, rfl, if_pos h, h⟩
    · refine .inl ⟨if_neg h, fun other ho => ?_⟩
      obtain rfl : current = other := Option.mem_some.mp ho
      omega

theorem foldl_better {best : Option Constructor} {ctors : List Constructor}
    (h : (ctors.filter (·.isPublic)).foldl better best = some ctor) :
    (best = some ctor ∧
        ∀ other ∈ ctors, other.isPublic = true → other.params.length ≤ ctor.params.length) ∨
      ∃ before after, ctors = before ++ ctor :: after ∧ ctor.isPublic = true ∧
        (∀ other ∈ best, other.params.length < ctor.params.length) ∧
        (∀ other ∈ before, other.isPublic = true → other.params.length < ctor.params.length) ∧
        ∀ other ∈ after, other.isPublic = true → other.params.length ≤ ctor.params.length := by
  induction ctors generalizing best with
  | nil => exact .inl ⟨h, nofun⟩
  | cons next rest ih =>
    by_cases hp : next.isPublic = true
    · rw [List.filter_cons_of_pos hp, List.foldl_cons] at h
      rcases better_cases best next with ⟨hnext, hlt⟩ | ⟨current, rfl, hcurrent, hle⟩
      · rw [hnext] at h
        rcases ih h with ⟨he, hrest⟩ | ⟨before, after, rfl, hc, hb, hbefore, hafter⟩
        · obtain rfl : next = ctor := Option.some.inj he
          exact .inr ⟨[], rest, rfl, hp, hlt, nofun, hrest⟩
        · have hn : next.params.length < ctor.params.length := hb next rfl
          exact .inr ⟨next :: before, after, rfl, hc,
            fun other ho => Nat.lt_trans (hlt other ho) hn,
            List.forall_mem_cons.mpr ⟨fun _ => hn, hbefore⟩, hafter⟩
      · rw [hcurrent] at h
        rcases ih h with ⟨he, hrest⟩ | ⟨before, after, rfl, hc, hb, hbefore, hafter⟩
        · obtain rfl : current = ctor := Option.some.inj he
          exact .inl ⟨rfl, List.forall_mem_cons.mpr ⟨fun _ => hle, hrest⟩⟩
        · have hn : next.params.length < ctor.params.length :=
            Nat.lt_of_le_of_lt hle (hb current rfl)
          exact .inr ⟨next :: before, after, rfl, hc, hb,
            List.forall_mem_cons.mpr ⟨fun _ => hn, hbefore⟩, hafter⟩
    · rw [List.filter_cons_of_neg hp] at h
      rcases ih h with ⟨hb, hrest⟩ | ⟨before, after, rfl, hc, hb, hbefore, hafter⟩
      · exact .inl ⟨hb, List.forall_mem_cons.mpr ⟨fun hpub => absurd hpub hp, hrest⟩⟩
      · exact .inr ⟨next :: before, after, rfl, hc, hb,
          List.forall_mem_cons.mpr ⟨fun hpub => absurd hpub hp, hbefore⟩, hafter⟩

theorem isBest_of_bestPublicConstructor? {info : TypeInfo}
    (h : info.bestPublicConstructor? = some ctor) : info.IsBest ctor := by
  rcases foldl_better h with ⟨hn, -⟩ | ⟨before, after, hs, hp, -, hbefore, hafter⟩
  · cases hn
  · exact ⟨before, after, hs, hp, hbefore, hafter⟩

end TypeInfo

-- ---------------------------------------------------------------------------
-- Nodes
-- ---------------------------------------------------------------------------

def BindingSource.takesKey : BindingSource → Bool
  | .route | .query | .header | .form => true
  | _ => false

namespace EndpointParameter

structure Keeps (bound : EndpointParameter) (param : Parameter) : Prop where
  name : bound.name = param.name
  ty : bound.ty = param.ty
  nullable : bound.nullable = param.nullable

structure Fitting (node : EndpointParameter) : Prop where
  key : node.key.isSome = node.source.takesKey
  children : node.children ≠ [] → node.source = .asParameters ∨ node.source = .form
  emptyBody : node.allowEmptyBody = true → node.source = .body

/-- A node that fits together with all that is below it. No group stands below any node, nothing but
parts of a form below a form, and the members of a group are the parameters of its type's best
public constructor, in order. -/
structure WellFormed (view : TypeView) (node : EndpointParameter) : Prop extends node.Fitting where
  noGroup : ∀ inner, InForest node.children inner → inner.source ≠ .asParameters
  formLike : node.source = .form →
    ∀ inner, InForest node.children inner → inner.source.isFormLike = true
  members : node.source = .asParameters →
    ∃ info ctor, view.symbols.typeInfo? node.ty = some info ∧ info.IsBest ctor ∧
      List.Forall₂ Keeps node.children ctor.params

def FormTree (bound : EndpointParameter) : Prop :=
  ∀ node, InForest [bound] node → node.Fitting ∧ node.source.isFormLike = true

/-- A parameter that is no group: a single value, or a form with all that is below it. -/
inductive Simple (bound : EndpointParameter) : Prop
  | single : bound.Fitting → bound.children = [] → bound.source ≠ .asParameters → Simple bound
  | form : bound.FormTree → Simple bound

section
variable {param : Parameter} {source : BindingSource} {bound node : EndpointParameter}

theorem Keeps.ofParameter (source : BindingSource) :
    (EndpointParameter.ofParameter param source).Keeps param :=
  ⟨rfl, rfl, rfl⟩

theorem Keeps.keyed (source : BindingSource) (name : Option String) :
    (EndpointParameter.keyed param source name).Keeps param :=
  ⟨rfl, rfl, rfl⟩

theorem Fitting.ofParameter (h : source.takesKey = false) :
    (EndpointParameter.ofParameter param source).Fitting :=
  ⟨h.symm, fun hc => absurd rfl hc, nofun⟩

theorem Fitting.keyed (h : source.takesKey = true) (name : Option String) :
    (EndpointParameter.keyed param source name).Fitting :=
  ⟨h.symm, fun hc => absurd rfl hc, nofun⟩

theorem not_inForest_nil (node : EndpointParameter) : ¬InForest [] node := by
  rw [← mem_flattenList]
  exact nofun

theorem inForest_singleton :
    InForest [bound] node ↔ node = bound ∨ InForest bound.children node := by
  rw [← mem_flattenList, ← mem_flattenList, flattenList_cons, List.mem_cons]
  simp [flattenList]

theorem inForest_iff {params : List EndpointParameter} :
    InForest params node ↔ ∃ param ∈ params, InForest [param] node := by
  simp only [← mem_flattenList, flattenList_eq, List.flatMap_singleton, List.mem_flatMap]

theorem InForest.trans {params : List EndpointParameter} {inner : EndpointParameter}
    (h : InForest params node) (hi : InForest node.children inner) : InForest params inner := by
  induction hi with
  | root hc => exact h.child hc
  | child _ hc ih => exact ih.child hc

theorem source_ne_of_isFormLike (h : node.source.isFormLike = true) :
    node.source ≠ .asParameters := by
  intro hs
  rw [hs] at h
  cases h

theorem FormTree.of_children (hf : bound.Fitting)
    (hs : bound.source.isFormLike = true) (hc : ∀ child ∈ bound.children, child.FormTree) :
    bound.FormTree := by
  intro node hn
  rcases inForest_singleton.mp hn with rfl | hn
  · exact ⟨hf, hs⟩
  · obtain ⟨child, hm, hn⟩ := inForest_iff.mp hn
    exact hc child hm node hn

theorem Simple.ofParameter (hk : source.takesKey = false) (hs : source ≠ .asParameters) :
    (EndpointParameter.ofParameter param source).Simple :=
  .single (.ofParameter hk) rfl hs

theorem Simple.keyed (hk : source.takesKey = true) (name : Option String) :
    (EndpointParameter.keyed param source name).Simple := by
  refine .single (.keyed hk name) rfl fun hs => ?_
  obtain rfl : source = .asParameters := hs
  cases hk

theorem Simple.wellFormed (h : bound.Simple) (view : TypeView) (hn : InForest [bound] node) :
    node.WellFormed view ∧ node.source ≠ .asParameters := by
  cases h with
  | single hf hc hs =>
    have hempty (inner) : ¬InForest bound.children inner := by
      rw [hc]
      exact not_inForest_nil inner
    obtain rfl : node = bound := (inForest_singleton.mp hn).resolve_right (hempty node)
    exact ⟨⟨hf, fun inner hi => absurd hi (hempty inner),
      fun _ inner hi => absurd hi (hempty inner), fun hg => absurd hg hs⟩, hs⟩
  | form hall =>
    have hbelow (inner) (hi : InForest node.children inner) : inner.source.isFormLike = true :=
      (hall inner (hn.trans hi)).2
    have hs : node.source ≠ .asParameters := source_ne_of_isFormLike (hall node hn).2
    exact ⟨⟨(hall node hn).1, fun inner hi => source_ne_of_isFormLike (hbelow inner hi),
      fun _ => hbelow, fun hg => absurd hg hs⟩, hs⟩

end

end EndpointParameter

open EndpointParameter (InForest Keeps Simple inForest_singleton inForest_iff)

-- ---------------------------------------------------------------------------
-- Rules
-- ---------------------------------------------------------------------------

theorem allBound_members {P : EndpointParameter → Prop} {f : Parameter → Bound}
    {params : List Parameter}
    (hf : ∀ param bound, f param = some bound → bound.Keeps param ∧ P bound)
    (h : allBound (params.map f) = some children) :
    List.Forall₂ Keeps children params ∧ ∀ child ∈ children, P child := by
  induction params generalizing children with
  | nil =>
    obtain rfl : [] = children := by simpa [allBound] using h
    exact ⟨.nil, by simp⟩
  | cons param rest ih =>
    simp only [allBound, List.map_cons, List.mapM_cons, id, Option.bind_eq_bind,
      Option.bind_eq_some_iff] at h
    obtain ⟨bound, hb, others, ho, he⟩ := h
    obtain rfl : bound :: others = children := Option.some.inj he
    obtain ⟨hk, hp⟩ := hf param bound hb
    obtain ⟨hkeeps, hall⟩ := ih ho
    exact ⟨.cons hk hkeeps, List.forall_mem_cons.mpr ⟨hp, hall⟩⟩

namespace TypeView

section
variable {view : TypeView} {cx : BindingContext} {param : Parameter}

theorem uploadSource?_isFormLike (h : param.uploadSource? = some source) :
    source.isFormLike = true ∧ source.takesKey = false := by
  unfold Parameter.uploadSource? at h
  split at h <;> cases h <;> exact ⟨rfl, rfl⟩

theorem bindFormWithin_form (h : (view.bindFormWithin depth path param name).value = some bound) :
    bound.Keeps param ∧ bound.FormTree := by
  fun_induction view.bindFormWithin depth path param name generalizing bound with
  | case1 depth path param name source hs =>
    obtain rfl : EndpointParameter.ofParameter param source = bound := Option.some.inj h
    obtain ⟨hl, hk⟩ := uploadSource?_isFormLike hs
    exact ⟨.ofParameter source, .of_children (.ofParameter hk) hl nofun⟩
  | case2 depth path param name =>
    obtain rfl : EndpointParameter.keyed param .form name = bound := Option.some.inj h
    exact ⟨.keyed .form name, .of_children (.keyed rfl name) rfl nofun⟩
  | case3 | case5 => cases h
  | case4 path param name _ _ ctor depth _ _ ih =>
    simp only [Logged.value_bind, Logged.value_mapM, Logged.value_pure,
      Option.map_eq_some_iff] at h
    obtain ⟨children, hc, rfl⟩ := h
    have hmembers := (allBound_members (fun child bound hv => ih child hv) hc).2
    exact ⟨⟨rfl, rfl, rfl⟩, .of_children ⟨rfl, fun _ => .inr rfl, nofun⟩ rfl hmembers⟩

theorem bound_or_reject {condition : Bool} {bound other : EndpointParameter}
    (h : (if condition then pure (some bound) else rejectType code param).value = some other) :
    bound = other := by
  cases condition with
  | true => exact Option.some.inj h
  | false => cases h

theorem bindFallback_bound (h : (view.bindFallback cx param).value = some bound) :
    bound = .ofParameter param .service ∨ bound = .ofParameter param .body := by
  unfold bindFallback at h
  split at h
  · exact .inl (Option.some.inj h).symm
  · split at h
    · split at h
      · exact .inr (Option.some.inj h).symm
      · exact .inl (Option.some.inj h).symm
    · exact .inl (Option.some.inj h).symm

theorem applyRule?_bound {group : Parameter → Logged Bound} {result : Logged Bound}
    (hr : view.applyRule? group cx param rule = some result) (h : result.value = some bound) :
    bound.Keeps param ∧ bound.Simple ∨ (group param).value = some bound := by
  cases rule with
  | parameterGroup =>
    simp only [applyRule?] at hr
    split at hr
    · cases hr; exact .inr h
    · cases hr
  | explicitBody =>
    simp only [applyRule?] at hr
    split at hr
    · cases hr
      obtain rfl := Option.some.inj h
      exact .inl ⟨⟨rfl, rfl, rfl⟩, .single ⟨rfl, fun hc => absurd rfl hc, fun _ => rfl⟩ rfl
        (by simp [EndpointParameter.ofParameter])⟩
    · cases hr
  | explicitForm =>
    simp only [applyRule?] at hr
    split at hr
    · cases hr
      obtain ⟨hk, hf⟩ := bindFormWithin_form h
      exact .inl ⟨hk, .form hf⟩
    · cases hr
  | explicitService =>
    simp only [applyRule?] at hr
    split at hr
    · cases hr
      obtain rfl := Option.some.inj h
      exact .inl ⟨.ofParameter _, .ofParameter rfl (by simp)⟩
    · cases hr
      obtain rfl := Option.some.inj h
      exact .inl ⟨.ofParameter _, .ofParameter rfl (by simp)⟩
    · cases hr
  | explicitHeader | explicitRoute | explicitQuery | implicitRoute =>
    simp only [applyRule?] at hr
    split at hr
    · cases hr
      obtain rfl := bound_or_reject h
      exact .inl ⟨.keyed _ _, .keyed rfl _⟩
    · cases hr
  | specialRole =>
    obtain ⟨role, -, rfl⟩ := Option.map_eq_some_iff.mp hr
    obtain rfl := Option.some.inj h
    exact .inl ⟨.ofParameter _, by cases role <;> exact .ofParameter rfl (by decide)⟩
  | implicitQuery =>
    simp only [applyRule?] at hr
    split at hr
    · cases hr
      obtain rfl := Option.some.inj h
      exact .inl ⟨.keyed _ _, .keyed rfl _⟩
    · cases hr
  | customParsing =>
    simp only [applyRule?] at hr
    split at hr
    · cases hr
      obtain rfl := Option.some.inj h
      exact .inl ⟨.keyed _ _, by split <;> exact .keyed rfl _⟩
    · cases hr
      obtain rfl := Option.some.inj h
      exact .inl ⟨.ofParameter _, .ofParameter rfl (by simp)⟩
    · cases hr
      obtain rfl := Option.some.inj h
      exact .inl ⟨.ofParameter _, .ofParameter rfl (by simp)⟩
    · cases hr
  | fallback =>
    cases hr
    rcases bindFallback_bound h with rfl | rfl
    · exact .inl ⟨.ofParameter _, .ofParameter rfl (by simp)⟩
    · exact .inl ⟨.ofParameter _, .ofParameter rfl (by simp)⟩

theorem classifyWith_bound {group : Parameter → Logged Bound}
    (h : (view.classifyWith group cx param).value = some bound) :
    bound.Keeps param ∧ bound.Simple ∨ (group param).value = some bound := by
  unfold classifyWith at h
  split at h
  · next rule result hr =>
    obtain ⟨other, -, ho⟩ := List.exists_of_findSome?_eq_some hr
    obtain ⟨applied, ha, he⟩ := Option.map_eq_some_iff.mp ho
    cases he
    rw [Logged.value_bind, value_decided] at h
    exact applyRule?_bound ha h
  · cases h

theorem classifyChild_bound (h : (view.classifyChild cx param child).value = some bound) :
    bound.Keeps child ∧ bound.Simple := by
  unfold classifyChild at h
  split at h
  · cases h
  · exact (classifyWith_bound h).resolve_right nofun

theorem expandGroup_bound (h : (view.expandGroup cx param).value = some bound) :
    bound.Keeps param ∧ ∀ node, InForest [bound] node → node.WellFormed view := by
  unfold expandGroup at h
  split at h
  · cases h
  · split at h
    · cases h
    · next ctor hctor =>
      simp only [Logged.value_bind, Logged.value_mapM, Logged.value_pure,
        Option.map_eq_some_iff] at h
      obtain ⟨children, hc, rfl⟩ := h
      obtain ⟨info, hi, hb⟩ := Option.bind_eq_some_iff.mp hctor
      obtain ⟨hkeeps, hsimple⟩ :=
        allBound_members (fun child bound hv => classifyChild_bound hv) hc
      refine ⟨⟨rfl, rfl, rfl⟩, fun node hn => ?_⟩
      rcases inForest_singleton.mp hn with rfl | hn
      · refine ⟨⟨rfl, fun _ => .inl rfl, nofun⟩, fun inner hi => ?_, nofun,
          fun _ => ⟨info, ctor, hi, TypeInfo.isBest_of_bestPublicConstructor? hb, hkeeps⟩⟩
        obtain ⟨child, hm, hi⟩ := inForest_iff.mp hi
        exact ((hsimple child hm).wellFormed view hi).2
      · obtain ⟨child, hm, hn⟩ := inForest_iff.mp hn
        exact ((hsimple child hm).wellFormed view hn).1

/-- What a bound parameter keeps of its declaration, and what holds at each node of its tree. -/
theorem classify_wellFormed (h : (view.classify cx param).value = some bound) :
    bound.Keeps param ∧ ∀ node, InForest [bound] node → node.WellFormed view := by
  rcases classifyWith_bound h with ⟨hk, hs⟩ | hg
  · exact ⟨hk, fun node hn => (hs.wellFormed view hn).1⟩
  · exact expandGroup_bound hg

end

-- ---------------------------------------------------------------------------
-- Handlers
-- ---------------------------------------------------------------------------

section
variable (view : TypeView)

def binds (handler : Handler) (param : Parameter) : Bool :=
  (view.classify (.ofHandler handler) param).value.isSome

theorem classifyHandler_of_not_aborted {handler : Handler}
    (h : (view.classifyHandler handler).value.aborted = false) :
    (view.classifyHandler handler).value = .ofResults
      (handler.parameters.map fun param => (view.classify (.ofHandler handler) param).value) := by
  revert h
  unfold classifyHandler
  split
  · exact nofun
  · simp only [Logged.value_bind, Logged.value_mapM]
    split
    · split
      · exact nofun
      · exact fun _ => rfl
    · exact fun _ => rfl

theorem length_ofResults (results : List Bound) :
    (Classification.ofResults results).parameters.length +
      (Classification.ofResults results).failed = results.length := by
  have hbound : (results.filterMap id).length = results.countP Option.isSome :=
    List.length_filterMap_eq_countP
  have hrejected : results.countP Option.isNone = results.countP fun result => ¬result.isSome :=
    List.countP_congr fun result _ => by cases result <;> simp
  simp only [Classification.ofResults]
  rw [hbound, hrejected, ← List.length_eq_countP_add_countP]

theorem boundParameters_keeps (handler : Handler) :
    List.Forall₂ Keeps (view.boundParameters handler)
      (handler.parameters.filter (view.binds handler)) := by
  unfold boundParameters
  let f := fun param => (view.classify (.ofHandler handler) param).value
  induction handler.parameters with
  | nil => exact .nil
  | cons param rest ih =>
    cases hb : (view.classify (.ofHandler handler) param).value with
    | none =>
      have hn : ¬view.binds handler param = true := by simp [binds, hb]
      rw [List.filterMap_cons_none (f := f) hb, List.filter_cons_of_neg hn]
      exact ih
    | some bound =>
      have hp : view.binds handler param = true := by simp [binds, hb]
      rw [List.filterMap_cons_some (f := f) hb, List.filter_cons_of_pos hp]
      exact .cons (classify_wellFormed hb).1 ih

end

end TypeView

/-- Unless a handler is given up, each of its parameters is bound or counts as rejected, and those
that are bound keep their order, name, type and nullability. All nodes of their trees are well
formed. -/
theorem bound_trees_wellFormed (view : TypeView) (handler : Handler)
    (h : (view.classifyHandler handler).value.aborted = false) :
    let result := (view.classifyHandler handler).value
    result.parameters.length + result.failed = handler.parameters.length ∧
      List.Forall₂ Keeps result.parameters (handler.parameters.filter (view.binds handler)) ∧
      ∀ node, InForest result.parameters node → node.WellFormed view := by
  intro result
  have hr : result = .ofResults (handler.parameters.map fun param =>
      (view.classify (.ofHandler handler) param).value) :=
    view.classifyHandler_of_not_aborted h
  have hp : result.parameters = view.boundParameters handler := by
    rw [hr, ← view.parameters_ofResults handler, Logged.value_mapM]
  refine ⟨?_, ?_, fun node hn => ?_⟩
  · rw [hr, TypeView.length_ofResults, List.length_map]
  · rw [hp]
    exact view.boundParameters_keeps handler
  · obtain ⟨bound, hb, hn⟩ := inForest_iff.mp (hp ▸ hn)
    obtain ⟨param, -, hv⟩ := List.mem_filterMap.mp hb
    exact (TypeView.classify_wellFormed hv).2 node hn

def searchTypes : List TypeInfo :=
  [{ ty := .named "Place"
     kind := .struct
     constructors :=
       [{ params := [{ name := "street", ty := .named "String" }], isPublic := true },
        { params := [{ name := "street", ty := .named "String" },
            { name := "number", ty := .named "u32", nullable := true }], isPublic := true }] },
   { ty := .named "Search"
     kind := .struct
     constructors :=
       [{ params := [{ name := "page", ty := .named "u32" },
            { name := "around", ty := .named "Place", annotation := some (.form none) }]
          isPublic := true },
        { params := [{ name := "a", ty := .named "u32" }, { name := "b", ty := .named "u32" },
            { name := "c", ty := .named "u32" }], isPublic := false }] }]

/-- Takes a group with a form in it, and a header that cannot be read. -/
def searchHandler : Handler where
  id := .function "search"
  name := "search"
  verb := .post
  returnType := ⟨"ApiResult", [.unit]⟩
  parameters :=
    [{ name := "trace", ty := .named "Place", annotation := some (.header none) },
     { name := "search", ty := .named "Search", annotation := some .asParameters }]

theorem bound_trees_wellFormed_search :
    let view : TypeView := ⟨.ofTypes searchTypes, {}⟩
    let result := (view.classifyHandler searchHandler).value
    result.aborted = false ∧ result.failed = 1 ∧
      (EndpointParameter.flattenList result.parameters).length = 5 ∧
      result.parameters.length + result.failed = searchHandler.parameters.length ∧
      List.Forall₂ Keeps result.parameters
        (searchHandler.parameters.filter (view.binds searchHandler)) ∧
      ∀ node, InForest result.parameters node → node.WellFormed view := by
  intro view result
  have h : result.aborted = false := by decide +kernel
  exact ⟨h, by decide +kernel, by decide +kernel, bound_trees_wellFormed view searchHandler h⟩

end EndpointInference

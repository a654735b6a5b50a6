import EndpointInference.Proofs.BoundTree
import EndpointInference.Proofs.Lists
import Mathlib.Data.List.Perm.Subperm
import Mathlib.Logic.Relation

/-!
# What can be bound from a form

A parameter can be bound from a form if it is a field, or if its type has a constructor all of whose
parameters can (`FormBindable`, the least such set). What it is bound to is then its `Expansion`, a
finite tree. The graph of constructors may have cycles: binding keeps the types it is inside of on a
path, and turns away a type that it meets again there.

`bindFormWithin_runs`: binding ends before the depth does (`FormRun` knows of no depth). Parts of a
type with a finite expansion never lead back to it (`Expansion.acc`), so what is met again on the
path has none, and nothing else is turned away (`form_binding_exact`).
-/

namespace EndpointInference

-- ---------------------------------------------------------------------------
-- The constructor that counts
-- ---------------------------------------------------------------------------

namespace TypeInfo

theorem foldl_better_of_le {ctors : List Constructor}
    (h : ∀ other ∈ ctors, other.isPublic = true → other.params.length ≤ ctor.params.length) :
    (ctors.filter (·.isPublic)).foldl better (some ctor) = some ctor := by
  induction ctors with
  | nil => rfl
  | cons next rest ih =>
    have hrest := ih fun other ho => h other (List.mem_cons_of_mem _ ho)
    by_cases hp : next.isPublic = true
    · have hle : next.params.length ≤ ctor.params.length := h next List.mem_cons_self hp
      rw [List.filter_cons_of_pos hp, List.foldl_cons, better, if_pos hle]
      exact hrest
    · rw [List.filter_cons_of_neg hp]
      exact hrest

theorem bestPublicConstructor?_eq_some_iff {info : TypeInfo} :
    info.bestPublicConstructor? = some ctor ↔ info.IsBest ctor := by
  refine ⟨isBest_of_bestPublicConstructor?, ?_⟩
  rintro ⟨before, after, hs, hp, hbefore, hafter⟩
  have hnext : better ((before.filter (·.isPublic)).foldl better none) ctor = some ctor := by
    cases hb : (before.filter (·.isPublic)).foldl better none with
    | none => rfl
    | some current =>
      have hlt : current.params.length < ctor.params.length := by
        obtain ⟨hn, -⟩ | ⟨_, _, rfl, hc, -⟩ := foldl_better hb
        · cases hn
        · exact hbefore current (by simp) hc
      exact if_neg (by omega)
  rw [bestPublicConstructor?, hs, List.filter_append, List.filter_cons_of_pos hp,
    List.foldl_append, List.foldl_cons, hnext]
  exact foldl_better_of_le hafter

end TypeInfo

namespace TypeView

theorem constructor?_eq_some_iff {view : TypeView} {ty : TypeRef} :
    view.constructor? ty = some ctor ↔
      ∃ info, view.symbols.typeInfo? ty = some info ∧ info.IsBest ctor := by
  simp only [constructor?, Option.bind_eq_some_iff, TypeInfo.bestPublicConstructor?_eq_some_iff]

-- ---------------------------------------------------------------------------
-- The cases of binding from a form
-- ---------------------------------------------------------------------------

inductive FormShape
  | upload (source : BindingSource)
  | field
  | composite (ctor : Constructor)
  | unfit

def formShape (view : TypeView) (param : Parameter) : FormShape :=
  match param.uploadSource? with
  | some source => .upload source
  | none =>
    if view.isScalar param || view.isCollectionOfPrimitives param then .field
    else
      match view.constructor? param.ty with
      | some ctor => if param.isCollection then .unfit else .composite ctor
      | none => .unfit

def bindComposite (param : Parameter) (name : Option String) (ctor : Constructor)
    (result : Parameter → Logged Bound) : Logged Bound := do
  let results ← ctor.params.mapM result
  return (allBound results).map fun children =>
    { EndpointParameter.keyed param .form name with children }

/-- Binding from a form, with no bound on the depth: a derivation is a run that comes to an end. -/
inductive FormRun (view : TypeView) :
    List TypeRef → Parameter → Option String → Logged Bound → Prop
  | upload {path param name source} : view.formShape param = .upload source →
      FormRun view path param name (pure (some (.ofParameter param source)))
  | field {path param name} : view.formShape param = .field →
      FormRun view path param name (pure (some (.keyed param .form name)))
  | unfit {path param name} : view.formShape param = .unfit →
      FormRun view path param name (rejectType .invalidFormType param)
  /-- The type is being bound already. -/
  | inside {path param name ctor} : view.formShape param = .composite ctor → param.ty ∈ path →
      FormRun view path param name (rejectType .invalidFormType param)
  | composite {path param name ctor result} : view.formShape param = .composite ctor →
      param.ty ∉ path →
      (∀ child ∈ ctor.params, FormRun view (param.ty :: path) child child.formName (result child)) →
      FormRun view path param name (bindComposite param name ctor result)

def FormCalls (view : TypeView) (caller callee : List TypeRef × Parameter) : Prop :=
  ∃ ctor, view.formShape caller.2 = .composite ctor ∧ caller.2.ty ∉ caller.1 ∧
    callee.2 ∈ ctor.params ∧ callee.1 = caller.2.ty :: caller.1

/-- What can be bound from a form: uploads, primitive types and collections of them, and what has a
constructor with such parameters only. -/
inductive FormBindable (view : TypeView) : Parameter → Prop
  | upload {param role} : param.special = some role →
      role ∈ [SpecialRole.formFile, .formFileCollection, .formCollection] →
      FormBindable view param
  | field {param} : (param.isCollection = false ∧ view.isPrimitive param.ty = true) ∨
      (∃ element, param.element = some element ∧ view.isPrimitive element = true) →
      FormBindable view param
  | composite {param info ctor} : param.isCollection = false →
      view.symbols.typeInfo? param.ty = some info → info.IsBest ctor →
      (∀ child ∈ ctor.params, FormBindable view child) → FormBindable view param

/-- The finite tree that a parameter is bound to, with a child for each parameter of the
constructor. -/
inductive Expansion (view : TypeView) : Parameter → Option String → EndpointParameter → Prop
  | upload {param name source} : view.formShape param = .upload source →
      Expansion view param name (.ofParameter param source)
  | field {param name} : view.formShape param = .field →
      Expansion view param name (.keyed param .form name)
  | composite {param name ctor expand} : view.formShape param = .composite ctor →
      (∀ child ∈ ctor.params, Expansion view child child.formName (expand child)) →
      Expansion view param name
        { EndpointParameter.keyed param .form name with children := ctor.params.map expand }

section
variable {view : TypeView} {param : Parameter} {name : Option String} {path : List TypeRef}

theorem formShape_eq_upload_iff :
    view.formShape param = .upload source ↔ param.uploadSource? = some source := by
  unfold formShape
  cases param.uploadSource? with
  | some other => simp
  | none =>
    cases view.isScalar param || view.isCollectionOfPrimitives param <;>
      cases view.constructor? param.ty <;> cases param.isCollection <;> simp

theorem formShape_eq_field_iff :
    view.formShape param = .field ↔ param.uploadSource? = none ∧
      (view.isScalar param || view.isCollectionOfPrimitives param) = true := by
  unfold formShape
  cases param.uploadSource? with
  | some other => simp
  | none =>
    cases view.isScalar param || view.isCollectionOfPrimitives param <;>
      cases view.constructor? param.ty <;> cases param.isCollection <;> simp

theorem formShape_eq_composite_iff :
    view.formShape param = .composite ctor ↔ param.uploadSource? = none ∧
      (view.isScalar param || view.isCollectionOfPrimitives param) = false ∧
        param.isCollection = false ∧ view.constructor? param.ty = some ctor := by
  unfold formShape
  cases param.uploadSource? with
  | some other => simp
  | none =>
    cases view.isScalar param || view.isCollectionOfPrimitives param <;>
      cases view.constructor? param.ty <;> cases param.isCollection <;> simp

theorem constructor?_of_composite (hs : view.formShape param = .composite ctor) :
    view.constructor? param.ty = some ctor := by
  obtain ⟨-, -, -, hc⟩ := formShape_eq_composite_iff.mp hs
  exact hc

theorem bindFormWithin_eq (view : TypeView) (depth : Nat) (path : List TypeRef)
    (param : Parameter) (name : Option String) :
    view.bindFormWithin depth path param name =
      match view.formShape param, depth with
      | .upload source, _ => pure (some (.ofParameter param source))
      | .field, _ => pure (some (.keyed param .form name))
      | .composite ctor, depth + 1 =>
        if path.contains param.ty then rejectType .invalidFormType param
        else bindComposite param name ctor fun child =>
          view.bindFormWithin depth (param.ty :: path) child child.formName
      | _, _ => rejectType .invalidFormType param := by
  rw [bindFormWithin.eq_def]
  cases hu : param.uploadSource? with
  | some source => simp only [formShape, hu]
  | none =>
    cases hf : view.isScalar param || view.isCollectionOfPrimitives param with
    | true => simp only [formShape, hu, hf, if_true]
    | false =>
      cases hc : view.constructor? param.ty with
      | none => simp only [formShape, hu, hf, hc]; rfl
      | some ctor =>
        cases hl : param.isCollection <;> cases depth <;>
          simp only [formShape, hu, hf, hc, hl, bindComposite] <;> rfl

-- ---------------------------------------------------------------------------
-- Binding ends
-- ---------------------------------------------------------------------------

/-- The depth is never used up: the types on the path differ from each other, and all of them are
among the types that occur. -/
theorem bindFormWithin_runs {types : List TypeRef}
    (hparts : ∀ ty ctor, view.constructor? ty = some ctor → ∀ child ∈ ctor.params, child.ty ∈ types)
    {depth : Nat} (hty : param.ty ∈ types) (hpath : path ⊆ types) (hnodup : path.Nodup)
    (hdepth : types.length < depth + path.length) :
    FormRun view path param name (view.bindFormWithin depth path param name) := by
  induction depth generalizing path param name with
  | zero =>
    rw [bindFormWithin_eq]
    cases hs : view.formShape param with
    | upload source => exact .upload hs
    | field => exact .field hs
    | unfit => exact .unfit hs
    | composite ctor =>
      refine .inside hs ?_
      by_contra hn
      have hlonger : (param.ty :: path).length ≤ types.length :=
        ((List.nodup_cons.mpr ⟨hn, hnodup⟩).subperm
          (List.cons_subset.mpr ⟨hty, hpath⟩)).length_le
      rw [List.length_cons] at hlonger
      omega
  | succ depth ih =>
    rw [bindFormWithin_eq]
    cases hs : view.formShape param with
    | upload source => exact .upload hs
    | field => exact .field hs
    | unfit => exact .unfit hs
    | composite ctor =>
      by_cases hm : param.ty ∈ path
      · simp only [List.contains_eq_mem, hm, decide_true, if_true]
        exact .inside hs hm
      · simp only [List.contains_eq_mem, hm, decide_false, Bool.false_eq_true, if_false]
        refine .composite hs hm fun child hc => ?_
        apply ih (hparts _ _ (constructor?_of_composite hs) child hc)
        · exact List.cons_subset.mpr ⟨hty, hpath⟩
        · exact List.nodup_cons.mpr ⟨hm, hnodup⟩
        · rw [List.length_cons]
          omega

theorem bindForm_runs (view : TypeView) (param : Parameter) (name : Option String) :
    FormRun view [] param name (view.bindForm param name) := by
  have hparts (ty ctor) (hctor : view.constructor? ty = some ctor) (child)
      (hc : child ∈ ctor.params) : child.ty ∈ param.ty :: view.symbols.memberTypes := by
    obtain ⟨info, hi, before, after, hs, -⟩ := constructor?_eq_some_iff.mp hctor
    exact List.mem_cons_of_mem _
      (view.symbols.mem_memberTypes ty info hi ctor (by simp [hs]) child hc)
  exact bindFormWithin_runs hparts List.mem_cons_self (List.nil_subset _) List.nodup_nil
    (by simp)

theorem FormRun.unique {first second : Logged Bound} (h : FormRun view path param name first)
    (h' : FormRun view path param name second) : first = second := by
  induction h generalizing second with
  | upload hs => cases h' <;> simp_all
  | field hs => cases h' <;> simp_all
  | unfit hs => cases h' <;> simp_all
  | inside hs hm => cases h' <;> simp_all
  | composite hs hm _ ih =>
    cases h' with
    | composite hs' _ hc =>
      obtain rfl := FormShape.composite.inj (hs.symm.trans hs')
      rw [bindComposite, bindComposite, mapM_congr fun child hin => ih child hin (hc child hin)]
    | inside _ hm' => exact absurd hm' hm
    | _ => simp_all

-- ---------------------------------------------------------------------------
-- Finite expansions
-- ---------------------------------------------------------------------------

theorem uploadSource?_isSome_iff :
    param.uploadSource?.isSome ↔ ∃ role, param.special = some role ∧
      role ∈ [SpecialRole.formFile, .formFileCollection, .formCollection] := by
  cases hr : param.special with
  | none => simp [Parameter.uploadSource?, hr]
  | some role => cases role <;> simp [Parameter.uploadSource?, hr]

theorem isField_iff :
    (view.isScalar param || view.isCollectionOfPrimitives param) = true ↔
      param.isCollection = false ∧ view.isPrimitive param.ty = true ∨
        ∃ element, param.element = some element ∧ view.isPrimitive element = true := by
  simp [isScalar, isCollectionOfPrimitives, Option.any_eq_true]

theorem Expansion.bindable (h : Expansion view param name bound) : FormBindable view param := by
  induction h with
  | upload hs =>
    have hsome := Option.isSome_of_eq_some (formShape_eq_upload_iff.mp hs)
    obtain ⟨role, hr, hm⟩ := uploadSource?_isSome_iff.mp hsome
    exact .upload hr hm
  | field hs =>
    obtain ⟨-, hf⟩ := formShape_eq_field_iff.mp hs
    exact .field (isField_iff.mp hf)
  | composite hs _ ih =>
    obtain ⟨-, -, hl, hc⟩ := formShape_eq_composite_iff.mp hs
    obtain ⟨info, hi, hb⟩ := constructor?_eq_some_iff.mp hc
    exact .composite hl hi hb ih

/-- A parameter that several cases fit is expanded as the first of them says. -/
theorem FormBindable.exists_expansion (h : FormBindable view param) :
    ∀ name, ∃ bound, Expansion view param name bound := by
  induction h with
  | upload hr hm =>
    intro name
    obtain ⟨source, hu⟩ := Option.isSome_iff_exists.mp (uploadSource?_isSome_iff.mpr ⟨_, hr, hm⟩)
    exact ⟨_, .upload (formShape_eq_upload_iff.mpr hu)⟩
  | @field param hf =>
    intro name
    cases hu : param.uploadSource? with
    | some source => exact ⟨_, .upload (formShape_eq_upload_iff.mpr hu)⟩
    | none => exact ⟨_, .field (formShape_eq_field_iff.mpr ⟨hu, isField_iff.mpr hf⟩)⟩
  | @composite param info ctor hl hi hb _ ih =>
    intro name
    cases hu : param.uploadSource? with
    | some source => exact ⟨_, .upload (formShape_eq_upload_iff.mpr hu)⟩
    | none =>
      cases hf : view.isScalar param || view.isCollectionOfPrimitives param with
      | true => exact ⟨_, .field (formShape_eq_field_iff.mpr ⟨hu, hf⟩)⟩
      | false =>
        have hc := constructor?_eq_some_iff.mpr ⟨info, hi, hb⟩
        choose! expand hexpand using fun child hm => ih child hm child.formName
        exact ⟨_, .composite (formShape_eq_composite_iff.mpr ⟨hu, hf, hl, hc⟩) hexpand⟩

-- ---------------------------------------------------------------------------
-- Types inside themselves
-- ---------------------------------------------------------------------------

def Part (view : TypeView) (inner outer : TypeRef) : Prop :=
  ∃ ctor child own, view.constructor? outer = some ctor ∧ child ∈ ctor.params ∧
    view.formShape child = .composite own ∧ child.ty = inner

/-- A type with a finite expansion has no endless chain of parts. -/
theorem Expansion.acc (h : Expansion view param name bound)
    (hs : view.formShape param = .composite own) : Acc view.Part param.ty := by
  induction h generalizing own with
  | upload hu => rw [hu] at hs; cases hs
  | field hf => rw [hf] at hs; cases hs
  | @composite param name ctor expand hc _ ih =>
    refine .intro _ ?_
    rintro _ ⟨other, child, childOwn, ho, hm, hchild, rfl⟩
    obtain rfl := Option.some.inj ((constructor?_of_composite hc).symm.trans ho)
    exact ih child hm hchild

def Within (view : TypeView) (path : List TypeRef) (param : Parameter) : Prop :=
  ∀ ctor, view.formShape param = .composite ctor →
    ∀ ty ∈ path, Relation.TransGen view.Part param.ty ty

theorem Within.child {child : Parameter} (h : view.Within path param)
    (hs : view.formShape param = .composite ctor) (hc : child ∈ ctor.params) :
    view.Within (param.ty :: path) child := by
  intro own hown ty ht
  have hpart : view.Part child.ty param.ty :=
    ⟨ctor, child, own, constructor?_of_composite hs, hc, hown, rfl⟩
  rcases List.mem_cons.mp ht with rfl | ht
  · exact .single hpart
  · exact .head hpart (h ctor hs ty ht)

theorem within_of_calls {call : List TypeRef × Parameter}
    (h : Relation.ReflTransGen view.FormCalls ([], param) call) :
    view.Within call.1 call.2 := by
  induction h with
  | refl => exact fun _ _ _ hm => absurd hm List.not_mem_nil
  | tail _ hstep ih =>
    obtain ⟨ctor, hs, -, hc, hp⟩ := hstep
    rw [hp]
    exact ih.child hs hc

/-- What is met again on the path has no finite expansion. -/
theorem Expansion.not_mem_path (h : Expansion view param name bound)
    (hw : view.Within path param) (hs : view.formShape param = .composite ctor) :
    param.ty ∉ path :=
  fun hm => not_transGen_self (h.acc hs) (hw ctor hs _ hm)

theorem allBound_map_of_forall {f : Parameter → Bound} {expand : Parameter → EndpointParameter}
    {params : List Parameter} (h : ∀ param ∈ params, f param = some (expand param)) :
    allBound (params.map f) = some (params.map expand) := by
  induction params with
  | nil => rfl
  | cons param rest ih =>
    have hrest := ih fun other ho => h other (List.mem_cons_of_mem _ ho)
    simp only [allBound] at hrest ⊢
    simp [h param List.mem_cons_self, hrest]

theorem exists_of_allBound_map {f : Parameter → Bound} {params : List Parameter}
    (h : allBound (params.map f) = some children) :
    ∃ expand : Parameter → EndpointParameter,
      (∀ param ∈ params, f param = some (expand param)) ∧ children = params.map expand := by
  have hsome : ∀ param ∈ params, ∃ bound, f param = some bound := by
    intro param hp
    rw [← Option.ne_none_iff_exists']
    intro hn
    have hnone : allBound (params.map f) = none :=
      allBound_eq_none_iff.mpr (List.mem_map.mpr ⟨param, hp, hn⟩)
    rw [h] at hnone
    cases hnone
  choose! expand hexpand using hsome
  refine ⟨expand, hexpand, ?_⟩
  rw [allBound_map_of_forall hexpand] at h
  exact (Option.some.inj h).symm

/-- On a path of types around the parameter, a run finds the expansion if there is one. -/
theorem FormRun.value_eq_some_iff (h : FormRun view path param name result)
    (hw : view.Within path param) :
    result.value = some bound ↔ Expansion view param name bound := by
  induction h generalizing bound with
  | @upload path param name source hs =>
    refine ⟨fun hv => ?_, fun he => ?_⟩
    · obtain rfl : EndpointParameter.ofParameter param source = bound := Option.some.inj hv
      exact .upload hs
    · cases he <;> simp_all
  | @field path param name hs =>
    refine ⟨fun hv => ?_, fun he => ?_⟩
    · obtain rfl : EndpointParameter.keyed param .form name = bound := Option.some.inj hv
      exact .field hs
    · cases he <;> simp_all
  | unfit hs =>
    refine ⟨nofun, fun he => ?_⟩
    cases he <;> simp_all
  | inside hs hm => exact ⟨nofun, fun he => absurd hm (he.not_mem_path hw hs)⟩
  | @composite path param name ctor result hs _ _ ih =>
    have hchild (child) (hc : child ∈ ctor.params) (below) :
        (result child).value = some below ↔ Expansion view child child.formName below :=
      ih child hc (hw.child hs hc)
    simp only [bindComposite, Logged.value_bind, Logged.value_mapM, Logged.value_pure,
      Option.map_eq_some_iff]
    constructor
    · rintro ⟨children, hall, rfl⟩
      obtain ⟨expand, hexpand, rfl⟩ := exists_of_allBound_map hall
      exact .composite hs fun child hc => (hchild child hc _).mp (hexpand child hc)
    · intro he
      cases he with
      | @composite _ _ other expand hs' hexpand =>
        obtain rfl := FormShape.composite.inj (hs.symm.trans hs')
        exact ⟨_, allBound_map_of_forall fun child hc => (hchild child hc _).mpr (hexpand child hc),
          rfl⟩
      | _ => simp_all

end

end TypeView

open TypeView in
/-- Binding a parameter from a form always ends, with the result of its only run. It binds exactly
what can be bound, and binds it to its expansion, the children of which are the parameters of the
constructor as they are bound by themselves. What is turned away because its type is being bound
already cannot be bound at all. -/
theorem form_binding_exact (view : TypeView) (param : Parameter) (name : Option String) :
    (∀ result, view.FormRun [] param name result ↔ result = view.bindForm param name) ∧
    ((view.bindForm param name).value.isSome ↔ view.FormBindable param) ∧
    (∀ bound, (view.bindForm param name).value = some bound ↔ view.Expansion param name bound) ∧
    (∀ bound ctor, (view.bindForm param name).value = some bound →
      view.formShape param = .composite ctor →
        List.Forall₂ EndpointParameter.Keeps bound.children ctor.params ∧
        List.Forall₂ (fun below child => (view.bindForm child child.formName).value = some below)
          bound.children ctor.params) ∧
    ∀ path inner ctor, Relation.ReflTransGen view.FormCalls ([], param) (path, inner) →
      view.formShape inner = .composite ctor → inner.ty ∈ path → ¬ view.FormBindable inner := by
  have hbinds (param name bound) :
      (view.bindForm param name).value = some bound ↔ view.Expansion param name bound :=
    (view.bindForm_runs param name).value_eq_some_iff (within_of_calls .refl)
  refine ⟨fun result => ⟨fun h => h.unique (view.bindForm_runs param name), ?_⟩, ?_, hbinds _ _,
    ?_, ?_⟩
  · rintro rfl
    exact view.bindForm_runs param name
  · rw [Option.isSome_iff_exists]
    constructor
    · rintro ⟨bound, hv⟩
      exact ((hbinds _ _ _).mp hv).bindable
    · intro h
      obtain ⟨bound, he⟩ := h.exists_expansion name
      exact ⟨bound, (hbinds _ _ _).mpr he⟩
  · intro bound ctor hv hs
    cases (hbinds _ _ _).mp hv with
    | @composite _ _ other expand hs' hexpand =>
      obtain rfl := FormShape.composite.inj (hs.symm.trans hs')
      have hchild (child) (hc : child ∈ ctor.params) := (hbinds _ _ _).mpr (hexpand child hc)
      simp only [List.forall₂_map_left_iff, List.forall₂_same]
      exact ⟨fun child hc => (bindFormWithin_form (hchild child hc)).1, hchild⟩
    | _ => simp_all
  · intro path inner ctor hcalls hs hm hb
    obtain ⟨bound, he⟩ := hb.exists_expansion none
    exact he.not_mem_path (within_of_calls hcalls) hs hm

end EndpointInference

import EndpointInference.Index.Resolve
import EndpointInference.Proofs.Naming
import Mathlib.Data.List.Induction

/-!
# Functions of modules

A name that is called is looked up in a list of modules, the first that has it counts. Without a
qualifier these are the modules around the call, from the inside (`findSome?_beginnings`); behind
`crate`, `self` or `super` it is one module (`moduleCandidates_supers`). Ids give back modules and
names, so what is found under an id is the function of that name in that module and no other
(`declares_iff`).
-/

namespace EndpointInference

open EndpointInference.Syntax

-- ---------------------------------------------------------------------------
-- Modules around a module
-- ---------------------------------------------------------------------------

theorem beginnings_concat (module : List String) (inner : String) :
    beginnings (module ++ [inner]) = (module ++ [inner]) :: beginnings module := by
  have hshorter : ∀ n ∈ (List.range (module.length + 1)).reverse,
      (module ++ [inner]).take n = module.take n := by
    intro n hn
    simp only [List.mem_reverse, List.mem_range] at hn
    exact List.take_append_of_le_length (by omega)
  rw [beginnings, beginnings, List.length_append, List.length_singleton, List.range_succ,
    List.reverse_append, List.reverse_singleton, List.singleton_append, List.map_cons,
    List.map_congr_left hshorter, List.take_of_length_le (by simp)]

theorem findSome?_beginnings {get : List String → Option α} {module : List String} {found : α} :
    (beginnings module).findSome? get = some found ↔
      ∃ outer, outer <+: module ∧ get outer = some found ∧
        ∀ longer, longer <+: module → outer.length < longer.length → get longer = none := by
  -- on the innermost module, which is asked first
  induction module using List.reverseRecOn with
  | nil =>
    have hb : (beginnings []).findSome? get = get [] := by
      simp [beginnings, List.range_succ]
    rw [hb]
    constructor
    · intro h
      refine ⟨[], List.prefix_rfl, h, fun longer hl hlt => ?_⟩
      simp [List.prefix_nil.mp hl] at hlt
    · rintro ⟨outer, hp, h, -⟩
      rwa [List.prefix_nil.mp hp] at h
  | append_singleton module inner ih =>
    rw [beginnings_concat, List.findSome?_cons]
    cases hg : get (module ++ [inner]) with
    | some here =>
      constructor
      · rintro ⟨rfl⟩
        refine ⟨_, List.prefix_rfl, hg, fun longer hl hlt => ?_⟩
        exact absurd hl.length_le (Nat.not_le_of_lt hlt)
      · rintro ⟨outer, hp, h, hlonger⟩
        rcases List.prefix_concat_iff.mp hp with rfl | hp
        · rw [← h, hg]
        · -- a shorter one would have been passed over for this one
          have hlt : outer.length < (module ++ [inner]).length := by
            have := hp.length_le
            simp only [List.length_append, List.length_singleton]
            omega
          rw [hlonger _ List.prefix_rfl hlt] at hg
          cases hg
    | none =>
      rw [ih]
      constructor
      · rintro ⟨outer, hp, h, hlonger⟩
        refine ⟨outer, hp.trans (List.prefix_append ..), h, fun longer hl hlt => ?_⟩
        rcases List.prefix_concat_iff.mp hl with rfl | hl
        · exact hg
        · exact hlonger longer hl hlt
      · rintro ⟨outer, hp, h, hlonger⟩
        rcases List.prefix_concat_iff.mp hp with rfl | hp
        · rw [hg] at h
          cases h
        · exact ⟨outer, hp, h, fun longer hl => hlonger longer (hl.trans (List.prefix_append ..))⟩

theorem moduleCandidates_supers (current path : List String) (count : Nat)
    (hp : path.head? ≠ some "super") :
    Index.moduleCandidates current (List.replicate (count + 1) "super" ++ path) =
      if count + 1 ≤ current.length then [current.take (current.length - (count + 1)) ++ path]
      else [] := by
  -- the first `super` is matched by itself, the others are counted
  have hsupers : ∀ part ∈ List.replicate count "super", (part == "super") = true := by
    intro part hm
    rw [List.eq_of_mem_replicate hm, beq_self_eq_true]
  have hpath : path.takeWhile (· == "super") = [] ∧ path.dropWhile (· == "super") = path := by
    cases path with
    | nil => exact ⟨rfl, rfl⟩
    | cons first rest =>
      have hne : (first == "super") = false := beq_false_of_ne fun h => hp (congrArg some h)
      simp [hne]
  have htake :
      ((List.replicate count "super" ++ path).takeWhile (· == "super")).length = count := by
    rw [List.takeWhile_append_of_pos hsupers, hpath.1, List.append_nil, List.length_replicate]
  have hdrop : (List.replicate count "super" ++ path).dropWhile (· == "super") = path := by
    rw [List.dropWhile_append_of_pos hsupers, hpath.2]
  rw [List.replicate_succ, List.cons_append, Index.moduleCandidates, htake, hdrop]

def IsModulePath (path : List String) : Prop :=
  (∀ part ∈ path, IsName part) ∧ ∀ last, path.getLast? = some last → isModuleName last = true

theorem IsModulePath.behind {keywords path : List String} (h : IsModulePath path)
    (hk : ∀ word ∈ keywords, isModuleName word = true) :
    ∀ last, (keywords ++ path).getLast? = some last → isModuleName last = true := by
  intro last hl
  rw [List.getLast?_append, Option.or_eq_some_iff] at hl
  rcases hl with hl | ⟨-, hl⟩
  · exact h.2 last hl
  · exact hk last (List.mem_of_getLast? hl)

namespace Index

-- ---------------------------------------------------------------------------
-- What is declared where
-- ---------------------------------------------------------------------------

structure Named (index : Index) : Prop where
  functions : ∀ stored ∈ index.functions,
    IsName stored.2.name ∧ ∀ part ∈ stored.2.module, IsName part
  constants : ∀ stored ∈ index.constants, ∀ part ∈ stored.2.module, IsName part

instance (index : Index) : Decidable index.Named :=
  decidable_of_iff
    ((∀ stored ∈ index.functions, IsName stored.2.name ∧ ∀ part ∈ stored.2.module, IsName part) ∧
      ∀ stored ∈ index.constants, ∀ part ∈ stored.2.module, IsName part)
    ⟨fun h => ⟨h.1, h.2⟩, fun h => ⟨h.functions, h.constants⟩⟩

def Declares (index : Index) (module : List String) (name : String) (entry : FunctionEntry) :
    Prop :=
  (∃ id, (id, entry) ∈ index.functions) ∧ entry.owner = none ∧ entry.module = module ∧
    entry.name = name

/-- The function of this name in the innermost module around that has one. -/
def Nearest (index : Index) (module : List String) (name : String) (entry : FunctionEntry) :
    Prop :=
  ∃ outer, outer <+: module ∧ index.Declares outer name entry ∧
    ∀ longer, longer <+: module → outer.length < longer.length →
      ∀ other, ¬ index.Declares longer name other

def DeclaredIn (index : Index) (scope : ElementId) (module : List String) : Prop :=
  (∃ entry, index.function? scope = some entry ∧ entry.module = module) ∨
    ∃ entry, index.constant? scope = some entry ∧ entry.module = module

/-- A call of these names calls the one function with this property, and nothing if there is
none. -/
def Finds (index : Index) (scope : ElementId) (names : List String)
    (IsFound : FunctionEntry → Prop) : Prop :=
  ∀ path : ExprPath, path.isQualified = false → path.names = names →
    ∃ found : Option FunctionEntry,
      index.resolveCall? scope (.function (.path path)) = found.map index.callTarget ∧
      ∀ entry, found = some entry ↔ IsFound entry

section
variable {index : Index} {scope : ElementId} {module path : List String} {name : String}

theorem moduleOf_of_declaredIn (hf : index.Filed) (h : index.DeclaredIn scope module) :
    index.moduleOf scope = module := by
  rcases h with ⟨entry, h, rfl⟩ | ⟨entry, h, rfl⟩
  · simp [moduleOf, h]
  · obtain ⟨constant, rfl⟩ : ∃ constant, scope = .value constant :=
      hf.constants _ (mem_of_lookup h)
    simp [moduleOf, hf.function?_value, h]

theorem Named.of_declaredIn (hn : index.Named) (h : index.DeclaredIn scope module) :
    ∀ part ∈ module, IsName part := by
  rcases h with ⟨entry, h, rfl⟩ | ⟨entry, h, rfl⟩
  · exact (hn.functions _ (mem_of_lookup h)).2
  · exact hn.constants _ (mem_of_lookup h)

/-- Under the id that modules and a name make stands the function of that name there, and no
other. -/
theorem declares_iff (hc : index.Consistent) (hf : index.Filed) (hn : index.Named)
    (hm : ∀ part ∈ module, IsName part) (hname : IsName name) {entry : FunctionEntry} :
    index.function? (.function (qualify module name)) = some entry ↔
      index.Declares module name entry := by
  constructor
  · intro h
    have hstored := mem_of_lookup h
    obtain ⟨howner, hq⟩ := hf.function?_function h
    obtain ⟨hown, hparts⟩ := hn.functions _ hstored
    obtain ⟨hmodule, hsame⟩ := qualify_inj hm hname hparts hown hq
    exact ⟨⟨_, hstored⟩, howner, hmodule.symm, hsame.symm⟩
  · rintro ⟨⟨id, hstored⟩, howner, rfl, rfl⟩
    have hid : id = entry.ownId := hf.functions _ hstored
    simp only [FunctionEntry.ownId, howner] at hid
    exact hc.function?_eq_some_iff.mpr (hid ▸ hstored)

theorem nearest_iff (hc : index.Consistent) (hf : index.Filed) (hn : index.Named)
    (hm : ∀ part ∈ module, IsName part) (hname : IsName name) {entry : FunctionEntry} :
    (beginnings module).findSome?
        (fun outer => index.function? (.function (qualify outer name))) = some entry ↔
      index.Nearest module name entry := by
  have hdeclares : ∀ {outer entry}, outer <+: module →
      (index.function? (.function (qualify outer name)) = some entry ↔
        index.Declares outer name entry) :=
    fun hp => declares_iff hc hf hn (fun part hpart => hm part (hp.subset hpart)) hname
  rw [findSome?_beginnings]
  refine exists_congr fun outer => and_congr_right fun hp => and_congr (hdeclares hp) ?_
  refine forall_congr' fun longer => forall_congr' fun hl => forall_congr' fun _ => ?_
  rw [Option.eq_none_iff_forall_ne_some]
  exact forall_congr' fun other => not_congr (hdeclares hl)

-- ---------------------------------------------------------------------------
-- Calls
-- ---------------------------------------------------------------------------

theorem place?_modules {qualifier : List String}
    (h : ∀ last, qualifier.getLast? = some last → isModuleName last = true) :
    index.place? scope qualifier =
      some (.modules (moduleCandidates (index.moduleOf scope) qualifier)) := by
  unfold place?
  cases hl : qualifier.getLast? with
  | none => rfl
  | some last => simp [h last hl]

theorem finds_of_modules {qualifier : List String} {IsFound : FunctionEntry → Prop}
    (hq : ∀ last, qualifier.getLast? = some last → isModuleName last = true)
    (h : ∀ entry, (moduleCandidates (index.moduleOf scope) qualifier).findSome?
        (fun module => index.function? (.function (qualify module name))) = some entry ↔
      IsFound entry) :
    index.Finds scope (qualifier ++ [name]) IsFound := by
  intro path hu hnames
  refine ⟨_, ?_, h⟩
  simp [resolveCall?, callee?, Expr.bare, hu, hnames, lookupPath?, splitLast?_concat,
    place?_modules hq]

theorem finds_of_module (hc : index.Consistent) (hf : index.Filed) (hn : index.Named)
    {qualifier : List String}
    (hq : ∀ last, qualifier.getLast? = some last → isModuleName last = true)
    (hone : moduleCandidates (index.moduleOf scope) qualifier = [module])
    (hm : ∀ part ∈ module, IsName part) (hname : IsName name) :
    index.Finds scope (qualifier ++ [name]) (index.Declares module name) := by
  refine finds_of_modules hq fun entry => ?_
  rw [hone, List.findSome?_singleton]
  exact declares_iff hc hf hn hm hname

end

end Index

open Index in
/-- A function that is called by its name alone is the one in the innermost module around that has
one of this name. Behind `crate`, `self` and `super` it is the one in that module, and there is
none beyond the root. Ids tell functions of one name in different modules apart, and functions from
methods and constants. -/
theorem module_lookup_exact (known : WellKnown) (sources : List SourceFile)
    (hn : (sources.foldl Index.after { known }).Named) :
    let index := sources.foldl Index.after { known }
    (∀ scope module name, index.DeclaredIn scope module → IsName name →
      index.Finds scope [name] (index.Nearest module name)) ∧
    (∀ scope path name, IsModulePath path → IsName name →
      index.Finds scope ("crate" :: path ++ [name]) (index.Declares path name)) ∧
    (∀ scope module path name, index.DeclaredIn scope module → IsModulePath path → IsName name →
      index.Finds scope ("self" :: path ++ [name]) (index.Declares (module ++ path) name)) ∧
    (∀ scope module path name count, index.DeclaredIn scope module → IsModulePath path →
      path.head? ≠ some "super" → IsName name → 0 < count →
      index.Finds scope (List.replicate count "super" ++ path ++ [name]) fun entry =>
        count ≤ module.length ∧
          index.Declares (module.take (module.length - count) ++ path) name entry) ∧
    (∀ module name module' name', (∀ part ∈ module ++ module', IsName part) → IsName name →
      IsName name' → (module, name) ≠ (module', name') →
      ElementId.function (qualify module name) ≠ .function (qualify module' name') ∧
      ElementId.value (qualify module name) ≠ .value (qualify module' name')) ∧
    (∀ name owner member constant,
      ElementId.function name ≠ .method owner member ∧
      ElementId.function name ≠ .value constant ∧
      ElementId.method owner member ≠ .value constant) ∧
    (∀ id entry, (id, entry) ∈ index.functions → id = entry.ownId) ∧
    ∀ id entry, (id, entry) ∈ index.constants → ∃ name, id = .value name := by
  intro index
  have hc : index.Consistent := (Consistent.empty known).run sources
  have hf : index.Filed := filed_of_sources known sources
  refine ⟨?_, ?_, ?_, ?_, ?_, ?_, ?_, ?_⟩
  · intro scope module name hscope hname
    have hq : ∀ last, ([] : List String).getLast? = some last → isModuleName last = true := by simp
    refine finds_of_modules hq fun entry => ?_
    rw [moduleOf_of_declaredIn hf hscope]
    exact nearest_iff hc hf hn (hn.of_declaredIn hscope) hname
  · intro scope path name hp hname
    have hq := hp.behind (show ∀ word ∈ ["crate"], isModuleName word = true by decide)
    exact finds_of_module hc hf hn hq rfl hp.1 hname
  · intro scope module path name hscope hp hname
    have hq := hp.behind (show ∀ word ∈ ["self"], isModuleName word = true by decide)
    have hone : moduleCandidates (index.moduleOf scope) (["self"] ++ path) = [module ++ path] := by
      rw [moduleOf_of_declaredIn hf hscope]
      rfl
    refine finds_of_module hc hf hn hq hone ?_ hname
    intro part hpart
    rcases List.mem_append.mp hpart with hpart | hpart
    · exact hn.of_declaredIn hscope part hpart
    · exact hp.1 part hpart
  · intro scope module path name count hscope hp hhead hname hcount
    obtain ⟨fewer, rfl⟩ := Nat.exists_eq_succ_of_ne_zero hcount.ne'
    have hsuper : ∀ word ∈ List.replicate (fewer + 1) "super", isModuleName word = true := by
      intro word hw
      rw [List.eq_of_mem_replicate hw]
      decide
    refine finds_of_modules (hp.behind hsuper) fun entry => ?_
    rw [moduleOf_of_declaredIn hf hscope, moduleCandidates_supers _ _ _ hhead]
    split
    · next hle =>
      rw [List.findSome?_singleton, and_iff_right hle]
      refine declares_iff hc hf hn ?_ hname
      intro part hpart
      rcases List.mem_append.mp hpart with hpart | hpart
      · exact hn.of_declaredIn hscope part (List.mem_of_mem_take hpart)
      · exact hp.1 part hpart
    · next hle => simp [hle]
  · intro module name module' name' hparts hname hname' hne
    have hinj : qualify module name ≠ qualify module' name' := by
      intro he
      obtain ⟨rfl, rfl⟩ := qualify_inj
        (fun part hp => hparts part (List.mem_append_left _ hp)) hname
        (fun part hp => hparts part (List.mem_append_right _ hp)) hname' he
      exact hne rfl
    exact ⟨fun h => hinj (ElementId.function_inj h), fun h => hinj (ElementId.value_inj h)⟩
  · intro name owner member constant
    exact ⟨ElementId.function_ne_method, ElementId.function_ne_value, ElementId.method_ne_value⟩
  · exact fun id entry hs => hf.functions _ hs
  · exact fun id entry hs => hf.constants _ hs

def nestedChecks : SourceFile where
  name := none
  content := "mod a { fn check() {} mod b { fn run() {} } mod c { fn check() {} } } fn check() {}"

theorem module_lookup_exact_nested :
    let index := [nestedChecks].foldl Index.after {}
    let run : ElementId := .function "a::b::run"
    index.Named ∧ index.DeclaredIn run ["a", "b"] ∧ IsName "check" ∧ IsModulePath ["c"] ∧
    index.Finds run ["check"] (index.Nearest ["a", "b"] "check") ∧
    index.Finds run ["super", "c", "check"] (fun entry =>
      1 ≤ 2 ∧ index.Declares ["a", "c"] "check" entry) ∧
    (index.resolveCall? run (.function (.path { names := ["check"] }))).bind (·.value.element) =
      some (.function "a::check") ∧
    (index.resolveCall? run (.function (.path { names := ["super", "c", "check"] }))).bind
      (·.value.element) = some (.function "a::c::check") := by
  intro index run
  have hread : index.Named ∧ (index.function? run).map (·.module) = some ["a", "b"] ∧
      (index.resolveCall? run (.function (.path { names := ["check"] }))).bind (·.value.element) =
        some (.function "a::check") ∧
      (index.resolveCall? run (.function (.path { names := ["super", "c", "check"] }))).bind
        (·.value.element) = some (.function "a::c::check") := by decide +kernel
  obtain ⟨hn, hrun, hcalls⟩ := hread
  have hscope : index.DeclaredIn run ["a", "b"] := .inl (Option.map_eq_some_iff.mp hrun)
  have hname : IsName "check" := by decide
  have hpath : IsModulePath ["c"] := ⟨by decide, fun last hl => by cases hl; decide⟩
  obtain ⟨hbare, -, -, hsuper, -⟩ := module_lookup_exact {} [nestedChecks] hn
  refine ⟨hn, hscope, hname, hpath, hbare run _ _ hscope hname, ?_, hcalls⟩
  exact hsuper run _ ["c"] "check" 1 hscope hpath (by decide) hname (by decide)

end EndpointInference

import EndpointInference.Proofs.FlattenedFields
import EndpointInference.Proofs.Provenance

/-!
# What is declared about a type

The properties of a type are found by a function that is bounded in depth. The bound never cuts
anything off, as each step into a type leaves fewer types that were not expanded
(`Index.propertiesWithin_follows`): the function computes what `Index.Expands` says. With the
constructors, which are listed as the texts declare them (`Index.constructorsOf_run`), this gives all
that is said about a type (`type_metadata_exact`).
-/

namespace EndpointInference

open EndpointInference.Syntax

-- ---------------------------------------------------------------------------
-- Properties
-- ---------------------------------------------------------------------------

namespace Index

section
variable {index : Index}

def propertiesOf (index : Index) (own inherited : List FieldRef) : List Property :=
  own.map (·.property index false) ++ inherited.map (·.property index true)

/-- The function expands types by the rules, as long as few enough of them are left. -/
def Follows (index : Index) (bound : Nat)
    (expand : List String → String → List Property × List String) : Prop :=
  ∀ seen name, name ∉ seen → unseen (index.types.map (·.1)) seen < bound →
    ∃ own inherited expanded, index.Expands seen (.type name) own inherited expanded ∧
      expand seen name = (index.propertiesOf own inherited, expanded.reverse ++ seen)

theorem inherit_propertiesOf (index : Index) (own inherited : List FieldRef) :
    (index.propertiesOf own inherited).map ({ · with inherited := true }) =
      (own ++ inherited).map (·.property index true) := by
  simp only [propertiesOf, List.map_append, List.map_map]
  rfl

theorem Follows.expandFields (h : index.Follows bound expand) (found : Expansion)
    (hb : unseen (index.types.map (·.1)) found.seen < bound) (owner : String) (position : Nat)
    (fields : List Field) :
    ∃ own inherited expanded,
      index.Expands found.seen (.fields owner position fields) own inherited expanded ∧
      index.expandFields expand found position fields =
        { own := found.own ++ own.map (·.property index false)
          inherited := found.inherited ++ inherited.map (·.property index true)
          seen := expanded.reverse ++ found.seen } := by
  induction fields generalizing found position with
  | nil => exact ⟨[], [], [], .done, by simp [Index.expandFields]⟩
  | cons field rest ih =>
    unfold Index.expandFields
    dsimp only
    split
    · next hc =>
      have hf : index.Replaced found.seen field := by
        simpa [Replaced, fieldTypeName] using hc
      obtain ⟨below, beneath, first, htype, hexpand⟩ :=
        h found.seen (index.fieldTypeName field) hf.2 hb
      -- the types expanded only become more, so what suffices here suffices for the fields behind
      have hless : unseen (index.types.map (·.1)) (first.reverse ++ found.seen) < bound :=
        (unseen_anti (List.subset_append_right _ _)).trans_lt hb
      obtain ⟨own, inherited, second, hrest, heq⟩ :=
        ih ⟨found.own, found.inherited ++ (below ++ beneath).map (·.property index true),
          first.reverse ++ found.seen⟩ hless (position + 1)
      refine ⟨own, _, _, .replaced hf htype hrest, ?_⟩
      rw [fieldTypeName] at hexpand
      rw [hexpand]
      simp only [inherit_propertiesOf]
      rw [heq]
      simp
    · next hc =>
      have hk : ¬index.Replaced found.seen field := by
        simpa [Replaced, fieldTypeName] using hc
      obtain ⟨own, inherited, expanded, hrest, heq⟩ :=
        ih { found with own := found.own ++ [FieldRef.property index false ⟨owner, position, field⟩] }
          hb (position + 1)
      exact ⟨_, inherited, expanded, .kept hk hrest, heq.trans (by simp)⟩

/-- The bound on the depth suffices: a type is expanded only if it is declared and was not expanded,
and then one less is left. -/
theorem propertiesWithin_follows (index : Index) (depth : Nat) :
    index.Follows depth (index.propertiesWithin depth) := by
  induction depth with
  | zero => exact fun _ _ _ hb => absurd hb (Nat.not_lt_zero _)
  | succ depth ih =>
    intro seen name hn hb
    unfold propertiesWithin
    split
    · next hd => exact ⟨[], [], [], .undeclared hd, rfl⟩
    · next struct file hd =>
      have hstruct : index.struct? name = some struct := by simp [struct?, hd]
      have hmem : name ∈ index.types.map (·.1) :=
        isSome_lookup_iff.mp (isSome_type?_of_struct? hstruct)
      have hless : unseen (index.types.map (·.1)) (name :: seen) < depth :=
        (unseen_cons_lt hmem (by simpa using hn)).trans_le (Nat.le_of_lt_succ hb)
      obtain ⟨own, inherited, expanded, hfields, heq⟩ :=
        ih.expandFields { seen := name :: seen } hless name 0 struct.fields
      refine ⟨own, inherited, name :: expanded, .struct hstruct hfields, ?_⟩
      rw [heq]
      simp [propertiesOf]
    · next entry hshape hd =>
      have hstruct : index.struct? name = none := by
        unfold struct?
        split
        · next struct file hs =>
          exact absurd (Option.some.inj (hd.symm.trans hs)) (hshape struct file)
        · rfl
      exact ⟨[], [], [name], .fieldless (by simp [hd]) hstruct, rfl⟩

theorem properties_expands (index : Index) (name : String) :
    ∃ own inherited expanded, index.Expands [] (.type name) own inherited expanded ∧
      index.properties name = index.propertiesOf own inherited := by
  have hb : unseen (index.types.map (·.1)) [] < index.types.length + 1 := by
    simp [unseen]
  obtain ⟨own, inherited, expanded, h, heq⟩ :=
    index.propertiesWithin_follows _ [] name List.not_mem_nil hb
  exact ⟨own, inherited, expanded, h, congrArg Prod.fst heq⟩

end

end Index

-- ---------------------------------------------------------------------------
-- Constructors
-- ---------------------------------------------------------------------------

def Declaration.constructor? (name : String) : Declaration → Option ConstructorEntry
  | .constructor owner entry => if owner = name then some entry else none
  | _ => none

def SourceFile.declarations (known : WellKnown) (source : SourceFile) : List Declaration :=
  match parseFile? source.content with
  | some items => DeclarationContext.itemsDeclarations ⟨known, source.name⟩ [] items
  | none => []

namespace Index

theorem constructorsOf_declare (index : Index) (declaration : Declaration) (name : String) :
    (index.declare declaration).value.constructorsOf name =
      index.constructorsOf name ++ (declaration.constructor? name).toList := by
  cases declaration with
  | constructor owner entry =>
    simp only [declare, Logged.value_pure, constructorsOf, List.filter_append, List.map_append,
      Declaration.constructor?]
    by_cases ho : owner = name <;> simp [ho]
  | function entry =>
    simp only [declare, addFunction, Declaration.constructor?, Option.toList_none, List.append_nil]
    split <;> rfl
  | type other entry =>
    simp only [declare, Declaration.constructor?, Option.toList_none, List.append_nil]
    split <;> rfl
  | controller other isMapped entry =>
    simp only [declare, Declaration.constructor?, Option.toList_none, List.append_nil]
    split <;> rfl
  | _ => exact (List.append_nil _).symm

theorem constructorsOf_declareAll (index : Index) (declarations : List Declaration)
    (name : String) :
    (index.declareAll declarations).value.constructorsOf name =
      index.constructorsOf name ++ declarations.filterMap (·.constructor? name) := by
  induction declarations generalizing index with
  | nil => simp [declareAll]
  | cons declaration rest ih =>
    rw [declareAll, Logged.value_bind, ih, constructorsOf_declare, List.filterMap_cons]
    cases declaration.constructor? name <;> simp

theorem constructorsOf_after (index : Index) (source : SourceFile) (name : String) :
    (index.after source).constructorsOf name =
      index.constructorsOf name ++
        (source.declarations index.known).filterMap (·.constructor? name) := by
  unfold SourceFile.declarations
  cases h : parseFile? source.content with
  | none => simp [after_of_not_parse h]
  | some items =>
    rw [after_of_parse h, constructorsOf_declareAll]
    rfl

theorem constructorsOf_run (index : Index) (sources : List SourceFile) (name : String) :
    (sources.foldl after index).constructorsOf name =
      index.constructorsOf name ++
        (sources.flatMap (·.declarations index.known)).filterMap (·.constructor? name) := by
  induction sources generalizing index with
  | nil => simp
  | cons source rest ih =>
    rw [List.foldl_cons, ih, constructorsOf_after, (index.settings_after source).1,
      List.flatMap_cons, List.filterMap_append, List.append_assoc]

theorem isPublic_fieldConstructor (index : Index) (file : Option String) (struct : Struct) :
    (index.fieldConstructor file struct).isPublic = true ↔
      ∀ field ∈ struct.fields, field.isPublic = true := by
  have hunit : struct.isUnit = true → ∀ field ∈ struct.fields, field.isPublic = true := by
    intro hu
    simp [struct.fields_of_isUnit hu]
  simpa [fieldConstructor] using hunit

end Index

-- ---------------------------------------------------------------------------
-- Types
-- ---------------------------------------------------------------------------

/-- The fields that the properties of a struct are made of, and the types expanded for them. -/
structure Index.Flattened (index : Index) (name : String) (struct : Struct)
    (own inherited : List FieldRef) (expanded : List String) : Prop where
  expands : index.Expands [] (.type name) own inherited expanded
  once : expanded.Nodup
  reached : ∀ other, other ∈ expanded ↔ Relation.ReflTransGen index.Flattens name other
  ordered : own.Sublist (FieldRef.ofFields name 0 struct.fields)
  /-- A field is missing among them just if it is flattened and its type is not the struct itself
  and was not expanded for the fields before it. -/
  kept : ∀ position field, struct.fields[position]? = some field →
    ((⟨name, position, field⟩ : FieldRef) ∈ own ↔
      (Annotations.isFlattened field.attributes = true → index.fieldTypeName field = name ∨
        index.Reaches [name] (.fields name 0 (struct.fields.take position))
          (index.fieldTypeName field)))
  distinct : ((own ++ inherited).map FieldRef.place).Nodup
  placed : ∀ ref ∈ own ++ inherited, ref.owner ∈ expanded ∧ index.HasField ref
  complete : ∀ ref, ref.owner ∈ expanded → index.HasField ref →
    Annotations.isFlattened ref.field.attributes = false → ref ∈ own ++ inherited

theorem Index.Expands.flattened {index : Index} {struct : Struct}
    (h : index.Expands [] (.type name) own inherited expanded)
    (hs : index.struct? name = some struct) :
    index.Flattened name struct own inherited expanded where
  expands := h
  once := h.nodup List.not_mem_nil
  reached other := (h.mem_expanded_iff List.not_mem_nil).trans
    (Index.reaches_nil_iff (Index.isSome_type?_of_struct? hs))
  ordered := by simpa [ExpansionTask.refs, hs] using h.own_sublist
  kept position field hf := by
    cases h with
    | undeclared hn => simp [Index.struct?, hn] at hs
    | fieldless _ hn => cases hn.symm.trans hs
    | struct hs' hfields =>
      obtain rfl := Option.some.inj (hs'.symm.trans hs)
      simpa using hfields.mem_own_iff List.mem_cons_self hf
  distinct := h.nodup_places List.not_mem_nil
  placed := h.properties_mem
  complete _ := h.mem_of_not_flattened

/-- Of each declared type something is known. A struct has the properties of its own fields, then
those it inherits; a flattened field gives those of its type instead of its own if this type was not
expanded before, and each type is expanded once at most, however flattened fields lead around. It has
a constructor with one parameter for each field, in order, which is public just if all fields are;
behind it follow those that the texts declare, in their order. -/
theorem type_metadata_exact (known : WellKnown) (sources : List SourceFile) (ty : TypeRef)
    (entry : TypeEntry) (h : (sources.foldl Index.after { known }).type? ty.name = some entry) :
    let index := sources.foldl Index.after { known }
    let declared := sources.flatMap (·.declarations known)
    ∃ info, index.typeInfo? ty = some info ∧
      (index.struct? ty.name = none → info.properties = [] ∧ info.constructors = []) ∧
      ∀ struct, index.struct? ty.name = some struct →
        (∃ own inherited expanded, index.Flattened ty.name struct own inherited expanded ∧
          info.properties =
            own.map (·.property index false) ++ inherited.map (·.property index true)) ∧
        ∃ first, info.constructors = first ::
            (declared.filterMap (·.constructor? ty.name)).map index.associatedConstructor ∧
          (∀ position, first.params[position]? = struct.fields[position]?.map fun field =>
            index.describe (Index.fieldName position field) field.attributes field.ty
              (.ofPosition entry.file field.start)) ∧
          (first.isPublic = true ↔ ∀ field ∈ struct.fields, field.isPublic = true) := by
  intro index declared
  replace h : index.type? ty.name = some entry := h
  obtain ⟨shape, file⟩ := entry
  refine ⟨index.describeType ty.name ⟨shape, file⟩, by simp [Index.typeInfo?, h], ?_, ?_⟩
  · intro hn
    cases shape with
    | struct struct => simp [Index.struct?, h] at hn
    | enumeration => exact ⟨rfl, rfl⟩
    | trait => exact ⟨rfl, rfl⟩
  · intro struct hs
    obtain rfl : shape = .struct struct := by
      cases shape with
      | struct other => simpa [Index.struct?, h] using hs
      | enumeration => simp [Index.struct?, h] at hs
      | trait => simp [Index.struct?, h] at hs
    obtain ⟨own, inherited, expanded, hexpands, hproperties⟩ := index.properties_expands ty.name
    refine ⟨⟨own, inherited, expanded, hexpands.flattened hs, hproperties⟩,
      index.fieldConstructor file struct, ?_, ?_, index.isPublic_fieldConstructor file struct⟩
    · have hdeclared : index.constructorsOf ty.name = declared.filterMap (·.constructor? ty.name) :=
        Index.constructorsOf_run { known } sources ty.name
      rw [← hdeclared]
      rfl
    · intro position
      simp [Index.fieldConstructor, List.getElem?_mapIdx]

def flattenedCycle : SourceFile :=
  ⟨none, "struct A\x7b#[serde(flatten)]b:B,#[serde(flatten)]c:B,id:u8\x7d" ++
    "struct B\x7b#[serde(flatten)]a:A,n:u8\x7d" ++
    "impl A\x7bfn f()->A\x7b\x7dfn g(n:u8)->Self\x7b\x7d\x7d"⟩

theorem type_metadata_exact_cycle :
    let index := [flattenedCycle].foldl Index.after {}
    (index.type? "A").isSome = true ∧
    ∃ info struct own inherited expanded, index.typeInfo? (.named "A") = some info ∧
      index.Flattened "A" struct own inherited expanded ∧
      info.properties.map (fun property => (property.name, property.inherited)) =
        [("c", false), ("id", false), ("a", true), ("n", true)] ∧
      info.constructors.map (fun constructor => constructor.params.map (·.name)) =
        [["b", "c", "id"], [], ["n"]] := by
  intro index
  have hread : (index.type? "A").isSome = true ∧ (index.struct? "A").isSome = true ∧
      (index.typeInfo? (.named "A")).map (fun info =>
        (info.properties.map fun property => (property.name, property.inherited),
         info.constructors.map fun constructor => constructor.params.map (·.name))) =
        some ([("c", false), ("id", false), ("a", true), ("n", true)],
          [["b", "c", "id"], [], ["n"]]) := by decide +kernel
  obtain ⟨hdeclared, hstruct, hinfo⟩ := hread
  obtain ⟨entry, hentry⟩ := Option.isSome_iff_exists.mp hdeclared
  obtain ⟨struct, hstruct⟩ := Option.isSome_iff_exists.mp hstruct
  obtain ⟨info, hi, -, hexact⟩ := type_metadata_exact {} [flattenedCycle] (.named "A") entry hentry
  obtain ⟨⟨own, inherited, expanded, hflattened, -⟩, -⟩ := hexact struct hstruct
  replace hi : index.typeInfo? (.named "A") = some info := hi
  rw [hi] at hinfo
  obtain ⟨hproperties, hconstructors⟩ := Prod.mk.inj (Option.some.inj hinfo)
  exact ⟨hdeclared, info, struct, own, inherited, expanded, hi, hflattened, hproperties,
    hconstructors⟩

end EndpointInference

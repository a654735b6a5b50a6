import EndpointInference.Index.Metadata
import Mathlib.Data.List.Nodup
import Mathlib.Logic.Relation

/-!
# What a struct is expanded to

Flattened fields make a graph of types, with cycles and with types that are met on several ways.
`Index.Expands` are the rules by which a type, or the fields that are left of a struct, are expanded:
which fields become properties, and which types are expanded on the way. They know the types that
were expanded before and nothing of a bound on the depth.

No type is expanded that was expanded before (`Expands.not_mem`, `Expands.nodup`), so no field becomes
a property twice (`Expands.nodup_places`). The types that are expanded are those that can be reached
through types not expanded before (`Expands.mem_expanded_iff`), which tells for each field of a
struct whether it is replaced by the properties of its type (`Expands.mem_own_iff`).
-/

namespace EndpointInference

open EndpointInference.Syntax

structure FieldRef where
  owner : String
  position : Nat
  field : Field

namespace FieldRef

def place (ref : FieldRef) : String × Nat :=
  (ref.owner, ref.position)

def ofFields (owner : String) (position : Nat) (fields : List Field) : List FieldRef :=
  (fields.zipIdx position).map fun (field, position) => ⟨owner, position, field⟩

def property (index : Index) (inherited : Bool) (ref : FieldRef) : Property where
  name := Index.fieldName ref.position ref.field
  ty := Lowering.lower index.known ref.field.ty
  isPublic := ref.field.isPublic
  inherited

theorem ofFields_cons (owner : String) (position : Nat) (field : Field) (rest : List Field) :
    ofFields owner position (field :: rest) =
      ⟨owner, position, field⟩ :: ofFields owner (position + 1) rest := by
  simp [ofFields, List.zipIdx_cons]

theorem mem_ofFields {ref : FieldRef} {owner : String} {position : Nat} {fields : List Field} :
    ref ∈ ofFields owner position fields ↔
      ref.owner = owner ∧ position ≤ ref.position ∧
        fields[ref.position - position]? = some ref.field := by
  obtain ⟨own, place, field⟩ := ref
  simp only [ofFields, List.mem_map, Prod.exists, FieldRef.mk.injEq]
  constructor
  · rintro ⟨found, at', hm, rfl, rfl, rfl⟩
    exact ⟨rfl, List.mk_mem_zipIdx_iff_le_and_getElem?_sub.mp hm⟩
  · rintro ⟨rfl, hle, hget⟩
    exact ⟨field, place, List.mk_mem_zipIdx_iff_le_and_getElem?_sub.mpr ⟨hle, hget⟩, rfl, rfl, rfl⟩

end FieldRef

/-- What is to be expanded: a type, or the fields of a struct from a position on. -/
inductive ExpansionTask
  | type (name : String)
  | fields (owner : String) (position : Nat) (fields : List Field)

namespace Index

section
variable (index : Index)

def fieldTypeName (field : Field) : String :=
  (Lowering.lower index.known field.ty).name

/-- A field that is replaced by the properties of its type: it is flattened, and its type was not
expanded so far. -/
def Replaced (seen : List String) (field : Field) : Prop :=
  Annotations.isFlattened field.attributes = true ∧ index.fieldTypeName field ∉ seen

/-- With the types expanded so far: the fields that become properties of the struct at hand, those
that become inherited ones, and the types that are expanded, all in order. -/
inductive Expands : List String → ExpansionTask → List FieldRef → List FieldRef → List String → Prop
  | undeclared {seen name} : index.type? name = none → Expands seen (.type name) [] [] []
  | fieldless {seen name} : (index.type? name).isSome = true → index.struct? name = none →
      Expands seen (.type name) [] [] [name]
  | struct {seen name struct own inherited expanded} : index.struct? name = some struct →
      Expands (name :: seen) (.fields name 0 struct.fields) own inherited expanded →
      Expands seen (.type name) own inherited (name :: expanded)
  | done {seen owner position} : Expands seen (.fields owner position []) [] [] []
  | replaced {seen owner position field rest below beneath first own inherited second} :
      index.Replaced seen field →
      Expands seen (.type (index.fieldTypeName field)) below beneath first →
      Expands (first.reverse ++ seen) (.fields owner (position + 1) rest) own inherited second →
      Expands seen (.fields owner position (field :: rest)) own (below ++ beneath ++ inherited)
        (first ++ second)
  | kept {seen owner position field rest own inherited expanded} : ¬index.Replaced seen field →
      Expands seen (.fields owner (position + 1) rest) own inherited expanded →
      Expands seen (.fields owner position (field :: rest)) (⟨owner, position, field⟩ :: own)
        inherited expanded

end

end Index

namespace ExpansionTask

def Ready (seen : List String) : ExpansionTask → Prop
  | type name => name ∉ seen
  | fields owner _ _ => owner ∈ seen

def refs (index : Index) : ExpansionTask → List FieldRef
  | type name => ((index.struct? name).map fun struct => FieldRef.ofFields name 0 struct.fields).getD []
  | fields owner position rest => FieldRef.ofFields owner position rest

def LeadsTo (index : Index) (other : String) : ExpansionTask → Prop
  | type name => name = other ∧ (index.type? other).isSome = true
  | fields _ _ rest => ∃ field ∈ rest, Annotations.isFlattened field.attributes = true ∧
      index.fieldTypeName field = other ∧ (index.type? other).isSome = true

end ExpansionTask

namespace Index

def Flattens (index : Index) (name other : String) : Prop :=
  ∃ struct, index.struct? name = some struct ∧
    (ExpansionTask.fields name 0 struct.fields).LeadsTo index other

def FlattensNew (index : Index) (seen : List String) (name other : String) : Prop :=
  index.Flattens name other ∧ other ∉ seen

def Reaches (index : Index) (seen : List String) (task : ExpansionTask) (other : String) : Prop :=
  ∃ start, task.LeadsTo index start ∧ start ∉ seen ∧
    Relation.ReflTransGen (index.FlattensNew seen) start other

def HasField (index : Index) (ref : FieldRef) : Prop :=
  ∃ struct, index.struct? ref.owner = some struct ∧ struct.fields[ref.position]? = some ref.field

theorem hasField_of_mem_refs {index : Index} {ref : FieldRef}
    (hm : ref ∈ (ExpansionTask.type name).refs index) : ref.owner = name ∧ index.HasField ref := by
  simp only [ExpansionTask.refs] at hm
  cases hs : index.struct? name with
  | none => simp [hs] at hm
  | some struct =>
    rw [hs] at hm
    obtain ⟨rfl, -, hfield⟩ := FieldRef.mem_ofFields.mp hm
    exact ⟨rfl, struct, hs, hfield⟩

theorem isSome_type?_of_struct? {index : Index} (h : index.struct? name = some struct) :
    (index.type? name).isSome = true := by
  unfold struct? at h
  split at h
  · next hs => simp [hs]
  · cases h

theorem Reaches.mono {index : Index} (h : index.Reaches seen task other) (hs : seen' ⊆ seen) :
    index.Reaches seen' task other := by
  obtain ⟨start, hl, hn, hchain⟩ := h
  have hstep : ∀ a b, index.FlattensNew seen a b → index.FlattensNew seen' a b :=
    fun _ _ hf => ⟨hf.1, fun hm => hf.2 (hs hm)⟩
  exact ⟨start, hl, fun hm => hn (hs hm), Relation.ReflTransGen.mono hstep _ _ hchain⟩

theorem Reaches.cons {index : Index} (field : Field)
    (h : index.Reaches seen (.fields owner next rest) other) :
    index.Reaches seen (.fields owner position (field :: rest)) other := by
  obtain ⟨start, ⟨found, hm, hl⟩, hn, hchain⟩ := h
  exact ⟨start, ⟨found, List.mem_cons_of_mem _ hm, hl⟩, hn, hchain⟩

theorem reaches_nil_iff {index : Index} (hd : (index.type? name).isSome = true) :
    index.Reaches [] (.type name) other ↔ Relation.ReflTransGen index.Flattens name other := by
  have hsame : index.FlattensNew [] = index.Flattens := by
    funext name other
    simp [FlattensNew]
  unfold Reaches
  rw [hsame]
  constructor
  · rintro ⟨start, ⟨rfl, -⟩, -, hchain⟩
    exact hchain
  · intro hchain
    exact ⟨name, ⟨rfl, hd⟩, List.not_mem_nil, hchain⟩

namespace Expands

section
variable {index : Index}

-- ---------------------------------------------------------------------------
-- Each type once
-- ---------------------------------------------------------------------------

theorem not_mem (h : index.Expands seen task own inherited expanded) (hr : task.Ready seen) :
    ∀ name ∈ expanded, name ∉ seen := by
  induction h with
  | undeclared _ | done => simp
  | fieldless _ _ =>
    intro name hm
    rwa [List.mem_singleton.mp hm]
  | struct _ _ ih =>
    intro name hm
    rcases List.mem_cons.mp hm with rfl | hm
    · exact hr
    · exact fun hs => ih List.mem_cons_self name hm (List.mem_cons_of_mem _ hs)
  | replaced hf _ _ ihtype ihrest =>
    intro name hm
    rcases List.mem_append.mp hm with hm | hm
    · exact ihtype hf.2 name hm
    · exact fun hs => ihrest (List.mem_append_right _ hr) name hm (List.mem_append_right _ hs)
  | kept _ _ ih => exact ih hr

theorem nodup (h : index.Expands seen task own inherited expanded) (hr : task.Ready seen) :
    expanded.Nodup := by
  induction h with
  | undeclared _ | done | fieldless _ _ => simp
  | struct _ h ih =>
    refine List.nodup_cons.mpr ⟨fun hm => ?_, ih List.mem_cons_self⟩
    exact h.not_mem List.mem_cons_self _ hm List.mem_cons_self
  | @replaced _ _ _ _ _ _ _ first _ _ _ hf _ hrest ihtype ihrest =>
    have hready := List.mem_append_right first.reverse hr
    refine (ihtype hf.2).append (ihrest hready) fun name hfirst hsecond => ?_
    exact hrest.not_mem hready name hsecond
      (List.mem_append_left _ (List.mem_reverse.mpr hfirst))
  | kept _ _ ih => exact ih hr

-- ---------------------------------------------------------------------------
-- Each field once
-- ---------------------------------------------------------------------------

theorem own_sublist (h : index.Expands seen task own inherited expanded) :
    own.Sublist (task.refs index) := by
  induction h with
  | undeclared _ | done | fieldless _ _ => exact List.nil_sublist _
  | struct hs _ ih => simpa [ExpansionTask.refs, hs] using ih
  | replaced _ _ _ _ ih =>
    simp only [ExpansionTask.refs, FieldRef.ofFields_cons] at ih ⊢
    exact ih.cons _
  | kept _ _ ih =>
    simp only [ExpansionTask.refs, FieldRef.ofFields_cons] at ih ⊢
    exact ih.cons_cons _

theorem own_mem (h : index.Expands seen (.type name) own inherited expanded) (hm : ref ∈ own) :
    ref.owner ∈ expanded ∧ index.HasField ref := by
  obtain ⟨rfl, hfield⟩ := hasField_of_mem_refs (h.own_sublist.subset hm)
  refine ⟨?_, hfield⟩
  cases h with
  | undeclared _ | fieldless _ _ => cases hm
  | struct _ _ => exact List.mem_cons_self

theorem inherited_mem (h : index.Expands seen task own inherited expanded) :
    ∀ ref ∈ inherited, ref.owner ∈ expanded ∧ index.HasField ref := by
  induction h with
  | undeclared _ | done | fieldless _ _ => simp
  | struct _ _ ih => exact fun ref hm => (ih ref hm).imp_left (List.mem_cons_of_mem _)
  | replaced _ htype _ ihtype ihrest =>
    intro ref hm
    rcases List.mem_append.mp hm with hm | hm
    · refine And.imp_left (List.mem_append_left _) ?_
      rcases List.mem_append.mp hm with hm | hm
      · exact htype.own_mem hm
      · exact ihtype ref hm
    · exact (ihrest ref hm).imp_left (List.mem_append_right _)
  | kept _ _ ih => exact ih

theorem properties_mem (h : index.Expands seen (.type name) own inherited expanded) :
    ∀ ref ∈ own ++ inherited, ref.owner ∈ expanded ∧ index.HasField ref := by
  intro ref hm
  rcases List.mem_append.mp hm with hm | hm
  · exact h.own_mem hm
  · exact h.inherited_mem ref hm

theorem owner_of_fields
    (h : index.Expands seen (.fields owner position fields) own inherited expanded)
    (hm : ref ∈ own ++ inherited) : ref.owner = owner ∨ ref.owner ∈ expanded := by
  rcases List.mem_append.mp hm with hm | hm
  · exact .inl (FieldRef.mem_ofFields.mp (h.own_sublist.subset hm)).1
  · exact .inr (h.inherited_mem ref hm).1

/-- No field becomes a property twice: the fields of the struct at hand differ by their position, and
the owners of those that are inherited differ from it and from each other. -/
theorem nodup_places (h : index.Expands seen task own inherited expanded) (hr : task.Ready seen) :
    ((own ++ inherited).map FieldRef.place).Nodup := by
  induction h with
  | undeclared _ | done | fieldless _ _ => simp
  | struct _ _ ih => exact ih List.mem_cons_self
  | @replaced seen owner position field rest below beneath first own inherited second hf htype hrest
      ihtype ihrest =>
    have hready := List.mem_append_right first.reverse hr
    have hmoved : (own ++ (below ++ beneath ++ inherited)).Perm
        (below ++ beneath ++ (own ++ inherited)) := List.perm_append_comm_assoc ..
    rw [(hmoved.map _).nodup_iff, List.map_append]
    refine (ihtype hf.2).append (ihrest hready) fun place hfirst hsecond => ?_
    obtain ⟨ref, hm, rfl⟩ := List.mem_map.mp hfirst
    obtain ⟨other, ho, heq⟩ := List.mem_map.mp hsecond
    have howner : other.owner = ref.owner := (Prod.mk.inj heq).1
    have hexpanded : ref.owner ∈ first := (htype.properties_mem ref hm).1
    rcases hrest.owner_of_fields ho with hs | hs
    · exact htype.not_mem hf.2 _ hexpanded (howner ▸ hs ▸ hr)
    · exact hrest.not_mem hready _ (howner ▸ hs)
        (List.mem_append_left _ (List.mem_reverse.mpr hexpanded))
  | kept _ h ih =>
    rw [List.cons_append, List.map_cons, List.nodup_cons]
    refine ⟨fun hm => ?_, ih hr⟩
    obtain ⟨other, ho, heq⟩ := List.mem_map.mp hm
    obtain ⟨howner, hposition⟩ := Prod.mk.inj heq
    rcases List.mem_append.mp ho with ho | ho
    · have hle := (FieldRef.mem_ofFields.mp (h.own_sublist.subset ho)).2.1
      dsimp only at hposition
      omega
    · exact h.not_mem hr _ (h.inherited_mem other ho).1 (howner ▸ hr)

-- ---------------------------------------------------------------------------
-- Which types are expanded
-- ---------------------------------------------------------------------------

theorem expanded_or_seen {first second seen : List String}
    (h : other ∈ second ∨ other ∈ first.reverse ++ seen) :
    other ∈ first ++ second ∨ other ∈ seen := by
  simp only [List.mem_append, List.mem_reverse] at h ⊢
  tauto

theorem covers (h : index.Expands seen task own inherited expanded)
    (hl : task.LeadsTo index other) : other ∈ expanded ∨ other ∈ seen := by
  induction h with
  | undeclared hn =>
    obtain ⟨rfl, hd⟩ := hl
    simp [hn] at hd
  | fieldless _ _ =>
    obtain ⟨rfl, -⟩ := hl
    exact .inl List.mem_cons_self
  | struct _ _ _ =>
    obtain ⟨rfl, -⟩ := hl
    exact .inl List.mem_cons_self
  | done =>
    obtain ⟨field, hm, -⟩ := hl
    cases hm
  | replaced _ _ _ ihtype ihrest =>
    obtain ⟨field, hm, hflat, hname, hd⟩ := hl
    rcases List.mem_cons.mp hm with rfl | hm
    · exact (ihtype ⟨hname, hd⟩).imp_left (List.mem_append_left _)
    · exact expanded_or_seen (ihrest ⟨field, hm, hflat, hname, hd⟩)
  | kept hk _ ih =>
    obtain ⟨field, hm, hflat, hname, hd⟩ := hl
    rcases List.mem_cons.mp hm with rfl | hm
    · exact .inr (by_contra fun hn => hk ⟨hflat, hname ▸ hn⟩)
    · exact ih ⟨field, hm, hflat, hname, hd⟩

theorem closed (h : index.Expands seen task own inherited expanded) (hm : name ∈ expanded)
    (hf : index.Flattens name other) : other ∈ expanded ∨ other ∈ seen := by
  induction h with
  | undeclared _ | done => cases hm
  | fieldless _ hn =>
    obtain ⟨struct, hs, -⟩ := hf
    rw [List.mem_singleton.mp hm, hn] at hs
    cases hs
  | @struct seen owner _ _ _ expanded hs h ih =>
    have hafter : other ∈ expanded ∨ other ∈ [owner].reverse ++ seen := by
      rcases List.mem_cons.mp hm with rfl | hm
      · obtain ⟨struct, hs', hl⟩ := hf
        obtain rfl := Option.some.inj (hs.symm.trans hs')
        exact h.covers hl
      · exact ih hm
    exact expanded_or_seen hafter
  | replaced _ _ _ ihtype ihrest =>
    rcases List.mem_append.mp hm with hm | hm
    · exact (ihtype hm).imp_left (List.mem_append_left _)
    · exact expanded_or_seen (ihrest hm)
  | kept _ _ ih => exact ih hm

theorem reaches (h : index.Expands seen task own inherited expanded) (hr : task.Ready seen)
    (hm : other ∈ expanded) : index.Reaches seen task other := by
  induction h with
  | undeclared _ | done => cases hm
  | fieldless hd _ =>
    rw [List.mem_singleton.mp hm]
    exact ⟨_, ⟨rfl, hd⟩, hr, .refl⟩
  | struct hs _ ih =>
    refine ⟨_, ⟨rfl, isSome_type?_of_struct? hs⟩, hr, ?_⟩
    rcases List.mem_cons.mp hm with rfl | hm
    · exact .refl
    · -- the chain starts with the flattened field of the struct that leads to it
      obtain ⟨start, hl, hn, hchain⟩ := (ih List.mem_cons_self hm).mono (List.subset_cons_self _ _)
      exact .head ⟨⟨_, hs, hl⟩, hn⟩ hchain
  | replaced hf _ _ ihtype ihrest =>
    rcases List.mem_append.mp hm with hm | hm
    · obtain ⟨start, ⟨hname, hd⟩, hn, hchain⟩ := ihtype hf.2 hm
      exact ⟨start, ⟨_, List.mem_cons_self, hf.1, hname, hd⟩, hn, hchain⟩
    · exact ((ihrest (List.mem_append_right _ hr) hm).mono (List.subset_append_right _ _)).cons _
  | kept _ _ ih => exact (ih hr hm).cons _

/-- The types that are expanded are those that can be reached without a type expanded before. -/
theorem mem_expanded_iff (h : index.Expands seen task own inherited expanded)
    (hr : task.Ready seen) : other ∈ expanded ↔ index.Reaches seen task other := by
  refine ⟨h.reaches hr, ?_⟩
  rintro ⟨start, hl, hn, hchain⟩
  induction hchain with
  | refl => exact (h.covers hl).resolve_right hn
  | tail _ hstep ih => exact (h.closed ih hstep.1).resolve_right hstep.2

-- ---------------------------------------------------------------------------
-- Which fields of a struct are replaced
-- ---------------------------------------------------------------------------

theorem split
    (h : index.Expands seen (.fields owner position (before ++ after)) own inherited expanded) :
    ∃ own₁ inherited₁ expanded₁ own₂ inherited₂ expanded₂,
      index.Expands seen (.fields owner position before) own₁ inherited₁ expanded₁ ∧
      index.Expands (expanded₁.reverse ++ seen) (.fields owner (position + before.length) after)
        own₂ inherited₂ expanded₂ ∧
      own = own₁ ++ own₂ := by
  induction before generalizing seen position own inherited expanded with
  | nil => exact ⟨[], [], [], own, inherited, expanded, .done, h, rfl⟩
  | cons field rest ih =>
    rw [List.length_cons, Nat.add_comm rest.length, ← Nat.add_assoc]
    cases h with
    | @replaced _ _ _ _ _ _ _ first _ _ _ hf htype hrest =>
      obtain ⟨own₁, inherited₁, expanded₁, own₂, inherited₂, expanded₂, h₁, h₂, rfl⟩ := ih hrest
      have hseen : expanded₁.reverse ++ (first.reverse ++ seen) =
          (first ++ expanded₁).reverse ++ seen := by simp
      exact ⟨_, _, _, _, _, _, .replaced hf htype h₁, hseen ▸ h₂, rfl⟩
    | kept hk hrest =>
      obtain ⟨own₁, inherited₁, expanded₁, own₂, inherited₂, expanded₂, h₁, h₂, rfl⟩ := ih hrest
      exact ⟨_, _, _, _, _, _, .kept hk h₁, h₂, rfl⟩

theorem head_mem_own_iff
    (h : index.Expands seen (.fields owner position (field :: rest)) own inherited expanded) :
    (⟨owner, position, field⟩ : FieldRef) ∈ own ↔ ¬index.Replaced seen field := by
  cases h with
  | replaced hf _ hrest =>
    refine iff_of_false (fun hm => ?_) (not_not.mpr hf)
    have hle : position + 1 ≤ position :=
      (FieldRef.mem_ofFields.mp (hrest.own_sublist.subset hm)).2.1
    omega
  | kept hk _ => exact iff_of_true List.mem_cons_self hk

/-- A field becomes an own property unless it is flattened and its type was expanded neither before
nor by the fields in front of it. -/
theorem mem_own_iff (h : index.Expands seen (.fields owner 0 fields) own inherited expanded)
    (hr : owner ∈ seen) (hf : fields[position]? = some field) :
    (⟨owner, position, field⟩ : FieldRef) ∈ own ↔
      (Annotations.isFlattened field.attributes = true → index.fieldTypeName field ∈ seen ∨
        index.Reaches seen (.fields owner 0 (fields.take position)) (index.fieldTypeName field)) := by
  obtain ⟨hlt, hfield⟩ := List.getElem?_eq_some_iff.mp hf
  have hfields : fields = fields.take position ++ field :: fields.drop (position + 1) := by
    rw [← hfield, ← List.drop_eq_getElem_cons hlt, List.take_append_drop]
  have hlength : (fields.take position).length = position := List.length_take_of_le (Nat.le_of_lt hlt)
  rw [hfields] at h
  obtain ⟨own₁, _, expanded₁, own₂, _, _, h₁, h₂, rfl⟩ := h.split
  rw [hlength, Nat.zero_add] at h₂
  have hbefore : (⟨owner, position, field⟩ : FieldRef) ∉ own₁ := by
    intro hm
    obtain ⟨-, -, hget⟩ := FieldRef.mem_ofFields.mp (h₁.own_sublist.subset hm)
    have hin : position < (fields.take position).length := (List.getElem?_eq_some_iff.mp hget).1
    omega
  rw [List.mem_append, or_iff_right hbefore, h₂.head_mem_own_iff, Replaced, not_and, not_not,
    List.mem_append, List.mem_reverse, h₁.mem_expanded_iff hr, or_comm]

theorem mem_of_not_flattened (h : index.Expands seen task own inherited expanded)
    (ho : ref.owner ∈ expanded) (hf : index.HasField ref)
    (hflat : Annotations.isFlattened ref.field.attributes = false) : ref ∈ own ++ inherited := by
  induction h with
  | undeclared _ | done => cases ho
  | fieldless _ hn =>
    obtain ⟨struct, hs, -⟩ := hf
    rw [List.mem_singleton.mp ho, hn] at hs
    cases hs
  | struct hs h ih =>
    rcases List.mem_cons.mp ho with rfl | ho
    · obtain ⟨struct, hs', hfield⟩ := hf
      obtain rfl := Option.some.inj (hs.symm.trans hs')
      have hown : ref ∈ _ := (h.mem_own_iff List.mem_cons_self hfield).mpr (by simp [hflat])
      exact List.mem_append_left _ hown
    · exact ih ho
  | replaced _ _ _ ihtype ihrest =>
    rcases List.mem_append.mp ho with ho | ho
    · exact List.mem_append_right _ (List.mem_append_left _ (ihtype ho))
    · rcases List.mem_append.mp (ihrest ho) with hm | hm
      · exact List.mem_append_left _ hm
      · exact List.mem_append_right _ (List.mem_append_right _ hm)
  | kept _ _ ih => exact List.mem_cons_of_mem _ (ih ho)

end

end Expands

end Index

end EndpointInference

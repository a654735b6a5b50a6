import EndpointInference.Proofs.IndexAgreement
import EndpointInference.Proofs.Indexing

/-!
# Indexes put together

An index files what it takes in under `keys`. What is declared with nothing in its way
(`Index.Admits`) is taken in as if the index were empty, so taking in a file puts the index of that
file behind the one there is (`Index.addItems_eq_join`). Two indexes that share no key agree,
whichever is put behind the other (`Index.join_agree`).
-/

namespace EndpointInference

open EndpointInference.Syntax

-- ---------------------------------------------------------------------------
-- Keys
-- ---------------------------------------------------------------------------

inductive Key
  | function (id : ElementId)
  | type (name : String)
  | constant (id : ElementId)
  | constructor (owner : String)
  | implements (owner : String)
  | controller (name : String)
deriving DecidableEq

def Declaration.key : Declaration → Key
  | .function entry => .function entry.id
  | .type name _ => .type name
  | .constructor owner _ => .constructor owner
  | .constant id _ => .constant id
  | .implements owner _ => .implements owner
  | .controller name _ _ => .controller name

def Key.isDeclared : Key → Bool
  | .function _ | .type _ | .constant _ => true
  | _ => false

namespace Index

def keys (index : Index) : List Key :=
  index.functions.map (.function ·.1) ++ index.types.map (.type ·.1) ++
    index.constants.map (.constant ·.1) ++ index.constructors.map (.constructor ·.1) ++
    index.impls.map (.implements ·.1) ++ index.controllers.map (.controller ·.1)

theorem Takes.keys {index after : Index} (h : index.Takes declaration after)
    (hk : key ∈ after.keys) : key ∈ index.keys ∨ key = declaration.key := by
  cases h with
  | ignored => exact .inl hk
  | _ => grind [Index.keys, Declaration.key]

theorem keys_declareAll {index : Index} (h : key ∈ (index.declareAll declarations).value.keys) :
    key ∈ index.keys ∨ key ∈ declarations.map Declaration.key := by
  let P (after : Index) :=
    ∀ key ∈ after.keys, key ∈ index.keys ∨ key ∈ declarations.map Declaration.key
  suffices hall : P (index.declareAll declarations).value from hall key h
  refine declareAll_keeps (fun before declaration after hm ht hb key hk => ?_) fun _ hk => .inl hk
  rcases ht.keys hk with hk | rfl
  · exact hb key hk
  · exact .inr (List.mem_map_of_mem hm)

theorem Takes.settings {index after : Index} (h : index.Takes declaration after) :
    after.known = index.known ∧ after.files = index.files := by
  cases h <;> exact ⟨rfl, rfl⟩

theorem declareAll_settings (index : Index) (declarations : List Declaration) :
    (index.declareAll declarations).value.known = index.known ∧
      (index.declareAll declarations).value.files = index.files := by
  let P (after : Index) := after.known = index.known ∧ after.files = index.files
  suffices hall : P (index.declareAll declarations).value from hall
  refine declareAll_keeps (fun before declaration after _ ht hb => ?_) ⟨rfl, rfl⟩
  obtain ⟨hk, hf⟩ := ht.settings
  exact ⟨hk.trans hb.1, hf.trans hb.2⟩

section
variable {index : Index} {id : ElementId} {name : String}

@[simp] theorem function_mem_keys : .function id ∈ index.keys ↔ (index.function? id).isSome := by
  simp [keys, function?]

@[simp] theorem type_mem_keys : .type name ∈ index.keys ↔ (index.type? name).isSome := by
  simp [keys, type?]

@[simp] theorem constant_mem_keys : .constant id ∈ index.keys ↔ (index.constant? id).isSome := by
  simp [keys, constant?]

@[simp] theorem controller_mem_keys :
    .controller name ∈ index.keys ↔ (index.controller? name).isSome := by
  simp [keys, controller?]

@[simp] theorem constructor_mem_keys :
    .constructor name ∈ index.keys ↔ index.constructorsOf name ≠ [] := by
  simp [keys, constructorsOf]

@[simp] theorem implements_mem_keys :
    .implements name ∈ index.keys ↔ index.traitsOf name ≠ [] := by
  simp [keys, traitsOf]

end

-- ---------------------------------------------------------------------------
-- Putting indexes together
-- ---------------------------------------------------------------------------

def join (first second : Index) : Index where
  known := first.known
  files := first.files ++ second.files
  functions := first.functions ++ second.functions
  types := first.types ++ second.types
  constructors := first.constructors ++ second.constructors
  constants := second.constants ++ first.constants
  impls := first.impls ++ second.impls
  controllers := second.controllers ++ first.controllers
  handlerOrder := first.handlerOrder ++ second.handlerOrder

/-- Nothing in the index decides what becomes of the declaration. -/
def Admits (index : Index) : Declaration → Prop
  | .function entry => .function entry.id ∉ index.keys
  | .type name _ => .type name ∉ index.keys
  | .controller name _ _ => .implements name ∉ index.keys
  | _ => True

section
variable {first second : Index}

theorem function?_join (id : ElementId) :
    (first.join second).function? id = (first.function? id).or (second.function? id) :=
  List.lookup_append

theorem type?_join (name : String) :
    (first.join second).type? name = (first.type? name).or (second.type? name) :=
  List.lookup_append

theorem constant?_join (id : ElementId) :
    (first.join second).constant? id = (second.constant? id).or (first.constant? id) :=
  List.lookup_append

theorem controller?_join (name : String) :
    (first.join second).controller? name = (second.controller? name).or (first.controller? name) :=
  List.lookup_append

theorem traitsOf_join (name : String) :
    (first.join second).traitsOf name = first.traitsOf name ++ second.traitsOf name := by
  simp [traitsOf, join]

theorem constructorsOf_join (name : String) :
    (first.join second).constructorsOf name =
      first.constructorsOf name ++ second.constructorsOf name := by
  simp [constructorsOf, join]

theorem join_declare (h : first.Admits declaration) :
    ((first.join second).declare declaration).value =
      first.join (second.declare declaration).value := by
  cases declaration with
  | function entry =>
    have hn : first.function? entry.id = none := by simpa [Admits] using h
    simp only [declare, addFunction, function?_join, hn, Option.none_or]
    split
    · rfl
    · cases entry.mapping <;> simp [join]
  | type name entry =>
    have hn : first.type? name = none := by simpa [Admits] using h
    simp only [declare, Logged.value_pure, type?_join, hn, Option.none_or]
    split
    · rfl
    · simp [join]
  | controller name isMapped controller =>
    have hn : first.traitsOf name = [] := by simpa [Admits] using h
    simp only [declare, Logged.value_pure, traitsOf_join, hn, List.nil_append]
    split <;> rfl
  | _ => simp [declare, join]

theorem join_declareAll (h : ∀ declaration ∈ declarations, first.Admits declaration) :
    ((first.join second).declareAll declarations).value =
      first.join (second.declareAll declarations).value := by
  induction declarations generalizing second with
  | nil => rfl
  | cons declaration rest ih =>
    simp only [declareAll, Logged.value_bind, join_declare (h declaration List.mem_cons_self)]
    exact ih fun other ho => h other (List.mem_cons_of_mem _ ho)

/-- Taking in a file with nothing in its way puts the index of the file behind. -/
theorem addItems_eq_join {known : WellKnown} (hk : first.known = known) (h : ∀ declaration ∈
      DeclarationContext.itemsDeclarations ⟨known, file⟩ [] items, first.Admits declaration) :
    (first.addItems file items).value =
      first.join (({ known } : Index).addItems file items).value := by
  subst hk
  have hstart : { first with files := first.files ++ file.toList } =
      first.join { known := first.known, files := file.toList } := by
    simp [join]
  simp only [addItems, Logged.value_bind, Logged.value_pure, hstart, join_declareAll h]
  rfl

theorem Agree.handlersAt (h : first.Agree second) : first.handlersAt = second.handlersAt := by
  funext ids
  rw [Index.handlersAt, Index.handlersAt, h.handler?]

theorem or_comm_of_not_isSome {found other : Option α} (h : found.isSome → ¬ other.isSome) :
    found.or other = other.or found := by
  cases found <;> cases other <;> simp_all

theorem append_comm_of_eq_nil {found other : List α} (h : found ≠ [] → ¬ other ≠ []) :
    found ++ other = other ++ found := by
  cases found <;> simp_all

/-- Where no key is in both, it does not matter which index comes first. -/
theorem join_agree (hk : first.known = second.known) (hf : first.files = [firstFile])
    (hs : second.files = [secondFile]) (h : ∀ key ∈ first.keys, key ∉ second.keys) :
    (first.join second).Agree (second.join first) where
  known := hk
  function? := by
    funext id
    rw [function?_join, function?_join]
    exact or_comm_of_not_isSome (by simpa using h (.function id))
  type? := by
    funext name
    rw [type?_join, type?_join]
    exact or_comm_of_not_isSome (by simpa using h (.type name))
  constant? := by
    funext id
    rw [constant?_join, constant?_join]
    exact (or_comm_of_not_isSome (by simpa using h (.constant id))).symm
  controller? := by
    funext name
    rw [controller?_join, controller?_join]
    exact (or_comm_of_not_isSome (by simpa using h (.controller name))).symm
  traitsOf := by
    funext name
    rw [traitsOf_join, traitsOf_join]
    exact append_comm_of_eq_nil (by simpa using h (.implements name))
  constructorsOf := by
    funext name
    rw [constructorsOf_join, constructorsOf_join]
    exact append_comm_of_eq_nil (by simpa using h (.constructor name))
  locate := by
    funext position
    simp [locate, join, hf, hs]
  types := List.perm_append_comm

end

end Index

end EndpointInference

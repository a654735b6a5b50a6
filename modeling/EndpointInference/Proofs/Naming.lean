import EndpointInference.Proofs.Indexing
import Mathlib.Data.List.TakeWhile

/-!
# Names and ids

An id is a text: the kind of an element, and its name behind those of the modules around it. Names
of a source text have no colon in them (`IsName.not_mem`), so the text gives the modules and the
name back (`qualify_inj`), and the kinds do not mix. Every function and constant of an index is
stored under the id that its own modules, owner and name make (`Filed`).
-/

namespace EndpointInference

open EndpointInference.Syntax

-- ---------------------------------------------------------------------------
-- Names
-- ---------------------------------------------------------------------------

/-- A name as it is written in a source text: nothing is left behind it. -/
def IsName (name : String) : Prop :=
  Lexeme.anyName name.toList = some []

instance : DecidablePred IsName :=
  fun name => inferInstanceAs (Decidable (Lexeme.anyName name.toList = some []))

theorem colon_not_mem_of_name {cs : List Char} (h : Lexeme.name cs = some []) : ':' ∉ cs := by
  cases cs with
  | nil => cases h
  | cons first rest =>
    simp only [Lexeme.name] at h
    split at h
    · next hfirst =>
      have hrest : ∀ c ∈ rest, Text.isNameContinue c = true :=
        List.dropWhile_eq_nil_iff.mp (Option.some.inj h)
      intro hm
      rcases List.mem_cons.mp hm with rfl | hm
      · exact absurd hfirst (by decide)
      · exact absurd (hrest _ hm) (by decide)
    · cases h

theorem IsName.colon_not_mem (h : IsName name) : ':' ∉ name.toList := by
  unfold IsName Lexeme.anyName at h
  split at h
  · next rest hc =>
    obtain ⟨behind, hb, ht⟩ := Option.bind_eq_some_iff.mp h
    dsimp only at ht
    split at ht
    · cases ht
    · obtain rfl := Option.some.inj ht
      simp [hc, colon_not_mem_of_name hb]
  · exact colon_not_mem_of_name h

theorem append_colon_inj {first first' : List Char} (h : ':' ∉ first) (h' : ':' ∉ first')
    (he : first ++ ':' :: rest = first' ++ ':' :: rest') : first = first' ∧ rest = rest' := by
  induction first generalizing first' with
  | nil =>
    cases first' with
    | nil => exact ⟨rfl, (List.cons.inj he).2⟩
    | cons c cs => exact absurd (List.cons.inj he).1 (List.ne_of_not_mem_cons h')
  | cons c cs ih =>
    cases first' with
    | nil => exact absurd (List.cons.inj he).1.symm (List.ne_of_not_mem_cons h)
    | cons c' cs' =>
      obtain ⟨rfl, htail⟩ := List.cons.inj he
      obtain ⟨rfl, hrest⟩ := ih (List.not_mem_of_not_mem_cons h)
        (List.not_mem_of_not_mem_cons h') htail
      exact ⟨rfl, hrest⟩

theorem toList_qualify_cons (outer : String) (module : List String) (name : String) :
    (qualify (outer :: module) name).toList =
      outer.toList ++ ':' :: ':' :: (qualify module name).toList := by
  simp [qualify]

theorem qualify_inj {module module' : List String} {name name' : String}
    (hm : ∀ part ∈ module, IsName part) (hn : IsName name)
    (hm' : ∀ part ∈ module', IsName part) (hn' : IsName name')
    (he : qualify module name = qualify module' name') : module = module' ∧ name = name' := by
  induction module generalizing module' with
  | nil =>
    cases module' with
    | nil => exact ⟨rfl, he⟩
    | cons outer' rest' =>
      -- one side has a colon, the other is a name
      have hc := hn.colon_not_mem
      rw [show name = qualify (outer' :: rest') name' from he, toList_qualify_cons] at hc
      simp at hc
  | cons outer rest ih =>
    cases module' with
    | nil =>
      have hc := hn'.colon_not_mem
      rw [show name' = qualify (outer :: rest) name from he.symm, toList_qualify_cons] at hc
      simp at hc
    | cons outer' rest' =>
      have ht := congrArg String.toList he
      rw [toList_qualify_cons, toList_qualify_cons] at ht
      obtain ⟨houter, hrest⟩ := append_colon_inj (hm _ List.mem_cons_self).colon_not_mem
        (hm' _ List.mem_cons_self).colon_not_mem ht
      obtain ⟨rfl, rfl⟩ := ih (fun part hp => hm part (List.mem_cons_of_mem _ hp))
        (fun part hp => hm' part (List.mem_cons_of_mem _ hp))
        (String.toList_inj.mp (List.cons.inj hrest).2)
      exact ⟨by rw [String.toList_inj.mp houter], rfl⟩

theorem splitLast?_concat (init : List String) (last : String) :
    splitLast? (init ++ [last]) = some (init, last) := by
  induction init with
  | nil => rfl
  | cons first rest ih =>
    cases rest with
    | nil => rfl
    | cons second rest =>
      rw [List.cons_append] at ih ⊢
      rw [List.cons_append, splitLast?, ih, Option.map_some]

theorem splitLast?_eq_some_iff {names init : List String} {last : String} :
    splitLast? names = some (init, last) ↔ names = init ++ [last] := by
  constructor
  · intro h
    rcases List.eq_nil_or_concat names with rfl | ⟨init', last', rfl⟩
    · cases h
    · rw [List.concat_eq_append, splitLast?_concat] at h
      cases h
      exact List.concat_eq_append
  · rintro rfl
    exact splitLast?_concat init last

-- ---------------------------------------------------------------------------
-- Ids
-- ---------------------------------------------------------------------------

namespace ElementId

theorem function_inj (h : function name = function name') : name = name' := by
  simpa [function] using h

theorem value_inj (h : value name = value name') : name = name' := by
  simpa [value] using h

-- the kinds differ in the first letter of the id

theorem function_ne_method : function name ≠ method owner member := by
  intro h
  simpa [function, method] using congrArg (·.text.toList.head?) h

theorem function_ne_value : function name ≠ value name' := by
  intro h
  simpa [function, value] using congrArg (·.text.toList.head?) h

theorem method_ne_value : method owner member ≠ value name := by
  intro h
  simpa [method, value] using congrArg (·.text.toList.head?) h

end ElementId

def FunctionEntry.ownId (entry : FunctionEntry) : ElementId :=
  match entry.owner with
  | some owner => .method owner entry.name
  | none => .function (qualify entry.module entry.name)

/-- A function has its own id, and only one without a body is open to be implemented; a constant has
the id of a constant. -/
def Declaration.IsFiled : Declaration → Prop
  | .function entry =>
    entry.id = entry.ownId ∧ (entry.kind = .interface ∨ entry.kind = .abstract → entry.body = none)
  | .constant id _ => ∃ name, id = .value name
  | _ => True

namespace DeclarationContext

theorem traitMember_filed (cx : DeclarationContext) (module : List String) (owner : String)
    (member : Member) : ∀ declaration ∈ cx.traitMember module owner member,
      declaration.IsFiled := by
  intro declaration hd
  cases member with
  | function function =>
    obtain rfl := List.mem_singleton.mp hd
    refine ⟨rfl, ?_⟩
    cases hb : function.body <;> simp [functionEntry, hb]
  | const name value =>
    cases value with
    | none => cases hd
    | some value =>
      obtain rfl := List.mem_singleton.mp hd
      exact ⟨_, rfl⟩

theorem implMember_filed (cx : DeclarationContext) (module : List String) (owner : String)
    (isInherent : Bool) (middleware : Middleware) (member : Member) :
    ∀ declaration ∈ cx.implMember module owner isInherent middleware member,
      declaration.IsFiled := by
  intro declaration hd
  cases member with
  | function function =>
    rcases List.mem_append.mp hd with hd | hd
    · split at hd
      · obtain rfl := List.mem_singleton.mp hd
        trivial
      · cases hd
    · obtain rfl := List.mem_singleton.mp hd
      exact ⟨rfl, by simp⟩
  | const name value =>
    cases value with
    | none => cases hd
    | some value =>
      obtain rfl := List.mem_singleton.mp hd
      exact ⟨_, rfl⟩

mutual
theorem item_filed (cx : DeclarationContext) (module : List String) (item : Item) :
    ∀ declaration ∈ cx.itemDeclarations module item, declaration.IsFiled := by
  intro declaration hd
  cases item with
  | function function =>
    obtain rfl := List.mem_singleton.mp hd
    exact ⟨rfl, by simp [functionEntry]⟩
  | struct struct =>
    simp only [itemDeclarations, structDeclarations, List.mem_append, List.mem_map, List.mem_cons,
      List.not_mem_nil, or_false] at hd
    obtain ⟨_, -, rfl⟩ | rfl | rfl := hd <;> trivial
  | enumeration attributes name =>
    simp only [itemDeclarations, List.mem_append, List.mem_map, List.mem_singleton] at hd
    obtain ⟨_, -, rfl⟩ | rfl := hd <;> trivial
  | trait name members =>
    simp only [itemDeclarations, traitDeclarations, List.mem_append, List.mem_flatMap,
      List.mem_singleton] at hd
    obtain ⟨member, -, hd⟩ | rfl := hd
    · exact cx.traitMember_filed module name member declaration hd
    · trivial
  | impl block =>
    simp only [itemDeclarations, implDeclarations, List.mem_append, List.mem_map,
      List.mem_flatMap] at hd
    obtain ⟨_, -, rfl⟩ | ⟨member, -, hd⟩ := hd
    · trivial
    · exact cx.implMember_filed module _ _ _ member declaration hd
  | const name value =>
    obtain rfl := List.mem_singleton.mp hd
    exact ⟨_, rfl⟩
  | module name items => exact items_filed cx (module ++ [name]) items declaration hd
  | other => cases hd

theorem items_filed (cx : DeclarationContext) (module : List String) (items : List Item) :
    ∀ declaration ∈ cx.itemsDeclarations module items, declaration.IsFiled := by
  intro declaration hd
  cases items with
  | nil => cases hd
  | cons item rest =>
    rcases List.mem_append.mp hd with hd | hd
    · exact item_filed cx module item declaration hd
    · exact items_filed cx module rest declaration hd
end

end DeclarationContext

-- ---------------------------------------------------------------------------
-- Indexes
-- ---------------------------------------------------------------------------

namespace Index

structure Filed (index : Index) : Prop where
  functions : ∀ stored ∈ index.functions, stored.1 = stored.2.ownId
  bodiless : ∀ stored ∈ index.functions,
    stored.2.kind = .interface ∨ stored.2.kind = .abstract → stored.2.body = none
  constants : ∀ stored ∈ index.constants, ∃ name, stored.1 = .value name

theorem Filed.congr {before after : Index} (h : before.Filed)
    (hf : after.functions = before.functions) (hc : after.constants = before.constants) :
    after.Filed :=
  ⟨hf ▸ h.functions, hf ▸ h.bodiless, hc ▸ h.constants⟩

theorem Filed.takes {index after : Index} (h : index.Filed) (hd : declaration.IsFiled)
    (ht : index.Takes declaration after) : after.Filed := by
  cases ht with
  | @function entry _ =>
    obtain ⟨hid, hbody⟩ := hd
    refine ⟨?_, ?_, h.constants⟩
    · exact List.forall_mem_append.mpr ⟨h.functions, List.forall_mem_singleton.mpr hid⟩
    · exact List.forall_mem_append.mpr ⟨h.bodiless, List.forall_mem_singleton.mpr hbody⟩
  | constant => exact ⟨h.functions, h.bodiless, List.forall_mem_cons.mpr ⟨hd, h.constants⟩⟩
  | _ => exact h.congr rfl rfl

theorem Filed.after {index : Index} (h : index.Filed) (source : SourceFile) :
    (index.after source).Filed := by
  cases hp : parseFile? source.content with
  | some items =>
    have hfiles : { index with files := index.files ++ source.name.toList : Index }.Filed :=
      h.congr rfl rfl
    rw [after_eq_addItems hp]
    exact declareAll_keeps (fun _ declaration _ hd ht hf =>
      hf.takes (DeclarationContext.items_filed _ _ items declaration hd) ht) hfiles
  | none =>
    rw [after_of_not_parse hp]
    exact h

theorem Filed.run {index : Index} (h : index.Filed) (sources : List SourceFile) :
    (sources.foldl Index.after index).Filed := by
  induction sources generalizing index with
  | nil => exact h
  | cons source rest ih => exact ih (h.after source)

theorem filed_of_sources (known : WellKnown) (sources : List SourceFile) :
    (sources.foldl Index.after { known }).Filed :=
  Filed.run ⟨by simp, by simp, by simp⟩ sources

section
variable {index : Index}

theorem Filed.constant?_eq_none (h : index.Filed) {id : ElementId}
    (hid : ∀ name, id ≠ .value name) : index.constant? id = none := by
  cases hc : index.constant? id with
  | none => rfl
  | some entry =>
    obtain ⟨name, he⟩ := h.constants _ (mem_of_lookup hc)
    exact absurd he (hid name)

theorem Filed.function?_value (h : index.Filed) (name : String) :
    index.function? (.value name) = none := by
  cases hf : index.function? (.value name) with
  | none => rfl
  | some entry =>
    have he : .value name = entry.ownId := h.functions _ (mem_of_lookup hf)
    unfold FunctionEntry.ownId at he
    split at he
    · exact absurd he.symm ElementId.method_ne_value
    · exact absurd he.symm ElementId.function_ne_value

theorem Filed.function?_function (h : index.Filed)
    (hf : index.function? (.function name) = some entry) :
    entry.owner = none ∧ name = qualify entry.module entry.name := by
  have he : .function name = entry.ownId := h.functions _ (mem_of_lookup hf)
  unfold FunctionEntry.ownId at he
  split at he
  · exact absurd he ElementId.function_ne_method
  · next ho => exact ⟨ho, ElementId.function_inj he⟩

end

end Index

end EndpointInference

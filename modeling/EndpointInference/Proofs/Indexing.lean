import EndpointInference.Index.Handlers
import EndpointInference.Proofs.Diagnostics
import EndpointInference.Proofs.Lists
import Mathlib.Data.List.Forall2
import Mathlib.Data.List.Nodup

/-!
# What holds of an index all along

A declaration is ignored, or adds one entry to its table (`Takes`); what each step keeps, a file
keeps (`declareAll_keeps`). So functions, types and handlers are appended and those before stay
(`Grows`); functions are stored under their own ids, each once, and the handlers are those of them
that are mapped, in the same order (`Consistent`). Both hold after every run of files, whether they
can be read or not (`index_consistent_throughout`).
-/

namespace EndpointInference

open EndpointInference.Syntax

namespace Index

-- ---------------------------------------------------------------------------
-- One declaration, and all of a file
-- ---------------------------------------------------------------------------

inductive Takes (index : Index) : Declaration → Index → Prop
  | ignored : Takes index declaration index
  | function {entry} : ¬ (index.function? entry.id).isSome → Takes index (.function entry)
      { index with
        functions := index.functions ++ [(entry.id, entry)]
        handlerOrder :=
          if entry.mapping.isSome then index.handlerOrder ++ [entry.id] else index.handlerOrder }
  | type : Takes index (.type name entry) { index with types := index.types ++ [(name, entry)] }
  | constructor : Takes index (.constructor owner entry)
      { index with constructors := index.constructors ++ [(owner, entry)] }
  | constant {id} : Takes index (.constant id entry)
      { index with constants := (id, entry) :: index.constants }
  | implements : Takes index (.implements owner traitName)
      { index with impls := index.impls ++ [(owner, traitName)] }
  | controller {entry} : Takes index (.controller name isMapped entry)
      { index with controllers := (name, entry) :: index.controllers }

theorem declare_takes (index : Index) (declaration : Declaration) :
    index.Takes declaration (index.declare declaration).value := by
  cases declaration with
  | function entry =>
    simp only [declare, addFunction]
    split
    · exact .ignored
    · next hn => exact .function hn
  | type name entry =>
    simp only [declare, Logged.value_pure]
    split
    · exact .ignored
    · exact .type
  | controller name isMapped entry =>
    simp only [declare, Logged.value_pure]
    split
    · exact .controller
    · exact .ignored
  | constructor owner entry => exact .constructor
  | constant id entry => exact .constant
  | implements owner traitName => exact .implements

/-- What is kept whenever one of the declarations is taken in holds once all are. -/
theorem declareAll_keeps {P : Index → Prop} {declarations : List Declaration}
    (hstep : ∀ before declaration after, declaration ∈ declarations →
      before.Takes declaration after → P before → P after) {index : Index} (h : P index) :
    P (index.declareAll declarations).value := by
  induction declarations generalizing index with
  | nil => exact h
  | cons declaration rest ih =>
    have hfirst : P (index.declare declaration).value :=
      hstep _ _ _ List.mem_cons_self (index.declare_takes declaration) h
    exact ih (fun before other after hm => hstep before other after (List.mem_cons_of_mem _ hm))
      hfirst

-- ---------------------------------------------------------------------------
-- Growing
-- ---------------------------------------------------------------------------

structure Grows (before after : Index) : Prop where
  functions : before.functions <+: after.functions
  types : before.types <+: after.types
  handlerOrder : before.handlerOrder <+: after.handlerOrder

namespace Grows

theorem refl (index : Index) : index.Grows index :=
  ⟨List.prefix_rfl, List.prefix_rfl, List.prefix_rfl⟩

theorem trans {before middle after : Index} (first : before.Grows middle)
    (second : middle.Grows after) : before.Grows after :=
  ⟨first.functions.trans second.functions, first.types.trans second.types,
    first.handlerOrder.trans second.handlerOrder⟩

end Grows

theorem Grows.function? {before after : Index} {id : ElementId} (h : before.Grows after)
    (hf : before.function? id = some entry) : after.function? id = some entry :=
  lookup_of_prefix h.functions hf

theorem Grows.type? {before after : Index} (h : before.Grows after)
    (ht : before.type? name = some entry) : after.type? name = some entry :=
  lookup_of_prefix h.types ht

theorem Takes.grows {index after : Index} (h : index.Takes declaration after) :
    index.Grows after := by
  cases h with
  | function _ =>
    refine ⟨List.prefix_append .., List.prefix_rfl, ?_⟩
    dsimp only
    split
    · exact List.prefix_append ..
    · exact List.prefix_rfl
  | type => exact ⟨List.prefix_rfl, List.prefix_append .., List.prefix_rfl⟩
  | _ => exact ⟨List.prefix_rfl, List.prefix_rfl, List.prefix_rfl⟩

theorem addItems_grows (index : Index) (file : Option String) (items : List Item) :
    index.Grows (index.addItems file items).value :=
  have hfiles : index.Grows { index with files := index.files ++ file.toList } :=
    ⟨List.prefix_rfl, List.prefix_rfl, List.prefix_rfl⟩
  declareAll_keeps (fun _ _ _ _ ht hg => hg.trans ht.grows) hfiles

-- ---------------------------------------------------------------------------
-- Functions and handlers
-- ---------------------------------------------------------------------------

/-- Functions are stored once each, under their own ids; handlers are those that are mapped. -/
structure Consistent (index : Index) : Prop where
  ownId : ∀ stored ∈ index.functions, stored.2.id = stored.1
  distinct : (index.functions.map (·.1)).Nodup
  order : index.handlerOrder = (index.functions.filter (·.2.mapping.isSome)).map (·.1)

theorem Consistent.congr {before after : Index} (h : before.Consistent)
    (hf : after.functions = before.functions) (ho : after.handlerOrder = before.handlerOrder) :
    after.Consistent :=
  ⟨hf ▸ h.ownId, hf ▸ h.distinct, by rw [ho, hf, h.order]⟩

theorem Consistent.empty (known : WellKnown) : ({ known } : Index).Consistent :=
  ⟨by simp, by simp, by simp⟩

theorem isSome_lookup_iff [BEq α] [LawfulBEq α] {entries : List (α × β)} {key : α} :
    (entries.lookup key).isSome ↔ key ∈ entries.map (·.1) := by
  simp [List.lookup_isSome_iff]

theorem Consistent.takes {index after : Index} (h : index.Consistent)
    (ht : index.Takes declaration after) : after.Consistent := by
  cases ht with
  | @function entry hn =>
    refine ⟨?_, ?_, ?_⟩
    · intro stored hs
      rcases List.mem_append.mp hs with hs | hs
      · exact h.ownId stored hs
      · rw [List.mem_singleton.mp hs]
    · simp only [List.map_append, List.map_cons, List.map_nil]
      exact List.concat_eq_append ▸ h.distinct.concat (isSome_lookup_iff.not.mp hn)
    · simp only [List.filter_append, List.map_append, ← h.order]
      cases hm : entry.mapping <;> simp [hm]
  | _ => exact h.congr rfl rfl

theorem Consistent.addItems {index : Index} (h : index.Consistent) (file : Option String)
    (items : List Item) : (index.addItems file items).value.Consistent :=
  have hfiles : { index with files := index.files ++ file.toList : Index }.Consistent :=
    h.congr rfl rfl
  declareAll_keeps (fun _ _ _ _ ht hc => hc.takes ht) hfiles

section
variable {index : Index} {id : ElementId}

theorem Consistent.function?_eq_some_iff (h : index.Consistent) :
    index.function? id = some entry ↔ (id, entry) ∈ index.functions :=
  lookup_eq_some_iff_mem h.distinct

theorem Consistent.mem_handlerOrder (h : index.Consistent) :
    id ∈ index.handlerOrder ↔
      ∃ entry, index.function? id = some entry ∧ entry.mapping.isSome = true := by
  simp [h.order, h.function?_eq_some_iff]

theorem Consistent.nodup_handlerOrder (h : index.Consistent) : index.handlerOrder.Nodup := by
  rw [h.order]
  exact h.distinct.sublist (List.filter_sublist.map _)

end

def Describes (index : Index) (handler : Handler) (id : ElementId) : Prop :=
  handler.id = id ∧ ∃ entry verb path, index.function? id = some entry ∧
    entry.mapping = some (verb, path) ∧ handler = (index.describeHandler entry verb path).value

theorem Consistent.exists_handler {index : Index} {id : ElementId} (h : index.Consistent)
    (hm : id ∈ index.handlerOrder) :
    ∃ described, index.handler? id = some described ∧ index.Describes described.value id := by
  obtain ⟨entry, hf, hmap⟩ := h.mem_handlerOrder.mp hm
  obtain ⟨⟨verb, path⟩, hv⟩ := Option.isSome_iff_exists.mp hmap
  refine ⟨index.describeHandler entry verb path, by simp [handler?, hf, hv], ?_, ?_⟩
  · exact h.ownId _ (mem_of_lookup hf)
  · exact ⟨entry, verb, path, hf, hv, rfl⟩

def handlersAt (index : Index) (ids : List ElementId) : List Handler :=
  (ids.filterMap index.handler?).map (·.value)

theorem value_handlers (index : Index) :
    index.handlers.value = index.handlersAt index.handlerOrder := by
  simp [handlers, handlersAt]

theorem handlersAt_append (index : Index) (first second : List ElementId) :
    index.handlersAt (first ++ second) = index.handlersAt first ++ index.handlersAt second := by
  simp [handlersAt]

/-- None of them is left out, none comes twice, and their order is that of the ids. -/
theorem Consistent.handlersAt {index : Index} (h : index.Consistent) {ids : List ElementId}
    (hin : ∀ id ∈ ids, id ∈ index.handlerOrder) :
    List.Forall₂ index.Describes (index.handlersAt ids) ids := by
  induction ids with
  | nil => exact .nil
  | cons id rest ih =>
    obtain ⟨described, hd, hdesc⟩ := h.exists_handler (hin id List.mem_cons_self)
    rw [Index.handlersAt, List.filterMap_cons_some hd]
    exact .cons hdesc (ih fun other ho => hin other (List.mem_cons_of_mem _ ho))

theorem Consistent.handlers {index : Index} (h : index.Consistent) :
    List.Forall₂ index.Describes index.handlers.value index.handlerOrder :=
  index.value_handlers ▸ h.handlersAt fun _ hm => hm

theorem ids_of_describes {index : Index}
    (h : List.Forall₂ index.Describes described ids) : described.map (·.id) = ids :=
  List.forall₂_eq_eq_eq ▸ List.forall₂_map_left_iff.mpr (h.imp fun _ _ hd => hd.1)

-- ---------------------------------------------------------------------------
-- Runs of source texts
-- ---------------------------------------------------------------------------

/-- The index after a text was given to it, whether the text can be read or not. -/
def after (index : Index) (source : SourceFile) : Index :=
  (index.addSource source).value.2

theorem addSource_of_parse {index : Index} (h : parseFile? source.content = some items) :
    index.addSource source = (index.addItems source.name items >>= fun added =>
      pure (.ok (), added)) := by
  unfold addSource
  rw [h]

theorem addSource_of_not_parse {index : Index} (h : parseFile? source.content = none) :
    index.addSource source = pure (.error (.parse source.name), index) := by
  unfold addSource
  rw [h]

theorem after_eq_addItems {index : Index} (h : parseFile? source.content = some items) :
    index.after source = (index.addItems source.name items).value := by
  rw [after, addSource_of_parse h, Logged.value_bind, Logged.value_pure]

theorem after_of_not_parse {index : Index} (h : parseFile? source.content = none) :
    index.after source = index := by
  rw [after, addSource_of_not_parse h, Logged.value_pure]

theorem Consistent.after {index : Index} (h : index.Consistent) (source : SourceFile) :
    (index.after source).Consistent := by
  cases hp : parseFile? source.content with
  | some items =>
    rw [after_eq_addItems hp]
    exact h.addItems source.name items
  | none =>
    rw [after_of_not_parse hp]
    exact h

theorem Consistent.run {index : Index} (h : index.Consistent) (sources : List SourceFile) :
    (sources.foldl Index.after index).Consistent := by
  induction sources generalizing index with
  | nil => exact h
  | cons source rest ih => exact ih (h.after source)

theorem log_addItems (index : Index) (file : Option String) (items : List Item) :
    ∃ count, (index.addItems file items).value.functions.length = index.functions.length + count ∧
      (index.addItems file items).log.getLast? = some (.event ⟨.debug, "Indexed source",
        [("file", file.getD "<source>"), ("functions", toString count),
         ("handlers", toString (index.addItems file items).value.handlerOrder.length)]⟩) := by
  obtain ⟨added, hadded⟩ := (index.addItems_grows file items).functions
  refine ⟨added.length, by rw [← hadded, List.length_append], ?_⟩
  have hcount : (index.addItems file items).value.functions.length - index.functions.length =
      added.length := by
    rw [← hadded, List.length_append, Nat.add_sub_cancel_left]
  rw [← hcount]
  exact List.getLast?_concat

end Index

-- ---------------------------------------------------------------------------
-- The invariant
-- ---------------------------------------------------------------------------

open Index in
/-- Whatever texts an index was given, and whichever of them could be read: functions are stored
under their own ids, handlers are the mapped functions, each listed and described once; the next
text only adds to functions, types and handlers, and one that cannot be read changes nothing. -/
theorem index_consistent_throughout (known : WellKnown) (sources : List SourceFile)
    (next : SourceFile) :
    let index := sources.foldl Index.after { known }
    (∀ id entry, (id, entry) ∈ index.functions → entry.id = id) ∧
    (index.functions.map (·.1)).Nodup ∧
    index.handlerOrder.Nodup ∧
    (∀ id, id ∈ index.handlerOrder ↔
      ∃ entry, index.function? id = some entry ∧ entry.mapping.isSome = true) ∧
    List.Forall₂ index.Describes index.handlers.value index.handlerOrder ∧
    (index.handlers.value.map (·.id)).Nodup ∧
    let step := index.addSource next
    let added := index.after next
    (step.value.1 = .ok () →
      (∀ id entry, index.function? id = some entry → added.function? id = some entry) ∧
      (∀ name entry, index.type? name = some entry → added.type? name = some entry) ∧
      index.handlerOrder <+: added.handlerOrder ∧
      ∃ count, added.functions.length = index.functions.length + count ∧
        step.log.getLast? = some (.event ⟨.debug, "Indexed source",
          [("file", next.name.getD "<source>"), ("functions", toString count),
           ("handlers", toString added.handlerOrder.length)]⟩)) ∧
    (∀ error, step.value.1 = .error error →
      parseFile? next.content = none ∧ added = index) := by
  intro index
  have h : index.Consistent := (Consistent.empty known).run sources
  refine ⟨fun id entry hm => h.ownId _ hm, h.distinct, h.nodup_handlerOrder,
    fun _ => h.mem_handlerOrder, h.handlers, ids_of_describes h.handlers ▸ h.nodup_handlerOrder, ?_⟩
  intro step added
  cases hp : parseFile? next.content with
  | some items =>
    have hstep : step = _ := addSource_of_parse hp
    have hadded : added = _ := after_eq_addItems hp
    have hg := index.addItems_grows next.name items
    refine ⟨fun _ => ?_, by simp [hstep]⟩
    rw [hstep, hadded, Logged.log_bind, Logged.log_pure, List.append_nil]
    exact ⟨fun _ _ => hg.function?, fun _ _ => hg.type?, hg.handlerOrder,
      index.log_addItems next.name items⟩
  | none =>
    have hstep : step = _ := addSource_of_not_parse hp
    exact ⟨by simp [hstep], fun _ _ => ⟨rfl, after_of_not_parse hp⟩⟩

end EndpointInference

import EndpointInference.Proofs.Joining

/-!
# The order of independent files does not matter

Files are independent if they declare nothing under the same name, and no type is implemented in
both, or has a trait from one and is declared in the other. All that a file brings to an index has
its ground in what the file declares and implements (`items_founded`), so independent files share no
key, and neither is in the way of the other. The order in which they are taken in changes that of
their handlers and nothing else (`independent_files_commute`).
-/

namespace EndpointInference

open EndpointInference.Syntax

-- ---------------------------------------------------------------------------
-- Implementation blocks
-- ---------------------------------------------------------------------------

namespace Syntax

def Impl.owner (block : Impl) (known : WellKnown) : String :=
  (Lowering.lower known block.selfTy).name

mutual
def Item.blocks : Item → List Impl
  | .impl block => [block]
  | .module _ items => itemsBlocks items
  | _ => []

def itemsBlocks : List Item → List Impl
  | [] => []
  | item :: rest => item.blocks ++ itemsBlocks rest
end

end Syntax

def ownersOf (known : WellKnown) (blocks : List Impl) : List String :=
  blocks.map (·.owner known)

def implementersOf (known : WellKnown) (blocks : List Impl) : List String :=
  ownersOf known (blocks.filter (·.traitName.isSome))

/-- Where a key comes from that is not declared by itself: a trait from the declaration of the type
that derives it or from a block, a constructor from a block, a controller from its declaration. -/
def Key.Founded (known : WellKnown) (blocks : List Impl) (keys : List Key) : Key → Prop
  | .implements owner => .type owner ∈ keys ∨ owner ∈ implementersOf known blocks
  | .constructor owner => owner ∈ ownersOf known blocks
  | .controller name => .type name ∈ keys
  | _ => True

namespace Key.Founded

theorem mono (h : Founded known blocks keys key) (hb : blocks ⊆ blocks') (hk : keys ⊆ keys') :
    Founded known blocks' keys' key := by
  cases key with
  | implements owner =>
    rcases h with h | h
    · exact .inl (hk h)
    · exact .inr (List.map_subset _ (List.filter_subset _ hb) h)
  | constructor owner => exact List.map_subset _ hb h
  | controller name => exact hk h
  | _ => trivial

end Key.Founded

namespace DeclarationContext

theorem derived_founded {known : WellKnown} {traits : List String} (ht : .type name ∈ keys)
    (hd : declaration ∈ traits.map (Declaration.implements name)) :
    declaration.key.Founded known blocks keys := by
  obtain ⟨traitName, -, rfl⟩ := List.mem_map.mp hd
  exact .inl ht

theorem struct_founded (cx : DeclarationContext) (struct : Struct) :
    ∀ declaration ∈ cx.structDeclarations struct, declaration.key.Founded cx.known blocks
      ((cx.structDeclarations struct).map Declaration.key) := by
  intro declaration hd
  have ht : .type struct.name ∈ (cx.structDeclarations struct).map Declaration.key := by
    simp [structDeclarations, Declaration.key]
  rcases List.mem_append.mp hd with hd | hd
  · exact derived_founded ht hd
  · simp only [List.mem_cons, List.not_mem_nil, or_false] at hd
    rcases hd with rfl | rfl
    · exact ht
    · trivial

theorem enumeration_founded (cx : DeclarationContext) (module : List String) :
    ∀ declaration ∈ cx.itemDeclarations module (.enumeration attributes name),
      declaration.key.Founded cx.known blocks
        ((cx.itemDeclarations module (.enumeration attributes name)).map Declaration.key) := by
  intro declaration hd
  have ht : .type name ∈
      (cx.itemDeclarations module (.enumeration attributes name)).map Declaration.key := by
    simp [itemDeclarations, Declaration.key]
  rw [itemDeclarations] at hd
  rcases List.mem_append.mp hd with hd | hd
  · exact derived_founded ht hd
  · obtain rfl := List.mem_singleton.mp hd
    trivial

theorem trait_founded (cx : DeclarationContext) (module : List String) (name : String)
    (members : List Member) :
    ∀ declaration ∈ cx.traitDeclarations module name members,
      declaration.key.Founded cx.known blocks keys := by
  intro declaration hd
  simp only [traitDeclarations, List.mem_append, List.mem_flatMap, List.mem_singleton] at hd
  obtain ⟨member, -, hd⟩ | rfl := hd
  · cases member with
    | function function =>
      obtain rfl := List.mem_singleton.mp hd
      trivial
    | const name value =>
      cases value with
      | none => cases hd
      | some value =>
        obtain rfl := List.mem_singleton.mp hd
        trivial
  · trivial

theorem impl_founded (cx : DeclarationContext) (module : List String) (block : Impl) :
    ∀ declaration ∈ cx.implDeclarations module block,
      declaration.key.Founded cx.known [block] keys := by
  intro declaration hd
  simp only [implDeclarations, List.mem_append, List.mem_map, List.mem_flatMap,
    Option.mem_toList] at hd
  obtain ⟨traitName, ht, rfl⟩ | ⟨member, -, hd⟩ := hd
  · exact .inr (by simp [implementersOf, ownersOf, Impl.owner, ht])
  · cases member with
    | function function =>
      simp only [implMember, List.mem_append, List.mem_singleton] at hd
      obtain hd | rfl := hd
      · split at hd
        · obtain rfl := List.mem_singleton.mp hd
          exact List.mem_singleton.mpr rfl
        · cases hd
      · trivial
    | const name value =>
      cases value with
      | none => cases hd
      | some value =>
        obtain rfl := List.mem_singleton.mp hd
        trivial

mutual
theorem item_founded (cx : DeclarationContext) (module : List String) (item : Item) :
    ∀ declaration ∈ cx.itemDeclarations module item, declaration.key.Founded cx.known item.blocks
      ((cx.itemDeclarations module item).map Declaration.key) := by
  cases item with
  | function function =>
    intro declaration hd
    obtain rfl := List.mem_singleton.mp hd
    trivial
  | struct struct => exact cx.struct_founded struct
  | enumeration attributes name => exact cx.enumeration_founded module
  | trait name members => exact cx.trait_founded module name members
  | impl block => exact cx.impl_founded module block
  | const name value =>
    intro declaration hd
    obtain rfl := List.mem_singleton.mp hd
    trivial
  | module name items => exact items_founded cx (module ++ [name]) items
  | other => simp [itemDeclarations]

/-- Whatever a file declares beside functions, types and constants comes from one of its types or
blocks. -/
theorem items_founded (cx : DeclarationContext) (module : List String) (items : List Item) :
    ∀ declaration ∈ cx.itemsDeclarations module items,
      declaration.key.Founded cx.known (itemsBlocks items)
        ((cx.itemsDeclarations module items).map Declaration.key) := by
  cases items with
  | nil => simp [itemsDeclarations]
  | cons item rest =>
    intro declaration hd
    simp only [itemsDeclarations, itemsBlocks, List.map_append]
    rcases List.mem_append.mp hd with hd | hd
    · exact (item_founded cx module item declaration hd).mono (List.subset_append_left ..)
        (List.subset_append_left ..)
    · exact (items_founded cx module rest declaration hd).mono (List.subset_append_right ..)
        (List.subset_append_right ..)
end

end DeclarationContext

-- ---------------------------------------------------------------------------
-- Files
-- ---------------------------------------------------------------------------

structure ReadableFile where
  name : String
  content : String
  items : List Item
  parsed : parseFile? content = some items

namespace ReadableFile

def source (file : ReadableFile) : SourceFile :=
  ⟨some file.name, file.content⟩

def declarations (file : ReadableFile) (known : WellKnown) : List Declaration :=
  DeclarationContext.itemsDeclarations ⟨known, some file.name⟩ [] file.items

def keys (file : ReadableFile) (known : WellKnown) : List Key :=
  (file.declarations known).map Declaration.key

def index (file : ReadableFile) (known : WellKnown) : Index :=
  (({ known } : Index).addItems (some file.name) file.items).value

def owners (file : ReadableFile) (known : WellKnown) : List String :=
  ownersOf known (itemsBlocks file.items)

def implementers (file : ReadableFile) (known : WellKnown) : List String :=
  implementersOf known (itemsBlocks file.items)

section
variable {file : ReadableFile} {known : WellKnown}

theorem mem_keys_of_index (h : key ∈ (file.index known).keys) : key ∈ file.keys known := by
  rcases Index.keys_declareAll h with h | h
  · cases h
  · exact h

theorem founded (h : key ∈ file.keys known) :
    key.Founded known (itemsBlocks file.items) (file.keys known) := by
  obtain ⟨declaration, hd, rfl⟩ := List.mem_map.mp h
  exact DeclarationContext.items_founded ⟨known, some file.name⟩ [] file.items declaration hd

theorem index_settings :
    (file.index known).known = known ∧ (file.index known).files = [file.name] :=
  Index.declareAll_settings ..

end

structure Independent (known : WellKnown) (first second : ReadableFile) : Prop where
  /-- No function, type or constant is declared in both. -/
  declared : ∀ key ∈ first.keys known, key.isDeclared → key ∉ second.keys known
  /-- No type that implements a trait in one is declared in the other. -/
  implemented : ∀ owner ∈ first.implementers known, .type owner ∉ second.keys known
  implements : ∀ owner ∈ second.implementers known, .type owner ∉ first.keys known
  /-- No type has implementation blocks in both. -/
  blocks : ∀ owner ∈ first.owners known, owner ∉ second.owners known

instance (known : WellKnown) (first second : ReadableFile) :
    Decidable (Independent known first second) :=
  decidable_of_iff
    ((∀ key ∈ first.keys known, key.isDeclared → key ∉ second.keys known) ∧
      (∀ owner ∈ first.implementers known, .type owner ∉ second.keys known) ∧
      (∀ owner ∈ second.implementers known, .type owner ∉ first.keys known) ∧
      ∀ owner ∈ first.owners known, owner ∉ second.owners known)
    ⟨fun ⟨declared, implemented, implements, blocks⟩ => ⟨declared, implemented, implements, blocks⟩,
      fun h => ⟨h.declared, h.implemented, h.implements, h.blocks⟩⟩

section
variable {known : WellKnown} {first second : ReadableFile} {name : String}

theorem Independent.symm (h : Independent known first second) : Independent known second first :=
  ⟨fun key hk hd hf => h.declared key hf hd hk, h.implements, h.implemented,
    fun owner hs hf => h.blocks owner hf hs⟩

theorem implementers_subset : first.implementers known ⊆ first.owners known :=
  List.map_subset _ (List.filter_subset_self _)

theorem Independent.not_type (h : Independent known first second)
    (ht : .implements name ∈ first.keys known) : .type name ∉ second.keys known := by
  rcases founded ht with hd | hi
  · exact h.declared _ hd rfl
  · exact h.implemented _ hi

theorem Independent.not_mem_keys (h : Independent known first second)
    (hk : key ∈ first.keys known) : key ∉ second.keys known := by
  intro hs
  cases key with
  | implements owner =>
    -- the type is declared in the second, which the first leaves to it, or has a block in both
    rcases founded hs with hd | hi
    · exact h.not_type hk hd
    · rcases founded hk with hd' | hi'
      · exact h.implements _ hi hd'
      · exact h.blocks _ (implementers_subset hi') (implementers_subset hi)
  | constructor owner => exact h.blocks _ (founded hk) (founded hs)
  | controller name => exact h.declared _ (founded hk) rfl (founded hs)
  | _ => exact h.declared _ hk rfl hs

theorem Independent.admits (h : Independent known first second)
    (hd : declaration ∈ second.declarations known) : (first.index known).Admits declaration := by
  have hk : declaration.key ∈ second.keys known := List.mem_map_of_mem hd
  cases declaration with
  | function entry => exact fun hf => h.not_mem_keys (mem_keys_of_index hf) hk
  | type name entry => exact fun hf => h.not_mem_keys (mem_keys_of_index hf) hk
  | controller name isMapped controller =>
    exact fun hf => h.not_type (mem_keys_of_index hf) (founded hk)
  | _ => trivial

theorem ofSources_single (known : WellKnown) (file : ReadableFile) :
    ∃ added, Index.ofSources known [file.source] = .ok added ∧ added.value = file.index known := by
  simp [Index.ofSources, Index.addSources, Index.addSource, source, file.parsed, index, Except.map]

theorem Independent.addItems_eq_join (h : Independent known first second) :
    ((first.index known).addItems (some second.name) second.items).value =
      (first.index known).join (second.index known) :=
  Index.addItems_eq_join index_settings.1 fun _ hd => h.admits hd

theorem Independent.ofSources (h : Independent known first second) :
    ∃ added, Index.ofSources known [first.source, second.source] = .ok added ∧
      added.value = (first.index known).join (second.index known) := by
  rw [← h.addItems_eq_join]
  simp [Index.ofSources, Index.addSources, Index.addSource, source, first.parsed, second.parsed,
    index, Except.map]

/-- Independent files give indexes that agree, whichever is first. -/
theorem Independent.agree (h : Independent known first second) :
    ((first.index known).join (second.index known)).Agree
      ((second.index known).join (first.index known)) :=
  Index.join_agree (index_settings.1.trans index_settings.1.symm) index_settings.2 index_settings.2
    fun _ hk hs => h.not_mem_keys (mem_keys_of_index hk) (mem_keys_of_index hs)

-- ---------------------------------------------------------------------------
-- Handlers
-- ---------------------------------------------------------------------------

theorem index_consistent (known : WellKnown) (file : ReadableFile) :
    (file.index known).Consistent :=
  (Index.Consistent.empty known).addItems ..

theorem Independent.join_consistent (h : Independent known first second) :
    ((first.index known).join (second.index known)).Consistent :=
  h.addItems_eq_join ▸ (index_consistent known first).addItems ..

theorem Independent.handlers_join (h : Independent known first second) :
    ∃ firstBlock secondBlock,
      ((first.index known).join (second.index known)).handlers.value =
        firstBlock ++ secondBlock ∧
      ((second.index known).join (first.index known)).handlers.value =
        secondBlock ++ firstBlock ∧
      firstBlock.map (·.id) = (first.index known).handlers.value.map (·.id) ∧
      secondBlock.map (·.id) = (second.index known).handlers.value.map (·.id) := by
  let joined := (first.index known).join (second.index known)
  have hids (file : ReadableFile) (hin : ∀ id ∈ (file.index known).handlerOrder,
      id ∈ joined.handlerOrder) :
      (joined.handlersAt (file.index known).handlerOrder).map (·.id) =
        (file.index known).handlers.value.map (·.id) := by
    rw [Index.ids_of_describes (h.join_consistent.handlersAt hin),
      Index.ids_of_describes (index_consistent known file).handlers]
  refine ⟨joined.handlersAt (first.index known).handlerOrder,
    joined.handlersAt (second.index known).handlerOrder, ?_, ?_, ?_, ?_⟩
  · rw [Index.value_handlers, ← Index.handlersAt_append]
    rfl
  · rw [Index.value_handlers, ← h.agree.handlersAt, ← Index.handlersAt_append]
    rfl
  · exact hids first fun id hm => List.mem_append_left _ hm
  · exact hids second fun id hm => List.mem_append_right _ hm

end

end ReadableFile

-- ---------------------------------------------------------------------------
-- Either order
-- ---------------------------------------------------------------------------

/-- Two independent files, taken in in either order, give the same answers to every question and
the same handlers but for the order of the two groups, and every handler has the same contract, the
same diagnostics and the same log. -/
theorem independent_files_commute (known : WellKnown) (first second : ReadableFile)
    (h : ReadableFile.Independent known first second) :
    ∃ onlyFirst onlySecond inOrder swapped,
      Index.ofSources known [first.source] = .ok onlyFirst ∧
      Index.ofSources known [second.source] = .ok onlySecond ∧
      Index.ofSources known [first.source, second.source] = .ok inOrder ∧
      Index.ofSources known [second.source, first.source] = .ok swapped ∧
      (∀ ty, inOrder.value.symbols.typeInfo? ty = swapped.value.symbols.typeInfo? ty) ∧
      (∀ scope site, inOrder.value.symbols.resolveCall? scope site =
        swapped.value.symbols.resolveCall? scope site) ∧
      (∀ scope path, inOrder.value.symbols.resolveReference? scope path =
        swapped.value.symbols.resolveReference? scope path) ∧
      (∀ element, inOrder.value.symbols.body? element = swapped.value.symbols.body? element) ∧
      (∀ scope e, inOrder.value.symbols.foldConstant? scope e =
        swapped.value.symbols.foldConstant? scope e) ∧
      (∀ position, inOrder.value.symbols.locate position =
        swapped.value.symbols.locate position) ∧
      (∃ firstBlock secondBlock,
        inOrder.value.handlers.value = firstBlock ++ secondBlock ∧
        swapped.value.handlers.value = secondBlock ++ firstBlock ∧
        firstBlock.map (·.id) = onlyFirst.value.handlers.value.map (·.id) ∧
        secondBlock.map (·.id) = onlySecond.value.handlers.value.map (·.id)) ∧
      (∀ id, inOrder.value.handler? id = swapped.value.handler? id) ∧
      ∀ options handler, Analyzer.analyze ⟨inOrder.value.symbols, options⟩ handler =
        Analyzer.analyze ⟨swapped.value.symbols, options⟩ handler := by
  obtain ⟨onlyFirst, hfirst, hf⟩ := first.ofSources_single known
  obtain ⟨onlySecond, hsecond, hs⟩ := second.ofSources_single known
  obtain ⟨inOrder, horder, ho⟩ := h.ofSources
  obtain ⟨swapped, hswapped, hw⟩ := h.symm.ofSources
  have hagree : inOrder.value.Agree swapped.value := by
    rw [ho, hw]
    exact h.agree
  have hsymbols := hagree.symbols
  refine ⟨onlyFirst, onlySecond, inOrder, swapped, hfirst, hsecond, horder, hswapped,
    fun _ => by rw [hsymbols.typeInfo?], fun _ _ => by rw [hsymbols.resolveCall?],
    fun _ _ => by rw [hsymbols.resolveReference?], fun _ => by rw [hsymbols.body?],
    fun _ _ => by rw [hsymbols.foldConstant?], fun _ => by rw [hsymbols.locate], ?_,
    fun _ => by rw [hagree.handler?], fun options handler => by rw [hsymbols.analyze]⟩
  rw [ho, hw, hf, hs]
  exact h.handlers_join

def ReadableFile.ofText (name content : String) (h : (parseFile? content).isSome) : ReadableFile :=
  ⟨name, content, (parseFile? content).get h, (Option.some_get h).symm⟩

def orders : ReadableFile :=
  .ofText "orders"
    "struct Order; impl FromStr for Order {} impl Order { fn new(n: u8) -> Order { check(MAX) } }"
    (by decide +kernel)

def checks : ReadableFile :=
  .ofText "checks"
    "const MAX: u8 = 3; #[get_mapping] fn check(n: u8) -> ApiResult<Order> { Order::new(n) }"
    (by decide +kernel)

theorem independent_files_commute_orders :
    ReadableFile.Independent {} orders checks ∧
      ∃ inOrder swapped, Index.ofSources {} [orders.source, checks.source] = .ok inOrder ∧
        Index.ofSources {} [checks.source, orders.source] = .ok swapped ∧
        ∀ options handler, Analyzer.analyze ⟨inOrder.value.symbols, options⟩ handler =
          Analyzer.analyze ⟨swapped.value.symbols, options⟩ handler := by
  have h : ReadableFile.Independent {} orders checks := by decide +kernel
  obtain ⟨_, _, inOrder, swapped, -, -, horder, hswapped, -, -, -, -, -, -, -, -, hanalyze⟩ :=
    independent_files_commute {} orders checks h
  exact ⟨h, inOrder, swapped, horder, hswapped, hanalyze⟩

end EndpointInference

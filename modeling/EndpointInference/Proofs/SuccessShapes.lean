import EndpointInference.ResponseUnion
import EndpointInference.Success

/-!
# The shape of a success, from the return type to the response

One asynchronous wrapper changes nothing but the flag, and a second one hides the result
(`inferSuccess?_wrapped`, `falliblePayload?_twice`). A shape is made in three ways (`Made`): as a
marker, as a stream or as a single payload. What a response may rely on is read off these ways once
(`Made.wellFormed`), so that no payload ends in a response without a body
(`WellFormed.variant_of_payload`).
-/

namespace EndpointInference

-- ---------------------------------------------------------------------------
-- Wrappers
-- ---------------------------------------------------------------------------

namespace WellKnown

variable {known : WellKnown} {ty inner : TypeRef}

theorem awaited?_wrapper (h : known.isAsyncWrapper (.named wrapper) = true) :
    known.awaited? ⟨wrapper, inner :: more⟩ = some inner := by
  have hw : known.isAsyncWrapper ⟨wrapper, inner :: more⟩ = true := h
  simp [awaited?, hw, TypeRef.firstArg?]

theorem awaited?_self (h : known.isAsyncWrapper ty = false) : known.awaited? ty = some ty := by
  simp [awaited?, h]

theorem falliblePayload?_of_awaited (h : known.awaited? ty = some inner) :
    known.falliblePayload? ty = some payload ↔
      inner.args = [payload] ∧ known.isResult inner = true := by
  simp only [falliblePayload?, h, Option.bind_eq_bind, Option.bind_some]
  split
  · next found hargs =>
    rw [hargs]
    cases known.isResult inner <;> simp
  · next hargs =>
    constructor
    · intro hnone
      cases hnone
    · rintro ⟨hone, -⟩
      exact absurd hone (hargs payload)

theorem isAsyncWrapper_of_isResult (hr : known.resultType ∉ known.asyncWrappers)
    (h : known.isResult ty = true) : known.isAsyncWrapper ty = false := by
  have hname : ty.name = known.resultType := by simpa [isResult, TypeRef.is] using h
  rw [isAsyncWrapper, List.any_eq_false]
  intro wrapper hw his
  have hsame : ty.name = wrapper := by simpa [TypeRef.is] using his
  exact hr (hname ▸ hsame ▸ hw)

theorem awaited?_of_isResult (hr : known.resultType ∉ known.asyncWrappers)
    (h : known.isResult (.named result) = true) :
    known.awaited? ⟨result, args⟩ = some ⟨result, args⟩ :=
  awaited?_self (isAsyncWrapper_of_isResult hr h)

/-- The second wrapper is taken for the result, which it is not. -/
theorem falliblePayload?_twice {inner : String} (hr : known.resultType ∉ known.asyncWrappers)
    (ho : known.isAsyncWrapper (.named outer) = true)
    (hi : known.isAsyncWrapper (.named inner) = true) :
    known.falliblePayload? ⟨outer, ⟨inner, args⟩ :: more⟩ = none := by
  rw [Option.eq_none_iff_forall_ne_some]
  intro payload h
  obtain ⟨-, hresult⟩ := (falliblePayload?_of_awaited (awaited?_wrapper ho)).mp h
  have hno : known.isAsyncWrapper (.named inner) = false := isAsyncWrapper_of_isResult hr hresult
  rw [hi] at hno
  cases hno

theorem falliblePayload?_arity (h : known.awaited? ty = some ⟨result, args⟩)
    (hargs : args.length ≠ 1) : known.falliblePayload? ty = none := by
  rw [Option.eq_none_iff_forall_ne_some]
  intro payload hp
  obtain ⟨hone, -⟩ := (falliblePayload?_of_awaited h).mp hp
  exact hargs (congrArg List.length hone)

theorem markerKind?_ne_payload (h : known.markerKind? ty = some kind) : kind ≠ .payload := by
  rintro rfl
  unfold markerKind? at h
  repeat' split at h
  all_goals cases h

end WellKnown

-- ---------------------------------------------------------------------------
-- Identifying properties
-- ---------------------------------------------------------------------------

theorem eq_or_eq_of_toLower {c lower : Char} (upper : Char) (h : c.toLower = lower)
    (hu : upper.val + 32 = lower.val) : c = lower ∨ c = upper := by
  unfold Char.toLower at h
  split at h
  · right
    apply Char.ext
    have hv : c.val + 32 = lower.val := congrArg Char.val h
    grind
  · exact .inl h

theorem isIdName_iff {name : String} : isIdName name = true ↔ name.toLower = "id" := by
  simp only [isIdName, Bool.or_eq_true, beq_iff_eq]
  constructor
  · rintro (((rfl | rfl) | rfl) | rfl) <;> decide +kernel
  · intro h
    have hl : name.toList.map Char.toLower = ['i', 'd'] :=
      String.toList_map.symm.trans (congrArg String.toList h)
    obtain ⟨first, rest, hn, hf, hr⟩ := List.map_eq_cons_iff.mp hl
    obtain ⟨second, rest, rfl, hs, hr⟩ := List.map_eq_cons_iff.mp hr
    obtain rfl := List.map_eq_nil_iff.mp hr
    have ht : name = String.ofList [first, second] := by rw [← hn, String.ofList_toList]
    rcases eq_or_eq_of_toLower 'I' hf rfl with rfl | rfl <;>
      rcases eq_or_eq_of_toLower 'D' hs rfl with rfl | rfl <;> simp [ht]

def visibleNames (properties : List Property) : List String :=
  (properties.filter fun property => property.readable && property.isPublic).map (·.name)

theorem idProperty?_eq (properties : List Property) :
    idProperty? properties = ((visibleNames properties).find? (· == "Id")).or
      ((visibleNames properties).find? isIdName) := by
  simp only [idProperty?, visibleNames, List.find?_map, Option.map_or]
  rfl

theorem mem_of_idProperty? (h : idProperty? properties = some name) :
    name ∈ visibleNames properties ∧ name.toLower = "id" := by
  rw [idProperty?_eq, Option.or_eq_some_iff] at h
  rcases h with h | ⟨-, h⟩
  · obtain rfl : name = "Id" := by simpa using List.find?_some h
    exact ⟨List.mem_of_find?_eq_some h, isIdName_iff.mp rfl⟩
  · exact ⟨List.mem_of_find?_eq_some h, isIdName_iff.mp (List.find?_some h)⟩

theorem idProperty?_exact (h : "Id" ∈ visibleNames properties) :
    idProperty? properties = some "Id" := by
  have hs : ((visibleNames properties).find? (· == "Id")).isSome = true :=
    List.find?_isSome.mpr ⟨"Id", h, beq_self_eq_true _⟩
  obtain ⟨name, hf⟩ := Option.isSome_iff_exists.mp hs
  obtain rfl : name = "Id" := by simpa using List.find?_some hf
  rw [idProperty?_eq, hf, Option.some_or]

theorem idProperty?_isSome (hm : name ∈ visibleNames properties) (hn : name.toLower = "id") :
    (idProperty? properties).isSome = true := by
  have hf : ((visibleNames properties).find? isIdName).isSome = true :=
    List.find?_isSome.mpr ⟨name, hm, isIdName_iff.mpr hn⟩
  rw [idProperty?_eq, Option.isSome_or, hf, Bool.or_true]

def Symbols.visibleNames (symbols : Symbols) (ty : TypeRef) : List String :=
  (symbols.typeInfo? ty).elim [] fun info => EndpointInference.visibleNames info.properties

theorem Symbols.mem_visibleNames {symbols : Symbols} :
    name ∈ symbols.visibleNames ty ↔
      ∃ info, symbols.typeInfo? ty = some info ∧
        name ∈ EndpointInference.visibleNames info.properties := by
  unfold Symbols.visibleNames
  cases symbols.typeInfo? ty <;> simp

-- ---------------------------------------------------------------------------
-- Shapes
-- ---------------------------------------------------------------------------

def Delivery.resultType (payload : TypeRef) : Delivery → ResultType
  | .single => .ok payload
  | .stream element none => .stream element
  | .stream _ (some data) => .serverSentEvents data

inductive SuccessShape.Made (symbols : Symbols) : SuccessShape → Prop
  | marker (kind : SuccessKind) (isAsync : Bool) : kind ≠ .payload →
    Made symbols (.marker kind isAsync)
  | stream (payload element : TypeRef) (eventData : Option TypeRef) (isAsync : Bool) :
    Made symbols
      { payload := some payload, kind := .payload, isAsync, delivery := .stream element eventData }
  | single (payload : TypeRef) (isAsync : Bool) :
    Made symbols
      { payload := some payload
        kind := .payload
        isAsync
        idProperty := (symbols.typeInfo? payload).bind fun info => idProperty? info.properties }

/-- What is relied on behind the inference: a payload is there exactly in shapes of that kind, a
stream and an identifying property need one and exclude each other, and the property is a visible
one called `id` in some case, `Id` before all others. -/
structure SuccessShape.WellFormed (symbols : Symbols) (shape : SuccessShape) : Prop where
  payload_iff : shape.payload.isSome = true ↔ shape.kind = .payload
  kind_of_stream : shape.isStreaming = true → shape.kind = .payload
  kind_of_identified : shape.idProperty.isSome = true → shape.kind = .payload
  not_both : ¬ (shape.isStreaming = true ∧ shape.idProperty.isSome = true)
  visible : ∀ name, shape.idProperty = some name → ∃ payload, shape.payload = some payload ∧
    name ∈ symbols.visibleNames payload ∧ name.toLower = "id"
  identified : ∀ payload, shape.payload = some payload → shape.isStreaming = false →
    (∃ name ∈ symbols.visibleNames payload, name.toLower = "id") →
    shape.idProperty.isSome = true
  exact_first : ∀ payload, shape.payload = some payload → shape.isStreaming = false →
    "Id" ∈ symbols.visibleNames payload → shape.idProperty = some "Id"

section
variable {symbols : Symbols} {known : WellKnown} {shape : SuccessShape}

theorem SuccessShape.ofPayload_made (isAsync : Bool) (payload : TypeRef) :
    Made symbols (ofPayload symbols known isAsync payload) := by
  unfold ofPayload
  split
  · exact .marker _ _ (by simp)
  · split
    · next kind hk => exact .marker _ _ (WellKnown.markerKind?_ne_payload hk)
    · split
      · exact .stream ..
      · exact .single ..

@[simp] theorem SuccessShape.isAsync_ofPayload (isAsync : Bool) (payload : TypeRef) :
    (ofPayload symbols known isAsync payload).isAsync = isAsync := by
  unfold ofPayload
  repeat' split
  all_goals rfl

theorem SuccessShape.ofPayload_async (isAsync : Bool) (payload : TypeRef) :
    { ofPayload symbols known isAsync payload with isAsync := true } =
      ofPayload symbols known true payload := by
  unfold ofPayload
  repeat' split
  all_goals rfl

theorem SuccessShape.Made.wellFormed (h : Made symbols shape) : shape.WellFormed symbols := by
  cases h with
  | marker kind isAsync hk => constructor <;> simp [SuccessShape.marker, isStreaming, hk]
  | stream payload element eventData isAsync => constructor <;> simp [isStreaming]
  | single payload isAsync =>
    refine ⟨by simp, by simp, by simp, by simp [isStreaming], ?_, ?_, ?_⟩
    · intro name hname
      obtain ⟨info, hi, hid⟩ := Option.bind_eq_some_iff.mp hname
      obtain ⟨hm, hl⟩ := mem_of_idProperty? hid
      exact ⟨payload, rfl, Symbols.mem_visibleNames.mpr ⟨info, hi, hm⟩, hl⟩
    · rintro _ ⟨⟩ - ⟨name, hm, hl⟩
      obtain ⟨info, hi, hm⟩ := Symbols.mem_visibleNames.mp hm
      simpa [hi] using idProperty?_isSome hm hl
    · rintro _ ⟨⟩ - hm
      obtain ⟨info, hi, hm⟩ := Symbols.mem_visibleNames.mp hm
      simpa [hi] using idProperty?_exact hm

theorem SuccessShape.WellFormed.variant_of_payload {payload : TypeRef}
    (h : shape.WellFormed symbols) (hp : shape.payload = some payload) :
    shape.variant = ⟨200, shape.delivery.resultType payload, true⟩ := by
  have hk : shape.kind = .payload := h.payload_iff.mp (by rw [hp, Option.isSome_some])
  unfold variant
  rw [hk, hp]
  cases shape.delivery with
  | single => rfl
  | stream element data => cases data <;> rfl

theorem SuccessShape.WellFormed.variant_of_marker (h : shape.WellFormed symbols)
    (hp : shape.payload = none) :
    shape.variant =
      if shape.kind = .created then ⟨201, .created, false⟩ else ⟨204, .noContent, false⟩ := by
  have hk : shape.kind ≠ .payload := by
    intro hk
    rw [← h.payload_iff, hp] at hk
    cases hk
  unfold variant
  cases hkind : shape.kind <;> simp_all

-- ---------------------------------------------------------------------------
-- Inference
-- ---------------------------------------------------------------------------

theorem inferSuccess?_wellFormed (h : inferSuccess? symbols known ty isAsync = some shape) :
    shape.WellFormed symbols := by
  rw [inferSuccess?, Option.map_eq_some_iff] at h
  obtain ⟨payload, -, rfl⟩ := h
  exact (SuccessShape.ofPayload_made ..).wellFormed

theorem inferSuccess?_eq_none (h : known.falliblePayload? ty = none) :
    inferSuccess? symbols known ty isAsync = none := by
  rw [inferSuccess?, h, Option.map_none]

theorem inferSuccess?_result (hr : known.resultType ∉ known.asyncWrappers)
    (h : known.isResult (.named result) = true) :
    inferSuccess? symbols known ⟨result, [payload]⟩ isAsync =
      some (.ofPayload symbols known isAsync payload) := by
  have hp : known.falliblePayload? ⟨result, [payload]⟩ = some payload :=
    (WellKnown.falliblePayload?_of_awaited (WellKnown.awaited?_of_isResult hr h)).mpr ⟨rfl, h⟩
  have hw : known.isAsyncWrapper ⟨result, [payload]⟩ = false :=
    WellKnown.isAsyncWrapper_of_isResult hr h
  rw [inferSuccess?, hp, hw, Bool.or_false, Option.map_some]

theorem inferSuccess?_wrapped (hw : known.isAsyncWrapper (.named wrapper) = true)
    (h : known.isResult (.named result) = true) :
    inferSuccess? symbols known ⟨wrapper, ⟨result, [payload]⟩ :: more⟩ isAsync =
      some (.ofPayload symbols known true payload) := by
  have hp : known.falliblePayload? ⟨wrapper, ⟨result, [payload]⟩ :: more⟩ = some payload :=
    (WellKnown.falliblePayload?_of_awaited (WellKnown.awaited?_wrapper hw)).mpr ⟨rfl, h⟩
  have hw' : known.isAsyncWrapper ⟨wrapper, ⟨result, [payload]⟩ :: more⟩ = true := hw
  rw [inferSuccess?, hp, hw', Bool.or_true, Option.map_some]

end

/-- Where a result is no asynchronous wrapper itself: a result with one argument has a shape, one
wrapper around it sets the flag and changes nothing else, and two wrappers or another number of
arguments leave no shape. Every shape there is is well formed, and its response has status 200 and
a body exactly if there is a payload, which it then carries; of the others, only what was created is
answered with 201. -/
theorem success_shapes_exact (symbols : Symbols) (known : WellKnown) :
    (known.resultType ∉ known.asyncWrappers →
      ∀ result, known.isResult (.named result) = true →
      (∀ payload isAsync, ∃ shape,
        inferSuccess? symbols known ⟨result, [payload]⟩ isAsync = some shape ∧
        shape.isAsync = isAsync ∧
        ∀ wrapper, known.isAsyncWrapper (.named wrapper) = true →
          inferSuccess? symbols known ⟨wrapper, [⟨result, [payload]⟩]⟩ isAsync =
            some { shape with isAsync := true }) ∧
      (∀ outer inner payload isAsync, known.isAsyncWrapper (.named outer) = true →
        known.isAsyncWrapper (.named inner) = true →
        inferSuccess? symbols known ⟨outer, [⟨inner, [⟨result, [payload]⟩]⟩]⟩ isAsync = none) ∧
      (∀ args isAsync, args.length ≠ 1 →
        inferSuccess? symbols known ⟨result, args⟩ isAsync = none ∧
        ∀ wrapper, known.isAsyncWrapper (.named wrapper) = true →
          inferSuccess? symbols known ⟨wrapper, [⟨result, args⟩]⟩ isAsync = none)) ∧
    (∀ ty isAsync shape, inferSuccess? symbols known ty isAsync = some shape →
      shape.WellFormed symbols ∧
      (shape.variant.status = 200 ∧ shape.variant.hasBody = true ↔ shape.payload.isSome = true) ∧
      (∀ payload, shape.payload = some payload →
        shape.variant.resultType = shape.delivery.resultType payload) ∧
      (shape.payload = none → shape.variant.hasBody = false ∧
        shape.variant.status = if shape.kind = .created then 201 else 204)) := by
  refine ⟨fun hr result h => ⟨?_, ?_, ?_⟩, ?_⟩
  · intro payload isAsync
    refine ⟨_, inferSuccess?_result hr h, SuccessShape.isAsync_ofPayload .., ?_⟩
    intro wrapper hw
    rw [inferSuccess?_wrapped hw h, SuccessShape.ofPayload_async]
  · intro outer inner payload isAsync ho hi
    exact inferSuccess?_eq_none (WellKnown.falliblePayload?_twice hr ho hi)
  · intro args isAsync hargs
    refine ⟨inferSuccess?_eq_none
      (WellKnown.falliblePayload?_arity (WellKnown.awaited?_of_isResult hr h) hargs), ?_⟩
    intro wrapper hw
    exact inferSuccess?_eq_none
      (WellKnown.falliblePayload?_arity (WellKnown.awaited?_wrapper hw) hargs)
  · intro ty isAsync shape hs
    have hf : shape.WellFormed symbols := inferSuccess?_wellFormed hs
    refine ⟨hf, ?_⟩
    cases hp : shape.payload with
    | some payload =>
      rw [hf.variant_of_payload hp]
      simp
    | none =>
      rw [hf.variant_of_marker hp]
      by_cases hk : shape.kind = .created <;> simp [hk]

theorem success_shapes_exact_future :
    let known : WellKnown := {}
    let symbols : Symbols := .ofTypes
      [{ ty := .named "User"
         kind := .struct
         properties :=
           [{ name := "ID", ty := .named "i64", isPublic := false },
            { name := "id", ty := .named "i64" }, { name := "Id", ty := .named "i64" }] }]
    let result : TypeRef := ⟨"api::ApiResult", [.named "User"]⟩
    known.resultType ∉ known.asyncWrappers ∧
    known.isResult (.named "api::ApiResult") = true ∧
    known.isAsyncWrapper (.named "BoxFuture") = true ∧
    ∃ shape, inferSuccess? symbols known result false = some shape ∧
      inferSuccess? symbols known ⟨"BoxFuture", [result]⟩ false =
        some { shape with isAsync := true } ∧
      shape.idProperty = some "Id" ∧ shape.variant.status = 200 := by
  intro known symbols result
  have hr : known.resultType ∉ known.asyncWrappers := by decide
  have hresult : known.isResult (.named "api::ApiResult") = true := by decide +kernel
  have hwrapper : known.isAsyncWrapper (.named "BoxFuture") = true := by decide +kernel
  obtain ⟨hinvariant, hformed⟩ := success_shapes_exact symbols known
  obtain ⟨shape, hs, -, hw⟩ := (hinvariant hr "api::ApiResult" hresult).1 (.named "User") false
  obtain ⟨hwell, hstatus, -, -⟩ := hformed _ _ _ hs
  have hshape : inferSuccess? symbols known result false = some
      { payload := some (.named "User"), kind := .payload, idProperty := some "Id" } := by
    decide +kernel
  obtain rfl := Option.some.inj (hs.symm.trans hshape)
  exact ⟨hr, hresult, hwrapper, _, hs, hw "BoxFuture" hwrapper,
    hwell.exact_first (.named "User") rfl rfl (by decide +kernel), (hstatus.mpr rfl).1⟩

end EndpointInference

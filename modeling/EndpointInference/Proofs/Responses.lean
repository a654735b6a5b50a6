import EndpointInference.Proofs.Union

/-!
# Which responses there are, and in which order

`Contributes` says which responses the parts of a contract contribute, on which condition, and at
which `Place`; places stand in a fixed order. `build_exact`: the responses of a handler are the
contributed ones, each once, by status, and those of the same status in the order in which they are
contributed first.
-/

namespace EndpointInference

-- ---------------------------------------------------------------------------
-- The nodes of parameter trees
-- ---------------------------------------------------------------------------

namespace EndpointParameter

inductive InForest (params : List EndpointParameter) : EndpointParameter → Prop
  | root : param ∈ params → InForest params param
  | child : InForest params parent → param ∈ parent.children → InForest params param

theorem flatten_eq (param : EndpointParameter) :
    param.flatten = param :: flattenList param.children := by
  cases param
  simp [flatten]

theorem flattenList_eq (params : List EndpointParameter) :
    flattenList params = params.flatMap flatten := by
  induction params with
  | nil => simp [flattenList]
  | cons param rest ih => simp [flattenList, ih]

theorem inForest_of_mem_flatten (h : InForest params param) (hn : node ∈ param.flatten) :
    InForest params node := by
  rw [flatten_eq, flattenList_eq] at hn
  rcases List.mem_cons.mp hn with rfl | hn
  · exact h
  · obtain ⟨child, hc, hn⟩ := List.mem_flatMap.mp hn
    exact inForest_of_mem_flatten (h.child hc) hn
termination_by sizeOf param
decreasing_by
  cases param
  have := List.sizeOf_lt_of_mem hc
  simp_all
  omega

theorem mem_flattenList_of_inForest (h : InForest params param) (hn : node ∈ param.flatten) :
    node ∈ flattenList params := by
  induction h with
  | root hp =>
    rw [flattenList_eq]
    exact List.mem_flatMap.mpr ⟨_, hp, hn⟩
  | child _ hc ih =>
    apply ih
    rw [flatten_eq, flattenList_eq]
    exact List.mem_cons_of_mem _ (List.mem_flatMap.mpr ⟨_, hc, hn⟩)

theorem mem_flattenList : node ∈ flattenList params ↔ InForest params node := by
  constructor
  · intro h
    rw [flattenList_eq] at h
    obtain ⟨param, hp, hn⟩ := List.mem_flatMap.mp h
    exact inForest_of_mem_flatten (.root hp) hn
  · intro h
    exact mem_flattenList_of_inForest h (by simp [flatten_eq])

theorem readTypedBody_iff {params : List EndpointParameter} :
    readTypedBody params = true ↔ ∃ node, InForest params node ∧
      (node.source = .body ∨ node.source.isFormLike = true) := by
  simp [readTypedBody, mem_flattenList, BindingSource.readsTypedBody]

end EndpointParameter

-- ---------------------------------------------------------------------------
-- Contributions
-- ---------------------------------------------------------------------------

def ErrorKind.resultType : ErrorKind → ResultType
  | .validation => .validationProblem
  | .unauthorized => .unauthorized
  | .forbidden => .forbidden
  | .notFound => .notFound
  | .conflict => .conflict
  | .failure | .unexpected => .internalServerError

def ResultType.isSuccess : ResultType → Bool
  | .ok _ | .stream _ | .serverSentEvents _ | .created | .noContent => true
  | _ => false

namespace ResponseUnion

inductive Place
  | success
  | badRequest
  | unsupportedMediaType
  | unauthorized
  | forbidden
  | tooManyRequests
  | kind (position : Nat)
  | internalServerError
  | custom (position : Nat)

namespace Place

def stage : Place → Nat
  | success => 0
  | badRequest => 1
  | unsupportedMediaType => 2
  | unauthorized => 3
  | forbidden => 4
  | tooManyRequests => 5
  | kind _ => 6
  | internalServerError => 7
  | custom _ => 8

def position : Place → Nat
  | kind position | custom position => position
  | _ => 0

def Before (a b : Place) : Prop :=
  a.stage < b.stage ∨ a.stage = b.stage ∧ a.position < b.position

end Place

section
variable (handler : Handler) (success : SuccessShape) (parameters : List EndpointParameter)
  (errors : ErrorOutcomes)

def Contributes (key : UInt16 × ResultType) : Place → Prop
  | .success => key = success.variant.key
  | .badRequest => key = (400, .badRequest)
  | .unsupportedMediaType =>
    (∃ node, EndpointParameter.InForest parameters node ∧
      (node.source = .body ∨ node.source.isFormLike = true)) ∧ key = (415, .unsupportedMediaType)
  | .unauthorized =>
    (handler.middleware.requiresAuthorization = true ∧
      handler.middleware.allowAnonymous = false) ∧ key = (401, .unauthorized)
  | .forbidden =>
    (handler.middleware.requiresAuthorization = true ∧
      handler.middleware.allowAnonymous = false) ∧ key = (403, .forbidden)
  | .tooManyRequests =>
    (handler.middleware.rateLimited = true ∧
      handler.middleware.rateLimitDisabled = false) ∧ key = (429, .tooManyRequests)
  | .kind position =>
    ∃ kind, errors.kinds[position]? = some kind ∧
      kind ≠ .failure ∧ kind ≠ .unexpected ∧ key = (kind.status, kind.resultType)
  | .internalServerError => key = (500, .internalServerError)
  | .custom position =>
    ∃ custom, errors.customCodes[position]? = some custom ∧
      key = (custom.status, .problem custom.code)

def placed : List (Place × ResponseVariant) :=
  [(.success, success.variant), (.badRequest, ⟨400, .badRequest, true⟩)] ++
    (if EndpointParameter.readTypedBody parameters then
      [(.unsupportedMediaType, ⟨415, .unsupportedMediaType, false⟩)] else []) ++
    (if handler.middleware.authorizationActive then
      [(.unauthorized, ⟨401, .unauthorized, false⟩), (.forbidden, ⟨403, .forbidden, false⟩)]
      else []) ++
    (if handler.middleware.rateLimitActive then
      [(.tooManyRequests, ⟨429, .tooManyRequests, false⟩)] else []) ++
    (errors.kinds.zipIdx.filterMap fun (kind, position) =>
      kind.variant?.map fun variant => (.kind position, variant)) ++
    [(.internalServerError, ⟨500, .internalServerError, true⟩)] ++
    errors.customCodes.zipIdx.map fun (custom, position) => (.custom position, custom.variant)

theorem map_placed :
    (placed handler success parameters errors).map (·.2) =
      contributions handler success parameters errors := by
  have hkinds : (errors.kinds.zipIdx.filterMap fun (kind, position) =>
      kind.variant?.map fun variant => (Place.kind position, variant)).map (·.2) =
        errors.kinds.filterMap ErrorKind.variant? := by
    conv_rhs => rw [← List.zipIdx_map_fst 0 errors.kinds, List.filterMap_map]
    simp [List.map_filterMap, Function.comp_def]
  have hcustom : (errors.customCodes.zipIdx.map fun (custom, position) =>
      (Place.custom position, custom.variant)).map (·.2) =
        errors.customCodes.map CustomErrorCode.variant := by
    conv_rhs => rw [← List.zipIdx_map_fst 0 errors.customCodes, List.map_map]
    simp [Function.comp_def]
  simp only [placed, contributions, List.map_append, hkinds, hcustom, apply_ite (List.map _)]
  rfl

structure InOrder (first last : Nat) (xs : List (Place × ResponseVariant)) : Prop where
  pairwise : xs.Pairwise fun a b => a.1.Before b.1
  stages : ∀ x ∈ xs, first ≤ x.1.stage ∧ x.1.stage < last

theorem InOrder.append (hx : InOrder first middle xs) (hy : InOrder middle last ys)
    (hf : first ≤ middle) (hl : middle ≤ last) : InOrder first last (xs ++ ys) where
  pairwise := by
    refine List.pairwise_append.mpr ⟨hx.pairwise, hy.pairwise, fun x hxs y hys => .inl ?_⟩
    exact Nat.lt_of_lt_of_le (hx.stages x hxs).2 (hy.stages y hys).1
  stages x h := by
    rcases List.mem_append.mp h with h | h
    · exact ⟨(hx.stages x h).1, Nat.lt_of_lt_of_le (hx.stages x h).2 hl⟩
    · exact ⟨Nat.le_trans hf (hy.stages x h).1, (hy.stages x h).2⟩

theorem InOrder.ite (h : InOrder first last xs) (condition : Bool) :
    InOrder first last (if condition then xs else []) := by
  split
  · exact h
  · exact ⟨.nil, nofun⟩

theorem pairwise_zipIdx (xs : List α) : xs.zipIdx.Pairwise fun a b => a.2 < b.2 := by
  rw [← List.pairwise_map (f := Prod.snd) (R := (· < ·)), List.zipIdx_map_snd]
  exact List.pairwise_lt_range'

theorem inOrder_kinds (kinds : List ErrorKind) :
    InOrder 6 7 (kinds.zipIdx.filterMap fun (kind, position) =>
      kind.variant?.map fun variant => (Place.kind position, variant)) where
  pairwise := by
    refine List.pairwise_filterMap.mpr ((pairwise_zipIdx kinds).imp fun hlt a ha b hb => ?_)
    obtain ⟨_, -, rfl⟩ := Option.map_eq_some_iff.mp ha
    obtain ⟨_, -, rfl⟩ := Option.map_eq_some_iff.mp hb
    exact .inr ⟨rfl, hlt⟩
  stages x h := by
    obtain ⟨_, -, h⟩ := List.mem_filterMap.mp h
    obtain ⟨_, -, rfl⟩ := Option.map_eq_some_iff.mp h
    simp [Place.stage]

theorem inOrder_custom (codes : List CustomErrorCode) :
    InOrder 8 9 (codes.zipIdx.map fun (custom, position) =>
      (Place.custom position, custom.variant)) where
  pairwise := List.pairwise_map.mpr ((pairwise_zipIdx codes).imp fun hlt => .inr ⟨rfl, hlt⟩)
  stages x h := by
    obtain ⟨_, -, rfl⟩ := List.mem_map.mp h
    simp [Place.stage]

theorem pairwise_placed :
    (placed handler success parameters errors).Pairwise fun a b => a.1.Before b.1 := by
  have hstart : InOrder 0 2
      [(.success, success.variant), (.badRequest, ⟨400, .badRequest, true⟩)] :=
    ⟨by simp [Place.Before, Place.stage], by simp [Place.stage]⟩
  have hmedia : InOrder 2 3 [(.unsupportedMediaType, ⟨415, .unsupportedMediaType, false⟩)] :=
    ⟨List.pairwise_singleton .., by simp [Place.stage]⟩
  have hauth : InOrder 3 5
      [(.unauthorized, ⟨401, .unauthorized, false⟩), (.forbidden, ⟨403, .forbidden, false⟩)] :=
    ⟨by simp [Place.Before, Place.stage], by simp [Place.stage]⟩
  have hrate : InOrder 5 6 [(.tooManyRequests, ⟨429, .tooManyRequests, false⟩)] :=
    ⟨List.pairwise_singleton .., by simp [Place.stage]⟩
  have hserver : InOrder 7 8 [(.internalServerError, ⟨500, .internalServerError, true⟩)] :=
    ⟨List.pairwise_singleton .., by simp [Place.stage]⟩
  have hbody := hstart.append (hmedia.ite (EndpointParameter.readTypedBody parameters))
    (by decide) (by decide)
  have hauthorized := hbody.append (hauth.ite handler.middleware.authorizationActive)
    (by decide) (by decide)
  have hlimited := hauthorized.append (hrate.ite handler.middleware.rateLimitActive)
    (by decide) (by decide)
  have hkinds := hlimited.append (inOrder_kinds errors.kinds) (by decide) (by decide)
  have hall := (hkinds.append hserver (by decide) (by decide)).append
    (inOrder_custom errors.customCodes) (by decide) (by decide)
  exact hall.pairwise

theorem exists_variant?_iff {kind : ErrorKind} :
    (∃ variant, kind.variant? = some variant ∧ key = variant.key) ↔
      kind ≠ .failure ∧ kind ≠ .unexpected ∧ key = (kind.status, kind.resultType) := by
  cases kind <;> simp [ErrorKind.variant?, ResponseVariant.key, ErrorKind.resultType]

theorem exists_placed_iff {place : Place} :
    (∃ variant, (place, variant) ∈ placed handler success parameters errors ∧
        key = variant.key) ↔ Contributes handler success parameters errors key place := by
  cases place with
  | success => simp [placed, Contributes]
  | badRequest => simp [placed, Contributes, ResponseVariant.key]
  | unsupportedMediaType =>
    simp [placed, Contributes, EndpointParameter.readTypedBody_iff, ResponseVariant.key]
  | unauthorized => simp [placed, Contributes, Middleware.authorizationActive, ResponseVariant.key]
  | forbidden => simp [placed, Contributes, Middleware.authorizationActive, ResponseVariant.key]
  | tooManyRequests => simp [placed, Contributes, Middleware.rateLimitActive, ResponseVariant.key]
  | kind position =>
    have hmem (variant : ResponseVariant) :
        (.kind position, variant) ∈ placed handler success parameters errors ↔
          ∃ kind, errors.kinds[position]? = some kind ∧ kind.variant? = some variant := by
      simp [placed, List.mem_zipIdx_iff_getElem?]
    simp only [hmem, Contributes, ← exists_variant?_iff]
    constructor
    · rintro ⟨variant, ⟨kind, hk, hv⟩, rfl⟩
      exact ⟨kind, hk, variant, hv, rfl⟩
    · rintro ⟨kind, hk, variant, hv, rfl⟩
      exact ⟨variant, ⟨kind, hk, hv⟩, rfl⟩
  | internalServerError => simp [placed, Contributes, ResponseVariant.key]
  | custom position =>
    simp [placed, Contributes, List.mem_zipIdx_iff_getElem?, CustomErrorCode.variant,
      ResponseVariant.key]

theorem mem_keys_contributions :
    key ∈ (contributions handler success parameters errors).map ResponseVariant.key ↔
      ∃ place, Contributes handler success parameters errors key place := by
  simp only [← exists_placed_iff, ← map_placed, List.map_map, List.mem_map, Prod.exists,
    Function.comp_apply, eq_comm]

theorem Precedes.place_before
    (h : Precedes (contributions handler success parameters errors) a b) :
    ∃ place, Contributes handler success parameters errors a.key place ∧
      ∀ other, Contributes handler success parameters errors b.key other → place.Before other := by
  obtain ⟨before, after, hx, hn⟩ := h
  rw [← map_placed] at hx
  obtain ⟨first, second, hp, rfl, hs⟩ := List.map_eq_append_iff.mp hx
  obtain ⟨⟨place, variant⟩, rest, rfl, rfl, rfl⟩ := List.map_eq_cons_iff.mp hs
  have horder := pairwise_placed handler success parameters errors
  rw [hp] at horder
  refine ⟨place, (exists_placed_iff ..).mp ⟨variant, by simp [hp], rfl⟩, fun other ho => ?_⟩
  obtain ⟨found, hf, hk⟩ := (exists_placed_iff ..).mpr ho
  rw [hp] at hf
  -- not before, nor there, where the other response has not been met yet
  rcases List.mem_append.mp hf with hf | hf
  · have hm : found ∈ first.map (·.2) := List.mem_map_of_mem hf
    exact absurd hk.symm (hn found (List.mem_append_left _ hm))
  · rcases List.mem_cons.mp hf with he | hf
    · cases he
      exact absurd hk.symm (hn _ (by simp))
    · have htail := (List.pairwise_append.mp horder).2.1
      exact List.rel_of_pairwise_cons htail hf

theorem success_key_ne (success : SuccessShape) (h : resultType.isSuccess = false) :
    (status, resultType) ≠ success.variant.key := by
  have hs : success.variant.resultType.isSuccess = true := by
    unfold SuccessShape.variant
    split <;> rfl
  intro he
  rw [ResponseVariant.key, Prod.mk.injEq] at he
  rw [he.2, hs] at h
  cases h

theorem isSuccess_resultType (kind : ErrorKind) : kind.resultType.isSuccess = false := by
  cases kind <;> rfl

theorem resultType_injective {kind other : ErrorKind} (hf : other ≠ .failure)
    (hu : other ≠ .unexpected) (h : kind.resultType = other.resultType) : kind = other := by
  cases kind <;> cases other <;> simp_all [ErrorKind.resultType]

theorem contributed_kind_iff (kind : ErrorKind) (hf : kind ≠ .failure) (hu : kind ≠ .unexpected) :
    (∃ place, Contributes handler success parameters errors (kind.status, kind.resultType) place) ↔
      ((handler.middleware.requiresAuthorization = true ∧
        handler.middleware.allowAnonymous = false) ∧ (kind = .unauthorized ∨ kind = .forbidden)) ∨
      kind ∈ errors.kinds := by
  constructor
  · rintro ⟨place, h⟩
    cases place with
    | success => exact absurd h (success_key_ne success (isSuccess_resultType kind))
    | unauthorized =>
      exact .inl ⟨h.1, .inl (resultType_injective (by simp) (by simp) (congrArg Prod.snd h.2))⟩
    | forbidden =>
      exact .inl ⟨h.1, .inr (resultType_injective (by simp) (by simp) (congrArg Prod.snd h.2))⟩
    | kind position =>
      obtain ⟨other, ho, hf, hu, he⟩ := h
      obtain rfl := resultType_injective hf hu (congrArg Prod.snd he)
      exact .inr (List.mem_of_getElem? ho)
    | _ => cases kind <;> simp_all [Contributes, ErrorKind.resultType]
  · rintro (⟨h, rfl | rfl⟩ | h)
    · exact ⟨.unauthorized, h, rfl⟩
    · exact ⟨.forbidden, h, rfl⟩
    · obtain ⟨position, hp⟩ := List.mem_iff_getElem?.mp h
      exact ⟨.kind position, kind, hp, hf, hu, rfl⟩

theorem contributed_problem_iff {custom : CustomErrorCode} :
    (∃ place, Contributes handler success parameters errors
      (custom.status, .problem custom.code) place) ↔ custom ∈ errors.customCodes := by
  constructor
  · rintro ⟨place, h⟩
    cases place with
    | success => exact absurd h (success_key_ne success rfl)
    | kind position =>
      obtain ⟨kind, -, -, -, he⟩ := h
      cases kind <;> simp [ErrorKind.resultType] at he
    | custom position =>
      obtain ⟨other, ho, he⟩ := h
      obtain rfl : custom = other := by
        cases custom; cases other
        simp_all
      exact List.mem_of_getElem? ho
    | _ => simp [Contributes] at h
  · intro h
    obtain ⟨position, hp⟩ := List.mem_iff_getElem?.mp h
    exact ⟨.custom position, custom, hp, rfl⟩

theorem contributed_mediaType_iff :
    (∃ place, Contributes handler success parameters errors (415, .unsupportedMediaType) place) ↔
      ∃ node, EndpointParameter.InForest parameters node ∧
        (node.source = .body ∨ node.source.isFormLike = true) := by
  constructor
  · rintro ⟨place, h⟩
    cases place with
    | success => exact absurd h (success_key_ne success rfl)
    | unsupportedMediaType => exact h.1
    | kind position =>
      obtain ⟨kind, -, -, -, he⟩ := h
      cases kind <;> simp [ErrorKind.resultType] at he
    | _ => simp [Contributes] at h
  · intro h
    exact ⟨.unsupportedMediaType, h, rfl⟩

theorem contributed_rateLimit_iff :
    (∃ place, Contributes handler success parameters errors (429, .tooManyRequests) place) ↔
      handler.middleware.rateLimited = true ∧ handler.middleware.rateLimitDisabled = false := by
  constructor
  · rintro ⟨place, h⟩
    cases place with
    | success => exact absurd h (success_key_ne success rfl)
    | tooManyRequests => exact h.1
    | kind position =>
      obtain ⟨kind, -, -, -, he⟩ := h
      cases kind <;> simp [ErrorKind.resultType] at he
    | _ => simp [Contributes] at h
  · intro h
    exact ⟨.tooManyRequests, h, rfl⟩

theorem contributed_of_mem_kinds (h : kind ∈ errors.kinds) :
    ∃ place,
      Contributes handler success parameters errors (kind.status, kind.resultType) place := by
  by_cases hf : kind = .failure
  · subst hf
    exact ⟨.internalServerError, rfl⟩
  by_cases hu : kind = .unexpected
  · subst hu
    exact ⟨.internalServerError, rfl⟩
  exact (contributed_kind_iff handler success parameters errors kind hf hu).mpr (.inr h)

theorem value_build (options : Options) :
    (build options handler success parameters errors).value =
      variants handler success parameters errors := by
  unfold build
  dsimp only
  split <;> rfl

end

/-- The responses of a handler are the contributed ones, whatever the maximum: by status, each once,
and those of the same status by where they are contributed first. -/
theorem build_exact (options : Options) (handler : Handler) (success : SuccessShape)
    (parameters : List EndpointParameter) (errors : ErrorOutcomes) :
    let result := (build options handler success parameters errors).value
    let keys := result.map ResponseVariant.key
    let Contributed := Contributes handler success parameters errors
    let authorized := handler.middleware.requiresAuthorization = true ∧
      handler.middleware.allowAnonymous = false
    (result.Pairwise fun a b => a.status ≤ b.status ∧ a.key ≠ b.key ∧
      (a.status = b.status → ∃ place, Contributed a.key place ∧
        ∀ other, Contributed b.key other → place.Before other)) ∧
    (∀ key, key ∈ keys ↔ ∃ place, Contributed key place) ∧
    (400, .badRequest) ∈ keys ∧
    (500, .internalServerError) ∈ keys ∧
    ((415, .unsupportedMediaType) ∈ keys ↔
      ∃ node, EndpointParameter.InForest parameters node ∧
        (node.source = .body ∨ node.source.isFormLike = true)) ∧
    ((401, .unauthorized) ∈ keys ↔ authorized ∨ .unauthorized ∈ errors.kinds) ∧
    ((403, .forbidden) ∈ keys ↔ authorized ∨ .forbidden ∈ errors.kinds) ∧
    ((429, .tooManyRequests) ∈ keys ↔ handler.middleware.rateLimited = true ∧
      handler.middleware.rateLimitDisabled = false) ∧
    (∀ kind ∈ errors.kinds, (kind.status, kind.resultType) ∈ keys) ∧
    (∀ custom : CustomErrorCode, (custom.status, .problem custom.code) ∈ keys ↔
      custom ∈ errors.customCodes) := by
  intro result keys Contributed authorized
  have hresult : result = variants handler success parameters errors := value_build ..
  have hkeys (key : UInt16 × ResultType) : key ∈ keys ↔ ∃ place, Contributed key place := by
    simp only [keys, hresult]
    exact mem_keys_sorted.trans (mem_keys_contributions ..)
  refine ⟨?_, hkeys, (hkeys _).mpr ⟨.badRequest, rfl⟩, (hkeys _).mpr ⟨.internalServerError, rfl⟩,
    (hkeys _).trans (contributed_mediaType_iff ..), (hkeys _).trans ?_, (hkeys _).trans ?_,
    (hkeys _).trans (contributed_rateLimit_iff ..),
    fun kind hk => (hkeys _).mpr (contributed_of_mem_kinds _ _ _ _ hk),
    fun custom => (hkeys _).trans (contributed_problem_iff ..)⟩
  · rw [hresult]
    refine (pairwise_sorted _).imp fun ⟨hle, hne, hp⟩ => ⟨hle, hne, fun hs => ?_⟩
    exact Precedes.place_before handler success parameters errors (hp hs)
  · refine (contributed_kind_iff handler success parameters errors .unauthorized nofun
      nofun).trans ?_
    simp [authorized]
  · refine (contributed_kind_iff handler success parameters errors .forbidden nofun nofun).trans ?_
    simp [authorized]

end ResponseUnion

end EndpointInference

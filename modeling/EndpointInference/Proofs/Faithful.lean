import EndpointInference.Serial.Encode
import Mathlib.Data.List.Nodup

/-!
# Serialized forms lose nothing

Data is compared as it is exchanged: items of a list by position, fields of a record by name, in
whatever order they stand (`Data.Same`). The parts of a handler, a type or a contract are the same
data only where they are equal, and the parts of a record are told apart by their names.
`serialized_forms_faithful`: so handlers, types and contracts with the same data are equal.
-/

namespace EndpointInference

-- ---------------------------------------------------------------------------
-- The same data
-- ---------------------------------------------------------------------------

namespace Data

mutual
/-- The same data, where the order of fields does not count and no two fields of a record have the
same name. -/
def Same : Data → Data → Prop
  | .null, .null => True
  | .bool a, .bool b => a = b
  | .number a, .number b => a = b
  | .text a, .text b => a = b
  | .list items, .list others => SameItems items others
  | .record fields, .record others => fields.length = others.length ∧ SameFields fields others
  | _, _ => False

def SameItems : List Data → List Data → Prop
  | [], [] => True
  | item :: rest, other :: others => item.Same other ∧ SameItems rest others
  | _, _ => False

def SameFields : List (String × Data) → List (String × Data) → Prop
  | [], _ => True
  | (name, value) :: rest, others =>
    (∃ other, others.lookup name = some other ∧ value.Same other) ∧ SameFields rest others
end

section
variable {items others : List Data} {fields otherFields : List (String × Data)}

@[simp] theorem same_bool : (bool a).Same (bool b) ↔ a = b := .rfl

@[simp] theorem same_number : (number a).Same (number b) ↔ a = b := .rfl

@[simp] theorem same_text : (text a).Same (text b) ↔ a = b := .rfl

@[simp] theorem same_list : (list items).Same (list others) ↔ SameItems items others := .rfl

@[simp] theorem same_record : (record fields).Same (record otherFields) ↔
    fields.length = otherFields.length ∧ SameFields fields otherFields := .rfl

@[simp] theorem same_text_record : ¬(text a).Same (record fields) := id

@[simp] theorem same_record_text : ¬(record fields).Same (text a) := id

@[simp] theorem same_null_left {data : Data} : null.Same data ↔ data = null := by
  cases data with
  | null => exact iff_of_true trivial rfl
  | _ => exact iff_of_false id nofun

@[simp] theorem same_null_right {data : Data} : data.Same null ↔ data = null := by
  cases data with
  | null => exact iff_of_true trivial rfl
  | _ => exact iff_of_false id nofun

@[simp] theorem sameItems_nil : SameItems [] [] := trivial

@[simp] theorem sameItems_nil_cons : ¬SameItems [] (other :: others) := id

@[simp] theorem sameItems_cons_nil : ¬SameItems (item :: items) [] := id

@[simp] theorem sameItems_cons_cons :
    SameItems (item :: items) (other :: others) ↔ item.Same other ∧ SameItems items others := .rfl

@[simp] theorem sameFields_nil : SameFields [] otherFields := trivial

@[simp] theorem sameFields_cons : SameFields ((name, value) :: fields) otherFields ↔
    (∃ other, otherFields.lookup name = some other ∧ value.Same other) ∧
      SameFields fields otherFields := .rfl

end

/-- Values are equal exactly where they are the same data. -/
abbrev Faithful (encode : α → Data) : Prop :=
  ∀ a b, (encode a).Same (encode b) ↔ a = b

section
variable {encode : α → Data}

theorem Faithful.injective (h : Faithful encode) : Function.Injective encode := by
  intro a b hd
  have hs : (encode a).Same (encode a) := (h a a).mpr rfl
  rw [hd] at hs
  exact (h a b).mp (hd ▸ hs)

theorem Faithful.ofList (h : Faithful encode) : Faithful (Data.ofList encode) := by
  intro as bs
  simp only [Data.ofList, same_list]
  induction as generalizing bs with
  | nil => cases bs <;> simp
  | cons a as ih =>
    cases bs with
    | nil => simp
    | cons b bs => simp [h a b, ih bs]

theorem Faithful.ofOption (h : Faithful encode) (hn : ∀ a, encode a ≠ null) :
    Faithful (Data.ofOption encode) := by
  intro a b
  cases a with
  | none => cases b <;> simp [Data.ofOption, hn]
  | some a =>
    cases b with
    | none => simp [Data.ofOption, hn]
    | some b => simp [Data.ofOption, h a b]

end

theorem faithful_text : Faithful text :=
  fun _ _ => same_text

end Data

open Data (Faithful)

-- ---------------------------------------------------------------------------
-- Names
-- ---------------------------------------------------------------------------

theorem name_eq_iff {name : α → String} (all : List α) (h : (all.map name).Nodup) (ha : a ∈ all)
    (hb : b ∈ all) : name a = name b ↔ a = b :=
  ⟨List.inj_on_of_nodup_map h ha hb, congrArg name⟩

/-- Choices are told apart if those without data have different names, and those with data are
records that are told apart. -/
theorem faithful_of_plain {encode : α → Data} {name : α → String} {Tagged : α → Prop}
    (plain : List α) (hnames : (plain.map name).Nodup)
    (hcases : ∀ a, a ∈ plain ∧ encode a = .text (name a) ∨ Tagged a)
    (hrecord : ∀ a, Tagged a → ∃ fields, encode a = .record fields)
    (htagged : ∀ a b, Tagged a → Tagged b → ((encode a).Same (encode b) ↔ a = b)) :
    Faithful encode := by
  intro a b
  rcases hcases a with ⟨ha, hta⟩ | ha <;> rcases hcases b with ⟨hb, htb⟩ | hb
  · rw [hta, htb, Data.same_text]
    exact name_eq_iff plain hnames ha hb
  · obtain ⟨fields, hfields⟩ := hrecord b hb
    refine iff_of_false (by simp [hta, hfields]) ?_
    rintro rfl
    cases hta.symm.trans hfields
  · obtain ⟨fields, hfields⟩ := hrecord a ha
    refine iff_of_false (by simp [htb, hfields]) ?_
    rintro rfl
    cases htb.symm.trans hfields
  · exact htagged a b ha hb

@[simp] theorem SpecialRole.name_inj {a b : SpecialRole} : a.name = b.name ↔ a = b :=
  name_eq_iff all (by decide) (by cases a <;> decide) (by cases b <;> decide)

@[simp] theorem CustomBinding.name_inj {a b : CustomBinding} : a.name = b.name ↔ a = b :=
  name_eq_iff all (by decide) (by cases a <;> decide) (by cases b <;> decide)

@[simp] theorem TypeKind.name_inj {a b : TypeKind} : a.name = b.name ↔ a = b :=
  name_eq_iff all (by decide) (by cases a <;> decide) (by cases b <;> decide)

@[simp] theorem ErrorKind.name_inj {a b : ErrorKind} : a.name = b.name ↔ a = b :=
  name_eq_iff all (by decide) (by cases a <;> decide) (by cases b <;> decide)

@[simp] theorem SuccessKind.name_inj {a b : SuccessKind} : a.name = b.name ↔ a = b :=
  name_eq_iff all (by decide) (by cases a <;> decide) (by cases b <;> decide)

@[simp] theorem Verb.name_inj {a b : Verb} : a.name = b.name ↔ a = b :=
  name_eq_iff all (by decide) (by cases a <;> decide) (by cases b <;> decide)

-- ---------------------------------------------------------------------------
-- Types
-- ---------------------------------------------------------------------------

namespace TypeRef

mutual
theorem same_data : (a b : TypeRef) → (a.data.Same b.data ↔ a = b)
  | ⟨path, args⟩, ⟨path', args'⟩ => by
    simp [data, List.lookup_cons, same_dataList args args']

theorem same_dataList : (as bs : List TypeRef) →
    (Data.SameItems (dataList as) (dataList bs) ↔ as = bs)
  | [], [] => by simp [dataList]
  | [], _ :: _ => by simp [dataList]
  | _ :: _, [] => by simp [dataList]
  | a :: as, b :: bs => by simp [dataList, same_data a b, same_dataList as bs]
end

theorem faithful : Faithful data :=
  same_data

theorem data_ne_null (ty : TypeRef) : ty.data ≠ .null := by
  cases ty
  simp [data]

end TypeRef

open Data in
theorem Data.faithful_ofOption_text : Faithful (ofOption text) :=
  faithful_text.ofOption nofun

theorem Location.faithful : Faithful Location.data := by
  rintro ⟨file, line, column⟩ ⟨file', line', column'⟩
  simp [Location.data, List.lookup_cons, Data.faithful_ofOption_text file file']

-- ---------------------------------------------------------------------------
-- Parameters
-- ---------------------------------------------------------------------------

theorem Annotation.faithful : Faithful Annotation.data := by
  intro a b
  cases a <;> cases b <;>
    simp [Data.tagged, Annotation.data, List.lookup_cons, Data.faithful_ofOption_text _ _]

theorem Annotation.data_ne_null (given : Annotation) : given.data ≠ .null := by
  cases given <;> simp [Data.tagged, Annotation.data]

theorem Parameter.faithful : Faithful Parameter.data := by
  have helement := TypeRef.faithful.ofOption TypeRef.data_ne_null
  have hannotation := Annotation.faithful.ofOption Annotation.data_ne_null
  have hspecial : Faithful (Data.ofOption fun role : SpecialRole => .text role.name) :=
    Data.Faithful.ofOption (by simp [Faithful]) nofun
  have hbinding : Faithful (Data.ofOption fun binding : CustomBinding => .text binding.name) :=
    Data.Faithful.ofOption (by simp [Faithful]) nofun
  rintro ⟨⟩ ⟨⟩
  simp [Parameter.data, List.lookup_cons, TypeRef.faithful _ _, helement _ _, hannotation _ _,
    hspecial _ _, hbinding _ _, Location.faithful _ _]

def BindingSource.plain : List BindingSource :=
  [route, query, header, body, form, formFile, formFileCollection, formCollection, service, context,
   cancellation, stream, pipeReader, asParameters, custom]

theorem BindingSource.faithful : Faithful BindingSource.data := by
  have hcases (source : BindingSource) :
      source ∈ plain ∧ source.data = .text source.text ∨ ∃ key, source = .keyedService key := by
    cases source with
    | keyedService key => exact .inr ⟨key, rfl⟩
    | _ => exact .inl ⟨by decide, rfl⟩
  refine faithful_of_plain plain (by decide) hcases ?_ ?_
  · rintro source ⟨key, rfl⟩
    exact ⟨_, rfl⟩
  · rintro a b ⟨key, rfl⟩ ⟨key', rfl⟩
    simp [data, Data.tagged]

namespace EndpointParameter

mutual
theorem same_data : (a b : EndpointParameter) → (a.data.Same b.data ↔ a = b)
  | ⟨name, ty, source, key, nullable, allowEmptyBody, children⟩,
    ⟨name', ty', source', key', nullable', allowEmptyBody', children'⟩ => by
    simp [data, List.lookup_cons, TypeRef.faithful _ _, BindingSource.faithful _ _,
      Data.faithful_ofOption_text _ _, same_dataList children children']

theorem same_dataList : (as bs : List EndpointParameter) →
    (Data.SameItems (dataList as) (dataList bs) ↔ as = bs)
  | [], [] => by simp [dataList]
  | [], _ :: _ => by simp [dataList]
  | _ :: _, [] => by simp [dataList]
  | a :: as, b :: bs => by simp [dataList, same_data a b, same_dataList as bs]
end

end EndpointParameter

-- ---------------------------------------------------------------------------
-- Declared types
-- ---------------------------------------------------------------------------

theorem Constructor.faithful : Faithful Constructor.data := by
  rintro ⟨⟩ ⟨⟩
  simp [Constructor.data, List.lookup_cons, Parameter.faithful.ofList _ _]

theorem Property.faithful : Faithful Property.data := by
  rintro ⟨⟩ ⟨⟩
  simp [Property.data, List.lookup_cons, TypeRef.faithful _ _]

theorem TypeInfo.faithful : Faithful TypeInfo.data := by
  rintro ⟨⟩ ⟨⟩
  simp [TypeInfo.data, List.lookup_cons, TypeRef.faithful _ _, Constructor.faithful.ofList _ _,
    Property.faithful.ofList _ _]

-- ---------------------------------------------------------------------------
-- Outcomes and responses
-- ---------------------------------------------------------------------------

theorem CustomErrorCode.faithful : Faithful CustomErrorCode.data := by
  rintro ⟨⟩ ⟨⟩
  simp [CustomErrorCode.data, List.lookup_cons, UInt16.toNat_inj]

theorem ErrorKind.faithful : Faithful ErrorKind.data := by
  simp [Faithful, ErrorKind.data]

theorem DeclaredErrors.faithful : Faithful DeclaredErrors.data := by
  rintro ⟨⟩ ⟨⟩
  simp [DeclaredErrors.data, List.lookup_cons, ErrorKind.faithful.ofList _ _,
    CustomErrorCode.faithful.ofList _ _]

theorem ErrorOutcomes.faithful : Faithful ErrorOutcomes.data := by
  rintro ⟨⟩ ⟨⟩
  simp [ErrorOutcomes.data, List.lookup_cons, ErrorKind.faithful.ofList _ _,
    CustomErrorCode.faithful.ofList _ _]

theorem Delivery.faithful : Faithful Delivery.data := by
  have hevent := TypeRef.faithful.ofOption TypeRef.data_ne_null
  intro a b
  cases a <;> cases b <;>
    simp [Delivery.data, Data.tagged, List.lookup_cons, TypeRef.faithful _ _, hevent _ _]

theorem SuccessShape.faithful : Faithful SuccessShape.data := by
  have hpayload := TypeRef.faithful.ofOption TypeRef.data_ne_null
  rintro ⟨⟩ ⟨⟩
  simp [SuccessShape.data, List.lookup_cons, hpayload _ _, Delivery.faithful _ _,
    Data.faithful_ofOption_text _ _]

def ResultType.plain : List ResultType :=
  [created, noContent, badRequest, validationProblem, unsupportedMediaType, unauthorized, forbidden,
   notFound, conflict, tooManyRequests, internalServerError]

theorem ResultType.faithful : Faithful ResultType.data := by
  have hcases (result : ResultType) : result ∈ plain ∧ result.data = .text result.text ∨
      ((∃ ty, result = .ok ty) ∨ (∃ ty, result = .stream ty) ∨
        (∃ ty, result = .serverSentEvents ty) ∨ ∃ code, result = .problem code) := by
    cases result with
    | ok ty => exact .inr (.inl ⟨ty, rfl⟩)
    | stream ty => exact .inr (.inr (.inl ⟨ty, rfl⟩))
    | serverSentEvents ty => exact .inr (.inr (.inr (.inl ⟨ty, rfl⟩)))
    | problem code => exact .inr (.inr (.inr (.inr ⟨code, rfl⟩)))
    | _ => exact .inl ⟨by decide, rfl⟩
  refine faithful_of_plain plain (by decide) hcases ?_ ?_
  · rintro result (⟨ty, rfl⟩ | ⟨ty, rfl⟩ | ⟨ty, rfl⟩ | ⟨code, rfl⟩) <;> exact ⟨_, rfl⟩
  · rintro a b (⟨ty, rfl⟩ | ⟨ty, rfl⟩ | ⟨ty, rfl⟩ | ⟨code, rfl⟩)
      (⟨ty', rfl⟩ | ⟨ty', rfl⟩ | ⟨ty', rfl⟩ | ⟨code', rfl⟩) <;>
    simp [data, Data.tagged, List.lookup_cons, TypeRef.faithful _ _]

theorem ResponseVariant.faithful : Faithful ResponseVariant.data := by
  rintro ⟨⟩ ⟨⟩
  simp [ResponseVariant.data, List.lookup_cons, ResultType.faithful _ _, UInt16.toNat_inj]

-- ---------------------------------------------------------------------------
-- Handlers and contracts
-- ---------------------------------------------------------------------------

theorem Middleware.faithful : Faithful Middleware.data := by
  rintro ⟨⟩ ⟨⟩
  simp [Middleware.data, List.lookup_cons]

theorem DeclaredErrors.data_ne_null (declared : DeclaredErrors) : declared.data ≠ .null := by
  simp [DeclaredErrors.data]

theorem Handler.faithful : Faithful Handler.data := by
  have hdeclared := DeclaredErrors.faithful.ofOption DeclaredErrors.data_ne_null
  have hvariables := Data.faithful_text.ofList
  rintro ⟨⟨id⟩⟩ ⟨⟨id'⟩⟩
  simp [Handler.data, Data.texts, List.lookup_cons, hvariables _ _, Parameter.faithful.ofList _ _,
    TypeRef.faithful _ _, Middleware.faithful _ _, hdeclared _ _, Location.faithful _ _]

theorem Contract.faithful : Faithful Contract.data := by
  rintro ⟨⟩ ⟨⟩
  simp [Contract.data, List.lookup_cons, EndpointParameter.same_dataList _ _,
    SuccessShape.faithful _ _, ErrorOutcomes.faithful _ _, ResponseVariant.faithful.ofList _ _]

/-- Contracts, handlers and types with equal data are equal, and even those are whose data differs
in nothing but the order of fields. -/
theorem serialized_forms_faithful :
    (Function.Injective Contract.data ∧ ∀ a b : Contract, a.data.Same b.data ↔ a = b) ∧
    (Function.Injective Handler.data ∧ ∀ a b : Handler, a.data.Same b.data ↔ a = b) ∧
    (Function.Injective TypeInfo.data ∧ ∀ a b : TypeInfo, a.data.Same b.data ↔ a = b) :=
  ⟨⟨Contract.faithful.injective, Contract.faithful⟩, ⟨Handler.faithful.injective, Handler.faithful⟩,
    ⟨TypeInfo.faithful.injective, TypeInfo.faithful⟩⟩

end EndpointInference

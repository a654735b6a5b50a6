import EndpointInference.Outcome

/-!
# What a collector holds

Everything a collector takes is taken as if an annotation declared it: a kind is a declaration of
one kind, a custom code one of one code. Kinds and codes do not touch each other, so a declaration
adds its kinds to the kinds and its codes to the codes (`recordDeclared_eq`), and two declarations in
a row are one (`recordDeclared_append`).
-/

namespace EndpointInference

def DeclaredErrors.append (first second : DeclaredErrors) : DeclaredErrors where
  kinds := first.kinds ++ second.kinds
  custom := first.custom ++ second.custom

def CustomErrorCode.texts (codes : List CustomErrorCode) : List String :=
  codes.map (·.code)

@[simp] theorem CustomErrorCode.texts_nil : texts [] = [] := rfl

@[simp] theorem CustomErrorCode.texts_append (first second : List CustomErrorCode) :
    texts (first ++ second) = texts first ++ texts second :=
  List.map_append

theorem ErrorKind.mem_byName (kind : ErrorKind) : kind ∈ byName := by
  cases kind <;> decide

namespace OutcomeCollector

def addKind (kinds : List ErrorKind) (kind : ErrorKind) : List ErrorKind :=
  if kinds.contains kind then kinds else kinds ++ [kind]

def addCode (codes : List CustomErrorCode) (code : CustomErrorCode) : List CustomErrorCode :=
  if codes.any (·.code == code.code) then codes else codes ++ [code]

theorem recordKind_eq (collector : OutcomeCollector) (kind : ErrorKind) :
    (collector.recordKind kind).2 = ⟨addKind collector.kinds kind, collector.codes⟩ := by
  unfold recordKind addKind
  split <;> rfl

theorem recordCustom_eq (collector : OutcomeCollector) (code : CustomErrorCode) :
    (collector.recordCustom code).2 = ⟨collector.kinds, addCode collector.codes code⟩ := by
  unfold recordCustom addCode
  split <;> rfl

theorem foldl_recordKind (collector : OutcomeCollector) (kinds : List ErrorKind) :
    kinds.foldl (fun c kind => (c.recordKind kind).2) collector =
      ⟨kinds.foldl addKind collector.kinds, collector.codes⟩ := by
  induction kinds generalizing collector with
  | nil => rfl
  | cons kind rest ih => rw [List.foldl_cons, ih, recordKind_eq, List.foldl_cons]

theorem foldl_recordCustom (collector : OutcomeCollector) (codes : List CustomErrorCode) :
    codes.foldl (fun c code => (c.recordCustom code).2) collector =
      ⟨collector.kinds, codes.foldl addCode collector.codes⟩ := by
  induction codes generalizing collector with
  | nil => rfl
  | cons code rest ih => rw [List.foldl_cons, ih, recordCustom_eq, List.foldl_cons]

theorem recordDeclared_eq (collector : OutcomeCollector) (declared : DeclaredErrors) :
    collector.recordDeclared declared =
      ⟨declared.kinds.foldl addKind collector.kinds,
        declared.custom.foldl addCode collector.codes⟩ := by
  simp only [recordDeclared, foldl_recordKind, foldl_recordCustom]

theorem recordDeclared_append (collector : OutcomeCollector) (first second : DeclaredErrors) :
    collector.recordDeclared (first.append second) =
      (collector.recordDeclared first).recordDeclared second := by
  simp [recordDeclared_eq, DeclaredErrors.append]

section
variable {codes : List CustomErrorCode} {code : CustomErrorCode}

theorem addCode_of_mem (h : code.code ∈ CustomErrorCode.texts codes) :
    addCode codes code = codes := by
  have ha : codes.any (·.code == code.code) = true := by
    obtain ⟨other, ho, hc⟩ := List.mem_map.mp h
    exact List.any_eq_true.mpr ⟨other, ho, by simp [hc]⟩
  simp [addCode, ha]

theorem addCode_of_not_mem (h : code.code ∉ CustomErrorCode.texts codes) :
    addCode codes code = codes ++ [code] := by
  have ha : ¬codes.any (·.code == code.code) = true := by
    intro ha
    obtain ⟨other, ho, hc⟩ := List.any_eq_true.mp ha
    exact h (List.mem_map.mpr ⟨other, ho, by simpa using hc⟩)
  simp [addCode, ha]

end

-- ---------------------------------------------------------------------------
-- Membership
-- ---------------------------------------------------------------------------

theorem mem_addKind {kinds : List ErrorKind} :
    other ∈ addKind kinds kind ↔ other ∈ kinds ∨ other = kind := by
  unfold addKind
  split
  · next h =>
    have hk : kind ∈ kinds := by simpa using h
    exact ⟨.inl, fun h => h.elim id (· ▸ hk)⟩
  · simp

theorem mem_foldl_addKind {kinds : List ErrorKind} (added : List ErrorKind) :
    kind ∈ added.foldl addKind kinds ↔ kind ∈ kinds ∨ kind ∈ added := by
  induction added generalizing kinds with
  | nil => simp
  | cons first rest ih => simp [ih, mem_addKind, or_assoc]

theorem mem_texts_addCode {codes : List CustomErrorCode} :
    text ∈ CustomErrorCode.texts (addCode codes code) ↔
      text ∈ CustomErrorCode.texts codes ∨ text = code.code := by
  unfold addCode
  split
  · next h =>
    have hc : code.code ∈ CustomErrorCode.texts codes := by
      simp only [List.any_eq_true, beq_iff_eq] at h
      exact List.mem_map.mpr h
    exact ⟨.inl, fun h => h.elim id (· ▸ hc)⟩
  · simp [CustomErrorCode.texts]

theorem mem_texts_foldl {codes : List CustomErrorCode} (added : List CustomErrorCode) :
    text ∈ CustomErrorCode.texts (added.foldl addCode codes) ↔
      text ∈ CustomErrorCode.texts codes ∨ text ∈ CustomErrorCode.texts added := by
  induction added generalizing codes with
  | nil => simp [CustomErrorCode.texts]
  | cons first rest ih =>
    rw [List.foldl_cons, ih, mem_texts_addCode]
    simp [CustomErrorCode.texts, or_assoc]

theorem mem_kinds_recordDeclared {collector : OutcomeCollector} :
    kind ∈ (collector.recordDeclared declared).kinds ↔
      kind ∈ collector.kinds ∨ kind ∈ declared.kinds := by
  rw [recordDeclared_eq]
  exact mem_foldl_addKind _

theorem mem_texts_recordDeclared {collector : OutcomeCollector} :
    text ∈ CustomErrorCode.texts (collector.recordDeclared declared).codes ↔
      text ∈ CustomErrorCode.texts collector.codes ∨
        text ∈ CustomErrorCode.texts declared.custom := by
  rw [recordDeclared_eq]
  exact mem_texts_foldl _

@[simp] theorem mem_kinds_finish {collector : OutcomeCollector} :
    kind ∈ collector.finish.kinds ↔ kind ∈ collector.kinds := by
  simp [finish, ErrorKind.mem_byName]

theorem kinds_finish_sorted (collector : OutcomeCollector) :
    collector.finish.kinds.Pairwise (·.name < ·.name) := by
  have h : ErrorKind.byName.Pairwise (·.name < ·.name) := by decide
  exact h.filter _

end OutcomeCollector

end EndpointInference

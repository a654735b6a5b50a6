import EndpointInference.Config.Value
import Mathlib.Data.List.Induction
import Mathlib.Data.Nat.Digits.Defs

/-!
# Numbers as they are written

A value of configuration stands for a number if it is one or is a text of one (`ConfigValue.Reads`).
The text is digits behind an optional sign (`Decimal.Writes`), with blanks around it that do not
count. `ConfigValue.int?_eq_some_iff`: these are the values that are taken as numbers, and as these
numbers.
-/

namespace EndpointInference

-- ---------------------------------------------------------------------------
-- Written numbers
-- ---------------------------------------------------------------------------

namespace Decimal

def placeValue (digits : List Char) : Nat :=
  Nat.ofDigits 10 (digits.reverse.map fun c => c.toNat - '0'.toNat)

structure IsDigits (digits : List Char) : Prop where
  ne_nil : digits ≠ []
  all : ∀ c ∈ digits, c.isDigit = true

inductive Writes : List Char → Int → Prop
  | plain {digits} : IsDigits digits → Writes digits (placeValue digits)
  | plus {digits} : IsDigits digits → Writes ('+' :: digits) (placeValue digits)
  | minus {digits} : IsDigits digits → Writes ('-' :: digits) (-placeValue digits)

theorem digitsValue_eq (digits : List Char) : digitsValue 0 digits = placeValue digits := by
  induction digits using List.reverseRecOn with
  | nil => rfl
  | append_singleton digits c ih =>
    have hlast : placeValue (digits ++ [c]) = (c.toNat - '0'.toNat) + 10 * placeValue digits := by
      simp [placeValue, Nat.ofDigits_cons]
    have hstep : digitsValue 0 (digits ++ [c]) =
        digitsValue 0 digits * 10 + (c.toNat - '0'.toNat) := by
      simp [digitsValue]
    rw [hlast, hstep, ih]
    omega

theorem isDigits_iff {digits : List Char} :
    (!digits.isEmpty && digits.all Char.isDigit) = true ↔ IsDigits digits := by
  rw [Bool.and_eq_true, Bool.not_eq_true', List.isEmpty_eq_false_iff, List.all_eq_true]
  exact ⟨fun h => ⟨h.1, h.2⟩, fun h => ⟨h.ne_nil, h.all⟩⟩

theorem sign_of_isDigits {digits : List Char} (h : IsDigits digits) :
    sign digits = (false, digits) := by
  unfold sign
  split
  · cases h.all '-' List.mem_cons_self
  · cases h.all '+' List.mem_cons_self
  · rfl

theorem int?_eq (cs : List Char) :
    int? cs = if !(sign cs).2.isEmpty && (sign cs).2.all Char.isDigit then
      some (if (sign cs).1 then -(placeValue (sign cs).2 : Int) else placeValue (sign cs).2)
      else none := by
  simp only [int?, digitsValue_eq]

theorem int?_eq_some_iff {cs : List Char} {number : Int} :
    int? cs = some number ↔ Writes cs number := by
  rw [int?_eq]
  constructor
  · intro h
    split at h
    · next hd =>
      rw [isDigits_iff] at hd
      obtain rfl := Option.some.inj h
      unfold sign at hd ⊢
      split at hd
      · exact .minus hd
      · exact .plus hd
      · exact .plain hd
    · cases h
  · intro h
    cases h with
    | plain hd =>
      rw [sign_of_isDigits hd]
      simp [isDigits_iff.mpr hd]
    | plus hd => exact if_pos (isDigits_iff.mpr hd)
    | minus hd => exact if_pos (isDigits_iff.mpr hd)

theorem int64?_eq_some_iff {value : Int} {number : Int64} :
    int64? value = some number ↔ value = number.toInt := by
  unfold int64?
  constructor
  · intro h
    split at h
    · next hr =>
      simp only [Bool.and_eq_true, decide_eq_true_eq] at hr
      rw [← Option.some.inj h]
      exact (Int64.toInt_ofInt_of_le hr.1 (Int.lt_add_one_of_le hr.2)).symm
    · cases h
  · rintro rfl
    have hrange : (Int64.minValue.toInt ≤ number.toInt && number.toInt ≤ Int64.maxValue.toInt) =
        true := Bool.and_eq_true_iff.mpr
      ⟨decide_eq_true number.le_toInt, decide_eq_true number.toInt_le⟩
    rw [if_pos hrange, Int64.ofInt_toInt]

theorem not_isBlank_of_isDigit {c : Char} (h : c.isDigit = true) : Text.isBlank c = false := by
  simp only [Char.isDigit, Bool.and_eq_true, decide_eq_true_eq, UInt32.le_iff_toNat_le] at h
  have hlow : 48 ≤ c.toNat := h.1
  have hhigh : c.toNat ≤ 57 := h.2
  simp only [Text.isBlank, Text.inRanges, Text.blankRanges, List.any_cons, List.any_nil,
    Bool.or_false, Bool.or_eq_false_iff, Bool.and_eq_false_iff, decide_eq_false_iff_not]
  omega

theorem Writes.not_isBlank {cs : List Char} {number : Int} (h : Writes cs number) :
    cs ≠ [] ∧ ∀ c ∈ cs, Text.isBlank c = false := by
  cases h with
  | plain hd => exact ⟨hd.ne_nil, fun c hc => not_isBlank_of_isDigit (hd.all c hc)⟩
  | plus hd | minus hd =>
    refine ⟨List.cons_ne_nil _ _, List.forall_mem_cons.mpr ⟨by decide, fun c hc => ?_⟩⟩
    exact not_isBlank_of_isDigit (hd.all c hc)

end Decimal

-- ---------------------------------------------------------------------------
-- Blanks at the ends
-- ---------------------------------------------------------------------------

namespace Text

theorem exists_trim (cs : List Char) : ∃ before after, cs = before ++ trim cs ++ after ∧
    (∀ c ∈ before, isBlank c = true) ∧ ∀ c ∈ after, isBlank c = true := by
  refine ⟨cs.takeWhile isBlank, ((cs.dropWhile isBlank).reverse.takeWhile isBlank).reverse, ?_, ?_,
    ?_⟩
  · rw [trim, List.append_assoc, ← List.reverse_append, List.takeWhile_append_dropWhile,
      List.reverse_reverse, List.takeWhile_append_dropWhile]
  · exact List.all_eq_true.mp List.all_takeWhile
  · intro c hc
    exact List.all_eq_true.mp List.all_takeWhile c (List.mem_reverse.mp hc)

theorem dropWhile_isBlank {core : List Char} (hn : core ≠ []) (hc : ∀ c ∈ core, isBlank c = false)
    (after : List Char) : (core ++ after).dropWhile isBlank = core ++ after := by
  obtain ⟨c, rest, rfl⟩ := List.exists_cons_of_ne_nil hn
  exact List.dropWhile_cons_of_neg (by simp [hc c List.mem_cons_self])

theorem trim_append {before core after : List Char} (hb : ∀ c ∈ before, isBlank c = true)
    (hn : core ≠ []) (hc : ∀ c ∈ core, isBlank c = false) (ha : ∀ c ∈ after, isBlank c = true) :
    trim (before ++ core ++ after) = core := by
  have hback : (after.reverse ++ core.reverse).dropWhile isBlank = core.reverse := by
    rw [List.dropWhile_append_of_pos (by simpa using ha)]
    have hsame : (core.reverse ++ []).dropWhile isBlank = core.reverse ++ [] :=
      dropWhile_isBlank (by simpa using hn) (by simpa using hc) []
    rwa [List.append_nil] at hsame
  rw [trim, List.append_assoc, List.dropWhile_append_of_pos hb, dropWhile_isBlank hn hc,
    List.reverse_append, hback, List.reverse_reverse]

end Text

-- ---------------------------------------------------------------------------
-- Numbers among the values
-- ---------------------------------------------------------------------------

namespace ConfigValue

/-- The values that stand for a number of 64 bits: the number, or a text in which it is written with
nothing but blanks around it. -/
inductive Reads : ConfigValue → Int64 → Prop
  | int {number} : Reads (.int number) number
  | text {before core after number} : (∀ c ∈ before, Text.isBlank c = true) →
      Decimal.Writes core number.toInt → (∀ c ∈ after, Text.isBlank c = true) →
      Reads (.text (String.ofList (before ++ core ++ after))) number

theorem int?_eq_some_iff {value : ConfigValue} {number : Int64} :
    value.int? = some number ↔ value.Reads number := by
  constructor
  · intro h
    cases value with
    | text written =>
      obtain ⟨parsed, hp, hn⟩ := Option.bind_eq_some_iff.mp h
      obtain rfl := Decimal.int64?_eq_some_iff.mp hn
      obtain ⟨before, after, hs, hb, ha⟩ := Text.exists_trim written.toList
      have hreads := Reads.text hb (Decimal.int?_eq_some_iff.mp hp) ha
      rwa [← hs, String.ofList_toList] at hreads
    | int found =>
      obtain rfl := Option.some.inj h
      exact .int
    | _ => cases h
  · intro h
    cases h with
    | int => rfl
    | text hb hw ha =>
      obtain ⟨hn, hc⟩ := hw.not_isBlank
      rw [int?, String.toList_ofList, Text.trim_append hb hn hc ha, Decimal.int?_eq_some_iff.mpr hw]
      exact Decimal.int64?_eq_some_iff.mpr rfl

theorem Reads.unique {value : ConfigValue} (first : value.Reads number)
    (second : value.Reads other) : number = other :=
  Option.some.inj ((int?_eq_some_iff.mpr first).symm.trans (int?_eq_some_iff.mpr second))

end ConfigValue

end EndpointInference

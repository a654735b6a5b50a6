import EndpointInference.Proofs.Lists
import EndpointInference.ResponseUnion
import Mathlib.Data.List.Induction
import Mathlib.Data.List.Pairwise

/-!
# Each response once, by status

A response is known by its `key`, the status and the result type. Variants are taken one by one,
and of the same response the first is kept (`pairwise_union`); sorting them by status leaves those
of the same status where they are (`pairwise_sorted`).
-/

namespace EndpointInference

/-- What makes two variants the same response. -/
def ResponseVariant.key (variant : ResponseVariant) : UInt16 × ResultType :=
  (variant.status, variant.resultType)

namespace ResponseUnion

-- ---------------------------------------------------------------------------
-- Of the same responses the first is kept
-- ---------------------------------------------------------------------------

theorem same_iff {a b : ResponseVariant} : same a b = true ↔ a.key = b.key := by
  simp [same, ResponseVariant.key]

def union (xs : List ResponseVariant) : List ResponseVariant :=
  xs.foldl push []

theorem union_concat (xs : List ResponseVariant) (x : ResponseVariant) :
    union (xs ++ [x]) = push (union xs) x :=
  List.foldl_append

theorem push_of_mem {variant : ResponseVariant} (h : variant.key ∈ xs.map ResponseVariant.key) :
    push xs variant = xs := by
  obtain ⟨other, ho, hk⟩ := List.mem_map.mp h
  have hs : xs.any (same · variant) = true := List.any_eq_true.mpr ⟨other, ho, same_iff.mpr hk⟩
  exact if_pos hs

theorem push_of_not_mem {variant : ResponseVariant}
    (h : variant.key ∉ xs.map ResponseVariant.key) : push xs variant = xs ++ [variant] := by
  refine if_neg fun hs => h ?_
  obtain ⟨other, ho, hk⟩ := List.any_eq_true.mp hs
  exact List.mem_map.mpr ⟨other, ho, same_iff.mp hk⟩

theorem mem_keys_union {xs : List ResponseVariant} :
    key ∈ (union xs).map ResponseVariant.key ↔ key ∈ xs.map ResponseVariant.key := by
  induction xs using List.reverseRecOn with
  | nil => rfl
  | append_singleton xs x ih =>
    rw [union_concat, List.map_append, List.mem_append, ← ih]
    by_cases h : x.key ∈ (union xs).map ResponseVariant.key
    · rw [push_of_mem h]
      constructor
      · exact .inl
      · rintro (hk | hk)
        · exact hk
        · rwa [List.mem_singleton.mp hk]
    · rw [push_of_not_mem h, List.map_append, List.mem_append]

theorem mem_of_mem_union {xs : List ResponseVariant} (h : a ∈ union xs) : a ∈ xs := by
  induction xs using List.reverseRecOn with
  | nil => exact h
  | append_singleton xs x ih =>
    rw [union_concat] at h
    by_cases hx : x.key ∈ (union xs).map ResponseVariant.key
    · rw [push_of_mem hx] at h
      exact List.mem_append_left _ (ih h)
    · rw [push_of_not_mem hx] at h
      exact List.mem_append.mpr ((List.mem_append.mp h).imp_left ih)

/-- `a` stands in the list before the response of `b` does for the first time. -/
def Precedes (xs : List ResponseVariant) (a b : ResponseVariant) : Prop :=
  ∃ before after, xs = before ++ a :: after ∧ ∀ variant ∈ before ++ [a], variant.key ≠ b.key

theorem Precedes.key_ne (h : Precedes xs a b) : a.key ≠ b.key := by
  obtain ⟨before, after, -, hn⟩ := h
  exact hn a (by simp)

theorem Precedes.concat (h : Precedes xs a b) (x : ResponseVariant) :
    Precedes (xs ++ [x]) a b := by
  obtain ⟨before, after, rfl, hn⟩ := h
  exact ⟨before, after ++ [x], by simp, hn⟩

/-- Responses stand in the order in which they are met first. -/
theorem pairwise_union (xs : List ResponseVariant) : (union xs).Pairwise (Precedes xs) := by
  induction xs using List.reverseRecOn with
  | nil => exact .nil
  | append_singleton xs x ih =>
    have ih' := ih.imp fun h => Precedes.concat h x
    rw [union_concat]
    by_cases hx : x.key ∈ (union xs).map ResponseVariant.key
    · rwa [push_of_mem hx]
    · rw [push_of_not_mem hx]
      refine List.pairwise_append.mpr ⟨ih', List.pairwise_singleton .., fun a ha b hb => ?_⟩
      obtain rfl := List.mem_singleton.mp hb
      obtain ⟨before, after, rfl⟩ := List.append_of_mem (mem_of_mem_union ha)
      -- the response of the last one is not among those before it
      refine ⟨before, after ++ [b], by simp, fun variant hv hk => hx ?_⟩
      rw [mem_keys_union, ← hk]
      have hmem : variant ∈ before ++ a :: after := by
        rw [List.append_cons]
        exact List.mem_append_left _ hv
      exact List.mem_map_of_mem hmem

-- ---------------------------------------------------------------------------
-- Sorting by status keeps that order
-- ---------------------------------------------------------------------------

section
variable {xs : List ResponseVariant}

theorem status_le_trans (a b c : ResponseVariant) (hab : decide (a.status ≤ b.status) = true)
    (hbc : decide (b.status ≤ c.status) = true) : decide (a.status ≤ c.status) = true := by
  simp only [decide_eq_true_eq] at *
  exact UInt16.le_trans hab hbc

theorem status_le_total (a b : ResponseVariant) :
    (decide (a.status ≤ b.status) || decide (b.status ≤ a.status)) = true := by
  simpa using UInt16.le_total a.status b.status

theorem filter_mergeSort (status : UInt16) :
    (xs.mergeSort fun a b => a.status ≤ b.status).filter (·.status == status) =
      xs.filter (·.status == status) := by
  refine filter_mergeSort_of_tied status_le_trans status_le_total ?_ xs
  intro a b ha hb
  have hstatus : a.status = b.status := by simp_all
  simp [hstatus]

theorem pair_sublist_of_mergeSort {a b : ResponseVariant} (hs : a.status = b.status)
    (h : [a, b].Sublist (xs.mergeSort fun a b => a.status ≤ b.status)) : [a, b].Sublist xs := by
  have hf := h.filter (·.status == b.status)
  rw [filter_mergeSort] at hf
  simp only [List.filter_cons, hs, beq_self_eq_true, if_true, List.filter_nil] at hf
  exact hf.trans List.filter_sublist

theorem mem_keys_sorted :
    key ∈ ((union xs).mergeSort fun a b => a.status ≤ b.status).map ResponseVariant.key ↔
      key ∈ xs.map ResponseVariant.key := by
  rw [((List.mergeSort_perm _ _).map _).mem_iff, mem_keys_union]

/-- The sorted variants: by status, no response twice, and of the same status by where they are met
first. -/
theorem pairwise_sorted (xs : List ResponseVariant) :
    ((union xs).mergeSort fun a b => a.status ≤ b.status).Pairwise fun a b =>
      a.status ≤ b.status ∧ a.key ≠ b.key ∧ (a.status = b.status → Precedes xs a b) := by
  rw [List.pairwise_iff_forall_sublist]
  intro a b h
  have hle := List.pairwise_iff_forall_sublist.mp
    (List.pairwise_mergeSort status_le_trans status_le_total (union xs)) h
  have hprecedes (hs : a.status = b.status) : Precedes xs a b :=
    List.pairwise_iff_forall_sublist.mp (pairwise_union xs) (pair_sublist_of_mergeSort hs h)
  refine ⟨of_decide_eq_true hle, fun hk => ?_, hprecedes⟩
  exact (hprecedes (congrArg Prod.fst hk)).key_ne hk

end

end ResponseUnion

end EndpointInference

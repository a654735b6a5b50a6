import EndpointInference.Symbols
import Mathlib.Data.List.Nodup
import Mathlib.Logic.Relation

/-!
# Lists that are sorted, looked up in, or freed of repetitions

Facts about lists, and one about relations, that are no facts about a program.
-/

namespace EndpointInference

theorem filter_mergeSort_of_tied {le : α → α → Bool}
    (trans : ∀ a b c, le a b = true → le b c = true → le a c = true)
    (total : ∀ a b, (le a b || le b a) = true) {p : α → Bool}
    (tied : ∀ a b, p a = true → p b = true → le a b = true) (xs : List α) :
    (xs.mergeSort le).filter p = xs.filter p := by
  have hsame : (xs.filter p).Pairwise fun a b => le a b = true :=
    List.pairwise_of_forall_mem_list fun a ha b hb =>
      tied a b (List.mem_filter.mp ha).2 (List.mem_filter.mp hb).2
  -- they are sorted as they stand, so they are left as a part of the result
  have hsub := (List.sublist_mergeSort trans total hsame List.filter_sublist).filter p
  rw [List.filter_filter] at hsub
  simp only [Bool.and_self] at hsub
  exact (hsub.eq_of_length ((List.mergeSort_perm xs _).filter p).length_eq.symm).symm

theorem lookup_eq_some_iff_mem [BEq α] [LawfulBEq α] {entries : List (α × β)} {key : α}
    (h : (entries.map (·.1)).Nodup) :
    entries.lookup key = some value ↔ (key, value) ∈ entries := by
  induction entries with
  | nil => simp
  | cons entry rest ih =>
    obtain ⟨other, found⟩ := entry
    obtain ⟨hn, hrest⟩ := List.nodup_cons.mp h
    rw [List.lookup_cons, List.mem_cons]
    by_cases hk : key = other
    · subst hk
      have hnot : (key, value) ∉ rest := fun hm => hn (List.mem_map.mpr ⟨_, hm, rfl⟩)
      simp [hnot, eq_comm]
    · rw [beq_false_of_ne hk, ih hrest]
      simp [hk]

theorem lookup_of_prefix [BEq α] {before after : List (α × β)} (h : before <+: after)
    (hl : before.lookup key = some value) : after.lookup key = some value := by
  obtain ⟨added, rfl⟩ := h
  rw [List.lookup_append, hl, Option.some_or]

theorem lookup_map_snd [BEq α] (f : β → γ) (key : α) (entries : List (α × β)) :
    (entries.map (Prod.map id f)).lookup key = (entries.lookup key).map f := by
  induction entries with
  | nil => rfl
  | cons entry rest ih =>
    obtain ⟨k, value⟩ := entry
    simp only [List.map_cons, Prod.map, id, List.lookup_cons, ih]
    cases key == k <;> rfl

/-- The entries with the value of a key changed where it is looked up. -/
def amend [BEq α] (key : α) (f : β → β) : List (α × β) → List (α × β)
  | [] => []
  | (k, value) :: rest => if key == k then (k, f value) :: rest else (k, value) :: amend key f rest

theorem lookup_amend [BEq α] [LawfulBEq α] [DecidableEq α] (key other : α) (f : β → β)
    (entries : List (α × β)) :
    (amend key f entries).lookup other =
      if other = key then (entries.lookup key).map f else entries.lookup other := by
  induction entries with
  | nil => simp [amend]
  | cons entry rest ih =>
    obtain ⟨k, value⟩ := entry
    by_cases hk : key = k
    · subst hk
      by_cases ho : other = key
      · simp [amend, ho]
      · simp [amend, List.lookup_cons, ho, beq_false_of_ne ho]
    · have hb : (key == k) = false := beq_false_of_ne hk
      by_cases ho : other = key
      · subst ho
        simpa [amend, List.lookup_cons, hb] using ih
      · simp only [if_neg ho] at ih ⊢
        simp only [amend, hb, Bool.false_eq_true, if_false, List.lookup_cons, ih]

theorem map_amend [BEq α] {key : α} {f : β → β} {g : β → γ} {entries : List (α × β)}
    (h : ∀ value, entries.lookup key = some value → g (f value) = g value) :
    (amend key f entries).map (Prod.map id g) = entries.map (Prod.map id g) := by
  induction entries with
  | nil => rfl
  | cons entry rest ih =>
    obtain ⟨k, value⟩ := entry
    simp only [List.lookup_cons] at h
    cases hk : key == k with
    | true => simp [amend, hk, h value (by simp [hk])]
    | false => simp [amend, hk, ih (by simpa [hk] using h)]

-- ---------------------------------------------------------------------------
-- Other facts
-- ---------------------------------------------------------------------------

theorem mapM_congr [Monad m] [LawfulMonad m] {f g : α → m β} {xs : List α}
    (h : ∀ x ∈ xs, f x = g x) : xs.mapM f = xs.mapM g := by
  induction xs with
  | nil => rfl
  | cons x rest ih =>
    rw [List.mapM_cons, List.mapM_cons, h x List.mem_cons_self,
      ih fun y hy => h y (List.mem_cons_of_mem _ hy)]

theorem unseen_anti [BEq α] [LawfulBEq α] {elements seen seen' : List α} (h : seen ⊆ seen') :
    unseen elements seen' ≤ unseen elements seen := by
  refine (List.monotone_filter_right elements fun element hn => ?_).length_le
  simp only [List.contains_eq_mem, Bool.not_eq_true', decide_eq_false_iff_not] at hn ⊢
  exact fun hm => hn (h hm)

theorem not_transGen_self {r : α → α → Prop} {a : α} (h : Acc r a) :
    ¬ Relation.TransGen r a a := by
  have ht := h.transGen
  clear h
  induction ht with
  | intro a _ ih => exact fun hr => ih a hr hr

-- ---------------------------------------------------------------------------
-- Dropping repetitions
-- ---------------------------------------------------------------------------

section
variable [BEq α] [LawfulBEq α]

theorem filter_eraseDups (p : α → Bool) (xs : List α) :
    (xs.filter p).eraseDups = xs.eraseDups.filter p := by
  match xs with
  | [] => rfl
  | x :: rest =>
    have ih := filter_eraseDups p (rest.filter fun y => !y == x)
    rw [List.eraseDups_cons, List.filter_cons, List.filter_cons]
    split
    · rw [List.eraseDups_cons, ← ih, List.filter_filter, List.filter_filter]
      simp only [Bool.and_comm]
    · next hx =>
      rw [← ih, List.filter_filter]
      congr 1
      -- What equals the head is dropped by the predicate already.
      apply List.filter_congr
      intro y _
      by_cases hy : y = x <;> simp_all
termination_by xs.length
decreasing_by exact Nat.lt_succ_of_le (List.length_filter_le ..)

theorem nodup_eraseDups (xs : List α) : xs.eraseDups.Nodup := by
  match xs with
  | [] => exact .nil
  | x :: rest =>
    rw [List.eraseDups_cons, List.nodup_cons, List.mem_eraseDups]
    exact ⟨by simp, nodup_eraseDups _⟩
termination_by xs.length
decreasing_by exact Nat.lt_succ_of_le (List.length_filter_le ..)

theorem eraseDups_of_nodup {xs : List α} (h : xs.Nodup) : xs.eraseDups = xs := by
  induction xs with
  | nil => rfl
  | cons x rest ih =>
    obtain ⟨hx, hrest⟩ := List.nodup_cons.mp h
    have hsame : rest.filter (fun y => !y == x) = rest := by
      rw [List.filter_eq_self]
      intro y hy
      have hne : y ≠ x := fun he => hx (he ▸ hy)
      simp [hne]
    rw [List.eraseDups_cons, hsame, ih hrest]

theorem map_eraseDups [BEq β] [LawfulBEq β] {f : α → β} (hf : ∀ x y, f x = f y → x = y)
    (xs : List α) : (xs.map f).eraseDups = xs.eraseDups.map f := by
  match xs with
  | [] => rfl
  | x :: rest =>
    have ih := map_eraseDups hf (rest.filter fun y => !y == x)
    rw [List.map_cons, List.eraseDups_cons, List.eraseDups_cons, List.map_cons, ← ih,
      List.filter_map]
    congr 3
    apply List.filter_congr
    intro y _
    have hsame : f y = f x ↔ y = x := ⟨hf y x, congrArg f⟩
    rw [Function.comp_apply, Bool.eq_iff_iff]
    simp [hsame]
termination_by xs.length
decreasing_by exact Nat.lt_succ_of_le (List.length_filter_le ..)

theorem eraseDups_append_eq (xs ys : List α) :
    (xs ++ ys).eraseDups =
      xs.eraseDups ++ ys.eraseDups.filter fun y => !xs.eraseDups.contains y := by
  have hsame : (fun y => !List.elem y xs) = fun y => !xs.eraseDups.contains y := by
    funext y
    rw [Bool.eq_iff_iff]
    simp [List.mem_eraseDups]
  rw [List.eraseDups_append, List.removeAll, filter_eraseDups, hsame]

end

end EndpointInference

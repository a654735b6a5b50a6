import EndpointInference.Proofs.Lists
import EndpointInference.Route

/-!
# The variables of a joined route

The names in a template are those of its segments in order, with repetitions (`namesIn`); only then
are repeated ones dropped. A slash parts the names before it from those behind it, so joining two
paths, which moves slashes at the seam and nothing else, appends their names (`namesIn_joinChars`).
-/

namespace EndpointInference.Route

-- ---------------------------------------------------------------------------
-- Names with repetitions
-- ---------------------------------------------------------------------------

def namesIn (route : List Char) : List (List Char) :=
  ((route.splitOn '/').flatMap segmentNames).filter (· != [])

theorem variableNames_eq (route : String) :
    variableNames route = ((namesIn route.toList).map String.ofList).eraseDups :=
  (map_eraseDups (fun _ _ => String.ofList_inj.mp) _).symm

theorem nodup_variableNames (route : String) : (variableNames route).Nodup := by
  rw [variableNames_eq]
  exact nodup_eraseDups _

@[simp] theorem namesIn_nil : namesIn [] = [] := rfl

theorem namesIn_slash (before behind : List Char) :
    namesIn (before ++ '/' :: behind) = namesIn before ++ namesIn behind := by
  rw [namesIn, List.splitOn_append_cons_self, List.flatMap_append, List.filter_append]
  rfl

@[simp] theorem namesIn_cons_slash (behind : List Char) :
    namesIn ('/' :: behind) = namesIn behind :=
  namesIn_slash [] behind

theorem namesIn_append_slashes (before slashes : List Char) (h : ∀ c ∈ slashes, c = '/') :
    namesIn (before ++ slashes) = namesIn before := by
  induction slashes generalizing before with
  | nil => rw [List.append_nil]
  | cons c rest ih =>
    obtain ⟨rfl, hrest⟩ := List.forall_mem_cons.mp h
    have hnil : namesIn rest = [] := ih [] hrest
    rw [namesIn_slash, hnil, List.append_nil]

theorem namesIn_withoutEndSlashes (base : List Char) :
    namesIn (withoutEndSlashes base) = namesIn base := by
  have hsplit : base = withoutEndSlashes base ++ (base.reverse.takeWhile (· == '/')).reverse := by
    rw [withoutEndSlashes, ← List.reverse_append, List.takeWhile_append_dropWhile,
      List.reverse_reverse]
  have hslashes : ∀ c ∈ (base.reverse.takeWhile (· == '/')).reverse, c = '/' := by
    intro c hc
    simpa using List.all_eq_true.mp List.all_takeWhile c (List.mem_reverse.mp hc)
  calc namesIn (withoutEndSlashes base)
      = namesIn (withoutEndSlashes base ++ (base.reverse.takeWhile (· == '/')).reverse) :=
        (namesIn_append_slashes _ _ hslashes).symm
    _ = namesIn base := by rw [← hsplit]

theorem namesIn_joinChars (base path : List Char) :
    namesIn (joinChars base path) = namesIn base ++ namesIn path := by
  rw [← namesIn_withoutEndSlashes base]
  unfold joinChars
  split
  · next hb => rw [hb]; rfl
  · next hb _ => rw [hb]; rfl
  · rw [namesIn_nil, List.append_nil]
  · rw [namesIn_cons_slash, namesIn_nil, List.append_nil]
  · rw [namesIn_slash, namesIn_cons_slash]
  · rw [namesIn_slash]

/-- The variables of a joined route are those of the base, and behind them those of the path that
are not among them: none is lost, invented or read across the seam. -/
theorem variables_of_joined_route (base path : String) :
    variableNames (join base path) = (variableNames base ++ variableNames path).eraseDups ∧
    variableNames (join base path) = variableNames base ++
      (variableNames path).filter fun name => !(variableNames base).contains name := by
  have hjoin : variableNames (join base path) = variableNames base ++
      (variableNames path).filter fun name => !(variableNames base).contains name := by
    rw [variableNames_eq, variableNames_eq base, variableNames_eq path, join, String.toList_ofList,
      namesIn_joinChars, List.map_append, eraseDups_append_eq]
  refine ⟨?_, hjoin⟩
  rw [hjoin, eraseDups_append_eq, eraseDups_of_nodup (nodup_variableNames base),
    eraseDups_of_nodup (nodup_variableNames path)]

end EndpointInference.Route

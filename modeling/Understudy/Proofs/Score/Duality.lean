import Understudy.Proofs.Score.Rational

/-!
# Scores that are turned over

Without rounding, turning the result of a fold over is the same as turning every score over and folding in the dual way:
the best becomes the lowest, the lowest the best, and an average stays an average.
-/

namespace Understudy

/-- The way to fold turned scores that a way to fold is turned into. -/
def Fold.dual : Fold → Fold
  | .or => .and
  | .and => .or
  | .average => .average

namespace Scale

theorem one_sub_max (a b : ℚ) : 1 - Scale.max a b = Scale.min (1 - a) (1 - b) := by
  have hmax : Scale.max a b = if a < b then b else a := by simp [Scale.max, Scale.lt]
  have hmin : Scale.min (1 - a) (1 - b) = if 1 - b < 1 - a then 1 - b else 1 - a := by
    simp [Scale.min, Scale.lt]
  rw [hmax, hmin]
  by_cases h : a < b
  · rw [if_pos h, if_pos (sub_lt_sub_left h 1)]
  · rw [if_neg h, if_neg fun hlt => h ((sub_lt_sub_iff_left 1).1 hlt)]

theorem one_sub_min (a b : ℚ) : 1 - Scale.min a b = Scale.max (1 - a) (1 - b) := by
  have h := one_sub_max (1 - a) (1 - b)
  rw [sub_sub_cancel, sub_sub_cancel] at h
  rw [← h, sub_sub_cancel]

theorem one_sub_foldl_max (start : ℚ) (scores : List ℚ) :
    1 - scores.foldl Scale.max start = (scores.map (1 - ·)).foldl Scale.min (1 - start) := by
  induction scores generalizing start with
  | nil => rfl
  | cons a scores ih => rw [List.foldl_cons, ih, one_sub_max, List.map_cons, List.foldl_cons]

theorem one_sub_foldl_min (start : ℚ) (scores : List ℚ) :
    1 - scores.foldl Scale.min start = (scores.map (1 - ·)).foldl Scale.max (1 - start) := by
  induction scores generalizing start with
  | nil => rfl
  | cons a scores ih => rw [List.foldl_cons, ih, one_sub_min, List.map_cons, List.foldl_cons]

theorem sum_map_one_sub (scores : List ℚ) :
    (scores.map (1 - ·)).sum = scores.length - scores.sum := by
  induction scores with
  | nil => simp
  | cons a scores ih =>
      rw [List.map_cons, List.sum_cons, ih, List.sum_cons, List.length_cons]
      push_cast
      ring

end Scale

namespace Fold

theorem combine_or (scores : List ℚ) (hne : scores ≠ []) :
    Fold.or.combine scores = scores.foldl Scale.max 0 := by
  rw [combine, if_neg (by simpa using hne)]
  rfl

theorem combine_and (scores : List ℚ) (hne : scores ≠ []) :
    Fold.and.combine scores = scores.foldl Scale.min 1 := by
  rw [combine, if_neg (by simpa using hne)]
  rfl

theorem combine_average (scores : List ℚ) (hne : scores ≠ []) :
    Fold.average.combine scores = scores.sum / scores.length := by
  rw [combine, if_neg (by simpa using hne), ← Scale.sum_eq]
  rfl

/-- Scores folded and turned over are the scores turned over and folded in the dual way. -/
theorem one_sub_combine (fold : Fold) {scores : List ℚ} (hne : scores ≠ []) :
    1 - fold.combine scores = fold.dual.combine (scores.map (1 - ·)) := by
  have hne' : scores.map (1 - ·) ≠ [] := by simpa using hne
  cases fold with
  | or => rw [combine_or _ hne, dual, combine_and _ hne', Scale.one_sub_foldl_max, sub_zero]
  | and => rw [combine_and _ hne, dual, combine_or _ hne', Scale.one_sub_foldl_min, sub_self]
  | average =>
      have hlength : (scores.length : ℚ) ≠ 0 := by
        exact_mod_cast (List.length_pos_iff.2 hne).ne'
      rw [combine_average _ hne, dual, combine_average _ hne', List.length_map,
        Scale.sum_map_one_sub, sub_div, div_self hlength]

theorem combine_zeros {β : Type} (fold : Fold) (xs : List β) :
    fold.combine (xs.map fun _ => (0 : ℚ)) = 0 := by
  by_cases hne : xs = []
  · rw [hne]
    exact combine_nil fold
  · have hne' : (xs.map fun _ => (0 : ℚ)) ≠ [] := by simpa using hne
    have hscores : ∀ a ∈ xs.map fun _ => (0 : ℚ), Scale.Lawful.IsScore a := by
      intro a ha
      obtain ⟨x, -, rfl⟩ := List.mem_map.1 ha
      exact Scale.Lawful.isScore_zero
    cases fold with
    | or =>
        have hverdicts : (xs.map fun _ => (0 : ℚ)) = (xs.map fun _ => false).map Scale.ofBool := by
          rw [List.map_map]
          rfl
        have hany : (xs.map fun _ => false).any id = false := by simp
        rw [hverdicts, combine_or_ofBool, hany]
        rfl
    | and =>
        obtain ⟨x, hx⟩ := List.exists_mem_of_ne_nil xs hne
        rw [combine_and _ hne']
        exact Scale.foldl_min_eq_zero Scale.Lawful.isScore_one hscores
          (Or.inr (List.mem_map.2 ⟨x, hx, rfl⟩))
    | average =>
        rw [combine_average _ hne']
        simp

end Fold

end Understudy

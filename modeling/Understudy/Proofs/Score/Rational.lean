import Mathlib.Algebra.Order.BigOperators.Group.List
import Understudy.Proofs.Mapping.Form
import Understudy.Proofs.Score.Perfect

/-!
# Scores without rounding

The rationals are a lawful scale. On it the total of a mapping's scores is at most their average, and a mapping may
answer exactly when no score is zero. A fold that averages is the only way to a score between zero and one: without it
every score is a verdict, zero or one, and a mapping that may answer does so perfectly.
-/

namespace Understudy

open Scale

open Scale.Lawful (IsScore)

namespace Scale

theorem sum_eq (scores : List ℚ) : Scale.sum scores = scores.sum := List.sum_eq_foldl.symm

instance : Scale.Lawful ℚ where
  IsScore a := 0 ≤ a ∧ a ≤ 1
  value := id
  value_nonneg ha := ha.1
  value_le_one ha := ha.2
  value_inj _ _ h := h
  lt_iff _ _ := decide_eq_true_iff
  eq_iff _ _ := beq_iff_eq
  isScore_zero := ⟨le_rfl, zero_le_one⟩
  value_zero := rfl
  isScore_one := ⟨zero_le_one, le_rfl⟩
  value_one := rfl
  isScore_compl ha := ⟨sub_nonneg.2 ha.2, sub_le_self 1 ha.1⟩
  isScore_share := by
    intro scores hne h
    have hlength : (0 : ℚ) < scores.length := by exact_mod_cast List.length_pos_iff.2 hne
    have hsum : scores.sum ≤ scores.length • (1 : ℚ) :=
      List.sum_le_card_nsmul scores 1 fun a ha => (h a ha).2
    rw [nsmul_eq_mul, mul_one] at hsum
    rw [sum_eq]
    exact ⟨div_nonneg (List.sum_nonneg fun a ha => (h a ha).1) hlength.le,
      (div_le_one hlength).2 hsum⟩
  share_single := by
    intro a _
    rw [sum_eq, List.sum_singleton]
    exact (congrArg (a / ·) Nat.cast_one).trans (div_one a)

theorem min_le_iff (a b c : ℚ) : c ≤ Scale.min a b ↔ c ≤ a ∧ c ≤ b := by
  have hmin : Scale.min a b = if b < a then b else a := by simp [Scale.min, Scale.lt]
  rw [hmin]
  split <;> constructor <;> grind

theorem le_foldl_min_iff (start : ℚ) (scores : List ℚ) (c : ℚ) :
    c ≤ scores.foldl Scale.min start ↔ c ≤ start ∧ ∀ a ∈ scores, c ≤ a := by
  induction scores generalizing start with
  | nil => simp
  | cons a scores ih => rw [List.foldl_cons, ih, min_le_iff, List.forall_mem_cons, and_assoc]

end Scale

namespace MatchResult

theorem total_le (result : MatchResult ℚ) {a : ℚ} (ha : a ∈ result.scores) : result.total ≤ a :=
  ((le_foldl_min_iff 1 result.scores result.total).1 le_rfl).2 a ha

/-- The lowest score is at most the average. -/
theorem total_le_average (result : MatchResult ℚ) : result.total ≤ result.average := by
  unfold average
  split
  · exact ((le_foldl_min_iff 1 result.scores result.total).1 le_rfl).1
  · rename_i hne
    have hlength : result.scores.length = result.details.length := List.length_map _
    have hpos : (0 : ℚ) < result.details.length := by
      exact_mod_cast List.length_pos_iff.2 (by simpa using hne)
    have hsum : result.scores.length • result.total ≤ result.scores.sum :=
      List.card_nsmul_le_sum result.scores result.total fun a ha => result.total_le ha
    rw [nsmul_eq_mul, hlength] at hsum
    rw [sum_eq]
    exact (le_div_iff₀' hpos).2 hsum

end MatchResult

/-! ## Verdicts -/

/-- A score that says no more than that something matches or does not. -/
def Scale.IsVerdict (a : ℚ) : Prop := a = 0 ∨ a = 1

namespace Scale

theorem isVerdict_ofBool (b : Bool) : IsVerdict (ofBool b) := by
  cases b with
  | false => exact Or.inl rfl
  | true => exact Or.inr rfl

theorem isVerdict_foldl_max {start : ℚ} {scores : List ℚ} (hs : IsVerdict start)
    (h : ∀ a ∈ scores, IsVerdict a) : IsVerdict (scores.foldl Scale.max start) := by
  induction scores generalizing start with
  | nil => exact hs
  | cons a scores ih =>
      rw [List.forall_mem_cons] at h
      refine ih ?_ h.2
      unfold Scale.max
      split
      · exact h.1
      · exact hs

theorem isVerdict_foldl_min {start : ℚ} {scores : List ℚ} (hs : IsVerdict start)
    (h : ∀ a ∈ scores, IsVerdict a) : IsVerdict (scores.foldl Scale.min start) := by
  rcases foldl_min_mem start scores with hstart | hmem
  · rwa [hstart]
  · exact h _ hmem

end Scale

theorem Fold.isVerdict_combine {fold : Fold} (hfold : fold ≠ .average) {scores : List ℚ}
    (h : ∀ a ∈ scores, IsVerdict a) : IsVerdict (fold.combine scores) := by
  unfold combine
  split
  · exact isVerdict_ofBool false
  · cases fold with
    | or => exact isVerdict_foldl_max (isVerdict_ofBool false) h
    | and => exact isVerdict_foldl_min (isVerdict_ofBool true) h
    | average => exact absurd rfl hfold

theorem Behaviour.isVerdict_apply (b : Behaviour) {a : ℚ} (ha : IsVerdict a) :
    IsVerdict (b.apply a) := by
  cases b with
  | accept => exact ha
  | reject =>
      rcases ha with rfl | rfl
      · exact Or.inr (sub_zero 1)
      · exact Or.inl (sub_self 1)

theorem Matcher.isVerdict_score {m : Matcher} (hfold : m.fold ≠ .average) (input : Attribute) :
    IsVerdict (m.score input) := by
  apply Behaviour.isVerdict_apply
  unfold rawScore
  split
  · exact isVerdict_ofBool false
  · split
    · exact Fold.isVerdict_combine hfold (List.forall_mem_map.2 fun b _ => isVerdict_ofBool b)
    · exact isVerdict_ofBool _

namespace Dimension

/-- The ways to fold of a dimension: its own, if it has one, and those of its matchers. -/
def folds (d : Dimension) : List Fold :=
  let matchers := d.matchers.map (·.fold)
  match d with
  | .path set | .url set | .clientIp set | .body set => set.fold :: matchers
  | .header k | .cookie k | .param k => k.fold :: matchers
  | .methods _ | .predicate .. => matchers

end Dimension

theorem MatcherSet.isVerdict_score {set : MatcherSet}
    (h : Fold.average ∉ set.fold :: set.matchers.map (·.fold)) (input : Attribute) :
    IsVerdict (set.score input) := by
  rw [List.mem_cons, not_or] at h
  refine Fold.isVerdict_combine (Ne.symm h.1) (List.forall_mem_map.2 fun m hm => ?_)
  exact Matcher.isVerdict_score (fun hm' => h.2 (List.mem_map.2 ⟨m, hm, hm'⟩)) input

theorem KeyedMatcher.isVerdict_score {k : KeyedMatcher}
    (h : Fold.average ∉ k.fold :: k.matchers.map (·.fold)) (values : Option (List String)) :
    IsVerdict (k.score values) := by
  rw [List.mem_cons, not_or] at h
  apply Behaviour.isVerdict_apply
  unfold rawScore
  split
  · exact isVerdict_ofBool false
  · split
    · exact isVerdict_ofBool true
    · refine Fold.isVerdict_combine (Ne.symm h.1) (List.forall_mem_map.2 fun m hm => ?_)
      refine isVerdict_foldl_max (isVerdict_ofBool false) (List.forall_mem_map.2 fun v _ => ?_)
      exact Matcher.isVerdict_score (fun hm' => h.2 (List.mem_map.2 ⟨m, hm, hm'⟩)) _

theorem Dimension.isVerdict_score {d : Dimension} (h : Fold.average ∉ d.folds) (r : Request) :
    IsVerdict (d.score r) := by
  cases d with
  | methods names => exact isVerdict_ofBool _
  | path set => exact MatcherSet.isVerdict_score h _
  | url set => exact MatcherSet.isVerdict_score h _
  | clientIp set => exact MatcherSet.isVerdict_score h _
  | header k => exact KeyedMatcher.isVerdict_score h _
  | cookie k => exact KeyedMatcher.isVerdict_score h _
  | param k => exact KeyedMatcher.isVerdict_score h _
  | body set => exact MatcherSet.isVerdict_score h _
  | predicate name holds => exact isVerdict_ofBool _

namespace Mapping

/-- No set of matchers, no matchers for a name and no matcher of the mapping averages. -/
def NeverAverages (m : Mapping) : Prop := ∀ d ∈ m.dimensions, Fold.average ∉ d.folds

theorem isVerdict_of_mem_scores {m : Mapping} (h : m.NeverAverages) (r : Request)
    (scenarios : ScenarioStore) {a : ℚ} (ha : a ∈ (m.score r scenarios).scores) : IsVerdict a := by
  have hdimensions : ∀ a ∈ (matchDimensions r m.dimensions : MatchResult ℚ).scores, IsVerdict a := by
    simp only [MatchResult.scores, matchDimensions, List.map_map, List.forall_mem_map,
      Function.comp_apply]
    exact fun d hd => Dimension.isVerdict_score (h d hd) r
  unfold score at ha
  cases hstep : m.step? with
  | none =>
      rw [hstep] at ha
      exact hdimensions a ha
  | some step =>
      simp only [hstep, MatchResult.scores, MatchResult.add, List.map_append, List.map_cons,
        List.map_nil, List.mem_append, List.mem_singleton] at ha
      rcases ha with ha | rfl
      · exact hdimensions a ha
      · exact isVerdict_ofBool _

end Mapping

/-- What the scores, the total and the average of a mapping have to do with each other. -/
structure MatchResult.Bounded (result : MatchResult ℚ) : Prop where
  score_mem : ∀ a ∈ result.scores, 0 ≤ a ∧ a ≤ 1
  total_nonneg : 0 ≤ result.total
  total_le_average : result.total ≤ result.average
  average_le_one : result.average ≤ 1
  isPerfect_iff : result.isPerfect = true ↔ ∀ a ∈ result.scores, a = 1
  isMatch_iff_pos : result.isMatch = true ↔ 0 < result.total
  isMatch_iff : result.isMatch = true ↔ ∀ a ∈ result.scores, a ≠ 0
  isPerfect_of_nil : result.details = [] → result.isPerfect = true

namespace Mapping

/--
Scores lie between zero and one, with the total below the average; a mapping that never averages has verdicts for
scores, and may answer exactly when it matches perfectly.
-/
theorem bounded_score (m : Mapping) (r : Request) (scenarios : ScenarioStore) :
    (m.score r scenarios : MatchResult ℚ).Bounded ∧
      (m.NeverAverages →
        (∀ a ∈ (m.score r scenarios : MatchResult ℚ).scores, a = 0 ∨ a = 1) ∧
          ((m.score r scenarios : MatchResult ℚ).isMatch = true ↔
            (m.score r scenarios : MatchResult ℚ).isPerfect = true)) := by
  have hscores : ∀ a ∈ (m.score r scenarios : MatchResult ℚ).scores, IsScore a :=
    fun _ ha => m.isScore_of_mem_scores r scenarios ha
  have htotal : IsScore (m.score r scenarios : MatchResult ℚ).total := m.isScore_total r scenarios
  have haverage : IsScore (m.score r scenarios : MatchResult ℚ).average :=
    m.isScore_average r scenarios
  have hperfect := MatchResult.isPerfect_iff hscores
  have hmatch := MatchResult.isMatch_iff hscores
  constructor
  · exact
      { score_mem := hscores
        total_nonneg := htotal.1
        total_le_average := MatchResult.total_le_average _
        average_le_one := haverage.2
        isPerfect_iff := hperfect
        isMatch_iff_pos := decide_eq_true_iff
        isMatch_iff := hmatch
        isPerfect_of_nil := fun hnil => hperfect.2 (by simp [MatchResult.scores, hnil]) }
  · intro hnever
    have hverdict : ∀ a ∈ (m.score r scenarios : MatchResult ℚ).scores, IsVerdict a :=
      fun _ ha => isVerdict_of_mem_scores hnever r scenarios ha
    refine ⟨hverdict, hmatch.trans (Iff.trans ?_ hperfect.symm)⟩
    exact forall₂_congr fun a ha =>
      ⟨(hverdict a ha).resolve_left, fun hone => hone ▸ one_ne_zero⟩

/-- Orders with any body at all: the mapping may answer, so that it matches perfectly. -/
theorem orderMapping_isPerfect :
    (orderMapping .notEmpty).NeverAverages ∧
      ((orderMapping .notEmpty).score orderRequest .empty : MatchResult ℚ).isMatch = true ∧
      ((orderMapping .notEmpty).score orderRequest .empty : MatchResult ℚ).isPerfect = true := by
  have hnever : (orderMapping .notEmpty).NeverAverages := by
    unfold NeverAverages
    decide
  have hmatch : ((orderMapping .notEmpty).score orderRequest .empty : MatchResult ℚ).isMatch =
      true := by
    decide +kernel
  have hverdicts := (bounded_score (orderMapping .notEmpty) orderRequest .empty).2 hnever
  exact ⟨hnever, hmatch, hverdicts.2.1 hmatch⟩

/-- The average of a match and a mismatch: the mapping may answer, and does not match perfectly. -/
example :
    let averaged : Mapping :=
      { orderMapping .notEmpty with
        dimensions := [.body { matchers := [.notEmpty, .exact "paid"], fold := .average }] }
    (averaged.score orderRequest .empty : MatchResult ℚ).total = 1 / 2 := by
  decide +kernel

end Mapping

end Understudy

import Mathlib.Data.Rat.Cast.Order
import Mathlib.Tactic.Linarith
import Understudy.Mapping.Basic

/-!
# Scores lie between zero and one

A scale is `Lawful` when some of its values, the scores, stand for numbers from zero to one, are compared as these
numbers, and are closed under what matching does with scores: turning one over and taking the average of several.
Everything that scores a request then stays among the scores: folds, matchers, dimensions, totals and averages. On a
lawful scale one score alone folds to itself, whichever the fold.
-/

namespace Understudy

/-- Scores stand for numbers from zero to one, and are closed under the operations on them. -/
class Scale.Lawful (α : Type) [Scale α] where
  /-- the values of the scale that are scores -/
  IsScore : α → Prop
  /-- the number that a score stands for -/
  value : α → ℚ
  value_nonneg {a : α} (ha : IsScore a) : 0 ≤ value a
  value_le_one {a : α} (ha : IsScore a) : value a ≤ 1
  value_inj {a b : α} (ha : IsScore a) (hb : IsScore b) (h : value a = value b) : a = b
  lt_iff {a b : α} (ha : IsScore a) (hb : IsScore b) : Scale.lt a b = true ↔ value a < value b
  eq_iff {a b : α} (ha : IsScore a) (hb : IsScore b) : Scale.eq a b = true ↔ value a = value b
  isScore_zero : IsScore Scale.zero
  value_zero : value Scale.zero = 0
  isScore_one : IsScore Scale.one
  value_one : value Scale.one = 1
  isScore_compl {a : α} (ha : IsScore a) : IsScore (Scale.sub Scale.one a)
  isScore_share {scores : List α} (hne : scores ≠ []) (h : ∀ a ∈ scores, IsScore a) :
    IsScore (Scale.share (Scale.sum scores) scores.length)
  share_single {a : α} (ha : IsScore a) : Scale.share (Scale.sum [a]) 1 = a

variable {α : Type} [Scale α] [Scale.Lawful α]

namespace Scale

open Lawful

theorem isScore_ofBool (b : Bool) : IsScore (ofBool b : α) := by
  cases b with
  | false => exact isScore_zero
  | true => exact isScore_one

theorem isScore_max {a b : α} (ha : IsScore a) (hb : IsScore b) : IsScore (max a b) := by
  unfold max
  split
  · exact hb
  · exact ha

theorem isScore_min {a b : α} (ha : IsScore a) (hb : IsScore b) : IsScore (min a b) := by
  unfold min
  split
  · exact hb
  · exact ha

theorem isScore_foldl_max {start : α} {scores : List α} (hs : IsScore start)
    (h : ∀ a ∈ scores, IsScore a) : IsScore (scores.foldl max start) := by
  induction scores generalizing start with
  | nil => exact hs
  | cons a rest ih =>
      rw [List.forall_mem_cons] at h
      exact ih (isScore_max hs h.1) h.2

theorem isScore_foldl_min {start : α} {scores : List α} (hs : IsScore start)
    (h : ∀ a ∈ scores, IsScore a) : IsScore (scores.foldl min start) := by
  induction scores generalizing start with
  | nil => exact hs
  | cons a rest ih =>
      rw [List.forall_mem_cons] at h
      exact ih (isScore_min hs h.1) h.2

theorem lt_irrefl {a : α} (ha : IsScore a) : lt a a = false := by
  rw [← Bool.not_eq_true, lt_iff ha ha]
  exact (not_lt.2 le_rfl)

theorem eq_zero_of_not_lt {a : α} (ha : IsScore a) (h : lt zero a = false) : a = zero := by
  rw [← Bool.not_eq_true, lt_iff isScore_zero ha, value_zero, not_lt] at h
  apply value_inj ha isScore_zero
  rw [value_zero]
  exact le_antisymm h (value_nonneg ha)

theorem max_zero_left {a : α} (ha : IsScore a) : max zero a = a := by
  unfold max
  split
  · rfl
  · rename_i h
    exact (eq_zero_of_not_lt ha (Bool.not_eq_true _ ▸ h)).symm

theorem min_one_left {a : α} (ha : IsScore a) : min one a = a := by
  unfold min
  split
  · rfl
  · rename_i h
    rw [lt_iff ha isScore_one, value_one, not_lt] at h
    apply value_inj isScore_one ha
    rw [value_one]
    exact le_antisymm h (value_le_one ha)

theorem min_zero_left {a : α} (ha : IsScore a) : min zero a = zero := by
  unfold min
  split
  · rename_i h
    rw [lt_iff ha isScore_zero, value_zero] at h
    exact absurd (value_nonneg ha) (not_le.2 h)
  · rfl

theorem min_zero_right {a : α} (ha : IsScore a) : min a zero = zero := by
  unfold min
  split
  · rfl
  · rename_i h
    exact eq_zero_of_not_lt ha (Bool.not_eq_true _ ▸ h)

theorem foldl_min_eq_zero {start : α} {scores : List α} (hs : IsScore start)
    (h : ∀ a ∈ scores, IsScore a) (hzero : start = zero ∨ zero ∈ scores) :
    scores.foldl min start = zero := by
  induction scores generalizing start with
  | nil => exact hzero.resolve_right List.not_mem_nil
  | cons a rest ih =>
      rw [List.forall_mem_cons] at h
      refine ih (isScore_min hs h.1) h.2 ?_
      rcases hzero with rfl | hzero
      · exact Or.inl (min_zero_left h.1)
      · rcases List.mem_cons.1 hzero with rfl | hzero
        · exact Or.inl (min_zero_right hs)
        · exact Or.inr hzero

end Scale

open Scale

open Scale.Lawful (IsScore)

namespace Fold

theorem isScore_combine (fold : Fold) {scores : List α} (h : ∀ a ∈ scores, IsScore a) :
    IsScore (fold.combine scores) := by
  unfold combine
  split
  · exact Lawful.isScore_zero
  · rename_i hne
    cases fold with
    | or => exact isScore_foldl_max Lawful.isScore_zero h
    | and => exact isScore_foldl_min Lawful.isScore_one h
    | average => exact Lawful.isScore_share (by simpa using hne) h

theorem combine_single (fold : Fold) {a : α} (ha : IsScore a) : fold.combine [a] = a := by
  cases fold with
  | or => exact max_zero_left ha
  | and => exact min_one_left ha
  | average => exact Lawful.share_single ha

end Fold

theorem Behaviour.isScore_apply (b : Behaviour) {a : α} (ha : IsScore a) :
    IsScore (b.apply a) := by
  cases b with
  | accept => exact ha
  | reject => exact Lawful.isScore_compl ha

theorem Matcher.isScore_rawScore (m : Matcher) (input : Attribute) :
    IsScore (m.rawScore input : α) := by
  unfold Matcher.rawScore
  split
  · exact Lawful.isScore_zero
  · split
    · apply Fold.isScore_combine
      intro a ha
      obtain ⟨b, -, rfl⟩ := List.mem_map.1 ha
      exact isScore_ofBool b
    · exact isScore_ofBool _

theorem Matcher.isScore_score (m : Matcher) (input : Attribute) :
    IsScore (m.score input : α) :=
  m.behaviour.isScore_apply (m.isScore_rawScore input)

theorem MatcherSet.isScore_score (set : MatcherSet) (input : Attribute) :
    IsScore (set.score input : α) := by
  apply Fold.isScore_combine
  intro a ha
  obtain ⟨m, -, rfl⟩ := List.mem_map.1 ha
  exact m.isScore_score input

theorem KeyedMatcher.isScore_score (k : KeyedMatcher) (values : Option (List String)) :
    IsScore (k.score values : α) := by
  apply Behaviour.isScore_apply
  unfold KeyedMatcher.rawScore
  split
  · exact Lawful.isScore_zero
  · split
    · exact Lawful.isScore_one
    · apply Fold.isScore_combine
      intro a ha
      obtain ⟨m, -, rfl⟩ := List.mem_map.1 ha
      apply isScore_foldl_max Lawful.isScore_zero
      intro b hb
      obtain ⟨v, -, rfl⟩ := List.mem_map.1 hb
      exact m.isScore_score _

theorem Dimension.isScore_score (r : Request) (d : Dimension) : IsScore (d.score r : α) := by
  cases d with
  | methods names => exact isScore_ofBool _
  | path set => exact set.isScore_score _
  | url set => exact set.isScore_score _
  | clientIp set => exact set.isScore_score _
  | header k => exact k.isScore_score _
  | cookie k => exact k.isScore_score _
  | param k => exact k.isScore_score _
  | body set => exact set.isScore_score _
  | predicate name holds => exact isScore_ofBool _

theorem Mapping.isScore_of_mem_dimensions (r : Request) (dimensions : List Dimension) {a : α}
    (ha : a ∈ (matchDimensions r dimensions : MatchResult α).scores) : IsScore a := by
  simp only [MatchResult.scores, matchDimensions, List.map_map, List.mem_map,
    Function.comp_apply] at ha
  obtain ⟨d, -, rfl⟩ := ha
  exact d.isScore_score r

theorem Mapping.isScore_of_mem_scores (m : Mapping) (r : Request) (scenarios : ScenarioStore)
    {a : α} (ha : a ∈ (m.score r scenarios).scores) : IsScore a := by
  unfold Mapping.score at ha
  simp only at ha
  split at ha
  · simp only [MatchResult.scores, MatchResult.add, List.map_append, List.map_cons, List.map_nil,
      List.mem_append, List.mem_singleton] at ha
    rcases ha with ha | rfl
    · exact isScore_of_mem_dimensions r m.dimensions ha
    · exact isScore_ofBool _
  · exact isScore_of_mem_dimensions r m.dimensions ha

theorem Mapping.isScore_total (m : Mapping) (r : Request) (scenarios : ScenarioStore) :
    IsScore (m.score r scenarios : MatchResult α).total :=
  isScore_foldl_min Lawful.isScore_one fun _ ha => m.isScore_of_mem_scores r scenarios ha

theorem Mapping.isScore_average (m : Mapping) (r : Request) (scenarios : ScenarioStore) :
    IsScore (m.score r scenarios : MatchResult α).average := by
  unfold MatchResult.average
  split
  · exact Lawful.isScore_one
  · rename_i hne
    have hlength : (m.score r scenarios : MatchResult α).details.length =
        (m.score r scenarios : MatchResult α).scores.length := by
      simp [MatchResult.scores]
    rw [hlength]
    refine Lawful.isScore_share ?_ fun _ ha => m.isScore_of_mem_scores r scenarios ha
    simpa [MatchResult.scores] using hne

omit [Scale.Lawful α] in
/-- The step of a scenario lowers the total of the dimensions to its own score. -/
theorem Mapping.total_of_step {m : Mapping} {step : ScenarioStep} (hstep : m.step? = some step)
    (r : Request) (scenarios : ScenarioStore) :
    (m.score r scenarios : MatchResult α).total =
      Scale.min (matchDimensions r m.dimensions : MatchResult α).total (scenarios.score step) := by
  simp [Mapping.score, hstep, MatchResult.total, MatchResult.scores, MatchResult.add]

theorem Mapping.isScore_total_dimensions (r : Request) (dimensions : List Dimension) :
    IsScore (matchDimensions r dimensions : MatchResult α).total :=
  isScore_foldl_min Lawful.isScore_one fun _ ha => isScore_of_mem_dimensions r dimensions ha

/-- A mapping whose dimensions do not match never matches, whatever the states of scenarios. -/
theorem Mapping.isMatch_eq_false {m : Mapping} {r : Request}
    (h : (matchDimensions r m.dimensions : MatchResult α).isMatch = false)
    (scenarios : ScenarioStore) : (m.score r scenarios : MatchResult α).isMatch = false := by
  have htotal : (matchDimensions r m.dimensions : MatchResult α).total = zero :=
    eq_zero_of_not_lt (isScore_total_dimensions r m.dimensions) h
  cases hstep : m.step? with
  | none =>
      rw [Mapping.score, hstep]
      exact h
  | some step =>
      rw [MatchResult.isMatch, total_of_step hstep, htotal, ScenarioStore.score,
        min_zero_left (isScore_ofBool _)]
      exact lt_irrefl Lawful.isScore_zero

theorem Mapping.score_ne_zero_of_isMatch {m : Mapping} {r : Request} {scenarios : ScenarioStore}
    (h : (m.score r scenarios : MatchResult α).isMatch = true) {d : Dimension}
    (hd : d ∈ m.dimensions) : (d.score r : α) ≠ zero := by
  intro hzero
  have hmem : zero ∈ (matchDimensions r m.dimensions : MatchResult α).scores := by
    rw [← hzero]
    simp only [MatchResult.scores, matchDimensions, List.map_map, List.mem_map]
    exact ⟨d, hd, rfl⟩
  have htotal : (matchDimensions r m.dimensions : MatchResult α).total = zero :=
    foldl_min_eq_zero Lawful.isScore_one (fun _ => isScore_of_mem_dimensions r m.dimensions)
      (Or.inr hmem)
  have hfalse : (matchDimensions r m.dimensions : MatchResult α).isMatch = false := by
    rw [MatchResult.isMatch, htotal]
    exact lt_irrefl Lawful.isScore_zero
  rw [isMatch_eq_false hfalse scenarios] at h
  exact absurd h Bool.false_ne_true

/-- A mapping of a scenario whose dimensions match perfectly matches exactly in its state. -/
theorem Mapping.isMatch_of_isPerfect {m : Mapping} {r : Request} {step : ScenarioStep}
    (hstep : m.step? = some step)
    (h : (matchDimensions r m.dimensions : MatchResult α).isPerfect = true)
    (scenarios : ScenarioStore) :
    (m.score r scenarios : MatchResult α).isMatch = scenarios.allows step := by
  have htotal : (matchDimensions r m.dimensions : MatchResult α).total = one := by
    have hdimensions := isScore_total_dimensions (α := α) r m.dimensions
    unfold MatchResult.isPerfect at h
    rw [Lawful.eq_iff hdimensions Lawful.isScore_one] at h
    exact Lawful.value_inj hdimensions Lawful.isScore_one h
  rw [MatchResult.isMatch, total_of_step hstep, htotal, ScenarioStore.score,
    min_one_left (isScore_ofBool _)]
  cases scenarios.allows step with
  | false => exact lt_irrefl Lawful.isScore_zero
  | true =>
      rw [ofBool_true, Lawful.lt_iff Lawful.isScore_zero Lawful.isScore_one, Lawful.value_zero,
        Lawful.value_one]
      exact one_pos

end Understudy

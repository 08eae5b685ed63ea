import Understudy.Proofs.Score.Lawful

/-!
# Perfect scores

On a lawful scale a total is perfect exactly when every dimension's score is, and a mapping may answer exactly when
none is zero. The matchers that hold one value, or a list of which any will do, score nothing but perfect matches and
mismatches, and so do the dimensions made of them: `ofBool` of a condition that is stated here for each.
-/

namespace Understudy

open Scale

open Scale.Lawful (IsScore)

variable {α : Type} [Scale α] [Scale.Lawful α]

namespace Scale

theorem zero_ne_one : (zero : α) ≠ one := by
  intro h
  have hvalue := congrArg Lawful.value h
  rw [Lawful.value_zero, Lawful.value_one] at hvalue
  exact zero_ne_one' ℚ hvalue

@[simp] theorem ofBool_eq_one {b : Bool} : (ofBool b : α) = one ↔ b = true := by
  cases b <;> simp [zero_ne_one]

theorem eq_one_iff {a : α} (ha : IsScore a) : eq a one = true ↔ a = one := by
  rw [Lawful.eq_iff ha Lawful.isScore_one]
  exact ⟨Lawful.value_inj ha Lawful.isScore_one, fun h => by rw [h]⟩

theorem max_ofBool (a b : Bool) : max (ofBool a : α) (ofBool b) = ofBool (a || b) := by
  have hlt : lt (zero : α) one = true := by
    rw [Lawful.lt_iff Lawful.isScore_zero Lawful.isScore_one, Lawful.value_zero, Lawful.value_one]
    exact one_pos
  have hnot : lt (one : α) zero = false := by
    rw [← Bool.not_eq_true, Lawful.lt_iff Lawful.isScore_one Lawful.isScore_zero, Lawful.value_zero,
      Lawful.value_one]
    exact not_lt.2 zero_le_one
  cases a <;> cases b <;>
    simp [max, hlt, hnot, lt_irrefl (Lawful.isScore_zero (α := α)),
      lt_irrefl (Lawful.isScore_one (α := α))]

theorem foldl_max_ofBool (start : Bool) (bs : List Bool) :
    (bs.map ofBool).foldl max (ofBool start : α) = ofBool (start || bs.any id) := by
  induction bs generalizing start with
  | nil => simp
  | cons b bs ih => rw [List.map_cons, List.foldl_cons, max_ofBool, ih, List.any_cons, Bool.or_assoc]; rfl

theorem min_eq_one_iff {a b : α} (ha : IsScore a) (hb : IsScore b) :
    min a b = one ↔ a = one ∧ b = one := by
  unfold min
  split
  · rename_i hlt
    constructor
    · rintro rfl
      rw [Lawful.lt_iff Lawful.isScore_one ha, Lawful.value_one] at hlt
      exact absurd (Lawful.value_le_one ha) (not_le.2 hlt)
    · exact fun h => h.2
  · rename_i hnlt
    refine ⟨?_, fun h => h.1⟩
    rintro rfl
    refine ⟨rfl, Lawful.value_inj hb Lawful.isScore_one ?_⟩
    rw [Lawful.lt_iff hb Lawful.isScore_one, not_lt] at hnlt
    refine le_antisymm ?_ hnlt
    rw [Lawful.value_one]
    exact Lawful.value_le_one hb

theorem foldl_min_eq_one_iff {start : α} {scores : List α} (hs : IsScore start)
    (h : ∀ a ∈ scores, IsScore a) :
    scores.foldl min start = one ↔ start = one ∧ ∀ a ∈ scores, a = one := by
  induction scores generalizing start with
  | nil => simp
  | cons a scores ih =>
      rw [List.forall_mem_cons] at h
      rw [List.foldl_cons, ih (isScore_min hs h.1) h.2, min_eq_one_iff hs h.1, List.forall_mem_cons,
        and_assoc]

omit [Scale.Lawful α] in
theorem foldl_min_mem (start : α) (scores : List α) :
    scores.foldl min start = start ∨ scores.foldl min start ∈ scores := by
  induction scores generalizing start with
  | nil => exact Or.inl rfl
  | cons a scores ih =>
      rcases ih (min start a) with hstart | hmem
      · rw [List.foldl_cons, hstart, min]
        split
        · exact Or.inr List.mem_cons_self
        · exact Or.inl rfl
      · exact Or.inr (List.mem_cons_of_mem a hmem)

end Scale

theorem Fold.combine_or_ofBool (bs : List Bool) :
    (Fold.or.combine (bs.map ofBool) : α) = ofBool (bs.any id) := by
  unfold Fold.combine
  split
  · rename_i hempty
    rw [List.isEmpty_map, List.isEmpty_iff] at hempty
    rw [hempty]
    rfl
  · exact foldl_max_ofBool false bs

namespace Matcher

/-- Any of the texts: the text that the attribute is seen as is one of them. -/
theorem score_exactAny (texts : List String) (input : Attribute) :
    ((exactAny texts).score input : α) = ofBool (input.text?.any (texts.contains ·)) := by
  have hverdicts : (Kind.exact (texts.map .ofText)).verdicts false input =
      input.text?.map fun s => texts.map fun t => s == t := by
    simp [Kind.verdicts, Exact.matches?, Exact.ofText, Function.comp_def]
  unfold score rawScore
  simp only [exactAny, ofKind, hverdicts]
  cases input.text? with
  | none => rfl
  | some s =>
      simp only [Option.map_some, Option.any_some, Kind.isFolded, if_true, Behaviour.apply]
      rw [Fold.combine_or_ofBool, List.any_map]
      congr 1
      rw [List.contains_eq_any_beq]
      rfl

theorem score_exact (s : String) (input : Attribute) :
    ((exact s).score input : α) = ofBool (input.text? == some s) := by
  have hone : exact s = exactAny [s] := rfl
  rw [hone, score_exactAny]
  congr 1
  rw [Bool.eq_iff_iff]
  cases input.text? <;> simp

theorem score_regex (p : Pattern) (input : Attribute) :
    ((ofKind (.regex [p])).score input : α) = ofBool (input.text?.any p.matches?) := by
  unfold score rawScore
  simp only [ofKind, Kind.verdicts]
  cases input.text? with
  | none => rfl
  | some s =>
      simp only [Option.map_some, Option.any_some, Kind.isFolded, if_true, Behaviour.apply]
      exact (Fold.combine_or_ofBool [p.matches? s]).trans (by simp)

omit [Scale.Lawful α] in
theorem score_json (v : Json) (input : Attribute) :
    ((json v).score input : α) = ofBool (input.json?.any (Json.equals false v ·)) := by
  unfold score rawScore
  simp only [json, ofKind, Kind.verdicts]
  cases input.json? <;> simp [Kind.isFolded, Behaviour.apply]

omit [Scale.Lawful α] in
theorem score_exactBytes (b : Bytes) (input : Attribute) :
    ((exactBytes b).score input : α) = ofBool (input.bytes? == some b) := by
  unfold score rawScore
  simp only [exactBytes, ofKind, Kind.verdicts]
  cases input.bytes? <;> simp [Kind.isFolded, Behaviour.apply]

end Matcher

theorem MatcherSet.score_single (m : Matcher) (input : Attribute) :
    ((MatcherSet.single m).score input : α) = m.score input :=
  Fold.combine_single .or (m.isScore_score input)

/-- A name asked for with any of several values: it is there, with at least one of them. -/
theorem KeyedMatcher.score_of_exactAny (name : String) (texts : List String) (ignoreCase : Bool)
    (values : Option (List String)) :
    ((KeyedMatcher.of name [.exactAny texts] ignoreCase).score values : α) =
      ofBool (values.any fun vs => vs.any (texts.contains ·)) := by
  cases values with
  | none => rfl
  | some vs =>
      have hscores : (vs.map fun v => ((Matcher.exactAny texts).score (.text v) : α)) =
          (vs.map (texts.contains ·)).map ofBool := by
        rw [List.map_map]
        exact List.map_congr_left fun v _ => Matcher.score_exactAny texts (.text v)
      have hbest := foldl_max_ofBool (α := α) false (vs.map (texts.contains ·))
      have hone (b : Bool) := Fold.combine_single (α := α) .or (isScore_ofBool b)
      rw [ofBool_false, Bool.false_or, List.any_map] at hbest
      simp only [KeyedMatcher.score, KeyedMatcher.rawScore, KeyedMatcher.of, List.isEmpty_cons,
        Bool.false_eq_true, if_false, List.map_cons, List.map_nil, hscores, hbest, hone,
        Behaviour.apply, Option.any_some, Function.id_comp]

theorem MatchResult.isPerfect_iff {result : MatchResult α} (h : ∀ a ∈ result.scores, IsScore a) :
    result.isPerfect = true ↔ ∀ a ∈ result.scores, a = one := by
  unfold isPerfect total
  rw [eq_one_iff (isScore_foldl_min Lawful.isScore_one h),
    foldl_min_eq_one_iff Lawful.isScore_one h]
  simp

theorem MatchResult.isMatch_iff {result : MatchResult α} (h : ∀ a ∈ result.scores, IsScore a) :
    result.isMatch = true ↔ ∀ a ∈ result.scores, a ≠ zero := by
  have htotal : IsScore result.total := isScore_foldl_min Lawful.isScore_one h
  constructor
  · rintro hmatch a ha rfl
    have hzero : result.total = zero := foldl_min_eq_zero Lawful.isScore_one h (Or.inr ha)
    rw [isMatch, hzero, Scale.lt_irrefl Lawful.isScore_zero] at hmatch
    exact absurd hmatch Bool.false_ne_true
  · intro hne
    by_contra hmatch
    have hzero : result.total = zero := eq_zero_of_not_lt htotal (Bool.not_eq_true _ ▸ hmatch)
    rcases foldl_min_mem one result.scores with hone | hmem
    · exact zero_ne_one (hzero.symm.trans hone)
    · exact hne _ hmem hzero

/-- A request matches perfectly exactly when it does in every dimension. -/
theorem Mapping.isPerfect_matchDimensions (r : Request) (dimensions : List Dimension) :
    (matchDimensions r dimensions : MatchResult α).isPerfect = true ↔
      ∀ d ∈ dimensions, (d.score r : α) = one := by
  rw [MatchResult.isPerfect_iff fun _ => isScore_of_mem_dimensions r dimensions]
  simp [MatchResult.scores, matchDimensions]

end Understudy

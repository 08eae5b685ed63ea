import Understudy.Proofs.Score.Binary64
import Understudy.Registry.Resolution

/-!
# The mapping that answers is the best one

`IsChosen` says which mapping of a list is the best of those that meet a condition: no other one has a higher value, or
the same value and a lower priority, or the same of both and an earlier place. At most one mapping is chosen, and the
scan of `Candidate.best` finds it. Both searches of a resolution are put in these terms, with the scores of a running
server as the numbers that they stand for.
-/

namespace Understudy

namespace Registry

/-- By a value, and then by priority, the first mapping goes before the second. -/
def Outranks (value : Mapping → ℚ) (m d : Mapping) : Prop :=
  value d < value m ∨ (value d = value m ∧ m.priority < d.priority)

def Ties (value : Mapping → ℚ) (m d : Mapping) : Prop :=
  value d = value m ∧ m.priority = d.priority

/-- Of the mappings that meet a condition, this one goes before all others: the ones registered later may tie. -/
def IsChosen (value : Mapping → ℚ) (eligible : Mapping → Prop) (ms : List Mapping)
    (m : Mapping) : Prop :=
  ∃ earlier later, ms = earlier ++ m :: later ∧ eligible m ∧
    (∀ d ∈ earlier, eligible d → Outranks value m d) ∧
    (∀ d ∈ later, eligible d → Outranks value m d ∨ Ties value m d)

section

variable {value : Mapping → ℚ} {a b c : Mapping}

theorem Outranks.trans (hab : Outranks value a b) (hbc : Outranks value b c) :
    Outranks value a c := by
  unfold Outranks at *
  grind

theorem Outranks.trans_ties (hab : Outranks value a b) (hbc : Ties value b c) :
    Outranks value a c := by
  unfold Outranks Ties at *
  grind

theorem not_outranks (h : ¬ Outranks value b a) : Outranks value a b ∨ Ties value a b := by
  unfold Outranks Ties at *
  grind

theorem Outranks.asymm (hab : Outranks value a b) (hba : Outranks value b a ∨ Ties value b a) :
    False := by
  unfold Outranks Ties at *
  grind

variable {eligible : Mapping → Prop} {ms : List Mapping}

theorem IsChosen.mem (h : IsChosen value eligible ms a) : a ∈ ms := by
  obtain ⟨earlier, later, rfl, -⟩ := h
  simp

theorem IsChosen.meets (h : IsChosen value eligible ms a) : eligible a := by
  obtain ⟨earlier, later, -, h, -⟩ := h
  exact h

theorem IsChosen.value_le (h : IsChosen value eligible ms a) (hb : b ∈ ms) (hbe : eligible b) :
    value b ≤ value a := by
  obtain ⟨earlier, later, rfl, -, hearlier, hlater⟩ := h
  have hle : Outranks value a b ∨ Ties value a b → value b ≤ value a := by
    unfold Outranks Ties
    grind
  rcases List.mem_append.1 hb with hb | hb
  · exact hle (Or.inl (hearlier b hb hbe))
  · rcases List.mem_cons.1 hb with rfl | hb
    · exact le_rfl
    · exact hle (hlater b hb hbe)

theorem IsChosen.of_only (ha : a ∈ ms) (hae : eligible a) (h : ∀ d ∈ ms, eligible d → d = a) :
    IsChosen value eligible ms a := by
  obtain ⟨earlier, later, rfl, hfirst⟩ := List.eq_append_cons_of_mem ha
  refine ⟨earlier, later, rfl, hae, ?_, ?_⟩
  · intro d hd hde
    obtain rfl := h d (by simp [hd]) hde
    exact absurd hd hfirst
  · intro d hd hde
    obtain rfl := h d (by simp [hd]) hde
    exact Or.inr ⟨rfl, rfl⟩

theorem IsChosen.unique (ha : IsChosen value eligible ms a) (hb : IsChosen value eligible ms b) :
    a = b := by
  obtain ⟨front, back, rfl, hae, hfront, hback⟩ := ha
  obtain ⟨front', back', hsplit, hbe, hfront', hback'⟩ := hb
  -- the one that stands earlier outranks the other or ties, and the later one outranks it
  rcases List.append_eq_append_iff.1 hsplit with ⟨mid, rfl, hmid⟩ | ⟨mid, rfl, hmid⟩
  · cases mid with
    | nil => exact (List.cons.inj hmid).1
    | cons x mid =>
        obtain ⟨rfl, rfl⟩ := List.cons.inj hmid
        exact ((hfront' a (by simp) hae).asymm (hback b (by simp) hbe)).elim
  · cases mid with
    | nil => exact (List.cons.inj hmid).1.symm
    | cons x mid =>
        obtain ⟨rfl, rfl⟩ := List.cons.inj hmid
        exact ((hfront b (by simp) hbe).asymm (hback' a (by simp) hae)).elim

/-- The next mapping takes the place of the chosen one when it outranks it. -/
theorem IsChosen.append_singleton (h : IsChosen value (fun _ => True) ms b) (d : Mapping)
    [Decidable (Outranks value d b)] :
    IsChosen value (fun _ => True) (ms ++ [d]) (if Outranks value d b then d else b) := by
  obtain ⟨front, back, rfl, -, hfront, hback⟩ := h
  split
  · rename_i hd
    refine ⟨front ++ b :: back, [], rfl, trivial, ?_, by simp⟩
    intro x hx _
    rw [List.mem_append, List.mem_cons] at hx
    rcases hx with hx | rfl | hx
    · exact hd.trans (hfront x hx trivial)
    · exact hd
    · rcases hback x hx trivial with hbx | hbx
      · exact hd.trans hbx
      · exact hd.trans_ties hbx
  · rename_i hd
    refine ⟨front, back ++ [d], by simp, trivial, hfront, ?_⟩
    intro x hx _
    rw [List.mem_append, List.mem_singleton] at hx
    rcases hx with hx | rfl
    · exact hback x hx trivial
    · exact not_outranks hd

theorem IsChosen.of_filter {p : Mapping → Bool}
    (h : IsChosen value (fun _ => True) (ms.filter p) a) :
    IsChosen value (fun m => p m = true) ms a := by
  obtain ⟨front, back, hsplit, -, hfront, hback⟩ := h
  obtain ⟨l₁, rest, rfl, rfl, hrest⟩ := List.filter_eq_append_iff.1 hsplit
  obtain ⟨l₂, l₃, rfl, hnone, ha, rfl⟩ := List.filter_eq_cons_iff.1 hrest
  refine ⟨l₁ ++ l₂, l₃, by simp, ha, ?_, ?_⟩
  · intro d hd hp
    rcases List.mem_append.1 hd with hd | hd
    · exact hfront d (List.mem_filter.2 ⟨hd, hp⟩) trivial
    · exact absurd hp (hnone d hd)
  · intro d hd hp
    exact hback d (List.mem_filter.2 ⟨hd, hp⟩) trivial

end

end Registry

namespace Candidate

open Registry Scale.Lawful

variable {α : Type} [Scale α] [Scale.Lawful α] {score : Candidate α → α}
  {result : Mapping → MatchResult α}

def scoreValue (score : Candidate α → α) (result : Mapping → MatchResult α) (m : Mapping) : ℚ :=
  value (score ⟨m, result m⟩)

theorem beats_iff (h : ∀ m, IsScore (score ⟨m, result m⟩)) (c b : Mapping) :
    beats score ⟨c, result c⟩ ⟨b, result b⟩ = true ↔
      Outranks (scoreValue score result) c b := by
  unfold beats Outranks scoreValue
  rw [Bool.or_eq_true, Bool.and_eq_true, lt_iff (h b) (h c), eq_iff (h c) (h b),
    decide_eq_true_iff, eq_comm (a := value (score ⟨b, result b⟩))]

/-- The scan keeps the chosen one of the mappings before. -/
theorem bestFrom_isChosen (h : ∀ m, IsScore (score ⟨m, result m⟩)) {before : List Mapping}
    {b : Mapping} (hb : IsChosen (scoreValue score result) (fun _ => True) before b)
    (ms : List Mapping) :
    ∃ c, bestFrom score (some ⟨b, result b⟩) (ms.map fun m => ⟨m, result m⟩) =
        some ⟨c, result c⟩ ∧
      IsChosen (scoreValue score result) (fun _ => True) (before ++ ms) c := by
  classical
  induction ms generalizing before b with
  | nil => exact ⟨b, rfl, by simpa using hb⟩
  | cons m ms ih =>
      have hnext := hb.append_singleton m
      rw [List.map_cons, bestFrom]
      have hif : (if beats score ⟨m, result m⟩ ⟨b, result b⟩ then
            (⟨m, result m⟩ : Candidate α) else ⟨b, result b⟩) =
          ⟨if Outranks (scoreValue score result) m b then m else b,
            result (if Outranks (scoreValue score result) m b then m else b)⟩ := by
        by_cases hm : Outranks (scoreValue score result) m b
        · rw [if_pos ((beats_iff h m b).2 hm), if_pos hm]
        · rw [if_neg fun hbeats => hm ((beats_iff h m b).1 hbeats), if_neg hm]
      rw [hif]
      obtain ⟨c, hc, hchosen⟩ := ih hnext
      refine ⟨c, hc, ?_⟩
      rw [List.append_cons]
      exact hchosen

/-- The scan over the mappings that pass a test finds the chosen one, and nothing when none passes. -/
theorem best_filter (h : ∀ m, IsScore (score ⟨m, result m⟩)) (p : Mapping → Bool)
    (ms : List Mapping) :
    (best score ((ms.filter p).map fun m => ⟨m, result m⟩) = none ∧
        ∀ m ∈ ms, ¬ p m = true) ∨
      ∃ c, best score ((ms.filter p).map fun m => ⟨m, result m⟩) = some ⟨c, result c⟩ ∧
        IsChosen (scoreValue score result) (fun m => p m = true) ms c := by
  unfold best
  cases hms : ms.filter p with
  | nil => exact Or.inl ⟨rfl, List.filter_eq_nil_iff.1 hms⟩
  | cons m rest =>
      have hone : IsChosen (scoreValue score result) (fun _ => True) [m] m :=
        ⟨[], [], rfl, trivial, by simp, by simp⟩
      obtain ⟨c, hc, hchosen⟩ := bestFrom_isChosen h hone rest
      refine Or.inr ⟨c, hc, IsChosen.of_filter ?_⟩
      rw [hms]
      exact hchosen

theorem best_filter_eq_none_iff (h : ∀ m, IsScore (score ⟨m, result m⟩)) (p : Mapping → Bool)
    (ms : List Mapping) :
    best score ((ms.filter p).map fun m => ⟨m, result m⟩) = none ↔
      ∀ m ∈ ms, ¬ p m = true := by
  rcases best_filter h p ms with ⟨hnone, hall⟩ | ⟨c, hc, hchosen⟩
  · exact ⟨fun _ => hall, fun _ => hnone⟩
  · constructor
    · intro hnone
      rw [hc] at hnone
      exact absurd hnone (by simp)
    · intro hall
      exact absurd hchosen.meets (hall c hchosen.mem)

theorem best_filter_eq_some_iff (h : ∀ m, IsScore (score ⟨m, result m⟩)) (p : Mapping → Bool)
    (ms : List Mapping) (c : Candidate α) :
    best score ((ms.filter p).map fun m => ⟨m, result m⟩) = some c ↔
      c.result = result c.mapping ∧
        IsChosen (scoreValue score result) (fun m => p m = true) ms c.mapping := by
  obtain ⟨m, res⟩ := c
  rcases best_filter h p ms with ⟨hnone, hall⟩ | ⟨b, hb, hchosen⟩
  · rw [hnone]
    constructor
    · intro hsome
      exact absurd hsome (by simp)
    · rintro ⟨-, hm⟩
      exact absurd hm.meets (hall m hm.mem)
  · rw [hb]
    constructor
    · intro hsome
      cases hsome
      exact ⟨rfl, hchosen⟩
    · rintro ⟨hres, hm⟩
      obtain rfl := hchosen.unique hm
      rw [show res = result b from hres]

end Candidate

namespace Mapping

def totalValue (r : Request) (scenarios : ScenarioStore) (m : Mapping) : ℚ :=
  (m.score r scenarios : MatchResult Score).total.value

def averageValue (r : Request) (scenarios : ScenarioStore) (m : Mapping) : ℚ :=
  (m.score r scenarios : MatchResult Score).average.value

end Mapping

namespace Registry

open Scale.Lawful

theorem isMatch_iff (m : Mapping) (r : Request) (scenarios : ScenarioStore) :
    (m.score r scenarios : MatchResult Score).isMatch = true ↔ 0 < m.totalValue r scenarios := by
  exact lt_iff isScore_zero (m.isScore_total r scenarios)

theorem totalValue_nonneg (m : Mapping) (r : Request) (scenarios : ScenarioStore) :
    0 ≤ m.totalValue r scenarios :=
  value_nonneg (m.isScore_total (α := Score) r scenarios)

theorem isPartial_iff (m : Mapping) (r : Request) (scenarios : ScenarioStore) :
    (⟨m, m.score r scenarios⟩ : Candidate Score).isPartial = true ↔
      m.isPermanent = false ∧ m.totalValue r scenarios = 0 ∧ 0 < m.averageValue r scenarios := by
  have haverage : Scale.lt (Scale.zero : Score) (m.score r scenarios : MatchResult Score).average =
      true ↔ 0 < m.averageValue r scenarios :=
    lt_iff isScore_zero (m.isScore_average r scenarios)
  have htotal : (m.score r scenarios : MatchResult Score).isMatch = false ↔
      m.totalValue r scenarios = 0 := by
    rw [← Bool.not_eq_true, isMatch_iff, not_lt]
    exact ⟨fun h => le_antisymm h (totalValue_nonneg m r scenarios), fun h => h.le⟩
  unfold Candidate.isPartial
  rw [Bool.and_eq_true, Bool.and_eq_true, Bool.not_eq_true', Bool.not_eq_true', haverage, htotal,
    and_assoc]

/-- A mapping that may answer: it is among those searched, and its total is above zero. -/
def Answers (accepts : Mapping → Bool) (r : Request) (scenarios : ScenarioStore) (m : Mapping) :
    Prop :=
  accepts m = true ∧ 0 < m.totalValue r scenarios

/-- A mapping that may be told as a partial match: its total is zero and its average is not. -/
def ComesClose (accepts : Mapping → Bool) (r : Request) (scenarios : ScenarioStore)
    (m : Mapping) : Prop :=
  accepts m = true ∧ m.isPermanent = false ∧ m.totalValue r scenarios = 0 ∧
    0 < m.averageValue r scenarios

theorem filter_candidates (registry : Registry) (accepts : Mapping → Bool) (r : Request)
    (scenarios : ScenarioStore) (p : Candidate Score → Bool) :
    (registry.candidates accepts r scenarios).filter p =
      (registry.mappings.filter fun m => p ⟨m, m.score r scenarios⟩ && accepts m).map
        fun m => ⟨m, m.score r scenarios⟩ := by
  rw [candidates, List.filter_map, List.filter_filter]
  rfl

theorem toRat?_eq_some_value {x : Binary64} (hx : IsScore x) : x.toRat? = some x.value := by
  obtain ⟨q, rfl, -, -⟩ := hx
  rfl

/-- One search of a resolution, its test said as a condition. -/
theorem best_candidates (registry : Registry) (accepts : Mapping → Bool) (r : Request)
    (scenarios : ScenarioStore) (p : Candidate Score → Bool) (score : Candidate Score → Score)
    (h : ∀ m, IsScore (score ⟨m, m.score r scenarios⟩)) (condition : Mapping → Prop)
    (hp : ∀ m, (p ⟨m, m.score r scenarios⟩ && accepts m) = true ↔ condition m) :
    (Candidate.best score ((registry.candidates accepts r scenarios).filter p) = none ↔
        ∀ m ∈ registry.mappings, ¬ condition m) ∧
      ∀ c, Candidate.best score ((registry.candidates accepts r scenarios).filter p) = some c ↔
        c.result = c.mapping.score r scenarios ∧
          IsChosen (fun m => (score ⟨m, m.score r scenarios⟩).value) condition
            registry.mappings c.mapping := by
  have hcondition : (fun m => (p ⟨m, m.score r scenarios⟩ && accepts m) = true) = condition :=
    funext fun m => propext (hp m)
  rw [filter_candidates]
  constructor
  · rw [Candidate.best_filter_eq_none_iff h]
    simp only [hp]
  · intro c
    rw [Candidate.best_filter_eq_some_iff h, hcondition]
    rfl

theorem matched_isChosen (registry : Registry) (accepts : Mapping → Bool) (r : Request)
    (scenarios : ScenarioStore) (allowPartial : Bool) :
    let found : Resolution Score := registry.resolveAmong accepts r scenarios allowPartial
    (found.matched = none ↔ ∀ m ∈ registry.mappings, ¬ Answers accepts r scenarios m) ∧
      ∀ c, found.matched = some c ↔
        c.result = c.mapping.score r scenarios ∧
          IsChosen (Mapping.totalValue r scenarios) (Answers accepts r scenarios)
            registry.mappings c.mapping := by
  refine best_candidates registry accepts r scenarios (·.result.isMatch) (·.result.total)
    (fun m => m.isScore_total r scenarios) _ fun m => ?_
  rw [Bool.and_eq_true, isMatch_iff, and_comm]
  rfl

theorem resolve_of_only {registry : Registry} {r : Request} {scenarios : ScenarioStore}
    {m : Mapping} (hm : m ∈ registry.mappings)
    (hmatch : (m.score r scenarios : MatchResult Score).isMatch = true)
    (honly : ∀ d ∈ registry.mappings,
      (d.score r scenarios : MatchResult Score).isMatch = true → d = m) (allowPartial : Bool) :
    (registry.resolve r scenarios allowPartial : Resolution Score).matched =
      some ⟨m, m.score r scenarios⟩ := by
  have h := best_candidates registry (fun _ => true) r scenarios (·.result.isMatch)
    (·.result.total) (fun m => m.isScore_total r scenarios)
    (fun m => (m.score r scenarios : MatchResult Score).isMatch = true)
    (fun m => by rw [Bool.and_true])
  exact (h.2 ⟨m, m.score r scenarios⟩).2 ⟨rfl, IsChosen.of_only hm hmatch honly⟩

/-- Both searches of a resolution find the chosen mapping, and every score in them is a number. -/
theorem resolveAmong_isChosen (registry : Registry) (accepts : Mapping → Bool) (r : Request)
    (scenarios : ScenarioStore) (allowPartial : Bool) :
    let found : Resolution Score := registry.resolveAmong accepts r scenarios allowPartial
    (∀ m : Mapping,
      (m.score r scenarios : MatchResult Score).total.toRat? = some (m.totalValue r scenarios) ∧
      (m.score r scenarios : MatchResult Score).average.toRat? =
        some (m.averageValue r scenarios)) ∧
    (found.matched = none ↔ ∀ m ∈ registry.mappings, ¬ Answers accepts r scenarios m) ∧
    (∀ c, found.matched = some c ↔
      c.result = c.mapping.score r scenarios ∧
        IsChosen (Mapping.totalValue r scenarios) (Answers accepts r scenarios)
          registry.mappings c.mapping) ∧
    (allowPartial = false ∨ found.matched ≠ none → found.partial_ = none) ∧
    (allowPartial = true → found.matched = none →
      (found.partial_ = none ↔ ∀ m ∈ registry.mappings, ¬ ComesClose accepts r scenarios m) ∧
      ∀ c, found.partial_ = some c ↔
        c.result = c.mapping.score r scenarios ∧
          IsChosen (Mapping.averageValue r scenarios) (ComesClose accepts r scenarios)
            registry.mappings c.mapping) := by
  intro found
  have hanswers : ∀ m : Mapping,
      ((m.score r scenarios : MatchResult Score).isMatch && accepts m) = true ↔
        Answers accepts r scenarios m := by
    intro m
    rw [Bool.and_eq_true, isMatch_iff, and_comm]
    rfl
  have hclose : ∀ m : Mapping,
      ((⟨m, m.score r scenarios⟩ : Candidate Score).isPartial && accepts m) = true ↔
        ComesClose accepts r scenarios m := by
    intro m
    rw [Bool.and_eq_true, isPartial_iff, and_comm]
    rfl
  obtain ⟨hnone, hsome⟩ := best_candidates registry accepts r scenarios (·.result.isMatch)
    (·.result.total) (fun m => m.isScore_total r scenarios) _ hanswers
  have hpartial := best_candidates registry accepts r scenarios (·.isPartial)
    (·.result.average) (fun m => m.isScore_average r scenarios) _ hclose
  have hsearch : found.partial_ =
      if allowPartial && found.matched.isNone then
        Candidate.best (·.result.average)
          ((registry.candidates accepts r scenarios).filter (·.isPartial))
      else none := rfl
  refine ⟨fun m => ⟨?_, ?_⟩, hnone, hsome, ?_, ?_⟩
  · exact toRat?_eq_some_value (m.isScore_total r scenarios)
  · exact toRat?_eq_some_value (m.isScore_average r scenarios)
  · intro h
    rw [hsearch, if_neg]
    rcases h with rfl | h
    · simp
    · simp [h]
  · intro hallow hunmatched
    rw [hsearch, if_pos (by simp [hallow, hunmatched])]
    exact hpartial

end Registry

end Understudy

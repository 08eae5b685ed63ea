import Understudy.Scenario.Basic

/-!
# Rows of a store

What each operation of a `ScenarioStore` does to the row that `get?` finds. The rows stand in a list, and
`put` replaces the first of a name; `get?` looks for the first too, so no uniqueness of names is needed. After
these lemmas the list is not opened again.
-/

namespace Understudy

namespace Scenario

@[simp] theorem transition_name (row : Scenario) (step : ScenarioStep) :
    (row.transition step).name = row.name := by
  unfold transition
  split
  · simp only
    split <;> rfl
  · rfl

@[simp] theorem advance_name (row : Scenario) (step : ScenarioStep) :
    (row.advance step).name = row.name := by
  unfold advance
  simp only
  split
  · rw [transition_name]
  · rfl

@[simp] theorem transition_counter (row : Scenario) (step : ScenarioStep) :
    (row.transition step).counter = row.counter := by
  unfold transition
  split
  · simp only
    split <;> rfl
  · rfl

@[simp] theorem advance_counter (row : Scenario) (step : ScenarioStep) :
    (row.advance step).counter = row.counter + 1 := by
  unfold advance
  simp only
  split
  · rw [transition_counter]
  · rfl

theorem advance_of_ends {row : Scenario} {step : ScenarioStep} (hfits : row.allows step = true)
    (hset : step.setStateTo = none) :
    row.advance step =
      { row with counter := row.counter + 1, started := true, finished := true } := by
  have hfits' : Scenario.allows { row with counter := row.counter + 1, started := true } step =
      true := hfits
  simp [advance, hfits', transition, hset]

theorem advance_of_due {row : Scenario} {step : ScenarioStep} {next : String}
    (hfits : row.allows step = true) (hset : step.setStateTo = some next)
    (hdue : step.timesInSameState.all (· ≤ row.timesInState + 1) = true) :
    row.advance step =
      { row with
        counter := row.counter + 1
        started := true
        nextState := some next
        timesInState := 0 } := by
  have hfits' : Scenario.allows { row with counter := row.counter + 1, started := true } step =
      true := hfits
  simp [advance, hfits', transition, hset, hdue]

theorem advance_of_waits {row : Scenario} {step : ScenarioStep} {next : String}
    (hfits : row.allows step = true) (hset : step.setStateTo = some next)
    (hdue : step.timesInSameState.all (· ≤ row.timesInState + 1) = false) :
    row.advance step =
      { row with
        counter := row.counter + 1
        started := true
        timesInState := row.timesInState + 1 } := by
  have hfits' : Scenario.allows { row with counter := row.counter + 1, started := true } step =
      true := hfits
  simp [advance, hfits', transition, hset, hdue]

end Scenario

namespace ScenarioStore

@[simp] theorem get?_empty (name : String) : empty.get? name = none := rfl

theorem find?_put (row : Scenario) (rows : List Scenario) (name : String) :
    (put row rows).find? (·.name == name) =
      if row.name = name then some row else rows.find? (·.name == name) := by
  induction rows with
  | nil =>
      by_cases h : row.name = name
      · simp [put, h]
      · simp [put, h]
  | cons r rs ih =>
      by_cases hr : r.name = row.name
      · by_cases h : row.name = name
        · simp [put, hr, h]
        · have hn : ¬ r.name = name := fun e => h (hr ▸ e)
          simp [put, hr, h]
      · by_cases hn : r.name = name
        · have h : ¬ row.name = name := fun e => hr (hn.trans e.symm)
          have h' : ¬ name = row.name := fun e => h e.symm
          simp [put, hn, h, h']
        · simp [put, hr, hn, ih]

theorem name_of_get? {s : ScenarioStore} {name : String} {row : Scenario}
    (h : s.get? name = some row) : row.name = name := by
  simpa using List.find?_some h

@[simp] theorem row_name (s : ScenarioStore) (name : String) : (s.row name).name = name := by
  unfold row
  cases h : s.get? name with
  | none => rfl
  | some row => exact name_of_get? h

theorem get?_advance (s : ScenarioStore) (step : ScenarioStep) (name : String) :
    (s.advance step).2.get? name =
      if step.scenario = name then some (s.advance step).1 else s.get? name := by
  have hname : (s.advance step).1.name = step.scenario := by
    simp [advance]
  rw [← hname]
  exact find?_put _ s.rows name

theorem row_advance (s : ScenarioStore) (step : ScenarioStep) :
    (s.advance step).2.row step.scenario = (s.row step.scenario).advance step := by
  rw [row, get?_advance, if_pos rfl]
  rfl

@[simp] theorem get?_reset (s : ScenarioStore) (name : String) : s.reset.get? name = none := rfl

theorem get?_resetScenario (s : ScenarioStore) (forgotten name : String) :
    (s.resetScenario forgotten).2.get? name =
      if forgotten = name then none else s.get? name := by
  simp only [resetScenario, get?, List.find?_filter]
  by_cases h : forgotten = name
  · subst h
    simp
  · rw [if_neg h]
    congr 1
    funext r
    by_cases hr : r.name = name
    · have hne : ¬ name = forgotten := fun e => h e.symm
      simp [hr, hne]
    · simp [hr]

end ScenarioStore

end Understudy

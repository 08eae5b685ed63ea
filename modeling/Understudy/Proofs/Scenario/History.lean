import Mathlib.Data.List.Induction
import Understudy.Proofs.Scenario.Store

/-!
# The row of a scenario is a function of its history

A run of a store is a list of operations, and the history of a scenario is the list of the steps that were taken in
it since it was last reset, latest first. `Taken` notes for each step whether it was live and whether it was due, both
read off the steps before it; `rowOf` reads the whole row off the history, with no state carried along. The main
statement is `get?_run`: the row that a run leaves behind is the one that the history tells.
-/

namespace Understudy

namespace Scenario

/-- A step that was taken, and how it found its scenario. -/
structure Taken where
  step : ScenarioStep
  /-- the step was for the state that the scenario was in -/
  live : Bool
  /-- the step was live and moved the scenario on -/
  due : Bool

namespace Taken

/-- The step was for the state of its time and names a state to move to. -/
def aims (t : Taken) : Bool := t.live && t.step.setStateTo.isSome

/-- The step was for the state of its time and names none to move to. -/
def ends (t : Taken) : Bool := t.live && t.step.setStateTo.isNone

end Taken

/-- The state after a history: where the latest step that was due went. -/
def stateAfter (past : List Taken) : Option String :=
  (past.find? (·.due)).bind (·.step.setStateTo)

/-- How many live steps with a state to move to there were since the latest one that was due. -/
def waitsAfter (past : List Taken) : Nat := (past.takeWhile (!·.due)).countP (·.aims)

def take (past : List Taken) (step : ScenarioStep) : Taken :=
  let live := stateAfter past == step.whenStateIs
  { step
    live
    due := live && step.setStateTo.isSome && step.timesInSameState.all (· ≤ waitsAfter past + 1) }

/-- The history of steps, both with the latest first. -/
def historyOf : List ScenarioStep → List Taken
  | [] => []
  | step :: earlier => take (historyOf earlier) step :: historyOf earlier

/-- The row that a history tells; without any step there is none. -/
def rowOf (name : String) (past : List Taken) : Option Scenario :=
  if past.isEmpty then none
  else
    some
      { name
        nextState := stateAfter past
        started := true
        finished := past.any (·.ends)
        counter := past.length
        timesInState := waitsAfter past }

@[simp] theorem stateAfter_nil : stateAfter [] = none := rfl

@[simp] theorem waitsAfter_nil : waitsAfter [] = 0 := rfl

theorem stateAfter_cons (t : Taken) (past : List Taken) :
    stateAfter (t :: past) = if t.due then t.step.setStateTo else stateAfter past := by
  cases h : t.due <;> simp [stateAfter, h]

theorem waitsAfter_cons (t : Taken) (past : List Taken) :
    waitsAfter (t :: past) =
      if t.due then 0 else waitsAfter past + (if t.aims then 1 else 0) := by
  cases h : t.due <;> simp [waitsAfter, h, List.countP_cons]

theorem getD_rowOf (name : String) (past : List Taken) :
    (rowOf name past).getD (fresh name) =
      { name
        nextState := stateAfter past
        started := !past.isEmpty
        finished := past.any (·.ends)
        counter := past.length
        timesInState := waitsAfter past } := by
  cases past with
  | nil => rfl
  | cons t past => rfl

/-- Applying a step to the row of a history is taking it in the history. -/
theorem advance_rowOf (past : List Taken) (step : ScenarioStep) :
    some (((rowOf step.scenario past).getD (fresh step.scenario)).advance step) =
      rowOf step.scenario (take past step :: past) := by
  rw [getD_rowOf]
  simp only [rowOf, List.isEmpty_cons, Bool.false_eq_true, if_false, Option.some.injEq,
    stateAfter_cons, waitsAfter_cons, List.any_cons, List.length_cons, advance, allows]
  by_cases hlive : stateAfter past == step.whenStateIs
  · cases hset : step.setStateTo with
    | none => simp [hlive, hset, take, transition, Taken.aims, Taken.ends]
    | some next =>
        by_cases hdue : step.timesInSameState.all (· ≤ waitsAfter past + 1)
        · simp [hlive, hset, hdue, take, transition, Taken.ends]
        · simp [hlive, hset, hdue, take, transition, Taken.aims, Taken.ends]
  · simp [hlive, take, Taken.aims, Taken.ends]

end Scenario

namespace ScenarioStore

open Scenario (Taken historyOf rowOf stateAfter waitsAfter take)

inductive Op where
  | advance (step : ScenarioStep)
  | reset
  | resetScenario (name : String)

namespace Op

def forgets (name : String) : Op → Bool
  | .advance _ => false
  | .reset => true
  | .resetScenario n => n == name

def stepIn? (name : String) : Op → Option ScenarioStep
  | .advance step => if step.scenario = name then some step else none
  | _ => none

end Op

def apply (s : ScenarioStore) : Op → ScenarioStore
  | .advance step => (s.advance step).2
  | .reset => s.reset
  | .resetScenario name => (s.resetScenario name).2

def run (ops : List Op) : ScenarioStore := ops.foldl apply empty

/-- The history of a scenario: its steps since the operation that last forgot it. -/
def history (name : String) (ops : List Op) : List Taken :=
  historyOf ((ops.reverse.takeWhile (!·.forgets name)).filterMap (·.stepIn? name))

theorem run_append (ops : List Op) (op : Op) : run (ops ++ [op]) = (run ops).apply op := by
  simp [run]

theorem history_advance (name : String) (ops : List Op) (step : ScenarioStep) :
    history name (ops ++ [.advance step]) =
      if step.scenario = name then take (history name ops) step :: history name ops
      else history name ops := by
  by_cases h : step.scenario = name
  · simp [history, historyOf, Op.forgets, Op.stepIn?, h]
  · simp [history, Op.forgets, Op.stepIn?, h]

theorem history_forget (name : String) (ops : List Op) (op : Op) (h : op.forgets name = true) :
    history name (ops ++ [op]) = [] := by
  simp [history, h, historyOf]

theorem history_resetScenario (name forgotten : String) (ops : List Op)
    (h : ¬ forgotten = name) :
    history name (ops ++ [.resetScenario forgotten]) = history name ops := by
  simp [history, Op.forgets, Op.stepIn?, h]

/-- After every run the row of a scenario is the one that its history tells. -/
theorem get?_run (ops : List Op) (name : String) :
    (run ops).get? name = rowOf name (history name ops) := by
  -- on the last operation, since the history has the latest step first
  induction ops using List.reverseRecOn generalizing name with
  | nil => rfl
  | append_singleton ops op ih =>
      rw [run_append]
      cases op with
      | advance step =>
          rw [apply, get?_advance, history_advance]
          by_cases h : step.scenario = name
          · subst h
            have hrow : (run ops).row step.scenario =
                (rowOf step.scenario (history step.scenario ops)).getD
                  (.fresh step.scenario) := by
              rw [row, ih]
            rw [if_pos rfl, if_pos rfl, advance, hrow, Scenario.advance_rowOf]
          · rw [if_neg h, if_neg h, ih]
      | reset =>
          rw [apply, get?_reset, history_forget name ops .reset rfl]
          rfl
      | resetScenario forgotten =>
          rw [apply, get?_resetScenario]
          by_cases h : forgotten = name
          · rw [if_pos h, history_forget name ops _ (by simp [Op.forgets, h])]
            rfl
          · rw [if_neg h, ih, history_resetScenario name forgotten ops h]

theorem allows_run (ops : List Op) (step : ScenarioStep) :
    (run ops).allows step = (take (history step.scenario ops) step).live := by
  rw [allows, row, get?_run, Scenario.getD_rowOf]
  rfl

theorem score_eq_one_iff (s : ScenarioStore) (step : ScenarioStep) :
    (s.score step : Score) = Scale.one ↔ s.allows step = true := by
  unfold score
  cases s.allows step with
  | false => exact ⟨fun h => absurd h (by decide), fun h => absurd h (by decide)⟩
  | true => exact ⟨fun _ => rfl, fun _ => rfl⟩

/-- All fields of all rows after any run, the score of any step then, and what taking that step leaves alone. -/
theorem run_rows_tell_history (ops : List Op) (name : String) (step : ScenarioStep) :
    ((run ops).get? name = none ↔ history name ops = []) ∧
    (∀ row, (run ops).get? name = some row →
      row.counter = (history name ops).length ∧
      row.started = true ∧
      row.nextState = stateAfter (history name ops) ∧
      row.timesInState = waitsAfter (history name ops) ∧
      (row.finished = true ↔ ∃ t ∈ history name ops, t.ends = true)) ∧
    ((run ops).score step = (Scale.one : Score) ↔
      (take (history step.scenario ops) step).live = true) ∧
    history step.scenario (ops ++ [.advance step]) =
      take (history step.scenario ops) step :: history step.scenario ops ∧
    (step.scenario ≠ name →
      ((run ops).advance step).2.get? name = (run ops).get? name) := by
  refine ⟨?_, ?_, ?_, ?_, ?_⟩
  · rw [get?_run]
    simp [rowOf]
  · intro row hrow
    rw [get?_run] at hrow
    unfold rowOf at hrow
    split at hrow
    · simp at hrow
    · obtain rfl := Option.some.inj hrow
      exact ⟨rfl, rfl, rfl, rfl, List.any_eq_true⟩
  · rw [score_eq_one_iff, allows_run]
  · rw [history_advance, if_pos rfl]
  · intro h
    rw [get?_advance, if_neg h]

end ScenarioStore

end Understudy

import Understudy.Score.Scale
import Understudy.Json.Basic

/-!
# Scenarios

A scenario is a state machine that mappings share. Its row is made when the first of its mappings has answered;
`ScenarioStore.advance` takes the step of a mapping that has answered, and `ScenarioStore.allows` says beforehand
whether the step fits the state.
-/

namespace Understudy

structure Scenario where
  name : String
  /-- the state that it is in; none at the start -/
  nextState : Option String
  started : Bool
  finished : Bool
  /-- how many answers were given in this scenario -/
  counter : Nat
  /-- how many answers were given in this state -/
  timesInState : Nat
  deriving DecidableEq, Inhabited

/-- What a mapping asks of its scenario, and where it takes it. -/
structure ScenarioStep where
  scenario : String
  whenStateIs : Option String
  /-- none finishes the scenario -/
  setStateTo : Option String
  /-- how many answers the state takes before it changes -/
  timesInSameState : Option Nat
  deriving DecidableEq, Inhabited

namespace Scenario

def fresh (name : String) : Scenario :=
  { name, nextState := none, started := false, finished := false, counter := 0, timesInState := 0 }

def allows (row : Scenario) (step : ScenarioStep) : Bool := row.nextState == step.whenStateIs

/-- The transition of a step that fits: the state changes once it has been answered in often enough. -/
def transition (row : Scenario) (step : ScenarioStep) : Scenario :=
  match step.setStateTo with
  | some next =>
    let times := row.timesInState + 1
    if step.timesInSameState.all (· ≤ times) then { row with nextState := some next, timesInState := 0 }
    else { row with timesInState := times }
  | none => { row with finished := true }

/-- The row after an answer; a step that does not fit is only counted. -/
def advance (row : Scenario) (step : ScenarioStep) : Scenario :=
  let row := { row with counter := row.counter + 1, started := true }
  if row.allows step then row.transition step else row

def toJson (row : Scenario) : Json :=
  .object [("Name", .string row.name), ("NextState", .ofOption .string row.nextState),
    ("Started", .bool row.started), ("Finished", .bool row.finished),
    ("Counter", .ofNat row.counter)]

end Scenario

/-- The rows of all scenarios that were used, each name once. -/
structure ScenarioStore where
  rows : List Scenario
  deriving DecidableEq, Inhabited

namespace ScenarioStore

def empty : ScenarioStore := ⟨[]⟩

def get? (s : ScenarioStore) (name : String) : Option Scenario := s.rows.find? (·.name == name)

def row (s : ScenarioStore) (name : String) : Scenario := (s.get? name).getD (.fresh name)

def put (row : Scenario) : List Scenario → List Scenario
  | [] => [row]
  | r :: rs => if r.name == row.name then row :: rs else r :: put row rs

def allows (s : ScenarioStore) (step : ScenarioStep) : Bool := (s.row step.scenario).allows step

def score {α : Type} [Scale α] (s : ScenarioStore) (step : ScenarioStep) : α :=
  Scale.ofBool (s.allows step)

def advance (s : ScenarioStore) (step : ScenarioStep) : Scenario × ScenarioStore :=
  let row := (s.row step.scenario).advance step
  (row, ⟨put row s.rows⟩)

/-- Puts a row before the first one with a greater name. -/
def insertByName (row : Scenario) : List Scenario → List Scenario
  | [] => [row]
  | r :: rs => if row.name < r.name then row :: r :: rs else r :: insertByName row rs

def list (s : ScenarioStore) : List Scenario := s.rows.foldl (fun sorted r => insertByName r sorted) []

def reset (_ : ScenarioStore) : ScenarioStore := empty

/-- Forgets a scenario; says whether there was a row. -/
def resetScenario (s : ScenarioStore) (name : String) : Bool × ScenarioStore :=
  ((s.get? name).isSome, ⟨s.rows.filter (·.name != name)⟩)

def size (s : ScenarioStore) : Nat := s.rows.length

end ScenarioStore

end Understudy

import Understudy.Registry.Basic

/-!
# Choosing a mapping

Of the mappings with a total score above zero, the one with the highest total answers; of equal ones the one of lowest
priority, and of those the earliest. When none answers, a partial match may be told: the best by average score.
-/

namespace Understudy

structure Candidate (α : Type) where
  mapping : Mapping
  result : MatchResult α

structure Resolution (α : Type) where
  matched : Option (Candidate α)
  partial_ : Option (Candidate α)

namespace Candidate

variable {α : Type} [Scale α]

def beats (score : Candidate α → α) (c best : Candidate α) : Bool :=
  Scale.lt (score best) (score c)
    || (Scale.eq (score c) (score best) && decide (c.mapping.priority < best.mapping.priority))

/-- The best candidate by a score; `best` is the best of those before. -/
def bestFrom (score : Candidate α → α) : Option (Candidate α) → List (Candidate α) → Option (Candidate α)
  | best, [] => best
  | none, c :: cs => bestFrom score (some c) cs
  | some b, c :: cs => bestFrom score (some (if c.beats score b then c else b)) cs

/-- The best candidate by a score, the lowest priority and the earliest place. -/
def best (score : Candidate α → α) (cs : List (Candidate α)) : Option (Candidate α) :=
  bestFrom score none cs

/-- A candidate that may be told as a partial match. -/
def isPartial (c : Candidate α) : Bool :=
  !c.mapping.isPermanent && !c.result.isMatch && Scale.lt (Scale.zero : α) c.result.average

end Candidate

namespace Registry

variable {α : Type} [Scale α]

def candidates (r : Registry) (accepts : Mapping → Bool) (request : Request)
    (scenarios : ScenarioStore) : List (Candidate α) :=
  (r.mappings.filter accepts).map fun m => ⟨m, m.score request scenarios⟩

/-- The mapping that answers a request, among those that a filter lets pass. -/
def resolveAmong (r : Registry) (accepts : Mapping → Bool) (request : Request)
    (scenarios : ScenarioStore) (allowPartial : Bool) : Resolution α :=
  let cs := r.candidates accepts request scenarios
  let matched := Candidate.best (·.result.total) (cs.filter (·.result.isMatch))
  { matched
    partial_ :=
      if allowPartial && matched.isNone then
        Candidate.best (·.result.average) (cs.filter (·.isPartial))
      else none }

def resolve (r : Registry) (request : Request) (scenarios : ScenarioStore) (allowPartial : Bool) :
    Resolution α :=
  r.resolveAmong (fun _ => true) request scenarios allowPartial

end Registry

end Understudy

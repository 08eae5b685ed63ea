import Understudy.Score.Scale
import Understudy.Text.Ascii

/-!
# Folding scores

A `Fold` makes one score of many: the best, the lowest, or the average. A `Behaviour` then keeps the score or turns
it over, so that a match counts against the request.
-/

namespace Understudy

inductive Fold where
  /-- the best score -/
  | or
  /-- the lowest score -/
  | and
  | average
  deriving DecidableEq, Inhabited

namespace Fold

variable {α : Type} [Scale α]

/-- The score of all scores together; without any it is a mismatch. -/
def combine (fold : Fold) (scores : List α) : α :=
  if scores.isEmpty then Scale.zero
  else match fold with
    | .or => scores.foldl Scale.max Scale.zero
    | .and => scores.foldl Scale.min Scale.one
    | .average => Scale.share (Scale.sum scores) scores.length

@[simp] theorem combine_nil (fold : Fold) : fold.combine ([] : List α) = Scale.zero := by
  simp [combine]

def name : Fold → String
  | .or => "Or"
  | .and => "And"
  | .average => "Average"

/-- The way to fold that a name stands for, in any case. -/
def ofName? (s : String) : Option Fold :=
  match Text.lower s with
  | "or" => some .or
  | "and" => some .and
  | "average" => some .average
  | _ => none

/-- Names are read back. -/
theorem ofName?_name (fold : Fold) : ofName? fold.name = some fold := by
  cases fold <;> rfl

end Fold

/-- Whether a match speaks for the request or against it. -/
inductive Behaviour where
  | accept
  | reject
  deriving DecidableEq, Inhabited

namespace Behaviour

def ofReject (reject : Bool) : Behaviour := if reject then .reject else .accept

def isReject : Behaviour → Bool
  | .reject => true
  | .accept => false

def name : Behaviour → String
  | .accept => "AcceptOnMatch"
  | .reject => "RejectOnMatch"

def apply {α : Type} [Scale α] (b : Behaviour) (score : α) : α :=
  match b with
  | .accept => score
  | .reject => Scale.sub Scale.one score

end Behaviour

end Understudy

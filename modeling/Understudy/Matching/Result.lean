import Understudy.Score.Scale
import Understudy.Json.Basic

/-!
# The result of matching

A `MatchResult` lists the scores of a mapping's dimensions for one request. Its total is the lowest of them, so that
every dimension has to match; its average ranks mappings that do not.
-/

namespace Understudy

structure MatchDetail (α : Type) where
  name : String
  score : α

structure MatchResult (α : Type) where
  details : List (MatchDetail α)

namespace MatchResult

variable {α : Type}

def empty : MatchResult α := ⟨[]⟩

def add (r : MatchResult α) (name : String) (score : α) : MatchResult α :=
  ⟨r.details ++ [⟨name, score⟩]⟩

def scores (r : MatchResult α) : List α := r.details.map (·.score)

variable [Scale α]

/-- The lowest score, and a perfect one when there is nothing to match. -/
def total (r : MatchResult α) : α := r.scores.foldl Scale.min Scale.one

/-- The average of the scores, and a perfect one when there is nothing to match. -/
def average (r : MatchResult α) : α :=
  if r.details.isEmpty then Scale.one else Scale.share (Scale.sum r.scores) r.details.length

def isPerfect (r : MatchResult α) : Bool := Scale.eq r.total (Scale.one : α)

def isMatch (r : MatchResult α) : Bool := Scale.lt (Scale.zero : α) r.total

end MatchResult

def MatchResult.summary (r : MatchResult Score) : Json :=
  .object [("TotalScore", .ofBinary64 r.total), ("AverageScore", .ofBinary64 r.average),
    ("IsPerfectMatch", .bool r.isPerfect),
    ("MatchDetails", .array (r.details.map fun d =>
      .object [("Name", .string d.name), ("Score", .ofBinary64 d.score)]))]

end Understudy

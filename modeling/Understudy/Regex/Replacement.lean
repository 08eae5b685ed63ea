import Understudy.Regex.Basic
import Understudy.Text.Cut

/-!
# Replacing what a regular expression matches

Only expressions are replaced all whose matches are of one length, and not empty. So it does not matter which match is
preferred where several start at one place.
-/

namespace Understudy

namespace Regex

/-- How long the shortest match is that starts at a place. -/
def lengthAt? (r : Regex) (text : List Char) (i : Nat) : Option Nat :=
  let start := (List.replicate (text.length + 1) false).set i true
  ((spread text r start).idxOf? true).map (· - i)

/-- The text with `new` for each leftmost match. -/
def replaceAll (r : Regex) (new text : List Char) : List Char :=
  Text.replaceWhere (fun rest => r.lengthAt? text (text.length - rest.length)) new 0 text

end Regex

end Understudy

import Understudy.Json.Basic
import Understudy.Json.Printer
import Understudy.Number.Numeral
import Understudy.Text.Blank
import Understudy.Text.Cut
import Understudy.Error

/-!
# Ranges of numbers

A range has a lower and an upper bound, both inside it; a bound that is not set leaves its side open.
-/

namespace Understudy

structure NumericRange where
  min : Option Binary64
  max : Option Binary64
  deriving Inhabited

namespace NumericRange

/-- A bound that is a member of an object; null leaves it open. -/
def memberBound (members : List (String × Json)) (name : String) :
    Except PatternFault (Option Binary64) :=
  match Json.member? members name with
  | none | some .null => pure none
  | some (.number n) => pure (some n.toBinary64)
  | some _ => throw .boundNoNumber

def textBound (part : String) : Except PatternFault (Option Binary64) :=
  let part := Text.trim part
  if part.isEmpty then pure none
  else match Numeral.double? part with
    | some x => pure (some x)
    | none => throw .boundNoNumber

/-- A range is an object with bounds, or a text with two points between them. -/
def ofPattern (pattern : Json) : Except PatternFault NumericRange := do
  let range : NumericRange ← match pattern with
    | .object members => do
      let min ← memberBound members "Min"
      let max ← memberBound members "Max"
      pure { min, max }
    | .string s =>
      match Text.splitOnce ".." s with
      | some (a, b) => do
        let min ← textBound a
        let max ← textBound b
        pure { min, max }
      | none => throw .noRangeSign
    | _ => throw .noRange
  match range.min, range.max with
  | some a, some b => if b.lt a then throw .emptyRange else pure range
  | _, _ => pure range

/-- The range as an object; a bound that is no finite number is null. -/
def toJson (r : NumericRange) : Json :=
  .object [("Max", .ofOption .ofBinary64 r.max), ("Min", .ofOption .ofBinary64 r.min)]

def contains (r : NumericRange) (x : Binary64) : Bool :=
  r.min.all (·.le x) && r.max.all x.le

def containsText (r : NumericRange) (s : String) : Bool :=
  match Numeral.double? (Text.trim s) with
  | some x => !x.isNaN && r.contains x
  | none => false

end NumericRange

end Understudy

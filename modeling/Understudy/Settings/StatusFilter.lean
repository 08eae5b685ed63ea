import Understudy.Error
import Understudy.Number.Numeral
import Understudy.Text.Blank
import Understudy.Text.Cut

/-!
# Filters of status codes

A pattern is a star, or a list of codes, ranges of codes and classes of codes. A `StatusFilter` is the union of its
items.
-/

namespace Understudy

inductive StatusFilter where
  | any
  /-- ranges with both ends inside -/
  | ranges (items : List (Nat × Nat))
  deriving DecidableEq

namespace StatusFilter

def code (item value : String) : Except SettingsFault Nat :=
  match (Numeral.atMost? 65535 (Text.trim value)).filter fun c => 100 ≤ c && c ≤ 599 with
  | some c => pure c
  | none => throw (.statusCode item)

def item (item : String) : Except SettingsFault (Nat × Nat) :=
  let lower := Text.lower item
  match Text.stripBack? "xx" lower with
  | some digit =>
    match (Numeral.atMost? 65535 digit).filter fun d => 1 ≤ d && d ≤ 5 with
    | some d => pure (d * 100, d * 100 + 99)
    | none => throw (.statusClass item)
  | none =>
    match Text.splitOnce "-" lower with
    | some (low, high) => do
      let a ← code item low
      let b ← code item high
      if b < a then throw (.statusRange item) else pure (a, b)
    | none => do
      let c ← code item lower
      pure (c, c)

/-- The items of a pattern, without blanks around them and without empty ones. -/
def items (pattern : String) : List String :=
  ((Text.split ',' pattern).map Text.trim).filter (!·.isEmpty)

def parse (pattern : String) : Except SettingsFault StatusFilter :=
  let pattern := Text.trim pattern
  if pattern.isEmpty || pattern == "*" then pure .any
  else ((items pattern).mapM item).map .ranges

def allows (f : StatusFilter) (status : Nat) : Bool :=
  match f with
  | .any => true
  | .ranges rs => rs.any fun (a, b) => a ≤ status && status ≤ b

end StatusFilter

end Understudy

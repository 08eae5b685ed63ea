import Understudy.Number.Decimal
import Understudy.Text.Ascending

/-!
# JSON values

A `Json.Number` is a whole number of 64 bits, with or without a sign, or a finite double. The members of an
object are kept in a list; a *free* value, one that was read and not laid out by the library, has them
in ascending order of their names, each name once.
-/

namespace Understudy

namespace Json

inductive Number where
  /-- a whole number in `[-2 ^ 63, 2 ^ 64)` -/
  | whole (n : Int)
  /-- any other number -/
  | real (x : Binary64)
  deriving DecidableEq, Inhabited

def Number.toBinary64 : Number → Binary64
  | .whole n => Binary64.ofInt n
  | .real x => x

/-- The texts of doubles in JSON: positional from `1e-5` up to `1e16`, always with a point or an exponent. -/
def numberLayout : Binary64.Layout :=
  { exponentFrom := some 16, exponentBelow := some (-5), pointZero := true, plusSign := true }

/-- The text of a number; an infinity or not-a-number has none and is written `null`. -/
def Number.text : Number → String
  | .whole n => toString n
  | .real x => if x.isFinite then numberLayout.write x else "null"

end Json

inductive Json where
  | null
  | bool (b : Bool)
  | number (n : Json.Number)
  | string (s : String)
  | array (items : List Json)
  | object (members : List (String × Json))
  deriving Inhabited

namespace Json

def member? (members : List (String × Json)) (name : String) : Option Json :=
  (members.find? (·.1 == name)).map Prod.snd

def ofMembers (members : List (String × Json)) : Json := .object (Ascending.sort members)

/-- A double as a value; an infinity or not-a-number becomes null. -/
def ofBinary64 (x : Binary64) : Json := if x.isFinite then .number (.real x) else .null

def ofNat (n : Nat) : Json := .number (.whole n)

def ofInt (n : Int) : Json := .number (.whole n)

def ofStrings (texts : List String) : Json := .array (texts.map .string)

def ofOption {α : Type} (f : α → Json) : Option α → Json
  | none => .null
  | some a => f a

def optional {α : Type} (name : String) (f : α → Json) : Option α → List (String × Json)
  | none => []
  | some a => [(name, f a)]

mutual

/-- The same value, numbers being equal only when both are whole or both are not. -/
def same : Json → Json → Bool
  | .null, .null => true
  | .bool a, .bool b => a == b
  | .number a, .number b =>
    match a, b with
    | .whole m, .whole n => m == n
    | .real x, .real y => x.eq y
    | _, _ => false
  | .string a, .string b => a == b
  | .array a, .array b => sameItems a b
  | .object a, .object b => sameMembers a b
  | _, _ => false

def sameItems : List Json → List Json → Bool
  | [], [] => true
  | x :: xs, y :: ys => same x y && sameItems xs ys
  | _, _ => false

def sameMembers : List (String × Json) → List (String × Json) → Bool
  | [], [] => true
  | (m, x) :: xs, (n, y) :: ys => m == n && same x y && sameMembers xs ys
  | _, _ => false

end

instance : BEq Json := ⟨same⟩

end Json

end Understudy

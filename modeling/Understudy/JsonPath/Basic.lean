import Understudy.Json.Basic
import Understudy.Regex.Parser

/-!
# Queries on JSON values

A `JsonPath` is a list of segments; each goes from the nodes found so far to children or descendants of theirs
that a selector picks. `JsonPath.select` is the list of nodes that a query finds. A filter keeps the children
for which a condition holds, in which `@` is the child and `$` the root.
-/

namespace Understudy

namespace JsonPath

inductive Comparison where
  | equal
  | notEqual
  | less
  | lessEqual
  | greater
  | greaterEqual
  deriving DecidableEq

/-- A name or an index, the only selectors that pick at most one child. -/
inductive Step where
  | name (n : String)
  | index (i : Int)

inductive Origin where
  | root
  | current
  deriving DecidableEq

mutual

inductive Selector where
  | name (n : String)
  | index (i : Int)
  | all
  | slice (first last step : Option Int)
  | filter (c : Condition)

inductive Segment where
  | child (selectors : List Selector)
  | descendant (selectors : List Selector)

inductive Condition where
  | either (a b : Condition)
  | both (a b : Condition)
  | opposite (c : Condition)
  | compared (op : Comparison) (a b : Operand)
  /-- the query finds something -/
  | found (from_ : Origin) (path : List Segment)
  /-- the regular expression matches the whole text, or a part of it -/
  | fits (whole : Bool) (text pattern : Operand)

inductive Operand where
  | literal (v : Json)
  | single (from_ : Origin) (path : List Step)
  /-- the number of characters, items or members -/
  | length (a : Operand)
  /-- the number of nodes that a query finds -/
  | count (from_ : Origin) (path : List Segment)
  /-- the node that a query finds, when it is one -/
  | only (from_ : Origin) (path : List Segment)

end

def children : Json → List Json
  | .array vs => vs
  | .object ms => ms.map Prod.snd
  | _ => []

mutual

def descendants : Json → List Json
  | .array vs => .array vs :: itemDescendants vs
  | .object ms => .object ms :: memberDescendants ms
  | v => [v]

def itemDescendants : List Json → List Json
  | [] => []
  | v :: vs => descendants v ++ itemDescendants vs

def memberDescendants : List (String × Json) → List Json
  | [] => []
  | (_, v) :: ms => descendants v ++ memberDescendants ms

end

/-- The place of an index in a list, which counts from the end when it is negative. -/
def place (size : Nat) (i : Int) : Int := if 0 ≤ i then i else size + i

def itemAt? (vs : List Json) (i : Int) : Option Json :=
  let p := place vs.length i
  if p < 0 then none else vs[p.toNat]?

/-- The items of a slice, in the order in which the slice steps through them. -/
def slice (vs : List Json) (first last step : Option Int) : List Json :=
  let size : Int := vs.length
  let step := step.getD 1
  if step = 0 then []
  else if 0 < step then
    let low := max 0 (min size (place vs.length (first.getD 0)))
    let high := max 0 (min size (place vs.length (last.getD size)))
    (List.range vs.length).filterMap fun (n : Nat) =>
      if low ≤ (n : Int) ∧ (n : Int) < high ∧ ((n : Int) - low) % step = 0 then vs[n]? else none
  else
    let upper := max (-1) (min (size - 1) (place vs.length (first.getD (size - 1))))
    let lower := match last with
      | some e => max (-1) (min (size - 1) (place vs.length e))
      | none => -1
    ((List.range vs.length).reverse).filterMap fun (n : Nat) =>
      if lower < (n : Int) ∧ (n : Int) ≤ upper ∧ (upper - (n : Int)) % (-step) = 0 then vs[n]? else none

def follow : List Step → Json → Option Json
  | [], v => some v
  | .name n :: steps, .object ms => (Json.member? ms n).bind (follow steps)
  | .index i :: steps, .array vs => (itemAt? vs i).bind (follow steps)
  | _, _ => none

/-- Equality of values; numbers are equal when their doubles are. -/
def equalValues : Option Json → Option Json → Bool
  | none, none => true
  | some (.number a), some (.number b) =>
    match a, b with
    | .whole m, .whole n => m == n
    | _, _ => a.toBinary64.eq b.toBinary64
  | some a, some b => a == b
  | _, _ => false

def lessValues : Option Json → Option Json → Bool
  | some (.number a), some (.number b) =>
    match a, b with
    | .whole m, .whole n => m < n
    | _, _ => a.toBinary64.lt b.toBinary64
  | some (.string a), some (.string b) => a < b
  | _, _ => false

def Comparison.holds (op : Comparison) (a b : Option Json) : Bool :=
  match op with
  | .equal => equalValues a b
  | .notEqual => !equalValues a b
  | .less => lessValues a b
  | .greater => lessValues b a
  | .lessEqual => lessValues a b || equalValues a b
  | .greaterEqual => lessValues b a || equalValues a b

def lengthOf : Option Json → Option Json
  | some (.string s) => some (.ofNat s.length)
  | some (.array vs) => some (.ofNat vs.length)
  | some (.object ms) => some (.ofNat ms.length)
  | _ => none

/-- A text and a pattern fit; a pattern that is no regular expression fits nothing. -/
def fitsText (whole : Bool) : Option Json → Option Json → Bool
  | some (.string text), some (.string pattern) =>
    let source := if whole then "(?R)^(" ++ pattern ++ ")$" else "(?R)(" ++ pattern ++ ")"
    match Regex.parse? false false source with
    | some r => r.occursIn text
    | none => false
  | _, _ => false

mutual

def Selector.pick (root : Json) : Selector → Json → List Json
  | .name n, .object ms => (Json.member? ms n).toList
  | .index i, .array vs => (itemAt? vs i).toList
  | .all, v => children v
  | .slice a b c, .array vs => slice vs a b c
  | .filter c, v => (children v).filter fun child => c.holds root child
  | _, _ => []

/-- The children that any of the selectors picks, in the order of the selectors. -/
def pickAll (root : Json) : List Selector → Json → List Json
  | [], _ => []
  | s :: ss, v => s.pick root v ++ pickAll root ss v

def Segment.step (root : Json) : Segment → Json → List Json
  | .child ss, v => pickAll root ss v
  | .descendant ss, v => (descendants v).flatMap fun w => pickAll root ss w

def walk (root : Json) : List Segment → List Json → List Json
  | [], vs => vs
  | s :: ss, vs => walk root ss (vs.flatMap fun v => s.step root v)

def Condition.holds (root : Json) : Condition → Json → Bool
  | .either a b, v => a.holds root v || b.holds root v
  | .both a b, v => a.holds root v && b.holds root v
  | .opposite c, v => !c.holds root v
  | .compared op a b, v => op.holds (a.value root v) (b.value root v)
  | .found .root path, _ => !(walk root path [root]).isEmpty
  | .found .current path, v => !(walk root path [v]).isEmpty
  | .fits whole text pattern, v => fitsText whole (text.value root v) (pattern.value root v)

/-- The value of an operand; a query that finds no single node has none. -/
def Operand.value (root : Json) : Operand → Json → Option Json
  | .literal x, _ => some x
  | .single .root path, _ => follow path root
  | .single .current path, v => follow path v
  | .length a, v => lengthOf (a.value root v)
  | .count .root path, _ => some (.ofNat (walk root path [root]).length)
  | .count .current path, v => some (.ofNat (walk root path [v]).length)
  | .only .root path, _ =>
    match walk root path [root] with
    | [x] => some x
    | _ => none
  | .only .current path, v =>
    match walk root path [v] with
    | [x] => some x
    | _ => none

end

end JsonPath

structure JsonPath where
  segments : List JsonPath.Segment

namespace JsonPath

def select (q : JsonPath) (v : Json) : List Json := walk v q.segments [v]

def selectsAny (q : JsonPath) (v : Json) : Bool := !(q.select v).isEmpty

end JsonPath

end Understudy

import Understudy.JsonPath.Basic
import Understudy.Json.Written

/-!
# Reading queries

`JsonPath.parse?` reads a query in full. Blanks may stand between segments and inside brackets. A comparison takes
literals, queries that find at most one node, and functions with a value; other queries and functions are
conditions of their own.
-/

namespace Understudy

namespace JsonPath

abbrev Read (α : Type) := List Char → Option (α × List Char)

def skip (cs : List Char) : List Char := Json.Written.skip cs

def sign (expected : String) (cs : List Char) : Option (List Char) :=
  Text.dropFront? expected.toList cs

def startsName (c : Char) : Bool := c.isAlpha || c == '_' || 0x80 ≤ c.toNat

def shortName : Read String
  | c :: cs =>
    if startsName c then
      let more := cs.takeWhile fun c => startsName c || c.isDigit
      some (String.ofList (c :: more), cs.drop more.length)
    else none
  | [] => none

def digits : Read (List Char)
  | '0' :: cs => some (['0'], cs)
  | c :: cs =>
    if c.isDigit then
      let more := cs.takeWhile Char.isDigit
      some (c :: more, cs.drop more.length)
    else none
  | [] => none

/-- A whole number that a double holds exactly; zero has no sign. -/
def index : Read Int
  | '-' :: cs => do
    let (ds, rest) ← digits cs
    let n := Numeral.ofDigits 0 ds
    if n = 0 ∨ 0x20000000000000 ≤ n then none else some (-(n : Int), rest)
  | cs => do
    let (ds, rest) ← digits cs
    let n := Numeral.ofDigits 0 ds
    if 0x20000000000000 ≤ n then none else some (n, rest)

def quotedBody (quote : Char) : Nat → List Char → List Char → Option (List Char × List Char)
  | 0, _, _ => none
  | fuel + 1, done, cs =>
    match cs with
    | [] => none
    | '\\' :: e :: rest =>
      match e with
      | 'b' => quotedBody quote fuel (Char.ofNat 8 :: done) rest
      | 'f' => quotedBody quote fuel (Char.ofNat 12 :: done) rest
      | 'n' => quotedBody quote fuel ('\n' :: done) rest
      | 'r' => quotedBody quote fuel ('\r' :: done) rest
      | 't' => quotedBody quote fuel ('\t' :: done) rest
      | '/' => quotedBody quote fuel ('/' :: done) rest
      | '\\' => quotedBody quote fuel ('\\' :: done) rest
      | 'u' => do
        let (c, rest) ← Json.Written.unicodeEscape? rest
        quotedBody quote fuel (c :: done) rest
      | _ => if e = quote then quotedBody quote fuel (quote :: done) rest else none
    | c :: rest =>
      if c = quote then some (done, rest)
      else if c = '\\' ∨ c.toNat < 0x20 then none
      else quotedBody quote fuel (c :: done) rest

def quoted : Read String
  | c :: cs =>
    if c = '\x27' ∨ c = '"' then
      (quotedBody c (cs.length + 1) [] cs).map fun (done, rest) =>
        (String.ofList done.reverse, rest)
    else none
  | [] => none

def number : Read Json := fun cs => do
  let (n, rest) ← Json.Written.number? cs
  let n ← n
  some (.number n, rest)

def literal : Read Json := fun cs =>
  match sign "true" cs, sign "false" cs, sign "null" cs with
  | some rest, _, _ => some (.bool true, rest)
  | _, some rest, _ => some (.bool false, rest)
  | _, _, some rest => some (.null, rest)
  | _, _, _ =>
    match quoted cs with
    | some (s, rest) => some (.string s, rest)
    | none => number cs

def indexOrSlice : Read Selector := fun cs => do
  let optional (cs : List Char) : Option Int × List Char :=
    match index cs with
    | some (i, rest) => (some i, rest)
    | none => (none, cs)
  let (first, rest) := optional cs
  match skip rest with
  | ':' :: more =>
    let (last, rest) := optional (skip more)
    match skip rest with
    | ':' :: more =>
      match index (skip more) with
      | some (step, rest) => some (.slice first last (some step), rest)
      | none => some (.slice first last none, more)
    | _ => some (.slice first last none, rest)
  | _ => first.map fun i => (.index i, rest)

def singleStep : Read Step := fun cs =>
  match skip cs with
  | '.' :: rest => (shortName rest).map fun (n, rest) => (.name n, rest)
  | '[' :: rest => do
    let inside := skip rest
    let (s, rest) ← match quoted inside with
      | some (n, rest) => some (Step.name n, rest)
      | none => (index inside).map fun (i, rest) => (Step.index i, rest)
    let rest ← sign "]" (skip rest)
    some (s, rest)
  | _ => none

def singleSteps : Nat → List Char → List Step × List Char
  | 0, cs => ([], cs)
  | fuel + 1, cs =>
    match singleStep cs with
    | some (s, rest) =>
      let (ss, rest) := singleSteps fuel rest
      (s :: ss, rest)
    | none => ([], cs)

def origin : Read Origin
  | '$' :: cs => some (.root, cs)
  | '@' :: cs => some (.current, cs)
  | _ => none

def functionName : Read String
  | c :: cs =>
    if c.isLower then
      let more := cs.takeWhile fun c => c.isLower || c.isDigit || c == '_'
      (sign "(" (cs.drop more.length)).map fun rest => (String.ofList (c :: more), rest)
    else none
  | [] => none

def comparison : Read Comparison := fun cs =>
  match cs with
  | '=' :: '=' :: rest => some (.equal, rest)
  | '!' :: '=' :: rest => some (.notEqual, rest)
  | '<' :: '=' :: rest => some (.lessEqual, rest)
  | '>' :: '=' :: rest => some (.greaterEqual, rest)
  | '<' :: rest => some (.less, rest)
  | '>' :: rest => some (.greater, rest)
  | _ => none

/-- What a function call gives: a value or a condition. -/
inductive Call where
  | value (o : Operand)
  | condition (c : Condition)

mutual

/-- The segments that follow; blanks behind the last one are left. -/
def path : Nat → List Char → Option (List Segment × List Char)
  | 0, _ => none
  | fuel + 1, cs =>
    match skip cs with
    | '.' :: '.' :: rest => do
      let (ss, rest) ← descendantSelectors fuel rest
      let (more, rest) ← path fuel rest
      some (.descendant ss :: more, rest)
    | '.' :: '*' :: rest => do
      let (more, rest) ← path fuel rest
      some (.child [.all] :: more, rest)
    | '.' :: rest => do
      let (n, rest) ← shortName rest
      let (more, rest) ← path fuel rest
      some (.child [.name n] :: more, rest)
    | '[' :: rest => do
      let (ss, rest) ← selectors fuel rest
      let (more, rest) ← path fuel rest
      some (.child ss :: more, rest)
    | _ => some ([], cs)

def descendantSelectors : Nat → List Char → Option (List Selector × List Char)
  | 0, _ => none
  | fuel + 1, cs =>
    match cs with
    | '*' :: rest => some ([.all], rest)
    | '[' :: rest => selectors fuel rest
    | _ => (shortName cs).map fun (n, rest) => ([.name n], rest)

def selectors : Nat → List Char → Option (List Selector × List Char)
  | 0, _ => none
  | fuel + 1, cs => do
    let (s, rest) ← selector fuel (skip cs)
    match skip rest with
    | ',' :: rest =>
      let (ss, rest) ← selectors fuel rest
      some (s :: ss, rest)
    | ']' :: rest => some ([s], rest)
    | _ => none

def selector : Nat → List Char → Option (Selector × List Char)
  | 0, _ => none
  | fuel + 1, cs =>
    match cs with
    | '*' :: rest => some (.all, rest)
    | '?' :: rest => do
      let (c, rest) ← disjunction fuel (skip rest)
      some (.filter c, rest)
    | _ =>
      match quoted cs with
      | some (n, rest) => some (.name n, rest)
      | none => indexOrSlice cs

def disjunction : Nat → List Char → Option (Condition × List Char)
  | 0, _ => none
  | fuel + 1, cs => do
    let (a, rest) ← conjunction fuel cs
    match skip rest with
    | '|' :: '|' :: more =>
      let (b, rest) ← disjunction fuel (skip more)
      some (.either a b, rest)
    | _ => some (a, rest)

def conjunction : Nat → List Char → Option (Condition × List Char)
  | 0, _ => none
  | fuel + 1, cs => do
    let (a, rest) ← basic fuel cs
    match skip rest with
    | '&' :: '&' :: more =>
      let (b, rest) ← conjunction fuel (skip more)
      some (.both a b, rest)
    | _ => some (a, rest)

/-- A condition in parentheses, a comparison, or a query or function that is a condition. -/
def basic : Nat → List Char → Option (Condition × List Char)
  | 0, _ => none
  | fuel + 1, cs =>
    match cs with
    | '!' :: rest =>
      match skip rest with
      | '(' :: inside => do
        let (c, rest) ← disjunction fuel (skip inside)
        let rest ← sign ")" (skip rest)
        some (.opposite c, rest)
      | rest => do
        let (c, rest) ← test fuel rest
        some (.opposite c, rest)
    | '(' :: inside => do
      let (c, rest) ← disjunction fuel (skip inside)
      let rest ← sign ")" (skip rest)
      some (c, rest)
    | _ =>
      match compared fuel cs with
      | some found => some found
      | none => test fuel cs

def compared : Nat → List Char → Option (Condition × List Char)
  | 0, _ => none
  | fuel + 1, cs => do
    let (a, rest) ← operand fuel cs
    let (op, rest) ← comparison (skip rest)
    let (b, rest) ← operand fuel (skip rest)
    some (.compared op a b, rest)

def test : Nat → List Char → Option (Condition × List Char)
  | 0, _ => none
  | fuel + 1, cs =>
    match origin cs with
    | some (o, rest) => do
      let (found, rest) ← path fuel rest
      some (.found o found, rest)
    | none => do
      match ← call fuel cs with
      | (.condition c, rest) => some (c, rest)
      | _ => none

def operand : Nat → List Char → Option (Operand × List Char)
  | 0, _ => none
  | fuel + 1, cs =>
    match literal cs with
    | some (v, rest) => some (.literal v, rest)
    | none =>
      match origin cs with
      | some (o, rest) =>
        let (path, rest) := singleSteps fuel rest
        some (.single o path, rest)
      | none => do
        match ← call fuel cs with
        | (.value v, rest) => some (v, rest)
        | _ => none

def call : Nat → List Char → Option (Call × List Char)
  | 0, _ => none
  | fuel + 1, cs => do
    let (name, rest) ← functionName cs
    let inside := skip rest
    match name with
    | "length" =>
      let (a, rest) ← operand fuel inside
      let rest ← sign ")" (skip rest)
      some (.value (.length a), rest)
    | "count" =>
      let (o, rest) ← origin inside
      let (found, rest) ← path fuel rest
      let rest ← sign ")" (skip rest)
      some (.value (.count o found), rest)
    | "value" =>
      let (o, rest) ← origin inside
      let (found, rest) ← path fuel rest
      let rest ← sign ")" (skip rest)
      some (.value (.only o found), rest)
    | "match" | "search" =>
      let (a, rest) ← operand fuel inside
      let rest ← sign "," (skip rest)
      let (b, rest) ← operand fuel (skip rest)
      let rest ← sign ")" (skip rest)
      some (.condition (.fits (name == "match") a b), rest)
    | _ => none

end

def parse? (text : String) : Option JsonPath := do
  let rest ← sign "$" text.toList
  let (found, rest) ← path (4 * text.length + 8) rest
  if rest.isEmpty then some ⟨found⟩ else none

end JsonPath

end Understudy

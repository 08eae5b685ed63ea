import Understudy.XPath.Token

/-!
# Reading expressions

`XPath.parse?` reads an expression in full. Each level of operators takes its operands from the level that binds
more tightly and groups to the left.
-/

namespace Understudy

namespace XPath

/-- The levels of binary operators, from the loosest to the tightest. -/
def levels : List (List Operator) :=
  [[.or], [.and], [.equal, .notEqual], [.less, .lessEqual, .greater, .greaterEqual],
    [.plus, .minus], [.times, .divide, .remainder]]

def axisAndTest : List Token → Option ((Axis × NodeTest) × List Token)
  | .axis a :: .test t :: rest => some ((a, t), rest)
  | .test t :: rest => some ((.child, t), rest)
  | _ => none

def startsStep : List Token → Bool
  | .axis _ :: _ | .test _ :: _ => true
  | _ => false

mutual

def expression : Nat → List (List Operator) → List Token → Option (XPath × List Token)
  | 0, _, _ => none
  | fuel + 1, [], ts => negation fuel ts
  | fuel + 1, level :: tighter, ts =>
    match expression fuel tighter ts with
    | some (a, rest) => operands fuel level tighter a rest
    | none => none

/-- The further operands of a level, `a` being what stands before them. -/
def operands : Nat → List Operator → List (List Operator) → XPath → List Token →
    Option (XPath × List Token)
  | 0, _, _, _, _ => none
  | fuel + 1, level, tighter, a, ts =>
    match ts with
    | .operator op :: rest =>
      if level.contains op then
        match expression fuel tighter rest with
        | some (b, rest) => operands fuel level tighter (.binary op a b) rest
        | none => none
      else some (a, ts)
    | _ => some (a, ts)

def negation : Nat → List Token → Option (XPath × List Token)
  | 0, _ => none
  | fuel + 1, .operator .minus :: rest =>
    (negation fuel rest).map fun (a, rest) => (.negative a, rest)
  | fuel + 1, ts =>
    match path fuel ts with
    | some (a, rest) => union fuel a rest
    | none => none

def union : Nat → XPath → List Token → Option (XPath × List Token)
  | 0, _, _ => none
  | fuel + 1, a, .operator .union :: rest =>
    match path fuel rest with
    | some (b, rest) => union fuel (.binary .union a b) rest
    | none => none
  | _ + 1, a, ts => some (a, ts)

/-- A path: from the root, from the node of the context, or from the value of an operand. -/
def path : Nat → List Token → Option (XPath × List Token)
  | 0, _ => none
  | fuel + 1, .slash :: rest => if startsStep rest then steps fuel .root rest else some (.root, rest)
  | fuel + 1, ts =>
    if startsStep ts then steps fuel .here ts
    else
      match operand fuel ts with
      | some (a, rest) =>
        match conditions fuel rest with
        | some (cs, rest) =>
          let a := if cs.isEmpty then a else .filtered a cs
          match rest with
          | .slash :: more => steps fuel a more
          | _ => some (a, rest)
        | none => none
      | none => none

def steps : Nat → XPath → List Token → Option (XPath × List Token)
  | 0, _, _ => none
  | fuel + 1, start, ts =>
    match axisAndTest ts with
    | some ((axis, test), rest) =>
      match conditions fuel rest with
      | some (cs, rest) =>
        let found := .step start axis test cs
        match rest with
        | .slash :: more => steps fuel found more
        | _ => some (found, rest)
      | none => none
    | none => none

def conditions : Nat → List Token → Option (List XPath × List Token)
  | 0, _ => none
  | fuel + 1, .openBracket :: rest =>
    match expression fuel levels rest with
    | some (c, .closeBracket :: rest) =>
      (conditions fuel rest).map fun (cs, rest) => (c :: cs, rest)
    | _ => none
  | _ + 1, ts => some ([], ts)

/-- An operand that is no path: a literal, a variable, a call or an expression in parentheses. -/
def operand : Nat → List Token → Option (XPath × List Token)
  | 0, _ => none
  | _ + 1, .literal s :: rest => some (.literal s, rest)
  | _ + 1, .number x :: rest => some (.number x, rest)
  | _ + 1, .variable v :: rest => some (.variable v, rest)
  | _ + 1, .function f :: .closeParen :: rest => some (.call f [], rest)
  | fuel + 1, .function f :: rest =>
    (arguments fuel rest).map fun (args, rest) => (.call f args, rest)
  | fuel + 1, .openParen :: rest =>
    match expression fuel levels rest with
    | some (a, .closeParen :: rest) => some (a, rest)
    | _ => none
  | _ + 1, _ => none

def arguments : Nat → List Token → Option (List XPath × List Token)
  | 0, _ => none
  | fuel + 1, ts =>
    match expression fuel levels ts with
    | some (a, .comma :: rest) => (arguments fuel rest).map fun (as, rest) => (a :: as, rest)
    | some (a, .closeParen :: rest) => some ([a], rest)
    | _ => none

end

/-- The expression that a text stands for; every token has to belong to it. -/
def parse? (text : String) : Option XPath :=
  match Token.ofText? text with
  | none => none
  | some ts =>
    match expression (16 * (ts.length + 2)) levels ts with
    | some (e, []) => some e
    | _ => none

end XPath

end Understudy

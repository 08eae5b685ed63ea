import Understudy.XPath.Basic
import Understudy.Xml.Parser

/-!
# Tokens of expressions

`Token.ofText?` cuts the text of an expression into tokens. The words of operators and the star are read as operators
exactly where an operand has just ended; `.`, `..`, `@` and `//` become the steps that they
stand for.
-/

namespace Understudy

namespace XPath

inductive Token where
  | slash
  | openParen
  | closeParen
  | openBracket
  | closeBracket
  | comma
  | operator (op : Operator)
  | axis (a : Axis)
  | test (t : NodeTest)
  /-- the name of a function with the parenthesis in front of its arguments -/
  | function (name : String)
  | literal (s : String)
  | number (x : Binary64)
  | variable (name : String)

namespace Token

/-- After the token an operator may stand: it ends an operand. -/
def endsOperand : Token → Bool
  | .closeParen | .closeBracket | .test _ | .literal _ | .number _ | .variable _ => true
  | _ => false

def operatorWords : List (String × Operator) :=
  [("and", .and), ("or", .or), ("mod", .remainder), ("div", .divide), ("*", .times)]

/-- The signs of operators; of two that start alike the longer stands first. -/
def operatorSigns : List (String × Operator) :=
  [("<=", .lessEqual), (">=", .greaterEqual), ("!=", .notEqual), ("+", .plus), ("-", .minus),
    ("|", .union), ("=", .equal), ("<", .less), (">", .greater)]

def signs : List (String × List Token) :=
  [("//", [.slash, .axis .descendantOrSelf, .test .node, .slash]),
    ("..", [.axis .parent, .test .node]),
    ("/", [.slash]), ("(", [.openParen]), (")", [.closeParen]), ("[", [.openBracket]),
    ("]", [.closeBracket]), ("@", [.axis .attributes]), (",", [.comma])]

def axes : List (String × Axis) :=
  [("ancestor-or-self", .ancestorOrSelf), ("ancestor", .ancestor), ("attribute", .attributes),
    ("child", .child), ("descendant-or-self", .descendantOrSelf), ("descendant", .descendant),
    ("following-sibling", .followingSibling), ("following", .following),
    ("namespace", .namespaces), ("parent", .parent), ("preceding-sibling", .precedingSibling),
    ("preceding", .preceding), ("self", .self)]

/-- The first entry whose text stands at the front, and what follows it. -/
def lookUp {α : Type} (table : List (String × α)) (cs : List Char) : Option (α × List Char) :=
  table.findSome? fun (s, a) => (Text.dropFront? s.toList cs).map fun rest => (a, rest)

/-- A number: digits with at most one point, and a digit somewhere. -/
def numberAt (cs : List Char) : Option (Binary64 × List Char) :=
  let whole := cs.takeWhile Char.isDigit
  let rest := cs.dropWhile Char.isDigit
  let (fraction, rest) := match rest with
    | '.' :: more => (more.takeWhile Char.isDigit, more.dropWhile Char.isDigit)
    | _ => ([], rest)
  if whole.isEmpty && fraction.isEmpty then none
  else
    let digits := Numeral.ofDigits 0 (whole ++ fraction)
    some (.ofDecimal false digits (-(fraction.length : Int)), rest)

def nameAt (cs : List Char) : Option ((Option String × String) × List Char) :=
  (Xml.plainName cs).map fun (a, rest) =>
    match rest with
    | ':' :: more =>
      match Xml.plainName more with
      | some (b, rest) => ((some a, b), rest)
      | none => ((none, a), rest)
    | _ => ((none, a), rest)

def written (name : Option String × String) : String :=
  match name.1 with
  | some f => f ++ ":" ++ name.2
  | none => name.2

def kindTest (kind : String) (cs : List Char) : Option (NodeTest × List Char) :=
  let close (t : NodeTest) (cs : List Char) : Option (NodeTest × List Char) :=
    (Xml.sign ")" (Xml.skipSpace cs)).map fun rest => (t, rest)
  match kind with
  | "comment" => close .comment cs
  | "text" => close .text cs
  | "node" => close .node cs
  | "processing-instruction" =>
    match Xml.skipSpace cs with
    | c :: rest =>
      if c = '"' ∨ c = '\x27' then
        match Text.cutOnce [c] rest with
        | some (target, rest) => close (.instruction (some (String.ofList target))) rest
        | none => none
      else close (.instruction none) (c :: rest)
    | [] => none
  | _ => none

/-- The token that a name opens: an axis, a test of a kind, a function or a test of a name. -/
def named (cs : List Char) : Option (Token × List Char) :=
  match nameAt cs with
  | none => none
  | some ((front, part), rest) =>
    match front, Xml.sign "::" (Xml.skipSpace rest) with
    | none, some more => ((axes.find? (·.1 == part)).map Prod.snd).map fun a => (.axis a, more)
    | _, _ =>
      match Xml.sign "(" (Xml.skipSpace rest) with
      | some more =>
        match kindTest part more with
        | some (t, rest) =>
          if front.isNone then some (.test t, rest) else some (.function (written (front, part)), more)
        | none => some (.function (written (front, part)), more)
      | none =>
        match front, Xml.sign ":*" rest with
        | none, some rest => some (.test (.anyIn part), rest)
        | _, _ => some (.test (.named front part), rest)

/-- The tokens at the front of a text that starts with no space, an operand having just ended or not. -/
def next (operandEnded : Bool) (cs : List Char) : Option (List Token × List Char) :=
  let word := if operandEnded then lookUp operatorWords cs else none
  match word with
  | some (op, rest) => some ([.operator op], rest)
  | none =>
    match lookUp operatorSigns cs, lookUp signs cs, cs with
    | some (op, rest), _, _ => some ([.operator op], rest)
    | _, some (ts, rest), _ => some (ts, rest)
    | _, _, '$' :: rest => (nameAt rest).map fun (n, rest) => ([.variable (written n)], rest)
    | _, _, '*' :: rest => some ([.test .anyName], rest)
    | _, _, c :: rest =>
      if c = '"' ∨ c = '\x27' then
        (Text.cutOnce [c] rest).map fun (s, rest) => ([.literal (String.ofList s)], rest)
      else
        match numberAt cs with
        | some (x, rest) => some ([.number x], rest)
        | none =>
          if c = '.' then some ([.axis .self, .test .node], rest)
          else (named cs).map fun (t, rest) => ([t], rest)
    | _, _, [] => none

def all : Nat → Bool → List Char → Option (List Token)
  | 0, _, _ => none
  | fuel + 1, operandEnded, cs =>
    match Xml.skipSpace cs with
    | [] => some []
    | cs =>
      match next operandEnded cs with
      | some (ts, rest) =>
        (all fuel (ts.getLast?.any endsOperand) rest).map (ts ++ ·)
      | none => none

def ofText? (text : String) : Option (List Token) :=
  let cs := text.toList
  all (cs.length + 1) false cs

end Token

end XPath

end Understudy

import Understudy.Xml.Basic
import Understudy.Number.Numeral

/-!
# Expressions on XML documents

An `XPath` expression has a value in a context: a node of a numbered document with its position among others. Values
are sets of nodes, truth values, numbers and texts. `XPath.value?` is the value of an expression; it has none
when a name is not known, an argument is missing, or a set of nodes is needed and something else given.
-/

namespace Understudy

namespace XPath

open Xml (Numbered Name)

inductive Axis where
  | ancestor
  | ancestorOrSelf
  | attributes
  | child
  | descendant
  | descendantOrSelf
  | following
  | followingSibling
  | namespaces
  | parent
  | preceding
  | precedingSibling
  | self
  deriving DecidableEq

inductive NodeTest where
  | named (front : Option String) (part : String)
  | anyName
  | anyIn (front : String)
  | node
  | text
  | comment
  | instruction (target : Option String)

inductive Operator where
  | or
  | and
  | equal
  | notEqual
  | less
  | lessEqual
  | greater
  | greaterEqual
  | plus
  | minus
  | times
  | divide
  | remainder
  | union
  deriving DecidableEq

end XPath

open XPath in
inductive XPath where
  | binary (op : Operator) (a b : XPath)
  | negative (a : XPath)
  | literal (s : String)
  | number (x : Binary64)
  | variable (name : String)
  | call (function : String) (arguments : List XPath)
  /-- the root of the document -/
  | root
  /-- the node of the context -/
  | here
  /-- from each node of a set along an axis, each result of it filtered by conditions -/
  | step (start : XPath) (axis : Axis) (test : NodeTest) (conditions : List XPath)
  /-- a set of nodes, filtered by conditions in document order -/
  | filtered (a : XPath) (conditions : List XPath)
  deriving Inhabited

namespace XPath

open Xml (Numbered Name)

inductive Value where
  /-- places of nodes in document order, each once -/
  | nodes (places : List Nat)
  | truth (b : Bool)
  | number (x : Binary64)
  | text (s : String)

/-- Where an expression is evaluated: a node, and its position in a list of so many. -/
structure Context where
  place : Nat
  position : Nat
  size : Nat

def textNumber (s : String) : Binary64 := (Numeral.double? s).getD .nan

/-- The text of a number: positional, without a point when it is whole. -/
def numberLayout : Binary64.Layout :=
  { exponentFrom := none, exponentBelow := none, pointZero := false, plusSign := false }

def numberText (x : Binary64) : String :=
  match x with
  | .infinite s => if s then "-Infinity" else "Infinity"
  | x => numberLayout.write x

/-- The text of the first node, or no text. -/
def Value.toText (doc : Numbered) : Value → String
  | .nodes [] => ""
  | .nodes (i :: _) => doc.textOf i
  | .truth b => if b then "true" else "false"
  | .number x => numberText x
  | .text s => s

def Value.toNumber (doc : Numbered) : Value → Binary64
  | .number x => x
  | .truth b => if b then .one else .zero
  | v => textNumber (v.toText doc)

/-- Sets with a node, numbers other than zero, and texts with a character are true. -/
def Value.toTruth : Value → Bool
  | .nodes ps => !ps.isEmpty
  | .truth b => b
  | .number x => !x.isZero && !x.isNaN
  | .text s => !s.isEmpty

/-- Equality of values: of a set, some node has to be equal. -/
def Value.equal (doc : Numbered) : Value → Value → Bool
  | .truth a, b => a == b.toTruth
  | a, .truth b => a.toTruth == b
  | .number x, .nodes ps => ps.any fun i => x.eq (textNumber (doc.textOf i))
  | .nodes ps, .number x => ps.any fun i => x.eq (textNumber (doc.textOf i))
  | .number x, b => x.eq (b.toNumber doc)
  | a, .number x => (a.toNumber doc).eq x
  | .text s, .nodes ps => ps.any fun i => s == doc.textOf i
  | .nodes ps, .text s => ps.any fun i => s == doc.textOf i
  | .text s, .text t => s == t
  | .nodes ps, .nodes qs => ps.any fun i => qs.any fun j => doc.textOf i == doc.textOf j

def inOrder (doc : Numbered) (ps : List Nat) : List Nat := doc.places.filter ps.contains

/-- The nodes of an axis, nearest first. -/
def Axis.nodes (doc : Numbered) (axis : Axis) (i : Nat) : List Nat :=
  let parent := (doc.node i).parent
  let siblings := if i = 0 ∨ !(doc.node i).inContent then [] else doc.content parent
  match axis with
  | .self => [i]
  | .parent => if i = 0 then [] else [parent]
  | .ancestor => doc.above i
  | .ancestorOrSelf => i :: doc.above i
  | .attributes => doc.attributes i
  | .namespaces => doc.namespaces i
  | .child => doc.content i
  | .descendant => doc.below i
  | .descendantOrSelf => i :: doc.below i
  | .followingSibling => siblings.filter (i < ·)
  | .precedingSibling => (siblings.filter (· < i)).reverse
  | .following =>
    doc.places.filter fun j => i < j && (doc.node j).inContent && !(doc.above j).contains i
  | .preceding =>
    (doc.places.filter fun j =>
      j < i && (doc.node j).inContent && !(doc.above i).contains j).reverse

def nameOf (doc : Numbered) (i : Nat) : Option Name :=
  match (doc.node i).kind with
  | .element n => some n
  | .attribute n _ => some n
  | .namespaceNode f _ => some ⟨none, none, f⟩
  | .instruction t _ => some ⟨none, none, t⟩
  | _ => none

/-- A node is of the kind that names on the axis mean. -/
def isPrincipal (doc : Numbered) (axis : Axis) (i : Nat) : Bool :=
  match axis, (doc.node i).kind with
  | .attributes, .attribute .. => true
  | .namespaces, .namespaceNode .. => true
  | .attributes, _ => false
  | .namespaces, _ => false
  | _, .element _ => true
  | _, _ => false

/-- A node passes the test; none when the test names a namespace that is not known. -/
def NodeTest.passes (doc : Numbered) (axis : Axis) (i : Nat) : NodeTest → Option Bool
  | .node => some true
  | .text => some (match (doc.node i).kind with
    | .text _ => true
    | _ => false)
  | .comment => some (match (doc.node i).kind with
    | .comment _ => true
    | _ => false)
  | .instruction target => some (match (doc.node i).kind with
    | .instruction t _ => target.all (· == t)
    | _ => false)
  | .anyName => some (isPrincipal doc axis i)
  | .named (some _) _ => none
  | .anyIn _ => none
  | .named none part =>
    some (isPrincipal doc axis i && (nameOf doc i).any fun n => n.space.isNone && n.part == part)

/-- The values at which `p` holds, when it says so of each. -/
def filterAll {α : Type} (p : α → Option Bool) : List α → Option (List α)
  | [] => some []
  | a :: as =>
    match p a, filterAll p as with
    | some true, some rest => some (a :: rest)
    | some false, some rest => some rest
    | _, _ => none

def normalizeSpace (s : String) : String :=
  let words := s.toList.map fun c => if c == '\t' || c == '\n' || c == '\r' then ' ' else c
  " ".intercalate (((Text.cutAtChar ' ' words).filter (!·.isEmpty)).map String.ofList)

def roundHalfUp (x : Binary64) : Binary64 :=
  match x with
  | .finite s m =>
    if m == 0 then x
    else if s && m ≤ 1 / 2 then .finite true 0
    else (x.add (.finite false (1 / 2))).floor
  | x => x

/-- The characters of a text whose positions from one on lie in the rounded range. -/
def substring (s : String) (start : Binary64) (length : Option Binary64) : String :=
  let low := roundHalfUp start
  let chosen := s.toList.zipIdx.filter fun (_, i) =>
    let p := Binary64.ofNat (i + 1)
    low.le p && match length with
      | none => true
      | some n => p.lt (low.add (roundHalfUp n))
  String.ofList (chosen.map Prod.fst)

/-- Each character of `from_` becomes the one at its place in `into`, or goes when there is none. -/
def exchange (s from_ into : String) : String :=
  String.ofList (s.toList.filterMap fun c =>
    match from_.toList.findIdx? (· == c) with
    | none => some c
    | some i => into.toList[i]?)

def callFunction (doc : Numbered) (ctx : Context) (name : String) (args : List Value) :
    Option Value :=
  let here : Value := .nodes [ctx.place]
  let nameText (f : Name → String) (ps : List Nat) : Value :=
    .text (match ps with
      | [] => ""
      | i :: _ => ((nameOf doc i).map f).getD "")
  let named (f : Name → String) : Option Value := match args with
    | [] => some (nameText f [ctx.place])
    | [.nodes ps] => some (nameText f ps)
    | _ => none
  let onText (f : String → Value) : Option Value := match args with
    | [] => some (f (here.toText doc))
    | [v] => some (f (v.toText doc))
    | _ => none
  let onTexts (f : String → String → Value) : Option Value := match args with
    | [a, b] => some (f (a.toText doc) (b.toText doc))
    | _ => none
  let onNumber (f : Binary64 → Binary64) : Option Value := match args with
    | [v] => some (.number (f (v.toNumber doc)))
    | _ => none
  match name with
  | "last" => if args.isEmpty then some (.number (.ofNat ctx.size)) else none
  | "position" => if args.isEmpty then some (.number (.ofNat ctx.position)) else none
  | "count" => match args with
    | [.nodes ps] => some (.number (.ofNat ps.length))
    | _ => none
  | "local-name" => named (·.part)
  | "namespace-uri" => named fun n => n.space.getD ""
  | "name" => named (·.written)
  | "string" => onText .text
  | "concat" =>
    if args.length < 2 then none else some (.text (String.join (args.map (·.toText doc))))
  | "starts-with" => onTexts fun s t => .truth (Text.dropFront? t.toList s.toList).isSome
  | "contains" => onTexts fun s t => .truth (Text.contains t s)
  | "substring-before" => onTexts fun s t => .text (((Text.splitOnce t s).map Prod.fst).getD "")
  | "substring-after" => onTexts fun s t => .text (((Text.splitOnce t s).map Prod.snd).getD "")
  | "substring" => match args with
    | [s, a] => some (.text (substring (s.toText doc) (a.toNumber doc) none))
    | [s, a, n] => some (.text (substring (s.toText doc) (a.toNumber doc) (some (n.toNumber doc))))
    | _ => none
  | "string-length" => onText fun s => .number (.ofNat s.length)
  | "normalize-space" => onText fun s => .text (normalizeSpace s)
  | "translate" => match args with
    | [s, a, b] => some (.text (exchange (s.toText doc) (a.toText doc) (b.toText doc)))
    | _ => none
  | "boolean" => match args with
    | [v] => some (.truth v.toTruth)
    | _ => none
  | "not" => match args with
    | [v] => some (.truth (!v.toTruth))
    | _ => none
  | "true" => if args.isEmpty then some (.truth true) else none
  | "false" => if args.isEmpty then some (.truth false) else none
  | "number" => match args with
    | [] => some (.number (here.toNumber doc))
    | [v] => some (.number (v.toNumber doc))
    | _ => none
  | "sum" => match args with
    | [.nodes ps] =>
      some (.number (ps.foldl (fun x i => x.add (textNumber (doc.textOf i))) .zero))
    | _ => none
  | "floor" => onNumber Binary64.floor
  | "ceiling" => onNumber Binary64.ceil
  | "round" => onNumber roundHalfUp
  | _ => none

/-- The value of an operator other than the two that may leave their right side out. -/
def Operator.apply (doc : Numbered) (op : Operator) (a b : Value) : Option Value :=
  let x := a.toNumber doc
  let y := b.toNumber doc
  match op with
  | .or => some (.truth (a.toTruth || b.toTruth))
  | .and => some (.truth (a.toTruth && b.toTruth))
  | .equal => some (.truth (a.equal doc b))
  | .notEqual => some (.truth (!a.equal doc b))
  | .less => some (.truth (x.lt y))
  | .lessEqual => some (.truth (x.le y))
  | .greater => some (.truth (y.lt x))
  | .greaterEqual => some (.truth (y.le x))
  | .plus => some (.number (x.add y))
  | .minus => some (.number (x.sub y))
  | .times => some (.number (x.mul y))
  | .divide => some (.number (x.div y))
  | .remainder => some (.number (x.rem y))
  | .union => match a, b with
    | .nodes ps, .nodes qs => some (.nodes (inOrder doc (ps ++ qs)))
    | _, _ => none

/-- A condition keeps a node when its value is the node's position, or is no number and true. -/
def keeps (ctx : Context) : Value → Bool
  | .number x => x.eq (.ofNat ctx.position)
  | v => v.toTruth

def contexts (ps : List Nat) : List Context :=
  ps.zipIdx.map fun (p, i) => ⟨p, i + 1, ps.length⟩

mutual

def value? (doc : Numbered) (ctx : Context) : XPath → Option Value
  | .binary .or a b =>
    match value? doc ctx a with
    | some v => if v.toTruth then some (.truth true) else (value? doc ctx b).map (.truth ·.toTruth)
    | none => none
  | .binary .and a b =>
    match value? doc ctx a with
    | some v => if v.toTruth then (value? doc ctx b).map (.truth ·.toTruth) else some (.truth false)
    | none => none
  | .binary op a b =>
    match value? doc ctx a, value? doc ctx b with
    | some v, some w => op.apply doc v w
    | _, _ => none
  | .negative a => (value? doc ctx a).map fun v => .number (v.toNumber doc).neg
  | .literal s => some (.text s)
  | .number x => some (.number x)
  | .variable _ => none
  | .call f args => (values? doc ctx args).bind (callFunction doc ctx f)
  | .root => some (.nodes [0])
  | .here => some (.nodes [ctx.place])
  | .step start axis test conditions =>
    match value? doc ctx start with
    | some (.nodes ps) =>
      let results := ps.map fun p =>
        (filterAll (fun i => test.passes doc axis i) (axis.nodes doc p)).bind
          (keep? doc conditions)
      if results.all Option.isSome then
        some (.nodes (inOrder doc (results.filterMap id).flatten))
      else none
    | _ => none
  | .filtered a conditions =>
    match value? doc ctx a with
    | some (.nodes ps) => (keep? doc conditions ps).map .nodes
    | _ => none

def values? (doc : Numbered) (ctx : Context) : List XPath → Option (List Value)
  | [] => some []
  | e :: es =>
    match value? doc ctx e, values? doc ctx es with
    | some v, some vs => some (v :: vs)
    | _, _ => none

/-- The nodes of a list that every condition keeps, each condition counting positions anew. -/
def keep? (doc : Numbered) : List XPath → List Nat → Option (List Nat)
  | [], ps => some ps
  | c :: cs, ps =>
    match filterAll (fun ctx => (value? doc ctx c).map (keeps ctx)) (contexts ps) with
    | some kept => keep? doc cs (kept.map (·.place))
    | none => none

end

/-- The expression has a value on the whole document, and the value is true. -/
def holds (e : XPath) (doc : Numbered) : Bool :=
  match value? doc ⟨0, 1, 1⟩ e with
  | some v => v.toTruth
  | none => false

end XPath

end Understudy

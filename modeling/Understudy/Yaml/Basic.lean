import Understudy.Number.Numeral
import Understudy.Record.Tree
import Understudy.Text.Cut

/-!
# YAML documents

A `Node` is a scalar, a sequence or a mapping. Plain scalars may be read as null, truth values or numbers; any scalar is
a text. An empty plain scalar stands for an empty collection as well.
-/

namespace Understudy

namespace Yaml

inductive Node where
  | scalar (plain : Bool) (text : String)
  | sequence (items : List Node)
  | mapping (entries : List (Node × Node))
  deriving Inhabited

namespace Node

def void : Node := .scalar true ""

def isNullWord (s : String) : Bool := ["", "~", "null", "Null", "NULL"].contains s

def boolOfWord? (s : String) : Option Bool :=
  if ["true", "True", "TRUE"].contains s then some true
  else if ["false", "False", "FALSE"].contains s then some false
  else none

def ofBase? (base : Nat) (cs : List Char) : Option Nat := do
  if cs.isEmpty then none
  let ds ← cs.mapM Text.hexDigit?
  if ds.all (· < base) then some (ds.foldl (fun n d => base * n + d) 0) else none

/-- A number behind the letter of its base, or in base ten without zeros in front. -/
def magnitude? (cs : List Char) : Option Nat :=
  match cs with
  | '0' :: 'x' :: rest => ofBase? 16 rest
  | '0' :: 'o' :: rest => ofBase? 8 rest
  | '0' :: 'b' :: rest => ofBase? 2 rest
  | '0' :: _ :: _ => none
  | cs => ofBase? 10 cs

/-- A whole number with or without a sign; zero has no minus sign. -/
def wholeOfWord? (s : String) : Option Int :=
  match s.toList with
  | '-' :: rest => ((magnitude? rest).filter (· ≠ 0)).map fun n => -(n : Int)
  | '+' :: rest => (magnitude? rest).map fun n => (n : Int)
  | cs => (magnitude? cs).map fun n => (n : Int)

def text? : Node → Option String
  | .scalar _ s => some s
  | _ => none

def plain? : Node → Option String
  | .scalar true s => some s
  | _ => none

def items? : Node → Option (List Node)
  | .sequence vs => some vs
  | .scalar true "" => some []
  | _ => none

def members? : Node → Option (List (String × Node))
  | .mapping es => es.mapM fun (k, v) => k.text?.map (·, v)
  | .scalar true "" => some []
  | _ => none

end Node

instance : Tree Node where
  isNull v := v.plain?.any Node.isNullWord
  isBroken _ := false
  string? := Node.text?
  bool? v := v.plain?.bind Node.boolOfWord?
  whole? v := v.plain?.bind Node.wholeOfWord?
  items? := Node.items?
  fieldItems? _ := none
  members? := Node.members?
  json? _ _ := none

end Yaml

end Understudy

import Understudy.Yaml.Scalar

/-!
# Tokens of YAML texts

`Token.ofText?` cuts a text into tokens. Indentation becomes tokens of its own: a collection in block form starts where
its first entry stands further in than the lines before, and ends where a line stands further out. Whether a scalar is a
key is known only at the colon behind it, so its place is remembered until then.
-/

namespace Understudy

namespace Yaml

inductive Token where
  | directive
  | documentStart
  | documentEnd
  | blockSequenceStart
  | blockMappingStart
  | blockEnd
  | flowSequenceStart
  | flowSequenceEnd
  | flowMappingStart
  | flowMappingEnd
  | blockEntry
  | flowEntry
  | key
  | value
  | alias (name : String)
  | anchor (name : String)
  | tag
  /-- text without quotes and marks around it is plain -/
  | scalar (plain : Bool) (text : String)
  deriving DecidableEq

structure KeyPlace where
  /-- how many tokens stand before it -/
  before : Nat
  index : Nat
  line : Nat
  column : Nat
  /-- nothing but a key can stand there -/
  required : Bool

structure Scan where
  cursor : Cursor
  tokens : List Token
  /-- the columns of the open collections in block form, the innermost first -/
  indents : List Nat
  /-- a key may begin here -/
  keyAllowed : Bool
  /-- the place of a key that may have begun, outside flow collections -/
  place : Option KeyPlace
  /-- such places in the open flow collections, the innermost first -/
  flow : List (Option KeyPlace)

namespace Scan

def inFlow (s : Scan) : Bool := !s.flow.isEmpty

def column (s : Scan) : Nat := s.cursor.column

def add (s : Scan) (t : Token) : Scan := { s with tokens := s.tokens ++ [t] }

def past (s : Scan) (n : Nat) : Scan := { s with cursor := s.cursor.skip n }

def keyPlace (s : Scan) : Option KeyPlace :=
  match s.flow with
  | p :: _ => p
  | [] => s.place

def setPlace (s : Scan) (p : Option KeyPlace) : Scan :=
  match s.flow with
  | _ :: rest => { s with flow := p :: rest }
  | [] => { s with place := p }

/-- A key that had to be there is not. -/
def isMissed (p : Option KeyPlace) : Bool := p.any (·.required)

def dropPlace (s : Scan) : Option Scan :=
  if isMissed s.keyPlace then none else some (s.setPlace none)

def markPlace (s : Scan) : Option Scan := do
  if s.keyAllowed then
    let s ← s.dropPlace
    let c := s.cursor
    let required := !s.inFlow && s.indents.head? == some c.column
    some (s.setPlace (some
      { before := s.tokens.length, index := c.index, line := c.line, column := c.column, required }))
  else some s

/-- A place is too far behind for its key. -/
def isStale (c : Cursor) (p : KeyPlace) : Bool := p.line < c.line || p.index + 1024 < c.index

def dropStale (s : Scan) : Option Scan :=
  let stale (p : Option KeyPlace) : Bool := p.any (isStale s.cursor)
  let fresh (p : Option KeyPlace) : Option KeyPlace := if stale p then none else p
  if (s.place :: s.flow).any fun p => stale p && isMissed p then none
  else some { s with place := fresh s.place, flow := s.flow.map fresh }

def isInside (s : Scan) (column : Nat) : Bool := s.indents.head?.all (· < column)

/-- Opens a collection at a column when nothing is open there yet; its token goes behind so many others. -/
def openAt (s : Scan) (column before : Nat) (t : Token) : Scan :=
  if !s.inFlow && s.isInside column then
    { s with indents := column :: s.indents, tokens := s.tokens.take before ++ t :: s.tokens.drop before }
  else s

def openHere (s : Scan) (t : Token) : Scan := s.openAt s.column s.tokens.length t

/-- Closes the collections that stand further in than a column; all of them without one. -/
def close (s : Scan) (column : Option Nat) : Scan :=
  if s.inFlow then s
  else
    let inner := s.indents.takeWhile fun i => column.all (· < i)
    { s with
      indents := s.indents.drop inner.length
      tokens := s.tokens ++ inner.map fun _ => .blockEnd }

def skipGap : Nat → Scan → Scan
  | 0, s => s
  | fuel + 1, s =>
    let c := s.cursor.skipWhile fun x => x == ' ' || (x == '\t' && (s.inFlow || !s.keyAllowed))
    let c := if c.atChar '#' then c.skipWhile fun _ => true else c
    if c.atBreak then
      skipGap fuel { s with cursor := c.skipBreak, keyAllowed := s.keyAllowed || !s.inFlow }
    else { s with cursor := c }

/-- A token at the edge of a document, so many characters long. -/
def edge (s : Scan) (t : Token) (length : Nat) : Option Scan := do
  let s ← (s.close none).dropPlace
  some (({ s with keyAllowed := false } : Scan).add t |>.past length)

def directive (s : Scan) : Option Scan :=
  let line := String.ofList (s.cursor.takeWhile fun x => x != '#')
  match (line.toList.splitBy fun a b => isBlank a == isBlank b).filter fun w => !w.all isBlank with
  | [name, version] =>
    if name == "%YAML".toList && (version == "1.1".toList || version == "1.2".toList) then
      s.edge .directive line.length
    else none
  | [name, _, _] => if name == "%TAG".toList then s.edge .directive line.length else none
  | _ => none

def openFlow (s : Scan) (t : Token) : Option Scan := do
  let s ← s.markPlace
  some (({ s with flow := none :: s.flow, keyAllowed := true } : Scan).add t |>.past 1)

def closeFlow (s : Scan) (t : Token) : Option Scan := do
  let s ← s.dropPlace
  some (({ s with flow := s.flow.tail, keyAllowed := false } : Scan).add t |>.past 1)

def flowEntry (s : Scan) : Option Scan := do
  let s ← s.dropPlace
  some (({ s with keyAllowed := true } : Scan).add .flowEntry |>.past 1)

def blockEntry (s : Scan) : Option Scan := do
  if !s.inFlow && !s.keyAllowed then none
  let s ← (s.openHere .blockSequenceStart).dropPlace
  some (({ s with keyAllowed := true } : Scan).add .blockEntry |>.past 1)

def explicitKey (s : Scan) : Option Scan := do
  if !s.inFlow && !s.keyAllowed then none
  let s ← (s.openHere .blockMappingStart).dropPlace
  some (({ s with keyAllowed := !s.inFlow } : Scan).add .key |>.past 1)

def keyValue (s : Scan) : Option Scan :=
  match s.keyPlace with
  | some p =>
    let tokens := s.tokens.take p.before ++ .key :: s.tokens.drop p.before
    let s := ({ s with tokens } : Scan).openAt p.column p.before .blockMappingStart
    some ((({ s with keyAllowed := false } : Scan).setPlace none).add .value |>.past 1)
  | none =>
    if !s.inFlow && !s.keyAllowed then none
    else
      let s := s.openHere .blockMappingStart
      some (({ s with keyAllowed := !s.inFlow } : Scan).add .value |>.past 1)

/-- The name of an anchor or an alias, which a gap or a mark ends. -/
def named (s : Scan) (t : String → Token) : Option Scan := do
  let s ← s.markPlace
  let c := s.cursor.skip 1
  let name := c.takeWhile fun x => x.isAlphanum || x == '-' || x == '_'
  let after := c.skip name.length
  if name.isEmpty then none
  if !(after.gapAhead 0 || after.peek?.any "?:,]\x7d%@\x60".toList.contains) then none
  some (({ s with keyAllowed := false, cursor := after } : Scan).add (t (String.ofList name)))

def tagged (s : Scan) : Option Scan := do
  let s ← s.markPlace
  let c := s.cursor.skipWhile fun x => !isBlank x && !(s.inFlow && x == ',')
  if !(c.gapAhead 0 || s.inFlow) then none
  some (({ s with keyAllowed := false, cursor := c } : Scan).add .tag)

def quotedScalar (s : Scan) (quote : Char) : Option Scan := do
  let s ← s.markPlace
  let (text, cursor) ← quoted quote s.cursor
  some (({ s with keyAllowed := false, cursor } : Scan).add (.scalar false (String.ofList text)))

def blockScalar (s : Scan) (literal : Bool) : Option Scan := do
  let s ← s.dropPlace
  let (text, cursor) ← block literal s.indents.head? s.cursor
  some (({ s with keyAllowed := true, cursor } : Scan).add (.scalar false (String.ofList text)))

def plainScalar (s : Scan) : Option Scan := do
  let s ← s.markPlace
  let indent := (s.indents.head?.map (· + 1)).getD 0
  let (text, keyAllowed, cursor) ←
    plain s.inFlow indent (s.cursor.rest.length + 1) [] Gap.none s.cursor
  some (({ s with keyAllowed, cursor } : Scan).add (.scalar true (String.ofList text)))

def isPlainStart (s : Scan) (x : Char) : Bool :=
  let c := s.cursor
  if "-?:,[]\x7b\x7d#&*!|>'\"%@\x60".toList.contains x then
    (x == '-' && !(c.ahead? 1).any isBlank)
      || (!s.inFlow && (x == '?' || x == ':') && !c.gapAhead 1)
  else true

def token (s : Scan) (x : Char) : Option Scan :=
  let c := s.cursor
  if c.column == 0 && x == '%' then s.directive
  else if c.atMarks '-' then s.edge .documentStart 3
  else if c.atMarks '.' then s.edge .documentEnd 3
  else if x == '[' then s.openFlow .flowSequenceStart
  else if x == '\x7b' then s.openFlow .flowMappingStart
  else if x == ']' then s.closeFlow .flowSequenceEnd
  else if x == '\x7d' then s.closeFlow .flowMappingEnd
  else if x == ',' then s.flowEntry
  else if x == '-' && c.gapAhead 1 then s.blockEntry
  else if x == '?' && (s.inFlow || c.gapAhead 1) then s.explicitKey
  else if x == ':' && (s.inFlow || c.gapAhead 1) then s.keyValue
  else if x == '*' then s.named .alias
  else if x == '&' then s.named .anchor
  else if x == '!' then s.tagged
  else if x == '|' && !s.inFlow then s.blockScalar true
  else if x == '>' && !s.inFlow then s.blockScalar false
  else if x == '\'' || x == '"' then s.quotedScalar x
  else if s.isPlainStart x then s.plainScalar
  else none

/-- Cuts the rest of the text; each token takes at least one character. -/
def run : Nat → Scan → Option (List Token)
  | 0, _ => none
  | fuel + 1, s => do
    let s ← (s.skipGap (s.cursor.rest.length + 1)).dropStale
    match s.cursor.peek? with
    | some x =>
      let s ← (s.close (some s.column)).token x
      run fuel s
    | none =>
      let s ← (s.close none).dropPlace
      if s.inFlow then none else some s.tokens

def start (cs : List Char) : Scan :=
  { cursor := .start cs, tokens := [], indents := [], keyAllowed := true, place := none, flow := [] }

end Scan

/-- The tokens of a text; a mark of byte order in front is left out. -/
def Token.ofText? (text : String) : Option (List Token) :=
  let cs := match text.toList with
    | c :: cs => if c.toNat == 0xFEFF then cs else c :: cs
    | [] => []
  if cs.all isAllowed then Scan.run (cs.length + 1) (.start cs) else none

end Yaml

end Understudy

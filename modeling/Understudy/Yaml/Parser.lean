import Understudy.Yaml.Basic
import Understudy.Yaml.Token

/-!
# Reading YAML documents

`Node.parse?` reads the one document of a text from its tokens. Collections are in block form, by indentation, or in
flow form, in brackets; an alias stands for the node that carries its anchor.
-/

namespace Understudy

namespace Yaml

/-- The nodes that carry an anchor, the latest first. -/
abbrev Anchors := List (String × Node)

abbrev Read (α : Type) := α × Anchors × List Token

def properties : List Token → Option String × Bool × List Token
  | .anchor a :: .tag :: ts => (some a, true, ts)
  | .tag :: .anchor a :: ts => (some a, true, ts)
  | .anchor a :: ts => (some a, true, ts)
  | .tag :: ts => (none, true, ts)
  | ts => (none, false, ts)

/-- The next token is one that ends an entry, so that nothing stands there. -/
def stops (ends : List Token) (ts : List Token) : Bool :=
  match ts with
  | t :: _ => ends.contains t
  | [] => true

def entryEnds : List Token := [.blockEntry, .blockEnd]

/-- What ends an entry of a sequence that is not further in than its key. -/
def flatEnds : List Token := [.blockEntry, .key, .value, .blockEnd]

def memberEnds : List Token := [.key, .value, .blockEnd]

/-- Where a node stands: in block form, and where a sequence may be no further in than its key. -/
structure Position where
  block : Bool
  flat : Bool

/-- The tokens of an entry of a flow collection, behind the comma that all but the first one need. -/
def entry? (first : Bool) (ts : List Token) : Option (List Token) :=
  match first, ts with
  | true, ts => some ts
  | false, .flowEntry :: ts => some ts
  | false, _ => none

mutual

def node (position : Position) : Nat → Anchors → List Token → Option (Read Node)
  | 0, _, _ => none
  | fuel + 1, anchors, ts =>
    match ts with
    | .alias a :: ts => (anchors.find? (·.1 == a)).map fun (_, n) => (n, anchors, ts)
    | ts => do
      let (anchor, has, ts) := properties ts
      let (n, anchors, ts) ← content position has fuel anchors ts
      match anchor with
      | some a => some (n, (a, n) :: anchors, ts)
      | none => some (n, anchors, ts)

/-- Reads a node behind its anchor and tag; with one of these, nothing may stand there. -/
def content (position : Position) (has : Bool) : Nat → Anchors → List Token → Option (Read Node)
  | 0, _, _ => none
  | fuel + 1, anchors, ts =>
    match ts with
    | .scalar plain s :: ts => some (.scalar plain s, anchors, ts)
    | .flowSequenceStart :: ts => flowItems fuel true [] anchors ts
    | .flowMappingStart :: ts => flowMembers fuel true [] anchors ts
    | t :: ts =>
      if position.flat && t == .blockEntry then flatItems fuel [] anchors (t :: ts)
      else if position.block && t == .blockSequenceStart then blockItems fuel [] anchors ts
      else if position.block && t == .blockMappingStart then blockMembers fuel [] anchors ts
      else if has then some (.void, anchors, t :: ts)
      else none
    | [] => if has then some (.void, anchors, []) else none

/-- Reads a node, or nothing where one of the given tokens stands. -/
def nodeUnless (ends : List Token) (position : Position) : Nat → Anchors → List Token → Option (Read Node)
  | 0, _, _ => none
  | fuel + 1, anchors, ts =>
    if stops ends ts then some (.void, anchors, ts) else node position fuel anchors ts

def blockItems : Nat → List Node → Anchors → List Token → Option (Read Node)
  | 0, _, _, _ => none
  | fuel + 1, items, anchors, ts =>
    match ts with
    | .blockEntry :: ts => do
      let (n, anchors, ts) ← nodeUnless entryEnds ⟨true, false⟩ fuel anchors ts
      blockItems fuel (items ++ [n]) anchors ts
    | .blockEnd :: ts => some (.sequence items, anchors, ts)
    | _ => none

/-- The entries of a sequence that is no further in than its key. -/
def flatItems : Nat → List Node → Anchors → List Token → Option (Read Node)
  | 0, _, _, _ => none
  | fuel + 1, items, anchors, ts =>
    match ts with
    | .blockEntry :: ts => do
      let (n, anchors, ts) ← nodeUnless flatEnds ⟨true, false⟩ fuel anchors ts
      flatItems fuel (items ++ [n]) anchors ts
    | ts => some (.sequence items, anchors, ts)

def blockMembers : Nat → List (Node × Node) → Anchors → List Token → Option (Read Node)
  | 0, _, _, _ => none
  | fuel + 1, entries, anchors, ts =>
    match ts with
    | .key :: ts => do
      let (k, anchors, ts) ← nodeUnless memberEnds ⟨true, true⟩ fuel anchors ts
      let (v, anchors, ts) ← memberValue fuel anchors ts
      blockMembers fuel (entries ++ [(k, v)]) anchors ts
    | .blockEnd :: ts => some (.mapping entries, anchors, ts)
    | _ => none

def memberValue : Nat → Anchors → List Token → Option (Read Node)
  | 0, _, _ => none
  | fuel + 1, anchors, ts =>
    match ts with
    | .value :: ts => nodeUnless memberEnds ⟨true, true⟩ fuel anchors ts
    | ts => some (.void, anchors, ts)

/-- A key with its value in a flow collection that the given token ends. -/
def flowPair (close : Token) : Nat → Anchors → List Token → Option (Read (Node × Node))
  | 0, _, _ => none
  | fuel + 1, anchors, ts => do
    let (k, anchors, ts) ← nodeUnless [.value, .flowEntry, close] ⟨false, false⟩ fuel anchors ts
    match ts with
    | .value :: ts =>
      let (v, anchors, ts) ← nodeUnless [.flowEntry, close] ⟨false, false⟩ fuel anchors ts
      some ((k, v), anchors, ts)
    | ts => some ((k, .void), anchors, ts)

/-- The entries of a sequence in brackets; a single pair is a mapping. -/
def flowItems : Nat → Bool → List Node → Anchors → List Token → Option (Read Node)
  | 0, _, _, _, _ => none
  | fuel + 1, first, items, anchors, ts =>
    match ts with
    | .flowSequenceEnd :: ts => some (.sequence items, anchors, ts)
    | .flowEntry :: .flowSequenceEnd :: ts => if first then none else some (.sequence items, anchors, ts)
    | ts =>
      match entry? first ts with
      | some (.key :: ts) => do
        let (p, anchors, ts) ← flowPair .flowSequenceEnd fuel anchors ts
        flowItems fuel false (items ++ [.mapping [p]]) anchors ts
      | some ts => do
        let (n, anchors, ts) ← node ⟨false, false⟩ fuel anchors ts
        flowItems fuel false (items ++ [n]) anchors ts
      | none => none

def flowMembers : Nat → Bool → List (Node × Node) → Anchors → List Token → Option (Read Node)
  | 0, _, _, _, _ => none
  | fuel + 1, first, entries, anchors, ts =>
    match ts with
    | .flowMappingEnd :: ts => some (.mapping entries, anchors, ts)
    | .flowEntry :: .flowMappingEnd :: ts => if first then none else some (.mapping entries, anchors, ts)
    | ts =>
      match entry? first ts with
      | some (.key :: ts) => do
        let (p, anchors, ts) ← flowPair .flowMappingEnd fuel anchors ts
        flowMembers fuel false (entries ++ [p]) anchors ts
      | some ts => do
        let (k, anchors, ts) ← node ⟨false, false⟩ fuel anchors ts
        flowMembers fuel false (entries ++ [(k, .void)]) anchors ts
      | none => none

end

/-- Only marks of documents without content follow. -/
def endsHere : List Token → Bool
  | .documentEnd :: ts => endsHere ts
  | [] => true
  | _ => false

def document (ts : List Token) : Option Node := do
  let fuel := 4 * ts.length + 8
  let (n, _, rest) ←
    if stops [.directive, .documentStart, .documentEnd] ts then some (Node.void, [], ts)
    else node ⟨true, false⟩ fuel [] ts
  if endsHere rest then some n else none

/-- The one document of a text; a text without any is void. -/
def Node.parse? (text : String) : Option Node := do
  let ts ← Token.ofText? text
  let ts := ts.dropWhile (· == .documentEnd)
  match ts with
  | .documentStart :: rest => document rest
  | .directive :: rest =>
    match rest.dropWhile (· == .directive) with
    | .documentStart :: rest => document rest
    | _ => none
  | ts => document ts

end Yaml

end Understudy

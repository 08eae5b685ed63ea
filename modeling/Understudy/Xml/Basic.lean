import Understudy.Text.Cut

/-!
# XML documents

A document is the content of its root node: one element, and comments and processing instructions around it. Names
are resolved: each carries the namespace it is in. `Xml.Numbered` lists all nodes of a document in document
order, each with its parent, so that a node is its place in the list.
-/

namespace Understudy

namespace Xml

structure Name where
  space : Option String
  front : Option String
  part : String
  deriving DecidableEq, Inhabited

def Name.written (n : Name) : String :=
  match n.front with
  | some f => f ++ ":" ++ n.part
  | none => n.part

inductive Node where
  /-- an element: its name, attributes, the namespaces in scope by their prefixes, and its content -/
  | element (name : Name) (attributes : List (Name × String)) (scope : List (String × String))
      (content : List Node)
  | text (s : String)
  | comment (s : String)
  | instruction (target data : String)
  deriving Inhabited

inductive Kind where
  | root
  | element (name : Name)
  | attribute (name : Name) (value : String)
  /-- a namespace in scope: its prefix and its name -/
  | namespaceNode (front uri : String)
  | text (s : String)
  | comment (s : String)
  | instruction (target data : String)
  deriving Inhabited

structure Numbered.Node where
  kind : Kind
  /-- the place of the parent; the root is its own -/
  parent : Nat
  deriving Inhabited

/-- A document as the list of its nodes in document order, the root first. -/
abbrev Numbered := Array Numbered.Node

namespace Numbered

/-- Whether the node stands in the content of its parent, and not at its side. -/
def Node.inContent (n : Node) : Bool :=
  match n.kind with
  | .root | .attribute .. | .namespaceNode .. => false
  | _ => true

mutual

def addNode (parent : Nat) (doc : Numbered) : Xml.Node → Numbered
  | .element name attributes scope content =>
    let place := doc.size
    let doc := doc.push ⟨.element name, parent⟩
    let doc := scope.foldl (fun doc (f, u) => doc.push ⟨.namespaceNode f u, place⟩) doc
    let doc := attributes.foldl (fun doc (n, v) => doc.push ⟨.attribute n v, place⟩) doc
    addNodes place doc content
  | .text s => doc.push ⟨.text s, parent⟩
  | .comment s => doc.push ⟨.comment s, parent⟩
  | .instruction t d => doc.push ⟨.instruction t d, parent⟩

def addNodes (parent : Nat) (doc : Numbered) : List Xml.Node → Numbered
  | [] => doc
  | n :: ns => addNodes parent (addNode parent doc n) ns

end

def ofContent (content : List Xml.Node) : Numbered := addNodes 0 #[⟨.root, 0⟩] content

def places (doc : Numbered) : List Nat := List.range doc.size

def node (doc : Numbered) (i : Nat) : Node := doc.getD i ⟨.root, 0⟩

def content (doc : Numbered) (i : Nat) : List Nat :=
  doc.places.filter fun j => j != 0 && (doc.node j).parent == i && (doc.node j).inContent

def attributes (doc : Numbered) (i : Nat) : List Nat :=
  doc.places.filter fun j =>
    (doc.node j).parent == i && match (doc.node j).kind with
      | .attribute .. => true
      | _ => false

def namespaces (doc : Numbered) (i : Nat) : List Nat :=
  doc.places.filter fun j =>
    (doc.node j).parent == i && match (doc.node j).kind with
      | .namespaceNode .. => true
      | _ => false

def ancestors (doc : Numbered) : Nat → Nat → List Nat
  | 0, _ => []
  | fuel + 1, i =>
    if i = 0 then []
    else
      let p := (doc.node i).parent
      p :: ancestors doc fuel p

/-- The places above the node at a place, nearest first. -/
def above (doc : Numbered) (i : Nat) : List Nat := ancestors doc doc.size i

/-- The places of the content of the node and of all its content's content. -/
def below (doc : Numbered) (i : Nat) : List Nat :=
  doc.places.filter fun j => (doc.node j).inContent && (doc.above j).contains i

/-- The text of a node: what it says, or all text inside it. -/
def textOf (doc : Numbered) (i : Nat) : String :=
  match (doc.node i).kind with
  | .attribute _ v => v
  | .namespaceNode _ u => u
  | .text s => s
  | .comment s => s
  | .instruction _ d => d
  | .root | .element _ =>
    String.join ((doc.below i).map fun j => match (doc.node j).kind with
      | .text s => s
      | _ => "")

end Numbered

end Xml

end Understudy

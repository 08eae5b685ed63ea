import Understudy.Bytes.Basic
import Understudy.Text.Cut

/-!
# Files

A `FileStore` is what a server sees of a file system: files and directories by their paths. Reading never changes it;
`FileStore.makeDirectory?` and `FileStore.write?` do, and refuse what a file system refuses.
-/

namespace Understudy

abbrev FilePath := List String

def FilePath.ofText (s : String) : FilePath :=
  (Text.split '/' s).filter fun name => !name.isEmpty && name != "."

-- whichever other way to compare bytes is in sight
attribute [local instance (1100)] ByteArray.instDecidableEq in
inductive FileNode where
  | file (content : Bytes)
  | directory
  deriving DecidableEq

/-- The files and directories, each path once. -/
structure FileStore where
  nodes : List (FilePath × FileNode)

namespace FileStore

def empty : FileStore := ⟨[]⟩

instance : Inhabited FileStore := ⟨empty⟩

def get? (files : FileStore) (path : FilePath) : Option FileNode :=
  (files.nodes.find? (·.1 == path)).map Prod.snd

def read? (files : FileStore) (path : FilePath) : Option Bytes :=
  match files.get? path with
  | some (.file content) => some content
  | _ => none

/-- There is a directory at the path: it was made, or something lies in it. -/
def isDirectory (files : FileStore) (path : FilePath) : Bool :=
  path.isEmpty || files.nodes.any fun (p, node) =>
    (p == path && node == .directory) || (path.isPrefixOf p && path.length < p.length)

/-- A file stands at the path or on the way to it. -/
def isBlocked (files : FileStore) (path : FilePath) : Bool :=
  files.nodes.any fun (p, node) => p.isPrefixOf path && node != .directory

/-- Puts a node in the place of the one with its path, or at the end. -/
def put (path : FilePath) (node : FileNode) : List (FilePath × FileNode) → List (FilePath × FileNode)
  | [] => [(path, node)]
  | (p, n) :: rest => if p == path then (p, node) :: rest else (p, n) :: put path node rest

def makeDirectory? (files : FileStore) (path : FilePath) : Option FileStore :=
  if files.isBlocked path then none
  else if files.isDirectory path then some files
  else some ⟨put path .directory files.nodes⟩

def write? (files : FileStore) (path : FilePath) (content : Bytes) : Option FileStore :=
  if files.isDirectory path || !files.isDirectory path.dropLast then none
  else some ⟨put path (.file content) files.nodes⟩

/-- The names and contents of the files in a directory, in ascending order of the names. -/
def filesIn (files : FileStore) (path : FilePath) : List (String × Bytes) :=
  (files.nodes.filterMap fun (p, node) =>
    match node, p.getLast? with
    | .file content, some name => if p.dropLast == path then some (name, content) else none
    | _, _ => none).mergeSort fun a b => decide (a.1 ≤ b.1)

end FileStore

end Understudy

import Understudy.Json.Printer
import Understudy.Bytes.Basic
import Understudy.Text.Ascii

/-!
# Responses

A `Definition` is a response as a mapping states it; `Definition.message` is the `Message` that is sent. Header values
of a message that are no UTF-8 are kept apart, byte for byte.
-/

namespace Understudy

namespace Response

inductive Body where
  | empty
  | text (s : String)
  | json (v : Json)
  | bytes (b : Bytes)
  deriving Inhabited

structure Message where
  status : Nat
  headers : List (String × String)
  /-- values that are no UTF-8 -/
  binaryHeaders : List (String × Bytes)
  body : Bytes
  deriving Inhabited

namespace Message

def ofStatus (status : Nat) : Message :=
  { status, headers := [], binaryHeaders := [], body := Bytes.empty }

def withHeader (m : Message) (name value : String) : Message :=
  { m with headers := m.headers ++ [(name, value)] }

/-- Adds a value to the texts when it is UTF-8, and to the binary values otherwise. -/
def pushBytes (m : Message) (name : String) (value : Bytes) : Message :=
  match Bytes.text? value with
  | some s => m.withHeader name s
  | none => { m with binaryHeaders := m.binaryHeaders ++ [(name, value)] }

def ofJson (status : Nat) (v : Json) : Message :=
  { (ofStatus status).withHeader "Content-Type" "application/json" with
    body := Bytes.ofText v.pretty }

def ofText (status : Nat) (text : String) : Message :=
  ofJson status (.object [("Status", .string text)])

def header? (m : Message) (name : String) : Option String :=
  (m.headers.find? fun h => Text.sameName h.1 name).map Prod.snd

end Message

/-- A response that does not depend on the request. -/
structure Definition where
  status : Nat
  /-- header names, each with at least one value -/
  headers : List (String × List String)
  body : Body
  /-- how many milliseconds the response waits -/
  delay : Option Nat
  deriving Inhabited

namespace Definition

def ofStatus (status : Nat) : Definition := { status, headers := [], body := .empty, delay := none }

def addHeader (name value : String) : List (String × List String) → List (String × List String)
  | [] => [(name, [value])]
  | (n, vs) :: rest =>
    if Text.sameName n name then (n, vs ++ [value]) :: rest else (n, vs) :: addHeader name value rest

def withHeader (d : Definition) (name value : String) : Definition :=
  { d with headers := addHeader name value d.headers }

def withHeaders (d : Definition) (headers : List (String × String)) : Definition :=
  headers.foldl (fun d (n, v) => d.withHeader n v) d

def hasHeader (d : Definition) (name : String) : Bool :=
  d.headers.any fun h => Text.sameName h.1 name

def bodyBytes (d : Definition) : Bytes :=
  match d.body with
  | .empty => Bytes.empty
  | .text s => Bytes.ofText s
  | .json v => Bytes.ofText v.compact
  | .bytes b => b

/-- The headers one by one; a JSON body has its type at the end when no header gives one. -/
def headerList (d : Definition) : List (String × String) :=
  let given := d.headers.flatMap fun (n, vs) => vs.map (n, ·)
  match d.body with
  | .json _ => if d.hasHeader "content-type" then given else given ++ [("Content-Type", "application/json")]
  | _ => given

def message (d : Definition) : Message :=
  { status := d.status, headers := d.headerList, binaryHeaders := [], body := d.bodyBytes }

end Definition

end Response

end Understudy

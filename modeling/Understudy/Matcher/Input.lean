import Understudy.Json.Printer
import Understudy.Json.Written
import Understudy.Bytes.Basic

/-!
# What matchers look at

An `Attribute` is one part of a request: a text, a JSON value, bytes, or nothing. Each matcher asks for the view
that it understands.
-/

namespace Understudy

/-- A part of a request as a matcher sees it. -/
inductive Attribute where
  | missing
  | text (s : String)
  | json (v : Json)
  | bytes (b : Bytes)

namespace Attribute

/-- As text: a JSON string is its content, any other value its JSON text. -/
def text? : Attribute → Option String
  | .missing => none
  | .text s => some s
  | .json (.string s) => some s
  | .json v => some v.compact
  | .bytes b => Bytes.text? b

def json? : Attribute → Option Json
  | .missing => none
  | .text s => Json.parse? s
  | .json v => some v
  | .bytes b => (Bytes.text? b).bind Json.parse?

/-- As bytes; a JSON value is its text. -/
def bytes? : Attribute → Option Bytes
  | .missing => none
  | .text s => some (Bytes.ofText s)
  | .json v => some (Bytes.ofText v.compact)
  | .bytes b => some b

/-- There is something: a character, a byte, or a value other than null. -/
def isFilled : Attribute → Bool
  | .missing => false
  | .text s => !s.isEmpty
  | .json .null => false
  | .json _ => true
  | .bytes b => !b.isEmpty

end Attribute

end Understudy

import Understudy.Regex.Basic
import Understudy.Text.PropertyName
import Understudy.Text.Script
import Understudy.Text.Cut

/-!
# Character classes by name

The names that a pattern may use for a set of characters: bracketed names of ASCII classes, and the names of
categories, scripts and properties, which are compared without case, blanks, dashes and underscores.
-/

namespace Understudy

namespace Regex

open Text

def asciiClass? (name : String) : Option CharSet :=
  match name with
  | "alnum" => some (.ranges [(0x30, 0x39), (0x41, 0x5A), (0x61, 0x7A)])
  | "alpha" => some (.ranges [(0x41, 0x5A), (0x61, 0x7A)])
  | "ascii" => some (.ranges [(0, 0x7F)])
  | "blank" => some (.ranges [(9, 9), (0x20, 0x20)])
  | "cntrl" => some (.ranges [(0, 0x1F), (0x7F, 0x7F)])
  | "digit" => some (.ranges [(0x30, 0x39)])
  | "graph" => some (.ranges [(0x21, 0x7E)])
  | "lower" => some (.ranges [(0x61, 0x7A)])
  | "print" => some (.ranges [(0x20, 0x7E)])
  | "punct" => some (.ranges [(0x21, 0x2F), (0x3A, 0x40), (0x5B, 0x60), (0x7B, 0x7E)])
  | "space" => some (.ranges [(9, 13), (0x20, 0x20)])
  | "upper" => some (.ranges [(0x41, 0x5A)])
  | "word" => some (.ranges [(0x30, 0x39), (0x41, 0x5A), (0x5F, 0x5F), (0x61, 0x7A)])
  | "xdigit" => some (.ranges [(0x30, 0x39), (0x41, 0x46), (0x61, 0x66)])
  | _ => none

/-- A name without case, separators and a leading `is`. -/
def plainName (cs : List Char) : String :=
  let body := match cs with
    | a :: b :: rest =>
      if (a = 'i' ∨ a = 'I') ∧ (b = 's' ∨ b = 'S') then rest else cs
    | _ => cs
  let kept := body.filter fun c => c != ' ' && c != '_' && c != '-' && c.toNat < 128
  let small := kept.map Char.toLower
  if body.length < cs.length && small == ['c'] then "isc" else String.ofList small

/-- The set that a single name stands for: a property first, then a category, then a script. -/
def namedSet? (cs : List Char) : Option CharSet :=
  let name := plainName cs
  let property := if ["cf", "sc", "lc"].contains name then none else property? name
  ((property <|> category? name) <|> script? name).map .ranges

def valuedSet? (property value : List Char) : Option CharSet :=
  let name := plainName value
  match plainName property with
  | "gc" | "generalcategory" => (category? name).map .ranges
  | "sc" | "script" => (script? name).map .ranges
  | "scx" | "scriptextensions" => (scriptUse? name).map .ranges
  | _ => none

def escapedSet? (cs : List Char) : Option CharSet :=
  match cutOnce ['!', '='] cs with
  | some (p, v) => (valuedSet? p v).map .compl
  | none =>
    match cutOnce [':'] cs with
    | some (p, v) => valuedSet? p v
    | none =>
      match cutOnce ['='] cs with
      | some (p, v) => valuedSet? p v
      | none => namedSet? cs

end Regex

end Understudy

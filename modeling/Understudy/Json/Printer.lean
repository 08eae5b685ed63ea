import Understudy.Json.Basic
import Understudy.Text.Ascii

/-!
# JSON texts

`Json.compact` writes a value without blanks, `Json.pretty` with two blanks of indentation a level.
Members are written in the order in which the value holds them. Strings escape what JSON demands and
nothing else.
-/

namespace Understudy

namespace Json

def escapeChar (c : Char) : List Char :=
  if c = '"' then ['\\', '"']
  else if c = '\\' then ['\\', '\\']
  else if c = '\n' then ['\\', 'n']
  else if c = '\r' then ['\\', 'r']
  else if c = '\t' then ['\\', 't']
  else if c.toNat = 8 then ['\\', 'b']
  else if c.toNat = 12 then ['\\', 'f']
  else if c.toNat < 32 then
    ['\\', 'u', '0', '0', Text.hexChar (c.toNat / 16), Text.hexChar c.toNat]
  else [c]

def literal (s : String) : String := "\"" ++ String.ofList (s.toList.flatMap escapeChar) ++ "\""

mutual

def compact : Json → String
  | .null => "null"
  | .bool b => if b then "true" else "false"
  | .number n => n.text
  | .string s => literal s
  | .array items => "[" ++ ",".intercalate (compactItems items) ++ "]"
  | .object members => "\x7b" ++ ",".intercalate (compactMembers members) ++ "\x7d"

def compactItems : List Json → List String
  | [] => []
  | v :: vs => compact v :: compactItems vs

def compactMembers : List (String × Json) → List String
  | [] => []
  | (n, v) :: ms => (literal n ++ ":" ++ compact v) :: compactMembers ms

end

def newline (level : Nat) : String := "\n" ++ String.ofList (List.replicate (2 * level) ' ')

mutual

def prettyAt (level : Nat) : Json → String
  | .null => "null"
  | .bool b => if b then "true" else "false"
  | .number n => n.text
  | .string s => literal s
  | .array [] => "[]"
  | .array (v :: vs) =>
    let sep := newline (level + 1)
    "[" ++ sep ++ prettyAt (level + 1) v
      ++ String.join (prettyItems (level + 1) vs) ++ newline level ++ "]"
  | .object [] => "\x7b\x7d"
  | .object ((n, v) :: ms) =>
    let sep := newline (level + 1)
    "\x7b" ++ sep ++ literal n ++ ": " ++ prettyAt (level + 1) v
      ++ String.join (prettyMembers (level + 1) ms) ++ newline level ++ "\x7d"

def prettyItems (level : Nat) : List Json → List String
  | [] => []
  | v :: vs => ("," ++ newline level ++ prettyAt level v) :: prettyItems level vs

def prettyMembers (level : Nat) : List (String × Json) → List String
  | [] => []
  | (n, v) :: ms =>
    ("," ++ newline level ++ literal n ++ ": " ++ prettyAt level v) :: prettyMembers level ms

end

def pretty (v : Json) : String := prettyAt 0 v

end Json

end Understudy

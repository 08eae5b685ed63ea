import Understudy.Json.Basic
import Understudy.Text.Property
import Understudy.Text.Ascii

/-!
# Values with their kinds spelled out

In messages about lists of patterns every value carries the word for its kind: `[Number(1), String("a"), Null]`.
Characters that cannot be seen, or would join the one before, are written by their numbers.
-/

namespace Understudy

namespace Json

def labelledChar (c : Char) : List Char :=
  if c = '"' then ['\\', '"']
  else if c = '\\' then ['\\', '\\']
  else if c = '\n' then ['\\', 'n']
  else if c = '\r' then ['\\', 'r']
  else if c = '\t' then ['\\', 't']
  else if c.toNat = 0 then ['\\', '0']
  else if c = ' ' then [c]
  else if Text.CodePoints.has Text.joiningMarks c.toNat
      || Text.CodePoints.has Text.unprintable c.toNat then
    "\\u\x7b".toList ++ Text.hexDigits c.toNat ++ ['\x7d']
  else [c]

def labelledString (s : String) : String :=
  "\"" ++ String.ofList (s.toList.flatMap labelledChar) ++ "\""

mutual

def labelled : Json → String
  | .null => "Null"
  | .bool b => if b then "Bool(true)" else "Bool(false)"
  | .number n => "Number(" ++ n.text ++ ")"
  | .string s => "String(" ++ labelledString s ++ ")"
  | .array items => "Array [" ++ ", ".intercalate (labelledItems items) ++ "]"
  | .object members => "Object \x7b" ++ ", ".intercalate (labelledMembers members) ++ "\x7d"

def labelledItems : List Json → List String
  | [] => []
  | v :: vs => labelled v :: labelledItems vs

def labelledMembers : List (String × Json) → List String
  | [] => []
  | (n, v) :: ms => (labelledString n ++ ": " ++ labelled v) :: labelledMembers ms

end

def labelledList (items : List Json) : String := "[" ++ ", ".intercalate (labelledItems items) ++ "]"

end Json

end Understudy

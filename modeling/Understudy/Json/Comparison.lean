import Understudy.Json.Basic
import Understudy.Text.LetterCase

/-!
# Comparing values

`Json.equals` asks whether a value is the expected one, `Json.includes` whether it has at least all that is
expected: more members, and more items at the end of an array. Numbers are compared as doubles; texts with or without
regard to case.
-/

namespace Understudy

namespace Json

def sameText (ignoreCase : Bool) (a b : String) : Bool :=
  if ignoreCase then Text.lowercase a == Text.lowercase b else a == b

def sameLeaf (ignoreCase : Bool) : Json → Json → Bool
  | .null, .null => true
  | .bool a, .bool b => a == b
  | .number a, .number b => a.toBinary64.eq b.toBinary64
  | .string a, .string b => sameText ignoreCase a b
  | _, _ => false

mutual

/-- The second value is the expected first one. -/
def equals (ignoreCase : Bool) : Json → Json → Bool
  | .array es, .array vs => equalItems ignoreCase es vs
  | .object es, .object vs => es.length == vs.length && equalMembers ignoreCase es vs
  | e, v => sameLeaf ignoreCase e v

def equalItems (ignoreCase : Bool) : List Json → List Json → Bool
  | [], [] => true
  | e :: es, v :: vs => equals ignoreCase e v && equalItems ignoreCase es vs
  | _, _ => false

/-- Each expected member is among the members. -/
def equalMembers (ignoreCase : Bool) : List (String × Json) → List (String × Json) → Bool
  | [], _ => true
  | (n, e) :: es, vs =>
    (match member? vs n with
      | some v => equals ignoreCase e v
      | none => false) && equalMembers ignoreCase es vs

end

mutual

/-- The second value has all that the expected first one has. -/
def includes (ignoreCase : Bool) : Json → Json → Bool
  | .array es, .array vs => includesItems ignoreCase es vs
  | .object es, .object vs => includesMembers ignoreCase es vs
  | e, v => equals ignoreCase e v

/-- Item by item, with more items allowed at the end. -/
def includesItems (ignoreCase : Bool) : List Json → List Json → Bool
  | [], _ => true
  | e :: es, v :: vs => includes ignoreCase e v && includesItems ignoreCase es vs
  | _ :: _, [] => false

def includesMembers (ignoreCase : Bool) : List (String × Json) → List (String × Json) → Bool
  | [], _ => true
  | (n, e) :: es, vs =>
    (match member? vs n with
      | some v => includes ignoreCase e v
      | none => false) && includesMembers ignoreCase es vs

end

end Json

end Understudy

import Understudy.Text.Ascii
import Understudy.Json.Basic

/-!
# Names with several values

A `MultiMap` groups values by name. Names keep the spelling and the place of their first appearance; whether ASCII case
tells two names apart is a property of the map. `MultiMap.append` is the only way in.
-/

namespace Understudy

/-- Names, each with its values in the order in which they came. -/
structure MultiMap where
  ignoreCase : Bool
  entries : List (String × List String)
  deriving DecidableEq, Inhabited

namespace MultiMap

def empty (ignoreCase : Bool) : MultiMap := { ignoreCase, entries := [] }

/-- Equality of names, with or without regard to ASCII case. -/
def sameKey (ignoreCase : Bool) (a b : String) : Bool :=
  if ignoreCase then Text.sameName a b else a == b

/-- Adds a value to the first entry with the name, or an entry at the end. -/
def appendTo (ignoreCase : Bool) (name value : String) :
    List (String × List String) → List (String × List String)
  | [] => [(name, [value])]
  | (n, vs) :: rest =>
    if sameKey ignoreCase n name then (n, vs ++ [value]) :: rest
    else (n, vs) :: appendTo ignoreCase name value rest

def append (m : MultiMap) (name value : String) : MultiMap :=
  { m with entries := appendTo m.ignoreCase name value m.entries }

def ofPairs (ignoreCase : Bool) (pairs : List (String × String)) : MultiMap :=
  pairs.foldl (fun m (n, v) => m.append n v) (empty ignoreCase)

def getAll? (m : MultiMap) (name : String) : Option (List String) :=
  (m.entries.find? fun e => sameKey m.ignoreCase e.1 name).map Prod.snd

def get? (m : MultiMap) (name : String) : Option String := (m.getAll? name).bind List.head?

def contains (m : MultiMap) (name : String) : Bool := (m.getAll? name).isSome

def size (m : MultiMap) : Nat := m.entries.length

def toJson (m : MultiMap) : Json := .object (m.entries.map fun (n, vs) => (n, .ofStrings vs))

end MultiMap

end Understudy

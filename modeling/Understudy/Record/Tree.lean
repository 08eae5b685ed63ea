import Understudy.Json.Written

/-!
# Documents that records are read from

A `Tree` is a parsed document of some format: what a reader of records can ask about a node of it. JSON texts are
trees; other formats can be as well.
-/

namespace Understudy

/-- The nodes of a document, as readers of records see them. -/
class Tree (τ : Type) where
  /-- nothing stands here, or it says so -/
  isNull : τ → Bool
  /-- the node or something in it does not follow the format -/
  isBroken : τ → Bool
  string? : τ → Option String
  bool? : τ → Option Bool
  whole? : τ → Option Int
  items? : τ → Option (List τ)
  /-- items that stand for the fields of a record in their order, where the format allows it -/
  fieldItems? : τ → Option (List τ)
  /-- the members in the order in which they are written, with repetitions -/
  members? : τ → Option (List (String × τ))
  /-- the node as a JSON value that nests at most so many levels -/
  json? : Nat → τ → Option Json

instance : Tree Json.Written where
  isNull v := match v with
    | .null => true
    | _ => false
  isBroken := Json.Written.broken
  string? v := match v with
    | .string s => some s
    | _ => none
  bool? v := match v with
    | .bool b => some b
    | _ => none
  whole? v := match v with
    | .number (some (.whole n)) => some n
    | _ => none
  items? v := match v with
    | .array vs => some vs
    | _ => none
  fieldItems? v := match v with
    | .array vs => some vs
    | _ => none
  members? v := match v with
    | .object ms => some ms
    | _ => none
  json? depth v := v.toJson? depth

end Understudy

import Understudy.Record.Tree
import Understudy.Error

/-!
# Reading records

A record is read from an object, member by member in the order in which they are written, or from an array of its
fields in their own order. Members that are no fields are left aside. The first thing that is wrong decides the error;
a field that has to be there and is not comes last.
-/

namespace Understudy

/-- Reads a value; so many more levels of nesting are allowed. -/
abbrev Reader (τ α : Type) := Nat → τ → Except DecodeFault α

namespace Reader

variable {τ α β : Type} [Tree τ]

def ofOption (a : Option α) : Except DecodeFault α :=
  match a with
  | some a => pure a
  | none => throw .unreadable

def string : Reader τ String := fun _ v => ofOption (Tree.string? v)

def bool : Reader τ Bool := fun _ v => ofOption (Tree.bool? v)

def int (low high : Int) : Reader τ Int := fun _ v =>
  ofOption ((Tree.whole? v).filter fun n => low ≤ n && n ≤ high)

def nat (max : Nat) : Reader τ Nat := fun d v => (int 0 max d v).map Int.toNat

def json : Reader τ Json := fun d v => ofOption (Tree.json? d v)

def parsed (parse? : String → Option α) : Reader τ α := fun d v => do
  let s ← string d v
  ofOption (parse? s)

def optional (read : Reader τ α) : Reader τ (Option α) := fun d v =>
  if Tree.isNull v then pure none else (read d v).map some

def list (read : Reader τ α) : Reader τ (List α)
  | 0, _ => throw .unreadable
  | d + 1, v => do
    let vs ← ofOption (Tree.items? v)
    vs.mapM (read d)

/-- An object as a table; the last value of a name counts. -/
def table (read : Reader τ α) : Reader τ (List (String × α))
  | 0, _ => throw .unreadable
  | d + 1, v => do
    let ms ← ofOption (Tree.members? v)
    ms.mapM fun (n, v) => (read d v).map (n, ·)

/-- The first reading that succeeds; when none does it is not said why. -/
def either (first second : Reader τ α) : Reader τ α := fun d v =>
  match first d v with
  | .ok a => pure a
  | .error _ =>
    match second d v with
    | .ok a => pure a
    | .error _ => throw .unreadable

def map (f : α → β) (read : Reader τ α) : Reader τ β := fun d v => (read d v).map f

end Reader

structure Field (τ σ : Type) where
  name : String
  /-- the field may not be left out -/
  required : Bool
  /-- reads the field into a record -/
  set : Nat → τ → σ → Except DecodeFault σ

namespace Field

variable {τ σ α : Type} [Tree τ]

def needed (name : String) (read : Reader τ α) (put : α → σ → σ) : Field τ σ :=
  { name, required := true, set := fun d v r => (read d v).map (put · r) }

/-- A field that keeps its old value when it is left out. -/
def defaulted (name : String) (read : Reader τ α) (put : α → σ → σ) : Field τ σ :=
  { name, required := false, set := fun d v r => (read d v).map (put · r) }

/-- A field that may be left out or be null. -/
def maybe (name : String) (read : Reader τ α) (put : Option α → σ → σ) : Field τ σ :=
  defaulted name (Reader.optional read) put

/-- Sets the fields that the members name; `seen` lists those already set. -/
def setMembers (fields : List (Field τ σ)) (depth : Nat) :
    List String → σ → List (String × τ) → Except DecodeFault (List String × σ)
  | seen, r, [] => pure (seen, r)
  | seen, r, (n, v) :: ms =>
    match fields.find? (·.name == n) with
    | none => if Tree.isBroken v then throw .unreadable else setMembers fields depth seen r ms
    | some f =>
      if seen.contains n then throw .unreadable
      else do
        let r ← f.set depth v r
        setMembers fields depth (n :: seen) r ms

/-- Sets the fields in their order from items; items left over are a fault. -/
def setItems (depth : Nat) : List (Field τ σ) → σ → List τ → Except DecodeFault σ
  | [], r, [] => pure r
  | [], _, _ :: _ => throw .unreadable
  | f :: fs, r, [] => if f.required then throw .unreadable else setItems depth fs r []
  | f :: fs, r, v :: vs => do
    let r ← f.set depth v r
    setItems depth fs r vs

/-- Reads a record, beginning with the values that fields have when they are left out. -/
def record (fields : List (Field τ σ)) (start : σ) : Reader τ σ
  | 0, _ => throw .unreadable
  | d + 1, v =>
    match Tree.members? v, Tree.fieldItems? v with
    | some ms, _ => do
      let (seen, r) ← setMembers fields d [] start ms
      match fields.find? fun f => f.required && !seen.contains f.name with
      | some f => throw (.missing f.name)
      | none => pure r
    | none, some vs => setItems d fields start vs
    | none, none => throw .unreadable

end Field

end Understudy

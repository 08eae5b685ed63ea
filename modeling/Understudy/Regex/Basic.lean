import Understudy.Text.Folding
import Understudy.Text.Property

/-!
# Regular expressions

A `Regex` is built from character sets and conditions on the place between two characters, by sequence, choice
and repetition. `Regex.spread` is its meaning on a text: from a set of places it goes to the places where
a match that starts at one of them can end. `Regex.occursIn` asks whether a match stands anywhere.

Sets of places are lists of truth values, one for each place between characters and one for each end.
-/

namespace Understudy

inductive CharSet where
  | ranges (r : Text.CodePoints)
  | union (a b : CharSet)
  | inter (a b : CharSet)
  | compl (a : CharSet)
  /-- all characters that are equal to one of the set but for case -/
  | caseless (a : CharSet)
  deriving Inhabited

namespace CharSet

def has : CharSet → Nat → Bool
  | .ranges r, n => Text.CodePoints.has r n
  | .union a b, n => a.has n || b.has n
  | .inter a b, n => a.has n && b.has n
  | .compl a, n => !a.has n
  | .caseless a, n => (Text.variants n).any a.has

def none : CharSet := .ranges []

def all : CharSet := .ranges [(0, Text.CodePoints.last)]

def single (c : Char) : CharSet := .ranges [(c.toNat, c.toNat)]

/-- About how many states of an automaton over bytes the set takes. -/
def cost : CharSet → Nat
  | .ranges r => r.foldl (fun n (_, b) => n + if b < 0x80 then 1 else 2) 0
  | .union a b => a.cost + b.cost
  | .inter a b => a.cost + b.cost
  | .compl a => a.cost + 8
  | .caseless a => 2 * a.cost

end CharSet

namespace Regex

inductive Words where
  | ascii
  | unicode
  deriving DecidableEq

def Words.has : Words → Char → Bool
  | .ascii, c => c.isAlphanum || c == '_'
  | .unicode, c => Text.CodePoints.has Text.wordCharacters c.toNat

inductive Anchor where
  | textStart
  | textEnd
  /-- a line starts or ends here; lines end with a line feed, or also with a carriage return -/
  | lineStart (withReturn : Bool)
  | lineEnd (withReturn : Bool)
  | wordEdge (w : Words)
  | notWordEdge (w : Words)
  | wordStart (w : Words)
  | wordEnd (w : Words)
  /-- no word character stands before -/
  | wordStartHalf (w : Words)
  /-- no word character stands after -/
  | wordEndHalf (w : Words)
  deriving DecidableEq

def Anchor.holds : Anchor → Option Char → Option Char → Bool
  | .textStart, before, _ => before.isNone
  | .textEnd, _, after => after.isNone
  | .lineStart false, before, _ => before.all (· == '\n')
  | .lineStart true, before, after =>
    before.all fun c => c == '\n' || (c == '\r' && after != some '\n')
  | .lineEnd false, _, after => after.all (· == '\n')
  | .lineEnd true, before, after =>
    after.all fun c => c == '\r' || (c == '\n' && before != some '\r')
  | .wordEdge w, before, after => before.any w.has != after.any w.has
  | .notWordEdge w, before, after => before.any w.has == after.any w.has
  | .wordStart w, before, after => !before.any w.has && after.any w.has
  | .wordEnd w, before, after => before.any w.has && !after.any w.has
  | .wordStartHalf w, before, _ => !before.any w.has
  | .wordEndHalf w, _, after => !after.any w.has

end Regex

inductive Regex where
  | empty
  | set (s : CharSet)
  | anchor (a : Regex.Anchor)
  | sequence (a b : Regex)
  | choice (a b : Regex)
  /-- at least `min` times, and at most `max` times when there is a bound -/
  | repetition (r : Regex) (min : Nat) (max : Option Nat)
  deriving Inhabited

namespace Regex

/-- Places of a text: one truth value for each place, the start of the text first. -/
abbrev Places := List Bool

def join (p q : Places) : Places := List.zipWith (· || ·) p q

/-- The places one character further, where that character is in the set. -/
def advance (s : CharSet) (text : List Char) (p : Places) : Places :=
  false :: List.zipWith (fun here c => here && s.has c.toNat) p text

def anchorPlaces (a : Anchor) (before : Option Char) : List Char → Places
  | [] => [a.holds before none]
  | c :: cs => a.holds before (some c) :: anchorPlaces a (some c) cs

/-- `f` applied `n` times, or fewer when nothing changes any more. -/
def iterate (f : Places → Places) : Nat → Places → Places
  | 0, p => p
  | n + 1, p =>
    let q := f p
    if q = p then p else iterate f n q

def reachable (f : Places → Places) (n : Nat) (p : Places) : Places :=
  iterate (fun q => join q (f q)) n p

/-- The places where a match that starts at one of the given places can end. -/
def spread (text : List Char) : Regex → Places → Places
  | .empty, p => p
  | .set s, p => advance s text p
  | .anchor a, p => List.zipWith (· && ·) p (anchorPlaces a none text)
  | .sequence a b, p => spread text b (spread text a p)
  | .choice a b, p => join (spread text a p) (spread text b p)
  | .repetition r min max, p =>
    let once := spread text r
    let more := match max with
      | some m => m - min
      | none => text.length + 1
    reachable once more (iterate once min p)

def occursIn (r : Regex) (text : String) : Bool :=
  let cs := text.toList
  (spread cs r (List.replicate (cs.length + 1) true)).any id

def ofList : List Regex → Regex
  | [] => .empty
  | [r] => r
  | r :: rs => .sequence r (ofList rs)

def anyChar : Regex := .set .all

def anyRun : Regex := .repetition anyChar 0 none

def char (ignoreCase : Bool) (c : Char) : Regex :=
  .set (if ignoreCase then .caseless (.single c) else .single c)

end Regex

end Understudy

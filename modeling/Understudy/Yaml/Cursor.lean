import Understudy.Text.Ascii

/-!
# Places in a YAML text

A `Cursor` is the rest of a text with the place where it begins. Line breaks count as one step each and read as a line
feed, except for the line and paragraph separators.
-/

namespace Understudy

namespace Yaml

def isBlank (c : Char) : Bool := c == ' ' || c == '\t'

def isBreak (c : Char) : Bool :=
  c == '\n' || c == '\r' || c.toNat == 0x85 || c.toNat == 0x2028 || c.toNat == 0x2029

def isAllowed (c : Char) : Bool :=
  c == '\t' || c == '\n' || c == '\r' || (0x20 ≤ c.toNat && c.toNat ≤ 0x7E) || c.toNat == 0x85
    || (0xA0 ≤ c.toNat && c.toNat ≤ 0xFFFD && c.toNat != 0xFEFF) || 0x10000 ≤ c.toNat

/-- The rest of a text, and the place where it begins. -/
structure Cursor where
  rest : List Char
  index : Nat
  line : Nat
  column : Nat

namespace Cursor

def start (cs : List Char) : Cursor := { rest := cs, index := 0, line := 0, column := 0 }

def peek? (c : Cursor) : Option Char := c.rest.head?

def ahead? (c : Cursor) (n : Nat) : Option Char := (c.rest.drop n).head?

def isEnd (c : Cursor) : Bool := c.rest.isEmpty

def atChar (c : Cursor) (x : Char) : Bool := c.peek? == some x

def atBlank (c : Cursor) : Bool := c.peek?.any isBlank

def atBreak (c : Cursor) : Bool := c.peek?.any isBreak

/-- The line or the text ends so many steps ahead, or a blank stands there. -/
def gapAhead (c : Cursor) (n : Nat) : Bool :=
  match c.ahead? n with
  | some x => isBlank x || isBreak x
  | none => true

def skip (c : Cursor) (n : Nat) : Cursor :=
  { c with rest := c.rest.drop n, index := c.index + n, column := c.column + n }

def breakLength : List Char → Nat
  | '\r' :: '\n' :: _ => 2
  | _ => 1

def skipBreak (c : Cursor) : Cursor :=
  let n := breakLength c.rest
  { rest := c.rest.drop n, index := c.index + n, line := c.line + 1, column := 0 }

def breakText (c : Cursor) : List Char :=
  match c.rest with
  | x :: _ => if x.toNat == 0x2028 || x.toNat == 0x2029 then [x] else ['\n']
  | [] => []

def skipWhile (p : Char → Bool) (c : Cursor) : Cursor :=
  c.skip (c.rest.takeWhile fun x => !isBreak x && p x).length

def takeWhile (p : Char → Bool) (c : Cursor) : List Char :=
  c.rest.takeWhile fun x => !isBreak x && p x

/-- A line starts with three marks and ends or goes on with a blank. -/
def atMarks (c : Cursor) (mark : Char) : Bool :=
  c.column == 0 && c.rest.take 3 == [mark, mark, mark] && c.gapAhead 3

def atDocumentMark (c : Cursor) : Bool := c.atMarks '-' || c.atMarks '.'

end Cursor

end Yaml

end Understudy

import Understudy.Yaml.Cursor

/-!
# Scalars in YAML texts

A scalar is written plain, in quotes, or as a block of lines. Each reader begins at the scalar and gives its text with
the place behind it, or nothing when it is malformed.
-/

namespace Understudy

namespace Yaml

structure Gap where
  /-- blanks of the line, when there was no break -/
  blanks : List Char
  /-- the first line break -/
  first : List Char
  /-- the line breaks after it -/
  more : List Char
  broken : Bool

namespace Gap

def none : Gap := { blanks := [], first := [], more := [], broken := false }

/-- What the gap reads as: a single line break is a blank. -/
def folded (g : Gap) : List Char :=
  if g.broken then
    if g.first == ['\n'] then (if g.more.isEmpty then [' '] else g.more) else g.first ++ g.more
  else g.blanks

/-- Reads blanks and line breaks; a tab before the column `indent` of a later line is refused. -/
def read (indent : Nat) : Nat → Gap → Cursor → Option (Gap × Cursor)
  | 0, g, c => some (g, c)
  | fuel + 1, g, c =>
    match c.peek? with
    | some x =>
      if isBlank x then
        if g.broken then
          if x == '\t' && c.column < indent then Option.none else read indent fuel g (c.skip 1)
        else read indent fuel { g with blanks := g.blanks ++ [x] } (c.skip 1)
      else if isBreak x then
        let g :=
          if g.broken then { g with more := g.more ++ c.breakText }
          else { g with blanks := [], first := c.breakText, broken := true }
        read indent fuel g c.skipBreak
      else some (g, c)
    | Option.none => some (g, c)

end Gap

abbrev Scanned := Option (List Char × Cursor)

/-! ### Plain scalars -/

def isFlowMark (c : Char) : Bool := c == ',' || c == '[' || c == ']' || c == '\x7b' || c == '\x7d'

def plainPiece (inFlow : Bool) : List Char → Option (List Char)
  | [] => some []
  | c :: cs =>
    if isBlank c || isBreak c then some []
    else if inFlow && c == ':' && cs.head?.any fun d => isFlowMark d || d == '?' then none
    else if (c == ':' && cs.head?.all fun d => isBlank d || isBreak d) || (inFlow && isFlowMark c) then
      some []
    else (plainPiece inFlow cs).map (c :: ·)

/--
Reads a plain scalar, whose later lines stand at the column `indent` or behind it. The last part says whether it ended
after a line break.
-/
def plain (inFlow : Bool) (indent : Nat) : Nat → List Char → Gap → Cursor →
    Option (List Char × Bool × Cursor)
  | 0, text, _, c => some (text, false, c)
  | fuel + 1, text, gap, c =>
    let done := some (text, gap.broken, c)
    if c.atDocumentMark || c.atChar '#' then done
    else do
      let piece ← plainPiece inFlow c.rest
      if piece.isEmpty then done
      else
        let text := text ++ gap.folded ++ piece
        let (gap, c) ← Gap.read indent (c.rest.length + 1) Gap.none (c.skip piece.length)
        if !gap.broken && gap.blanks.isEmpty then some (text, false, c)
        else if !inFlow && c.column < indent then some (text, gap.broken, c)
        else plain inFlow indent fuel text gap c

/-! ### Scalars in quotes -/

def escape? : Char → Option Char
  | '0' => some '\x00'
  | 'a' => some '\x07'
  | 'b' => some '\x08'
  | 't' => some '\t'
  | '\t' => some '\t'
  | 'n' => some '\n'
  | 'v' => some '\x0b'
  | 'f' => some '\x0c'
  | 'r' => some '\r'
  | 'e' => some '\x1b'
  | ' ' => some ' '
  | '"' => some '"'
  | '/' => some '/'
  | '\\' => some '\\'
  | 'N' => some (Char.ofNat 0x85)
  | '_' => some (Char.ofNat 0xA0)
  | 'L' => some (Char.ofNat 0x2028)
  | 'P' => some (Char.ofNat 0x2029)
  | _ => none

def escapeDigits? : Char → Option Nat
  | 'x' => some 2
  | 'u' => some 4
  | 'U' => some 8
  | _ => none

def numbered? (digits : Nat) (cs : List Char) : Option Char := do
  let ds := cs.take digits
  if ds.length < digits then none
  let vs ← ds.mapM Text.hexDigit?
  let n := vs.foldl (fun n d => 16 * n + d) 0
  if n.isValidChar then some (Char.ofNat n) else none

/-- The characters in double quotes up to a gap or the quote; a line break may be escaped. -/
def doublePiece : Nat → List Char → Cursor → Option (List Char × Bool × Cursor)
  | 0, _, _ => none
  | fuel + 1, text, c =>
    match c.peek? with
    | none => some (text, false, c)
    | some x =>
      if isBlank x || isBreak x || x == '"' then some (text, false, c)
      else if x == '\\' then
        match c.ahead? 1 with
        | none => none
        | some y =>
          if isBreak y then some (text, true, (c.skip 1).skipBreak)
          else match escape? y, escapeDigits? y with
            | some z, _ => doublePiece fuel (text ++ [z]) (c.skip 2)
            | none, some n => do
              let z ← numbered? n (c.rest.drop 2)
              doublePiece fuel (text ++ [z]) (c.skip (2 + n))
            | none, none => none
      else doublePiece fuel (text ++ [x]) (c.skip 1)

/-- The characters in single quotes up to a gap or the quote; two quotes are one. -/
def singlePiece : Nat → List Char → Cursor → Option (List Char × Bool × Cursor)
  | 0, _, _ => none
  | fuel + 1, text, c =>
    match c.peek? with
    | none => some (text, false, c)
    | some x =>
      if isBlank x || isBreak x then some (text, false, c)
      else if x == '\'' then
        if c.ahead? 1 == some '\'' then singlePiece fuel (text ++ ['\'']) (c.skip 2)
        else some (text, false, c)
      else singlePiece fuel (text ++ [x]) (c.skip 1)

def quotedBody (quote : Char) : Nat → List Char → Cursor → Scanned
  | 0, _, _ => none
  | fuel + 1, text, c =>
    if c.atDocumentMark || c.isEnd then none
    else do
      let piece := if quote == '\'' then singlePiece else doublePiece
      let (text, escaped, c) ← piece (c.rest.length + 1) text c
      if c.atChar quote then some (text, c.skip 1)
      else
        let start : Gap := { Gap.none with broken := escaped }
        let (gap, c) ← Gap.read 0 (c.rest.length + 1) start c
        quotedBody quote fuel (text ++ gap.folded) c

def quoted (quote : Char) (c : Cursor) : Scanned :=
  quotedBody quote (c.rest.length + 1) [] (c.skip 1)

/-! ### Blocks of lines -/

/-- What becomes of the line breaks at the end of a block. -/
inductive Chomping where
  | strip
  | clip
  | keep
  deriving DecidableEq

def blockMarks (c : Cursor) : Option (Chomping × Nat × Cursor) :=
  let chomping? (c : Cursor) : Option (Chomping × Cursor) :=
    if c.atChar '+' then some (.keep, c.skip 1) else if c.atChar '-' then some (.strip, c.skip 1)
    else none
  let depth? (c : Cursor) : Option (Option Nat × Cursor) :=
    match c.peek? with
    | some d =>
      if d == '0' then none
      else if d.isDigit then some (some (d.toNat - 48), c.skip 1) else some (none, c)
    | none => some (none, c)
  match chomping? c with
  | some (chomping, c) => (depth? c).map fun (d, c) => (chomping, d.getD 0, c)
  | none => (depth? c).map fun (d, c) =>
    match d, chomping? c with
    | some d, some (chomping, c) => (chomping, d, c)
    | _, _ => (.clip, d.getD 0, c)

/--
Reads indentation and empty lines up to a line with text. `indent` is zero while it is not known; `most` is the
greatest column seen.
-/
def blockBreaks (indent : Nat) : Nat → Nat → List Char → Cursor → Option (Nat × List Char × Cursor)
  | 0, most, breaks, c => some (most, breaks, c)
  | fuel + 1, most, breaks, c =>
    let blanks := c.rest.takeWhile (· == ' ')
    let count := if indent == 0 then blanks.length else min blanks.length (indent - c.column)
    let c := c.skip count
    let most := max most c.column
    if (indent == 0 || c.column < indent) && c.atChar '\t' then none
    else if c.atBreak then blockBreaks indent fuel most (breaks ++ c.breakText) c.skipBreak
    else some (most, breaks, c)

/-- The lines of a block: text so far, the break behind the last line, and empty lines behind that. -/
structure BlockText where
  text : List Char
  leading : List Char
  trailing : List Char
  /-- the last line began with a blank -/
  blank : Bool

def blockLines (literal : Bool) (indent : Nat) : Nat → BlockText → Cursor → Option (BlockText × Cursor)
  | 0, b, c => some (b, c)
  | fuel + 1, b, c =>
    if c.column != indent || c.isEnd then some (b, c)
    else do
      let blank := c.atBlank
      let folds := !literal && b.leading == ['\n'] && !b.blank && !blank
      let gap := if folds then (if b.trailing.isEmpty then [' '] else []) else b.leading
      let line := c.takeWhile fun _ => true
      let c := c.skip line.length
      let leading := c.breakText
      let c := if c.isEnd then c else c.skipBreak
      let (_, trailing, c) ← blockBreaks indent (c.rest.length + 1) 0 [] c
      blockLines literal indent fuel { text := b.text ++ gap ++ b.trailing ++ line, leading, trailing, blank } c

/-- Reads a block of lines; `parent` is the column of the collection that it stands in, if any. -/
def block (literal : Bool) (parent : Option Nat) (c : Cursor) : Scanned := do
  let (chomping, depth, c) ← blockMarks (c.skip 1)
  let c := c.skipWhile isBlank
  let c := if c.atChar '#' then c.skipWhile fun _ => true else c
  if !(c.isEnd || c.atBreak) then none
  let c := if c.isEnd then c else c.skipBreak
  let given := if depth == 0 then 0 else parent.getD 0 + depth
  let (most, breaks, c) ← blockBreaks given (c.rest.length + 1) 0 [] c
  let indent := if given == 0 then max most (max ((parent.map (· + 1)).getD 0) 1) else given
  let start : BlockText := { text := [], leading := [], trailing := breaks, blank := false }
  let (b, c) ← blockLines literal indent (c.rest.length + 1) start c
  let ending := match chomping with
    | .strip => []
    | .clip => b.leading
    | .keep => b.leading ++ b.trailing
  some (b.text ++ ending, c)

end Yaml

end Understudy

import Understudy.Regex.Property
import Understudy.Text.Blank

/-!
# Reading regular expressions

`Regex.parse?` reads a pattern. Flags hold from where they are set to the end of the group they are set in. A
pattern is refused when it is malformed, when it looks around or back, when it could split a character
into bytes, when it nests too deep, or when it would unfold to too large an automaton.
-/

namespace Understudy

namespace Regex

structure Flags where
  ignoreCase : Bool
  /-- line anchors match at each line -/
  multiLine : Bool
  /-- the point stands for line ends too -/
  dotAll : Bool
  /-- lines may end with a carriage return -/
  withReturn : Bool
  /-- blanks and comments of the pattern do not count -/
  extended : Bool
  /-- classes are those of Unicode and not of ASCII -/
  unicode : Bool

structure Cursor where
  rest : List Char
  flags : Flags
  /-- the names of groups so far -/
  names : List (List Char)

/-- A part of a pattern, with how deep it nests and about how many states it takes. -/
structure Part where
  regex : Regex
  depth : Nat
  size : Nat

/-- A step of reading, which fails on a malformed pattern. -/
abbrev Reading := StateT Cursor Option

namespace Reading

def fail {α : Type} : Reading α := fun _ => none

def rest : Reading (List Char) := return (← get).rest

def flags : Reading Flags := return (← get).flags

def setRest (cs : List Char) : Reading Unit := modify fun s => { s with rest := cs }

def setFlags (f : Flags) : Reading Unit := modify fun s => { s with flags := f }

def peek : Reading (Option Char) := return (← get).rest.head?

def here : Reading Char := do
  match ← peek with
  | some c => return c
  | none => fail

def bump : Reading Unit := modify fun s => { s with rest := s.rest.tail }

def skipSpace (inComment : Bool) : List Char → List Char
  | [] => []
  | c :: cs =>
    if inComment then skipSpace (c != '\n') cs
    else if Text.isBlank c then skipSpace false cs
    else if c = '#' then skipSpace true cs
    else c :: cs

def space : Reading Unit := do
  if (← flags).extended then setRest (skipSpace false (← rest))

def step : Reading Unit := do
  bump
  space

/-- The characters from here to the first that is not accepted, with space between them. -/
def takeSpaced (accept : Char → Bool) : Nat → Reading (List Char)
  | 0 => return []
  | fuel + 1 => do
    match ← peek with
    | some c =>
      if accept c then
        step
        return c :: (← takeSpaced accept fuel)
      else return []
    | none => return []

def takeAll (accept : Char → Bool) : Reading (List Char) := do
  takeSpaced accept ((← rest).length + 1)

end Reading

open Reading

def isMeta (c : Char) : Bool := "\\.+*?()|[]\x7b\x7d^$#&-~".toList.contains c

/-- The character as a pattern that matches it alone. -/
def quoted (c : Char) : List Char := if isMeta c then ['\\', c] else [c]

/-- The punctuation and blanks of ASCII that may follow a backslash to stand for themselves. -/
def isEscapable (c : Char) : Bool :=
  isMeta c || (c.toNat < 128 && !c.isAlphanum && c != '<' && c != '>')

inductive Atom where
  | literal (c : Char)
  | byte (n : Nat)
  | set (s : CharSet)
  | anchor (a : Anchor)
  | dot

/-- The character of a code point; a byte above ASCII when classes are those of ASCII. -/
def codePoint (n : Nat) (asByte : Bool) : Reading Atom := do
  if asByte && !(← flags).unicode && 0x7F < n && n ≤ 0xFF then return .byte n
  else if n < 0x110000 ∧ ¬ (0xD800 ≤ n ∧ n < 0xE000) then return .literal (Char.ofNat n)
  else fail

def hexRun : Nat → Nat → Reading Nat
  | 0, n => return n
  | k + 1, n => do
    match Text.hexDigit? (← here) with
    | some d =>
      step
      hexRun k (16 * n + d)
    | none => fail

def hexEscape (digits : Nat) : Reading Atom := do
  step
  let c ← here
  if c = '\x7b' then
    step
    let ds ← takeAll fun c => (Text.hexDigit? c).isSome
    if (← peek) != some '\x7d' then fail
    step
    if ds.isEmpty || 10 < (ds.dropWhile (· == '0')).length then fail
    codePoint (Text.CodePoints.ofHex ds) (digits == 2)
  else codePoint (← hexRun digits 0) (digits == 2)

def classEscape (negated : Bool) : Reading Atom := do
  step
  let c ← here
  let found ←
    if c = '\x7b' then do
      step
      let name ← takeAll (· != '\x7d')
      if (← peek) != some '\x7d' then fail
      bump
      pure (escapedSet? name)
    else if c = '\\' then fail
    else do
      step
      pure (namedSet? [c])
  if !(← flags).unicode then fail
  match found with
  | none => fail
  | some s =>
    let s := if (← flags).ignoreCase then .caseless s else s
    return .set (if negated then .compl s else s)

def shortClass (c : Char) (unicode : Bool) : CharSet :=
  let s : CharSet := match c.toLower with
    | 'd' => if unicode then .ranges Text.decimalDigits else .ranges [(0x30, 0x39)]
    | 's' => if unicode then .ranges Text.blanks else .ranges [(9, 13), (0x20, 0x20)]
    | _ =>
      if unicode then .ranges Text.wordCharacters
      else .ranges [(0x30, 0x39), (0x41, 0x5A), (0x5F, 0x5F), (0x61, 0x7A)]
  if c.isUpper then .compl s else s

/-- The name in braces behind a word edge, unless the braces are those of a repetition. -/
def edgeName? : Reading (Option (List Char)) := do
  if (← peek) != some '\x7b' then return none
  let start ← rest
  step
  let isPart := fun c : Char => c.isAlpha || c == '-'
  if isPart (← here) then
    let name ← takeAll isPart
    if (← peek) != some '\x7d' then fail
    bump
    return some name
  else
    setRest start
    return none

def escape : Reading Atom := do
  bump
  let c ← here
  let f ← flags
  let words : Words := if f.unicode then .unicode else .ascii
  if c.isDigit then fail
  else if c = 'x' then hexEscape 2
  else if c = 'u' then hexEscape 4
  else if c = 'U' then hexEscape 8
  else if c = 'p' ∨ c = 'P' then classEscape (c == 'P')
  else
    bump
    if "dswDSW".toList.contains c then return .set (shortClass c f.unicode)
    else if isEscapable c then return .literal c
    else
      match c with
      | 'a' => return .literal (Char.ofNat 7)
      | 'f' => return .literal (Char.ofNat 12)
      | 't' => return .literal '\t'
      | 'n' => return .literal '\n'
      | 'r' => return .literal '\r'
      | 'v' => return .literal (Char.ofNat 11)
      | 'A' => return .anchor .textStart
      | 'z' => return .anchor .textEnd
      | 'B' => return .anchor (.notWordEdge words)
      | '<' => return .anchor (.wordStart words)
      | '>' => return .anchor (.wordEnd words)
      | 'b' =>
        match ← edgeName? with
        | none => return .anchor (.wordEdge words)
        | some name =>
          match String.ofList name with
          | "start" => return .anchor (.wordStart words)
          | "end" => return .anchor (.wordEnd words)
          | "start-half" => return .anchor (.wordStartHalf words)
          | "end-half" => return .anchor (.wordEndHalf words)
          | _ => fail
      | _ => fail

inductive SetOperation where
  | intersection
  | difference
  | symmetricDifference

/-- The set of two, each closed under case where case does not count. -/
def SetOperation.apply (op : SetOperation) (ignoreCase : Bool) (a b : CharSet) : CharSet :=
  let a := if ignoreCase then .caseless a else a
  let b := if ignoreCase then .caseless b else b
  match op with
  | .intersection => .inter a b
  | .difference => .inter a (.compl b)
  | .symmetricDifference => .union (.inter a (.compl b)) (.inter b (.compl a))

structure Bracket where
  /-- a set and the operation that waits for its right side -/
  left : Option (CharSet × SetOperation)
  /-- the union that is being read -/
  current : CharSet

def Bracket.close (b : Bracket) (ignoreCase : Bool) : CharSet :=
  match b.left with
  | none => b.current
  | some (a, op) => op.apply ignoreCase a b.current

/-- The code points that an atom stands for as an end of a range. -/
def Atom.point? : Atom → Option Nat
  | .literal c => some c.toNat
  | .byte n => some n
  | _ => none

def Atom.member? : Atom → Option CharSet
  | .literal c => some (.single c)
  | .byte n => some (.ranges [(n, n)])
  | .set s => some s
  | _ => none

def bracketAtom : Reading Atom := do
  let c ← here
  if c = '\\' then escape
  else
    bump
    return .literal c

def bracketRange : Reading CharSet := do
  let first ← bracketAtom
  space
  let c ← here
  let after := do
    let cs := (← rest).tail
    pure (if (← flags).extended then skipSpace false cs else cs).head?
  let next ← after
  if c != '-' || next == some ']' || next == some '-' then
    match first.member? with
    | some s => return s
    | none => fail
  else
    step
    let _ ← here
    let second ← bracketAtom
    match first.point?, second.point? with
    | some a, some b => if a ≤ b then return .ranges [(a, b)] else fail
    | _, _ => fail

def namedClass? (cs : List Char) : Option (CharSet × List Char) := do
  let (negated, cs) ← match cs with
    | '[' :: ':' :: '^' :: more => some (true, more)
    | '[' :: ':' :: more => some (false, more)
    | _ => none
  let name := cs.takeWhile (· != ':')
  match cs.drop name.length with
  | ':' :: ']' :: more =>
    let s ← asciiClass? (String.ofList name)
    some (if negated then .compl s else s, more)
  | _ => none

mutual

def bracket : Nat → Reading (CharSet × Nat)
  | 0 => fail
  | fuel + 1 => do
    step
    let negated := (← here) == '^'
    if negated then step
    let dashes ← takeAll (· == '-')
    let first ← here
    let opening : CharSet := if dashes.isEmpty then .none else .single '-'
    let opening ←
      if dashes.isEmpty && first == ']' then do
        step
        pure (.single ']')
      else pure opening
    let (s, depth) ← bracketItems fuel ⟨none, opening⟩ 0
    let s := if (← flags).ignoreCase then .caseless s else s
    let s := if negated then .compl s else s
    -- without Unicode, a class may not hold a byte that is no character
    if !(← flags).unicode && (List.range 0x80).any (fun i => s.has (i + 0x80)) then fail
    return (s, depth + 1)

def bracketItems : Nat → Bracket → Nat → Reading (CharSet × Nat)
  | 0, _, _ => fail
  | fuel + 1, b, depth => do
    space
    let cs ← rest
    let ignoreCase := (← flags).ignoreCase
    let operation (op : SetOperation) : Reading (CharSet × Nat) := do
      bump
      bump
      bracketItems fuel ⟨some (b.close ignoreCase, op), .none⟩ (depth + 1)
    match cs with
    | [] => fail
    | ']' :: _ =>
      bump
      return (b.close ignoreCase, depth)
    | '&' :: '&' :: _ => operation .intersection
    | '-' :: '-' :: _ => operation .difference
    | '~' :: '~' :: _ => operation .symmetricDifference
    | '[' :: _ =>
      match namedClass? cs with
      | some (s, more) =>
        setRest more
        let s := if ignoreCase then CharSet.caseless s else s
        bracketItems fuel { b with current := .union b.current s } depth
      | none =>
        let (s, inner) ← bracket fuel
        bracketItems fuel { b with current := .union b.current s } (max depth inner)
    | _ =>
      let s ← bracketRange
      bracketItems fuel { b with current := .union b.current s } depth

end

def Atom.part? (f : Flags) : Atom → Option Part
  | .literal c =>
    let ignoring := f.ignoreCase && (f.unicode || c.toNat < 128)
    let r : Regex :=
      if ignoring && !f.unicode then .set (.ranges [(c.toLower.toNat, c.toLower.toNat), (c.toUpper.toNat, c.toUpper.toNat)])
      else Regex.char ignoring c
    some ⟨r, 0, c.utf8Size⟩
  | .byte _ => none
  | .set s =>
    if !f.unicode && (List.range 0x80).any (fun i => s.has (i + 0x80)) then none
    else some ⟨.set s, 0, s.cost⟩
  | .anchor a => some ⟨.anchor a, 0, 1⟩
  | .dot =>
    if !f.unicode then none
    else if f.dotAll then some ⟨.set .all, 0, 12⟩
    else if f.withReturn then some ⟨.set (.compl (.ranges [(10, 10), (13, 13)])), 0, 14⟩
    else some ⟨.set (.compl (.ranges [(10, 10)])), 0, 13⟩

/-- The parts of a sequence, last first; a change of flags is none. -/
abbrev Parts := List (Option Part)

def Parts.close (parts : Parts) : Part :=
  let ps := parts.reverse.filterMap id
  let deepest := ps.foldl (fun d p => max d p.depth) 0
  { regex := Regex.ofList (ps.map (·.regex))
    depth := if parts.length ≤ 1 then deepest else deepest + 1
    size := ps.foldl (fun n p => n + p.size) 1 }

/-- The last part repeated; there has to be one. -/
def Parts.repeated (parts : Parts) (min : Nat) (max : Option Nat) : Option Parts :=
  match parts with
  | some p :: more =>
    let times := match max with
      | some m => m
      | none => min + 1
    some (some ⟨.repetition p.regex min max, p.depth + 1, p.size * times + times + 1⟩ :: more)
  | _ => none

def count : Reading Nat := do
  setRest ((← rest).dropWhile Text.isBlank)
  let ds ← takeAll Char.isDigit
  setRest ((← rest).dropWhile Text.isBlank)
  space
  if ds.isEmpty then fail
  let n := ds.foldl (fun n c => 10 * n + (c.toNat - '0'.toNat)) 0
  if n < 0x100000000 then return n else fail

def bounds : Reading (Nat × Option Nat) := do
  step
  let low ← count
  let c ← here
  let (high, end?) ←
    if c = ',' then do
      step
      if (← here) = '\x7d' then pure (none, true)
      else
        let high ← count
        pure (some high, true)
    else pure (some low, true)
  if (← here) != '\x7d' || !end? then fail
  step
  if (← peek) == some '?' then bump
  match high with
  | some h => if low ≤ h then return (low, high) else fail
  | none => return (low, none)

/-- The letters of flags, each once, a dash before those to be unset. -/
def flagLetters : Nat → List Char → Bool → Flags → Reading (Flags × List Char)
  | 0, _, _, _ => fail
  | fuel + 1, seen, negated, f => do
    let c ← here
    if c = ':' ∨ c = ')' then
      if seen.head? == some '-' then fail else return (f, seen)
    else if seen.contains c then fail
    else
      bump
      space
      let on := !negated
      match c with
      | '-' => flagLetters fuel ('-' :: seen) true f
      | 'i' => flagLetters fuel (c :: seen) negated { f with ignoreCase := on }
      | 'm' => flagLetters fuel (c :: seen) negated { f with multiLine := on }
      | 's' => flagLetters fuel (c :: seen) negated { f with dotAll := on }
      | 'U' => flagLetters fuel (c :: seen) negated f
      | 'u' => flagLetters fuel (c :: seen) negated { f with unicode := on }
      | 'R' => flagLetters fuel (c :: seen) negated { f with withReturn := on }
      | 'x' => flagLetters fuel (c :: seen) negated { f with extended := on }
      | _ => fail

/-- A letter or sign of a group's name; a digit or another sign may not come first. -/
def isNameChar (first : Bool) (c : Char) : Bool :=
  c == '_' || (if first then Text.alphabetic.has c.toNat
    else c == '.' || c == '[' || c == ']' || Text.alphanumeric.has c.toNat)

def groupName : Reading Unit := do
  let name := (← rest).takeWhile (· != '>')
  let after := (← rest).drop name.length
  let s ← get
  let fits := match name with
    | [] => false
    | c :: cs => isNameChar true c && cs.all (isNameChar false)
  if !fits || after.isEmpty || s.names.contains name then fail
  modify fun s => { s with rest := after.tail, names := name :: s.names }

def depthLimit : Nat := 250

def sizeLimit : Nat := 320000

mutual

def alternatives : Nat → List Part → Reading Part
  | 0, _ => fail
  | fuel + 1, done => do
    let p ← series fuel []
    match ← peek with
    | some '|' =>
      bump
      alternatives fuel (p :: done)
    | _ =>
      match done with
      | [] => return p
      | _ =>
        let ps := p :: done
        let deepest := ps.foldl (fun d q => max d q.depth) 0
        let r := match ps.reverse.map (·.regex) with
          | [] => Regex.empty
          | r :: rs => rs.foldl Regex.choice r
        return ⟨r, deepest + 1, ps.foldl (fun n q => n + q.size) 1⟩

def series : Nat → Parts → Reading Part
  | 0, _ => fail
  | fuel + 1, parts => do
    space
    let repeated (min : Nat) (max : Option Nat) : Reading Part := do
      match parts.repeated min max with
      | some parts => series fuel parts
      | none => fail
    let atom (a : Atom) : Reading Part := do
      match a.part? (← flags) with
      | some p => series fuel (some p :: parts)
      | none => fail
    match ← peek with
    | none | some '|' | some ')' => return parts.close
    | some '(' =>
      let p ← group fuel
      series fuel (p :: parts)
    | some '[' =>
      let (s, depth) ← bracket ((← rest).length + 1)
      series fuel (some ⟨.set s, depth, s.cost⟩ :: parts)
    | some '?' =>
      bump
      if (← peek) == some '?' then bump
      repeated 0 (some 1)
    | some '*' =>
      bump
      if (← peek) == some '?' then bump
      repeated 0 none
    | some '+' =>
      bump
      if (← peek) == some '?' then bump
      repeated 1 none
    | some '\x7b' =>
      if (parts.repeated 0 none).isNone then fail
      let (min, max) ← bounds
      repeated min max
    | some '\\' => atom (← escape)
    | some '.' =>
      bump
      atom .dot
    | some '^' =>
      bump
      let f ← flags
      atom (.anchor (if f.multiLine then .lineStart f.withReturn else .textStart))
    | some '$' =>
      bump
      let f ← flags
      atom (.anchor (if f.multiLine then .lineEnd f.withReturn else .textEnd))
    | some c =>
      bump
      atom (.literal c)

/-- A group in parentheses, or a change of flags, which is no part. -/
def group : Nat → Reading (Option Part)
  | 0 => fail
  | fuel + 1 => do
    step
    let outer ← flags
    let close : Reading (Option Part) := do
      let p ← alternatives fuel []
      if (← peek) != some ')' then fail
      bump
      setFlags outer
      return some ⟨p.regex, p.depth + 1, p.size + 2⟩
    match ← rest with
    | '?' :: '=' :: _ | '?' :: '!' :: _ | '?' :: '<' :: '=' :: _ | '?' :: '<' :: '!' :: _ => fail
    | '?' :: 'P' :: '<' :: more =>
      setRest more
      groupName
      close
    | '?' :: '<' :: more =>
      setRest more
      groupName
      close
    | '?' :: more =>
      setRest more
      space
      let (f, seen) ← flagLetters (more.length + 1) [] false outer
      let mark ← here
      bump
      if mark = ')' then
        if seen.isEmpty then fail
        setFlags f
        return none
      else
        setFlags f
        close
    | _ => close

end

/-- The regular expression that a pattern stands for, the two flags being set at its start. -/
def parse? (ignoreCase dotAll : Bool) (pattern : String) : Option Regex :=
  let cs := pattern.toList
  let flags : Flags := ⟨ignoreCase, false, dotAll, false, false, true⟩
  match alternatives (2 * cs.length + 3) [] ⟨cs, flags, []⟩ with
  | some (p, s) =>
    if s.rest.isEmpty && p.depth ≤ depthLimit && p.size ≤ sizeLimit then some p.regex else none
  | none => none

end Regex

end Understudy

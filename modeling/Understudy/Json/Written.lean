import Understudy.Json.Basic
import Understudy.Number.Numeral

/-!
# JSON as it is written

`Written` is a JSON text read as far as it is JSON: members keep their order and repetitions, and the
place where the text stops being JSON is the value `fault`. Reading a record member by member then meets
the first thing that is wrong, whether it is the text or the value. `Json.parse?` is the plain reading to
a value: no fault, no number out of range, at most 127 levels.
-/

namespace Understudy

namespace Json

/-- A JSON text, read up to the first place that is not JSON. -/
inductive Written where
  | null
  | bool (b : Bool)
  /-- a number, or none when it lies beyond the largest double -/
  | number (n : Option Number)
  | string (s : String)
  | array (items : List Written)
  | object (members : List (String × Written))
  /-- the text is no JSON from here on -/
  | fault
  deriving Inhabited

namespace Written

-- the powers of the core library, whichever others are in sight
attribute [local instance (1100)] instPowNat

def skip (cs : List Char) : List Char :=
  cs.dropWhile fun c => c == ' ' || c == '\t' || c == '\n' || c == '\r'

def codeUnit? : List Char → Option (Nat × List Char)
  | a :: b :: c :: d :: rest =>
    match Text.hexDigit? a, Text.hexDigit? b, Text.hexDigit? c, Text.hexDigit? d with
    | some w, some x, some y, some z => some (((w * 16 + x) * 16 + y) * 16 + z, rest)
    | _, _, _, _ => none
  | _ => none

/-- The character of an escape that starts with the letter `u`, a pair of surrogates making one. -/
def unicodeEscape? (cs : List Char) : Option (Char × List Char) :=
  match codeUnit? cs with
  | none => none
  | some (n, rest) =>
    if 0xDC00 ≤ n ∧ n ≤ 0xDFFF then none
    else if 0xD800 ≤ n ∧ n ≤ 0xDBFF then
      match rest with
      | '\\' :: 'u' :: more =>
        match codeUnit? more with
        | none => none
        | some (low, rest) =>
          if 0xDC00 ≤ low ∧ low ≤ 0xDFFF then
            some (Char.ofNat (0x10000 + (n - 0xD800) * 0x400 + (low - 0xDC00)), rest)
          else none
      | _ => none
    else some (Char.ofNat n, rest)

/-- The rest of a string literal: its characters in reverse, and what follows the closing quote. -/
def stringBody : Nat → List Char → List Char → Option (List Char × List Char)
  | 0, _, _ => none
  | fuel + 1, done, cs =>
    match cs with
    | [] => none
    | '"' :: rest => some (done, rest)
    | '\\' :: e :: rest =>
      match e with
      | '"' => stringBody fuel ('"' :: done) rest
      | '\\' => stringBody fuel ('\\' :: done) rest
      | '/' => stringBody fuel ('/' :: done) rest
      | 'b' => stringBody fuel (Char.ofNat 8 :: done) rest
      | 'f' => stringBody fuel (Char.ofNat 12 :: done) rest
      | 'n' => stringBody fuel ('\n' :: done) rest
      | 'r' => stringBody fuel ('\r' :: done) rest
      | 't' => stringBody fuel ('\t' :: done) rest
      | 'u' =>
        match unicodeEscape? rest with
        | some (c, rest) => stringBody fuel (c :: done) rest
        | none => none
      | _ => none
    | c :: rest => if c = '\\' ∨ c.toNat < 32 then none else stringBody fuel (c :: done) rest

def string? (cs : List Char) : Option (String × List Char) :=
  (stringBody (cs.length + 1) [] cs).map fun (done, rest) => (String.ofList done.reverse, rest)

/-- The digits of a number that fit into 64 bits, and how many places are left out behind them. -/
def leadingDigits (start : Nat) : List Char → Nat × Nat
  | [] => (start, 0)
  | c :: cs =>
    let next := 10 * start + (c.toNat - '0'.toNat)
    if next < 0x10000000000000000 then leadingDigits next cs else (start, (c :: cs).length)

/-- The power of ten is put on by one multiplication or division, and by one more for each 308 places below. -/
def scale : Nat → Binary64 → Int → Option Binary64
  | 0, x, _ => some x
  | fuel + 1, x, e =>
    if e.natAbs ≤ 308 then
      let p := Binary64.ofNat (10 ^ e.natAbs)
      if 0 ≤ e then
        let y := x.mul p
        if y.isFinite then some y else none
      else some (x.div p)
    else if x.isZero then some x
    else if 0 ≤ e then none
    else scale fuel (x.div (Binary64.ofNat (10 ^ (308 : Nat)))) (e + 308)

def real? (negative : Bool) (whole fraction : List Char) (exponent : Int) : Option Binary64 :=
  let (front, cut) := leadingDigits 0 whole
  let (digits, places) : Nat × Int :=
    if cut = 0 then
      let (digits, left) := leadingDigits front fraction
      (digits, -((fraction.length - left : Nat) : Int))
    else
      let (digits, left) := leadingDigits front fraction
      (digits, (cut : Int) - ((fraction.length - left : Nat) : Int))
  let e := exponent + places
  if exponent.natAbs ≥ 0x80000000 then
    if digits ≠ 0 ∧ 0 ≤ exponent then none else some (.finite negative 0)
  else
    -- past four thousand places below, repeated division has long reached zero
    let e := max e (-4000)
    (scale 20 (Binary64.ofNat digits) e).map fun x => if negative then x.neg else x

/-- The number a numeral stands for: whole when it is written so and fits, and a double otherwise. -/
def numberOf (negative : Bool) (whole fraction : List Char) (exponent : Option Int) : Option Number :=
  let n := Numeral.ofDigits 0 whole
  if fraction.isEmpty && exponent.isNone && !negative && n < 0x10000000000000000 then some (.whole n)
  else if fraction.isEmpty && exponent.isNone && negative && 0 < n && n ≤ 0x8000000000000000 then
    some (.whole (-(n : Int)))
  else (real? negative whole fraction (exponent.getD 0)).map .real

def number? (cs : List Char) : Option (Option Number × List Char) :=
  let (negative, cs) := match cs with
    | '-' :: rest => (true, rest)
    | _ => (false, cs)
  let whole := cs.takeWhile Char.isDigit
  let rest := cs.dropWhile Char.isDigit
  if whole.isEmpty || (whole.length != 1 && whole.head? == some '0') then none
  else
    let afterPoint : Option (List Char × List Char) := match rest with
      | '.' :: more =>
        let fraction := more.takeWhile Char.isDigit
        if fraction.isEmpty then none else some (fraction, more.dropWhile Char.isDigit)
      | _ => some ([], rest)
    match afterPoint with
    | none => none
    | some (fraction, rest) =>
      match rest with
      | c :: more =>
        if c = 'e' ∨ c = 'E' then
          let (below, digits) := Numeral.sign more
          let ds := digits.takeWhile Char.isDigit
          if ds.isEmpty then none
          else
            let e : Int := Numeral.ofDigits 0 ds
            some (numberOf negative whole fraction (some (if below then -e else e)),
              digits.dropWhile Char.isDigit)
        else some (numberOf negative whole fraction none, rest)
      | [] => some (numberOf negative whole fraction none, rest)

def word (expected : String) (v : Written) (cs : List Char) : Written × List Char :=
  let w := expected.toList
  if cs.take w.length = w then (v, cs.drop w.length) else (.fault, [])

mutual

/-- One value at the front of the text, and what follows it; nothing follows a fault. -/
def value : Nat → List Char → Written × List Char
  | 0, _ => (.fault, [])
  | fuel + 1, cs =>
    match skip cs with
    | [] => (.fault, [])
    | '[' :: rest =>
      match skip rest with
      | ']' :: rest => (.array [], rest)
      | rest =>
        let (vs, rest) := items fuel rest
        (.array vs, rest)
    | '\x7b' :: rest =>
      match skip rest with
      | '\x7d' :: rest => (.object [], rest)
      | rest =>
        let (ms, rest) := members fuel rest
        (.object ms, rest)
    | '"' :: rest =>
      match string? rest with
      | some (s, rest) => (.string s, rest)
      | none => (.fault, [])
    | 'n' :: rest => word "ull" .null rest
    | 't' :: rest => word "rue" (.bool true) rest
    | 'f' :: rest => word "alse" (.bool false) rest
    | rest =>
      match number? rest with
      | some (n, rest) => (.number n, rest)
      | none => (.fault, [])

def items : Nat → List Char → List Written × List Char
  | 0, _ => ([.fault], [])
  | fuel + 1, cs =>
    match value fuel cs with
    | (.fault, _) => ([.fault], [])
    | (v, rest) =>
      match skip rest with
      | ',' :: rest =>
        let (vs, rest) := items fuel rest
        (v :: vs, rest)
      | ']' :: rest => ([v], rest)
      | _ => ([v, .fault], [])

def members : Nat → List Char → List (String × Written) × List Char
  | 0, _ => ([("", .fault)], [])
  | fuel + 1, cs =>
    match skip cs with
    | '"' :: rest =>
      match string? rest with
      | none => ([("", .fault)], [])
      | some (name, rest) =>
        match skip rest with
        | ':' :: rest =>
          match value fuel rest with
          | (.fault, _) => ([(name, .fault)], [])
          | (v, rest) =>
            match skip rest with
            | ',' :: rest =>
              let (ms, rest) := members fuel rest
              ((name, v) :: ms, rest)
            | '\x7d' :: rest => ([(name, v)], rest)
            | _ => ([(name, v), ("", .fault)], [])
        | _ => ([(name, .fault)], [])
    | _ => ([("", .fault)], [])

end

mutual

/-- The text stops being JSON somewhere inside the value. -/
def broken : Written → Bool
  | .fault => true
  | .array vs => brokenItems vs
  | .object ms => brokenMembers ms
  | _ => false

def brokenItems : List Written → Bool
  | [] => false
  | v :: vs => broken v || brokenItems vs

def brokenMembers : List (String × Written) → Bool
  | [] => false
  | (_, v) :: ms => broken v || brokenMembers ms

end

mutual

/-- The value, when no fault is in it, each number is in range and it nests at most `depth` levels. -/
def toJson? (depth : Nat) : Written → Option Json
  | .null => some .null
  | .bool b => some (.bool b)
  | .number n => n.map .number
  | .string s => some (.string s)
  | .array vs =>
    match depth with
    | 0 => none
    | d + 1 => (toItems? d vs).map .array
  | .object ms =>
    match depth with
    | 0 => none
    | d + 1 => (toMembers? d ms).map Json.ofMembers
  | .fault => none

def toItems? (depth : Nat) : List Written → Option (List Json)
  | [] => some []
  | v :: vs =>
    match toJson? depth v, toItems? depth vs with
    | some x, some xs => some (x :: xs)
    | _, _ => none

def toMembers? (depth : Nat) : List (String × Written) → Option (List (String × Json))
  | [] => some []
  | (n, v) :: ms =>
    match toJson? depth v, toMembers? depth ms with
    | some x, some xs => some ((n, x) :: xs)
    | _, _ => none

end

mutual

/-- A value as if it had been written with its members in the order it holds them. -/
def ofJson : Json → Written
  | .null => .null
  | .bool b => .bool b
  | .number n => .number (some n)
  | .string s => .string s
  | .array vs => .array (ofItems vs)
  | .object ms => .object (ofMembers ms)

def ofItems : List Json → List Written
  | [] => []
  | v :: vs => ofJson v :: ofItems vs

def ofMembers : List (String × Json) → List (String × Written)
  | [] => []
  | (n, v) :: ms => (n, ofJson v) :: ofMembers ms

end

end Written

/-- A whole text: the value at its front, and whether anything but blanks follows it. -/
structure Document where
  value : Written
  closed : Bool

def Document.ofText (text : String) : Document :=
  let cs := text.toList
  let (v, rest) := Written.value (cs.length + 1) cs
  { value := v, closed := (Written.skip rest).isEmpty }

def maxDepth : Nat := 127

def parse? (text : String) : Option Json :=
  let doc := Document.ofText text
  if doc.closed then doc.value.toJson? maxDepth else none

end Json

end Understudy

import Understudy.Time.Calendar
import Understudy.Number.Numeral
import Understudy.Text.Blank
import Understudy.Text.Cut

/-!
# Instants

An `Instant` is a time of day on a date of the universal calendar. It is written in the form
`2024-01-02T03:04:05.120Z` and read in that form and looser ones: single digits, blanks between the parts, and any
offset from universal time.
-/

namespace Understudy

/-- A point in time. A leap second is kept as the second before with a thousand million more nanoseconds. -/
structure Instant where
  /-- the seconds since the first of January 1970 -/
  seconds : Int
  nanoseconds : Nat
  deriving DecidableEq, Inhabited

structure Duration where
  nanoseconds : Int
  deriving DecidableEq

def Duration.ofHours (hours : Int) : Duration := ⟨hours * 3600000000000⟩

namespace Instant

-- the powers of the core library, whichever others are in sight
attribute [local instance (1100)] instPowNat

def before (a b : Instant) : Bool :=
  a.seconds < b.seconds || (a.seconds == b.seconds && a.nanoseconds < b.nanoseconds)

def hasYear (year : Int) : Bool := -262143 ≤ year && year ≤ 262142

def inCalendar (t : Instant) : Bool := hasYear (Date.ofDays (t.seconds / 86400)).year

def minus (t : Instant) (d : Duration) : Instant :=
  let n := t.seconds * 1000000000 + t.nanoseconds - d.nanoseconds
  { seconds := n / 1000000000, nanoseconds := (n % 1000000000).toNat }

/-- The instant so much earlier, when it lies in the years of the calendar. -/
def minus? (t : Instant) (d : Duration) : Option Instant :=
  if (t.minus d).inCalendar then some (t.minus d) else none

def padded (width n : Nat) : String :=
  let ds := Nat.toDigits 10 n
  String.ofList (List.replicate (width - ds.length) '0' ++ ds)

/-- The digits of a second's fraction: none, or three, six or nine. -/
def fraction (nanoseconds : Nat) : String :=
  if nanoseconds = 0 then ""
  else if nanoseconds % 1000000 = 0 then "." ++ padded 3 (nanoseconds / 1000000)
  else if nanoseconds % 1000 = 0 then "." ++ padded 6 (nanoseconds / 1000)
  else "." ++ padded 9 nanoseconds

/-- A year of four digits, or with a sign and more. -/
def yearText (year : Int) : String :=
  if 0 ≤ year ∧ year ≤ 9999 then padded 4 year.toNat
  else (if year < 0 then "-" else "+") ++ padded 4 year.natAbs

def text (t : Instant) : String :=
  let d := Date.ofDays (t.seconds / 86400)
  let s := (t.seconds % 86400).toNat
  let second := s % 60 + t.nanoseconds / 1000000000
  s!"{yearText d.year}-{padded 2 d.month}-{padded 2 d.day}T{padded 2 (s / 3600)}:" ++
    s!"{padded 2 (s / 60 % 60)}:{padded 2 second}{fraction (t.nanoseconds % 1000000000)}Z"

def skip (cs : List Char) : List Char := Text.trimLeft cs

def number (width : Nat) (cs : List Char) : Option (Nat × List Char) :=
  let cs := skip cs
  let ds := (cs.take width).takeWhile Char.isDigit
  if ds.isEmpty then none else some (Numeral.ofDigits 0 ds, cs.drop ds.length)

/-- A year: four digits, or a sign and any number of digits. -/
def year (cs : List Char) : Option (Int × List Char) :=
  match skip cs with
  | '-' :: rest =>
    if rest.head?.any Char.isDigit then
      (number rest.length rest).map fun (n, rest) => (-(n : Int), rest)
    else none
  | '+' :: rest =>
    if rest.head?.any Char.isDigit then
      (number rest.length rest).map fun (n, rest) => ((n : Int), rest)
    else none
  | cs => (number 4 cs).map fun (n, rest) => ((n : Int), rest)

def sign (c : Char) (cs : List Char) : Option (List Char) :=
  match skip cs with
  | d :: rest => if d = c then some rest else none
  | [] => none

/-- The fraction of a second in nanoseconds; digits past the ninth are left out. -/
def fractionPart : List Char → Option (Nat × List Char)
  | '.' :: rest =>
    let ds := rest.takeWhile Char.isDigit
    if ds.isEmpty then none
    else
      let kept := ds.take 9
      some (Numeral.ofDigits 0 kept * 10 ^ (9 - kept.length), rest.drop ds.length)
  | cs => some (0, cs)

def twoDigits : List Char → Option (Nat × List Char)
  | a :: b :: rest =>
    match Numeral.digit? a, Numeral.digit? b with
    | some x, some y => some (10 * x + y, rest)
    | _, _ => none
  | _ => none

/-- An offset from universal time in seconds: `Z`, `UTC`, or hours and minutes with a sign. -/
def offset (cs : List Char) : Option (Int × List Char) :=
  if Text.lower (String.ofList (cs.take 3)) == "utc" then some (0, cs.drop 3)
  else
    match cs with
    | [] => none
    | c :: rest =>
      if c = 'Z' ∨ c = 'z' then some (0, rest)
      else if c = '+' ∨ c = '-' ∨ c.toNat = 0x2212 then do
        let (hours, rest) ← twoDigits rest
        let rest := rest.dropWhile fun c => c == ':' || Text.isBlank c
        let (minutes, rest) ← twoDigits rest
        if 60 ≤ minutes then none
        else
          let seconds : Int := hours * 3600 + minutes * 60
          if 86400 ≤ seconds then none
          else some (if c = '+' then seconds else -seconds, rest)
      else none

def parse? (s : String) : Option Instant := do
  let (year, rest) ← year s.toList
  let rest ← sign '-' rest
  let (month, rest) ← number 2 rest
  let rest ← sign '-' rest
  let (day, rest) ← number 2 rest
  let rest ← match rest with
    | c :: rest => if c = 'T' ∨ c = 't' ∨ c = ' ' then some rest else none
    | [] => none
  let (hour, rest) ← number 2 rest
  let rest ← sign ':' rest
  let (minute, rest) ← number 2 rest
  let rest ← sign ':' rest
  let (second, rest) ← number 2 rest
  let (nanoseconds, rest) ← fractionPart rest
  let (offset, rest) ← offset (skip rest)
  let date : Date := ⟨year, month, day⟩
  if !(skip rest).isEmpty || !date.isValid || !hasYear year
      || 24 ≤ hour || 60 ≤ minute || 61 ≤ second then none
  else
    let leap := second = 60
    let second := if leap then 59 else second
    let local_ : Int := date.toDays * 86400 + (hour * 3600 + minute * 60 + second : Nat)
    some
      { seconds := local_ - offset
        nanoseconds := if leap then nanoseconds + 1000000000 else nanoseconds }

end Instant

end Understudy

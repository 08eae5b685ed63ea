import Understudy.Number.Numeral
import Understudy.Text.Cut

/-!
# IP addresses

An address is a word of 32 or of 128 bits. Texts follow the usual rules: four decimal numbers without leading
zeros, or eight groups of base sixteen of which one run of zeros is left out, the longest and the first of those.
-/

namespace Understudy

inductive Address where
  | v4 (bits : BitVec 32)
  | v6 (bits : BitVec 128)
  deriving DecidableEq, Inhabited

namespace Address

-- the powers of the core library, whichever others are in sight
attribute [local instance (1100)] instPowNat

def octet? (cs : List Char) : Option Nat :=
  if cs.length ≤ 3 ∧ (cs.length ≤ 1 ∨ cs.head? ≠ some '0') then
    (Numeral.nat? cs).filter (· < 256)
  else none

def bits4? (cs : List Char) : Option (BitVec 32) :=
  match (Text.cutAtChar '.' cs).map octet? with
  | [some a, some b, some c, some d] =>
    some (BitVec.ofNat 32 (((a * 256 + b) * 256 + c) * 256 + d))
  | _ => none

def group? (cs : List Char) : Option Nat :=
  if 1 ≤ cs.length ∧ cs.length ≤ 4 then
    (cs.mapM Text.hexDigit?).map fun ds => ds.foldl (fun n d => 16 * n + d) 0
  else none

/-- Groups with colons between them; the last two may be written as an address of the older kind. -/
def groups? : List (List Char) → Option (List Nat)
  | [] => some []
  | [last] =>
    match group? last with
    | some g => some [g]
    | none => (bits4? last).map fun b => [b.toNat / 65536, b.toNat % 65536]
  | part :: parts =>
    match group? part, groups? parts with
    | some g, some gs => some (g :: gs)
    | _, _ => none

/-- The groups on one side of the gap, where nothing at all is no group. -/
def side? (cs : List Char) : Option (List Nat) :=
  if cs.isEmpty then some [] else groups? (Text.cutAtChar ':' cs)

def ofGroups (gs : List Nat) : BitVec 128 :=
  BitVec.ofNat 128 (gs.foldl (fun n g => 65536 * n + g) 0)

/-- The bits of groups with at most one gap, which stands for at least one group of zero. -/
def bits6? (cs : List Char) : Option (BitVec 128) :=
  match Text.cutOnce [':', ':'] cs with
  | none => (groups? (Text.cutAtChar ':' cs)).bind fun gs =>
    if gs.length = 8 then some (ofGroups gs) else none
  | some (front, back) =>
    -- an address of the older kind may only stand at the very end
    if front.contains '.' then none
    else match side? front, side? back with
      | some gs, some hs =>
        if gs.length + hs.length < 8 then
          some (ofGroups (gs ++ List.replicate (8 - gs.length - hs.length) 0 ++ hs))
        else none
      | _, _ => none

def parse? (s : String) : Option Address :=
  let cs := s.toList
  match bits4? cs with
  | some b => some (.v4 b)
  | none => (bits6? cs).map .v6

def group (bits : BitVec 128) (n : Nat) : Nat := (bits.toNat / 65536 ^ (7 - n)) % 65536

def groups (bits : BitVec 128) : List Nat := (List.range 8).map (group bits)

/-- The place and length of the longest run of zeros, the first of equal ones. -/
def longestRun : Nat → Nat → Nat × Nat → List Nat → Nat × Nat
  | _, _, best, [] => best
  | i, run, best, g :: gs =>
    if g = 0 then
      let run := run + 1
      longestRun (i + 1) run (if best.2 < run then (i + 1 - run, run) else best) gs
    else longestRun (i + 1) 0 best gs

def joinGroups (gs : List Nat) : List Char :=
  [':'].intercalate (gs.map Text.hexDigits)

def text4 (bits : BitVec 32) : String :=
  let n := bits.toNat
  s!"{n / 16777216}.{n / 65536 % 256}.{n / 256 % 256}.{n % 256}"

/-- The text of groups with the longest run of at least two zeros left out. -/
def text6 (bits : BitVec 128) : String :=
  let gs := groups bits
  let (start, run) := longestRun 0 0 (0, 0) gs
  if 1 < run then
    String.ofList (joinGroups (gs.take start) ++ ':' :: ':' :: joinGroups (gs.drop (start + run)))
  else String.ofList (joinGroups gs)

/-- The address of the older kind that a newer one stands for, its first ninety-six bits being `0:0:0:0:0:ffff`. -/
def mapped? (bits : BitVec 128) : Option (BitVec 32) :=
  if bits.toNat / 2 ^ (32 : Nat) = 0xFFFF then some (BitVec.ofNat 32 bits.toNat) else none

def text : Address → String
  | .v4 b => text4 b
  | .v6 b =>
    match mapped? b with
    | some b => "::ffff:" ++ text4 b
    | none => text6 b

instance : ToString Address := ⟨text⟩

def canonical : Address → Address
  | .v4 b => .v4 b
  | .v6 b =>
    match mapped? b with
    | some b => .v4 b
    | none => .v6 b

end Address

end Understudy

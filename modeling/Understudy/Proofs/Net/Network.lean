import Understudy.Proofs.Net.AddressText

/-!
# What a network contains

`Network.Names` tells which texts name a network: an address, alone or with a slash and a number behind it. A network
that was read contains the addresses that agree with its own in as many leading bits as it counts, where an address of
the newer kind that stands for one of the older kind is taken for the one it stands for.
-/

namespace Understudy

namespace Address

/-- The address of the newer kind that stands for one of the older: `::ffff:` in front of its bits. -/
def mapping (low : BitVec 32) : BitVec 128 := (0xFFFF : BitVec 96) ++ low

theorem toNat_mapping (low : BitVec 32) : (mapping low).toNat = 0xFFFF * 4294967296 + low.toNat := by
  have hlow : low.toNat < 2 ^ 32 := low.isLt
  rw [mapping, BitVec.toNat_append, ← Nat.shiftLeft_add_eq_or_of_lt hlow, Nat.shiftLeft_eq]
  rfl

theorem mapped?_eq_some {bits : BitVec 128} {low : BitVec 32} :
    mapped? bits = some low ↔ bits = mapping low := by
  have hlow : low.toNat < 4294967296 := low.isLt
  rw [← BitVec.toNat_inj, toNat_mapping, mapped?, Option.ite_none_right_eq_some, Option.some_inj,
    ← BitVec.toNat_inj, BitVec.toNat_ofNat]
  have hpow : (2 ^ 32 : Nat) = 4294967296 := rfl
  rw [hpow]
  omega

theorem canonical_eq_v4 {a : Address} {low : BitVec 32} :
    a.canonical = .v4 low ↔ a = .v4 low ∨ a = .v6 (mapping low) := by
  cases a with
  | v4 bits => simp [canonical]
  | v6 bits =>
      rw [canonical]
      cases hmapped : mapped? bits with
      | none =>
          have hne : bits ≠ mapping low := fun h => by
            rw [mapped?_eq_some.2 h] at hmapped
            exact nomatch hmapped
          simp [hne]
      | some other =>
          obtain rfl := mapped?_eq_some.1 hmapped
          have hinj : mapping other = mapping low ↔ other = low := by
            rw [← mapped?_eq_some, hmapped, Option.some_inj]
          simp [hinj]

theorem canonical_eq_v6 {a : Address} {bits : BitVec 128} :
    a.canonical = .v6 bits ↔ a = .v6 bits ∧ ∀ low, bits ≠ mapping low := by
  cases a with
  | v4 bits => simp [canonical]
  | v6 own =>
      rw [canonical]
      cases hmapped : mapped? own with
      | none =>
          have hne : ∀ low, own ≠ mapping low := fun low h => by
            rw [mapped?_eq_some.2 h] at hmapped
            exact nomatch hmapped
          constructor
          · rintro ⟨rfl⟩
            exact ⟨rfl, hne⟩
          · exact fun h => h.1
      | some low =>
          obtain rfl := mapped?_eq_some.1 hmapped
          constructor
          · exact fun h => nomatch h
          · rintro ⟨⟨rfl⟩, hne⟩
            exact absurd rfl (hne low)

end Address

namespace Network

open Text Traversal

variable {s : String} {net : Network} {width length : Nat}

/-! ## Leading bits -/

theorem maskShift?_lt {places : Nat} (h : length ≤ width) (hshift : maskShift? width length = some places) :
    places < width ∧ places + length = width := by
  unfold maskShift? at hshift
  split at hshift
  · exact nomatch hshift
  · obtain rfl := Option.some.inj hshift
    omega

theorem getMsbD_mask (h : length ≤ width) (i : Nat) :
    (mask width length).getMsbD i = decide (i < length) := by
  unfold mask
  cases hshift : maskShift? width length with
  | none =>
      have hzero : length = 0 := by
        unfold maskShift? at hshift
        split at hshift
        · assumption
        · exact nomatch hshift
      simp [hzero]
  | some places =>
      have hplaces := maskShift?_lt h hshift
      simp only [BitVec.getMsbD_shiftLeft, BitVec.getMsbD_allOnes, decide_eq_decide]
      omega

/-- Words are equal under a mask exactly when they agree in the first bits. -/
theorem and_mask_eq_iff (h : length ≤ width) {x y : BitVec width} :
    x &&& mask width length = y &&& mask width length ↔
      ∀ i < length, x.getMsbD i = y.getMsbD i := by
  constructor
  · intro heq i hi
    have hbit := congrArg (·.getMsbD i) heq
    simpa only [BitVec.getMsbD_and, getMsbD_mask h, hi, decide_true, Bool.and_true] using hbit
  · intro hagree
    refine BitVec.eq_of_getMsbD_eq fun i _ => ?_
    rw [BitVec.getMsbD_and, BitVec.getMsbD_and, getMsbD_mask h]
    by_cases hi : i < length
    · rw [hagree i hi]
    · simp [hi]

theorem contains_v4_iff {bits : BitVec 32} (h : length ≤ 32) (b : Address) :
    contains ⟨.v4 bits, length⟩ b = true ↔
      ∃ c, b.canonical = .v4 c ∧ ∀ i < length, c.getMsbD i = bits.getMsbD i := by
  unfold contains
  cases b.canonical with
  | v4 c =>
      simp only [Address.v4.injEq, exists_eq_left']
      rw [beq_iff_eq, eq_comm, and_mask_eq_iff h]
  | v6 c => simp

theorem contains_v6_iff {bits : BitVec 128} (h : length ≤ 128) (b : Address) :
    contains ⟨.v6 bits, length⟩ b = true ↔
      ∃ c, b.canonical = .v6 c ∧ ∀ i < length, c.getMsbD i = bits.getMsbD i := by
  unfold contains
  cases b.canonical with
  | v4 c => simp
  | v6 c =>
      simp only [Address.v6.injEq, exists_eq_left']
      rw [beq_iff_eq, eq_comm, and_mask_eq_iff h]

/-! ## Texts of networks -/

/-- The text names the network of an address and a number of bits; blanks around it do not matter. -/
inductive Names (s : String) : Address → Nat → Prop where
  | withLength {front back : String} {a : Address} {length : Nat} (hfront : '/' ∉ front.toList)
      (hparts : trim s = front ++ "/" ++ back) (haddress : Address.parse? front = some a)
      (hlength : Numeral.atMost? 255 back = some length) : Names s a length
  | alone {a : Address} {length : Nat} (hslash : '/' ∉ (trim s).toList)
      (haddress : Address.parse? (trim s) = some a) (hlength : length = Network.width a) :
      Names s a length

theorem located_eq_ok {parts : String × Option Nat} :
    located parts = .ok net ↔
      Address.parse? parts.1 = some net.address ∧
        parts.2.getD (Network.width net.address) = net.length ∧
        net.length ≤ Network.width net.address := by
  obtain ⟨address, length⟩ := net
  unfold located
  cases Address.parse? parts.1 with
  | none => simp [throw_ne_ok]
  | some a =>
      simp only [Option.some_inj]
      split
      · rename_i hlt
        simp only [throw_ne_ok, false_iff, not_and]
        rintro rfl rfl
        exact Nat.not_le.2 hlt
      · rename_i hle
        rw [pure_eq_ok, mk.injEq]
        constructor
        · rintro ⟨rfl, rfl⟩
          exact ⟨rfl, rfl, Nat.not_lt.1 hle⟩
        · rintro ⟨rfl, rfl, -⟩
          exact ⟨rfl, rfl⟩

/-- The address and the number of a text with a slash, or a text without one as it is. -/
def parts (s : String) : Except PatternFault (String × Option Nat) :=
  match splitOnce "/" s with
  | some (front, back) =>
    match Numeral.atMost? 255 back with
    | some n => pure (front, some n)
    | none => throw .lengthNoNumber
  | none => pure (s, none)

theorem parse_eq_bind (s : String) : parse s = parts (trim s) >>= located := by
  unfold parse
  simp only
  split
  · rename_i front back hcut
    split
    · rename_i n hnumeral
      have hparts : parts (trim s) = pure (front, some n) := by
        simp only [parts, hcut, hnumeral]
      rw [hparts]
      rfl
    · rename_i hnumeral
      have hparts : parts (trim s) = throw .lengthNoNumber := by
        simp only [parts, hcut, hnumeral]
      rw [hparts]
      rfl
  · rename_i hcut
    have hparts : parts (trim s) = pure (trim s, none) := by
      simp only [parts, hcut]
    rw [hparts]
    rfl

/-- A text reads as a network exactly when it names it and the address has as many bits as count. -/
theorem parse_eq_ok :
    parse s = .ok net ↔
      Names s net.address net.length ∧ net.length ≤ Network.width net.address := by
  rw [parse_eq_bind, bind_eq_ok]
  constructor
  · rintro ⟨ps, hps, hlocated⟩
    obtain ⟨haddress, hlength, hle⟩ := located_eq_ok.1 hlocated
    refine ⟨?_, hle⟩
    unfold parts at hps
    split at hps
    · rename_i front back hcut
      obtain ⟨hfront, hparts⟩ := (splitOnce_eq_some rfl).1 hcut
      split at hps
      · rename_i n hnumeral
        obtain rfl := pure_eq_ok.1 hps
        obtain rfl : n = net.length := hlength
        exact .withLength hfront hparts haddress hnumeral
      · exact absurd hps throw_ne_ok
    · rename_i hcut
      obtain rfl := pure_eq_ok.1 hps
      exact .alone ((splitOnce_eq_none rfl).1 hcut) haddress hlength.symm
  · rintro ⟨hnames, hle⟩
    obtain ⟨address, length⟩ := net
    cases hnames with
    | @withLength front back _ _ hfront hparts haddress hlength =>
        have hcut := (splitOnce_eq_some rfl).2 ⟨hfront, hparts⟩
        refine ⟨(front, some length), ?_, located_eq_ok.2 ⟨haddress, rfl, hle⟩⟩
        simp only [parts, hcut, hlength]
        rfl
    | alone hslash haddress hlength =>
        have hcut : splitOnce "/" (trim s) = none := (splitOnce_eq_none rfl).2 hslash
        refine ⟨(trim s, none), ?_, located_eq_ok.2 ⟨haddress, hlength.symm, hle⟩⟩
        simp only [parts, hcut]
        rfl

/-- What a network has that was read from a text. -/
structure Denotes (s : String) (net : Network) : Prop where
  names : Names s net.address net.length
  length_le : net.length ≤ Network.width net.address
  /-- a mask is never shifted by a whole word -/
  shift : ∀ places, maskShift? (Network.width net.address) net.length = some places →
    places < Network.width net.address ∧ places + net.length = Network.width net.address
  v4 : ∀ bits, net.address = .v4 bits → ∀ b, net.contains b = true ↔
    ∃ c, (b = .v4 c ∨ b = .v6 (Address.mapping c)) ∧ ∀ i < net.length, c.getMsbD i = bits.getMsbD i
  v6 : ∀ bits, net.address = .v6 bits → (∀ low, bits ≠ Address.mapping low) →
    ∀ b, net.contains b = true ↔
      ∃ c, (b = .v6 c ∧ ∀ low, c ≠ Address.mapping low) ∧
        ∀ i < net.length, c.getMsbD i = bits.getMsbD i
  own : (∀ low, net.address ≠ .v6 (Address.mapping low)) → net.contains net.address = true

/--
A network that was read from a text contains the addresses that agree with the written one in the bits that count, and
so the written one itself.
-/
theorem denotes_of_parse (h : parse s = .ok net) : Denotes s net := by
  obtain ⟨hnames, hle⟩ := parse_eq_ok.1 h
  have hv4 : ∀ bits, net.address = .v4 bits → ∀ b, net.contains b = true ↔
      ∃ c, (b = .v4 c ∨ b = .v6 (Address.mapping c)) ∧
        ∀ i < net.length, c.getMsbD i = bits.getMsbD i := by
    intro bits hbits b
    obtain ⟨address, length⟩ := net
    obtain rfl : address = .v4 bits := hbits
    simp only [contains_v4_iff hle, Address.canonical_eq_v4]
  have hv6 : ∀ bits, net.address = .v6 bits → ∀ b, net.contains b = true ↔
      ∃ c, (b = .v6 c ∧ ∀ low, c ≠ Address.mapping low) ∧
        ∀ i < net.length, c.getMsbD i = bits.getMsbD i := by
    intro bits hbits b
    obtain ⟨address, length⟩ := net
    obtain rfl : address = .v6 bits := hbits
    simp only [contains_v6_iff hle, Address.canonical_eq_v6]
  refine ⟨hnames, hle, fun places => maskShift?_lt hle, hv4, fun bits hbits _ => hv6 bits hbits, ?_⟩
  intro hmapping
  cases haddress : net.address with
  | v4 bits => exact (hv4 bits haddress _).2 ⟨bits, Or.inl rfl, fun _ _ => rfl⟩
  | v6 bits =>
      rw [haddress] at hmapping
      exact (hv6 bits haddress _).2
        ⟨bits, ⟨rfl, fun low hlow => hmapping low (by rw [hlow])⟩, fun _ _ => rfl⟩

theorem localNetwork_denotes :
    parse "192.168.1.0/24" = .ok ⟨.v4 0xC0A80100, 24⟩ ∧
      contains ⟨.v4 0xC0A80100, 24⟩ (.v6 (Address.mapping 0xC0A8014D)) = true ∧
      contains ⟨.v4 0xC0A80100, 24⟩ (.v4 0xC0A80100) = true := by
  have h : parse "192.168.1.0/24" = .ok ⟨.v4 0xC0A80100, 24⟩ := by decide +kernel
  have hdenotes := denotes_of_parse h
  refine ⟨h, (hdenotes.v4 _ rfl _).2 ⟨0xC0A8014D, Or.inr rfl, ?_⟩, hdenotes.own (by simp)⟩
  decide

/--
The network of all addresses of the newer kind does not contain one that stands for an address of the older kind,
although there is no bit in which they could differ.
-/
theorem allNewer_without_mapping :
    parse "::/0" = .ok ⟨.v6 0, 0⟩ ∧
      Address.parse? "::ffff:10.0.0.1" = some (.v6 (Address.mapping 0x0A000001)) ∧
      (∀ i < 0, (Address.mapping 0x0A000001).getMsbD i = (0 : BitVec 128).getMsbD i) ∧
      contains ⟨.v6 0, 0⟩ (.v6 (Address.mapping 0x0A000001)) = false := by
  decide +kernel

end Network

end Understudy

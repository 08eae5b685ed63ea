import Understudy.Net.Network
import Understudy.Proofs.Error.Traversal
import Understudy.Proofs.Text.Blank
import Understudy.Proofs.Text.Cut

/-!
# Addresses and networks are read back

The text of an address reads as this address: four decimal numbers, eight groups with the longest run of zeros left
out, or an address of the older kind behind a fixed prefix. `longestRun_spec` says what a run is, so that the gap is
filled with as many zeros as were left out. The text of a network adds a slash and the length.
-/

namespace Understudy

namespace Text

theorem hexDigit?_digitChar {d : Nat} (h : d < 16) : hexDigit? d.digitChar = some d := by
  have hsmall : ∀ d : Fin 16, hexDigit? (Nat.digitChar d) = some d.val := by decide
  exact hsmall ⟨d, h⟩

theorem hexDigits_eq (n : Nat) :
    hexDigits n = if n < 16 then [n.digitChar] else hexDigits (n / 16) ++ [(n % 16).digitChar] :=
  Nat.toDigits_eq_if (by decide)

theorem mapM_hexDigits (n : Nat) :
    ((hexDigits n).mapM hexDigit?).map (fun ds => ds.foldl (fun n d => 16 * n + d) 0) = some n := by
  induction n using Nat.strongRecOn with
  | _ n ih =>
      rw [hexDigits_eq]
      split
      · rename_i h
        simp [hexDigit?_digitChar h]
      · have hfront := ih (n / 16) (by omega)
        obtain ⟨ds, hds, hvalue⟩ := Option.map_eq_some_iff.1 hfront
        have hlast := hexDigit?_digitChar (Nat.mod_lt n (by decide : 0 < 16))
        rw [List.mapM_append, hds]
        simp [hlast, hvalue]
        omega

theorem hexDigit?_of_mem_hexDigits {n : Nat} {c : Char} (h : c ∈ hexDigits n) :
    (hexDigit? c).isSome = true := by
  induction n using Nat.strongRecOn with
  | _ n ih =>
      rw [hexDigits_eq] at h
      split at h
      · rename_i hlt
        rw [List.mem_singleton.1 h, hexDigit?_digitChar hlt]
        rfl
      · rcases List.mem_append.1 h with h | h
        · exact ih (n / 16) (by omega) h
        · rw [List.mem_singleton.1 h, hexDigit?_digitChar (Nat.mod_lt n (by decide))]
          rfl

theorem notMem_hexDigits {c : Char} (hc : hexDigit? c = none) (n : Nat) : c ∉ hexDigits n := by
  intro h
  have hsome := hexDigit?_of_mem_hexDigits h
  rw [hc] at hsome
  exact Bool.false_ne_true hsome

theorem hexDigits_ne_nil (n : Nat) : hexDigits n ≠ [] := Nat.toDigits_ne_nil

theorem notMem_toDigits {c : Char} (hc : c.isDigit = false) (n : Nat) : c ∉ Nat.toDigits 10 n := by
  intro h
  rw [Nat.isDigit_of_mem_toDigits (by decide) (by decide) h] at hc
  exact Bool.false_ne_true hc.symm

end Text

namespace Address

-- the powers of the core library, whichever others are in sight
attribute [local instance (1100)] instPowNat

open Text

theorem octet?_toDigits {n : Nat} (h : n < 256) : octet? (Nat.toDigits 10 n) = some n := by
  have hsmall : ∀ n : Fin 256, octet? (Nat.toDigits 10 n) = some n.val := by decide +kernel
  exact hsmall ⟨n, h⟩

theorem toList_text4 (bits : BitVec 32) :
    (text4 bits).toList =
      Nat.toDigits 10 (bits.toNat / 16777216) ++ '.' ::
        (Nat.toDigits 10 (bits.toNat / 65536 % 256) ++ '.' ::
          (Nat.toDigits 10 (bits.toNat / 256 % 256) ++ '.' ::
            Nat.toDigits 10 (bits.toNat % 256))) := by
  simp [text4, String.toList_append]
  rfl

theorem cutAtChar_text4 (bits : BitVec 32) :
    cutAtChar '.' (text4 bits).toList =
      [Nat.toDigits 10 (bits.toNat / 16777216), Nat.toDigits 10 (bits.toNat / 65536 % 256),
        Nat.toDigits 10 (bits.toNat / 256 % 256), Nat.toDigits 10 (bits.toNat % 256)] := by
  rw [toList_text4, cutAtChar_append (notMem_toDigits (by decide) _),
    cutAtChar_append (notMem_toDigits (by decide) _),
    cutAtChar_append (notMem_toDigits (by decide) _),
    cutAtChar_of_notMem (notMem_toDigits (by decide) _)]

theorem bits4?_text4 (bits : BitVec 32) : bits4? (text4 bits).toList = some bits := by
  have hlt := bits.isLt
  have hvalue : ((bits.toNat / 16777216 * 256 + bits.toNat / 65536 % 256) * 256 +
      bits.toNat / 256 % 256) * 256 + bits.toNat % 256 = bits.toNat := by
    omega
  rw [bits4?, cutAtChar_text4]
  simp only [List.map_cons, List.map_nil]
  rw [octet?_toDigits (by omega), octet?_toDigits (by omega), octet?_toDigits (by omega),
    octet?_toDigits (by omega)]
  simp only [hvalue, BitVec.ofNat_toNat, BitVec.setWidth_eq]

theorem bits4?_of_notMem {cs : List Char} (h : '.' ∉ cs) : bits4? cs = none := by
  rw [bits4?, cutAtChar_of_notMem h]
  simp

theorem group?_hexDigits {g : Nat} (h : g < 65536) : group? (hexDigits g) = some g := by
  have hlength : 1 ≤ (hexDigits g).length ∧ (hexDigits g).length ≤ 4 :=
    ⟨Nat.length_toDigits_pos, (Nat.length_toDigits_le_iff (by decide) (by decide)).2 h⟩
  rw [group?, if_pos hlength, mapM_hexDigits]

theorem groups?_hexDigits {gs : List Nat} (h : ∀ g ∈ gs, g < 65536) :
    groups? (gs.map hexDigits) = some gs := by
  induction gs with
  | nil => rfl
  | cons g gs ih =>
      rw [List.forall_mem_cons] at h
      cases gs with
      | nil => simp [groups?, group?_hexDigits h.1]
      | cons next gs =>
          have hrest := ih h.2
          rw [List.map_cons] at hrest ⊢
          rw [List.map_cons, groups?, group?_hexDigits h.1, hrest]
          simp

theorem notMem_joinGroups {c : Char} (hcolon : c ≠ ':') (hc : hexDigit? c = none) (gs : List Nat) :
    c ∉ joinGroups gs := by
  unfold joinGroups
  induction gs with
  | nil => simp [List.intercalate]
  | cons g gs ih =>
      cases gs with
      | nil => simpa [List.intercalate] using notMem_hexDigits hc g
      | cons next gs =>
          rw [List.map_cons] at ih ⊢
          rw [List.map_cons, intercalate_cons_cons, List.mem_append, List.mem_cons, not_or, not_or]
          exact ⟨notMem_hexDigits hc g, hcolon, ih⟩

theorem parts_joinGroups (gs : List Nat) :
    ∀ part ∈ gs.map hexDigits, ':' ∉ part ∧ part ≠ [] := by
  intro part hpart
  obtain ⟨g, -, rfl⟩ := List.mem_map.1 hpart
  exact ⟨notMem_hexDigits (by decide) g, hexDigits_ne_nil g⟩

theorem cutAtChar_joinGroups {gs : List Nat} (hne : gs ≠ []) :
    cutAtChar ':' (joinGroups gs) = gs.map hexDigits :=
  cutAtChar_intercalate (by simpa using hne) fun part h => (parts_joinGroups gs part h).1

theorem side?_joinGroups {gs : List Nat} (h : ∀ g ∈ gs, g < 65536) :
    side? (joinGroups gs) = some gs := by
  unfold side?
  cases gs with
  | nil => rfl
  | cons g gs =>
      have hne : joinGroups (g :: gs) ≠ [] := by
        intro hnil
        have hhead : (joinGroups (g :: gs)).head? = (hexDigits g).head? :=
          head?_intercalate (hexDigits_ne_nil g) _
        rw [hnil, List.head?_nil, eq_comm, List.head?_eq_none_iff] at hhead
        exact hexDigits_ne_nil g hhead
      rw [if_neg (by simpa using hne), cutAtChar_joinGroups (by simp), groups?_hexDigits h]

/-- A place and a length, at which a list has as many zeros. -/
def IsRun (gs : List Nat) (place : Nat × Nat) : Prop :=
  ∃ front back, gs = front ++ List.replicate place.2 0 ++ back ∧ front.length = place.1

theorem longestRun_isRun {front rest : List Nat} {run : Nat} {best : Nat × Nat}
    (hbest : IsRun (front ++ List.replicate run 0 ++ rest) best) :
    IsRun (front ++ List.replicate run 0 ++ rest)
      (longestRun (front.length + run) run best rest) := by
  induction rest generalizing front run best with
  | nil => exact hbest
  | cons g rest ih =>
      rw [longestRun]
      split
      · rename_i hzero
        have hwhole : front ++ List.replicate run 0 ++ g :: rest =
            front ++ List.replicate (run + 1) 0 ++ rest := by
          rw [hzero, List.replicate_succ']
          simp
        rw [hwhole] at hbest ⊢
        apply ih
        split
        · exact ⟨front, rest, rfl, by omega⟩
        · exact hbest
      · have hwhole : front ++ List.replicate run 0 ++ g :: rest =
            (front ++ List.replicate run 0 ++ [g]) ++ List.replicate 0 0 ++ rest := by
          simp
        have hlength : front.length + run + 1 =
            (front ++ List.replicate run 0 ++ [g]).length + 0 := by
          simp only [List.length_append, List.length_replicate, List.length_singleton]
        rw [hwhole] at hbest ⊢
        rw [hlength]
        exact ih hbest

/-- The groups are those before the longest run, its zeros, and those behind it. -/
theorem longestRun_spec (gs : List Nat) {start run : Nat}
    (h : longestRun 0 0 (0, 0) gs = (start, run)) :
    gs.take start ++ List.replicate run 0 ++ gs.drop (start + run) = gs ∧
      start + run ≤ gs.length := by
  have hstart : IsRun ([] ++ List.replicate 0 0 ++ gs) (0, 0) := ⟨[], gs, rfl, rfl⟩
  have hrun : IsRun gs (longestRun 0 0 (0, 0) gs) := longestRun_isRun hstart
  rw [h] at hrun
  obtain ⟨front, back, rfl, rfl⟩ := hrun
  simp

theorem ofGroups_groups (bits : BitVec 128) : ofGroups (groups bits) = bits := by
  have hlt := bits.isLt
  have hvalue : (groups bits).foldl (fun n g => 65536 * n + g) 0 = bits.toNat := by
    have hgroups : groups bits = [group bits 0, group bits 1, group bits 2, group bits 3,
        group bits 4, group bits 5, group bits 6, group bits 7] := rfl
    rw [hgroups]
    simp only [List.foldl_cons, List.foldl_nil, group, Nat.reduceSub, Nat.reducePow]
    omega
  rw [ofGroups, hvalue, BitVec.ofNat_toNat, BitVec.setWidth_eq]

theorem lt_of_mem_groups {bits : BitVec 128} {g : Nat} (h : g ∈ groups bits) : g < 65536 := by
  obtain ⟨n, -, rfl⟩ := List.mem_map.1 h
  exact Nat.mod_lt _ (by decide)

theorem bits6?_joinGroups (bits : BitVec 128) : bits6? (joinGroups (groups bits)) = some bits := by
  have hcut : cutOnce [':', ':'] (joinGroups (groups bits)) = none :=
    cutOnce_eq_none_of_single (single_intercalate (parts_joinGroups _))
  have hgroups : groups? (cutAtChar ':' (joinGroups (groups bits))) = some (groups bits) := by
    have hne : groups bits ≠ [] := List.cons_ne_nil _ _
    rw [cutAtChar_joinGroups hne, groups?_hexDigits fun g => lt_of_mem_groups]
  have hlength : (groups bits).length = 8 := rfl
  rw [bits6?, hcut]
  simp only
  rw [hgroups, Option.bind_some, if_pos hlength, ofGroups_groups]

theorem bits6?_gap {gs hs : List Nat} (hg : ∀ g ∈ gs, g < 65536) (hh : ∀ h ∈ hs, h < 65536)
    (hlength : gs.length + hs.length < 8) :
    bits6? (joinGroups gs ++ ':' :: ':' :: joinGroups hs) =
      some (ofGroups (gs ++ List.replicate (8 - gs.length - hs.length) 0 ++ hs)) := by
  have hcut : cutOnce [':', ':'] (joinGroups gs ++ ':' :: ':' :: joinGroups hs) =
      some (joinGroups gs, joinGroups hs) :=
    cutOnce_pair (single_intercalate (parts_joinGroups gs)) (getLast?_intercalate (parts_joinGroups gs)) _
  have hpoint : (joinGroups gs).contains '.' = false := by
    rw [← Bool.not_eq_true, List.contains_iff_mem]
    exact notMem_joinGroups (by decide) (by decide) gs
  rw [bits6?, hcut]
  simp only
  rw [if_neg (by rw [hpoint]; exact Bool.false_ne_true), side?_joinGroups hg, side?_joinGroups hh]
  simp only
  rw [if_pos hlength]

theorem bits6?_text6 (bits : BitVec 128) : bits6? (text6 bits).toList = some bits := by
  cases hrun : longestRun 0 0 (0, 0) (groups bits) with
  | mk start run =>
      simp only [text6, hrun]
      split
      · rename_i hlong
        obtain ⟨hwhole, hle⟩ := longestRun_spec (groups bits) hrun
        have hlength : (groups bits).length = 8 := rfl
        have hfront : ((groups bits).take start).length = start := by
          rw [List.length_take]
          omega
        have hback : ((groups bits).drop (start + run)).length = 8 - (start + run) := by
          rw [List.length_drop, hlength]
        rw [String.toList_ofList, bits6?_gap, hfront, hback,
          show 8 - start - (8 - (start + run)) = run by omega, hwhole, ofGroups_groups]
        · intro g hg
          exact lt_of_mem_groups (List.mem_of_mem_take hg)
        · intro g hg
          exact lt_of_mem_groups (List.mem_of_mem_drop hg)
        · omega
      · rw [String.toList_ofList, bits6?_joinGroups]

theorem bits4?_text6 (bits : BitVec 128) : bits4? (text6 bits).toList = none := by
  apply bits4?_of_notMem
  unfold text6
  have hjoin := notMem_joinGroups (by decide : '.' ≠ ':') (by decide)
  simp only
  split
  · rw [String.toList_ofList, List.mem_append, List.mem_cons, List.mem_cons]
    rintro (h | h | h | h)
    · exact hjoin _ h
    · exact absurd h (by decide)
    · exact absurd h (by decide)
    · exact hjoin _ h
  · rw [String.toList_ofList]
    exact hjoin _

theorem bits4?_mapped (bits : BitVec 32) : bits4? ("::ffff:" ++ text4 bits).toList = none := by
  have hcut : ("::ffff:" ++ text4 bits).toList =
      ("::ffff:".toList ++ Nat.toDigits 10 (bits.toNat / 16777216)) ++ '.' ::
        (Nat.toDigits 10 (bits.toNat / 65536 % 256) ++ '.' ::
          (Nat.toDigits 10 (bits.toNat / 256 % 256) ++ '.' ::
            Nat.toDigits 10 (bits.toNat % 256))) := by
    rw [String.toList_append, toList_text4, List.append_assoc]
  have hfirst : '.' ∉ "::ffff:".toList ++ Nat.toDigits 10 (bits.toNat / 16777216) := by
    rw [List.mem_append, not_or]
    exact ⟨by decide, notMem_toDigits (by decide) _⟩
  have hlong : octet? ("::ffff:".toList ++ Nat.toDigits 10 (bits.toNat / 16777216)) = none := by
    rw [octet?, if_neg]
    rintro ⟨h, -⟩
    rw [List.length_append] at h
    have hprefix : "::ffff:".toList.length = 7 := rfl
    omega
  rw [bits4?, hcut, cutAtChar_append hfirst, List.map_cons, hlong]

/-- A dotted text is too long for a group. -/
theorem group?_text4 (low : BitVec 32) : group? (text4 low).toList = none := by
  rw [group?, if_neg]
  rintro ⟨-, h⟩
  rw [toList_text4] at h
  simp only [List.length_append, List.length_cons] at h
  have hfirst := List.length_pos_iff.2 (Nat.toDigits_ne_nil (n := low.toNat / 16777216) (b := 10))
  have hlast := List.length_pos_iff.2 (Nat.toDigits_ne_nil (n := low.toNat % 256) (b := 10))
  omega

theorem notMem_text4 (low : BitVec 32) : ':' ∉ (text4 low).toList := by
  have hdigits := notMem_toDigits (by decide : Char.isDigit ':' = false)
  rw [toList_text4]
  simp only [List.mem_append, List.mem_cons, not_or]
  exact ⟨hdigits _, by decide, hdigits _, by decide, hdigits _, by decide, hdigits _⟩

/-- The groups behind the gap of a mapped address. -/
theorem side?_mapped (low : BitVec 32) :
    side? ("ffff".toList ++ ':' :: (text4 low).toList) =
      some [0xFFFF, low.toNat / 65536, low.toNat % 65536] := by
  have hffff : group? "ffff".toList = some 0xFFFF := by decide
  rw [side?, if_neg (by simp), cutAtChar_append (by decide), cutAtChar_of_notMem (notMem_text4 low),
    groups?, hffff, groups?, group?_text4, bits4?_text4]
  · rfl
  · simp

theorem bits6?_mapped {bits : BitVec 128} (h : bits.toNat / 2 ^ (32 : Nat) = 0xFFFF) :
    bits6? ("::ffff:" ++ text4 (BitVec.ofNat 32 bits.toNat)).toList = some bits := by
  have hlt := bits.isLt
  have hlow : (BitVec.ofNat 32 bits.toNat).toNat = bits.toNat % 2 ^ 32 := BitVec.toNat_ofNat ..
  generalize hb : BitVec.ofNat 32 bits.toNat = low at hlow ⊢
  have htext : ("::ffff:" ++ text4 low).toList =
      [] ++ ':' :: ':' :: ("ffff".toList ++ ':' :: (text4 low).toList) := by
    rw [String.toList_append]
    rfl
  have hcut : cutOnce [':', ':'] ("::ffff:" ++ text4 low).toList =
      some ([], "ffff".toList ++ ':' :: (text4 low).toList) := by
    have hfront : Single ':' [] := trivial
    rw [htext, cutOnce_pair hfront (by simp)]
  have hvalue : ([] ++ List.replicate 5 0 ++
      [0xFFFF, low.toNat / 65536, low.toNat % 65536]).foldl (fun n g => 65536 * n + g) 0 =
        bits.toNat := by
    simp only [List.replicate, List.nil_append, List.cons_append, List.foldl_cons, List.foldl_nil]
    omega
  rw [bits6?, hcut]
  simp only
  rw [if_neg (by simp), side?_mapped]
  simp only [side?, List.isEmpty_nil, if_true]
  rw [if_pos (by simp)]
  simp only [List.length_nil, List.length_cons, Nat.reduceSub, Nat.reduceAdd]
  rw [ofGroups, hvalue, BitVec.ofNat_toNat, BitVec.setWidth_eq]

theorem parse?_text (a : Address) : parse? a.text = some a := by
  cases a with
  | v4 bits => rw [parse?, text, bits4?_text4]
  | v6 bits =>
      rw [text]
      cases hmapped : mapped? bits with
      | none =>
          rw [parse?]
          simp only
          rw [bits4?_text6, bits6?_text6]
          rfl
      | some low =>
          unfold mapped? at hmapped
          split at hmapped
          · rename_i h
            obtain rfl := Option.some.inj hmapped
            rw [parse?]
            simp only
            rw [bits4?_mapped, bits6?_mapped h]
            rfl
          · exact absurd hmapped (by simp)

def IsAddressChar (c : Char) : Prop := (hexDigit? c).isSome = true ∨ c = '.' ∨ c = ':'

theorem isAddressChar_of_isDigit {c : Char} (h : c.isDigit = true) : IsAddressChar c := by
  left
  simp only [Char.isDigit, Bool.and_eq_true, decide_eq_true_eq] at h
  have hdigit : '0' ≤ c ∧ c ≤ '9' := h
  rw [hexDigit?, if_pos hdigit]
  rfl

theorem isAddressChar_of_mem_text4 {bits : BitVec 32} {c : Char} (h : c ∈ (text4 bits).toList) :
    IsAddressChar c := by
  have hdigits : ∀ n, c ∈ Nat.toDigits 10 n → IsAddressChar c := fun n hc =>
    isAddressChar_of_isDigit (Nat.isDigit_of_mem_toDigits (by decide) (by decide) hc)
  rw [toList_text4] at h
  simp only [List.mem_append, List.mem_cons] at h
  rcases h with h | h | h | h | h | h | h
  · exact hdigits _ h
  · exact Or.inr (Or.inl h)
  · exact hdigits _ h
  · exact Or.inr (Or.inl h)
  · exact hdigits _ h
  · exact Or.inr (Or.inl h)
  · exact hdigits _ h

theorem isAddressChar_of_mem_joinGroups {gs : List Nat} {c : Char} (h : c ∈ joinGroups gs) :
    IsAddressChar c := by
  by_cases hcolon : c = ':'
  · exact Or.inr (Or.inr hcolon)
  · left
    rw [← Option.ne_none_iff_isSome]
    exact fun hnone => notMem_joinGroups hcolon hnone gs h

theorem isAddressChar_of_mem_text6 {bits : BitVec 128} {c : Char} (h : c ∈ (text6 bits).toList) :
    IsAddressChar c := by
  unfold text6 at h
  simp only at h
  split at h
  · rw [String.toList_ofList, List.mem_append, List.mem_cons, List.mem_cons] at h
    rcases h with h | h | h | h
    · exact isAddressChar_of_mem_joinGroups h
    · exact Or.inr (Or.inr h)
    · exact Or.inr (Or.inr h)
    · exact isAddressChar_of_mem_joinGroups h
  · rw [String.toList_ofList] at h
    exact isAddressChar_of_mem_joinGroups h

theorem isAddressChar_of_mem_text {a : Address} {c : Char} (h : c ∈ a.text.toList) :
    IsAddressChar c := by
  cases a with
  | v4 bits => exact isAddressChar_of_mem_text4 h
  | v6 bits =>
      rw [text] at h
      cases hmapped : mapped? bits with
      | none =>
          rw [hmapped] at h
          exact isAddressChar_of_mem_text6 h
      | some low =>
          rw [hmapped] at h
          simp only [String.toList_append, List.mem_append] at h
          rcases h with h | h
          · have hchars : "::ffff:".toList = [':', ':', 'f', 'f', 'f', 'f', ':'] := rfl
            have hdigit : (hexDigit? 'f').isSome = true := rfl
            rw [hchars] at h
            simp only [List.mem_cons, List.not_mem_nil, or_false] at h
            rcases h with rfl | rfl | rfl | rfl | rfl | rfl | rfl
            all_goals simp [IsAddressChar, hdigit]
          · exact isAddressChar_of_mem_text4 h

theorem IsAddressChar.isBlank_eq_false {c : Char} (h : IsAddressChar c) : isBlank c = false := by
  rcases h with h | rfl | rfl
  · have hrange : (48 ≤ c.toNat ∧ c.toNat ≤ 57) ∨ (97 ≤ c.toNat ∧ c.toNat ≤ 102) ∨
        (65 ≤ c.toNat ∧ c.toNat ≤ 70) := by
      unfold hexDigit? at h
      split at h
      · rename_i hdigit
        exact Or.inl hdigit
      · split at h
        · rename_i hsmall
          exact Or.inr (Or.inl hsmall)
        · split at h
          · rename_i hcapital
            exact Or.inr (Or.inr hcapital)
          · exact absurd h (by simp)
    unfold isBlank
    simp only [Bool.or_eq_false_iff, Bool.and_eq_false_iff, decide_eq_false_iff_not,
      beq_eq_false_iff_ne]
    omega
  · decide
  · decide

end Address

namespace Network

open Text Traversal

def located (parts : String × Option Nat) : Except PatternFault Network :=
  match Address.parse? parts.1 with
  | none => throw .noAddress
  | some address =>
    let length := parts.2.getD (width address)
    if width address < length then throw .lengthTooGreat else pure { address, length }

theorem length_le_of_located {parts : String × Option Nat} {net : Network}
    (h : located parts = .ok net) : net.length ≤ width net.address := by
  unfold located at h
  split at h
  · exact absurd h throw_ne_ok
  · simp only at h
    split at h
    · exact absurd h throw_ne_ok
    · rename_i hle
      obtain rfl := pure_eq_ok.1 h
      exact Nat.not_lt.1 hle

/-- A network that was read counts no more bits than its address has. -/
theorem length_le_of_parse {s : String} {net : Network} (h : parse s = .ok net) :
    net.length ≤ width net.address := by
  unfold parse at h
  simp only at h
  split at h
  · split at h
    · obtain ⟨parts, -, h⟩ := bind_eq_ok.1 h
      exact length_le_of_located h
    · obtain ⟨parts, hparts, -⟩ := bind_eq_ok.1 h
      exact absurd hparts throw_ne_ok
  · obtain ⟨parts, -, h⟩ := bind_eq_ok.1 h
    exact length_le_of_located h

theorem parse_text {net : Network} (h : net.length ≤ width net.address) :
    parse net.text = .ok net := by
  have htext : net.text.toList =
      net.address.text.toList ++ '/' :: Nat.toDigits 10 net.length := by
    simp [text, String.toList_append]
    rfl
  have hslash : '/' ∉ net.address.text.toList := by
    intro hmem
    rcases Address.isAddressChar_of_mem_text hmem with h | h | h
    · exact absurd h (by decide)
    · exact absurd h (by decide)
    · exact absurd h (by decide)
  have htrim : trim net.text = net.text := by
    apply trim_eq_self
    intro c hc
    rw [htext, List.mem_append, List.mem_cons] at hc
    rcases hc with hc | rfl | hc
    · exact (Address.isAddressChar_of_mem_text hc).isBlank_eq_false
    · decide
    · have hdigit := Nat.isDigit_of_mem_toDigits (by decide) (by decide) hc
      exact (Address.isAddressChar_of_isDigit hdigit).isBlank_eq_false
  have hcut : splitOnce "/" net.text =
      some (net.address.text, String.ofList (Nat.toDigits 10 net.length)) := by
    rw [splitOnce, htext, show "/".toList = ['/'] from rfl, cutOnce_append hslash]
    simp
  have hlength : net.length ≤ 128 := Nat.le_trans h (by cases net.address <;> simp [width])
  have hnumeral : Numeral.atMost? 255 (String.ofList (Nat.toDigits 10 net.length)) =
      some net.length := by
    have hsmall : ∀ n : Fin 129,
        Numeral.atMost? 255 (String.ofList (Nat.toDigits 10 n)) = some n.val := by
      decide +kernel
    exact hsmall ⟨net.length, by omega⟩
  have hwidth : ¬ width net.address < net.length := Nat.not_lt.2 h
  unfold parse
  simp only [htrim, hcut, hnumeral, Address.parse?_text, Option.getD_some, hwidth, if_false, pure,
    Except.pure, bind, Except.bind]

end Network

end Understudy

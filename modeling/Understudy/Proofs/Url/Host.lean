import Understudy.Proofs.Bytes.Percent
import Understudy.Proofs.Error.Traversal
import Understudy.Proofs.Net.AddressText
import Understudy.Proofs.Number.Digits
import Understudy.Proofs.Text.Folding
import Understudy.Url.Host

/-!
# Hosts are read back

A domain is brought into a form that has no capitals, nothing outside ASCII and none of the forbidden characters, and
this form is read as itself; so a host that is read again from its text is the same host (`parse_text`). Characters of
ASCII are kept on the way, so that a text which ends in a blank or a control character is never a host
(`parse_concat_ne_ok`).
-/

namespace Understudy

open Traversal

namespace Text

/-- Only the characters of the text are gone through, where deciding the statement itself may go through all there are. -/
theorem forall_mem_of_all {p : Char → Prop} [DecidablePred p] {cs : List Char} (h : cs.all (p ·) = true) :
    ∀ c ∈ cs, p c :=
  fun c hc => of_decide_eq_true (List.all_eq_true.1 h c hc)

/-- Where a run is about characters outside ASCII, it leads to characters behind the capitals of ASCII. -/
def CaseRun.isPastCapitals (run : CaseRun) : Bool :=
  run.last < 128 || 90 < run.first + run.shift
    && (run.last + run.shift < 0xD800 || 0xDFFF < run.first + run.shift && run.last + run.shift < 0x110000)

-- the table is taken as its list of characters, which is as long
set_option maxRecDepth 50000 in
theorem isPastCapitals_lowercaseRuns : ∀ run ∈ lowercaseRuns, run.isPastCapitals = true := by
  unfold lowercaseRuns lowercaseTable
  refine forall_mem_ofText _ ?_
  decide +kernel

theorem toNat_of_mem_lowercaseChar {c d : Char} (hc : 128 ≤ c.toNat) (hd : d ∈ lowercaseChar c) :
    90 < d.toNat := by
  unfold lowercaseChar at hd
  rw [if_neg (by omega)] at hd
  split at hd
  · have hsigns : ∀ d ∈ ['i', Char.ofNat 0x307], 90 < d.toNat := forall_mem_of_all (by decide)
    exact hsigns d hd
  · split at hd
    · rename_i n hn
      obtain ⟨run, hrun, himage⟩ := List.exists_of_findSome?_eq_some hn
      have hpast := isPastCapitals_lowercaseRuns run hrun
      unfold CaseRun.image? at himage
      split at himage
      · obtain rfl := Option.some.inj himage
        simp only [CaseRun.isPastCapitals, Bool.or_eq_true, Bool.and_eq_true, decide_eq_true_eq]
          at hpast
        rw [List.mem_singleton.1 hd, Bytes.toNat_charOfNat]
        · omega
        · unfold Nat.isValidChar
          omega
      · exact nomatch himage
    · rw [List.mem_singleton.1 hd]
      omega

end Text

namespace Percent

/-- A blank or a control character at the end is not part of an escape. -/
theorem mem_decode_concat {c : Char} (hc : c.toNat ≤ 0x20) (cs : List Char) :
    UInt8.ofNat c.toNat ∈ (decode (String.ofList (cs ++ [c]))).toList := by
  have hplain : ∀ n : Fin 33, UInt8.ofNat n ≠ 0x25 ∧
      Text.hexDigit? (Char.ofNat (UInt8.ofNat n).toNat) = none := by decide
  obtain ⟨hpercent, hdigit⟩ := hplain ⟨c.toNat, by omega⟩
  have hbytes : (Bytes.ofText (String.ofList (cs ++ [c]))).toList =
      (Bytes.ofText (String.ofList cs)).toList ++ [UInt8.ofNat c.toNat] := by
    rw [String.ofList_append, Bytes.toList_ofText_append, Bytes.toList_ofText (String.ofList [c]),
      String.toList_ofList, List.flatMap_singleton, Bytes.utf8EncodeChar_of_lt (by omega)]
  rw [toList_decode, hbytes, decodeBytes_append_cons hpercent hdigit]
  exact List.mem_append_right _ List.mem_cons_self

end Percent

namespace Punycode

def IsDigit (c : Char) : Prop := c ∈ "abcdefghijklmnopqrstuvwxyz0123456789".toList

theorem isDigit_digit (n : Nat) : IsDigit (digit n) := by
  rw [IsDigit, digit, List.getD_eq_getElem?_getD]
  cases h : "abcdefghijklmnopqrstuvwxyz0123456789".toList[n]? with
  | none => decide
  | some c => exact List.mem_of_getElem? h

theorem isDigit_of_mem_number {fuel bias k q : Nat} :
    ∀ c ∈ number fuel bias k q, IsDigit c := by
  induction fuel generalizing k q with
  | zero => exact List.forall_mem_nil _
  | succ fuel ih =>
      rw [number]
      split
      · exact List.forall_mem_singleton.2 (isDigit_digit q)
      · exact List.forall_mem_cons.2 ⟨isDigit_digit _, ih⟩

def Extends (before after : List Char) : Prop :=
  ∃ more, after = before ++ more ∧ ∀ c ∈ more, IsDigit c

theorem Extends.refl (out : List Char) : Extends out out :=
  ⟨[], (List.append_nil out).symm, List.forall_mem_nil _⟩

theorem Extends.trans {a b c : List Char} (hab : Extends a b) (hbc : Extends b c) : Extends a c := by
  obtain ⟨first, rfl, hfirst⟩ := hab
  obtain ⟨second, rfl, hsecond⟩ := hbc
  exact ⟨first ++ second, List.append_assoc .., List.forall_mem_append.2 ⟨hfirst, hsecond⟩⟩

theorem extends_pass (basic m : Nat) (s : State) (label : List Char) :
    Extends s.out (pass basic m s label).out := by
  induction label generalizing s with
  | nil => exact .refl _
  | cons c label ih =>
      rw [pass]
      split
      · exact ih _
      · split
        · exact .trans ⟨_, rfl, isDigit_of_mem_number⟩ (ih _)
        · exact ih s

theorem extends_passes (basic : Nat) (label : List Char) (fuel : Nat) (s : State) :
    Extends s.out (passes basic label fuel s).out := by
  induction fuel generalizing s with
  | zero => exact .refl _
  | succ fuel ih =>
      rw [passes]
      split
      · exact .refl _
      · rename_i m _
        have hpass := extends_pass basic m
          { s with delta := s.delta + (m - s.n) * (s.done + 1) } label
        exact hpass.trans (ih _)

/-- Encoding keeps the ASCII characters and writes the places of all others behind them. -/
theorem exists_encode (label : List Char) :
    Extends (if (label.filter (·.toNat < 128)).isEmpty then []
      else label.filter (·.toNat < 128) ++ ['-']) (encode label) :=
  extends_passes _ label _ ⟨128, 0, 72, _, _⟩

theorem mem_encode {label : List Char} {c : Char} (h : c ∈ encode label) :
    (c ∈ label ∧ c.toNat < 128) ∨ c = '-' ∨ IsDigit c := by
  obtain ⟨more, hmore, hdigits⟩ := exists_encode label
  rw [hmore, List.mem_append] at h
  rcases h with h | h
  · split at h
    · exact absurd h List.not_mem_nil
    · rcases List.mem_append.1 h with h | h
      · exact Or.inl (by simpa using List.mem_filter.1 h)
      · exact Or.inr (Or.inl (List.mem_singleton.1 h))
  · exact Or.inr (Or.inr (hdigits c h))

theorem mem_encode_of_lt {label : List Char} {c : Char} (hc : c ∈ label) (hascii : c.toNat < 128) :
    c ∈ encode label := by
  obtain ⟨more, hmore, -⟩ := exists_encode label
  have hbasic : c ∈ label.filter (·.toNat < 128) := List.mem_filter.2 ⟨hc, decide_eq_true hascii⟩
  rw [hmore, if_neg (by simpa using List.ne_nil_of_mem hbasic)]
  exact List.mem_append_left _ (List.mem_append_left _ hbasic)

end Punycode

namespace Url.Host

variable {cs name label ascii : List Char} {c d : Char}

/-- A character of ASCII other than the capitals. -/
def IsSmall (c : Char) : Prop := c.toNat < 128 ∧ c.toLower = c

instance (c : Char) : Decidable (IsSmall c) := inferInstanceAs (Decidable (_ ∧ _))

theorem isSmall_of_isDigit (h : Punycode.IsDigit c) : IsSmall c := by
  have hdigits : ∀ c ∈ "abcdefghijklmnopqrstuvwxyz0123456789".toList, IsSmall c :=
    Text.forall_mem_of_all (by decide)
  exact hdigits c h

theorem toLower_of_mem_domainChar (h : d ∈ domainChar c) : d.toLower = d := by
  unfold domainChar at h
  simp only at h
  split at h
  · rw [List.mem_singleton.1 h, Text.toLower_toLower]
  · split at h
    · rw [List.mem_singleton.1 h]
      rfl
    · split at h
      · exact absurd h List.not_mem_nil
      · split at h
        · rw [List.mem_singleton.1 h, Text.toLower_toLower]
        · rename_i hascii _ _ _
          have hpast := Text.toNat_of_mem_lowercaseChar (Nat.not_lt.1 hascii) h
          exact Text.toLower_eq_self.2 (by omega)

theorem domainChar_of_isSmall (h : IsSmall c) : domainChar c = [c] := by
  rw [domainChar, if_pos h.1, h.2]

theorem flatMap_domainChar (h : ∀ c ∈ cs, IsSmall c) : cs.flatMap domainChar = cs := by
  rw [List.flatMap_congr fun c hc => domainChar_of_isSmall (h c hc)]
  exact List.flatMap_singleton' cs

/-- A label of ASCII stays as it is, and any other is encoded. -/
theorem cases_of_asciiLabel? {out : List Char} (h : asciiLabel? label = some out) :
    (∀ c ∈ label, c.toNat < 128) ∧ out = label ∨
      (∃ c ∈ label, 128 ≤ c.toNat) ∧ out = "xn--".toList ++ Punycode.encode label := by
  unfold asciiLabel? at h
  split at h
  · rename_i hascii
    have hascii : ∀ c ∈ label, c.toNat < 128 := by simpa using hascii
    refine Or.inl ⟨hascii, ?_⟩
    split at h
    · exact (Option.some.inj h).symm
    · split at h
      · exact nomatch h
      · split at h
        · exact (Option.some.inj h).symm
        · exact nomatch h
  · rename_i hother
    have hother : ∃ c ∈ label, 128 ≤ c.toNat := by simpa using hother
    split at h
    · exact Or.inr ⟨hother, (Option.some.inj h).symm⟩
    · exact nomatch h

theorem isSmall_of_asciiLabel? {out : List Char} (hlower : ∀ c ∈ label, c.toLower = c)
    (h : asciiLabel? label = some out) : ∀ c ∈ out, IsSmall c := by
  rcases cases_of_asciiLabel? h with ⟨hascii, rfl⟩ | ⟨-, rfl⟩
  · exact fun c hc => ⟨hascii c hc, hlower c hc⟩
  · refine List.forall_mem_append.2 ⟨Text.forall_mem_of_all (by decide), fun c hc => ?_⟩
    rcases Punycode.mem_encode hc with ⟨hc, hascii⟩ | rfl | hdigit
    · exact ⟨hascii, hlower c hc⟩
    · decide
    · exact isSmall_of_isDigit hdigit

theorem mem_of_asciiLabel? {out : List Char} (h : asciiLabel? label = some out) (hc : c ∈ label)
    (hascii : c.toNat < 128) : c ∈ out := by
  rcases cases_of_asciiLabel? h with ⟨-, rfl⟩ | ⟨-, rfl⟩
  · exact hc
  · exact List.mem_append_right _ (Punycode.mem_encode_of_lt hc hascii)

theorem asciiDomain?_eq_some : asciiDomain? name = some ascii ↔ ∃ labels,
    List.Forall₂ (fun label out => asciiLabel? label = some out)
      (Text.cutAtChar '.' (name.flatMap domainChar)) labels ∧
      (∀ c ∈ ascii, isForbidden c = false) ∧ ['.'].intercalate labels = ascii := by
  unfold asciiDomain?
  simp only [Option.bind_eq_bind, Option.bind_eq_some_iff, mapM_eq_some]
  refine exists_congr fun labels => and_congr_right fun _ => ?_
  split
  · rename_i hany
    refine iff_of_false (nomatch ·) ?_
    rintro ⟨hnone, rfl⟩
    obtain ⟨c, hc, hforbidden⟩ := List.any_eq_true.1 hany
    rw [hnone c hc] at hforbidden
    exact nomatch hforbidden
  · rename_i hany
    rw [Option.some_inj]
    refine ⟨?_, fun h => h.2⟩
    rintro rfl
    simpa using hany

def IsDomainChar (c : Char) : Prop := IsSmall c ∧ isForbidden c = false

instance (c : Char) : Decidable (IsDomainChar c) := inferInstanceAs (Decidable (_ ∧ _))

theorem isDomainChar_of_asciiDomain? (h : asciiDomain? name = some ascii) :
    ∀ c ∈ ascii, IsDomainChar c := by
  obtain ⟨labels, hlabels, hallowed, rfl⟩ := asciiDomain?_eq_some.1 h
  have hlower : ∀ part ∈ Text.cutAtChar '.' (name.flatMap domainChar), ∀ c ∈ part,
      c.toLower = c := by
    intro part hpart c hc
    obtain ⟨d, -, hd⟩ := List.mem_flatMap.1 (Text.mem_of_mem_cutAtChar hpart hc).1
    exact toLower_of_mem_domainChar hd
  have hsmall : ∀ out ∈ labels, ∀ c ∈ out, IsSmall c := by
    intro out hout
    obtain ⟨i, hi, rfl⟩ := List.getElem_of_mem hout
    have hi' : i < (Text.cutAtChar '.' (name.flatMap domainChar)).length := hlabels.length_eq ▸ hi
    exact isSmall_of_asciiLabel? (hlower _ (List.getElem_mem hi')) (hlabels.get hi' hi)
  have hall := Text.forall_mem_intercalate hsmall (List.forall_mem_singleton.2 (by decide : IsSmall '.'))
  exact fun c hc => ⟨hall c hc, hallowed c hc⟩

theorem labels_eq {parts labels : List (List Char)}
    (h : List.Forall₂ (fun label out => asciiLabel? label = some out) parts labels)
    (hascii : ∀ part ∈ parts, ∀ c ∈ part, c.toNat < 128) : labels = parts := by
  induction h with
  | nil => rfl
  | cons hlabel _ ih =>
      rw [List.forall_mem_cons] at hascii
      rw [ih hascii.2]
      rcases cases_of_asciiLabel? hlabel with ⟨-, rfl⟩ | ⟨⟨c, hc, hother⟩, -⟩
      · rfl
      · exact absurd (hascii.1 c hc) (Nat.not_lt.2 hother)

/-- What was read as a domain is read as itself. -/
theorem eq_of_asciiDomain? (hcs : ∀ c ∈ cs, IsDomainChar c) (h : asciiDomain? cs = some ascii) :
    ascii = cs := by
  obtain ⟨labels, hlabels, -, rfl⟩ := asciiDomain?_eq_some.1 h
  rw [flatMap_domainChar fun c hc => (hcs c hc).1] at hlabels
  rw [labels_eq hlabels fun part hpart c hc =>
    (hcs c (Text.mem_of_mem_cutAtChar hpart hc).1).1.1, Text.intercalate_cutAtChar]

/-- A character of ASCII is lost from no domain. -/
theorem mem_of_asciiDomain? (h : asciiDomain? name = some ascii) (hc : c ∈ name)
    (hsmall : IsSmall c) (hdot : c ≠ '.') : c ∈ ascii := by
  obtain ⟨labels, hlabels, -, rfl⟩ := asciiDomain?_eq_some.1 h
  have hmem : c ∈ name.flatMap domainChar :=
    List.mem_flatMap.2 ⟨c, hc, by rw [domainChar_of_isSmall hsmall]; exact List.mem_singleton_self c⟩
  obtain ⟨part, hpart, hc⟩ := Text.exists_mem_cutAtChar hmem hdot
  obtain ⟨i, hi, rfl⟩ := List.getElem_of_mem hpart
  have hi' : i < labels.length := hlabels.length_eq ▸ hi
  exact Text.mem_intercalate (List.getElem_mem hi') (mem_of_asciiLabel? (hlabels.get hi hi') hc hsmall.1)

/-- A host comes from brackets, or from a domain in ASCII that is an address when it ends in a number. -/
theorem cases_of_parse {h : Host} (hread : parse cs = .ok h) :
    (cs.head? = some '[' ∧ bracketed cs = .ok h) ∨
      ∃ name ascii, Bytes.text? (Percent.decode (String.ofList cs)) = some name ∧
        asciiDomain? name.toList = some ascii ∧ ascii ≠ [] ∧
        (endsInNumber ascii = true ∧ (∃ b, address4? ascii = some b ∧ h = .address4 b) ∨
          endsInNumber ascii = false ∧ h = .domain (String.ofList ascii)) := by
  unfold parse at hread
  split at hread
  · rename_i hbracket
    exact Or.inl ⟨hbracket, hread⟩
  · split at hread
    · exact absurd hread throw_ne_ok
    · exact absurd hread throw_ne_ok
    · rename_i ascii hne hascii
      obtain ⟨name, hname, hascii⟩ := Option.bind_eq_some_iff.1 hascii
      refine Or.inr ⟨name, ascii, hname, hascii, fun hnil => hne hnil, ?_⟩
      split at hread
      · rename_i hnumber
        split at hread
        · exact Or.inl ⟨hnumber, _, ‹_›, (pure_eq_ok.1 hread).symm⟩
        · exact absurd hread throw_ne_ok
      · rename_i hname
        exact Or.inr ⟨Bool.eq_false_iff.2 hname, (pure_eq_ok.1 hread).symm⟩

theorem exists_of_bracketed {h : Host} (hread : bracketed cs = .ok h) :
    cs.getLast? = some ']' ∧ ∃ b, Address.bits6? cs.tail.dropLast = some b ∧ h = .address6 b := by
  unfold bracketed at hread
  split at hread
  · rename_i hlast
    split at hread
    · exact ⟨hlast, _, ‹_›, (pure_eq_ok.1 hread).symm⟩
    · exact absurd hread throw_ne_ok
  · exact absurd hread throw_ne_ok

theorem cases_of_parse_ascii (hcs : ∀ c ∈ cs, IsDomainChar c) {h : Host} (hread : parse cs = .ok h) :
    endsInNumber cs = true ∧ (∃ b, address4? cs = some b ∧ h = .address4 b) ∨
      endsInNumber cs = false ∧ h = .domain (String.ofList cs) := by
  have hallowed {c : Char} (hc : isForbidden c = true) : c ∉ cs := by
    intro hmem
    rw [(hcs c hmem).2] at hc
    exact nomatch hc
  rcases cases_of_parse hread with ⟨hbracket, -⟩ | ⟨name, ascii, hname, hascii, -, hcases⟩
  · exact absurd (List.mem_of_mem_head? hbracket) (hallowed (by decide))
  · rw [Percent.decode_of_notMem (by rw [String.toList_ofList]; exact hallowed (by decide)),
      Bytes.text?_ofText] at hname
    obtain rfl := Option.some.inj hname
    rw [String.toList_ofList] at hascii
    rwa [eq_of_asciiDomain? hcs hascii] at hcases

theorem number?_toDigits {n : Nat} (h : n < 256) : number? (Nat.toDigits 10 n) = some (some n) := by
  have hsmall : ∀ n : Fin 256, number? (Nat.toDigits 10 n) = some (some n.val) := by decide +kernel
  exact hsmall ⟨n, h⟩

theorem numberParts_text4 (b : BitVec 32) :
    numberParts (Address.text4 b).toList =
      [Nat.toDigits 10 (b.toNat / 16777216), Nat.toDigits 10 (b.toNat / 65536 % 256),
        Nat.toDigits 10 (b.toNat / 256 % 256), Nat.toDigits 10 (b.toNat % 256)] := by
  unfold numberParts
  rw [Address.cutAtChar_text4]
  simp [Nat.toDigits_ne_nil]

theorem address4?_text4 (b : BitVec 32) : address4? (Address.text4 b).toList = some b := by
  have hlt := b.isLt
  have hvalue : (256 * (256 * (b.toNat / 16777216) + b.toNat / 65536 % 256) +
      b.toNat / 256 % 256) * 256 + b.toNat % 256 = b.toNat := by
    omega
  rw [address4?, numberParts_text4]
  simp only [List.mapM_cons, List.mapM_nil]
  rw [number?_toDigits (by omega), number?_toDigits (by omega), number?_toDigits (by omega),
    number?_toDigits (by omega)]
  simp only [Option.join_some, Option.bind_eq_bind, Option.bind_some, Option.pure_def,
    List.getLast?_cons_cons, List.getLast?_singleton, List.dropLast_cons_cons,
    List.dropLast_singleton]
  rw [if_neg]
  · simp only [List.foldl_cons, List.foldl_nil, List.length_cons, List.length_nil, Nat.mul_zero,
      Nat.zero_add, Nat.reduceAdd, Nat.reduceSub, Nat.reducePow]
    rw [hvalue, BitVec.ofNat_toNat, BitVec.setWidth_eq]
  · simp
    omega

theorem endsInNumber_text4 (b : BitVec 32) : endsInNumber (Address.text4 b).toList = true := by
  rw [endsInNumber, numberParts_text4]
  simp only [List.getLast?_cons_cons, List.getLast?_singleton]
  rw [number?_toDigits (Nat.mod_lt _ (by decide)), Option.isSome_some, Bool.or_true]

theorem isDomainChar_of_isDigit (h : c.isDigit = true) : IsDomainChar c := by
  have hdigits : ∀ n : Fin 58, 48 ≤ n.val → IsDomainChar (Char.ofNat n) := by decide
  have hrange : 48 ≤ c.toNat ∧ c.toNat ≤ 57 := by
    simpa [Char.isDigit, UInt32.le_iff_toNat_le] using h
  have hchar := hdigits ⟨c.toNat, by omega⟩ hrange.1
  rwa [Char.ofNat_toNat] at hchar

theorem isDomainChar_of_mem_text4 {b : BitVec 32} (hc : c ∈ (Address.text4 b).toList) :
    IsDomainChar c := by
  have hdigits {n : Nat} (hc : c ∈ Nat.toDigits 10 n) : IsDomainChar c :=
    isDomainChar_of_isDigit (Numeral.isDigit_of_mem_toDigits hc)
  rw [Address.toList_text4] at hc
  simp only [List.mem_append, List.mem_cons] at hc
  rcases hc with hc | rfl | hc | rfl | hc | rfl | hc
  · exact hdigits hc
  · decide
  · exact hdigits hc
  · decide
  · exact hdigits hc
  · decide
  · exact hdigits hc

/-- What is read from the text of a host is this host. -/
theorem parse_text {h h' : Host} (hread : parse cs = .ok h) (hagain : parse h.text.toList = .ok h') :
    h' = h := by
  cases h with
  | domain d =>
      rcases cases_of_parse hread with ⟨-, hbracketed⟩ | ⟨name, ascii, -, hascii, -, hcases⟩
      · obtain ⟨-, b, -, hb⟩ := exists_of_bracketed hbracketed
        exact nomatch hb
      · rcases hcases with ⟨-, b, -, hb⟩ | ⟨hname, hd⟩
        · exact nomatch hb
        · obtain rfl := domain.inj hd
          rw [text, String.toList_ofList] at hagain
          rcases cases_of_parse_ascii (isDomainChar_of_asciiDomain? hascii) hagain with
            ⟨hnumber, -⟩ | ⟨-, rfl⟩
          · rw [hname] at hnumber
            exact nomatch hnumber
          · rfl
  | address4 b =>
      rw [text] at hagain
      rcases cases_of_parse_ascii (fun c => isDomainChar_of_mem_text4) hagain with
        ⟨-, b', hb', rfl⟩ | ⟨hname, -⟩
      · rw [address4?_text4] at hb'
        rw [Option.some.inj hb']
      · rw [endsInNumber_text4] at hname
        exact nomatch hname
  | address6 b =>
      have htext : (Host.address6 b).text.toList = '[' :: ((Address.text6 b).toList ++ [']']) := by
        simp [text]
      rw [htext, parse, if_pos List.head?_cons] at hagain
      obtain ⟨-, b', hb', rfl⟩ := exists_of_bracketed hagain
      rw [List.tail_cons, List.dropLast_concat, Address.bits6?_text6] at hb'
      rw [Option.some.inj hb']

theorem isSmall_of_le (hc : c.toNat ≤ 0x20) : IsSmall c ∧ isForbidden c = true := by
  refine ⟨⟨by omega, Text.toLower_eq_self.2 (by omega)⟩, ?_⟩
  rw [isForbidden, decide_eq_true hc]
  rfl

/-- No text that ends in a blank or in a control character is a host. -/
theorem parse_concat_ne_ok (hc : c.toNat ≤ 0x20) (cs : List Char) (h : Host) :
    parse (cs ++ [c]) ≠ .ok h := by
  intro hread
  obtain ⟨hsmall, hforbidden⟩ := isSmall_of_le hc
  rcases cases_of_parse hread with ⟨-, hbracketed⟩ | ⟨name, ascii, hname, hascii, -, -⟩
  · have hlast := (exists_of_bracketed hbracketed).1
    rw [List.getLast?_concat] at hlast
    rw [Option.some.inj hlast] at hc
    exact absurd hc (by decide)
  · have hmem : c ∈ name.toList := by
      have hbyte : UInt8.ofNat c.toNat ∈ (Percent.decode (String.ofList (cs ++ [c]))).toList :=
        Percent.mem_decode_concat hc cs
      rw [Bytes.text?_eq_some.1 hname] at hbyte
      by_contra hnot
      exact Bytes.notMem_ofText (by omega) hnot hbyte
    have hdomain := mem_of_asciiDomain? hascii hmem hsmall (by rintro rfl; exact absurd hc (by decide))
    rw [(isDomainChar_of_asciiDomain? hascii c hdomain).2] at hforbidden
    exact nomatch hforbidden

end Url.Host

end Understudy

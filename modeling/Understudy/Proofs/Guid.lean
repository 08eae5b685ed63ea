import Mathlib.Data.Nat.ModEq
import Understudy.Guid

/-!
# GUIDs are read back

The text of a GUID is read as this GUID: its thirty-two digits have its bits, and the hyphens between them are taken out
again.
-/

namespace Understudy

namespace Guid

theorem hexDigit?_hexChar (n : ℕ) : Text.hexDigit? (Text.hexChar n) = some (n % 16) := by
  have hdigits : ∀ d : Fin 16, Text.hexDigit? (Text.hexChar d.val) = some d.val := by decide
  have hchar : Text.hexChar n = Text.hexChar (n % 16) := by simp [Text.hexChar]
  rw [hchar]
  exact hdigits ⟨n % 16, Nat.mod_lt n (by decide)⟩

theorem hexChar_ne_hyphen (n : ℕ) : Text.hexChar n ≠ '-' := by
  intro h
  have hdigit := hexDigit?_hexChar n
  rw [h] at hdigit
  exact absurd hdigit (by simp [Text.hexDigit?])

theorem length_digitsOf (count n : ℕ) : (digitsOf count n).length = count := by
  induction count generalizing n with
  | zero => rfl
  | succ count ih => rw [digitsOf, List.length_append, ih, List.length_singleton]

theorem notMem_digitsOf (count n : ℕ) : '-' ∉ digitsOf count n := by
  induction count generalizing n with
  | zero => exact List.not_mem_nil
  | succ count ih =>
      rw [digitsOf, List.mem_append, List.mem_singleton, not_or]
      exact ⟨ih (n / 16), (hexChar_ne_hyphen n).symm⟩

theorem exists_values_digitsOf (count n : ℕ) :
    ∃ values, (digitsOf count n).mapM Text.hexDigit? = some values ∧
      values.foldl (fun n d => 16 * n + d) 0 = n % 16 ^ count := by
  induction count generalizing n with
  | zero => exact ⟨[], rfl, (Nat.mod_one n).symm⟩
  | succ count ih =>
      obtain ⟨values, hvalues, hfold⟩ := ih (n / 16)
      refine ⟨values ++ [n % 16], ?_, ?_⟩
      · rw [digitsOf, List.mapM_append, hvalues]
        simp [hexDigit?_hexChar]
      · rw [List.foldl_append, hfold, List.foldl_cons, List.foldl_nil, Nat.pow_succ', Nat.mod_mul]
        omega

theorem ofDigits?_digits (g : Guid) : ofDigits? g.digits = some g := by
  obtain ⟨values, hvalues, hfold⟩ := exists_values_digitsOf 32 g.bits.toNat
  have hlt : g.bits.toNat < 16 ^ 32 := g.bits.isLt
  have hlength : g.digits.length = 32 := length_digitsOf 32 g.bits.toNat
  rw [ofDigits?, if_pos hlength, digits, hvalues, Option.map_some, hfold, Nat.mod_eq_of_lt hlt,
    BitVec.ofNat_toNat, BitVec.setWidth_eq]

theorem filter_hyphenated {ds : List Char} (h : '-' ∉ ds) :
    (hyphenated ds).filter (· != '-') = ds := by
  have hkeep {part : List Char} (hpart : part ⊆ ds) : part.filter (· != '-') = part := by
    refine List.filter_eq_self.2 fun c hc => ?_
    rw [bne_iff_ne]
    rintro rfl
    exact h (hpart hc)
  have hsub (k l : ℕ) : (ds.drop k).take l ⊆ ds :=
    List.Subset.trans (List.take_subset _ _) (List.drop_subset _ _)
  have hcut (k l : ℕ) : (ds.drop k).take l ++ ds.drop (k + l) = ds.drop k := by
    rw [← List.drop_drop, List.take_append_drop]
  simp only [hyphenated, List.filter_append, List.filter_cons, bne_self_eq_false,
    Bool.false_eq_true, if_false, hkeep (List.take_subset 8 ds), hkeep (hsub _ _),
    hkeep (List.drop_subset 20 ds), List.append_assoc]
  rw [hcut 16 4, hcut 12 4, hcut 8 4, List.take_append_drop]

theorem length_hyphenated {ds : List Char} (h : ds.length = 32) : (hyphenated ds).length = 36 := by
  simp [hyphenated, h]

theorem length_text (g : Guid) : g.text.toList.length = 36 := by
  rw [text, String.toList_ofList]
  exact length_hyphenated (length_digitsOf 32 g.bits.toNat)

/-- The text of a GUID is read as this GUID. -/
theorem parse?_text (g : Guid) : parse? g.text = some g := by
  have hlength : (hyphenated g.digits).length = 36 := by simpa [text] using g.length_text
  have hfilter : (hyphenated g.digits).filter (· != '-') = g.digits :=
    filter_hyphenated (notMem_digitsOf 32 g.bits.toNat)
  have hread : ofHyphenated? (hyphenated g.digits) = some g := by
    rw [ofHyphenated?, hfilter]
    exact (if_pos rfl).trans g.ofDigits?_digits
  simp only [parse?, text, String.toList_ofList, hlength, hread]
  rfl

def isTextChar (c : Char) : Bool :=
  (Text.hexDigit? c).isSome || "-\x7b\x7durn:id".toList.contains c

variable {g : Guid} {cs : List Char}

theorem isTextChar_of_hexDigit? {c : Char} {n : ℕ} (h : Text.hexDigit? c = some n) :
    isTextChar c = true := by
  rw [isTextChar, h]
  rfl

theorem exists_hexDigit?_of_mapM {values : List ℕ} (h : cs.mapM Text.hexDigit? = some values) :
    ∀ c ∈ cs, ∃ n, Text.hexDigit? c = some n := by
  induction cs generalizing values with
  | nil => exact List.forall_mem_nil _
  | cons d cs ih =>
      rw [List.mapM_cons] at h
      obtain ⟨n, hn, h⟩ := Option.bind_eq_some_iff.1 h
      obtain ⟨rest, hrest, -⟩ := Option.bind_eq_some_iff.1 h
      exact List.forall_mem_cons.2 ⟨⟨n, hn⟩, ih hrest⟩

theorem isTextChar_of_ofDigits? (h : ofDigits? cs = some g) :
    ∀ c ∈ cs, isTextChar c = true := by
  intro c hc
  unfold ofDigits? at h
  split at h
  · obtain ⟨values, hvalues, -⟩ := Option.map_eq_some_iff.1 h
    obtain ⟨n, hn⟩ := exists_hexDigit?_of_mapM hvalues c hc
    exact isTextChar_of_hexDigit? hn
  · exact absurd h (by simp)

theorem isTextChar_of_ofHyphenated? (h : ofHyphenated? cs = some g) :
    ∀ c ∈ cs, isTextChar c = true := by
  intro c hc
  unfold ofHyphenated? at h
  simp only at h
  split at h
  · by_cases hyphen : c = '-'
    · rw [hyphen]
      decide
    · exact isTextChar_of_ofDigits? h c (List.mem_filter.2 ⟨hc, by simpa using hyphen⟩)
  · exact absurd h (by simp)

theorem isTextChar_of_parse? {s : String} (h : parse? s = some g) :
    ∀ c ∈ s.toList, isTextChar c = true := by
  unfold parse? at h
  simp only at h
  split at h
  · exact isTextChar_of_ofDigits? h
  split at h
  · exact isTextChar_of_ofHyphenated? h
  split at h
  · -- in braces
    split at h
    · rename_i hbraces
      obtain ⟨rest, hrest⟩ := List.head?_eq_some_iff.1 hbraces.1
      have hinner := isTextChar_of_ofHyphenated? h
      rw [hrest, List.tail_cons] at hinner
      rw [hrest] at hbraces ⊢
      refine List.forall_mem_cons.2 ⟨by decide, ?_⟩
      rcases List.eq_nil_or_concat rest with rfl | ⟨inner, last, rfl⟩
      · exact List.forall_mem_nil _
      · rw [List.concat_eq_append] at hinner hbraces ⊢
        rw [List.dropLast_concat] at hinner
        have hlast : last = '\x7d' := by simpa [List.getLast?_cons] using hbraces.2
        rw [hlast]
        exact List.forall_mem_append.2 ⟨hinner, List.forall_mem_singleton.2 (by decide)⟩
    · exact absurd h (by simp)
  split at h
  · -- as a URN
    split at h
    · rename_i hfront
      rw [← List.take_append_drop 9 s.toList, hfront]
      exact List.forall_mem_append.2
        ⟨List.all_eq_true.1 (by decide), isTextChar_of_ofHyphenated? h⟩
    · exact absurd h (by simp)
  · exact absurd h (by simp)

end Guid

end Understudy

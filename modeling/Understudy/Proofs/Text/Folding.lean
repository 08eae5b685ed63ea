import Understudy.Proofs.Text.Ascii
import Understudy.Text.Folding

/-!
# Case folding of ASCII

The table of foldings starts with the capitals of ASCII and goes on outside of it. So the variants of a character that
are in ASCII are those with the same small letter (`mem_variants_of_lt`).
-/

namespace Understudy

namespace Text

theorem forall_mem_ofText {p : CaseRun → Bool} (cs : List Char)
    (h : ((CodePoints.words cs).map CaseRun.entry).all p = true) :
    ∀ run ∈ CaseRun.ofText (String.ofList cs), p run = true := by
  rw [CaseRun.ofText, String.toList_ofList]
  exact List.all_eq_true.1 h

def CaseRun.isCapitals (run : CaseRun) : Bool :=
  run.first == 65 && run.last == 90 && run.stride == 1 && run.shift == 32

-- the table is taken as its list of characters, which is as long
set_option maxRecDepth 50000 in
theorem isCapitals_foldRuns : ∀ run ∈ foldRuns, (run.isCapitals || 128 ≤ run.first) = true := by
  unfold foldRuns foldTable
  refine forall_mem_ofText _ ?_
  decide +kernel

set_option maxRecDepth 50000 in
theorem exists_isCapitals : ∃ run ∈ foldRuns, run.isCapitals = true := by
  rw [← List.any_eq_true]
  unfold foldRuns foldTable
  rw [CaseRun.ofText, String.toList_ofList]
  decide +kernel

/-- Only the capitals of ASCII have a folding in ASCII. -/
theorem image?_of_mem_foldRuns {run : CaseRun} (hrun : run ∈ foldRuns) {n : Nat} (hn : n < 128) :
    run.image? n = if run.isCapitals ∧ 65 ≤ n ∧ n ≤ 90 then some (n + 32) else none := by
  have hplace := isCapitals_foldRuns run hrun
  by_cases hcapitals : run.isCapitals = true
  · obtain ⟨first, last, stride, shift⟩ := run
    simp only [CaseRun.isCapitals, Bool.and_eq_true, beq_iff_eq] at hcapitals
    obtain ⟨⟨⟨rfl, rfl⟩, rfl⟩, rfl⟩ := hcapitals
    simp only [CaseRun.image?, CaseRun.isCapitals, Nat.mod_one, beq_self_eq_true, Bool.and_true,
      and_true, true_and]
    rfl
  · rw [Bool.or_eq_true, decide_eq_true_iff] at hplace
    have hfirst := hplace.resolve_left hcapitals
    rw [if_neg fun h => hcapitals h.1, CaseRun.image?, if_neg (by omega)]

theorem foldPoint_of_lt {n : Nat} (hn : n < 128) :
    foldPoint n = if 65 ≤ n ∧ n ≤ 90 then n + 32 else n := by
  rw [foldPoint]
  by_cases hcapital : 65 ≤ n ∧ n ≤ 90
  · have hsome : (foldRuns.findSome? (·.image? n)).isSome := by
      obtain ⟨run, hrun, hcapitals⟩ := exists_isCapitals
      rw [List.findSome?_isSome_iff]
      exact ⟨run, hrun, by rw [image?_of_mem_foldRuns hrun hn, if_pos ⟨hcapitals, hcapital⟩]; rfl⟩
    obtain ⟨m, hm⟩ := Option.isSome_iff_exists.1 hsome
    obtain ⟨run, hrun, himage⟩ := List.exists_of_findSome?_eq_some hm
    rw [image?_of_mem_foldRuns hrun hn] at himage
    split at himage
    · rw [hm, if_pos hcapital, Option.getD_some, ← Option.some.inj himage]
    · exact nomatch himage
  · have hnone : foldRuns.findSome? (·.image? n) = none := by
      rw [List.findSome?_eq_none_iff]
      intro run hrun
      rw [image?_of_mem_foldRuns hrun hn, if_neg fun h => hcapital h.2]
    rw [hnone, if_neg hcapital, Option.getD_none]

theorem mem_foldPairs_of_lt {n r : Nat} (hn : n < 128) :
    (n, r) ∈ foldPairs ↔ (65 ≤ n ∧ n ≤ 90) ∧ n + 32 = r := by
  simp only [foldPairs, List.mem_flatMap, List.mem_filterMap, Option.map_eq_some_iff, Prod.mk.injEq]
  constructor
  · rintro ⟨run, hrun, m, -, r', himage, rfl, rfl⟩
    rw [image?_of_mem_foldRuns hrun hn] at himage
    split at himage
    · rename_i h
      exact ⟨h.2, Option.some.inj himage⟩
    · exact nomatch himage
  · rintro ⟨hcapital, rfl⟩
    obtain ⟨run, hrun, hcapitals⟩ := exists_isCapitals
    refine ⟨run, hrun, n, ?_, n + 32, ?_, rfl, rfl⟩
    · simp only [CaseRun.isCapitals, Bool.and_eq_true, beq_iff_eq] at hcapitals
      obtain ⟨⟨⟨hfirst, hlast⟩, hstride⟩, -⟩ := hcapitals
      rw [CaseRun.members, hfirst, hlast, hstride, List.mem_map]
      exact ⟨n - 65, List.mem_range.2 (by omega), by omega⟩
    · rw [image?_of_mem_foldRuns hrun hn, if_pos ⟨hcapitals, hcapital⟩]

/-- The variants of a character in ASCII, other than those outside of it. -/
theorem mem_variants_of_lt {a b : Char} (ha : a.toNat < 128) (hb : b.toNat < 128) :
    a.toNat ∈ variants b.toNat ↔ a.toLower = b.toLower := by
  have hpairs : (∃ p ∈ foldPairs, (if p.2 == foldPoint b.toNat then some p.1 else none) = some a.toNat) ↔
      (a.toNat, foldPoint b.toNat) ∈ foldPairs := by
    constructor
    · rintro ⟨⟨m, r⟩, hp, h⟩
      split at h
      · rename_i hr
        rwa [← beq_iff_eq.1 hr, ← Option.some.inj h]
      · exact nomatch h
    · exact fun h => ⟨_, h, by simp⟩
  rw [variants, List.mem_cons, List.mem_filterMap, hpairs, mem_foldPairs_of_lt ha, foldPoint_of_lt hb,
    ← Char.toNat_inj, toNat_toLower, toNat_toLower]
  split_ifs <;> omega

end Text

end Understudy

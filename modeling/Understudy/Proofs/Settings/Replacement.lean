import Understudy.Proofs.Matcher.Wildcard
import Understudy.Proofs.Text.Folding
import Understudy.Proofs.Text.Occurrence
import Understudy.Settings.Replacement

/-!
# Replacing without regard to case

In ASCII the regular expression of the old value matches where the small form of the old value stands in the small form
of the text, and nowhere else (`spans_iff_of_parse?`). So both ways to replace pick the same places, one in the text and
the other in its small form.
-/

namespace Understudy

open Text

namespace Form.Replace

def IsAscii (s : String) : Prop := ∀ c ∈ s.toList, c.toNat < 128

/-- The places at which the old value is replaced in the text: those where it stands, picked from the left. -/
def Picks (old input : String) (places : Finset Nat) : Prop :=
  IsLeftmost (fun i => old.toList <+: input.toList.drop i) old.length places

variable {old new input : String} {places : Finset Nat} {re : Regex}

theorem apply_empty (new : String) (ignoreCase : Bool) (input : String) :
    apply ⟨"", new, ignoreCase⟩ input = input := rfl

theorem length_lower (s : String) : (lower s).length = s.length := by
  rw [lower, String.length_ofList, List.length_map, String.length_toList]

/-- There is one choice of places. -/
theorem existsUnique_picks (hold : old ≠ "") (input : String) : ∃! places, Picks old input places := by
  have hne : old.toList ≠ [] := by simpa using hold
  have hstands (i : Nat) (hi : old.toList <+: input.toList.drop i) : i < input.toList.length :=
    lt_length_of_prefix hne hi
  obtain ⟨places, hplaces⟩ := exists_isLeftmost (List.length_pos_of_ne_nil hne) hstands
  exact ⟨places, hplaces, fun others hothers => IsLeftmost.eq hothers hplaces⟩

/-- With regard to case the new value is put at the places of the old one. -/
theorem apply_of_picks (hold : old ≠ "") (h : Picks old input places) :
    apply ⟨old, new, false⟩ input = String.ofList (putAt places old.length new.toList input.toList) := by
  have hempty : old.isEmpty = false := by simpa using hold
  rw [apply, hempty]
  exact congrArg String.ofList (replaceEach_eq_putAt (by simpa using hold) h)

/-! ### The old value as a regular expression -/

/-- About how many states the automaton of an old value takes. -/
def states (old : String) : Nat := old.toList.foldl (fun n c => n + c.utf8Size) 1

theorem foldl_utf8Size {cs : List Char} (hcs : ∀ c ∈ cs, c.toNat < 128) (n : Nat) :
    cs.foldl (fun n c => n + c.utf8Size) n = n + cs.length := by
  induction cs generalizing n with
  | nil => rfl
  | cons c cs ih =>
      rw [List.forall_mem_cons] at hcs
      have hone : c.utf8Size = 1 :=
        Char.utf8Size_eq_one_iff.2 (UInt32.le_iff_toNat_le.2 (Nat.le_of_lt_succ hcs.1))
      rw [List.foldl_cons, hone, ih hcs.2, List.length_cons, Nat.add_right_comm, Nat.add_assoc]

theorem states_of_isAscii (hascii : IsAscii old) : states old = old.length + 1 := by
  rw [states, foldl_utf8Size hascii, String.length_toList, Nat.add_comm]

/-- The old value is read as its characters, each of them regardless of case, unless they take too many states. -/
theorem parse?_expression (old : String) :
    Regex.parse? false false (expression old) =
      if states old ≤ Regex.sizeLimit then some (.ofList (old.toList.map (.char true))) else none := by
  have hread : List.Forall₂ (Regex.ReadsAs true false) (old.toList.map Regex.quoted)
      (old.toList.map fun c => ⟨.char true c, 0, c.utf8Size⟩) := by
    rw [List.forall₂_map_left_iff, List.forall₂_map_right_iff, List.forall₂_same]
    exact fun c _ => Regex.readsAs_quoted c
  have hdepth : ∀ p ∈ old.toList.map fun c => (⟨.char true c, 0, c.utf8Size⟩ : Regex.Part),
      p.depth < Regex.depthLimit := by
    intro p hp
    obtain ⟨c, -, rfl⟩ := List.mem_map.1 hp
    exact (by decide : 0 < Regex.depthLimit)
  rw [expression, List.flatMap_def, Regex.parse?_caseless hread hdepth, List.foldl_map, List.map_map]
  rfl

theorem exists_parse?_expression (hascii : IsAscii old) :
    (∃ re, Regex.parse? false false (expression old) = some re) ↔ old.length < Regex.sizeLimit := by
  rw [parse?_expression, states_of_isAscii hascii]
  split
  · rename_i h
    exact iff_of_true ⟨_, rfl⟩ h
  · rename_i h
    exact iff_of_false (fun ⟨re, hre⟩ => nomatch hre) h

/-- In ASCII the set of a character without regard to case has those with the same small letter. -/
theorem has_caseless {c d : Char} (hc : c.toNat < 128) (hd : d.toNat < 128) :
    (CharSet.caseless (.single c)).has d.toNat = true ↔ c.toLower = d.toLower := by
  rw [← mem_variants_of_lt hc hd, CharSet.has, List.any_eq_true]
  simp only [Wildcard.has_single, exists_eq_right]

/-- The characters match where their small letters stand. -/
theorem spans_chars {cs text : List Char} (hcs : ∀ c ∈ cs, c.toNat < 128)
    (htext : ∀ c ∈ text, c.toNat < 128) {i j : Nat} :
    Regex.Spans text (.ofList (cs.map (.char true))) i j ↔
      j = i + cs.length ∧ cs.map Char.toLower <+: (text.map Char.toLower).drop i := by
  induction cs generalizing i with
  | nil => simp [Regex.ofList, Regex.Spans, eq_comm]
  | cons c cs ih =>
      rw [List.forall_mem_cons] at hcs
      have hfirst {k : Nat} : Regex.Spans text (.char true c) i k ↔
          k = i + 1 ∧ ∃ d ∈ text[i]?, (CharSet.caseless (.single c)).has d.toNat = true := Iff.rfl
      rw [List.map_cons, Regex.spans_ofList_cons, Relation.Comp]
      simp only [hfirst, ih hcs.2, List.length_cons]
      cases hd : text[i]? with
      | none =>
          rw [List.drop_eq_nil_of_le (by simpa using hd)]
          simp
      | some d =>
          obtain ⟨hi, rfl⟩ := List.getElem?_eq_some_iff.1 hd
          rw [List.drop_eq_getElem_cons (by simpa using hi), List.map_cons, List.cons_prefix_cons]
          simp only [Option.mem_some_iff, exists_eq_left', has_caseless hcs.1 (htext _ (List.getElem_mem hi)),
            List.getElem_map]
          constructor
          · rintro ⟨_, ⟨rfl, hsame⟩, rfl, hrest⟩
            exact ⟨by omega, hsame, hrest⟩
          · rintro ⟨rfl, hsame, hrest⟩
            exact ⟨i + 1, ⟨rfl, hsame⟩, by omega, hrest⟩

/-- The expression of the old value matches where its small form stands in the small form of the text. -/
theorem spans_iff_of_parse? (hascii : IsAscii old) (hinput : IsAscii input)
    (hre : Regex.parse? false false (expression old) = some re) (i j : Nat) :
    Regex.Spans input.toList re i j ↔
      j = i + old.length ∧ (lower old).toList <+: (lower input).toList.drop i := by
  rw [parse?_expression, Option.ite_none_right_eq_some, Option.some.injEq] at hre
  obtain ⟨-, rfl⟩ := hre
  rw [spans_chars hascii hinput, lower, lower, String.toList_ofList, String.toList_ofList,
    String.length_toList]

theorem apply_ignoreCase_of_picks (hold : old ≠ "") (hascii : IsAscii old) (hinput : IsAscii input)
    (hre : Regex.parse? false false (expression old) = some re)
    (h : Picks (lower old) (lower input) places) :
    apply ⟨old, new, true⟩ input = String.ofList (putAt places old.length new.toList input.toList) := by
  have hempty : old.isEmpty = false := by simpa using hold
  have hpos : 0 < old.length := by
    rw [← String.length_toList]
    exact List.length_pos_of_ne_nil (by simpa using hold)
  rw [Picks, length_lower] at h
  have hreplaced : re.replaceAll new.toList input.toList =
      putAt places old.length new.toList input.toList := by
    refine replaceWhere_eq_putAt hpos h fun i hi n => ?_
    -- the place is told from the length of the rest
    have hplace : input.toList.length - (input.toList.drop i).length = i := by
      rw [List.length_drop]
      omega
    simp only [hplace, Regex.lengthAt?_eq_some hi.le, spans_iff_of_parse? hascii hinput hre,
      Nat.add_left_cancel_iff]
    constructor
    · rintro ⟨⟨hn, hstands⟩, -⟩
      exact ⟨hstands, hn⟩
    · rintro ⟨hstands, rfl⟩
      exact ⟨⟨rfl, hstands⟩, fun m hm hshort => hm.ne hshort.1⟩
  simp only [apply, hempty, hre, hreplaced]
  rfl

/--
Without regard to case the new value is put at the places where it is put in the small form of the text for the small
form of the old one, which are those of the matches of a regular expression, and all else of the text is kept. Where the
small forms are the texts themselves both ways to replace agree, and so they do for an old value without characters. An
old value that is too long for a regular expression leaves the text as it is.
-/
theorem apply_agrees (old new input : String) :
    (old = "" → ∀ ignoreCase, apply ⟨old, new, ignoreCase⟩ input = input) ∧
    (old ≠ "" → IsAscii old → IsAscii input →
      (∃! places, Picks (lower old) (lower input) places) ∧
      (∀ places, Picks (lower old) (lower input) places →
        apply ⟨lower old, new, false⟩ (lower input) =
          String.ofList (putAt places old.length new.toList (lower input).toList)) ∧
      ((∃ re, Regex.parse? false false (expression old) = some re) ↔ old.length < Regex.sizeLimit) ∧
      (Regex.parse? false false (expression old) = none → apply ⟨old, new, true⟩ input = input) ∧
      ∀ re, Regex.parse? false false (expression old) = some re →
        (∀ i j, Regex.Spans input.toList re i j ↔
          j = i + old.length ∧ (lower old).toList <+: (lower input).toList.drop i) ∧
        (∀ places, Picks (lower old) (lower input) places → apply ⟨old, new, true⟩ input =
          String.ofList (putAt places old.length new.toList input.toList)) ∧
        (lower old = old → lower input = input →
          apply ⟨old, new, true⟩ input = apply ⟨old, new, false⟩ input)) := by
  refine ⟨?_, fun hold hascii hinput => ?_⟩
  · rintro rfl ignoreCase
    exact apply_empty new ignoreCase input
  · have hlower : lower old ≠ "" := by
      rwa [Ne, ← String.length_eq_zero_iff, length_lower, String.length_eq_zero_iff]
    have hunique := existsUnique_picks hlower (lower input)
    refine ⟨hunique, fun places h => ?_, exists_parse?_expression hascii, fun hnone => ?_,
      fun re hre => ⟨fun i j => spans_iff_of_parse? hascii hinput hre i j,
        fun places h => apply_ignoreCase_of_picks hold hascii hinput hre h, fun hsame htext => ?_⟩⟩
    · rw [apply_of_picks hlower h, length_lower]
    · simp only [apply, hnone, if_true, ite_self]
    · obtain ⟨places, h, -⟩ := hunique
      rw [apply_ignoreCase_of_picks hold hascii hinput hre h]
      rw [hsame, htext] at h
      exact (apply_of_picks hold h).symm

end Form.Replace

end Understudy

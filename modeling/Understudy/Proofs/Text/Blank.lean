import Mathlib.Data.List.DropRight
import Understudy.Proofs.Text.Ascii
import Understudy.Text.Blank

/-!
# Texts without blanks at their ends

Taking the blanks off both ends of a text leaves a text that has none there, and such a text stays as it is. Nothing is
added on the way, nothing but blanks is lost, and blanks put at the ends are taken off again.
-/

namespace Understudy

namespace Text

structure Trimmed (cs : List Char) : Prop where
  head : ∀ c ∈ cs.head?, isBlank c = false
  last : ∀ c ∈ cs.getLast?, isBlank c = false

variable {s : String} {c : Char} {cs : List Char}

theorem trimLeft_of_head (h : ∀ c ∈ cs.head?, isBlank c = false) : trimLeft cs = cs := by
  cases cs with
  | nil => rfl
  | cons c cs => rw [trimLeft, List.dropWhile_cons_of_neg (by simp [h c rfl])]

theorem trimRight_of_last (h : ∀ c ∈ cs.getLast?, isBlank c = false) : trimRight cs = cs := by
  have hreverse : trimLeft cs.reverse = cs.reverse :=
    trimLeft_of_head fun c hc => h c (by rwa [List.head?_reverse] at hc)
  rw [trimRight]
  exact List.reverse_eq_iff.2 hreverse

theorem trim_of_trimmed (h : Trimmed s.toList) : trim s = s := by
  rw [trim, trimLeft_of_head h.head, trimRight_of_last h.last, String.ofList_toList]

theorem trim_eq_self (h : ∀ c ∈ s.toList, isBlank c = false) : trim s = s :=
  trim_of_trimmed ⟨fun c hc => h c (List.mem_of_mem_head? hc), fun c hc => h c (List.mem_of_mem_getLast? hc)⟩

theorem head?_trimLeft (cs : List Char) : ∀ c ∈ (trimLeft cs).head?, isBlank c = false := by
  intro c hc
  have hne : trimLeft cs ≠ [] := by
    rintro hnil
    rw [hnil] at hc
    exact nomatch hc
  have hhead := List.head_dropWhile_not isBlank hne
  rwa [← Option.some.inj ((List.head?_eq_some_head hne).symm.trans hc)]

theorem head?_trimRight (h : ∀ c ∈ cs.head?, isBlank c = false) :
    ∀ c ∈ (trimRight cs).head?, isBlank c = false := by
  intro c hc
  obtain ⟨rest, hrest⟩ : trimRight cs <+: cs := List.rdropWhile_prefix isBlank cs
  refine h c ?_
  rw [← hrest, List.head?_append, hc]
  rfl

theorem trimmed_trim (s : String) : Trimmed (trim s).toList := by
  rw [trim, String.toList_ofList]
  refine ⟨head?_trimRight (head?_trimLeft s.toList), fun c hc => ?_⟩
  rw [trimRight, List.getLast?_reverse] at hc
  exact head?_trimLeft _ c hc

/-- A text that is left when the blanks at its ends are taken off has a character that is no blank. -/
theorem isAllBlank_trim (h : (trim s).isEmpty = false) : isAllBlank (trim s) = false := by
  have hne : (trim s).toList ≠ [] := by simpa using h
  obtain ⟨c, rest, hcs⟩ := List.exists_cons_of_ne_nil hne
  have hc : isBlank c = false := (trimmed_trim s).head c (by rw [hcs]; rfl)
  rw [isAllBlank, hcs, List.all_eq_false]
  exact ⟨c, List.mem_cons_self, by simp [hc]⟩

theorem mem_of_mem_trim (h : c ∈ (trim s).toList) : c ∈ s.toList := by
  rw [trim, String.toList_ofList] at h
  have hleft : c ∈ trimLeft s.toList := (List.rdropWhile_prefix isBlank _).subset h
  exact (List.dropWhile_suffix isBlank).subset hleft

theorem trim_cons (h : isBlank c = true) (cs : List Char) :
    trim (String.ofList (c :: cs)) = trim (String.ofList cs) := by
  rw [trim, trim, String.toList_ofList, String.toList_ofList, trimLeft,
    List.dropWhile_cons_of_pos h, ← trimLeft]

theorem trimRight_append_of_blank {blanks : List Char} (h : ∀ c ∈ blanks, isBlank c = true)
    (cs : List Char) : trimRight (cs ++ blanks) = trimRight cs := by
  have hreverse : ∀ c ∈ blanks.reverse, isBlank c = true := fun c hc => h c (List.mem_reverse.1 hc)
  rw [trimRight, trimRight, List.reverse_append, List.dropWhile_append_of_pos hreverse]

theorem trim_append_of_blank {blanks : List Char} (h : ∀ c ∈ blanks, isBlank c = true)
    (cs : List Char) : trim (String.ofList (cs ++ blanks)) = trim (String.ofList cs) := by
  rw [trim, trim, String.toList_ofList, String.toList_ofList, trimLeft, trimLeft, List.dropWhile_append]
  split
  · rename_i hempty
    have hnil : blanks.dropWhile isBlank = [] := List.dropWhile_eq_nil_iff.2 h
    rw [hnil, List.isEmpty_iff.1 hempty]
  · rw [trimRight_append_of_blank h]

theorem exists_trim (s : String) : ∃ front back, s.toList = front ++ (trim s).toList ++ back ∧
    (∀ c ∈ front, isBlank c = true) ∧ ∀ c ∈ back, isBlank c = true := by
  refine ⟨s.toList.takeWhile isBlank, (trimLeft s.toList).rtakeWhile isBlank, ?_,
    fun c => List.mem_takeWhile_imp, fun c => List.mem_rtakeWhile_imp⟩
  have hback : trimRight (trimLeft s.toList) ++ (trimLeft s.toList).rtakeWhile isBlank =
      trimLeft s.toList := List.rdropWhile_append_rtakeWhile
  rw [trim, String.toList_ofList, List.append_assoc, hback]
  exact List.takeWhile_append_dropWhile.symm

theorem mem_trim_of_mem (hc : c ∈ s.toList) (hblank : isBlank c = false) : c ∈ (trim s).toList := by
  obtain ⟨front, back, hs, hfront, hback⟩ := exists_trim s
  have hends {blanks : List Char} (h : ∀ c ∈ blanks, isBlank c = true) : c ∉ blanks := fun hmem => by
    rw [h c hmem] at hblank
    exact nomatch hblank
  rw [hs, List.mem_append, List.mem_append] at hc
  exact (hc.resolve_right (hends hback)).resolve_left (hends hfront)

theorem isBlank_toLower (c : Char) : isBlank c.toLower = isBlank c := by
  rw [Bool.eq_iff_iff]
  simp only [isBlank, toNat_toLower, Bool.or_eq_true, Bool.and_eq_true, decide_eq_true_eq, beq_iff_eq]
  split <;> omega

theorem trim_lower (s : String) : trim (lower s) = lower (trim s) := by
  have hsame : isBlank ∘ Char.toLower = isBlank := funext isBlank_toLower
  rw [trim, trim, lower, lower, String.toList_ofList, String.toList_ofList, trimRight, trimLeft,
    List.dropWhile_map, hsame, ← List.map_reverse, List.dropWhile_map, hsame, ← List.map_reverse]
  rfl

end Text

end Understudy

import Understudy.Text.Cut

/-!
# Cuts of texts that were joined

A text that was put together from parts without the separator is cut into these parts again: at one place
(`cutOnce_append`), at a pair of separators (`cutOnce_pair`), and at every place (`cutAtChar_intercalate`).
-/

namespace Understudy

namespace Text

variable {sep : Char} {a b cs : List Char}

theorem dropFront?_eq_none_of_head {c d : Char} (h : c ≠ d) (front rest : List Char) :
    dropFront? (c :: front) (d :: rest) = none := by
  simp [dropFront?, h]

theorem cutOnce_append (ha : sep ∉ a) (b : List Char) :
    cutOnce [sep] (a ++ sep :: b) = some (a, b) := by
  induction a with
  | nil => simp [cutOnce, dropFront?]
  | cons c a ih =>
      rw [List.mem_cons, not_or] at ha
      rw [List.cons_append, cutOnce, dropFront?_eq_none_of_head ha.1, ih ha.2]
      rfl

theorem notMem_of_cutOnce (h : cutOnce [sep] cs = some (a, b)) : sep ∉ a := by
  induction cs generalizing a with
  | nil => exact nomatch h
  | cons c cs ih =>
      rw [cutOnce] at h
      split at h
      · rw [← (Prod.mk.inj (Option.some.inj h)).1]
        exact List.not_mem_nil
      · rename_i hnone
        obtain ⟨⟨a', b'⟩, hcut, hparts⟩ := Option.map_eq_some_iff.1 h
        have hc : sep ≠ c := by
          rintro rfl
          exact absurd hnone (by simp [dropFront?])
        obtain ⟨rfl, rfl⟩ := Prod.mk.inj hparts
        exact fun hmem => (List.mem_cons.1 hmem).elim hc (ih hcut)

theorem cutOnce_eq_none : cutOnce [sep] cs = none ↔ sep ∉ cs := by
  constructor
  · intro h hmem
    obtain ⟨a, b, rfl, ha⟩ := List.eq_append_cons_of_mem hmem
    rw [cutOnce_append ha] at h
    exact nomatch h
  · intro h
    cases hcut : cutOnce [sep] cs with
    | none => rfl
    | some parts =>
        rw [cutOnce_eq_some (a := parts.1) (b := parts.2) hcut] at h
        simp at h

theorem cutOnce_eq_some_iff :
    cutOnce [sep] cs = some (a, b) ↔ sep ∉ a ∧ cs = a ++ sep :: b := by
  constructor
  · intro h
    refine ⟨notMem_of_cutOnce h, ?_⟩
    rw [cutOnce_eq_some h, List.append_assoc, List.singleton_append]
  · rintro ⟨ha, rfl⟩
    exact cutOnce_append ha b

theorem splitOnce_eq_some {text front back s : String} (htext : text.toList = [sep]) :
    splitOnce text s = some (front, back) ↔ sep ∉ front.toList ∧ s = front ++ text ++ back := by
  have hjoin (a b : List Char) : s.toList = a ++ sep :: b ↔
      s = String.ofList a ++ text ++ String.ofList b := by
    rw [← String.toList_inj]
    simp [htext]
  rw [splitOnce, htext, Option.map_eq_some_iff]
  constructor
  · rintro ⟨⟨a, b⟩, hcut, hparts⟩
    obtain ⟨rfl, rfl⟩ := Prod.mk.inj hparts
    rw [cutOnce_eq_some_iff, hjoin] at hcut
    rwa [String.toList_ofList]
  · rintro ⟨hfront, hs⟩
    refine ⟨(front.toList, back.toList), cutOnce_eq_some_iff.2 ⟨hfront, ?_⟩, ?_⟩
    · rw [hjoin, String.ofList_toList, String.ofList_toList, hs]
    · simp only [String.ofList_toList]

theorem splitOnce_eq_none {text s : String} (htext : text.toList = [sep]) :
    splitOnce text s = none ↔ sep ∉ s.toList := by
  rw [splitOnce, htext, Option.map_eq_none_iff, cutOnce_eq_none]

theorem stripBack?_eq_some {back s front : String} :
    stripBack? back s = some front ↔ s = front ++ back := by
  have hend (rest : List Char) : s.toList.reverse = back.toList.reverse ++ rest ↔
      s = String.ofList rest.reverse ++ back := by
    rw [← String.toList_inj, String.toList_append, String.toList_ofList, ← List.reverse_inj]
    simp
  rw [stripBack?, Option.map_eq_some_iff]
  constructor
  · rintro ⟨rest, hrest, rfl⟩
    exact (hend rest).1 (dropFront?_eq_some.1 hrest)
  · intro hs
    refine ⟨front.toList.reverse, dropFront?_eq_some.2 ((hend _).2 ?_), ?_⟩
    · rw [List.reverse_reverse, String.ofList_toList, hs]
    · rw [List.reverse_reverse, String.ofList_toList]

/-- No two separators follow each other. -/
def Single (sep : Char) : List Char → Prop
  | [] => True
  | [_] => True
  | c :: d :: cs => ¬ (c = sep ∧ d = sep) ∧ Single sep (d :: cs)

theorem single_of_notMem (h : sep ∉ cs) : Single sep cs := by
  fun_induction Single sep cs with
  | case1 => trivial
  | case2 => trivial
  | case3 c d cs ih =>
      rw [List.mem_cons, not_or] at h
      exact ⟨fun hcd => h.1 hcd.1.symm, ih h.2⟩

theorem single_append (ha : sep ∉ a) (hb : Single sep b) (hhead : b.head? ≠ some sep) :
    Single sep (a ++ sep :: b) := by
  induction a with
  | nil =>
      cases b with
      | nil => trivial
      | cons d b => exact ⟨fun h => hhead (by rw [h.2]; rfl), hb⟩
  | cons c a ih =>
      rw [List.mem_cons, not_or] at ha
      cases a with
      | nil => exact ⟨fun h => ha.1 h.1.symm, ih ha.2⟩
      | cons d a => exact ⟨fun h => ha.1 h.1.symm, ih ha.2⟩

theorem cutOnce_eq_none_of_single (h : Single sep cs) : cutOnce [sep, sep] cs = none := by
  fun_induction Single sep cs with
  | case1 => rfl
  | case2 c =>
      by_cases hc : sep = c
      · simp [cutOnce, dropFront?, hc]
      · simp [cutOnce, dropFront?, hc]
  | case3 c d cs ih =>
      have hpair : dropFront? [sep, sep] (c :: d :: cs) = none := by
        by_cases hc : sep = c
        · have hd : sep ≠ d := fun hd => h.1 ⟨hc.symm, hd.symm⟩
          simp [dropFront?, hc, hc ▸ hd]
        · exact dropFront?_eq_none_of_head hc _ _
      rw [cutOnce, hpair, ih h.2]
      rfl

/-- The first pair of separators is where a part without one ends. -/
theorem cutOnce_pair (ha : Single sep a) (hlast : a.getLast? ≠ some sep) (b : List Char) :
    cutOnce [sep, sep] (a ++ sep :: sep :: b) = some (a, b) := by
  fun_induction Single sep a with
  | case1 => simp [cutOnce, dropFront?]
  | case2 c =>
      have hc : sep ≠ c := fun hc => hlast (by rw [hc]; rfl)
      simp [cutOnce, dropFront?, hc]
  | case3 c d cs ih =>
      have hpair : dropFront? [sep, sep] (c :: (d :: cs ++ sep :: sep :: b)) = none := by
        by_cases hc : sep = c
        · have hd : sep ≠ d := fun hd => ha.1 ⟨hc.symm, hd.symm⟩
          simp [dropFront?, hc, hc ▸ hd]
        · exact dropFront?_eq_none_of_head hc _ _
      rw [List.cons_append, cutOnce, hpair, ih ha.2 (by simpa using hlast)]
      rfl

theorem cutAtChar_of_notMem (h : sep ∉ cs) : cutAtChar sep cs = [cs] := by
  induction cs with
  | nil => rfl
  | cons c cs ih =>
      rw [List.mem_cons, not_or] at h
      rw [cutAtChar, if_neg (Ne.symm h.1), ih h.2]

theorem cutAtChar_append (ha : sep ∉ a) (b : List Char) :
    cutAtChar sep (a ++ sep :: b) = a :: cutAtChar sep b := by
  induction a with
  | nil => simp [cutAtChar]
  | cons c a ih =>
      rw [List.mem_cons, not_or] at ha
      rw [List.cons_append, cutAtChar, if_neg (Ne.symm ha.1), ih ha.2]

theorem cutAtChar_append_cons (sep : Char) (a b : List Char) :
    cutAtChar sep (a ++ sep :: b) = cutAtChar sep a ++ cutAtChar sep b := by
  induction a with
  | nil => simp [cutAtChar]
  | cons c a ih =>
      rw [List.cons_append, cutAtChar, cutAtChar, ih]
      split
      · rfl
      · cases hparts : cutAtChar sep a with
        | nil => exact absurd hparts (cutAtChar_ne_nil sep a)
        | cons part parts => rfl

/-- What stands behind a text and has no separator belongs to the last part. -/
theorem exists_cutAtChar_append (hb : sep ∉ b) (a : List Char) :
    ∃ init last, cutAtChar sep a = init ++ [last] ∧ cutAtChar sep (a ++ b) = init ++ [last ++ b] := by
  induction a with
  | nil => exact ⟨[], [], rfl, cutAtChar_of_notMem hb⟩
  | cons c a ih =>
      obtain ⟨init, last, hparts, hwhole⟩ := ih
      rw [List.cons_append, cutAtChar, cutAtChar, hparts, hwhole]
      split
      · exact ⟨[] :: init, last, rfl, rfl⟩
      · cases init with
        | nil => exact ⟨[], c :: last, rfl, rfl⟩
        | cons part init => exact ⟨(c :: part) :: init, last, rfl, rfl⟩

theorem mem_of_mem_cutAtChar {part : List Char} (hpart : part ∈ cutAtChar sep cs) {c : Char}
    (hc : c ∈ part) : c ∈ cs ∧ c ≠ sep := by
  induction cs generalizing part with
  | nil =>
      rw [cutAtChar, List.mem_singleton] at hpart
      rw [hpart] at hc
      exact absurd hc List.not_mem_nil
  | cons d cs ih =>
      rw [cutAtChar] at hpart
      split at hpart
      · rcases List.mem_cons.1 hpart with rfl | hpart
        · exact absurd hc List.not_mem_nil
        · exact (ih hpart hc).imp_left (List.mem_cons_of_mem d)
      · rename_i hd
        split at hpart
        · rw [List.mem_singleton.1 hpart, List.mem_singleton] at hc
          rw [hc]
          exact ⟨List.mem_cons_self, hd⟩
        · rename_i first rest hparts
          rw [hparts] at ih
          rcases List.mem_cons.1 hpart with rfl | hpart
          · rcases List.mem_cons.1 hc with rfl | hc
            · exact ⟨List.mem_cons_self, hd⟩
            · exact (ih List.mem_cons_self hc).imp_left (List.mem_cons_of_mem d)
          · exact (ih (List.mem_cons_of_mem first hpart) hc).imp_left (List.mem_cons_of_mem d)

theorem exists_last_part (sep : Char) (cs : List Char) :
    ∃ front last init, sep :: cs = front ++ sep :: last ∧ sep ∉ last ∧
      cutAtChar sep cs = init ++ [last] := by
  by_cases hsep : sep ∈ cs
  · obtain ⟨a, b, rfl, ha⟩ := List.eq_append_cons_of_mem hsep
    obtain ⟨front, last, init, hsplit, hlast, hparts⟩ := exists_last_part sep b
    refine ⟨sep :: a ++ front, last, a :: init, ?_, hlast, ?_⟩
    · rw [List.append_assoc, ← hsplit]
      rfl
    · rw [cutAtChar_append ha, hparts, List.cons_append]
  · exact ⟨[], cs, [], rfl, hsep, cutAtChar_of_notMem hsep⟩
termination_by cs.length
decreasing_by
  subst_vars
  simp
  omega

/-- What stands behind the last separator is the same in two splits of one list. -/
theorem back_eq_of_notMem {α : Type} {x : α} {front front' back back' : List α}
    (h : front ++ x :: back = front' ++ x :: back') (hback : x ∉ back) (hback' : x ∉ back') :
    back = back' := by
  rcases List.append_eq_append_iff.1 h with ⟨mid, -, hmid⟩ | ⟨mid, -, hmid⟩
  · cases mid with
    | nil => exact (List.cons.inj hmid).2
    | cons y mid => exact absurd (by simp [(List.cons.inj hmid).2]) hback
  · cases mid with
    | nil => exact (List.cons.inj hmid).2.symm
    | cons y mid => exact absurd (by simp [(List.cons.inj hmid).2]) hback'

theorem intercalate_cons_cons (part next : List Char) (parts : List (List Char)) :
    [sep].intercalate (part :: next :: parts) = part ++ sep :: [sep].intercalate (next :: parts) := by
  simp [List.intercalate, List.intersperse]

theorem intercalate_pair (sep blank : Char) (part : List Char) (parts : List (List Char)) :
    [sep, blank].intercalate (part :: parts) = [sep].intercalate (part :: parts.map (blank :: ·)) := by
  induction parts generalizing part with
  | nil => rfl
  | cons next parts ih =>
      rw [List.intercalate_cons_cons, ih next, List.map_cons, intercalate_cons_cons]
      cases parts <;> simp

theorem forall_mem_intercalate {p : Char → Prop} {sep : List Char} {parts : List (List Char)}
    (h : ∀ part ∈ parts, ∀ c ∈ part, p c) (hsep : ∀ c ∈ sep, p c) :
    ∀ c ∈ sep.intercalate parts, p c := by
  induction parts with
  | nil => exact List.forall_mem_nil p
  | cons part parts ih =>
      rw [List.forall_mem_cons] at h
      cases parts with
      | nil => simpa [List.intercalate] using h.1
      | cons next parts =>
          rw [List.intercalate_cons_cons, List.forall_mem_append, List.forall_mem_append]
          exact ⟨⟨h.1, hsep⟩, ih h.2⟩

theorem mem_intercalate {sep part : List Char} {parts : List (List Char)} (hpart : part ∈ parts)
    {c : Char} (hc : c ∈ part) : c ∈ sep.intercalate parts := by
  induction parts with
  | nil => exact absurd hpart List.not_mem_nil
  | cons first parts ih =>
      cases parts with
      | nil =>
          rw [List.mem_singleton.1 hpart] at hc
          simpa [List.intercalate] using hc
      | cons next parts =>
          rw [List.intercalate_cons_cons]
          rcases List.mem_cons.1 hpart with rfl | hpart
          · exact List.mem_append_left _ (List.mem_append_left _ hc)
          · exact List.mem_append_right _ (ih hpart)

theorem exists_mem_cutAtChar {c : Char} (hc : c ∈ cs) (hne : c ≠ sep) :
    ∃ part ∈ cutAtChar sep cs, c ∈ part := by
  refine Classical.byContradiction fun hnone => ?_
  have hparts : ∀ part ∈ cutAtChar sep cs, ∀ d ∈ part, d ≠ c := by
    rintro part hpart d hd rfl
    exact hnone ⟨part, hpart, hd⟩
  have hall := forall_mem_intercalate hparts (List.forall_mem_singleton.2 (Ne.symm hne))
  rw [intercalate_cutAtChar] at hall
  exact hall c hc rfl

/-- Parts without the separator are found again. -/
theorem cutAtChar_intercalate {parts : List (List Char)} (hne : parts ≠ [])
    (h : ∀ part ∈ parts, sep ∉ part) : cutAtChar sep ([sep].intercalate parts) = parts := by
  induction parts with
  | nil => exact absurd rfl hne
  | cons part parts ih =>
      rw [List.forall_mem_cons] at h
      cases parts with
      | nil => simpa [List.intercalate] using cutAtChar_of_notMem h.1
      | cons next parts =>
          rw [intercalate_cons_cons, cutAtChar_append h.1, ih (by simp) h.2]

theorem head?_intercalate {part : List Char} (hne : part ≠ []) (parts : List (List Char)) :
    ([sep].intercalate (part :: parts)).head? = part.head? := by
  obtain ⟨c, cs, rfl⟩ := List.exists_cons_of_ne_nil hne
  cases parts with
  | nil => simp [List.intercalate]
  | cons next parts =>
      rw [intercalate_cons_cons]
      rfl

/-- Parts that are not empty and without the separator are joined without a pair of separators. -/
theorem single_intercalate {parts : List (List Char)}
    (h : ∀ part ∈ parts, sep ∉ part ∧ part ≠ []) : Single sep ([sep].intercalate parts) := by
  induction parts with
  | nil => exact trivial
  | cons part parts ih =>
      rw [List.forall_mem_cons] at h
      cases parts with
      | nil => simpa [List.intercalate] using single_of_notMem h.1.1
      | cons next parts =>
          obtain ⟨hsep, hne⟩ := h.2 next (by simp)
          rw [intercalate_cons_cons]
          apply single_append h.1.1 (ih h.2)
          rw [head?_intercalate hne]
          exact fun hhead => hsep (List.mem_of_mem_head? hhead)

theorem getLast?_intercalate {parts : List (List Char)}
    (h : ∀ part ∈ parts, sep ∉ part ∧ part ≠ []) :
    ([sep].intercalate parts).getLast? ≠ some sep := by
  induction parts with
  | nil => simp [List.intercalate]
  | cons part parts ih =>
      rw [List.forall_mem_cons] at h
      cases parts with
      | nil =>
          intro hlast
          exact h.1.1 (List.mem_of_getLast? (by simpa [List.intercalate] using hlast))
      | cons next parts =>
          have hjoin : [sep].intercalate (next :: parts) ≠ [] := by
            intro hnil
            have hhead : ([sep].intercalate (next :: parts)).head? = next.head? :=
              head?_intercalate (h.2 next (by simp)).2 parts
            rw [hnil, List.head?_nil, eq_comm, List.head?_eq_none_iff] at hhead
            exact (h.2 next (by simp)).2 hhead
          rw [intercalate_cons_cons, List.getLast?_append, List.getLast?_cons_of_ne_nil hjoin,
            Option.or_of_isSome (List.getLast?_isSome.2 hjoin)]
          exact ih h.2

end Text

end Understudy

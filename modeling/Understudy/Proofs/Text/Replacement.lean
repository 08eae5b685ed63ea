import Mathlib.Data.List.Basic
import Understudy.Text.Cut

/-!
# Replacing an escaped character

In a text that is written character by character, some of them behind a backslash, replacing a backslash with the
character `m` behind it changes how `m` is written and nothing else (`replaceEach_flatMap`). Such a pair could also
stand across two characters: behind an escaped backslash, where the next one starts with `m`. So no character
may be written with `m` in front.
-/

namespace Understudy

namespace Text

variable {m : Char} {new : List Char}

theorem replaceEach_pair (cs : List Char) :
    replaceEach ['\\', m] new ('\\' :: m :: cs) = new ++ replaceEach ['\\', m] new cs := by
  simp [replaceEach, replaceWhere, dropFront?]

theorem replaceEach_cons {c : Char} {cs : List Char} (h : c = '\\' → cs.head? ≠ some m) :
    replaceEach ['\\', m] new (c :: cs) = c :: replaceEach ['\\', m] new cs := by
  have hnone : dropFront? ['\\', m] (c :: cs) = none := by
    rw [Option.eq_none_iff_forall_ne_some]
    intro rest hrest
    obtain ⟨rfl, rfl⟩ := List.cons.inj (dropFront?_eq_some.1 hrest)
    exact h rfl rfl
  rw [replaceEach, replaceWhere, hnone]
  rfl

/-- A way to write a character in which no escaped `m` stands, nor begins or ends. -/
structure Clear (m : Char) (written : List Char) : Prop where
  head : written.head? ≠ some m
  inside : '\\' ∉ written ∨ ∃ c, c ≠ m ∧ written = ['\\', c]

theorem replaceEach_append {front cs : List Char} (hfront : '\\' ∉ front) :
    replaceEach ['\\', m] new (front ++ cs) = front ++ replaceEach ['\\', m] new cs := by
  induction front with
  | nil => rfl
  | cons c front ih =>
      rw [List.mem_cons, not_or] at hfront
      rw [List.cons_append, replaceEach_cons fun hc => absurd hc.symm hfront.1, ih hfront.2]
      rfl

theorem Clear.replaceEach_append {written cs : List Char} (h : Clear m written)
    (hcs : cs.head? ≠ some m) :
    replaceEach ['\\', m] new (written ++ cs) = written ++ replaceEach ['\\', m] new cs := by
  obtain hinside | ⟨c, hc, rfl⟩ := h.inside
  · exact Text.replaceEach_append hinside
  · have hhead : (c :: cs).head? ≠ some m := fun hm => hc (Option.some.inj hm)
    rw [List.cons_append, List.cons_append, List.nil_append, replaceEach_cons fun _ => hhead,
      replaceEach_cons fun _ => hcs]
    rfl

variable {write : Char → List Char}

theorem head?_flatMap_ne (hm : m ≠ '\\') (hwrite : write m = ['\\', m])
    (hclear : ∀ c, c ≠ m → Clear m (write c)) (cs : List Char) :
    (cs.flatMap write).head? ≠ some m := by
  have hhead : ∀ c, (write c).head? ≠ some m := by
    intro c
    by_cases hc : c = m
    · rw [hc, hwrite]
      exact fun h => hm (Option.some.inj h).symm
    · exact (hclear c hc).head
  rw [List.head?_flatMap, Ne, List.findSome?_eq_some_iff]
  rintro ⟨-, c, -, -, hc, -⟩
  exact hhead c hc

/-- Only the character whose escape is replaced is written otherwise. -/
theorem replaceEach_flatMap (hm : m ≠ '\\') (hwrite : write m = ['\\', m])
    (hclear : ∀ c, c ≠ m → Clear m (write c)) (cs : List Char) :
    replaceEach ['\\', m] new (cs.flatMap write) =
      cs.flatMap fun c => if c = m then new else write c := by
  induction cs with
  | nil => rfl
  | cons c cs ih =>
      rw [List.flatMap_cons, List.flatMap_cons]
      by_cases hc : c = m
      · rw [if_pos hc, hc, hwrite, ← ih]
        exact replaceEach_pair _
      · rw [if_neg hc, (hclear c hc).replaceEach_append (head?_flatMap_ne hm hwrite hclear cs), ih]

end Text

end Understudy

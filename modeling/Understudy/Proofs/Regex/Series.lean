import Mathlib.Data.List.Forall2
import Understudy.Regex.Parser

/-!
# Reading a series piece by piece

A piece of a pattern that reads as one part (`ReadsAs`) does so wherever it stands, as long as no question mark follows
it. So a pattern that is written piece by piece is read as the sequence of their parts, unless these take too many
states (`parse?_flatten`).
-/

namespace Understudy

namespace Regex

variable {ignoreCase dotAll : Bool} {fuel : Nat} {parts : Parts} {cs : List Char}

/-- The reader in front of these characters, with the two flags. -/
def Cursor.before (ignoreCase dotAll : Bool) (cs : List Char) : Cursor where
  rest := cs
  flags := ⟨ignoreCase, false, dotAll, false, false, true⟩
  names := []

/-! ### One step of the reader -/

theorem space_before : Reading.space (.before ignoreCase dotAll cs) = some ((), .before ignoreCase dotAll cs) := rfl

theorem peek_before :
    Reading.peek (.before ignoreCase dotAll cs) = some (cs.head?, .before ignoreCase dotAll cs) := rfl

theorem series_nil :
    series (fuel + 1) parts (.before ignoreCase dotAll []) = some (parts.close, .before ignoreCase dotAll []) := rfl

theorem series_start :
    series (fuel + 1) parts (.before ignoreCase dotAll ('^' :: cs)) =
      series fuel (some ⟨.anchor .textStart, 0, 1⟩ :: parts) (.before ignoreCase dotAll cs) := rfl

theorem series_end :
    series (fuel + 1) parts (.before ignoreCase dotAll ('$' :: cs)) =
      series fuel (some ⟨.anchor .textEnd, 0, 1⟩ :: parts) (.before ignoreCase dotAll cs) := rfl

theorem series_point :
    series (fuel + 1) parts (.before ignoreCase true ('.' :: cs)) =
      series fuel (some ⟨anyChar, 0, 12⟩ :: parts) (.before ignoreCase true cs) := rfl

/-- A question mark behind the star would belong to it. -/
theorem series_star {p : Part} (h : cs.head? ≠ some '?') :
    series (fuel + 1) (some p :: parts) (.before ignoreCase dotAll ('*' :: cs)) =
      series fuel (some ⟨.repetition p.regex 0 none, p.depth + 1, p.size + 2⟩ :: parts)
        (.before ignoreCase dotAll cs) := by
  rw [show p.size + 2 = p.size * 1 + 1 + 1 by rw [Nat.mul_one]]
  cases cs with
  | nil => rfl
  | cons c cs =>
      have hmark : (some c == some '?') = false := beq_false_of_ne h
      change (ite ((some c == some '?') = true) (_ : Reading Part) _) _ = _
      rw [hmark]
      rfl

theorem isMeta_iff {c : Char} :
    isMeta c = true ↔ c ∈ ['\\', '.', '+', '*', '?', '(', ')', '|', '[', ']', '\x7b', '\x7d', '^', '$', '#',
      '&', '-', '~'] := by
  rw [isMeta, List.contains_iff_mem]
  rfl

theorem escape_of_isMeta {c : Char} (hc : isMeta c = true) (flags : Flags) (names : List (List Char)) :
    escape ⟨'\\' :: c :: cs, flags, names⟩ = some (.literal c, ⟨cs, flags, names⟩) := by
  rw [isMeta_iff] at hc
  simp only [List.mem_cons, List.not_mem_nil, or_false] at hc
  rcases hc with rfl | rfl | rfl | rfl | rfl | rfl | rfl | rfl | rfl | rfl | rfl | rfl | rfl | rfl |
    rfl | rfl | rfl | rfl <;> rfl

theorem series_escaped {c : Char} (hc : isMeta c = true) :
    series (fuel + 1) parts (.before ignoreCase dotAll ('\\' :: c :: cs)) =
      series fuel (some ⟨.char ignoreCase c, 0, c.utf8Size⟩ :: parts) (.before ignoreCase dotAll cs) := by
  change Option.bind (escape ⟨'\\' :: c :: cs, _, []⟩) _ = _
  rw [escape_of_isMeta hc]
  cases ignoreCase <;> rfl

theorem series_literal {c : Char} (hc : isMeta c = false) :
    series (fuel + 1) parts (.before ignoreCase dotAll (c :: cs)) =
      series fuel (some ⟨.char ignoreCase c, 0, c.utf8Size⟩ :: parts) (.before ignoreCase dotAll cs) := by
  have hmem := mt isMeta_iff.2 (Bool.eq_false_iff.1 hc)
  simp only [List.mem_cons, not_or] at hmem
  rw [series]
  simp only [bind, StateT.bind, space_before, peek_before, Option.bind_some, List.head?_cons]
  simp only [hmem, imp_self]
  cases ignoreCase <;> rfl

/-! ### Pieces of a pattern -/

/-- The piece is read as one part, in no more steps than it has characters. -/
structure ReadsAs (ignoreCase dotAll : Bool) (piece : List Char) (p : Part) : Prop where
  head : piece.head? ≠ some '?'
  steps : ∀ (fuel : Nat) (parts : Parts) (cs : List Char), cs.head? ≠ some '?' →
    ∃ left ≥ fuel, series (fuel + piece.length) parts (.before ignoreCase dotAll (piece ++ cs)) =
      series left (some p :: parts) (.before ignoreCase dotAll cs)

theorem readsAs_start : ReadsAs ignoreCase dotAll ['^'] ⟨.anchor .textStart, 0, 1⟩ where
  head := by decide
  steps fuel _ _ _ := ⟨fuel, Nat.le_refl _, series_start⟩

theorem readsAs_end : ReadsAs ignoreCase dotAll ['$'] ⟨.anchor .textEnd, 0, 1⟩ where
  head := by decide
  steps fuel _ _ _ := ⟨fuel, Nat.le_refl _, series_end⟩

theorem readsAs_point : ReadsAs ignoreCase true ['.'] ⟨anyChar, 0, 12⟩ where
  head := by decide
  steps fuel _ _ _ := ⟨fuel, Nat.le_refl _, series_point⟩

theorem readsAs_run : ReadsAs ignoreCase true ['.', '*'] ⟨anyRun, 1, 14⟩ where
  head := by decide
  steps fuel _ _ h := ⟨fuel, Nat.le_refl _, series_point.trans (series_star h)⟩

theorem readsAs_escaped {c : Char} (hc : isMeta c = true) :
    ReadsAs ignoreCase dotAll ['\\', c] ⟨.char ignoreCase c, 0, c.utf8Size⟩ where
  head := by simp
  steps fuel _ _ _ := ⟨fuel + 1, Nat.le_succ _, series_escaped hc⟩

theorem readsAs_literal {c : Char} (hc : isMeta c = false) :
    ReadsAs ignoreCase dotAll [c] ⟨.char ignoreCase c, 0, c.utf8Size⟩ where
  head h := by
    rw [Option.some.inj h] at hc
    exact absurd hc (by decide)
  steps fuel _ _ _ := ⟨fuel, Nat.le_refl _, series_literal hc⟩

theorem readsAs_quoted (c : Char) :
    ReadsAs ignoreCase dotAll (quoted c) ⟨.char ignoreCase c, 0, c.utf8Size⟩ := by
  unfold quoted
  split
  · rename_i hmeta
    exact readsAs_escaped hmeta
  · rename_i hmeta
    exact readsAs_literal (Bool.eq_false_iff.2 hmeta)

variable {pieces : List (List Char)} {ps : List Part}

theorem head?_flatten_of_readsAs (h : List.Forall₂ (ReadsAs ignoreCase dotAll) pieces ps) :
    pieces.flatten.head? ≠ some '?' := by
  induction h with
  | nil => exact nofun
  | @cons piece _ _ _ hp _ ih =>
      cases piece with
      | nil => exact ih
      | cons c piece => exact hp.head

/-- Pieces that are read as parts one by one are read as all these parts. -/
theorem series_flatten (h : List.Forall₂ (ReadsAs ignoreCase dotAll) pieces ps) (fuel : Nat) (parts : Parts)
    (hfuel : pieces.flatten.length < fuel) :
    series fuel parts (.before ignoreCase dotAll pieces.flatten) =
      some (Parts.close ((ps.map some).reverse ++ parts), .before ignoreCase dotAll []) := by
  induction h generalizing fuel parts with
  | nil =>
      obtain ⟨fuel, rfl⟩ := Nat.exists_eq_add_one.2 (Nat.zero_lt_of_lt hfuel)
      exact series_nil
  | @cons piece p pieces ps hp h ih =>
      rw [List.flatten_cons, List.length_append] at hfuel
      obtain ⟨fuel, rfl⟩ := Nat.exists_eq_add_of_le' (show piece.length ≤ fuel by omega)
      obtain ⟨left, hleft, hstep⟩ := hp.steps fuel parts _ (head?_flatten_of_readsAs h)
      rw [List.flatten_cons, hstep, ih left _ (by omega)]
      simp

/-! ### Whole patterns -/

theorem foldl_depth_le {limit : Nat} {ps : List Part} (h : ∀ p ∈ ps, p.depth ≤ limit) {d : Nat}
    (hd : d ≤ limit) : ps.foldl (fun d p => max d p.depth) d ≤ limit := by
  induction ps generalizing d with
  | nil => exact hd
  | cons p ps ih =>
      rw [List.forall_mem_cons] at h
      exact ih h.2 (Nat.max_le.2 ⟨hd, h.1⟩)

theorem filterMap_close {front : Parts} (hfront : ∀ p ∈ front, p = none) (ps : List Part) :
    ((ps.map some).reverse ++ front).reverse.filterMap id = ps := by
  have hnone : front.reverse.filterMap id = [] := by simpa using hfront
  rw [List.reverse_append, List.reverse_reverse, List.filterMap_append, hnone, List.nil_append,
    List.filterMap_map]
  exact List.filterMap_some

theorem depth_close_le {front : Parts} (hfront : ∀ p ∈ front, p = none) {limit : Nat}
    (h : ∀ p ∈ ps, p.depth ≤ limit) : (Parts.close ((ps.map some).reverse ++ front)).depth ≤ limit + 1 := by
  have hdeepest := foldl_depth_le h (Nat.zero_le limit)
  rw [Parts.close, filterMap_close hfront]
  dsimp only
  split <;> omega

theorem alternatives_of_series {s : Cursor} {p : Part}
    (h : series fuel [] s = some (p, .before ignoreCase dotAll [])) :
    alternatives (fuel + 1) [] s = some (p, .before ignoreCase dotAll []) := by
  rw [alternatives]
  change Option.bind (series fuel [] s) _ = _
  rw [h]
  rfl

/-- A pattern that is read as a series of parts is read as their sequence, unless they take too many states. -/
theorem parse?_of_series {front : Parts} (hfront : ∀ p ∈ front, p = none) {i d : Bool}
    (hdepth : ∀ p ∈ ps, p.depth < depthLimit)
    (h : series (2 * cs.length + 2) [] (.before ignoreCase dotAll cs) =
      some (Parts.close ((ps.map some).reverse ++ front), .before i d [])) :
    parse? ignoreCase dotAll (String.ofList cs) =
      if ps.foldl (fun n p => n + p.size) 1 ≤ sizeLimit then some (ofList (ps.map (·.regex)))
      else none := by
  have hread := alternatives_of_series h
  have hclose : (Parts.close ((ps.map some).reverse ++ front)).depth ≤ depthLimit :=
    depth_close_le hfront fun p hp => Nat.le_pred_of_lt (hdepth p hp)
  unfold Cursor.before at hread
  rw [parse?]
  simp only [String.toList_ofList, hread, List.isEmpty_nil, hclose, decide_true, Bool.true_and,
    decide_eq_true_eq]
  simp only [Parts.close, filterMap_close hfront]

/-- A pattern that is written piece by piece is read as the sequence of their parts. -/
theorem parse?_flatten (h : List.Forall₂ (ReadsAs ignoreCase dotAll) pieces ps)
    (hdepth : ∀ p ∈ ps, p.depth < depthLimit) :
    parse? ignoreCase dotAll (String.ofList pieces.flatten) =
      if ps.foldl (fun n p => n + p.size) 1 ≤ sizeLimit then some (ofList (ps.map (·.regex)))
      else none :=
  parse?_of_series (List.forall_mem_nil _) hdepth (series_flatten h _ [] (by omega))

/-- A change of flags in front makes a pattern regardless of case. -/
theorem series_caseless :
    series (fuel + 2) [] (.before ignoreCase dotAll ('(' :: '?' :: 'i' :: ')' :: cs)) =
      series (fuel + 1) [none] (.before true dotAll cs) := rfl

theorem parse?_caseless (h : List.Forall₂ (ReadsAs true dotAll) pieces ps)
    (hdepth : ∀ p ∈ ps, p.depth < depthLimit) :
    parse? ignoreCase dotAll ("(?i)" ++ String.ofList pieces.flatten) =
      if ps.foldl (fun n p => n + p.size) 1 ≤ sizeLimit then some (ofList (ps.map (·.regex)))
      else none := by
  have htext : "(?i)" ++ String.ofList pieces.flatten =
      String.ofList ('(' :: '?' :: 'i' :: ')' :: pieces.flatten) := by
    rw [← String.toList_inj]
    simp
  have hseries := series_flatten h (2 * ('(' :: '?' :: 'i' :: ')' :: pieces.flatten).length + 1) [none]
    (by simp only [List.length_cons]; omega)
  rw [htext]
  exact parse?_of_series (List.forall_mem_singleton.2 rfl) hdepth (series_caseless.trans hseries)

end Regex

end Understudy

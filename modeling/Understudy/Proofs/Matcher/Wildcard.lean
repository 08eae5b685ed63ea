import Mathlib.Data.List.Forall2
import Understudy.Matcher.Basic
import Understudy.Proofs.Regex.Series
import Understudy.Proofs.Regex.Spans
import Understudy.Proofs.Text.Replacement

/-!
# What a wildcard pattern matches

A wildcard pattern matches a text exactly when the text can be cut into pieces, one for each character of the pattern,
such that each piece is one that its character covers (`Covers`). The text that is made of the pattern by quoting and
replacing (`expression`) is read as a sequence of one part for each character (`regex`), unless that takes too many states.
-/

namespace Understudy

open Regex (Spans Part ReadsAs quoted)

namespace Wildcard

/-- The character of a pattern may stand for this piece of a text. -/
def Covers (c : Char) (piece : List Char) : Prop :=
  if c = '*' then True else if c = '?' then piece.length = 1 else piece = [c]

def part (ignoreCase : Bool) (c : Char) : Regex :=
  if c = '*' then .anyRun else if c = '?' then .anyChar else .char ignoreCase c

def regex (ignoreCase : Bool) (pattern : String) : Regex :=
  .ofList ([.anchor .textStart] ++ pattern.toList.map (part ignoreCase) ++ [.anchor .textEnd])

/-! ### Pieces of a text -/

/-- The piece stands in the text from one place to another. -/
def Stands (text piece : List Char) (i j : Nat) : Prop :=
  text.drop i = piece ++ text.drop j ∧ j = i + piece.length

variable {text a b : List Char} {c : Char} {i j : Nat}

theorem stands_nil : Stands text [] i j ↔ i = j := by
  constructor
  · exact fun h => h.2.symm
  · rintro rfl
    exact ⟨rfl, rfl⟩

theorem stands_append :
    Stands text (a ++ b) i j ↔ ∃ k, Stands text a i k ∧ Stands text b k j := by
  constructor
  · rintro ⟨hdrop, hj⟩
    rw [List.append_assoc] at hdrop
    have hbehind : text.drop (i + a.length) = b ++ text.drop j := by
      rw [← List.drop_drop, hdrop, List.drop_left]
    refine ⟨i + a.length, ⟨?_, rfl⟩, hbehind, ?_⟩
    · rw [hdrop, hbehind]
    · rw [hj, List.length_append, Nat.add_assoc]
  · rintro ⟨k, ⟨ha, rfl⟩, hb, rfl⟩
    exact ⟨by rw [ha, hb, List.append_assoc], by rw [List.length_append, Nat.add_assoc]⟩

theorem stands_singleton : Stands text [c] i j ↔ j = i + 1 ∧ text[i]? = some c := by
  constructor
  · rintro ⟨hdrop, rfl⟩
    refine ⟨rfl, ?_⟩
    rw [← List.head?_drop, hdrop]
    rfl
  · rintro ⟨rfl, hc⟩
    obtain ⟨hi, rfl⟩ := List.getElem?_eq_some_iff.1 hc
    exact ⟨List.drop_eq_getElem_cons hi, rfl⟩

theorem stands_all : Stands text a 0 text.length ↔ a = text := by
  constructor
  · rintro ⟨h, -⟩
    rw [List.drop_length, List.append_nil] at h
    exact h.symm
  · rintro rfl
    exact ⟨by simp, (Nat.zero_add _).symm⟩

/-! ### What each part takes -/

theorem has_all (c : Char) : CharSet.all.has c.toNat = true := by
  have hc : c.toNat ≤ Text.CodePoints.last := by
    obtain h | ⟨-, h⟩ := c.valid
    · exact h.le.trans (by decide)
    · exact Nat.le_of_lt_succ h
  simp [CharSet.all, CharSet.has, Text.CodePoints.has, hc]

theorem has_single {c : Char} {n : Nat} : (CharSet.single c).has n = true ↔ n = c.toNat := by
  simp only [CharSet.single, CharSet.has, Text.CodePoints.has, List.any_cons, List.any_nil, Bool.or_false,
    Bool.and_eq_true, decide_eq_true_eq]
  omega

theorem spans_anyChar : Spans text .anyChar i j ↔ ∃ c, Stands text [c] i j := by
  simp only [stands_singleton, exists_and_left]
  exact and_congr_right fun _ => exists_congr fun c => and_iff_left (has_all c)

theorem spans_char : Spans text (.char false c) i j ↔ Stands text [c] i j := by
  rw [stands_singleton]
  refine and_congr_right fun _ => ?_
  constructor
  · rintro ⟨d, hd, hhas⟩
    rw [← Char.toNat_inj.1 (has_single.1 hhas)]
    exact hd
  · exact fun hc => ⟨c, hc, has_single.2 rfl⟩

theorem times_anyChar {n : Nat} :
    Regex.times (Spans text .anyChar) n i j ↔ ∃ piece, piece.length = n ∧ Stands text piece i j := by
  induction n generalizing i with
  | zero =>
      simp only [List.length_eq_zero_iff, exists_eq_left, stands_nil]
      rfl
  | succ n ih =>
      constructor
      · rintro ⟨k, hik, hkj⟩
        obtain ⟨c, hc⟩ := spans_anyChar.1 hik
        obtain ⟨piece, rfl, hpiece⟩ := ih.1 hkj
        exact ⟨c :: piece, rfl, stands_append.2 ⟨k, hc, hpiece⟩⟩
      · rintro ⟨piece, hlength, hpiece⟩
        cases piece with
        | nil => exact nomatch hlength
        | cons c piece =>
            obtain ⟨k, hc, hrest⟩ := stands_append (a := [c]).1 hpiece
            exact ⟨k, spans_anyChar.2 ⟨c, hc⟩, ih.2 ⟨piece, Nat.succ.inj hlength, hrest⟩⟩

theorem spans_anyRun : Spans text .anyRun i j ↔ ∃ piece, Stands text piece i j := by
  constructor
  · rintro ⟨n, -, -, hn⟩
    obtain ⟨piece, -, hpiece⟩ := times_anyChar.1 hn
    exact ⟨piece, hpiece⟩
  · rintro ⟨piece, hpiece⟩
    exact ⟨piece.length, Nat.zero_le _, nofun, times_anyChar.2 ⟨piece, rfl, hpiece⟩⟩

theorem spans_part :
    Spans text (part false c) i j ↔ ∃ piece, Covers c piece ∧ Stands text piece i j := by
  unfold part Covers
  split
  · simpa using spans_anyRun
  · split
    · rw [spans_anyChar]
      constructor
      · exact fun ⟨c, hc⟩ => ⟨[c], rfl, hc⟩
      · rintro ⟨piece, hlength, hpiece⟩
        obtain ⟨c, rfl⟩ := List.length_eq_one_iff.1 hlength
        exact ⟨c, hpiece⟩
    · rw [spans_char, exists_eq_left]

/-! ### What the pattern takes -/

theorem spans_parts {cs : List Char} :
    Spans text (.ofList (cs.map (part false))) i j ↔
      ∃ pieces, List.Forall₂ Covers cs pieces ∧ Stands text pieces.flatten i j := by
  induction cs generalizing i with
  | nil => simp [Regex.ofList, Spans, stands_nil]
  | cons c cs ih =>
      rw [List.map_cons, Regex.spans_ofList_cons]
      constructor
      · rintro ⟨k, hik, hkj⟩
        obtain ⟨piece, hcovers, hpiece⟩ := spans_part.1 hik
        obtain ⟨pieces, hall, hpieces⟩ := ih.1 hkj
        exact ⟨piece :: pieces, .cons hcovers hall, stands_append.2 ⟨k, hpiece, hpieces⟩⟩
      · rintro ⟨pieces, hall, hpieces⟩
        cases hall with
        | cons hcovers hall =>
            obtain ⟨k, hpiece, hpieces⟩ := stands_append.1 hpieces
            exact ⟨k, spans_part.2 ⟨_, hcovers, hpiece⟩, ih.2 ⟨_, hall, hpieces⟩⟩

theorem spans_textStart (hi : i ≤ text.length) :
    Spans text (.anchor .textStart) i j ↔ i = 0 ∧ j = 0 := by
  cases i with
  | zero => simp [Spans, Regex.charBefore, Regex.Anchor.holds, eq_comm]
  | succ i => simp [Spans, Regex.charBefore, Regex.Anchor.holds, List.getElem?_eq_getElem hi]

theorem spans_textEnd (hi : i ≤ text.length) :
    Spans text (.anchor .textEnd) i j ↔ i = text.length ∧ j = text.length := by
  simp only [Spans, Regex.Anchor.holds, Option.isNone_iff_eq_none, List.getElem?_eq_none_iff]
  omega

theorem spans_regex {pattern : String} (hi : i ≤ text.length) :
    Spans text (regex false pattern) i j ↔
      i = 0 ∧ j = text.length ∧
        ∃ pieces, List.Forall₂ Covers pattern.toList pieces ∧ pieces.flatten = text := by
  rw [regex, Regex.spans_ofList_append, Regex.spans_ofList_append]
  constructor
  · rintro ⟨l, ⟨k, hstart, hparts⟩, hend⟩
    obtain ⟨rfl, rfl⟩ := (spans_textStart hi).1 hstart
    obtain ⟨rfl, rfl⟩ := (spans_textEnd (Regex.le_length_of_spans hparts hi)).1 hend
    obtain ⟨pieces, hall, hpieces⟩ := spans_parts.1 hparts
    exact ⟨rfl, rfl, pieces, hall, stands_all.1 hpieces⟩
  · rintro ⟨rfl, rfl, pieces, hall, hpieces⟩
    have hparts := spans_parts.2 ⟨pieces, hall, stands_all.2 hpieces⟩
    exact ⟨text.length, ⟨0, (spans_textStart hi).2 ⟨rfl, rfl⟩, hparts⟩,
      (spans_textEnd le_rfl).2 ⟨rfl, rfl⟩⟩

theorem occursIn_regex {pattern s : String} :
    (regex false pattern).occursIn s = true ↔
      ∃ pieces, List.Forall₂ Covers pattern.toList pieces ∧ pieces.flatten = s.toList := by
  rw [Regex.occursIn_iff]
  constructor
  · rintro ⟨i, j, hi, hspans⟩
    exact ((spans_regex hi).1 hspans).2.2
  · exact fun hcut => ⟨0, _, Nat.zero_le _, (spans_regex (Nat.zero_le _)).2 ⟨rfl, rfl, hcut⟩⟩

/-! ### The pattern as a regular expression -/

/-- How one character of a pattern ends up in the regular expression. -/
def written (c : Char) : List Char :=
  if c = '?' then ['.'] else if c = '*' then ['.', '*'] else quoted c

theorem clear_quoted {m : Char} (hback : m ≠ '\\') (hc : c ≠ m) :
    Text.Clear m (quoted c) := by
  unfold quoted
  split
  · exact ⟨by simpa using hback.symm, .inr ⟨c, hc, rfl⟩⟩
  · rename_i hmeta
    refine ⟨by simpa using hc, .inl fun hmem => hmeta ?_⟩
    rw [← List.mem_singleton.1 hmem]
    rfl

theorem replaceEach_quoted (cs : List Char) :
    Text.replaceEach ['\\', '?'] ['.'] (Text.replaceEach ['\\', '*'] ['.', '*'] (cs.flatMap quoted)) =
      cs.flatMap written := by
  have hstar : ∀ c, c ≠ '*' → Text.Clear '*' (quoted c) := fun _ => clear_quoted (by decide)
  have hmark : ∀ c, c ≠ '?' → Text.Clear '?' (if c = '*' then ['.', '*'] else quoted c) := by
    intro c hc
    split
    · exact ⟨by decide, .inl (by decide)⟩
    · exact clear_quoted (by decide) hc
  rw [Text.replaceEach_flatMap (by decide) rfl hstar, Text.replaceEach_flatMap (by decide) rfl hmark]
  rfl

def readPart (ignoreCase : Bool) (c : Char) : Part :=
  if c = '*' then ⟨.anyRun, 1, 14⟩
  else if c = '?' then ⟨.anyChar, 0, 12⟩
  else ⟨.char ignoreCase c, 0, c.utf8Size⟩

def parts (ignoreCase : Bool) (pattern : String) : List Part :=
  [⟨.anchor .textStart, 0, 1⟩] ++ pattern.toList.map (readPart ignoreCase) ++ [⟨.anchor .textEnd, 0, 1⟩]

variable {ignoreCase : Bool}

theorem readsAs_written (c : Char) : ReadsAs ignoreCase true (written c) (readPart ignoreCase c) := by
  unfold written readPart
  split
  · rename_i hc
    rw [if_neg (by rw [hc]; decide)]
    exact Regex.readsAs_point
  · split
    · exact Regex.readsAs_run
    · exact Regex.readsAs_quoted c

theorem regex_readPart (c : Char) : (readPart ignoreCase c).regex = part ignoreCase c := by
  unfold readPart part
  split
  · rfl
  · split <;> rfl

theorem depth_readPart (c : Char) : (readPart ignoreCase c).depth ≤ 1 := by
  unfold readPart
  split
  · exact le_rfl
  · split <;> exact Nat.zero_le 1

theorem map_regex_parts (pattern : String) :
    .ofList ((parts ignoreCase pattern).map (·.regex)) = regex ignoreCase pattern := by
  simp [parts, regex, Function.comp_def, regex_readPart]

/-- About how many states the automaton of a pattern takes. -/
def states (ignoreCase : Bool) (pattern : String) : Nat :=
  (parts ignoreCase pattern).foldl (fun n p => n + p.size) 1

theorem expression_eq (pattern : String) :
    expression pattern =
      String.ofList ([['^']] ++ pattern.toList.map written ++ [['$']]).flatten := by
  rw [expression, replaceEach_quoted]
  simp [List.flatMap_def]

/-- A backslash of the pattern stands for itself, also in front of a star. -/
example : expression "a\\*b?.c" = "^a\\\\.*b.\\.c$" := by decide +kernel

theorem forall₂_readsAs (pattern : String) :
    List.Forall₂ (ReadsAs ignoreCase true) ([['^']] ++ pattern.toList.map written ++ [['$']])
      (parts ignoreCase pattern) := by
  have hparts : List.Forall₂ (ReadsAs ignoreCase true) (pattern.toList.map written)
      (pattern.toList.map (readPart ignoreCase)) := by
    rw [List.forall₂_map_left_iff, List.forall₂_map_right_iff, List.forall₂_same]
    exact fun c _ => readsAs_written c
  exact List.rel_append (List.rel_append (.cons Regex.readsAs_start .nil) hparts)
    (.cons Regex.readsAs_end .nil)

theorem depth_parts (pattern : String) : ∀ p ∈ parts ignoreCase pattern, p.depth ≤ 1 := by
  intro p hp
  simp only [parts, List.mem_append, List.mem_singleton, List.mem_map] at hp
  obtain (rfl | ⟨c, -, rfl⟩) | rfl := hp
  · exact Nat.zero_le 1
  · exact depth_readPart c
  · exact Nat.zero_le 1

/-- The regular expression of a pattern is read from its text, unless it takes too many states. -/
theorem parse?_expression (pattern : String) :
    Regex.parse? ignoreCase true (expression pattern) =
      if states ignoreCase pattern ≤ Regex.sizeLimit then some (regex ignoreCase pattern) else none := by
  have hdepth : ∀ p ∈ parts ignoreCase pattern, p.depth < Regex.depthLimit :=
    fun p hp => (depth_parts pattern p hp).trans_lt (by decide)
  rw [expression_eq, Regex.parse?_flatten (forall₂_readsAs pattern) hdepth, map_regex_parts]
  rfl

theorem ofWildcard_eq (ignoreCase : Bool) (pattern : String) :
    Matcher.Pattern.ofWildcard pattern ignoreCase =
      if states ignoreCase pattern ≤ Regex.sizeLimit then some ⟨pattern, regex ignoreCase pattern⟩
      else none := by
  rw [Matcher.Pattern.ofWildcard, Matcher.Pattern.build, parse?_expression]
  split <;> rfl

def matcher (pattern : String) : Matcher := .ofKind (.wildcard [⟨pattern, regex false pattern⟩])

theorem ofWildcard_of_le {pattern : String} (h : states ignoreCase pattern ≤ Regex.sizeLimit) :
    Matcher.Pattern.ofWildcard pattern ignoreCase = some ⟨pattern, regex ignoreCase pattern⟩ := by
  rw [ofWildcard_eq, if_pos h]

theorem wildcard_of_le {pattern : String} (h : states false pattern ≤ Regex.sizeLimit) :
    Matcher.wildcard pattern = .ok (matcher pattern) := by
  rw [Matcher.wildcard, ofWildcard_of_le h]
  rfl

/--
A wildcard pattern is compiled unless it takes too many states. When it is, it matches the texts that can be cut into
pieces that its characters cover, one after the other.
-/
theorem matches_iff_cut (pattern text : String) :
    Matcher.Pattern.ofWildcard pattern false =
      (if states false pattern ≤ Regex.sizeLimit then some ⟨pattern, regex false pattern⟩ else none) ∧
    ∀ p, Matcher.Pattern.ofWildcard pattern false = some p →
      (p.matches? text = true ↔
        ∃ pieces, List.Forall₂ Covers pattern.toList pieces ∧ pieces.flatten = text.toList) := by
  refine ⟨ofWildcard_eq false pattern, fun p hp => ?_⟩
  rw [ofWildcard_eq, Option.ite_none_right_eq_some, Option.some.injEq] at hp
  obtain ⟨-, rfl⟩ := hp
  exact occursIn_regex

end Wildcard

end Understudy

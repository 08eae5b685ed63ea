import Understudy.Proofs.Json.Strings
import Understudy.Proofs.Matcher.Compile

/-!
# What a matcher keeps when it is written

A matcher that was compiled is written in a form that compiles again, and `Matcher.rewritten` is what comes back. It
scores every attribute as before exactly when the matcher is `Kept`: a JSON text must not read as JSON itself, and
a bound of a range must be a finite number or leave open the side that it leaves open anyway.
-/

namespace Understudy

open Traversal

namespace NumericRange

/-- The bounds are numbers or infinities that bound nothing. -/
def Kept (r : NumericRange) : Prop :=
  (∀ x ∈ r.min, x ≠ .nan ∧ x ≠ .infinite false) ∧ (∀ x ∈ r.max, x ≠ .nan ∧ x ≠ .infinite true)

theorem low_le {x : Binary64} (hx : x.isNaN = false) : (Binary64.infinite true).le x = true := by
  cases x with
  | nan => exact absurd hx (by simp [Binary64.isNaN])
  | infinite b => cases b <;> rfl
  | finite s m => rfl

theorem le_high {x : Binary64} (hx : x.isNaN = false) : x.le (.infinite false) = true := by
  cases x with
  | nan => exact absurd hx (by simp [Binary64.isNaN])
  | infinite b => cases b <;> rfl
  | finite s m => rfl

/-- Bounds that bound nothing may be left out. -/
theorem all_filter_isFinite {bound : Option Binary64} {p : Binary64 → Bool}
    (h : ∀ b ∈ bound, b.isFinite = false → p b = true) :
    (bound.filter (·.isFinite)).all p = bound.all p := by
  cases bound with
  | none => rfl
  | some b =>
      cases hb : b.isFinite with
      | false => simp [Option.filter, hb, h b rfl hb]
      | true => simp [Option.filter, hb]

theorem all_filter_of_finite {p : Binary64 → Bool}
    (h : ∀ negative magnitude, p (.finite negative magnitude) = true) (bound : Option Binary64) :
    (bound.filter (·.isFinite)).all p = true := by
  rw [Option.all_eq_true]
  intro b hb
  obtain ⟨-, hfinite⟩ := Option.mem_filter_iff.1 hb
  cases b with
  | finite negative magnitude => exact h negative magnitude
  | _ => exact absurd hfinite (by simp [Binary64.isFinite])

theorem min_rewritten {bound : Option Binary64} (h : ∀ b ∈ bound, b ≠ .nan ∧ b ≠ .infinite false)
    {x : Binary64} (hx : x.isNaN = false) :
    (bound.filter (·.isFinite)).all (·.le x) = bound.all (·.le x) := by
  refine all_filter_isFinite fun b hb hinfinite => ?_
  match b, h b hb, hinfinite with
  | .infinite true, _, _ => exact low_le hx
  | .infinite false, h, _ => exact absurd rfl h.2
  | .nan, h, _ => exact absurd rfl h.1

theorem max_rewritten {bound : Option Binary64} (h : ∀ b ∈ bound, b ≠ .nan ∧ b ≠ .infinite true)
    {x : Binary64} (hx : x.isNaN = false) :
    (bound.filter (·.isFinite)).all x.le = bound.all x.le := by
  refine all_filter_isFinite fun b hb hinfinite => ?_
  match b, h b hb, hinfinite with
  | .infinite false, _, _ => exact le_high hx
  | .infinite true, h, _ => exact absurd rfl h.2
  | .nan, h, _ => exact absurd rfl h.1

theorem containsText_rewritten {r : NumericRange} (h : r.Kept) (s : String) :
    r.rewritten.containsText s = r.containsText s := by
  unfold containsText
  split
  · rename_i x _
    cases hx : x.isNaN with
    | true => rfl
    | false => rw [contains, contains, rewritten, min_rewritten h.1 hx, max_rewritten h.2 hx]
  · rfl

/-- A range that is not kept lets an infinity in that it kept out. -/
theorem exists_of_not_kept {r : NumericRange} (h : ¬ r.Kept) :
    ∃ s, r.rewritten.containsText s ≠ r.containsText s := by
  have hlow : Numeral.double? (Text.trim "-inf") = some (.infinite true) := by decide +kernel
  have hhigh : Numeral.double? (Text.trim "inf") = some (.infinite false) := by decide +kernel
  rw [Kept, not_and_or] at h
  rcases h with h | h
  · -- the lower bound shuts out all but itself and is then left open
    obtain ⟨b, hb, hbad⟩ : ∃ b, r.min = some b ∧ (b = .nan ∨ b = .infinite false) := by
      simpa [not_and_or, Classical.or_iff_not_imp_left] using h
    refine ⟨"-inf", ?_⟩
    have hopen : r.rewritten.min = none := by
      rw [rewritten, hb]
      rcases hbad with rfl | rfl <;> rfl
    have hshut : r.min.all (·.le (.infinite true)) = false := by
      rw [hb]
      rcases hbad with rfl | rfl <;> rfl
    simp only [containsText, hlow, contains, hopen, hshut, Option.all_none, Bool.true_and,
      Bool.false_and, Bool.and_false]
    rw [rewritten, all_filter_of_finite fun _ _ => rfl]
    decide
  · -- and so does the upper bound
    obtain ⟨b, hb, hbad⟩ : ∃ b, r.max = some b ∧ (b = .nan ∨ b = .infinite true) := by
      simpa [not_and_or, Classical.or_iff_not_imp_left] using h
    refine ⟨"inf", ?_⟩
    have hopen : r.rewritten.max = none := by
      rw [rewritten, hb]
      rcases hbad with rfl | rfl <;> rfl
    have hshut : r.max.all ((Binary64.infinite false).le ·) = false := by
      rw [hb]
      rcases hbad with rfl | rfl <;> rfl
    simp only [containsText, hhigh, contains, hopen, hshut, Option.all_none, Bool.and_true,
      Bool.and_false]
    rw [rewritten, all_filter_of_finite fun _ _ => rfl]
    decide

end NumericRange

theorem Fold.ofForm_toForm (f : Fold) : Fold.ofForm f.toForm = .ok f := by
  by_cases hf : f = .or
  · rw [hf]
    rfl
  · rw [toForm, if_neg hf]
    simp only [ofForm, ofName?_name]
    rfl

namespace Matcher

namespace Kind

/-- The kind scores as before when it has been written and compiled again. -/
def Kept : Kind → Prop
  | .json (.string s) => Json.parse? s = none
  | .jsonPartial (.string s) => Json.parse? s = none
  | .numericRange r => r.Kept
  | _ => True

theorem reread_of_kept {v : Json} (h : ∀ s, v = .string s → Json.parse? s = none) :
    reread v = v := by
  cases v with
  | string s => rw [reread, h s rfl, Option.getD_none]
  | _ => rfl

theorem verdicts_rewritten {kind : Kind} (h : kind.Kept) (ignoreCase : Bool) (input : Attribute) :
    kind.rewritten.verdicts ignoreCase input = kind.verdicts ignoreCase input := by
  cases kind with
  | json v =>
      have hv : reread v = v := reread_of_kept fun s hs => by
        subst hs
        exact h
      rw [rewritten, hv]
  | jsonPartial v =>
      have hv : reread v = v := reread_of_kept fun s hs => by
        subst hs
        exact h
      rw [rewritten, hv]
  | numericRange r =>
      simp only [rewritten, verdicts, NumericRange.containsText_rewritten h]
  | _ => rfl

@[simp] theorem isFolded_rewritten (kind : Kind) : kind.rewritten.isFolded = kind.isFolded := by
  cases kind <;> rfl

/-- A value that a JSON text is read as is not the text. -/
theorem equals_reread {s : String} {v : Json} (h : Json.parse? s = some v) (ignoreCase : Bool) :
    Json.equals ignoreCase v (.string s) = false := by
  cases v with
  | string t =>
      have hne := Json.lowercase_ne_of_parse? h
      have hst : t ≠ s := fun e => hne (by rw [e])
      cases ignoreCase <;> simp [Json.equals, Json.sameLeaf, Json.sameText, hne, hst]
  | _ => simp [Json.equals, Json.sameLeaf]

theorem includes_string (ignoreCase : Bool) (v : Json) (s : String) :
    Json.includes ignoreCase v (.string s) = Json.equals ignoreCase v (.string s) := by
  cases v <;> simp [Json.includes]

end Kind

def rewritten (m : Matcher) : Matcher := { m with kind := m.kind.rewritten }

def Compiled (m : Matcher) : Prop := m.kind.Compiled m.ignoreCase

def Kept (m : Matcher) : Prop := m.kind.Kept

theorem score_rewritten {α : Type} [Scale α] {m : Matcher} (h : m.Kept) (input : Attribute) :
    (m.rewritten.score input : α) = m.score input := by
  simp only [score, rawScore, rewritten, Kind.verdicts_rewritten h, Kind.isFolded_rewritten]

theorem patterns_toForm (m : Matcher) :
    m.toForm.patterns.getD m.toForm.pattern.toList = m.patterns := by
  unfold toForm
  simp only
  split
  · rename_i hnone
    rw [hnone]
    rfl
  · rename_i p hone
    rw [hone]
    rfl
  · rfl

@[simp] theorem getD_ifTrue (b : Bool) : (ifTrue b).getD false = b := by
  cases b <;> rfl

theorem ofForm_toForm {m : Matcher} (h : m.Compiled) : ofForm m.toForm = .ok m.rewritten := by
  have hcompile : compile m.toForm.name (m.toForm.patterns.getD m.toForm.pattern.toList)
      (m.toForm.ignoreCase.getD false) =
        .ok { ofKind m.kind.rewritten with ignoreCase := m.ignoreCase } := by
    have hcase : m.toForm.ignoreCase.getD false = m.ignoreCase := getD_ifTrue _
    have hname : m.toForm.name = m.kind.name := rfl
    rw [patterns_toForm, hcase, hname, patterns, compile, Kind.compile_patterns h]
    rfl
  unfold ofForm
  refine bind_eq_ok.2 ⟨_, hcompile, bind_eq_ok.2 ⟨_, Fold.ofForm_toForm m.fold, ?_⟩⟩
  have hreject : Behaviour.ofReject (m.toForm.rejectOnMatch.getD false) = m.behaviour := by
    have hvalue : m.toForm.rejectOnMatch.getD false = m.behaviour.isReject := getD_ifTrue _
    rw [hvalue]
    cases m.behaviour <;> rfl
  rw [hreject]
  rfl

theorem compiled_of_ofForm {form : Form.Matcher} {m : Matcher} (h : ofForm form = .ok m) :
    m.Compiled := by
  unfold ofForm at h
  obtain ⟨compiled, hcompiled, h⟩ := bind_eq_ok.1 h
  obtain ⟨fold, -, h⟩ := bind_eq_ok.1 h
  obtain rfl := pure_eq_ok.1 h
  obtain ⟨kind, hkind, rfl⟩ := map_eq_ok.1 hcompiled
  exact (Kind.compiled_of_compile hkind).1

/-- On a running server a behaviour tells a match from a mismatch. -/
theorem apply_ofBool_inj {b : Behaviour} {x y : Bool}
    (h : (b.apply (Scale.ofBool x) : Score) = b.apply (Scale.ofBool y)) : x = y := by
  have haccept : (Behaviour.accept.apply (Scale.ofBool true) : Score) ≠
      Behaviour.accept.apply (Scale.ofBool false) := by decide +kernel
  have hreject : (Behaviour.reject.apply (Scale.ofBool true) : Score) ≠
      Behaviour.reject.apply (Scale.ofBool false) := by decide +kernel
  cases x <;> cases y <;> cases b
  all_goals first | rfl | exact absurd h haccept | exact absurd h.symm haccept |
    exact absurd h hreject | exact absurd h.symm hreject

theorem score_of_verdict {α : Type} [Scale α] {m : Matcher} {input : Attribute} {verdict : Bool}
    (hfolded : m.kind.isFolded = false)
    (h : m.kind.verdicts m.ignoreCase input = some [verdict]) :
    (m.score input : α) = m.behaviour.apply (Scale.ofBool verdict) := by
  simp [score, rawScore, h, hfolded]

theorem verdict_of_score {m : Matcher} {input : Attribute} {before after : Bool}
    (hfolded : m.kind.isFolded = false)
    (hscore : (m.rewritten.score input : Score) = m.score input)
    (hbefore : m.kind.verdicts m.ignoreCase input = some [before])
    (hafter : m.kind.rewritten.verdicts m.ignoreCase input = some [after]) : after = before := by
  apply apply_ofBool_inj
  rw [← score_of_verdict hfolded hbefore, ← hscore]
  exact (score_of_verdict (m := m.rewritten) (by rw [rewritten, Kind.isFolded_rewritten, hfolded]) hafter).symm

/-- Scores are the same on all attributes exactly when the matcher is kept. -/
theorem score_rewritten_iff (m : Matcher) :
    (∀ input, (m.rewritten.score input : Score) = m.score input) ↔ m.Kept := by
  refine ⟨fun h => ?_, fun h input => score_rewritten h input⟩
  -- a matcher that is not kept no longer fits the very value that it was compiled for
  obtain ⟨kind, ignoreCase, behaviour, fold⟩ := m
  have hself (s : String) : Json.sameText ignoreCase s s = true := by
    cases ignoreCase <;> simp [Json.sameText]
  cases kind with
  | json v =>
      cases v with
      | string s =>
          rw [Kept, Kind.Kept, Option.eq_none_iff_forall_ne_some]
          intro v hv
          have hsame := verdict_of_score rfl (h (.json (.string s))) rfl rfl
          simp only [reread, hv, Option.getD_some] at hsame
          rw [Kind.equals_reread hv] at hsame
          simp [Json.equals, Json.sameLeaf, hself] at hsame
      | _ => trivial
  | jsonPartial v =>
      cases v with
      | string s =>
          rw [Kept, Kind.Kept, Option.eq_none_iff_forall_ne_some]
          intro v hv
          have hsame := verdict_of_score rfl (h (.json (.string s))) rfl rfl
          simp only [reread, hv, Option.getD_some, Kind.includes_string] at hsame
          rw [Kind.equals_reread hv] at hsame
          simp [Json.equals, Json.sameLeaf, hself] at hsame
      | _ => trivial
  | numericRange r =>
      by_contra hnot
      obtain ⟨s, hs⟩ := NumericRange.exists_of_not_kept hnot
      exact hs (verdict_of_score rfl (h (.text s)) rfl rfl)
  | _ => trivial

end Matcher

end Understudy

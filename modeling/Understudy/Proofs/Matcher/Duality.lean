import Understudy.Proofs.Matcher.Compile
import Understudy.Proofs.Matcher.Wildcard
import Understudy.Proofs.Score.Duality

/-!
# One matcher of many patterns and many matchers of one

A matcher that holds a list of patterns can be taken apart into matchers of one pattern each, and compiling its patterns
one by one gives the same matchers. Without rounding it scores every attribute as the set of these, folded in its own
way; turned over, it scores as the set of them turned over, folded in the dual way. An attribute that is missing, or that
the patterns cannot be tried on, makes no difference.
-/

namespace Understudy

open Traversal

namespace Matcher

namespace Kind

def singles : Kind → List Kind
  | .exact vs => vs.map fun v => .exact [v]
  | .wildcard ps => ps.map fun p => .wildcard [p]
  | .regex ps => ps.map fun p => .regex [p]
  | .jsonPath qs => qs.map fun q => .jsonPath [q]
  | .xPath es => es.map fun e => .xPath [e]
  | .network ns => ns.map fun n => .network [n]
  | kind => [kind]

theorem isFolded_of_mem_singles {kind single : Kind} (hfolded : kind.isFolded = true)
    (h : single ∈ kind.singles) : single.isFolded = true := by
  cases kind
  case exact | wildcard | regex | jsonPath | xPath | network =>
    obtain ⟨p, -, rfl⟩ := List.mem_map.1 h
    rfl
  all_goals exact absurd hfolded Bool.false_ne_true

def split (verdicts : Option (List Bool)) (singles : List Kind) : List (Option (List Bool)) :=
  match verdicts with
  | none => singles.map fun _ => none
  | some bs => bs.map fun b => some [b]

theorem map_verdicts_eq_split {α β : Type} {make : β → Kind} {view : Option α}
    {ignoreCase : Bool} {input : Attribute} (test : α → β → Bool)
    (h : ∀ p, (make p).verdicts ignoreCase input = view.map fun x => [test x p]) (ps : List β) :
    (ps.map make).map (·.verdicts ignoreCase input) =
      split (view.map fun x => ps.map (test x)) (ps.map make) := by
  cases view with
  | none =>
      rw [Option.map_none, split, List.map_map, List.map_map]
      exact List.map_congr_left fun p _ => h p
  | some x =>
      rw [Option.map_some, split, List.map_map, List.map_map]
      exact List.map_congr_left fun p _ => h p

def expressionHolds (document expression : String) : Bool :=
  (Xml.parse? document).any fun doc => (XPath.parse? expression).any (·.holds doc)

theorem expressionsHold_eq_map (expressions : List String) (document : String) :
    expressionsHold expressions document = expressions.map (expressionHolds document) := by
  unfold expressionsHold expressionHolds
  cases Xml.parse? document <;> rfl

/-- Each pattern alone gives the verdict that it gives among the others. -/
theorem verdicts_singles {kind : Kind} (hfolded : kind.isFolded = true) (ignoreCase : Bool)
    (input : Attribute) :
    kind.singles.map (·.verdicts ignoreCase input) =
      split (kind.verdicts ignoreCase input) kind.singles := by
  cases kind with
  | exact vs =>
      exact map_verdicts_eq_split (fun s (v : Exact) => v.matches? ignoreCase s)
        (fun _ => rfl) vs
  | wildcard ps | regex ps =>
      exact map_verdicts_eq_split (fun s (p : Pattern) => p.matches? s) (fun _ => rfl) ps
  | jsonPath qs =>
      exact map_verdicts_eq_split (fun v (q : Query) => q.path.selectsAny v) (fun _ => rfl) qs
  | xPath es =>
      have hview (es : List String) : (Kind.xPath es).verdicts ignoreCase input =
          input.text?.map fun s => es.map (expressionHolds s) :=
        congrArg (input.text?.map ·) (funext (expressionsHold_eq_map es))
      rw [hview]
      exact map_verdicts_eq_split expressionHolds (fun e => hview [e]) es
  | network ns =>
      exact map_verdicts_eq_split (fun a (n : Network) => n.contains a) (fun _ => rfl) ns
  | _ => exact absurd hfolded Bool.false_ne_true

end Kind

theorem rawScore_of_isFolded {m : Matcher} (h : m.kind.isFolded = true) (input : Attribute) :
    (m.rawScore input : ℚ) =
      (m.kind.verdicts m.ignoreCase input).elim 0 fun bs => m.fold.combine (bs.map Scale.ofBool) := by
  unfold rawScore
  cases m.kind.verdicts m.ignoreCase input with
  | none => rfl
  | some bs => exact if_pos h

/-- A matcher scores as its patterns do one by one, folded in its way; theirs does not matter. -/
theorem rawScore_eq_combine {m : Matcher} (hfolded : m.kind.isFolded = true) (own : Fold)
    (behaviour : Behaviour) (input : Attribute) :
    (m.rawScore input : ℚ) =
      m.fold.combine (m.kind.singles.map fun kind =>
        ({ m with kind, behaviour, fold := own } : Matcher).rawScore input) := by
  have hsingle : (m.kind.singles.map fun kind =>
      (({ m with kind, behaviour, fold := own } : Matcher).rawScore input : ℚ)) =
        (Kind.split (m.kind.verdicts m.ignoreCase input) m.kind.singles).map fun verdicts =>
          verdicts.elim 0 fun bs => own.combine (bs.map Scale.ofBool) := by
    rw [← Kind.verdicts_singles hfolded, List.map_map]
    exact List.map_congr_left fun kind hkind =>
      rawScore_of_isFolded (Kind.isFolded_of_mem_singles hfolded hkind) input
  rw [hsingle, rawScore_of_isFolded hfolded]
  cases m.kind.verdicts m.ignoreCase input with
  | none =>
      rw [Kind.split, List.map_map]
      exact (m.fold.combine_zeros m.kind.singles).symm
  | some bs =>
      rw [Kind.split, List.map_map, Option.elim_some]
      refine congrArg _ (List.map_congr_left fun b _ => ?_)
      exact (own.combine_single (Scale.isScore_ofBool b)).symm

/-! ## Patterns that are compiled one by one -/

theorem forall₂_textPatterns {name : String} {patterns : List Json} {texts : List String}
    (h : textPatterns name patterns = .ok texts) :
    List.Forall₂ (fun p s => textPatterns name [p] = .ok [s]) patterns texts := by
  unfold textPatterns at h
  split at h
  · exact absurd h throw_ne_ok
  · refine (mapM_eq_ok.1 h).imp fun p s hp => ?_
    rw [textPatterns, if_neg (by simp), mapM_eq_ok]
    exact List.Forall₂.cons hp List.Forall₂.nil

theorem forall₂_readAll {α : Type} {name : String} {read? : String → Option α}
    {texts : List String} {as : List α} (h : readAll name read? texts = .ok as) :
    List.Forall₂ (fun s a => readAll name read? [s] = .ok [a]) texts as := by
  refine (mapM_eq_ok.1 h).imp fun s a hs => ?_
  exact mapM_eq_ok.2 (List.Forall₂.cons hs List.Forall₂.nil)

namespace Kind

/-- Each pattern of a list compiles alone to the kind of this one pattern. -/
theorem mapM_compile_singles {name : String} {patterns : List Json} {ignoreCase : Bool}
    {kind : Kind} (h : compile name patterns ignoreCase = .ok kind)
    (hfolded : kind.isFolded = true) :
    patterns.mapM (fun p => compile name [p] ignoreCase) = .ok kind.singles := by
  rw [mapM_eq_ok]
  unfold compile at h
  split at h
  · -- texts that are equal
    obtain ⟨texts, htexts, h⟩ := bind_eq_ok.1 h
    obtain rfl := pure_eq_ok.1 h
    rw [singles, List.map_map, List.forall₂_map_right_iff]
    refine (forall₂_textPatterns htexts).imp fun p s hp => ?_
    exact bind_eq_ok.2 ⟨[s], hp, rfl⟩
  · -- wildcards
    obtain ⟨texts, htexts, h⟩ := bind_eq_ok.1 h
    obtain ⟨ps, hps, h⟩ := bind_eq_ok.1 h
    obtain rfl := pure_eq_ok.1 h
    rw [singles, List.forall₂_map_right_iff]
    refine (forall₂_comp (forall₂_textPatterns htexts) (forall₂_readAll hps)).imp ?_
    rintro p a ⟨s, hp, hs⟩
    exact bind_eq_ok.2 ⟨[s], hp, bind_eq_ok.2 ⟨[a], hs, rfl⟩⟩
  · -- regular expressions
    obtain ⟨texts, htexts, h⟩ := bind_eq_ok.1 h
    obtain ⟨ps, hps, h⟩ := bind_eq_ok.1 h
    obtain rfl := pure_eq_ok.1 h
    rw [singles, List.forall₂_map_right_iff]
    refine (forall₂_comp (forall₂_textPatterns htexts) (forall₂_readAll hps)).imp ?_
    rintro p a ⟨s, hp, hs⟩
    exact bind_eq_ok.2 ⟨[s], hp, bind_eq_ok.2 ⟨[a], hs, rfl⟩⟩
  · -- JSON paths
    obtain ⟨texts, htexts, h⟩ := bind_eq_ok.1 h
    obtain ⟨qs, hqs, h⟩ := bind_eq_ok.1 h
    obtain rfl := pure_eq_ok.1 h
    rw [singles, List.forall₂_map_right_iff]
    refine (forall₂_comp (forall₂_textPatterns htexts) (forall₂_readAll hqs)).imp ?_
    rintro p q ⟨s, hp, hs⟩
    exact bind_eq_ok.2 ⟨[s], hp, bind_eq_ok.2 ⟨[q], hs, rfl⟩⟩
  · -- a JSON value
    obtain ⟨v, -, h⟩ := bind_eq_ok.1 h
    obtain rfl := pure_eq_ok.1 h
    exact absurd hfolded Bool.false_ne_true
  · -- a part of a JSON value
    obtain ⟨v, -, h⟩ := bind_eq_ok.1 h
    obtain rfl := pure_eq_ok.1 h
    exact absurd hfolded Bool.false_ne_true
  · -- XPath expressions, each of which has a character
    obtain ⟨texts, htexts, h⟩ := bind_eq_ok.1 h
    obtain ⟨hblank, h⟩ := check_eq_ok.1 h
    obtain rfl := pure_eq_ok.1 h
    have hlettered : List.Forall₂ (fun s t => s = t ∧ Text.isAllBlank s = false) texts texts := by
      refine List.forall₂_same.2 fun s hs => ⟨rfl, ?_⟩
      simpa using List.any_eq_false.1 (Bool.not_eq_true _ ▸ hblank) s hs
    rw [singles, List.forall₂_map_right_iff]
    refine (forall₂_comp (forall₂_textPatterns htexts) hlettered).imp ?_
    rintro p t ⟨s, hp, rfl, hs⟩
    exact bind_eq_ok.2 ⟨[s], hp, check_eq_ok.2 ⟨by simp [hs], rfl⟩⟩
  · -- bytes
    obtain ⟨texts, htexts, h⟩ := bind_eq_ok.1 h
    split at h
    · split at h
      · obtain rfl := pure_eq_ok.1 h
        exact absurd hfolded Bool.false_ne_true
      · exact absurd h throw_ne_ok
    · exact absurd h throw_ne_ok
  · -- a range
    split at h
    · split at h
      · obtain rfl := pure_eq_ok.1 h
        exact absurd hfolded Bool.false_ne_true
      · exact absurd h throw_ne_ok
    · exact absurd h throw_ne_ok
  · -- networks
    obtain ⟨texts, htexts, h⟩ := bind_eq_ok.1 h
    obtain ⟨ns, hns, h⟩ := bind_eq_ok.1 h
    obtain rfl := pure_eq_ok.1 h
    rw [singles, List.forall₂_map_right_iff]
    refine (forall₂_comp (forall₂_textPatterns htexts) (mapM_eq_ok.1 hns)).imp ?_
    rintro p n ⟨s, hp, hs⟩
    refine bind_eq_ok.2 ⟨[s], hp, bind_eq_ok.2 ⟨[n], ?_, rfl⟩⟩
    exact mapM_eq_ok.2 (List.Forall₂.cons hs List.Forall₂.nil)
  · -- anything but nothing
    obtain rfl := pure_eq_ok.1 h
    exact absurd hfolded Bool.false_ne_true
  · -- any other name
    exact absurd h throw_ne_ok

theorem singles_ne_nil {kind : Kind} {ignoreCase : Bool} (h : kind.Compiled ignoreCase) :
    kind.singles ≠ [] := by
  cases kind
  case exact | wildcard | regex | jsonPath | xPath | network => simpa [singles] using h.1
  all_goals exact List.cons_ne_nil _ _

end Kind

/-- The matchers of one pattern each, with a fold and a behaviour of their own. -/
def apart (m : Matcher) (own : Fold) (behaviour : Behaviour) : List Matcher :=
  m.kind.singles.map fun kind => { m with kind, behaviour, fold := own }

/-- A matcher that accepts scores as its patterns do apart, folded in its way. -/
theorem score_of_accept {m : Matcher} (hfolded : m.kind.isFolded = true)
    (haccept : m.behaviour = .accept) (own : Fold) (input : Attribute) :
    (m.score input : ℚ) = (MatcherSet.mk (m.apart own .accept) m.fold).score input := by
  rw [score, haccept, MatcherSet.score, apart, List.map_map]
  exact rawScore_eq_combine hfolded own .accept input

/-- A matcher that rejects scores as its patterns do when they reject apart, folded in the dual way. -/
theorem score_of_reject {m : Matcher} (hfolded : m.kind.isFolded = true)
    (hne : m.kind.singles ≠ []) (hreject : m.behaviour = .reject) (own : Fold) (input : Attribute) :
    (m.score input : ℚ) = (MatcherSet.mk (m.apart own .reject) m.fold.dual).score input := by
  have hraw : (m.score input : ℚ) = 1 - m.rawScore input := by
    rw [score, hreject]
    rfl
  have hscores : ((m.apart own .reject).map fun single => (single.rawScore input : ℚ)) ≠ [] := by
    simpa [apart] using hne
  have hapart : (m.rawScore input : ℚ) =
      m.fold.combine ((m.apart own .reject).map fun single => single.rawScore input) := by
    rw [rawScore_eq_combine hfolded own .reject, apart, List.map_map]
    rfl
  rw [hraw, hapart, Fold.one_sub_combine m.fold hscores, List.map_map, MatcherSet.score]
  refine congrArg _ (List.map_congr_left fun single hsingle => ?_)
  obtain ⟨kind, -, rfl⟩ := List.mem_map.1 hsingle
  rfl

/--
Patterns that compile together compile one by one. The matcher of all of them scores as the set of the matchers of one
pattern under the same fold; rejecting, it scores as the set of the rejecting ones under the dual fold.
-/
theorem compile_deMorgan {name : String} {patterns : List Json} {ignoreCase : Bool} {m : Matcher}
    (h : compile name patterns ignoreCase = .ok m) (hfolded : m.kind.isFolded = true) :
    ∃ singles, patterns.mapM (fun p => compile name [p] ignoreCase) = .ok singles ∧
      ∀ (fold own : Fold) (input : Attribute),
        (({ m with fold } : Matcher).score input : ℚ) =
            (MatcherSet.mk (singles.map ({ · with fold := own })) fold).score input ∧
          (({ m with fold, behaviour := .reject } : Matcher).score input : ℚ) =
            (MatcherSet.mk (singles.map ({ · with fold := own, behaviour := .reject }))
              fold.dual).score input := by
  obtain ⟨kind, hkind, rfl⟩ := map_eq_ok.1 h
  have hne := Kind.singles_ne_nil (Kind.compiled_of_compile hkind).1
  refine ⟨_, mapM_map_step_eq_ok.2 ⟨_, Kind.mapM_compile_singles hkind hfolded, rfl⟩, ?_⟩
  intro fold own input
  constructor
  · rw [List.map_map]
    exact score_of_accept (m := ⟨kind, ignoreCase, .accept, fold⟩) hfolded rfl own input
  · rw [List.map_map]
    exact score_of_reject (m := ⟨kind, ignoreCase, .reject, fold⟩) hfolded hne rfl own input

/-- Two wildcards that both have to fit, turned over: a text that fits one of them alone is not rejected. -/
theorem wildcards_deMorgan :
    ∃ m singles,
      compile "WildcardMatcher" [.string "a*", .string "*b"] false = .ok m ∧
      m.kind.isFolded = true ∧
      [Json.string "a*", .string "*b"].mapM (fun p => compile "WildcardMatcher" [p] false) =
        .ok singles ∧
      (({ m with fold := .and, behaviour := .reject } : Matcher).score (.text "ac") : ℚ) = 1 ∧
      (MatcherSet.mk (singles.map ({ · with fold := .or, behaviour := .reject })) .or).score
        (.text "ac") = (1 : ℚ) := by
  have hcompiled : (Kind.wildcard
      [⟨"a*", Wildcard.regex false "a*"⟩, ⟨"*b", Wildcard.regex false "*b"⟩]).Compiled false := by
    refine ⟨List.cons_ne_nil _ _, List.forall_mem_cons.2 ⟨?_, List.forall_mem_singleton.2 ?_⟩⟩
    · exact Wildcard.ofWildcard_of_le (by decide +kernel)
    · exact Wildcard.ofWildcard_of_le (by decide +kernel)
  have h : compile "WildcardMatcher" [.string "a*", .string "*b"] false =
      .ok (ofKind (.wildcard
        [⟨"a*", Wildcard.regex false "a*"⟩, ⟨"*b", Wildcard.regex false "*b"⟩])) :=
    map_eq_ok.2 ⟨_, Kind.compile_patterns hcompiled, rfl⟩
  obtain ⟨singles, hsingles, hscores⟩ := compile_deMorgan h rfl
  have hscore : (({ ofKind (.wildcard
      [⟨"a*", Wildcard.regex false "a*"⟩, ⟨"*b", Wildcard.regex false "*b"⟩]) with
      fold := .and, behaviour := .reject } : Matcher).score (.text "ac") : ℚ) = 1 := by
    decide +kernel
  exact ⟨_, singles, h, rfl, hsingles, hscore, (hscores .and .or _).2.symm.trans hscore⟩

end Matcher

end Understudy

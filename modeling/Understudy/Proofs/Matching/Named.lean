import Understudy.Proofs.Request.Assembled
import Understudy.Proofs.Score.Perfect

/-!
# Matching by name

A matcher for a name is to see every value of the name: `Sees` says what its score is then. Without the name it is a
mismatch, with the name and nothing else to ask it is perfect, and otherwise each matcher takes its best score over the
values and these are folded. Headers, cookies and query parameters are kept in three ways and looked up in three ways.
What is looked up `Finds` the values in a header and in a parameter. Of the cookies whose names differ in case alone only
the first is looked at, so that a matcher that ignores case can miss a cookie that it was to see.
-/

namespace Understudy

open Scale

open Scale.Lawful (IsScore value)

variable {α : Type} [Scale α] [Scale.Lawful α]

namespace Scale

/-- The best of scores: one of them, with none above it. -/
structure IsBest (best : α) (scores : List α) : Prop where
  mem : best ∈ scores
  le : ∀ a ∈ scores, value a ≤ value best

theorem IsBest.unique {a b : α} {scores : List α} (h : ∀ c ∈ scores, IsScore c)
    (ha : IsBest a scores) (hb : IsBest b scores) : a = b :=
  Lawful.value_inj (h a ha.mem) (h b hb.mem) (le_antisymm (hb.le a ha.mem) (ha.le b hb.mem))

theorem IsBest.of_mem_iff {best : α} {scores scores' : List α} (h : IsBest best scores)
    (hmem : ∀ a, a ∈ scores ↔ a ∈ scores') : IsBest best scores' :=
  ⟨(hmem best).1 h.mem, fun a ha => h.le a ((hmem a).2 ha)⟩

theorem isBest_max {a b : α} (ha : IsScore a) (hb : IsScore b) : IsBest (max a b) [a, b] := by
  unfold max
  split
  · rename_i hlt
    rw [Lawful.lt_iff ha hb] at hlt
    exact ⟨by simp, by simp [hlt.le]⟩
  · rename_i hnlt
    rw [Lawful.lt_iff ha hb, not_lt] at hnlt
    exact ⟨by simp, by simp [hnlt]⟩

theorem isBest_foldl_max {start : α} {scores : List α} (hs : IsScore start)
    (h : ∀ a ∈ scores, IsScore a) : IsBest (scores.foldl max start) (start :: scores) := by
  induction scores generalizing start with
  | nil => exact ⟨List.mem_singleton_self _, by simp⟩
  | cons a scores ih =>
      rw [List.forall_mem_cons] at h
      have hmax := isBest_max hs h.1
      have hrest := ih (isScore_max hs h.1) h.2
      rw [List.foldl_cons]
      refine ⟨?_, List.forall_mem_cons.2 ⟨?_, List.forall_mem_cons.2 ⟨?_, ?_⟩⟩⟩
      · rcases List.mem_cons.1 hrest.mem with heq | hmem
        · rw [heq]
          exact List.mem_append_left scores hmax.mem
        · exact List.mem_cons_of_mem _ (List.mem_cons_of_mem _ hmem)
      · exact (hmax.le start (by simp)).trans (hrest.le _ List.mem_cons_self)
      · exact (hmax.le a (by simp)).trans (hrest.le _ List.mem_cons_self)
      · exact fun b hb => hrest.le b (List.mem_cons_of_mem _ hb)

/-- From a mismatch on, the greatest of scores is the best of them. -/
theorem isBest_foldl_max_zero {scores : List α} (hne : scores ≠ []) (h : ∀ a ∈ scores, IsScore a) :
    IsBest (scores.foldl max zero) scores := by
  obtain ⟨a, rest, rfl⟩ := List.exists_cons_of_ne_nil hne
  rw [List.foldl_cons, max_zero_left (h a List.mem_cons_self)]
  rw [List.forall_mem_cons] at h
  exact isBest_foldl_max h.1 h.2

end Scale

namespace KeyedMatcher

/-- What the raw score of a matcher is that sees these values of its name. -/
inductive Raw (k : KeyedMatcher) : List String → α → Prop where
  /-- the name is not there -/
  | absent : Raw k [] zero
  /-- the name is there, and nothing else is asked for -/
  | present {values : List String} (hvalues : values ≠ []) (hmatchers : k.matchers = []) :
      Raw k values one
  /-- each matcher takes its best score over the values -/
  | folded {values : List String} {bests : List α} (hvalues : values ≠ [])
      (hmatchers : k.matchers ≠ [])
      (hbests : List.Forall₂ (fun (m : Matcher) best =>
        IsBest best (values.map fun v => m.score (.text v))) k.matchers bests) :
      Raw k values (k.fold.combine bests)

/-- What the score of a matcher is that sees these values: the raw score, turned over if it rejects. -/
def Sees (k : KeyedMatcher) (values : List String) (score : α) : Prop :=
  ∃ raw, Raw k values raw ∧ score = if k.behaviour.isReject then sub one raw else raw

theorem isScore_of_mem_scores {m : Matcher} {values : List String} {a : α}
    (ha : a ∈ values.map fun v => m.score (.text v)) : IsScore a := by
  obtain ⟨v, -, rfl⟩ := List.mem_map.1 ha
  exact m.isScore_score _

theorem Raw.unique {k : KeyedMatcher} {values : List String} {a b : α} (ha : Raw k values a)
    (hb : Raw k values b) : a = b := by
  cases ha with
  | absent =>
      cases hb with
      | absent => rfl
      | present hvalues _ => exact absurd rfl hvalues
      | folded hvalues _ _ => exact absurd rfl hvalues
  | present hvalues hmatchers =>
      cases hb with
      | absent => exact absurd rfl hvalues
      | present _ _ => rfl
      | folded _ hne _ => exact absurd hmatchers hne
  | folded hvalues hmatchers hbests =>
      cases hb with
      | absent => exact absurd rfl hvalues
      | present _ hnil => exact absurd hnil hmatchers
      | folded _ _ hbests' =>
          have hunique : Relator.RightUnique fun (m : Matcher) (best : α) =>
              IsBest best (values.map fun v => m.score (.text v)) :=
            fun _ _ _ => IsBest.unique fun _ => isScore_of_mem_scores
          rw [List.right_unique_forall₂' hunique hbests hbests']

theorem Raw.of_mem_iff {k : KeyedMatcher} {values values' : List String} {a : α}
    (h : Raw k values a) (hmem : ∀ v, v ∈ values ↔ v ∈ values') : Raw k values' a := by
  have hne (hvalues : values ≠ []) : values' ≠ [] := by
    obtain ⟨v, hv⟩ := List.exists_mem_of_ne_nil values hvalues
    exact List.ne_nil_of_mem ((hmem v).1 hv)
  cases h with
  | absent =>
      have hnil : values' = [] := by simpa [List.eq_nil_iff_forall_not_mem] using hmem
      rw [hnil]
      exact .absent
  | present hvalues hmatchers => exact .present (hne hvalues) hmatchers
  | folded hvalues hmatchers hbests =>
      refine .folded (hne hvalues) hmatchers (hbests.imp fun m best hbest => ?_)
      exact hbest.of_mem_iff fun a => by simp only [List.mem_map, hmem]

theorem Sees.unique {k : KeyedMatcher} {values : List String} {a b : α} (ha : k.Sees values a)
    (hb : k.Sees values b) : a = b := by
  obtain ⟨raw, hraw, rfl⟩ := ha
  obtain ⟨raw', hraw', rfl⟩ := hb
  rw [hraw.unique hraw']

theorem Sees.of_mem_iff {k : KeyedMatcher} {values values' : List String} {a : α}
    (h : k.Sees values a) (hmem : ∀ v, v ∈ values ↔ v ∈ values') : k.Sees values' a := by
  obtain ⟨raw, hraw, rfl⟩ := h
  exact ⟨raw, hraw.of_mem_iff hmem, rfl⟩

/-- What was looked up are the values of a name: nothing where there is none, and else each of them, in any order. -/
def Finds (found : Option (List String)) (values : List String) : Prop :=
  match found with
  | none => values = []
  | some vs => vs ≠ [] ∧ ∀ v, v ∈ vs ↔ v ∈ values

theorem finds_some {values : List String} (hne : values ≠ []) : Finds (some values) values :=
  ⟨hne, fun _ => Iff.rfl⟩

theorem raw_rawScore {k : KeyedMatcher} {values : List String} (hne : values ≠ []) :
    Raw k values (k.rawScore (some values) : α) := by
  unfold rawScore
  simp only
  split
  · rename_i hempty
    exact .present hne (List.isEmpty_iff.1 hempty)
  · rename_i hsome
    refine .folded hne (by simpa using hsome) ?_
    rw [List.forall₂_map_right_iff, List.forall₂_same]
    intro m _
    exact isBest_foldl_max_zero (by simpa using hne) fun _ => isScore_of_mem_scores

theorem sees_score {k : KeyedMatcher} {found : Option (List String)} {values : List String}
    (h : Finds found values) : k.Sees values (k.score found : α) := by
  refine ⟨k.rawScore found, ?_, ?_⟩
  · cases found with
    | none =>
        obtain rfl : values = [] := h
        exact .absent
    | some vs => exact (raw_rawScore h.1).of_mem_iff h.2
  · rw [score]
    cases k.behaviour <;> rfl

end KeyedMatcher

namespace Dimension

open MultiMap KeyedMatcher

variable {r : Request}

theorem finds_headerValues? (h : r.Assembled) (k : KeyedMatcher) :
    Finds (headerValues? r k) (valuesFor true r.headerPairs k.name) := by
  rw [headerValues?, h.headers_eq, getAll?_ofPairs]
  split
  · rename_i hany
    refine finds_some fun hnil => ?_
    rw [valuesFor_eq_nil, hany] at hnil
    exact Bool.false_ne_true hnil.symm
  · rename_i hnone
    exact valuesFor_eq_nil.2 (Bool.not_eq_true _ ▸ hnone)

theorem finds_paramValues? (h : r.Assembled) (k : KeyedMatcher) :
    Finds (paramValues? r k) (valuesFor k.ignoreCase r.url.queryPairs k.name) := by
  have hmem (v : String) : v ∈ ((ofPairs false r.url.queryPairs).entries.filter fun e =>
      sameKey k.ignoreCase e.1 k.name).flatMap Prod.snd ↔
        v ∈ valuesFor k.ignoreCase r.url.queryPairs k.name := mem_flatMap_filter_ofPairs
  unfold paramValues?
  rw [h.query_eq]
  simp only
  split
  · rename_i hempty
    rw [List.isEmpty_iff.1 hempty] at hmem
    exact List.eq_nil_iff_forall_not_mem.2 fun v hv => List.not_mem_nil ((hmem v).2 hv)
  · rename_i hfound
    refine ⟨?_, hmem⟩
    obtain ⟨e, he⟩ := List.exists_mem_of_ne_nil _ (mt List.isEmpty_iff.2 hfound)
    obtain ⟨-, v, hv⟩ := getAll?_of_mem_entries (List.mem_filter.1 he).1
    exact List.ne_nil_of_mem (List.mem_flatMap.2 ⟨e, he, hv⟩)

/-- Of the cookies that a matcher names the first one is looked up. -/
theorem cookieValues?_eq (r : Request) (k : KeyedMatcher) :
    cookieValues? r k =
      (valuesFor k.ignoreCase r.cookies k.name).head?.map fun v => [v] := by
  rw [cookieValues?, ← List.head?_filter, valuesFor]
  cases r.cookies.filter fun c => sameKey k.ignoreCase c.1 k.name <;> rfl

theorem finds_cookieValues? (r : Request) (k : KeyedMatcher) :
    Finds (cookieValues? r k) ((valuesFor k.ignoreCase r.cookies k.name).take 1) := by
  rw [cookieValues?_eq]
  cases valuesFor k.ignoreCase r.cookies k.name with
  | nil => rfl
  | cons v rest => exact ⟨List.cons_ne_nil _ _, fun v => Iff.rfl⟩

/-- Where case tells names apart there is at most one cookie of a name. -/
theorem cookie_values_eq (h : r.Assembled) {name v w : String}
    (hv : v ∈ valuesFor false r.cookies name) (hw : w ∈ valuesFor false r.cookies name) : v = w := by
  obtain ⟨n, hn, hcookie⟩ := mem_valuesFor.1 hv
  obtain ⟨m, hm, hcookie'⟩ := mem_valuesFor.1 hw
  obtain rfl := eq_of_sameKey hn
  obtain rfl := eq_of_sameKey hm
  have hfirst := h.cookies_ascending.find?_of_mem hcookie
  rw [h.cookies_ascending.find?_of_mem hcookie', Option.some_inj] at hfirst
  exact congrArg Prod.snd hfirst.symm

theorem sees_cookie_of_eq {k : KeyedMatcher} {values : List String}
    (hvalues : valuesFor k.ignoreCase r.cookies k.name = values)
    (hsame : ∀ v ∈ values, ∀ w ∈ values, v = w) : k.Sees values ((cookie k).score r : α) := by
  have hfirst : k.Sees (values.take 1) ((cookie k).score r : α) :=
    sees_score (hvalues ▸ finds_cookieValues? r k)
  refine hfirst.of_mem_iff fun v => ⟨List.mem_of_mem_take, fun hv => ?_⟩
  cases values with
  | nil => exact absurd hv List.not_mem_nil
  | cons w rest => exact List.mem_singleton.2 (hsame v hv w List.mem_cons_self)

/-- A matcher for one value, given the values of its name: it is perfect exactly when the value is one of them. -/
theorem score_exact_eq_one (name v : String) (ignoreCase : Bool) (found : Option (List String)) :
    (KeyedMatcher.of name [.exact v] ignoreCase).score found = (one : α) ↔ ∃ vs ∈ found, v ∈ vs := by
  have hscore := KeyedMatcher.score_of_exactAny (α := α) name [v] ignoreCase found
  rw [show Matcher.exact v = .exactAny [v] from rfl, hscore, ofBool_eq_one]
  simp [Option.any_eq_true]

/-- All cookies that are named are seen by every matcher exactly when they have one value. -/
theorem sees_cookie_iff (r : Request) (name : String) (ignoreCase : Bool) :
    (∀ k : KeyedMatcher, k.name = name → k.ignoreCase = ignoreCase →
        k.Sees (valuesFor ignoreCase r.cookies name) ((cookie k).score r : α)) ↔
      ∀ v ∈ valuesFor ignoreCase r.cookies name, ∀ w ∈ valuesFor ignoreCase r.cookies name, v = w := by
  constructor
  · intro h
    -- a matcher for a value that is there tells that it is the one that is looked up
    have hfirst (v : String) (hv : v ∈ valuesFor ignoreCase r.cookies name) :
        (valuesFor ignoreCase r.cookies name).head? = some v := by
      have hseen := h (.of name [.exact v] ignoreCase) rfl rfl
      have hall := sees_score (α := α) (k := .of name [.exact v] ignoreCase)
        (finds_some (List.ne_nil_of_mem hv))
      have hone : (cookie (.of name [.exact v] ignoreCase)).score r = (one : α) :=
        (hseen.unique hall).trans ((score_exact_eq_one ..).2 ⟨_, rfl, hv⟩)
      obtain ⟨vs, hvs, hmem⟩ := (score_exact_eq_one ..).1 hone
      rw [cookieValues?_eq, Option.mem_def, Option.map_eq_some_iff] at hvs
      obtain ⟨w, hw, rfl⟩ := hvs
      rw [List.mem_singleton.1 hmem]
      exact hw
    intro v hv w hw
    exact Option.some_inj.1 ((hfirst v hv).symm.trans (hfirst w hw))
  · rintro h k rfl rfl
    exact sees_cookie_of_eq rfl h

/--
Headers and query parameters see every value of the name, in any case of a header's name and in the case that is asked
for of a parameter's. A cookie matcher does where it tells case apart. Where it ignores case it sees the first of the
cookies that are named, in the order of their names, so that all matchers see them all only when they have one value.
-/
theorem named_sees_values {r : Request} (h : r.Assembled) :
    (∀ k : KeyedMatcher, k.Sees (valuesFor true r.headerPairs k.name) ((header k).score r : α)) ∧
      (∀ k : KeyedMatcher,
        k.Sees (valuesFor k.ignoreCase r.url.queryPairs k.name) ((param k).score r : α)) ∧
      (∀ k : KeyedMatcher, k.ignoreCase = false →
        k.Sees (valuesFor false r.cookies k.name) ((cookie k).score r : α)) ∧
      (∀ k : KeyedMatcher,
        k.Sees ((valuesFor k.ignoreCase r.cookies k.name).take 1) ((cookie k).score r : α)) ∧
      ∀ (name : String) (ignoreCase : Bool),
        (∀ k : KeyedMatcher, k.name = name → k.ignoreCase = ignoreCase →
          k.Sees (valuesFor ignoreCase r.cookies name) ((cookie k).score r : α)) ↔
        ∀ v ∈ valuesFor ignoreCase r.cookies name,
          ∀ w ∈ valuesFor ignoreCase r.cookies name, v = w := by
  refine ⟨fun k => sees_score (finds_headerValues? h k), fun k => sees_score (finds_paramValues? h k),
    fun k hk => ?_, fun k => sees_score (finds_cookieValues? r k), sees_cookie_iff r⟩
  exact sees_cookie_of_eq (by rw [hk]) fun v hv w hw => cookie_values_eq h hv hw

/-- A request with two query parameters and two cookies whose names differ in case alone. -/
def cased : Request :=
  .ofUrl "GET"
    { scheme := "http", user := "", password := none, host := some (.domain "h"), port := none
      path := "/", query := some "SID=1&sid=2", fragment := none }
    [("Cookie", Bytes.ofText "SID=1; sid=2")] .empty none default

theorem assembled_cased : cased.Assembled :=
  Request.assembled_ofUrl "http://h/?SID=1&sid=2" (by decide +kernel) _ _ _ _ _

/-- The parameter matcher that ignores case sees both values, and finds the second. -/
theorem cased_param_sees_both :
    valuesFor true cased.url.queryPairs "sid" = ["1", "2"] ∧
      (KeyedMatcher.of "sid" [.exact "2"] true).Sees ["1", "2"]
        ((param (.of "sid" [.exact "2"] true)).score cased : Score) ∧
      (param (.of "sid" [.exact "2"] true)).score cased = (one : Score) := by
  have hvalues : valuesFor true cased.url.queryPairs "sid" = ["1", "2"] := by decide +kernel
  have hsees := (named_sees_values (α := Score) assembled_cased).2.1 (.of "sid" [.exact "2"] true)
  exact ⟨hvalues, hvalues ▸ hsees, by decide +kernel⟩

/-- The cookie matcher that ignores case is to see both values, and does not find the second. -/
theorem cased_cookie_misses_second :
    cased.Assembled ∧ valuesFor true cased.cookies "sid" = ["1", "2"] ∧
      (cookie (.of "sid" [.exact "2"] true)).score cased = (zero : Score) ∧
      ¬ (KeyedMatcher.of "sid" [.exact "2"] true).Sees ["1", "2"] (zero : Score) := by
  refine ⟨assembled_cased, by decide +kernel, by decide +kernel, fun hzero => ?_⟩
  have hone : (KeyedMatcher.of "sid" [.exact "2"] true).score (some ["1", "2"]) = (one : Score) :=
    (score_exact_eq_one ..).2 ⟨_, rfl, by simp⟩
  exact zero_ne_one ((hzero.unique (sees_score (finds_some (List.cons_ne_nil _ _)))).trans hone)

end Dimension

end Understudy

import Understudy.Mapping.Form
import Understudy.Proofs.Matcher.Wildcard
import Understudy.Proofs.Matching.Form
import Understudy.Proofs.Response.Form

/-!
# What a mapping keeps when it is written

A mapping that was compiled from a form is written in a form that compiles again. Its fields come back as they are, its
response sends the same, and every dimension stands at its place; the scores are the same when every matcher is kept,
and a matcher that is not kept scores some attribute differently.
-/

namespace Understudy

open Traversal

namespace Provider

/-- The provider as it is compiled again from what it is written as. -/
def rewritten : Provider → Provider
  | .fixed d => .fixed { d with headers := Response.Definition.sortedGroups d.headers }
  | p => p

/-- Fixed responses that send the same, or forwarding to the same URL by the same rule. -/
def Alike : Provider → Provider → Prop
  | .fixed a, .fixed b => Response.Definition.Alike a b
  | .proxy a, .proxy b => a.url = b.url ∧ a.replace = b.replace
  | _, _ => False

end Provider

namespace Mapping

/-- A response whose headers are grouped is written in a form that compiles to one that is alike. -/
theorem providerOfForm_fixed {d : Response.Definition}
    (h : Response.Definition.Grouped d.headers) :
    providerOfForm (providerToForm (.fixed d)) = .ok (Provider.rewritten (.fixed d)) ∧
      (Provider.rewritten (.fixed d)).Alike (.fixed d) := by
  have hproxy : d.toForm.proxyUrl = none := by
    unfold Response.Definition.toForm
    cases d.body <;> rfl
  refine ⟨?_, ?_⟩
  · rw [providerToForm, providerOfForm, hproxy]
    simp only
    rw [Response.Definition.ofForm_toForm h]
    rfl
  · exact Response.Definition.alike_of_perm (Response.Definition.sortedGroups_perm h)
      (Response.Definition.grouped_sortedGroups h).distinct

theorem providerOfForm_toForm {form : Form.Response} {p : Provider}
    (h : providerOfForm form = .ok p) :
    providerOfForm (providerToForm p) = .ok p.rewritten ∧ p.rewritten.Alike p ∧
      checkProvider p.rewritten = checkProvider p := by
  unfold providerOfForm at h
  split at h
  · obtain rfl := pure_eq_ok.1 h
    exact ⟨rfl, ⟨rfl, rfl⟩, rfl⟩
  · obtain ⟨d, hd, rfl⟩ := map_eq_ok.1 h
    obtain ⟨hreturn, halike⟩ := providerOfForm_fixed (Response.Definition.grouped_of_ofForm hd)
    exact ⟨hreturn, halike, rfl⟩

theorem build_eq_ok {d : Draft} {fresh : Guid} {now : Instant} {m : Mapping} :
    d.build fresh now = .ok m ↔ d.check = .ok () ∧
      m =
        { guid := d.guid.getD fresh
          title := d.title
          description := d.description
          priority := d.priority
          dimensions := d.dimensions
          provider := d.provider.getD (.fixed (.ofStatus 200))
          scenario := d.scenario
          whenStateIs := d.whenStateIs
          setStateTo := d.setStateTo
          timesInSameState := d.timesInSameState
          origin := d.origin
          updatedAt := now } := by
  unfold Draft.build
  simp only [bind_eq_ok, mapError_eq_ok, pure_eq_ok]
  constructor
  · rintro ⟨⟨⟩, hcheck, rfl⟩
    exact ⟨hcheck, rfl⟩
  · rintro ⟨hcheck, rfl⟩
    exact ⟨(), hcheck, rfl⟩

theorem origin_of_ofForm {form : Form.Mapping} {fresh : Guid} {now : Instant} {m : Mapping}
    (h : ofForm form fresh now = .ok m) :
    m.origin = .configured ∧ m.priority = form.priority.getD 0 := by
  obtain ⟨dimensions, -, h⟩ := bind_eq_ok.1 h
  obtain ⟨provider, -, h⟩ := bind_eq_ok.1 h
  obtain ⟨-, rfl⟩ := build_eq_ok.1 h
  exact ⟨rfl, rfl⟩

theorem check_of_provider {d : Draft} {p p' : Provider} (h : d.check = .ok ())
    (hp : d.provider = some p) (hcheck : checkProvider p' = checkProvider p) (guid : Option Guid)
    (dimensions : List Dimension) :
    Draft.check { d with guid, dimensions, provider := some p' } = .ok () := by
  rw [← h]
  unfold Draft.check
  simp only [hp, hcheck]

/-- What comes back of a mapping when it has been written and compiled again. -/
structure Returned (m again : Mapping) : Prop where
  guid : again.guid = m.guid
  title : again.title = m.title
  description : again.description = m.description
  priority : again.priority = m.priority
  scenario : again.scenario = m.scenario
  whenStateIs : again.whenStateIs = m.whenStateIs
  setStateTo : again.setStateTo = m.setStateTo
  timesInSameState : again.timesInSameState = m.timesInSameState
  provider : again.provider.Alike m.provider
  dimensions : List.Forall₂ Dimension.Returned m.dimensions again.dimensions

/-- With all matchers kept, every request scores the same in every dimension and in the scenario. -/
theorem Returned.score_eq {m again : Mapping} (h : m.Returned again)
    (hkept : ∀ d ∈ m.dimensions, ∀ matcher ∈ d.matchers, matcher.Kept) (r : Request)
    (scenarios : ScenarioStore) :
    (again.score r scenarios : MatchResult Score) = m.score r scenarios := by
  have hstep : again.step? = m.step? := by
    unfold step?
    rw [h.scenario, h.whenStateIs, h.setStateTo, h.timesInSameState]
  have hdetails : (matchDimensions r again.dimensions : MatchResult Score) =
      matchDimensions r m.dimensions := by
    unfold matchDimensions
    congr 1
    have hall := h.dimensions
    generalize m.dimensions = before at hkept hall ⊢
    generalize again.dimensions = after at hall ⊢
    induction hall with
    | nil => rfl
    | cons hd _ ih =>
        rw [List.forall_mem_cons] at hkept
        rw [List.map_cons, List.map_cons, ih hkept.2, hd.label, hd.score_eq hkept.1 r]
  unfold score
  rw [hstep, hdetails]

def rewritten (m : Mapping) (now : Instant) : Mapping :=
  { m with
    dimensions := m.dimensions.map Dimension.rewritten
    provider := m.provider.rewritten
    updatedAt := now }

theorem returned_rewritten {m : Mapping} (h : m.provider.rewritten.Alike m.provider)
    (now : Instant) : m.Returned (m.rewritten now) := by
  refine ⟨rfl, rfl, rfl, rfl, rfl, rfl, rfl, rfl, h, ?_⟩
  rw [rewritten, List.forall₂_map_right_iff, List.forall₂_same]
  exact fun d _ => d.returned_rewritten

theorem ofForm_toForm {form : Form.Mapping} {fresh : Guid} {now : Instant} {m : Mapping}
    (h : ofForm form fresh now = .ok m) (fresh' : Guid) (now' : Instant) :
    ofForm m.toForm fresh' now' = .ok (m.rewritten now') ∧ m.Returned (m.rewritten now') := by
  obtain ⟨dimensions, hdimensions, h⟩ := bind_eq_ok.1 h
  obtain ⟨provider, hprovider, h⟩ := bind_eq_ok.1 h
  obtain ⟨hcheck, hm⟩ := build_eq_ok.1 h
  obtain ⟨hreturn, halike, hsame⟩ := providerOfForm_toForm hprovider
  refine ⟨?_, returned_rewritten (by rw [hm]; exact halike) now'⟩
  have hcheck' := check_of_provider hcheck rfl hsame (some (form.guid.getD fresh))
    (dimensions.map Dimension.rewritten)
  rw [hm]
  exact bind_eq_ok.2 ⟨_, Dimension.ofForm_toForm hdimensions,
    bind_eq_ok.2 ⟨_, hreturn, build_eq_ok.2 ⟨hcheck', rfl⟩⟩⟩

/--
A mapping that was compiled is written in a form that compiles, and what comes back differs from it in the scores of
matchers that are not kept at most.
-/
theorem returned_of_ofForm {form : Form.Mapping} {fresh : Guid} {now : Instant} {m : Mapping}
    (h : ofForm form fresh now = .ok m) (fresh' : Guid) (now' : Instant) :
    ∃ again, ofForm m.toForm fresh' now' = .ok again ∧ m.Returned again ∧
      ((∀ d ∈ m.dimensions, ∀ matcher ∈ d.matchers, matcher.Kept) →
        ∀ r scenarios, (again.score r scenarios : MatchResult Score) = m.score r scenarios) := by
  obtain ⟨hagain, hreturned⟩ := ofForm_toForm h fresh' now'
  exact ⟨m.rewritten now', hagain, hreturned, hreturned.score_eq⟩

def orderForm (matcher : String) (pattern : Json) : Form.Mapping :=
  { Form.Mapping.empty with
    request :=
      { Form.Request.empty with
        path := some (.pattern "/orders/*")
        body := some
          { matcher := some
              { name := matcher, pattern := some pattern, patterns := none, ignoreCase := none
                rejectOnMatch := none, matchOperator := none }
            matchers := none, matchOperator := none } } }

def orderMapping (kind : Matcher.Kind) : Mapping :=
  { guid := default, title := none, description := none, priority := 0
    dimensions := [.path (.single (Wildcard.matcher "/orders/*")), .body (.single (.ofKind kind))]
    provider := .fixed (.ofStatus 200), scenario := none, whenStateIs := none, setStateTo := none
    timesInSameState := none, origin := .configured, updatedAt := default }

def orderRequest : Request :=
  .ofUrl "POST" { (default : Url) with scheme := "http", path := "/orders/7" }
    [("content-type", Bytes.ofText "application/json")] (Bytes.ofText "\"123\"") none default

theorem ofForm_orderForm {matcher : String} {pattern : Json} {kind : Matcher.Kind}
    (h : Matcher.Kind.compile matcher [pattern] false = .ok kind) :
    ofForm (orderForm matcher pattern) default default = .ok (orderMapping kind) := by
  have hpath : MatcherSet.ofForm (.pattern "/orders/*") =
      .ok (.single (Wildcard.matcher "/orders/*")) := by
    rw [MatcherSet.ofForm, Wildcard.wildcard_of_le (by decide +kernel)]
    rfl
  have hmatcher : Matcher.ofForm
      { name := matcher, pattern := some pattern, patterns := none, ignoreCase := none
        rejectOnMatch := none, matchOperator := none } = .ok (.ofKind kind) :=
    bind_eq_ok.2 ⟨_, map_eq_ok.2 ⟨kind, h, rfl⟩, rfl⟩
  have hdimensions : Dimension.ofForm (orderForm matcher pattern).request =
      .ok (orderMapping kind).dimensions := by
    simp only [Dimension.ofForm, orderForm, Form.Request.empty, Dimension.part, Dimension.parts,
      Option.toList_none, Option.toList_some, List.mapM_cons, List.mapM_nil, hpath, MatcherSet.ofBody,
      hmatcher]
    rfl
  exact bind_eq_ok.2 ⟨_, hdimensions, rfl⟩

theorem orderMapping_again :
    ofForm (orderForm "JsonMatcher" (.string "paid")) default default =
        .ok (orderMapping (.json (.string "paid"))) ∧
      ∃ again, ofForm (orderMapping (.json (.string "paid"))).toForm default default = .ok again ∧
        ∀ r scenarios, (again.score r scenarios : MatchResult Score) =
          (orderMapping (.json (.string "paid"))).score r scenarios := by
  have hform : ofForm (orderForm "JsonMatcher" (.string "paid")) default default =
      .ok (orderMapping (.json (.string "paid"))) := ofForm_orderForm rfl
  have hkept : ∀ d ∈ (orderMapping (.json (.string "paid"))).dimensions,
      ∀ matcher ∈ d.matchers, matcher.Kept := by
    refine List.forall_mem_cons.2 ⟨?_, List.forall_mem_singleton.2 ?_⟩
    · exact List.forall_mem_singleton.2 trivial
    · exact List.forall_mem_singleton.2 (rfl : Json.parse? "paid" = none)
  obtain ⟨again, hagain, -, hscore⟩ := returned_of_ofForm hform default default
  exact ⟨hform, again, hagain, hscore hkept⟩

/-- A JSON text of digits comes back as a number, and the mapping no longer matches what it matched. -/
theorem orderMapping_digits :
    ofForm (orderForm "JsonMatcher" (.string "\"123\"")) default default =
        .ok (orderMapping (.json (.string "123"))) ∧
      ofForm (orderMapping (.json (.string "123"))).toForm default default =
        .ok (orderMapping (.json (.number (.whole 123)))) ∧
      ((orderMapping (.json (.string "123"))).score orderRequest .empty : MatchResult Score).isMatch =
        true ∧
      ((orderMapping (.json (.number (.whole 123)))).score orderRequest .empty :
        MatchResult Score).isMatch = false := by
  have hform : ofForm (orderForm "JsonMatcher" (.string "\"123\"")) default default =
      .ok (orderMapping (.json (.string "123"))) := ofForm_orderForm rfl
  refine ⟨hform, (ofForm_toForm hform default default).1, ?_, ?_⟩
  · decide +kernel
  · decide +kernel

end Mapping

end Understudy

import Understudy.Proofs.Request.Assembled
import Understudy.Proofs.Score.Perfect
import Understudy.Recording.Synthesis

/-!
# Which requests a recording answers perfectly

A recording asks for the method and the path of the request that it was made from, for one value at least of every name
that the settings do not exclude, and for the body when there is one. `Recording.Accepts` says this in terms of the two
requests, and a perfect score says neither more nor less. A request is accepted by its own recording.
-/

namespace Understudy

open Scale

variable {α : Type} [Scale α] [Scale.Lawful α]

namespace Recording

/-- What a recording asks of another body, in the view of it that the recorded content calls for. -/
def AcceptsBody (r q : Request) : Prop :=
  match r.content with
  | none => True
  | some (.text s) => q.bodyAttribute.text? = some s
  | some (.json v) => ∃ w, q.bodyAttribute.json? = some w ∧ Json.equals false v w = true
  | some .bytes => q.bodyAttribute.bytes? = some r.body

structure Accepts (s : ProxySettings) (r q : Request) : Prop where
  method : Text.sameName (Text.upper r.method) q.method = true
  path : q.path = r.path
  headers : ∀ e ∈ r.headers.entries, asksFor s e.1 = true →
    ∃ vs, q.headers.getAll? e.1 = some vs ∧ ∃ v ∈ vs, v ∈ e.2
  cookies : ∀ c ∈ r.cookies, s.excludesCookie c.1 = false →
    ∃ c', q.cookies.find? (·.1 == c.1) = some c' ∧ c'.2 = c.2
  params : ∀ e ∈ r.query.entries, s.excludesParam e.1 = false →
    ∃ e' ∈ q.query.entries, e'.1 = e.1 ∧ ∃ v ∈ e'.2, v ∈ e.2
  body : AcceptsBody r q

theorem score_methods (r q : Request) :
    ((Dimension.ofMethods [r.method]).score q : α) = one ↔
      Text.sameName (Text.upper r.method) q.method = true := by
  simp [Dimension.ofMethods, Dimension.score, Text.listsName]

theorem score_path (r q : Request) :
    ((Dimension.path (.single (.exact r.path))).score q : α) = one ↔ q.path = r.path := by
  rw [Dimension.score, MatcherSet.score_single, Matcher.score_exact]
  simp [Attribute.text?]

theorem score_header (q : Request) (name : String) (values : List String) :
    ((Dimension.header (.of name [.exactAny values] true)).score q : α) = one ↔
      ∃ vs, q.headers.getAll? name = some vs ∧ ∃ v ∈ vs, v ∈ values := by
  rw [Dimension.score, KeyedMatcher.score_of_exactAny]
  simp [Dimension.headerValues?, KeyedMatcher.of, Option.any_eq_true]

theorem score_cookie (q : Request) (name value : String) :
    ((Dimension.cookie (.of name [.exact value] false)).score q : α) = one ↔
      ∃ c, q.cookies.find? (·.1 == name) = some c ∧ c.2 = value := by
  have hone : Matcher.exact value = .exactAny [value] := rfl
  rw [Dimension.score, hone, KeyedMatcher.score_of_exactAny]
  simp only [ofBool_eq_one, Dimension.cookieValues?, KeyedMatcher.of, MultiMap.sameKey,
    Bool.false_eq_true, if_false]
  cases q.cookies.find? (·.1 == name) <;> simp

theorem score_param (q : Request) (name : String) (values : List String) :
    ((Dimension.param (.of name [.exactAny values] false)).score q : α) = one ↔
      ∃ e ∈ q.query.entries, e.1 = name ∧ ∃ v ∈ e.2, v ∈ values := by
  rw [Dimension.score, KeyedMatcher.score_of_exactAny]
  simp only [ofBool_eq_one, Dimension.paramValues?, KeyedMatcher.of, MultiMap.sameKey,
    Bool.false_eq_true, if_false, Option.any_eq_true]
  constructor
  · rintro ⟨found, hfound, hany⟩
    split at hfound
    · exact absurd hfound (by simp)
    · obtain rfl := Option.some.inj hfound
      obtain ⟨v, hv, hmem⟩ := List.any_eq_true.1 hany
      obtain ⟨e, he, hve⟩ := List.mem_flatMap.1 hv
      obtain ⟨hentry, hname⟩ := List.mem_filter.1 he
      exact ⟨e, hentry, beq_iff_eq.1 hname, v, hve, List.contains_iff_mem.1 hmem⟩
  · rintro ⟨e, he, hname, v, hv, hmem⟩
    have hfound : e ∈ q.query.entries.filter (·.1 == name) :=
      List.mem_filter.2 ⟨he, beq_iff_eq.2 hname⟩
    refine ⟨_, if_neg ?_, List.any_eq_true.2
      ⟨v, List.mem_flatMap.2 ⟨e, hfound, hv⟩, List.contains_iff_mem.2 hmem⟩⟩
    rw [List.isEmpty_iff]
    exact List.ne_nil_of_mem hfound

theorem score_body (r q : Request) :
    (∀ d ∈ bodyDimensions r, (d.score q : α) = one) ↔ AcceptsBody r q := by
  unfold bodyDimensions AcceptsBody
  cases r.content with
  | none => simp
  | some c =>
      rw [List.forall_mem_singleton, Dimension.score, MatcherSet.score_single]
      cases c with
      | text s => rw [bodyMatcher, Matcher.score_exact, ofBool_eq_one, beq_iff_eq]
      | json v => rw [bodyMatcher, Matcher.score_json, ofBool_eq_one, Option.any_eq_true]
      | bytes => rw [bodyMatcher, Matcher.score_exactBytes, ofBool_eq_one, beq_iff_eq]

/-- A perfect score on the dimensions of a request is what its recording asks for. -/
theorem isPerfect_iff_accepts (s : ProxySettings) (r q : Request) :
    (Mapping.matchDimensions q (dimensions s r) : MatchResult α).isPerfect = true ↔
      Accepts s r q := by
  rw [Mapping.isPerfect_matchDimensions, dimensions]
  simp only [List.forall_mem_append, score_body, headerDimensions, cookieDimensions,
    paramDimensions, List.forall_mem_map, List.mem_filter, Bool.not_eq_true', and_imp,
    score_header, score_cookie, score_param, List.forall_mem_cons, score_methods, score_path,
    List.not_mem_nil, false_implies, implies_true, and_true]
  constructor
  · rintro ⟨⟨⟨⟨⟨hmethod, hpath⟩, hheaders⟩, hcookies⟩, hparams⟩, hbody⟩
    exact ⟨hmethod, hpath, hheaders, hcookies, hparams, hbody⟩
  · intro h
    exact ⟨⟨⟨⟨⟨h.method, h.path⟩, h.headers⟩, h.cookies⟩, h.params⟩, h.body⟩

theorem acceptsBody_self {r : Request} (h : r.Assembled) : AcceptsBody r r := by
  unfold AcceptsBody Request.bodyAttribute
  cases hc : r.content with
  | none => trivial
  | some c =>
      cases c with
      | text s => rfl
      | json v =>
          obtain ⟨s, -, hparse⟩ := h.reads hc
          exact ⟨v, rfl, (Json.free_of_parse? hparse).equals_self false⟩
      | bytes => rfl

theorem accepts_self {r : Request} (h : r.Assembled) (s : ProxySettings) : Accepts s r r where
  method := by rw [h.upper_method, Text.sameName_refl]
  path := rfl
  headers := by
    intro e he _
    rw [h.headers_eq] at he ⊢
    obtain ⟨hfound, v, hv⟩ := MultiMap.getAll?_of_mem_entries he
    exact ⟨e.2, hfound, v, hv, hv⟩
  cookies := fun c hc _ => ⟨c, h.cookies_ascending.find?_of_mem hc, rfl⟩
  params := by
    intro e he _
    rw [h.query_eq] at he ⊢
    obtain ⟨-, v, hv⟩ := MultiMap.getAll?_of_mem_entries he
    exact ⟨e, he, rfl, v, hv, hv⟩
  body := acceptsBody_self h

end Recording

end Understudy

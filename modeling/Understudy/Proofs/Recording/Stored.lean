import Understudy.Proofs.Form.Reading
import Understudy.Proofs.Recording.Synthesis

/-!
# Recordings as they are stored

A recording is written as the form of its layout. This form can be stored when a JSON body is neither null nor anything
that is not read back from its text (`Storable`), and it compiles again exactly when no name in it is blank (`Named`).
What comes back scores the recorded request perfectly unless the body is a text that reads as JSON itself, and it
answers as it was answered in any case. A request `Survives` when all of this holds.
-/

namespace Understudy

open Traversal
open Json (Legible)

namespace Request

theorem Assembled.cookie_filled {r : Request} (h : r.Assembled) :
    ∀ c ∈ r.cookies, Text.isAllBlank c.1 = false := by
  obtain ⟨method, url, headers, body, clientIp, at_, rfl⟩ := h.exists_ofUrl
  simp only [ofUrl, cookiesOf]
  intro c hc
  obtain ⟨part, -, hpart⟩ := List.mem_filterMap.1 (Ascending.mem_of_mem_sort hc)
  unfold cookieOf? at hpart
  split at hpart
  · obtain ⟨hname, hc⟩ := Option.ite_none_left_eq_some.1 hpart
    obtain rfl := Option.some.inj hc
    exact Text.isAllBlank_trim (by simpa using hname)
  · exact absurd hpart (by simp)

end Request

namespace Matcher

theorem patterns_of_pattern_toForm {m : Matcher} {v : Json} (h : m.toForm.pattern = some v) :
    m.patterns = [v] := by
  unfold toForm at h
  simp only at h
  split at h
  · exact absurd h (by simp)
  · rename_i p hone
    rw [hone, Option.some.inj h]
  · exact absurd h (by simp)

theorem patterns_of_patterns_toForm {m : Matcher} {vs : List Json}
    (h : m.toForm.patterns = some vs) : m.patterns = vs := by
  unfold toForm at h
  simp only at h
  split at h
  · exact absurd h (by simp)
  · exact absurd h (by simp)
  · exact Option.some.inj h

theorem storable_of_texts {m : Matcher} (h : ∀ v ∈ m.patterns, ∃ s, v = .string s) (depth : ℕ) :
    m.toForm.Storable depth := by
  constructor
  · intro v hv
    obtain ⟨s, rfl⟩ := h v (by simp [patterns_of_pattern_toForm hv])
    exact ⟨by simp, .string s, .string s⟩
  · intro vs hvs v hv
    obtain ⟨s, rfl⟩ := h v (by rwa [patterns_of_patterns_toForm hvs])
    exact ⟨.string s, .string s⟩

theorem storable_exactAny (texts : List String) (depth : ℕ) :
    (exactAny texts).toForm.Storable depth := by
  refine storable_of_texts (fun v hv => ?_) depth
  obtain ⟨e, -, rfl⟩ := List.mem_map.1 hv
  exact ⟨e.value, rfl⟩

theorem compiled_exactAny {texts : List String} (h : texts ≠ []) : (exactAny texts).Compiled := by
  refine ⟨by simpa using h, fun e he => ?_⟩
  obtain ⟨s, -, rfl⟩ := List.mem_map.1 he
  rfl

end Matcher

theorem Dimension.filled_of_parts {make : KeyedMatcher → Dimension} {isHeader : Bool}
    {ks : List KeyedMatcher} {ds : List Dimension}
    (h : parts make isHeader (keyedForms ks) = .ok ds) :
    ∀ k ∈ ks, Text.isAllBlank k.name = false := by
  rw [parts, getD_keyedForms] at h
  intro k hk
  obtain ⟨d, hd⟩ := exists_ok_of_mapM_eq_ok h (List.mem_map_of_mem hk)
  obtain ⟨read, hread, -⟩ := map_eq_ok.1 hd
  unfold KeyedMatcher.ofForm at hread
  split at hread
  · exact absurd hread throw_ne_ok
  · rename_i hname
    exact Bool.eq_false_iff.2 hname

theorem Response.Definition.ascending_toForm (d : Response.Definition) :
    ∀ hs ∈ d.toForm.headers, Ascending hs := by
  have hsorted : ∀ hs ∈ d.toForm.headers, ∃ groups, hs = Ascending.sort groups := by
    unfold toForm
    cases d.body
    all_goals
      intro hs hhs
      exact ⟨_, (Option.some.inj (Option.ite_none_left_eq_some.1 hhs).2).symm⟩
  intro hs hhs
  obtain ⟨groups, rfl⟩ := hsorted hs hhs
  exact Ascending.sort_ascending groups

namespace Recording

/-- No name that the recording asks for is blank. -/
structure Named (s : ProxySettings) (r : Request) : Prop where
  headers : ∀ e ∈ r.headers.entries, asksFor s e.1 = true → Text.isAllBlank e.1 = false
  params : ∀ e ∈ r.query.entries, s.excludesParam e.1 = false → Text.isAllBlank e.1 = false

/-- A JSON body is not null, and is read back from its text where it stands in the recording. -/
def Storable (r : Request) : Prop :=
  ∀ v, r.content = some (.json v) → v ≠ .null ∧ Legible 123 v

/-- What a request has to be like for its recording to be the same when it is read back. -/
structure Survives (s : ProxySettings) (r : Request) : Prop where
  named : Named s r
  storable : Storable r
  /-- a text is taken for the JSON that it reads as -/
  plain : ∀ t, r.content = some (.json (.string t)) → Json.parse? t = none

def layout (s : ProxySettings) (r : Request) : Dimension.Layout where
  clientIp := none
  methods := some [Text.upper r.method]
  path := some (.single (.exact r.path))
  url := none
  headers := (r.headers.entries.filter fun e => asksFor s e.1).map fun e =>
    .of e.1 [.exactAny e.2] true
  cookies := (r.cookies.filter fun c => !s.excludesCookie c.1).map fun c =>
    .of c.1 [.exactAny [c.2]] false
  params := (r.query.entries.filter fun e => !s.excludesParam e.1).map fun e =>
    .of e.1 [.exactAny e.2] false
  body := r.content.map fun c => .single (bodyMatcher r.body c)

theorem dimensions_layout (s : ProxySettings) (r : Request) :
    (layout s r).dimensions = dimensions s r := by
  have hbody : (layout s r).body.toList.map .body = bodyDimensions r := by
    unfold bodyDimensions layout
    cases r.content <;> rfl
  rw [Dimension.Layout.dimensions, hbody, dimensions, headerDimensions, cookieDimensions,
    paramDimensions]
  simp only [layout, List.map_map]
  rfl

variable {s : ProxySettings} {r : Request}

theorem compiled_of {isHeader ignoreCase : Bool} {name : String} {texts : List String}
    (hname : Text.isAllBlank name = false) (htexts : texts ≠ [])
    (hcase : isHeader = true → ignoreCase = true) :
    (KeyedMatcher.of name [.exactAny texts] ignoreCase).Compiled isHeader where
  name := hname
  matchers := List.forall_mem_singleton.2 (Matcher.compiled_exactAny htexts)
  ignoreCase := hcase

theorem compiled_layout (hr : r.Assembled) (h : Named s r) : (layout s r).Compiled where
  clientIp := by simp [layout]
  methods := by
    intro names hnames
    obtain rfl := Option.some.inj hnames
    exact ⟨List.cons_ne_nil _ _, by simp⟩
  path := by
    intro set hset
    obtain rfl := Option.some.inj hset
    exact ⟨List.cons_ne_nil _ _,
      List.forall_mem_singleton.2 (Matcher.compiled_exactAny (List.cons_ne_nil r.path []))⟩
  url := by simp [layout]
  headers := by
    intro k hk
    obtain ⟨e, he, rfl⟩ := List.mem_map.1 hk
    obtain ⟨hentry, hasked⟩ := List.mem_filter.1 he
    refine compiled_of (h.headers e hentry hasked) ?_ fun _ => rfl
    rw [hr.headers_eq] at hentry
    exact List.ne_nil_of_mem (MultiMap.getAll?_of_mem_entries hentry).2.choose_spec
  cookies := by
    intro k hk
    obtain ⟨c, hc, rfl⟩ := List.mem_map.1 hk
    exact compiled_of (hr.cookie_filled c (List.mem_filter.1 hc).1) (List.cons_ne_nil _ _)
      fun hheader => absurd hheader Bool.false_ne_true
  params := by
    intro k hk
    obtain ⟨e, he, rfl⟩ := List.mem_map.1 hk
    obtain ⟨hentry, hasked⟩ := List.mem_filter.1 he
    refine compiled_of (h.params e hentry (by simpa using hasked)) ?_
      fun hheader => absurd hheader Bool.false_ne_true
    rw [hr.query_eq] at hentry
    exact List.ne_nil_of_mem (MultiMap.getAll?_of_mem_entries hentry).2.choose_spec
  body := by
    intro set hset
    obtain ⟨c, -, rfl⟩ := Option.map_eq_some_iff.1 hset
    refine ⟨List.cons_ne_nil _ _, List.forall_mem_singleton.2 ?_⟩
    cases c with
    | text t => exact Matcher.compiled_exactAny (List.cons_ne_nil t [])
    | json v => trivial
    | bytes => trivial

/-- The layout of a recording compiles only when no name in it is blank. -/
theorem named_of_ofForm {ds : List Dimension}
    (h : Dimension.ofForm (layout s r).form = .ok ds) : Named s r := by
  unfold Dimension.ofForm at h
  obtain ⟨clientIp, -, h⟩ := bind_eq_ok.1 h
  obtain ⟨path, -, h⟩ := bind_eq_ok.1 h
  obtain ⟨url, -, h⟩ := bind_eq_ok.1 h
  obtain ⟨headers, hheaders, h⟩ := bind_eq_ok.1 h
  obtain ⟨cookies, -, h⟩ := bind_eq_ok.1 h
  obtain ⟨params, hparams, -⟩ := bind_eq_ok.1 h
  constructor
  · intro e he hasked
    exact Dimension.filled_of_parts hheaders _
      (List.mem_map_of_mem (List.mem_filter.2 ⟨he, hasked⟩))
  · intro e he hasked
    exact Dimension.filled_of_parts hparams _
      (List.mem_map_of_mem (List.mem_filter.2 ⟨he, by simpa using hasked⟩))

/-- No matcher changes its scores unless it is a text that reads as JSON. -/
theorem kept_dimensions (h : ∀ t, r.content = some (.json (.string t)) → Json.parse? t = none) :
    ∀ d ∈ dimensions s r, ∀ m ∈ d.matchers, m.Kept := by
  have hkeyed (d : Dimension) (texts : List String) (hd : d.matchers = [.exactAny texts]) :
      ∀ m ∈ d.matchers, m.Kept := by
    rw [hd, List.forall_mem_singleton]
    trivial
  rw [dimensions]
  simp only [List.forall_mem_append, List.forall_mem_cons, List.not_mem_nil, false_implies,
    implies_true, and_true]
  have hmethods : ∀ m ∈ (Dimension.ofMethods [r.method]).matchers, m.Kept := by
    simp [Dimension.ofMethods, Dimension.matchers]
  refine ⟨⟨⟨⟨⟨hmethods, hkeyed _ [r.path] rfl⟩, ?_⟩, ?_⟩, ?_⟩, ?_⟩
  · intro d hd
    obtain ⟨e, -, rfl⟩ := List.mem_map.1 hd
    exact hkeyed _ e.2 rfl
  · intro d hd
    obtain ⟨c, -, rfl⟩ := List.mem_map.1 hd
    exact hkeyed _ [c.2] rfl
  · intro d hd
    obtain ⟨e, -, rfl⟩ := List.mem_map.1 hd
    exact hkeyed _ e.2 rfl
  · unfold bodyDimensions
    cases hc : r.content with
    | none => simp
    | some c =>
        refine List.forall_mem_singleton.2 (List.forall_mem_singleton.2 ?_)
        cases c with
        | text t => trivial
        | bytes => trivial
        | json v =>
            cases v with
            | string t => exact h t hc
            | _ => trivial

theorem storable_bodyMatcher (hr : r.Assembled) (h : Storable r) {c : Content}
    (hc : r.content = some c) : (bodyMatcher r.body c).toForm.Storable 122 := by
  cases c with
  | text t => exact Matcher.storable_exactAny [t] 122
  | bytes =>
      exact Matcher.storable_of_texts (List.forall_mem_singleton.2 ⟨_, rfl⟩) 122
  | json v =>
      obtain ⟨hne, hlegible⟩ := h v hc
      obtain ⟨text, -, hparse⟩ := hr.reads hc
      refine ⟨fun w hw => ?_, fun vs hvs => absurd hvs (Option.some_ne_none vs).symm⟩
      obtain rfl := Option.some.inj hw
      exact ⟨hne, Json.free_of_parse? hparse, hlegible⟩

theorem storable_keyedForms {ks : List KeyedMatcher}
    (h : ∀ k ∈ ks, ∃ texts, k.matchers = [.exactAny texts]) (depth : ℕ) :
    ∀ forms ∈ Dimension.keyedForms ks, ∀ form ∈ forms, form.Storable depth := by
  intro forms hforms form hform
  obtain ⟨-, hforms⟩ := Option.ite_none_left_eq_some.1 hforms
  obtain rfl := Option.some.inj hforms
  obtain ⟨k, hk, rfl⟩ := List.mem_map.1 hform
  obtain ⟨texts, htexts⟩ := h k hk
  intro ms hms m hm
  obtain ⟨-, hms⟩ := Option.ite_none_left_eq_some.1 hms
  obtain rfl := Option.some.inj hms
  rw [htexts, List.map_singleton, List.mem_singleton] at hm
  rw [hm]
  exact Matcher.storable_exactAny texts depth

theorem storable_form (hr : r.Assembled) (h : Storable r) : (layout s r).form.Storable 120 where
  clientIp := by simp [Dimension.Layout.form, layout]
  path := by
    intro value hvalue block hblock m hm
    obtain rfl := Option.some.inj hvalue
    obtain rfl := Form.Value.matchers.inj hblock
    obtain rfl := List.mem_singleton.1 hm
    exact Matcher.storable_exactAny [r.path] 121
  url := by simp [Dimension.Layout.form, layout]
  headers := by
    refine storable_keyedForms (fun k hk => ?_) 120
    obtain ⟨e, -, rfl⟩ := List.mem_map.1 hk
    exact ⟨e.2, rfl⟩
  cookies := by
    refine storable_keyedForms (fun k hk => ?_) 120
    obtain ⟨c, -, rfl⟩ := List.mem_map.1 hk
    exact ⟨[c.2], rfl⟩
  params := by
    refine storable_keyedForms (fun k hk => ?_) 120
    obtain ⟨e, -, rfl⟩ := List.mem_map.1 hk
    exact ⟨e.2, rfl⟩
  body := by
    intro b hb
    obtain ⟨set, hset, rfl⟩ := Option.map_eq_some_iff.1 hb
    obtain ⟨c, hc, rfl⟩ := Option.map_eq_some_iff.1 hset
    refine ⟨fun m hm => ?_, fun ms hms => absurd hms (Option.some_ne_none ms).symm⟩
    obtain rfl := Option.some.inj hm
    exact storable_bodyMatcher hr h hc

theorem grouped_definition (m : Response.Message) :
    Response.Definition.Grouped (definition m).headers := by
  rw [groups_definition]
  exact Response.Definition.grouped_addAll ⟨List.Pairwise.nil, by simp⟩ m.headers

theorem storable_definition {m : Response.Message} (h : Response.isLegalStatus m.status = true)
    (depth : ℕ) : (definition m).toForm.Storable depth := by
  have hstatus : (definition m).status < 65536 := by
    have hlegal : 100 ≤ m.status ∧ m.status < 1000 := by simpa [Response.isLegalStatus] using h
    have hsame : (definition m).status = m.status := status_definition m
    omega
  have hdelay : (definition m).delay = none := by
    rw [definition, Response.Definition.withHeaders_eq]
    rfl
  obtain ⟨hcode, hbody, hwait⟩ : (definition m).toForm.statusCode = some (definition m).status ∧
      (definition m).toForm.bodyAsJson = none ∧ (definition m).toForm.delay = none := by
    unfold Response.Definition.toForm
    cases hbody : (definition m).body with
    | json v => exact absurd hbody (body_ne_json m v)
    | _ => exact ⟨rfl, rfl, hdelay⟩
  refine ⟨?_, Response.Definition.ascending_toForm _, ?_, ?_⟩
  · intro n hn
    obtain rfl := Option.some.inj (hcode.symm.trans hn)
    exact hstatus
  · simp [hbody]
  · simp [hwait]

end Recording

namespace Mapping

/-- A recording as it is read back, when it has become a mapping like any other. -/
def reloaded (m : Mapping) (now : Instant) : Mapping :=
  { m with origin := .configured }.rewritten now

theorem returned_reloaded {m : Mapping} (h : m.provider.rewritten.Alike m.provider)
    (now : Instant) : m.Returned (m.reloaded now) := by
  have hrewritten := returned_rewritten h now
  exact ⟨rfl, rfl, rfl, rfl, rfl, rfl, rfl, rfl, hrewritten.provider, hrewritten.dimensions⟩

variable {s : ProxySettings} {r : Request} {m : Response.Message}

theorem storable_ofRecorded (hs : s.useDefinedRequestMatchers = false) (hr : r.Assembled)
    (h : Recording.Storable r) (hm : Response.isLegalStatus m.status = true) (proxy : Mapping)
    (fresh : Guid) {now : Instant} (hnow : now.IsClock) :
    (ofRecorded s proxy r m fresh now).toForm.Storable where
  priority := by
    intro n hn
    obtain rfl := Option.some.inj hn
    exact (by decide : -0x80000000 ≤ recordedPriority ∧ recordedPriority ≤ 0x7FFFFFFF)
  timesInSameState := fun n hn => absurd hn (Option.some_ne_none n).symm
  request := by
    rw [toForm, dimensions_ofRecorded hs, ← Recording.dimensions_layout,
      Dimension.toForm_dimensions]
    exact Recording.storable_form hr h
  response := Recording.storable_definition hm 123
  updatedAt := by
    intro t ht
    obtain rfl := Option.some.inj ht
    exact hnow

/-- The form of a recording compiles when no name in it is blank. -/
theorem ofForm_ofRecorded (hs : s.useDefinedRequestMatchers = false) (hr : r.Assembled)
    (h : Recording.Named s r) (hm : Response.isLegalStatus m.status = true) (proxy : Mapping)
    (fresh fresh' : Guid) (now now' : Instant) :
    ofForm (ofRecorded s proxy r m fresh now).toForm fresh' now' =
      .ok ((ofRecorded s proxy r m fresh now).reloaded now') := by
  have hdimensions : Dimension.ofForm (ofRecorded s proxy r m fresh now).toForm.request =
      .ok ((Recording.dimensions s r).map Dimension.rewritten) := by
    rw [toForm, dimensions_ofRecorded hs, ← Recording.dimensions_layout,
      Dimension.toForm_dimensions, Dimension.ofForm_form (Recording.compiled_layout hr h),
      Dimension.Layout.dimensions_rewritten]
  obtain ⟨hprovider, -⟩ := providerOfForm_fixed (Recording.grouped_definition m)
  refine bind_eq_ok.2 ⟨_, hdimensions, bind_eq_ok.2 ⟨_, hprovider, build_eq_ok.2 ⟨?_, ?_⟩⟩⟩
  · have hcheck : checkProvider (.fixed (Recording.definition m)) = .ok () := by
      have hstatus : (Recording.definition m).status = m.status := Recording.status_definition m
      rw [checkProvider, hstatus, if_pos hm]
      rfl
    exact hcheck
  · rw [reloaded, rewritten, dimensions_ofRecorded hs]
    rfl

/-- What was read back scores the request perfectly, unless its body is a text that reads as JSON. -/
theorem isPerfect_reloaded_iff (hs : s.useDefinedRequestMatchers = false) (hr : r.Assembled)
    (proxy : Mapping) (m : Response.Message) (fresh : Guid) (now now' : Instant)
    (scenarios : ScenarioStore) :
    (((ofRecorded s proxy r m fresh now).reloaded now').score r scenarios :
        MatchResult Score).isPerfect = true ↔
      ∀ t, r.content = some (.json (.string t)) → Json.parse? t = none := by
  constructor
  · intro h t hc
    have hscore : ((ofRecorded s proxy r m fresh now).reloaded now').score r scenarios =
        (matchDimensions r ((Recording.dimensions s r).map Dimension.rewritten) :
          MatchResult Score) := by
      rw [← dimensions_ofRecorded hs proxy r m fresh now]
      rfl
    have hbody : Dimension.body (.single (.json (.string t))) ∈ Recording.dimensions s r := by
      rw [Recording.dimensions, Recording.bodyDimensions, hc]
      exact List.mem_concat_self
    rw [hscore, isPerfect_matchDimensions, List.forall_mem_map] at h
    have hone : ((Dimension.body ⟨[.json (Matcher.reread (.string t))], .or⟩).score r : Score) =
        Scale.one := h _ hbody
    rw [Dimension.score_body_single, Matcher.score_json, Scale.ofBool_eq_one,
      Request.bodyAttribute, hc] at hone
    -- a value that the text was taken for is not equal to it
    rw [Option.eq_none_iff_forall_ne_some]
    intro v hv
    rw [Matcher.reread, hv, Option.getD_some] at hone
    have hequal : Json.equals false v (.string t) = true := hone
    rw [Matcher.Kind.equals_reread hv] at hequal
    exact Bool.false_ne_true hequal
  · intro h
    obtain ⟨-, halike⟩ := providerOfForm_fixed (Recording.grouped_definition m)
    have hreturned : (ofRecorded s proxy r m fresh now).Returned _ :=
      returned_reloaded halike now'
    have hkept : ∀ d ∈ (ofRecorded s proxy r m fresh now).dimensions,
        ∀ matcher ∈ d.matchers, matcher.Kept := by
      rw [dimensions_ofRecorded hs]
      exact Recording.kept_dimensions h
    rw [hreturned.score_eq hkept r scenarios, score_ofRecorded s hs,
      Recording.isPerfect_iff_accepts]
    exact Recording.accepts_self hr s

theorem reloaded_replays (s : ProxySettings) (proxy : Mapping) (r : Request) (m : Response.Message)
    (fresh : Guid) (now now' : Instant) :
    ∃ d, ((ofRecorded s proxy r m fresh now).reloaded now').provider = .fixed d ∧
      d.message.status = m.status ∧ d.message.body = m.body ∧
      (∀ name, d.message.valuesOf name = m.valuesOf name) ∧ d.message.binaryHeaders = [] := by
  obtain ⟨-, halike⟩ := providerOfForm_fixed (Recording.grouped_definition m)
  refine ⟨_, rfl, ?_, ?_, fun name => ?_, rfl⟩
  · exact halike.status.trans (Recording.status_definition m)
  · exact halike.body.trans (Recording.body_definition m)
  · exact (halike.values name).trans (Recording.valuesOf_definition m name)

end Mapping

end Understudy

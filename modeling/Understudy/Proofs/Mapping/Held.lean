import Understudy.Proofs.Form.Storage
import Understudy.Proofs.Recording.Stored

/-!
# What the forms of mappings hold

The patterns of a matcher are texts, ranges, or JSON values that were written in a form or read from a text, so that all
of them are free. A mapping that was compiled from a form or made from an exchange is therefore written in a form whose
fields hold what they can hold.
-/

namespace Understudy

open Traversal

theorem forall_mem_getD {α : Type} {o : Option (List α)} {p : α → Prop}
    (h : ∀ as ∈ o, ∀ a ∈ as, p a) : ∀ a ∈ o.getD [], p a := by
  cases o with
  | none => exact List.forall_mem_nil _
  | some as => exact h as rfl

theorem Json.free_ofBinary64 (x : Binary64) : (Json.ofBinary64 x).Free := by
  unfold Json.ofBinary64
  split
  · rename_i hfinite
    exact .number hfinite
  · exact .null

theorem NumericRange.free_toJson (r : NumericRange) : r.toJson.Free := by
  have hbound (bound : Option Binary64) : (Json.ofOption Json.ofBinary64 bound).Free := by
    cases bound with
    | none => exact .null
    | some x => exact Json.free_ofBinary64 x
  refine .object ?_ (by simp [hbound])
  simp only [Ascending, List.pairwise_cons, List.mem_singleton, forall_eq]
  exact ⟨by decide, by simp⟩

namespace Matcher

def IsFree (m : Matcher) : Prop := ∀ v ∈ m.patterns, v.Free

theorem Kind.free_patterns {kind : Kind} (h : ∀ v, kind = .json v ∨ kind = .jsonPartial v → v.Free) :
    ∀ v ∈ kind.patterns, v.Free := by
  have htexts {α : Type} (write : α → String) (as : List α) :
      ∀ v ∈ as.map fun a => Json.string (write a), v.Free := by
    intro v hv
    obtain ⟨a, -, rfl⟩ := List.mem_map.1 hv
    exact .string _
  cases kind with
  | exact values => exact htexts _ values
  | wildcard ps => exact htexts _ ps
  | regex ps => exact htexts _ ps
  | jsonPath qs => exact htexts _ qs
  | json v => exact List.forall_mem_singleton.2 (h v (Or.inl rfl))
  | jsonPartial v => exact List.forall_mem_singleton.2 (h v (Or.inr rfl))
  | xPath es => exact htexts id es
  | exactBytes b => exact List.forall_mem_singleton.2 (.string _)
  | numericRange r => exact List.forall_mem_singleton.2 r.free_toJson
  | network ns => exact htexts _ ns
  | notEmpty => exact List.forall_mem_nil _

theorem free_of_jsonPattern {name : String} {patterns : List Json} {v : Json}
    (h : jsonPattern name patterns = .ok v) (hpatterns : ∀ p ∈ patterns, p.Free) : v.Free := by
  unfold jsonPattern at h
  split at h
  · rename_i s
    obtain rfl := pure_eq_ok.1 h
    cases hparse : Json.parse? s with
    | none => exact .string s
    | some w => exact Json.free_of_parse? hparse
  · obtain rfl := pure_eq_ok.1 h
    exact hpatterns _ (List.mem_singleton_self _)
  · exact absurd h throw_ne_ok

theorem Kind.free_of_compile {name : String} {patterns : List Json} {ignoreCase : Bool}
    {kind : Kind} (h : compile name patterns ignoreCase = .ok kind)
    (hpatterns : ∀ p ∈ patterns, p.Free) : ∀ v ∈ kind.patterns, v.Free := by
  obtain ⟨-, rfl⟩ := compiled_of_compile h
  refine free_patterns fun v hv => ?_
  rcases hv with rfl | rfl
  all_goals
    simp only [compile, Kind.name] at h
    obtain ⟨w, hw, h⟩ := bind_eq_ok.1 h
    cases pure_eq_ok.1 h
    exact free_of_jsonPattern hw hpatterns

theorem isFree_of_ofForm {form : Form.Matcher} {m : Matcher} (h : ofForm form = .ok m)
    (hform : form.IsFree) : m.IsFree := by
  have hpatterns : ∀ p ∈ form.patterns.getD form.pattern.toList, p.Free := by
    cases hlist : form.patterns with
    | none => exact fun p hp => hform.pattern p (Option.mem_toList.1 hp)
    | some vs => exact hform.patterns vs hlist
  unfold ofForm at h
  obtain ⟨compiled, hcompiled, h⟩ := bind_eq_ok.1 h
  obtain ⟨fold, -, h⟩ := bind_eq_ok.1 h
  obtain rfl := pure_eq_ok.1 h
  obtain ⟨kind, hkind, rfl⟩ := map_eq_ok.1 hcompiled
  exact Kind.free_of_compile hkind hpatterns

theorem IsFree.toForm {m : Matcher} (h : m.IsFree) : m.toForm.IsFree where
  pattern := by
    intro v hv
    exact h v (by simp [patterns_of_pattern_toForm hv])
  patterns := by
    intro vs hvs v hv
    exact h v (by rwa [patterns_of_patterns_toForm hvs])

theorem isFree_exactAny (texts : List String) : (exactAny texts).IsFree :=
  Kind.free_patterns (by simp [exactAny, ofKind])

theorem isFree_of_mapM {forms : List Form.Matcher} {ms : List Matcher}
    (h : forms.mapM ofForm = .ok ms) (hforms : ∀ form ∈ forms, form.IsFree) :
    ∀ m ∈ ms, m.IsFree := by
  intro m hm
  obtain ⟨form, hform, hcompiled⟩ := exists_of_mapM_eq_ok h hm
  exact isFree_of_ofForm hcompiled (hforms form hform)

end Matcher

theorem MatcherSet.isFree_of_ofForm {form : Form.Value} {set : MatcherSet}
    (h : ofForm form = .ok set) (hform : form.All Form.Matcher.IsFree) :
    ∀ m ∈ set.matchers, m.IsFree := by
  unfold ofForm at h
  split at h
  · rename_i s
    obtain ⟨m, hm, rfl⟩ := map_eq_ok.1 h
    obtain ⟨p, -, rfl⟩ := Matcher.wildcard_eq_ok.1 hm
    exact List.forall_mem_singleton.2 (List.forall_mem_singleton.2 (.string p.source))
  · rename_i block
    split at h
    · exact absurd h throw_ne_ok
    · obtain ⟨ms, hms, h⟩ := bind_eq_ok.1 h
      obtain ⟨fold, -, h⟩ := bind_eq_ok.1 h
      obtain rfl := pure_eq_ok.1 h
      exact Matcher.isFree_of_mapM hms (hform block rfl)

theorem MatcherSet.isFree_of_ofBody {form : Form.Body} {set : MatcherSet}
    (h : ofBody form = .ok set) (hform : form.All Form.Matcher.IsFree) :
    ∀ m ∈ set.matchers, m.IsFree := by
  unfold ofBody at h
  obtain ⟨first, hfirst, h⟩ := bind_eq_ok.1 h
  obtain ⟨more, hmore, h⟩ := bind_eq_ok.1 h
  split at h
  · exact absurd h throw_ne_ok
  · obtain ⟨fold, -, h⟩ := bind_eq_ok.1 h
    obtain rfl := pure_eq_ok.1 h
    rw [List.forall_mem_append]
    exact ⟨Matcher.isFree_of_mapM hfirst fun m hm => hform.matcher m (Option.mem_toList.1 hm),
      Matcher.isFree_of_mapM hmore (forall_mem_getD hform.matchers)⟩

theorem KeyedMatcher.isFree_of_ofForm {isHeader : Bool} {form : Form.Keyed} {k : KeyedMatcher}
    (h : ofForm isHeader form = .ok k) (hform : form.All Form.Matcher.IsFree) :
    ∀ m ∈ k.matchers, m.IsFree := by
  unfold ofForm at h
  split at h
  · exact absurd h throw_ne_ok
  · obtain ⟨ms, hms, h⟩ := bind_eq_ok.1 h
    obtain ⟨fold, -, h⟩ := bind_eq_ok.1 h
    obtain rfl := pure_eq_ok.1 h
    exact Matcher.isFree_of_mapM hms (forall_mem_getD hform)

namespace Dimension

def IsFree (d : Dimension) : Prop := ∀ m ∈ d.matchers, m.IsFree

theorem isFree_of_part {α : Type} {make : MatcherSet → Dimension}
    (hmake : ∀ set, (make set).matchers = set.matchers) {read : α → Except Error MatcherSet}
    {form : Option α} {ds : List Dimension} (h : part make read form = .ok ds)
    (hread : ∀ a ∈ form, ∀ set, read a = .ok set → ∀ m ∈ set.matchers, m.IsFree) :
    ∀ d ∈ ds, d.IsFree := by
  intro d hd
  obtain ⟨a, ha, hstep⟩ := exists_of_mapM_eq_ok h hd
  obtain ⟨set, hset, rfl⟩ := map_eq_ok.1 hstep
  rw [IsFree, hmake]
  exact hread a (Option.mem_toList.1 ha) set hset

theorem isFree_of_parts {make : KeyedMatcher → Dimension}
    (hmake : ∀ k, (make k).matchers = k.matchers) {isHeader : Bool}
    {forms : Option (List Form.Keyed)} {ds : List Dimension} (h : parts make isHeader forms = .ok ds)
    (hforms : ∀ ks ∈ forms, ∀ k ∈ ks, k.All Form.Matcher.IsFree) : ∀ d ∈ ds, d.IsFree := by
  intro d hd
  obtain ⟨form, hform, hstep⟩ := exists_of_mapM_eq_ok h hd
  obtain ⟨k, hk, rfl⟩ := map_eq_ok.1 hstep
  rw [IsFree, hmake]
  exact KeyedMatcher.isFree_of_ofForm hk (forall_mem_getD hforms form hform)

theorem isFree_of_ofForm {form : Form.Request} {ds : List Dimension} (h : ofForm form = .ok ds)
    (hform : form.All Form.Matcher.IsFree) : ∀ d ∈ ds, d.IsFree := by
  unfold ofForm at h
  obtain ⟨ip, hip, h⟩ := bind_eq_ok.1 h
  obtain ⟨path, hpath, h⟩ := bind_eq_ok.1 h
  obtain ⟨url, hurl, h⟩ := bind_eq_ok.1 h
  obtain ⟨headers, hheaders, h⟩ := bind_eq_ok.1 h
  obtain ⟨cookies, hcookies, h⟩ := bind_eq_ok.1 h
  obtain ⟨params, hparams, h⟩ := bind_eq_ok.1 h
  obtain ⟨body, hbody, h⟩ := bind_eq_ok.1 h
  obtain rfl := pure_eq_ok.1 h
  have hvalue (o : Option Form.Value) (ho : ∀ value ∈ o, value.All Form.Matcher.IsFree) :
      ∀ a ∈ o, ∀ set, MatcherSet.ofForm a = .ok set → ∀ m ∈ set.matchers, m.IsFree :=
    fun a ha set hset => MatcherSet.isFree_of_ofForm hset (ho a ha)
  have hmethods : ∀ d ∈ (form.methods.filter (!·.isEmpty)).toList.map ofMethods, d.IsFree := by
    intro d hd
    obtain ⟨names, -, rfl⟩ := List.mem_map.1 hd
    exact List.forall_mem_nil _
  simp only [List.forall_mem_append]
  refine ⟨⟨⟨⟨⟨⟨⟨?_, hmethods⟩, ?_⟩, ?_⟩, ?_⟩, ?_⟩, ?_⟩, ?_⟩
  · exact isFree_of_part (fun _ => rfl) hip (hvalue _ hform.clientIp)
  · exact isFree_of_part (fun _ => rfl) hpath (hvalue _ hform.path)
  · exact isFree_of_part (fun _ => rfl) hurl (hvalue _ hform.url)
  · exact isFree_of_parts (fun _ => rfl) hheaders hform.headers
  · exact isFree_of_parts (fun _ => rfl) hcookies hform.cookies
  · exact isFree_of_parts (fun _ => rfl) hparams hform.params
  · exact isFree_of_part (fun _ => rfl) hbody fun b hb set hset =>
      MatcherSet.isFree_of_ofBody hset (hform.body b hb)

section

variable {p : Form.Matcher → Prop} {form : Form.Request}

theorem all_pushKeyed {forms : Option (List Form.Keyed)} {k : KeyedMatcher}
    (hforms : ∀ ks ∈ forms, ∀ form ∈ ks, form.All p) (hk : ∀ m ∈ k.matchers, p m.toForm) :
    ∀ ks ∈ pushKeyed k forms, ∀ form ∈ ks, form.All p := by
  intro ks hks
  obtain rfl := Option.some.inj hks
  rw [List.forall_mem_append, List.forall_mem_singleton]
  refine ⟨forall_mem_getD hforms, fun ms hms => ?_⟩
  obtain ⟨-, hms⟩ := Option.ite_none_left_eq_some.1 hms
  obtain rfl := Option.some.inj hms
  exact List.forall_mem_map.2 hk

theorem all_toForm_set {set : MatcherSet} (h : ∀ m ∈ set.matchers, p m.toForm) :
    ∀ value ∈ some set.toForm, value.All p := by
  intro value hvalue block hblock
  obtain rfl := Option.some.inj hvalue
  obtain rfl := Form.Value.matchers.inj hblock
  exact List.forall_mem_map.2 h

theorem all_toBody {set : MatcherSet} (h : ∀ m ∈ set.matchers, p m.toForm) : set.toBody.All p := by
  unfold MatcherSet.toBody
  split
  · rename_i m hone
    refine ⟨fun form hform => ?_, by simp⟩
    obtain rfl := Option.some.inj hform
    exact h m (by simp [hone])
  · refine ⟨by simp, fun forms hforms => ?_⟩
    obtain rfl := Option.some.inj hforms
    exact List.forall_mem_map.2 h

theorem all_write {d : Dimension} (hform : form.All p) (hd : ∀ m ∈ d.matchers, p m.toForm) :
    (write form d).All p := by
  cases d with
  | methods names => exact { hform with }
  | path set => exact { hform with path := all_toForm_set hd }
  | url set => exact { hform with url := all_toForm_set hd }
  | clientIp set => exact { hform with clientIp := all_toForm_set hd }
  | header k => exact { hform with headers := all_pushKeyed hform.headers hd }
  | cookie k => exact { hform with cookies := all_pushKeyed hform.cookies hd }
  | param k => exact { hform with params := all_pushKeyed hform.params hd }
  | body set =>
      refine { hform with body := fun b hb => ?_ }
      obtain rfl := Option.some.inj hb
      exact all_toBody hd
  | predicate name holds => exact hform

theorem all_foldl_write {ds : List Dimension} (hform : form.All p)
    (h : ∀ d ∈ ds, ∀ m ∈ d.matchers, p m.toForm) : (ds.foldl write form).All p := by
  induction ds generalizing form with
  | nil => exact hform
  | cons d ds ih =>
      rw [List.forall_mem_cons] at h
      exact ih (all_write hform h.1) h.2

theorem all_toForm {ds : List Dimension} (h : ∀ d ∈ ds, ∀ m ∈ d.matchers, p m.toForm) :
    (toForm ds).All p := by
  refine all_foldl_write ?_ h
  constructor <;> simp [Form.Request.empty]

end

end Dimension

theorem Response.Body.bodyAsJson_of_ofForm {form : Form.Response} {v : Json}
    (h : ofForm form = .ok (.json v)) : form.bodyAsJson = some v := by
  unfold ofForm at h
  split at h
  · cases pure_eq_ok.1 h
  · cases pure_eq_ok.1 h
  · rename_i w hjson _
    cases pure_eq_ok.1 h
    exact hjson
  · split at h
    · cases pure_eq_ok.1 h
    · exact absurd h throw_ne_ok
  · exact absurd h throw_ne_ok

namespace Mapping

theorem held_of_storable {form : Form.Response} {depth : ℕ} (h : form.Storable depth) : form.Held where
  statusCode := h.statusCode
  headers := h.headers
  bodyAsJson := fun v hv => (h.bodyAsJson v hv).2.1
  delay := h.delay

theorem held_providerToForm {form : Form.Response} {p : Provider} (h : providerOfForm form = .ok p)
    (hform : form.Held) : (providerToForm p).Held := by
  unfold providerOfForm at h
  split at h
  · obtain rfl := pure_eq_ok.1 h
    constructor <;> simp [providerToForm, Form.Response.empty]
  · obtain ⟨d, hd, rfl⟩ := map_eq_ok.1 h
    obtain ⟨body, hbody, hd⟩ := bind_eq_ok.1 hd
    have hheaders := d.ascending_toForm
    obtain ⟨hstatus, hdelay, hjson⟩ : d.status = form.statusCode.getD 200 ∧ d.delay = form.delay ∧
        d.body = body := by
      obtain rfl := pure_eq_ok.1 hd
      rw [Response.Definition.withHeaders_eq]
      exact ⟨rfl, rfl, rfl⟩
    obtain ⟨hcode, hwait, hvalue⟩ : d.toForm.statusCode = some d.status ∧
        d.toForm.delay = d.delay ∧ ∀ v ∈ d.toForm.bodyAsJson, d.body = .json v := by
      unfold Response.Definition.toForm
      cases d.body <;> simp [Form.Response.empty]
    refine ⟨fun n hn => ?_, hheaders, fun v hv => ?_, ?_⟩
    · obtain rfl := Option.some.inj (hcode.symm.trans hn)
      rw [hstatus]
      cases hgiven : form.statusCode with
      | none => decide
      | some n => exact hform.statusCode n hgiven
    · refine hform.bodyAsJson v (Response.Body.bodyAsJson_of_ofForm ?_)
      rw [hbody, ← hjson, hvalue v hv]
    · rw [providerToForm, hwait, hdelay]
      exact hform.delay

/--
The mapping was compiled from a form, or made from an exchange. What a form, a clock and the matchers of a proxy can
hold is what these are given.
-/
inductive Made : Mapping → Prop where
  | compiled {form : Form.Mapping} {fresh : Guid} {now : Instant} {m : Mapping} (hform : form.Held)
      (hnow : now.IsClock) (h : ofForm form fresh now = .ok m) : Made m
  | recorded {s : ProxySettings} {proxy : Mapping} {r : Request} {message : Response.Message}
      {fresh : Guid} {now : Instant} {m : Mapping} (hproxy : ∀ d ∈ proxy.dimensions, d.IsFree)
      (hr : r.Assembled) (hnow : now.IsClock)
      (h : ofExchange s proxy r message fresh now = .ok m) : Made m

theorem isFree_recorded {r : Request} (hr : r.Assembled) (s : ProxySettings) :
    ∀ d ∈ Recording.dimensions s r, d.IsFree := by
  have hkeyed (d : Dimension) (texts : List String) (hd : d.matchers = [.exactAny texts]) :
      d.IsFree := by
    rw [Dimension.IsFree, hd, List.forall_mem_singleton]
    exact Matcher.isFree_exactAny texts
  rw [Recording.dimensions]
  simp only [List.forall_mem_append, List.forall_mem_cons, List.not_mem_nil, false_implies,
    implies_true, and_true]
  refine ⟨⟨⟨⟨⟨List.forall_mem_nil _, hkeyed _ [r.path] rfl⟩, ?_⟩, ?_⟩, ?_⟩, ?_⟩
  · intro d hd
    obtain ⟨e, -, rfl⟩ := List.mem_map.1 hd
    exact hkeyed _ e.2 rfl
  · intro d hd
    obtain ⟨c, -, rfl⟩ := List.mem_map.1 hd
    exact hkeyed _ [c.2] rfl
  · intro d hd
    obtain ⟨e, -, rfl⟩ := List.mem_map.1 hd
    exact hkeyed _ e.2 rfl
  · unfold Recording.bodyDimensions
    cases hc : r.content with
    | none => simp
    | some c =>
        refine List.forall_mem_singleton.2 (List.forall_mem_singleton.2 ?_)
        cases c with
        | text t => exact Matcher.isFree_exactAny [t]
        | bytes => exact List.forall_mem_singleton.2 (.string _)
        | json v =>
            obtain ⟨text, -, hparse⟩ := hr.reads hc
            exact List.forall_mem_singleton.2 (Json.free_of_parse? hparse)

/-- The form of a mapping holds what its fields can hold. -/
theorem Made.held_toForm {m : Mapping} (h : m.Made) : m.toForm.Held := by
  cases h with
  | @compiled form fresh now _ hform hnow h =>
      obtain ⟨dimensions, hdimensions, h⟩ := bind_eq_ok.1 h
      obtain ⟨provider, hprovider, h⟩ := bind_eq_ok.1 h
      obtain ⟨-, rfl⟩ := build_eq_ok.1 h
      have hfree := Dimension.isFree_of_ofForm hdimensions hform.request
      have hpriority : -0x80000000 ≤ form.priority.getD 0 ∧ form.priority.getD 0 ≤ 0x7FFFFFFF := by
        cases hgiven : form.priority with
        | none => decide
        | some n => exact hform.inRange.priority n hgiven
      refine ⟨⟨fun n hn => ?_, hform.inRange.timesInSameState⟩,
        Dimension.all_toForm fun d hd m hm => (hfree d hd m hm).toForm,
        held_providerToForm hprovider hform.response, ?_⟩
      · obtain rfl := Option.some.inj hn
        exact hpriority
      · intro t ht
        obtain rfl := Option.some.inj ht
        exact hnow
  | @recorded s proxy r message fresh now _ hproxy hr hnow h =>
      obtain ⟨hstatus, rfl⟩ := ofExchange_eq_ok.1 h
      have hfree : ∀ d ∈ (ofRecorded s proxy r message fresh now).dimensions, d.IsFree := by
        simp only [ofRecorded]
        split
        · exact hproxy
        · exact isFree_recorded hr s
      refine ⟨⟨fun n hn => ?_, by simp [toForm, ofRecorded]⟩,
        Dimension.all_toForm fun d hd m hm => (hfree d hd m hm).toForm,
        held_of_storable (Recording.storable_definition hstatus 0), ?_⟩
      · obtain rfl := Option.some.inj hn
        exact (by decide : -0x80000000 ≤ recordedPriority ∧ recordedPriority ≤ 0x7FFFFFFF)
      · intro t ht
        obtain rfl := Option.some.inj ht
        exact hnow

end Mapping

end Understudy

import Understudy.Matching.Form
import Understudy.Proofs.Matcher.Form
import Understudy.Proofs.Score.Binary64
import Understudy.Proofs.Text.Ascii

/-!
# What dimensions keep when they are written

Dimensions that come from a form stand in a fixed order, with at most one of each kind except for headers, cookies and
parameters: a `Layout`. Its form compiles, and to the same layout with every matcher rewritten. A matcher that stands
alone in a body loses the way to fold, which does nothing to one score.
-/

namespace Understudy

open Traversal

namespace MatcherSet

def rewritten (set : MatcherSet) : MatcherSet :=
  { set with matchers := set.matchers.map Matcher.rewritten }

/-- A matcher alone in a body is written without a way to fold. -/
def rewrittenBody (set : MatcherSet) : MatcherSet :=
  match set.matchers with
  | [m] => .single m.rewritten
  | _ => set.rewritten

def Compiled (set : MatcherSet) : Prop := set.matchers ≠ [] ∧ ∀ m ∈ set.matchers, m.Compiled

theorem compiled_of_ofForm {form : Form.Value} {set : MatcherSet} (h : ofForm form = .ok set) :
    set.Compiled := by
  unfold ofForm at h
  split at h
  · rename_i s
    obtain ⟨m, hm, rfl⟩ := map_eq_ok.1 h
    obtain ⟨p, hp, rfl⟩ := Matcher.wildcard_eq_ok.1 hm
    have hsource := Matcher.source_of_ofWildcard hp
    refine ⟨List.cons_ne_nil _ _, List.forall_mem_singleton.2 ⟨List.cons_ne_nil _ _, ?_⟩⟩
    exact List.forall_mem_singleton.2 (hsource ▸ hp)
  · split at h
    · exact absurd h throw_ne_ok
    · rename_i hne
      obtain ⟨ms, hms, h⟩ := bind_eq_ok.1 h
      obtain ⟨fold, -, h⟩ := bind_eq_ok.1 h
      obtain rfl := pure_eq_ok.1 h
      refine ⟨ne_nil_of_mapM_eq_ok hms (by simpa using hne), ?_⟩
      intro m hm
      obtain ⟨form, -, hform⟩ := exists_of_mapM_eq_ok hms hm
      exact Matcher.compiled_of_ofForm hform

theorem compiled_of_ofBody {form : Form.Body} {set : MatcherSet} (h : ofBody form = .ok set) :
    set.Compiled := by
  unfold ofBody at h
  obtain ⟨first, hfirst, h⟩ := bind_eq_ok.1 h
  obtain ⟨more, hmore, h⟩ := bind_eq_ok.1 h
  split at h
  · exact absurd h throw_ne_ok
  · rename_i hne
    obtain ⟨fold, -, h⟩ := bind_eq_ok.1 h
    obtain rfl := pure_eq_ok.1 h
    refine ⟨?_, ?_⟩
    · intro hnil
      rw [List.append_eq_nil_iff] at hnil
      exact hne (by rw [hnil.1, hnil.2]; rfl)
    · intro m hm
      rcases List.mem_append.1 hm with hm | hm
      · obtain ⟨form, -, hform⟩ := exists_of_mapM_eq_ok hfirst hm
        exact Matcher.compiled_of_ofForm hform
      · obtain ⟨form, -, hform⟩ := exists_of_mapM_eq_ok hmore hm
        exact Matcher.compiled_of_ofForm hform

theorem mapM_toForm {ms : List Matcher} (h : ∀ m ∈ ms, m.Compiled) :
    (ms.map Matcher.toForm).mapM Matcher.ofForm = .ok (ms.map Matcher.rewritten) :=
  mapM_map_eq_ok fun m hm => Matcher.ofForm_toForm (h m hm)

theorem ofForm_toForm {set : MatcherSet} (h : set.Compiled) :
    ofForm set.toForm = .ok set.rewritten := by
  unfold ofForm toForm
  simp only
  rw [if_neg (by simpa using h.1)]
  exact bind_eq_ok.2 ⟨_, mapM_toForm h.2, bind_eq_ok.2 ⟨_, Fold.ofForm_toForm set.fold, rfl⟩⟩

theorem ofBody_toBody {set : MatcherSet} (h : set.Compiled) :
    ofBody set.toBody = .ok set.rewrittenBody := by
  obtain ⟨ms, fold⟩ := set
  obtain ⟨hne, hall⟩ := h
  match ms with
  | [] => exact absurd rfl hne
  | [m] =>
      exact bind_eq_ok.2 ⟨_, mapM_toForm hall, bind_eq_ok.2 ⟨_, rfl, rfl⟩⟩
  | m :: n :: ms =>
      refine bind_eq_ok.2 ⟨_, rfl, bind_eq_ok.2 ⟨_, mapM_toForm hall, ?_⟩⟩
      exact bind_eq_ok.2 ⟨_, Fold.ofForm_toForm fold, rfl⟩

variable {α : Type} [Scale α]

theorem score_rewritten {set : MatcherSet} (h : ∀ m ∈ set.matchers, m.Kept) (input : Attribute) :
    (set.rewritten.score input : α) = set.score input := by
  unfold score
  congr 1
  rw [rewritten, List.map_map]
  exact List.map_congr_left fun m hm => Matcher.score_rewritten (h m hm) input

theorem score_rewrittenBody [Scale.Lawful α] {set : MatcherSet} (h : ∀ m ∈ set.matchers, m.Kept)
    (input : Attribute) : (set.rewrittenBody.score input : α) = set.score input := by
  unfold rewrittenBody
  split
  · rename_i m hone
    have hm : m.Kept := h m (by simp [hone])
    rw [score, score, hone, single, List.map_singleton, List.map_singleton,
      Fold.combine_single _ (m.rewritten.isScore_score input),
      Fold.combine_single _ (m.isScore_score input), Matcher.score_rewritten hm]
  · exact score_rewritten h input

end MatcherSet

namespace KeyedMatcher

def rewritten (k : KeyedMatcher) : KeyedMatcher :=
  { k with matchers := k.matchers.map Matcher.rewritten }

structure Compiled (isHeader : Bool) (k : KeyedMatcher) : Prop where
  name : Text.isAllBlank k.name = false
  matchers : ∀ m ∈ k.matchers, m.Compiled
  ignoreCase : isHeader = true → k.ignoreCase = true

theorem compiled_of_ofForm {isHeader : Bool} {form : Form.Keyed} {k : KeyedMatcher}
    (h : ofForm isHeader form = .ok k) : k.Compiled isHeader := by
  unfold ofForm at h
  split at h
  · exact absurd h throw_ne_ok
  · rename_i hname
    obtain ⟨ms, hms, h⟩ := bind_eq_ok.1 h
    obtain ⟨fold, -, h⟩ := bind_eq_ok.1 h
    obtain rfl := pure_eq_ok.1 h
    refine ⟨by simpa using hname, ?_, ?_⟩
    · intro m hm
      obtain ⟨form, -, hform⟩ := exists_of_mapM_eq_ok hms hm
      exact Matcher.compiled_of_ofForm hform
    · intro hheader
      rw [hheader]
      rfl

theorem ofForm_toForm {isHeader : Bool} {k : KeyedMatcher} (h : k.Compiled isHeader) :
    ofForm isHeader k.toForm = .ok k.rewritten := by
  have hmatchers : k.toForm.matchers.getD [] = k.matchers.map Matcher.toForm := by
    unfold toForm
    simp only
    split
    · rename_i hempty
      rw [List.isEmpty_iff.1 hempty]
      rfl
    · rfl
  have hcase : (isHeader || k.toForm.ignoreCase.getD false) = k.ignoreCase := by
    have hvalue : k.toForm.ignoreCase.getD false = k.ignoreCase := Matcher.getD_ifTrue _
    rw [hvalue]
    cases hheader : isHeader with
    | false => rfl
    | true => rw [h.ignoreCase hheader]; rfl
  have hreject : Behaviour.ofReject (k.toForm.rejectOnMatch.getD false) = k.behaviour := by
    have hvalue : k.toForm.rejectOnMatch.getD false = k.behaviour.isReject := Matcher.getD_ifTrue _
    rw [hvalue]
    cases k.behaviour <;> rfl
  unfold ofForm
  rw [if_neg (by rw [show k.toForm.name = k.name from rfl, h.name]; exact Bool.false_ne_true),
    hmatchers, hcase, hreject]
  exact bind_eq_ok.2 ⟨_, MatcherSet.mapM_toForm h.matchers,
    bind_eq_ok.2 ⟨_, Fold.ofForm_toForm k.fold, rfl⟩⟩

theorem score_rewritten {α : Type} [Scale α] {k : KeyedMatcher} (h : ∀ m ∈ k.matchers, m.Kept)
    (values : Option (List String)) : (k.rewritten.score values : α) = k.score values := by
  have hraw : (k.rewritten.rawScore values : α) = k.rawScore values := by
    unfold rawScore
    cases values with
    | none => rfl
    | some vs =>
        simp only [rewritten, List.isEmpty_map, List.map_map]
        congr 2
        apply List.map_congr_left
        intro m hm
        simp only [Function.comp_apply, Matcher.score_rewritten (h m hm)]
  rw [score, score, hraw]
  rfl

end KeyedMatcher

namespace Dimension

def matchers : Dimension → List Matcher
  | .path set | .url set | .clientIp set | .body set => set.matchers
  | .header k | .cookie k | .param k => k.matchers
  | .methods _ | .predicate .. => []

def rewritten : Dimension → Dimension
  | .path set => .path set.rewritten
  | .url set => .url set.rewritten
  | .clientIp set => .clientIp set.rewritten
  | .header k => .header k.rewritten
  | .cookie k => .cookie k.rewritten
  | .param k => .param k.rewritten
  | .body set => .body set.rewrittenBody
  | d => d

@[simp] theorem label_rewritten (d : Dimension) : d.rewritten.label = d.label := by
  cases d <;> rfl

theorem matchers_rewritten (d : Dimension) :
    d.rewritten.matchers = d.matchers.map Matcher.rewritten := by
  cases d with
  | body set =>
      simp only [rewritten, matchers, MatcherSet.rewrittenBody]
      split
      · rename_i m hone
        rw [hone]
        rfl
      · rfl
  | _ => rfl

theorem score_rewritten {α : Type} [Scale α] [Scale.Lawful α] {d : Dimension}
    (h : ∀ m ∈ d.matchers, m.Kept) (r : Request) : (d.rewritten.score r : α) = d.score r := by
  cases d with
  | path set => exact MatcherSet.score_rewritten h _
  | url set => exact MatcherSet.score_rewritten h _
  | clientIp set => exact MatcherSet.score_rewritten h _
  | header k => exact KeyedMatcher.score_rewritten h _
  | cookie k => exact KeyedMatcher.score_rewritten h _
  | param k => exact KeyedMatcher.score_rewritten h _
  | body set => exact MatcherSet.score_rewrittenBody h _
  | _ => rfl

/-- A request whose body is seen as a given attribute. -/
def bodyRequest : Attribute → Request
  | .missing => default
  | .text s => { (default : Request) with content := some (.text s) }
  | .json v => { (default : Request) with content := some (.json v) }
  | .bytes b => { (default : Request) with content := some .bytes, body := b }

theorem bodyAttribute_bodyRequest (input : Attribute) : (bodyRequest input).bodyAttribute = input := by
  cases input <;> rfl

theorem score_body_single {α : Type} [Scale α] [Scale.Lawful α] (m : Matcher) (fold : Fold)
    (r : Request) : ((body ⟨[m], fold⟩).score r : α) = m.score r.bodyAttribute :=
  Fold.combine_single fold (m.isScore_score r.bodyAttribute)

/-- What comes back of a dimension when it has been written and compiled again. -/
structure Returned (d again : Dimension) : Prop where
  label : again.label = d.label
  /-- the matchers that are kept score every attribute as before, and the others do not -/
  matchers : List.Forall₂ (fun m m' : Matcher =>
    (∀ input, (m'.score input : Score) = m.score input) ↔ m.Kept) d.matchers again.matchers
  score_eq : (∀ m ∈ d.matchers, m.Kept) → ∀ r, (again.score r : Score) = d.score r
  /-- nothing makes up for a matcher that stands alone in a body -/
  kept_of_body : ∀ m fold, d = .body ⟨[m], fold⟩ → (∀ r, (again.score r : Score) = d.score r) → m.Kept

theorem returned_rewritten (d : Dimension) : d.Returned d.rewritten := by
  refine ⟨d.label_rewritten, ?_, fun h r => score_rewritten h r, ?_⟩
  · rw [matchers_rewritten, List.forall₂_map_right_iff, List.forall₂_same]
    intro m _
    exact m.score_rewritten_iff
  · rintro m fold rfl h
    refine m.score_rewritten_iff.1 fun input => ?_
    have hr := h (bodyRequest input)
    have hbody : (body ⟨[m], fold⟩).rewritten = body ⟨[m.rewritten], .or⟩ := rfl
    rw [hbody, score_body_single, score_body_single, bodyAttribute_bodyRequest] at hr
    exact hr

/-- The dimensions that a form has, by kind. -/
structure Layout where
  clientIp : Option MatcherSet
  methods : Option (List String)
  path : Option MatcherSet
  url : Option MatcherSet
  headers : List KeyedMatcher
  cookies : List KeyedMatcher
  params : List KeyedMatcher
  body : Option MatcherSet

namespace Layout

def dimensions (l : Layout) : List Dimension :=
  l.clientIp.toList.map .clientIp ++ l.methods.toList.map .methods ++ l.path.toList.map .path
    ++ l.url.toList.map .url ++ l.headers.map .header ++ l.cookies.map .cookie
    ++ l.params.map .param ++ l.body.toList.map .body

structure Compiled (l : Layout) : Prop where
  clientIp : ∀ set ∈ l.clientIp, set.Compiled
  methods : ∀ names ∈ l.methods, names ≠ [] ∧ names.map Text.upper = names
  path : ∀ set ∈ l.path, set.Compiled
  url : ∀ set ∈ l.url, set.Compiled
  headers : ∀ k ∈ l.headers, k.Compiled true
  cookies : ∀ k ∈ l.cookies, k.Compiled false
  params : ∀ k ∈ l.params, k.Compiled false
  body : ∀ set ∈ l.body, set.Compiled

def rewritten (l : Layout) : Layout :=
  { clientIp := l.clientIp.map MatcherSet.rewritten
    methods := l.methods
    path := l.path.map MatcherSet.rewritten
    url := l.url.map MatcherSet.rewritten
    headers := l.headers.map KeyedMatcher.rewritten
    cookies := l.cookies.map KeyedMatcher.rewritten
    params := l.params.map KeyedMatcher.rewritten
    body := l.body.map MatcherSet.rewrittenBody }

theorem dimensions_rewritten (l : Layout) :
    l.rewritten.dimensions = l.dimensions.map Dimension.rewritten := by
  simp only [dimensions, rewritten, List.map_append, List.map_map, Option.toList_map]
  rfl

end Layout

theorem part_eq_ok {form : Type} {make : MatcherSet → Dimension}
    {read : form → Except Error MatcherSet} {a : Option form} {ds : List Dimension}
    (h : part make read a = .ok ds) :
    ∃ o : Option MatcherSet, ds = o.toList.map make ∧ ∀ set ∈ o, ∃ b, read b = .ok set := by
  obtain ⟨sets, hsets, rfl⟩ := mapM_map_step_eq_ok.1 h
  cases a with
  | none =>
      obtain rfl := pure_eq_ok.1 hsets
      exact ⟨none, rfl, by simp⟩
  | some b =>
      obtain ⟨set, rest, hset, hrest, rfl⟩ := List.forall₂_cons_left_iff.1 (mapM_eq_ok.1 hsets)
      obtain rfl := List.forall₂_nil_left_iff.1 hrest
      exact ⟨some set, rfl, fun s hs => ⟨b, by rw [hset, Option.mem_some_iff.1 hs]⟩⟩

theorem parts_eq_ok {make : KeyedMatcher → Dimension} {isHeader : Bool}
    {forms : Option (List Form.Keyed)} {ds : List Dimension}
    (h : parts make isHeader forms = .ok ds) :
    ∃ ks : List KeyedMatcher, ds = ks.map make ∧ ∀ k ∈ ks, k.Compiled isHeader := by
  obtain ⟨ks, hks, rfl⟩ := mapM_map_step_eq_ok.1 h
  refine ⟨ks, rfl, ?_⟩
  intro k hk
  obtain ⟨form, -, hform⟩ := exists_of_mapM_eq_ok hks hk
  exact KeyedMatcher.compiled_of_ofForm hform

/-- Dimensions that were compiled have a layout. -/
theorem exists_layout {form : Form.Request} {ds : List Dimension} (h : ofForm form = .ok ds) :
    ∃ l : Layout, l.Compiled ∧ ds = l.dimensions := by
  unfold ofForm at h
  obtain ⟨ip, hip, h⟩ := bind_eq_ok.1 h
  obtain ⟨path, hpath, h⟩ := bind_eq_ok.1 h
  obtain ⟨url, hurl, h⟩ := bind_eq_ok.1 h
  obtain ⟨headers, hheaders, h⟩ := bind_eq_ok.1 h
  obtain ⟨cookies, hcookies, h⟩ := bind_eq_ok.1 h
  obtain ⟨params, hparams, h⟩ := bind_eq_ok.1 h
  obtain ⟨body, hbody, h⟩ := bind_eq_ok.1 h
  obtain rfl := pure_eq_ok.1 h
  obtain ⟨clientIp, rfl, hclientIp⟩ := part_eq_ok hip
  obtain ⟨path, rfl, hpathSet⟩ := part_eq_ok hpath
  obtain ⟨url, rfl, hurlSet⟩ := part_eq_ok hurl
  obtain ⟨headers, rfl, hheaderKeys⟩ := parts_eq_ok hheaders
  obtain ⟨cookies, rfl, hcookieKeys⟩ := parts_eq_ok hcookies
  obtain ⟨params, rfl, hparamKeys⟩ := parts_eq_ok hparams
  obtain ⟨body, rfl, hbodySet⟩ := part_eq_ok hbody
  refine ⟨⟨clientIp, (form.methods.filter (!·.isEmpty)).map (·.map Text.upper), path, url, headers,
    cookies, params, body⟩, ?_, ?_⟩
  · refine ⟨?_, ?_, ?_, ?_, hheaderKeys, hcookieKeys, hparamKeys, ?_⟩
    · intro set hset
      obtain ⟨value, hvalue⟩ := hclientIp set hset
      exact MatcherSet.compiled_of_ofForm hvalue
    · intro names hnames
      obtain ⟨given, hgiven, rfl⟩ := Option.map_eq_some_iff.1 hnames
      obtain ⟨-, hne⟩ := Option.mem_filter_iff.1 hgiven
      refine ⟨by simpa using hne, ?_⟩
      rw [List.map_map]
      exact List.map_congr_left fun name _ => Text.upper_upper name
    · intro set hset
      obtain ⟨value, hvalue⟩ := hpathSet set hset
      exact MatcherSet.compiled_of_ofForm hvalue
    · intro set hset
      obtain ⟨value, hvalue⟩ := hurlSet set hset
      exact MatcherSet.compiled_of_ofForm hvalue
    · intro set hset
      obtain ⟨value, hvalue⟩ := hbodySet set hset
      exact MatcherSet.compiled_of_ofBody hvalue
  · simp only [Layout.dimensions, Option.toList_map, List.map_map]
    rfl

/-- The matchers for names, unless there are none. -/
def keyedForms (ks : List KeyedMatcher) : Option (List Form.Keyed) :=
  if ks.isEmpty then none else some (ks.map KeyedMatcher.toForm)

def Layout.form (l : Layout) : Form.Request :=
  { clientIp := l.clientIp.map MatcherSet.toForm
    path := l.path.map MatcherSet.toForm
    url := l.url.map MatcherSet.toForm
    methods := l.methods
    headers := keyedForms l.headers
    cookies := keyedForms l.cookies
    params := keyedForms l.params
    body := l.body.map MatcherSet.toBody }

theorem foldl_pushKeyed (ks : List KeyedMatcher) :
    ks.foldl (fun forms k => pushKeyed k forms) none = keyedForms ks := by
  have hall : ∀ (ks : List KeyedMatcher) (forms : List Form.Keyed),
      ks.foldl (fun forms k => pushKeyed k forms) (some forms) =
        some (forms ++ ks.map KeyedMatcher.toForm) := by
    intro ks
    induction ks with
    | nil => simp
    | cons k ks ih =>
        intro forms
        rw [List.foldl_cons, pushKeyed, Option.getD_some, ih]
        simp
  cases ks with
  | nil => rfl
  | cons k ks =>
      rw [List.foldl_cons, pushKeyed, Option.getD_none, hall]
      rfl

theorem foldl_write_option {σ τ : Type} (make : σ → Dimension) (written : σ → τ)
    (get : Form.Request → Option τ) (put : Option τ → Form.Request → Form.Request)
    (hwrite : ∀ form s, write form (make s) = put (some (written s)) form)
    (hself : ∀ form, put (get form) form = form) (o : Option σ) (form : Form.Request) :
    (o.toList.map make).foldl write form = put ((o.map written).or (get form)) form := by
  cases o with
  | none => exact (hself form).symm
  | some s => exact hwrite form s

theorem foldl_write_keyed (make : KeyedMatcher → Dimension)
    (get : Form.Request → Option (List Form.Keyed))
    (put : Option (List Form.Keyed) → Form.Request → Form.Request)
    (hwrite : ∀ form k, write form (make k) = put (pushKeyed k (get form)) form)
    (hget : ∀ forms form, get (put forms form) = forms)
    (hput : ∀ forms forms' form, put forms (put forms' form) = put forms form)
    (hself : ∀ form, put (get form) form = form) (ks : List KeyedMatcher) (form : Form.Request) :
    (ks.map make).foldl write form =
      put (ks.foldl (fun forms k => pushKeyed k forms) (get form)) form := by
  induction ks generalizing form with
  | nil => exact (hself form).symm
  | cons k ks ih => rw [List.map_cons, List.foldl_cons, ih, hwrite, hget, hput, List.foldl_cons]

/-- The dimensions of a layout are written as its form. -/
theorem toForm_dimensions (l : Layout) : toForm l.dimensions = l.form := by
  have hclientIp := foldl_write_option .clientIp MatcherSet.toForm (·.clientIp)
    (fun clientIp form => { form with clientIp }) (fun _ _ => rfl) fun _ => rfl
  have hmethods := foldl_write_option .methods id (·.methods)
    (fun methods form => { form with methods }) (fun _ _ => rfl) fun _ => rfl
  have hpath := foldl_write_option .path MatcherSet.toForm (·.path)
    (fun path form => { form with path }) (fun _ _ => rfl) fun _ => rfl
  have hurl := foldl_write_option .url MatcherSet.toForm (·.url)
    (fun url form => { form with url }) (fun _ _ => rfl) fun _ => rfl
  have hheaders := foldl_write_keyed .header (·.headers)
    (fun headers form => { form with headers }) (fun _ _ => rfl) (fun _ _ => rfl)
    (fun _ _ _ => rfl) fun _ => rfl
  have hcookies := foldl_write_keyed .cookie (·.cookies)
    (fun cookies form => { form with cookies }) (fun _ _ => rfl) (fun _ _ => rfl)
    (fun _ _ _ => rfl) fun _ => rfl
  have hparams := foldl_write_keyed .param (·.params)
    (fun params form => { form with params }) (fun _ _ => rfl) (fun _ _ => rfl)
    (fun _ _ _ => rfl) fun _ => rfl
  have hbody := foldl_write_option .body MatcherSet.toBody (·.body)
    (fun body form => { form with body }) (fun _ _ => rfl) fun _ => rfl
  simp only [toForm, Layout.dimensions, List.foldl_append, hclientIp, hmethods, hpath, hurl,
    hheaders, hcookies, hparams, hbody, Form.Request.empty, foldl_pushKeyed, Option.or_none,
    Option.map_id, Layout.form, id_eq]

theorem part_map {form : Type} {make : MatcherSet → Dimension}
    {read : form → Except Error MatcherSet} {write : MatcherSet → form}
    {result : MatcherSet → MatcherSet} {o : Option MatcherSet}
    (h : ∀ set ∈ o, read (write set) = .ok (result set)) :
    part make read (o.map write) = .ok ((o.map result).toList.map make) := by
  cases o with
  | none => rfl
  | some set => exact mapM_map_step_eq_ok.2 ⟨[result set], by simp [h set rfl], rfl⟩

theorem getD_keyedForms (ks : List KeyedMatcher) :
    (keyedForms ks).getD [] = ks.map KeyedMatcher.toForm := by
  unfold keyedForms
  split
  · rename_i hempty
    rw [List.isEmpty_iff.1 hempty]
    rfl
  · rfl

theorem parts_keyedForms {make : KeyedMatcher → Dimension} {isHeader : Bool}
    {ks : List KeyedMatcher} (h : ∀ k ∈ ks, k.Compiled isHeader) :
    parts make isHeader (keyedForms ks) = .ok ((ks.map KeyedMatcher.rewritten).map make) := by
  rw [parts, getD_keyedForms]
  exact mapM_map_step_eq_ok.2
    ⟨_, mapM_map_eq_ok fun k hk => KeyedMatcher.ofForm_toForm (h k hk), rfl⟩

theorem ofForm_form {l : Layout} (h : l.Compiled) : ofForm l.form = .ok l.rewritten.dimensions := by
  have hmethods : (l.methods.filter (!·.isEmpty)).toList.map ofMethods =
      l.methods.toList.map .methods := by
    cases hm : l.methods with
    | none => rfl
    | some names =>
        obtain ⟨hne, hupper⟩ := h.methods names hm
        rw [Option.filter_some_pos (by simpa using hne)]
        simp [ofMethods, hupper]
  unfold ofForm
  refine bind_eq_ok.2 ⟨_, part_map fun set hset => MatcherSet.ofForm_toForm (h.clientIp set hset), ?_⟩
  refine bind_eq_ok.2 ⟨_, part_map fun set hset => MatcherSet.ofForm_toForm (h.path set hset), ?_⟩
  refine bind_eq_ok.2 ⟨_, part_map fun set hset => MatcherSet.ofForm_toForm (h.url set hset), ?_⟩
  refine bind_eq_ok.2 ⟨_, parts_keyedForms h.headers, ?_⟩
  refine bind_eq_ok.2 ⟨_, parts_keyedForms h.cookies, ?_⟩
  refine bind_eq_ok.2 ⟨_, parts_keyedForms h.params, ?_⟩
  refine bind_eq_ok.2 ⟨_, part_map fun set hset => MatcherSet.ofBody_toBody (h.body set hset), ?_⟩
  have hwritten : l.form.methods = l.methods := rfl
  rw [hwritten, hmethods]
  rfl

/-- Dimensions that were compiled are written in a form that compiles, with every matcher rewritten. -/
theorem ofForm_toForm {form : Form.Request} {ds : List Dimension} (h : ofForm form = .ok ds) :
    ofForm (toForm ds) = .ok (ds.map rewritten) := by
  obtain ⟨l, hl, rfl⟩ := exists_layout h
  rw [toForm_dimensions, ofForm_form hl, Layout.dimensions_rewritten]

end Dimension

end Understudy

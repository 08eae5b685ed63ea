import Understudy.Proofs.Recording.Acceptance
import Understudy.Proofs.Recording.Replay
import Understudy.Proofs.Text.Ascii

/-!
# The request that a recording was made from, and others

A recording scores its own request perfectly and has a dimension for every name that is not excluded. A request that it
scores perfectly agrees with its own in method and path, in one value at least of each of these query names, and in the
body as far as there is one to compare; nothing else is asked, so that further parameters, further values and a body
where there was none go unnoticed.
-/

namespace Understudy

namespace Recording

def survives (excluded : List String) (name : String) : Bool :=
  !excluded.any (Text.sameName · name)

/-- The labels of a recording: one for each name that came and is not excluded, in the order of arrival. -/
def labels (s : ProxySettings) (r : Request) : List String :=
  ["Methods", "Path"]
    ++ ((MultiMap.distinctNames true (r.rawHeaders.map Prod.fst)).filter fun n =>
        !Forward.isTransport n && !Text.sameName n "cookie" && survives s.excludedHeaders n).map
          ("Header:" ++ ·)
    ++ ((r.cookies.map Prod.fst).filter (survives s.excludedCookies)).map ("Cookie:" ++ ·)
    ++ ((MultiMap.distinctNames false (r.url.queryPairs.map Prod.fst)).filter
        (survives s.excludedParams)).map ("Param:" ++ ·)
    ++ if r.body.isEmpty then [] else ["Body"]

theorem labels_body {r : Request} (h : r.Assembled) :
    (bodyDimensions r).map Dimension.label = if r.body.isEmpty then [] else ["Body"] := by
  unfold bodyDimensions
  cases hc : r.content with
  | none => rw [if_pos (h.content_eq_none.1 hc)]; rfl
  | some c =>
      have hne : ¬ r.body.isEmpty = true := fun hempty => by
        rw [h.content_eq_none.2 hempty] at hc
        exact absurd hc (by simp)
      rw [if_neg hne]
      rfl

theorem map_label_dimensions {r : Request} (h : r.Assembled) (s : ProxySettings) :
    (dimensions s r).map Dimension.label = labels s r := by
  have hpairs : r.headerPairs.map Prod.fst = r.rawHeaders.map Prod.fst := by
    simp [Request.headerPairs, Function.comp_def]
  rw [dimensions, List.map_append, labels_body h, headerDimensions, cookieDimensions,
    paramDimensions, h.headers_eq, h.query_eq, MultiMap.entries_ofPairs, MultiMap.entries_ofPairs,
    hpairs, labels]
  simp only [List.map_append, List.map_map, List.filter_map, Function.comp_def]
  rfl

/-- What a request agrees in with the request of a recording that it matches perfectly. -/
structure Agrees (s : ProxySettings) (r q : Request) : Prop where
  method : q.method = r.method
  path : q.path = r.path
  params : ∀ name vs, s.excludesParam name = false → r.query.getAll? name = some vs →
    ∃ ws, q.query.getAll? name = some ws ∧ ∃ v ∈ ws, v ∈ vs
  /-- bytes that are no text are the same bytes -/
  bytes : r.content = some .bytes → q.body = r.body
  /-- a JSON value is met by an equal value, whatever the body is said to be -/
  json : ∀ v, r.content = some (.json v) →
    ∃ t w, Bytes.text? q.body = some t ∧ Json.parse? t = some w ∧ Json.equals false v w = true
  /-- a text is met by the same bytes, or by a JSON value that is seen as this text -/
  text : ∀ t, r.content = some (.text t) →
    q.body = r.body ∨ ∃ w, q.content = some (.json w) ∧ (w = .string t ∨ w.compact = t)

theorem agrees_of_accepts {s : ProxySettings} {r q : Request} (hr : r.Assembled)
    (hq : q.Assembled) (h : Accepts s r q) : Agrees s r q where
  method := by
    have hupper := Text.upper_eq_of_sameName h.method
    rw [hr.upper_method, hr.upper_method, hq.upper_method] at hupper
    exact hupper.symm
  path := h.path
  params := by
    intro name vs hname hvs
    obtain ⟨e, hfound, rfl⟩ := Option.map_eq_some_iff.1 hvs
    have hsame := List.find?_some hfound
    rw [hr.query_eq, MultiMap.ignoreCase_ofPairs] at hsame
    obtain rfl : e.1 = name := by simpa [MultiMap.sameKey] using hsame
    obtain ⟨e', he', hkey, v, hv, hmem⟩ := h.params e (List.mem_of_find?_eq_some hfound) hname
    rw [hq.query_eq] at he' ⊢
    refine ⟨e'.2, ?_, v, hv, hmem⟩
    rw [← hkey]
    exact (MultiMap.getAll?_of_mem_entries he').1
  bytes := by
    intro hc
    have hbody := h.body
    have hnone : Bytes.text? r.body = none := hr.reads hc
    simp only [AcceptsBody, hc, Request.bodyAttribute] at hbody
    cases hqc : q.content with
    | none => simp [hqc, Attribute.bytes?] at hbody
    | some c =>
        cases c with
        | bytes => simpa [hqc, Attribute.bytes?] using hbody
        | text t =>
            simp only [hqc, Attribute.bytes?, Option.some_inj] at hbody
            rw [← hbody, Bytes.text?_ofText] at hnone
            exact absurd hnone (by simp)
        | json v =>
            simp only [hqc, Attribute.bytes?, Option.some_inj] at hbody
            rw [← hbody, Bytes.text?_ofText] at hnone
            exact absurd hnone (by simp)
  json := by
    intro v hc
    have hbody := h.body
    simp only [AcceptsBody, hc, Request.bodyAttribute] at hbody
    obtain ⟨w, hw, hequal⟩ := hbody
    cases hqc : q.content with
    | none => simp [hqc, Attribute.json?] at hw
    | some c =>
        cases c with
        | bytes =>
            have hnone : Bytes.text? q.body = none := hq.reads hqc
            simp [hqc, Attribute.json?, hnone] at hw
        | text t =>
            have htext : Bytes.text? q.body = some t := hq.reads hqc
            exact ⟨t, w, htext, by simpa [hqc, Attribute.json?] using hw, hequal⟩
        | json x =>
            obtain ⟨t, htext, hparse⟩ := hq.reads hqc
            obtain rfl : x = w := by simpa [hqc, Attribute.json?] using hw
            exact ⟨t, x, htext, hparse, hequal⟩
  text := by
    intro t hc
    have hbody := h.body
    have htext := Bytes.text?_eq_some.1 (hr.reads hc)
    simp only [AcceptsBody, hc, Request.bodyAttribute] at hbody
    cases hqc : q.content with
    | none => simp [hqc, Attribute.text?] at hbody
    | some c =>
        cases c with
        | bytes =>
            have hnone : Bytes.text? q.body = none := hq.reads hqc
            simp [hqc, Attribute.text?, hnone] at hbody
        | text u =>
            obtain rfl : u = t := by simpa [hqc, Attribute.text?] using hbody
            exact Or.inl ((Bytes.text?_eq_some.1 (hq.reads hqc)).trans htext.symm)
        | json x =>
            refine Or.inr ⟨x, rfl, ?_⟩
            cases x with
            | string u => exact Or.inl (by simpa [hqc, Attribute.text?] using hbody)
            | _ => exact Or.inr (by simpa [hqc, Attribute.text?] using hbody)

end Recording

namespace Mapping

theorem dimensions_ofRecorded {s : ProxySettings} (hs : s.useDefinedRequestMatchers = false)
    (proxy : Mapping) (r : Request) (m : Response.Message) (fresh : Guid) (now : Instant) :
    (ofRecorded s proxy r m fresh now).dimensions = Recording.dimensions s r :=
  if_neg (by simp [hs])

theorem score_ofRecorded (s : ProxySettings) (hs : s.useDefinedRequestMatchers = false)
    (proxy : Mapping) (r : Request) (m : Response.Message) (fresh : Guid) (now : Instant)
    (q : Request) (scenarios : ScenarioStore) :
    ((ofRecorded s proxy r m fresh now).score q scenarios : MatchResult Score) =
      matchDimensions q (Recording.dimensions s r) := by
  rw [score, dimensions_ofRecorded hs]
  rfl

/--
The mapping made of an exchange scores its own request perfectly, in every scenario store, and has a dimension for the
method, the path, every name that is not excluded and the body, if there is one.
-/
theorem ofExchange_matches_own {s : ProxySettings} (hs : s.useDefinedRequestMatchers = false)
    (proxy : Mapping) {r : Request} (hr : r.Assembled) {m : Response.Message}
    (hm : Response.isLegalStatus m.status = true) (fresh : Guid) (now : Instant) :
    ∃ made, ofExchange s proxy r m fresh now = .ok made ∧
      (∀ scenarios, (made.score r scenarios : MatchResult Score).isPerfect = true) ∧
      made.dimensions.map Dimension.label = Recording.labels s r ∧
      made.priority = recordedPriority ∧ made.origin = .recorded := by
  refine ⟨ofRecorded s proxy r m fresh now, ofExchange_eq_ok.2 ⟨hm, rfl⟩, fun scenarios => ?_, ?_,
    rfl, rfl⟩
  · rw [score_ofRecorded s hs, Recording.isPerfect_iff_accepts]
    exact Recording.accepts_self hr s
  · rw [dimensions_ofRecorded hs, Recording.map_label_dimensions hr]

def ordersRequest (query : String) (headers : List (String × String)) (body : String) : Request :=
  .ofUrl "GET"
    { scheme := "http", user := "", password := none, host := some (.domain "h"), port := none
      path := "/orders", query := some query, fragment := none }
    (headers.map fun h => (h.1, Bytes.ofText h.2)) (Bytes.ofText body) none default

theorem ordersRequest_matches_own :
    ∃ made, ofExchange { ProxySettings.forUrl "http://upstream" with excludedHeaders := ["ACCEPT"] }
        forwarder (ordersRequest "tag=a&page=2&tag=b" [("X-Id", "7"), ("Accept", "*/*"),
          ("x-id", "8"), ("Cookie", "sid=1; lang=en")] "hi") latinMessage default default = .ok made ∧
      made.dimensions.map Dimension.label =
        ["Methods", "Path", "Header:X-Id", "Cookie:lang", "Cookie:sid", "Param:tag", "Param:page",
          "Body"] := by
  have hr : (ordersRequest "tag=a&page=2&tag=b" [("X-Id", "7"), ("Accept", "*/*"), ("x-id", "8"),
      ("Cookie", "sid=1; lang=en")] "hi").Assembled :=
    Request.assembled_ofUrl "http://h/orders?tag=a&page=2&tag=b" (by decide +kernel) _ _ _ _ _
  obtain ⟨made, hmade, -, hlabels, -, -⟩ :=
    ofExchange_matches_own (s := { ProxySettings.forUrl "http://upstream" with
      excludedHeaders := ["ACCEPT"] }) rfl forwarder hr (m := latinMessage) (by decide) default default
  refine ⟨made, hmade, ?_⟩
  rw [hlabels]
  decide +kernel

/-- A request that a recording scores perfectly agrees with the request that the recording was made from. -/
theorem agrees_of_isPerfect {s : ProxySettings} (hs : s.useDefinedRequestMatchers = false)
    {proxy : Mapping} {r q : Request} (hr : r.Assembled) (hq : q.Assembled) {m : Response.Message}
    {fresh : Guid} {now : Instant} {made : Mapping}
    (hmade : ofExchange s proxy r m fresh now = .ok made) {scenarios : ScenarioStore}
    (h : (made.score q scenarios : MatchResult Score).isPerfect = true) :
    Recording.Agrees s r q := by
  obtain ⟨-, rfl⟩ := ofExchange_eq_ok.1 hmade
  rw [score_ofRecorded s hs, Recording.isPerfect_iff_accepts] at h
  exact Recording.agrees_of_accepts hr hq h

theorem ordersRequest_agrees :
    ((ofRecorded (.forUrl "http://upstream") forwarder (ordersRequest "tag=a&tag=b" [] "")
        latinMessage default default).score (ordersRequest "page=2&tag=b" [] "") .empty :
          MatchResult Score).isPerfect = true ∧
      ∃ ws, (ordersRequest "page=2&tag=b" [] "").query.getAll? "tag" = some ws ∧
        ∃ v ∈ ws, v ∈ ["a", "b"] := by
  have hr : (ordersRequest "tag=a&tag=b" [] "").Assembled :=
    Request.assembled_ofUrl "http://h/orders?tag=a&tag=b" (by decide +kernel) _ _ _ _ _
  have hq : (ordersRequest "page=2&tag=b" [] "").Assembled :=
    Request.assembled_ofUrl "http://h/orders?page=2&tag=b" (by decide +kernel) _ _ _ _ _
  have hperfect : ((ofRecorded (.forUrl "http://upstream") forwarder
      (ordersRequest "tag=a&tag=b" [] "") latinMessage default default).score
        (ordersRequest "page=2&tag=b" [] "") .empty : MatchResult Score).isPerfect = true := by
    decide +kernel
  have hagrees := agrees_of_isPerfect (s := .forUrl "http://upstream") rfl hr hq
    (ofExchange_eq_ok.2 ⟨by decide, rfl⟩) hperfect
  exact ⟨hperfect, hagrees.params "tag" ["a", "b"] (by decide) (by decide +kernel)⟩

/-- The recording of one request scores another perfectly. -/
def recordingAnswers (r q : Request) : Bool :=
  match ofExchange (.forUrl "http://upstream") forwarder r latinMessage default default with
  | .ok made => (made.score q .empty : MatchResult Score).isPerfect
  | .error _ => false

/--
A recording also answers requests with a further parameter, with some of the values only, with a body where there was
none, and with a JSON string for a text.
-/
theorem recordingAnswers_others :
    (recordingAnswers (ordersRequest "tag=a" [] "") (ordersRequest "tag=a&page=2" [] "") = true ∧
      (ordersRequest "tag=a" [] "").query.contains "page" = false ∧
      (ordersRequest "tag=a&page=2" [] "").query.contains "page" = true) ∧
    (recordingAnswers (ordersRequest "tag=a&tag=b" [] "") (ordersRequest "tag=a" [] "") = true ∧
      (ordersRequest "tag=a&tag=b" [] "").query.getAll? "tag" = some ["a", "b"] ∧
      (ordersRequest "tag=a" [] "").query.getAll? "tag" = some ["a"]) ∧
    (recordingAnswers (ordersRequest "tag=a" [] "") (ordersRequest "tag=a" [] "hi") = true ∧
      (ordersRequest "tag=a" [] "").body.isEmpty = true ∧
      (ordersRequest "tag=a" [] "hi").body.isEmpty = false) ∧
    recordingAnswers (ordersRequest "tag=a" [] "hi")
        (ordersRequest "tag=a" [("Content-Type", "application/json")] "\"hi\"") = true ∧
      (ordersRequest "tag=a" [] "hi").body ≠
        (ordersRequest "tag=a" [("Content-Type", "application/json")] "\"hi\"").body := by
  decide +kernel

end Mapping

end Understudy

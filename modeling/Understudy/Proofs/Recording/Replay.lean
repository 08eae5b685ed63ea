import Understudy.Proofs.Mapping.Form
import Understudy.Proofs.Request.Assembled
import Understudy.Recording.Synthesis

/-!
# What a recording answers

The response of a recording has the status and the body of the response that was recorded and, under each name, its
texts in their order. A header value that is no UTF-8 has no place in a definition, and is lost.
-/

namespace Understudy

namespace Response

/-- All values of a header as they are sent, the texts first. -/
def Message.allValuesOf (m : Message) (name : String) : List Bytes :=
  (m.allHeaders.filter fun h => Text.sameName h.1 name).map Prod.snd

theorem Message.allValuesOf_eq (m : Message) (name : String) :
    m.allValuesOf name = (m.valuesOf name).map Bytes.ofText ++
      (m.binaryHeaders.filter fun h => Text.sameName h.1 name).map Prod.snd := by
  simp [allValuesOf, allHeaders, valuesOf, List.filter_map, Function.comp_def]

namespace Definition

theorem addHeader_eq (name value : String) (groups : Groups) :
    addHeader name value groups = MultiMap.appendTo true name value groups := by
  induction groups with
  | nil => rfl
  | cons g groups ih =>
      rw [addHeader, MultiMap.appendTo, ih]
      rfl

theorem addAll_nil (headers : List (String × String)) :
    addAll [] headers = (MultiMap.ofPairs true headers).entries := by
  induction headers using List.reverseRecOn with
  | nil => rfl
  | append_singleton headers h ih =>
      rw [MultiMap.ofPairs_concat, MultiMap.append, MultiMap.ignoreCase_ofPairs, ← ih,
        ← addHeader_eq, addAll, List.foldl_append]
      rfl

end Definition

end Response

namespace Recording

open Response

theorem bodyBytes_bodyOf (d : Definition) (body : Bytes) :
    ({ d with body := bodyOf body } : Definition).bodyBytes = body := by
  unfold bodyOf
  split
  · rename_i hempty
    exact (Bytes.eq_empty hempty).symm
  · split
    · rename_i s htext
      exact (Bytes.text?_eq_some.1 htext).symm
    · rfl

theorem groups_definition (m : Message) :
    (definition m).headers = Definition.addAll [] m.headers := by
  rw [definition, Definition.withHeaders_eq]
  rfl

theorem body_ne_json (m : Message) (v : Json) : (definition m).body ≠ .json v := by
  simp only [definition, bodyOf]
  repeat' split
  all_goals simp

theorem headers_definition (m : Message) :
    (definition m).message.headers =
      (Definition.addAll [] m.headers).flatMap fun g => g.2.map (g.1, ·) := by
  rw [Definition.message, Definition.headerList, groups_definition]
  split
  · rename_i v hv
    exact absurd hv (body_ne_json m v)
  · rfl

theorem valuesOf_definition (m : Message) (name : String) :
    (definition m).message.valuesOf name = m.valuesOf name := by
  rw [Message.valuesOf, headers_definition, Definition.filter_flatMap_groups, Definition.addAll_nil]
  exact MultiMap.flatMap_filter_ofPairs true m.headers name

theorem status_definition (m : Message) : (definition m).message.status = m.status := by
  rw [definition, Definition.withHeaders_eq]
  rfl

theorem body_definition (m : Message) : (definition m).message.body = m.body :=
  bodyBytes_bodyOf _ m.body

/-- All values come back exactly when there are none that are no UTF-8. -/
theorem allValuesOf_definition (m : Message) :
    (∀ name, (definition m).message.allValuesOf name = m.allValuesOf name) ↔
      m.binaryHeaders = [] := by
  have hnone : (definition m).message.binaryHeaders = [] := rfl
  simp only [Message.allValuesOf_eq, valuesOf_definition, hnone, List.filter_nil, List.map_nil,
    List.append_right_inj]
  constructor
  · intro h
    cases hbinary : m.binaryHeaders with
    | nil => rfl
    | cons first rest =>
        have hname := h first.1
        simp [hbinary] at hname
  · intro h
    simp [h]

end Recording

namespace Mapping

def ofRecorded (s : ProxySettings) (proxy : Mapping) (r : Request) (m : Response.Message)
    (fresh : Guid) (now : Instant) : Mapping :=
  { guid := fresh
    title := some s!"Proxy Mapping for {r.method} {r.path}"
    description := some s!"Recorded from {s.url}"
    priority := recordedPriority
    dimensions := if s.useDefinedRequestMatchers then proxy.dimensions else Recording.dimensions s r
    provider := .fixed (Recording.definition m)
    scenario := none
    whenStateIs := none
    setStateTo := none
    timesInSameState := none
    origin := .recorded
    updatedAt := now }

theorem ofExchange_eq_ok {s : ProxySettings} {proxy : Mapping} {r : Request} {m : Response.Message}
    {fresh : Guid} {now : Instant} {made : Mapping} :
    ofExchange s proxy r m fresh now = .ok made ↔
      Response.isLegalStatus m.status = true ∧ made = ofRecorded s proxy r m fresh now := by
  have hstatus : (Recording.definition m).status = m.status := Recording.status_definition m
  unfold ofExchange
  rw [build_eq_ok]
  refine and_congr ?_ Iff.rfl
  unfold Draft.check checkProvider
  simp only [Draft.blank, hstatus]
  cases Response.isLegalStatus m.status with
  | true => exact iff_of_true rfl rfl
  | false =>
      refine iff_of_false (fun h => ?_) Bool.false_ne_true
      have herror : Except.error (MappingFault.status m.status) = Except.ok () := h
      exact absurd herror (by simp)

/--
The response of a recording has the status, the body and, under each name, the texts of the response that was recorded.
It has no other values, so that nothing is lost exactly when all values are texts.
-/
theorem ofExchange_replays (s : ProxySettings) (proxy : Mapping) (r : Request)
    (m : Response.Message) (fresh : Guid) (now : Instant)
    (h : Response.isLegalStatus m.status = true) :
    ∃ made d, ofExchange s proxy r m fresh now = .ok made ∧ made.provider = .fixed d ∧
      d.message.status = m.status ∧ d.message.body = m.body ∧
      (∀ name, d.message.valuesOf name = m.valuesOf name) ∧ d.message.binaryHeaders = [] ∧
      ((∀ name, d.message.allValuesOf name = m.allValuesOf name) ↔ m.binaryHeaders = []) :=
  ⟨ofRecorded s proxy r m fresh now, Recording.definition m, ofExchange_eq_ok.2 ⟨h, rfl⟩, rfl,
    Recording.status_definition m, Recording.body_definition m, Recording.valuesOf_definition m, rfl,
    Recording.allValuesOf_definition m⟩

def forwarder : Mapping :=
  { guid := default, title := none, description := none, priority := proxyPriority
    dimensions := [.path (.single (Wildcard.matcher "*"))]
    provider := .proxy (.forUrl "http://upstream"), scenario := none, whenStateIs := none
    setStateTo := none, timesInSameState := none, origin := .proxy, updatedAt := default }

/-- A response with one header in two spellings, and one header in Latin-1. -/
def latinMessage : Response.Message :=
  { status := 200, headers := [("Vary", "origin"), ("vary", "accept")]
    binaryHeaders := [("X-Place", Bytes.ofList [0x63, 0x61, 0x66, 0xE9])]
    body := Bytes.ofText "ok" }

theorem latinMessage_replays :
    Response.isLegalStatus latinMessage.status = true ∧
      ∃ made d, ofExchange (.forUrl "http://upstream") forwarder default latinMessage default
          default = .ok made ∧ made.provider = .fixed d ∧ d.message.status = 200 ∧
        d.message.valuesOf "VARY" = ["origin", "accept"] := by
  obtain ⟨made, d, hmade, hprovider, hstatus, -, hvalues, -, -⟩ :=
    ofExchange_replays (.forUrl "http://upstream") forwarder default latinMessage default default
      (by decide)
  refine ⟨by decide, made, d, hmade, hprovider, hstatus, ?_⟩
  rw [hvalues]
  decide

/-- The Latin-1 value that was relayed is not replayed. -/
theorem latinMessage_loses_value :
    latinMessage.allValuesOf "x-place" = [Bytes.ofList [0x63, 0x61, 0x66, 0xE9]] ∧
      ∃ made d, ofExchange (.forUrl "http://upstream") forwarder default latinMessage default
          default = .ok made ∧ made.provider = .fixed d ∧ d.message.allValuesOf "x-place" = [] := by
  refine ⟨by decide, _, _, ofExchange_eq_ok.2 ⟨by decide, rfl⟩, rfl, ?_⟩
  decide

end Mapping

end Understudy

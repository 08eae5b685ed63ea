import Understudy.Proofs.Engine.Writes
import Understudy.Proofs.Log.Window

/-!
# What answering a request changes

Whatever answers a request, the rest of the server stays as it was. An answer changes the registry for administrative
actions and recordings only, scenarios for a reset only, and the log for administrative actions only. Then the mapping
takes the step of its scenario, and an exchange that is not administrative is logged.
-/

namespace Understudy

open Traversal

namespace Engine

variable {e : Engine} {w : World} {backend : Outbound → Reply} {r : Request}
variable {c : Candidate Score} {m : Mapping} {s : ProxySettings}

theorem keep_fst (e : Engine) (w : World) (s : ProxySettings) (m : Mapping) (r : Request)
    (response : Response.Message) :
    ∃ registry, (e.keep w s m r response).1 = { e with registry } := by
  unfold keep
  split
  · exact ⟨_, rfl⟩
  · exact ⟨e.registry, rfl⟩

theorem forward_engine (e : Engine) (w : World) (backend : Outbound → Reply) (s : ProxySettings)
    (m : Mapping) (r : Request) :
    ∃ registry clients, (e.forward w backend s m r).engine = { e with registry, clients } := by
  unfold forward
  simp only
  split
  · rename_i response _
    obtain ⟨registry, hkeep⟩ :=
      keep_fst { e with clients := (e.clients.forward s backend r).2 } w s m r response
    exact ⟨registry, _, hkeep⟩
  · exact ⟨e.registry, _, rfl⟩

/-- Only an administrative action changes the log when it answers. -/
theorem respond_log (h : ∀ action, m.provider ≠ .admin action) :
    (e.respond w backend m r).engine.log = e.log := by
  unfold respond
  cases hprovider : m.provider with
  | fixed d => rfl
  | computed f => rfl
  | admin action => exact absurd hprovider (h action)
  | proxy s =>
      obtain ⟨registry, clients, hengine⟩ := e.forward_engine w backend s m r
      simp only [hengine]

/-- Only a reset changes scenarios when it answers. -/
theorem respond_scenarios (h : m.provider ≠ .admin .reset) :
    (e.respond w backend m r).engine.scenarios = e.scenarios := by
  unfold respond
  cases hprovider : m.provider with
  | fixed d => rfl
  | computed f => rfl
  | admin action =>
      refine (e.acts w r action).scenarios ?_
      rintro rfl
      exact h hprovider
  | proxy s =>
      obtain ⟨registry, clients, hengine⟩ := e.forward_engine w backend s m r
      simp only [hengine]

/-- Only administrative actions and recordings change the registry when they answer. -/
theorem respond_registry_of_own (hadmin : ∀ action, m.provider ≠ .admin action)
    (hproxy : ∀ s, m.provider ≠ .proxy s) :
    (e.respond w backend m r).engine.registry = e.registry := by
  unfold respond
  cases hprovider : m.provider with
  | fixed d => rfl
  | computed f => rfl
  | admin action => exact absurd hprovider (hadmin action)
  | proxy s => exact absurd hprovider (hproxy s)

theorem advance_log (e : Engine) (m : Mapping) : (e.advance m).log = e.log := by
  unfold advance
  split <;> rfl

theorem advance_of_none (h : m.step? = none) : e.advance m = e := by
  rw [advance, h]

/-- What a request is answered with before the exchange is logged. -/
def answered (e : Engine) (w : World) (backend : Outbound → Reply) (r : Request) : Handled :=
  match (e.resolve r).matched with
  | some c =>
    let h := e.respond w backend c.mapping r
    { h with engine := h.engine.advance c.mapping }
  | none => { response := unmatched (e.resolve r), engine := e, world := w }

def administers (e : Engine) (r : Request) : Bool :=
  (e.resolve r).matched.any (·.mapping.isAdmin)

/-- An exchange is logged behind its answer, unless it is administrative. -/
theorem handle_eq (e : Engine) (w : World) (backend : Outbound → Reply) (r : Request) :
    e.handle w backend r =
      let h := e.answered w backend r
      if e.administers r then h
      else
        let logged := h.engine.logExchange h.world r h.response (e.resolve r)
        { h with engine := logged.1, world := logged.2 } := by
  unfold handle answered administers
  cases hmatched : (e.resolve r).matched with
  | none => simp only [hmatched, Option.any_none]
  | some c => simp only [hmatched, Option.any_some]

theorem handle_of_administers (h : e.administers r = true) (w : World)
    (backend : Outbound → Reply) : e.handle w backend r = e.answered w backend r := by
  rw [handle_eq]
  exact if_pos h

theorem handle_of_not_administers (h : e.administers r = false) (w : World)
    (backend : Outbound → Reply) :
    ∃ guid world, world.files = (e.answered w backend r).world.files ∧
      e.handle w backend r =
        { response := (e.answered w backend r).response
          engine :=
            { (e.answered w backend r).engine with
              log := (e.answered w backend r).engine.log.append
                ⟨guid, r, (e.answered w backend r).response, e.resolve r⟩ world.now }
          world } := by
  rw [handle_eq]
  simp only [h, Bool.false_eq_true, if_false]
  exact ⟨_, (e.answered w backend r).world.newGuid.2, rfl, rfl⟩

/-- The answer to a request is the only thing that changes mappings and scenarios. -/
theorem handle_answered (e : Engine) (w : World) (backend : Outbound → Reply) (r : Request) :
    (e.handle w backend r).response = (e.answered w backend r).response ∧
      (e.handle w backend r).engine.registry = (e.answered w backend r).engine.registry ∧
      (e.handle w backend r).engine.scenarios = (e.answered w backend r).engine.scenarios ∧
      (e.handle w backend r).world.files = (e.answered w backend r).world.files := by
  cases hadmin : e.administers r with
  | true =>
      rw [handle_of_administers hadmin]
      exact ⟨rfl, rfl, rfl, rfl⟩
  | false =>
      obtain ⟨guid, world, hfiles, heq⟩ := handle_of_not_administers hadmin w backend
      rw [heq]
      exact ⟨rfl, rfl, rfl, hfiles⟩

theorem answered_of_matched (h : (e.resolve r).matched = some c) :
    e.answered w backend r =
      { e.respond w backend c.mapping r with
        engine := (e.respond w backend c.mapping r).engine.advance c.mapping } := by
  rw [answered, h]

theorem answered_of_none (h : (e.resolve r).matched = none) :
    e.answered w backend r =
      { response := unmatched (e.resolve r), engine := e, world := w } := by
  rw [answered, h]

theorem administers_of_matched (h : (e.resolve r).matched = some c) :
    e.administers r = c.mapping.isAdmin := by
  rw [administers, h]
  rfl

/-- What a request leaves behind once it has been answered. -/
structure Effects (e : Engine) (w : World) (backend : Outbound → Reply) (r : Request)
    (h : Handled) : Prop where
  /-- one entry comes behind those of the log, with the response and the mapping that was chosen -/
  logged : e.administers r = false → ∃ entry, e.log.Gains entry h.world.now h.engine.log ∧
    entry.request = r ∧ entry.response = h.response ∧
    entry.mapping?.map (·.guid) = (e.resolve r).matched.map (·.mapping.guid)
  /-- none is added when an administrative mapping answers -/
  unlogged : e.administers r = true → h.engine.log.entries <:+ e.log.entries
  /-- the scenario of the mapping takes its step once -/
  advanced : ∀ c step, (e.resolve r).matched = some c → c.mapping.step? = some step →
    h.engine.scenarios = (e.scenarios.advance step).2
  /-- a mapping without a scenario leaves all rows, unless it resets them -/
  unadvanced : (∀ c, (e.resolve r).matched = some c →
      c.mapping.step? = none ∧ c.mapping.provider ≠ .admin .reset) →
    h.engine.scenarios = e.scenarios
  /-- neither fixed nor computed responses change the registry -/
  unrecorded : e.administers r = false →
    (∀ c s, (e.resolve r).matched = some c → c.mapping.provider ≠ .proxy s) →
    h.engine.registry = e.registry
  /-- forwarding adds one recording at most, and only of an answer that is wanted -/
  recorded : ∀ c s, (e.resolve r).matched = some c → c.mapping.provider = .proxy s →
    (∀ d ∈ e.registry.mappings, d.guid ≠ w.newGuid.1) →
    ∃ kept : Option Mapping, h.engine.registry.mappings = e.registry.mappings ++ kept.toList ∧
      ∀ m ∈ kept, m.origin = .recorded ∧ s.saveMapping = true ∧
        s.wants r.method h.response.status = true ∧
        (e.clients.forward s backend r).1 = .ok h.response
  /-- a request that nothing matches is answered with 404 and changes nothing but the log -/
  unmatched : (∀ m ∈ e.registry.mappings, ¬ 0 < m.totalValue r e.scenarios) →
    h.response.status = 404 ∧ h.engine.registry = e.registry ∧
      h.engine.scenarios = e.scenarios ∧ h.world.files = w.files

theorem log_answered (h : e.Sound) (hadmin : e.administers r = false) :
    (e.answered w backend r).engine.log = e.log := by
  cases hmatched : (e.resolve r).matched with
  | none => rw [answered_of_none hmatched]
  | some c =>
      rw [administers_of_matched hmatched] at hadmin
      rw [answered_of_matched hmatched, advance_log, respond_log]
      intro action haction
      rw [(h.genuine_of_matched hmatched).isAdmin action haction] at hadmin
      exact absurd hadmin (by simp)

/-- The exchange is logged with the response and the mapping that was chosen. -/
theorem exists_logged (h : e.Sound) (hadmin : e.administers r = false) (w : World)
    (backend : Outbound → Reply) :
    ∃ entry, e.log.Gains entry (e.handle w backend r).world.now (e.handle w backend r).engine.log ∧
      entry.request = r ∧ entry.response = (e.handle w backend r).response ∧
      entry.mapping?.map (·.guid) = (e.resolve r).matched.map (·.mapping.guid) := by
  obtain ⟨guid, world, -, heq⟩ := handle_of_not_administers hadmin w backend
  rw [heq, log_answered h hadmin]
  refine ⟨_, RequestLog.gains_iff.2 rfl, rfl, rfl, ?_⟩
  rw [LogEntry.mapping?, Option.map_map]
  rfl

theorem scenarios_answered_of_step (h : e.Sound) {step : ScenarioStep}
    (hmatched : (e.resolve r).matched = some c) (hstep : c.mapping.step? = some step) :
    (e.answered w backend r).engine.scenarios = (e.scenarios.advance step).2 := by
  have hprovider : c.mapping.provider ≠ .admin .reset := by
    intro hreset
    have hserves := (h.genuine_of_matched hmatched).serves_of_provider hreset
    rw [hserves.step?] at hstep
    exact absurd hstep (by simp)
  rw [answered_of_matched hmatched, advance_of_step hstep, respond_scenarios hprovider]

/-- What a call to record keeps is appended, and nothing is when the backend does not answer. -/
theorem registry_forward (hfresh : ∀ d ∈ e.registry.mappings, d.guid ≠ w.newGuid.1) :
    ∃ kept : Option Mapping,
      (e.forward w backend s m r).engine.registry.mappings =
        e.registry.mappings ++ kept.toList ∧
      ∀ d ∈ kept, d.origin = .recorded ∧ s.saveMapping = true ∧
        s.wants r.method (e.forward w backend s m r).response.status = true ∧
        (e.clients.forward s backend r).1 = .ok (e.forward w backend s m r).response := by
  unfold forward
  simp only
  cases houtcome : (e.clients.forward s backend r).1 with
  | error response => exact ⟨none, by simp, by simp⟩
  | ok response =>
      have hkeep := apply_keep { e with clients := (e.clients.forward s backend r).2 } w s m r response
      simp only [apply] at hkeep
      refine ⟨(e.registry.keepCall e.scenarios s (e.call w m r response)).1, ?_, fun d hd => ?_⟩
      · simp only [hkeep]
        exact Registry.mappings_keepCall hfresh
      · have hnone : ¬ (e.registry.keepCall e.scenarios s (e.call w m r response)).1 = none :=
          Option.ne_none_iff_exists'.2 ⟨d, hd⟩
        rw [Registry.keepCall_fst_eq_none_iff, not_or, Bool.not_eq_false] at hnone
        obtain ⟨hsave, hopen⟩ := hnone
        have hwants : s.wants r.method response.status = true := by
          rw [← Bool.not_eq_false]
          exact fun hrefused => hopen (Or.inl hrefused)
        exact ⟨Registry.origin_keepCall d hd, hsave, hwants, rfl⟩

theorem matched_eq_none (h : ∀ m ∈ e.registry.mappings, ¬ 0 < m.totalValue r e.scenarios) :
    (e.resolve r).matched = none :=
  (e.registry.matched_isChosen (fun _ => true) r e.scenarios e.settings.allowPartialMapping).1.2
    fun m hm hanswers => h m hm hanswers.2

/--
Answering a request has these effects on every sound server and no others: its exchange is logged once unless it is
administrative, the scenario of the mapping that answers takes one step, and mappings are changed by the administrative
interface and by recording only.
-/
theorem handle_effects (h : e.Sound) (w : World) (backend : Outbound → Reply) (r : Request) :
    e.Effects w backend r (e.handle w backend r) where
  logged hadmin := exists_logged h hadmin w backend
  unlogged hadmin := by
    obtain ⟨c, hmatched, hc⟩ := (Option.any_eq_true _ _).1 hadmin
    obtain ⟨action, hserves⟩ := (h.genuine_of_matched hmatched).serves hc
    rw [(handle_of_serves hmatched hserves w backend).2]
    exact (e.acts w r action).suffix_log
  advanced c step hmatched hstep := by
    obtain ⟨-, -, hscenarios, -⟩ := e.handle_answered w backend r
    rw [hscenarios]
    exact scenarios_answered_of_step h hmatched hstep
  unadvanced hplain := by
    obtain ⟨-, -, hscenarios, -⟩ := e.handle_answered w backend r
    rw [hscenarios]
    cases hmatched : (e.resolve r).matched with
    | none => rw [answered_of_none hmatched]
    | some c =>
        obtain ⟨hstep, hreset⟩ := hplain c hmatched
        rw [answered_of_matched hmatched, advance_of_none hstep, respond_scenarios hreset]
  unrecorded hadmin hproxy := by
    obtain ⟨-, hregistry, -, -⟩ := e.handle_answered w backend r
    rw [hregistry]
    cases hmatched : (e.resolve r).matched with
    | none => rw [answered_of_none hmatched]
    | some c =>
        rw [administers_of_matched hmatched] at hadmin
        rw [answered_of_matched hmatched, advance_registry]
        refine respond_registry_of_own (fun action haction => ?_) (fun s => hproxy c s hmatched)
        rw [(h.genuine_of_matched hmatched).isAdmin action haction] at hadmin
        exact absurd hadmin (by simp)
  recorded c s hmatched hproxy hfresh := by
    obtain ⟨hresponse, hregistry, -, -⟩ := e.handle_answered w backend r
    have hrespond : e.respond w backend c.mapping r = e.forward w backend s c.mapping r := by
      rw [respond, hproxy]
    rw [hresponse, hregistry, answered_of_matched hmatched, advance_registry, hrespond]
    exact registry_forward hfresh
  unmatched hnone := by
    obtain ⟨hresponse, hregistry, hscenarios, hfiles⟩ := e.handle_answered w backend r
    rw [hresponse, hregistry, hscenarios, hfiles, answered_of_none (matched_eq_none hnone)]
    exact ⟨rfl, rfl, rfl, rfl⟩

def recording : ServerSettings :=
  { ServerSettings.standard with
    proxy := some { ProxySettings.forUrl "http://upstream" with saveMapping := true } }

/-- The log has no entries, and the bounds of the standard settings. -/
def hasBlankLog (e : Engine) : Bool :=
  e.log.entries.isEmpty && e.log.capacity == some 1000 && e.log.maxAge.isNone

theorem entries_of_hasBlankLog (hblank : e.hasBlankLog = true) {after : RequestLog} {entry : LogEntry}
    {now : Instant} (h : e.log.Gains entry now after) : after.entries = [entry] := by
  simp only [hasBlankLog, Bool.and_eq_true, List.isEmpty_iff, beq_iff_eq,
    Option.isNone_iff_eq_none] at hblank
  obtain ⟨⟨hempty, hcapacity⟩, hage⟩ := hblank
  rw [h.entries_eq hage (by rw [hcapacity, hempty]; decide), hempty]
  rfl

/-- A request that is forwarded has its exchange logged and recorded once. -/
theorem countRequest_effects :
    ∃ e w h, start recording emptyWorld = .ok (e, w) ∧
      h = e.handle w (fun _ => .full 200 [] (Bytes.ofText "ok")) countRequest ∧
      (∃ entry, h.engine.log.entries = [entry] ∧ entry.request = countRequest ∧
        entry.response.status = 200) ∧
      h.engine.registry.size = e.registry.size + 1 ∧
      e.Effects w (fun _ => .full 200 [] (Bytes.ofText "ok")) countRequest h := by
  have hcheck : (start recording emptyWorld).toOption.any (fun x =>
      let h := x.1.handle x.2 (fun _ => .full 200 [] (Bytes.ofText "ok")) countRequest
      x.1.hasBlankLog && x.1.administers countRequest == false && h.response.status == 200 &&
        h.engine.registry.size == x.1.registry.size + 1) = true := by decide +kernel
  obtain ⟨⟨e, w⟩, hstart, hcheck⟩ := (Option.any_eq_true _ _).1 hcheck
  simp only [Bool.and_eq_true, beq_iff_eq] at hcheck
  obtain ⟨⟨⟨hblank, hadmin⟩, hstatus⟩, hsize⟩ := hcheck
  have hstart := toOption_eq_some.1 hstart
  have heffects := handle_effects (sound_start hstart) w
    (fun _ => .full 200 [] (Bytes.ofText "ok")) countRequest
  obtain ⟨entry, hgains, hrequest, hresponse, -⟩ := heffects.logged hadmin
  exact ⟨e, w, _, hstart, rfl,
    ⟨entry, entries_of_hasBlankLog hblank hgains, hrequest, hresponse ▸ hstatus⟩, hsize, heffects⟩

end Engine

end Understudy

import Understudy.Proofs.Bytes.Percent
import Understudy.Proofs.Engine.Soundness
import Understudy.Proofs.Guid

/-!
# Administrative requests change all or nothing

A request to the administrative interface is refused before anything is changed, whatever is wrong with it: its text,
one of the mappings in it, or the GUID of its path. When mappings are added it is all of those in the body, one after
another; when a mapping is put it is that one, under the GUID of the path.
-/

namespace Understudy

open Traversal

theorem RequestLog.suffix_expire (log : RequestLog) (now : Instant) :
    (log.expire now).entries <:+ log.entries := by
  unfold expire
  split
  · exact List.dropWhile_suffix _
  · exact List.suffix_rfl

namespace Engine

variable {e : Engine} {w : World} {r : Request} {action : AdminAction} {c : Candidate Score}

theorem eq_of_guidOf? (h : r.Assembled) {front text : String} {guid named : Guid}
    (hpath : r.path = front ++ "/" ++ text) (htext : Guid.parse? text = some guid)
    (hnamed : guidOf? r = some named) : named = guid := by
  have hplain {s : String} {g : Guid} (hs : Guid.parse? s = some g) :
      '/' ∉ s.toList ∧ '%' ∉ s.toList :=
    ⟨fun hc => absurd (Guid.isTextChar_of_parse? hs _ hc) (by decide),
      fun hc => absurd (Guid.isTextChar_of_parse? hs _ hc) (by decide)⟩
  obtain ⟨method, url, headers, body, clientIp, at_, rfl⟩ := h.exists_ofUrl
  obtain ⟨segment, hsegment, hread⟩ := Option.bind_eq_some_iff.1 hnamed
  simp only [Request.ofUrl] at hpath hsegment
  cases hparts : Text.dropFront? ['/'] url.path.toList with
  | none =>
      rw [Url.segments?, hparts] at hsegment
      exact absurd hsegment (by simp)
  | some rest =>
      obtain ⟨before, last, init, hsplit, hlast, hcut⟩ := Text.exists_last_part '/' rest
      have htail : url.path.toList = before ++ '/' :: last :=
        (Text.dropFront?_eq_some.1 hparts).trans hsplit
      rw [Url.segments?, hparts, Option.map_some, Option.getD_some, hcut] at hsegment
      by_cases hempty : last = []
      · -- the path ends with a slash, and no GUID is empty
        subst hempty
        have heq := Percent.decodeText_last htail hlast hpath (hplain htext) (by decide +kernel)
        rw [← heq] at htext
        have hnone : Guid.parse? (Percent.decodeText (String.ofList [])) = none := by decide +kernel
        rw [hnone] at htext
        exact absurd htext (by simp)
      · have hfilled : (String.ofList last).isEmpty = false := by
          simpa [String.isEmpty_iff] using hempty
        rw [List.map_append, List.filter_append, List.map_append] at hsegment
        simp only [List.map_cons, List.map_nil, List.filter_cons, hfilled, Bool.not_false, if_true,
          List.filter_nil, List.getLast?_append_cons, List.getLast?_singleton,
          Option.some.injEq] at hsegment
        have heq := Percent.decodeText_last htail hlast hpath (hplain htext)
          (hsegment ▸ hplain hread)
        rw [← heq, hsegment, hread] at htext
        exact Option.some.inj htext

@[simp] theorem status_badRequest (error : Error) : (badRequest error).status = 400 := rfl

@[simp] theorem status_added (ms : List Mapping) : (added ms).status = 201 := rfl

@[simp] theorem status_told (status name : String) (value : Json) :
    (told status name value).status = 200 := rfl

/-- Mappings in a body are added, or the request is refused and nothing changes. -/
theorem addMappings_cases (e : Engine) (w : World) (r : Request) :
    (∃ error, e.addMappings w r = { response := badRequest error, engine := e, world := w }) ∨
      ∃ forms ms w', Form.readMappings (r.bodyText?.getD "") = .ok forms ∧
        compileForms w forms = .ok (ms, w') ∧
        e.addMappings w r =
          { response := added ms
            engine := { e with registry := e.registry.registerAll ms w'.now }
            world := w' } := by
  unfold addMappings
  cases hread : Form.readMappings (r.bodyText?.getD "") with
  | error error => exact Or.inl ⟨error, rfl⟩
  | ok forms =>
      simp only [Except.bind]
      cases hregister : e.registerForms w forms with
      | error error => exact Or.inl ⟨error, rfl⟩
      | ok result =>
          obtain ⟨ms, e', w'⟩ := result
          obtain ⟨hcompile, rfl⟩ := registerForms_eq_ok.1 hregister
          exact Or.inr ⟨forms, ms, w', rfl, hcompile, rfl⟩

/-- The mapping of a body is put under the GUID, or the request is refused and nothing changes. -/
theorem putMapping_cases (e : Engine) (w : World) (r : Request) (guid : Guid) :
    (∃ error, e.putMapping w r guid = { response := badRequest error, engine := e, world := w }) ∨
      ∃ form m w' fresh now, Form.Mapping.ofText (r.bodyText?.getD "") = .ok form ∧
        Mapping.ofForm { form with guid := some guid } fresh now = .ok m ∧
        e.putMapping w r guid =
          { response := told "Mapping added or updated" "Guid" (guidJson guid)
            engine := { e with registry := e.registry.register m w'.now }
            world := w' } := by
  unfold putMapping
  cases hread : Form.Mapping.ofText (r.bodyText?.getD "") with
  | error error => exact Or.inl ⟨error, rfl⟩
  | ok form =>
      simp only [Except.bind]
      cases hregister : e.registerForms w [{ form with guid := some guid }] with
      | error error => exact Or.inl ⟨error, rfl⟩
      | ok result =>
          obtain ⟨ms, e', w'⟩ := result
          obtain ⟨hcompile, rfl⟩ := registerForms_eq_ok.1 hregister
          obtain ⟨m, ms, ⟨fresh, now, hm⟩, hnil, rfl⟩ :=
            List.forall₂_cons_left_iff.1 (forall₂_of_compileForms hcompile)
          obtain rfl := List.forall₂_nil_left_iff.1 hnil
          exact Or.inr ⟨form, m, w', fresh, now, rfl, hm, rfl⟩

/-- What an administrative action can do to a server; one that is refused does nothing. -/
inductive Acts (e : Engine) : AdminAction → Handled → Prop where
  | shows (action : AdminAction) (response : Response.Message) (world : World) :
      Acts e action { response, engine := e, world }
  | writes (action : AdminAction) (registry : Registry) (response : Response.Message)
      (world : World) (hmethod : action.method ≠ "GET") (hstatus : response.status < 400) :
      Acts e action { response, engine := { e with registry }, world }
  | resets (response : Response.Message) (world : World) (hstatus : response.status < 400) :
      Acts e .reset { response, engine := e.reset, world }
  | forgets (action : AdminAction) (log : RequestLog) (response : Response.Message) (world : World)
      (hlog : log.entries <:+ e.log.entries) (hstatus : response.status < 400) :
      Acts e action { response, engine := { e with log }, world }

theorem acts (e : Engine) (w : World) (r : Request) (action : AdminAction) :
    e.Acts action (e.act w r action) := by
  cases action with
  | addMappings =>
      simp only [act]
      rcases e.addMappings_cases w r with ⟨error, heq⟩ | ⟨forms, ms, w', -, -, heq⟩
      · rw [heq]
        exact .shows _ _ _
      · rw [heq]
        exact .writes _ _ _ _ (by decide) (by simp)
  | putMapping =>
      simp only [act]
      cases guidOf? r with
      | none => exact .shows _ _ _
      | some guid =>
          rcases e.putMapping_cases w r guid with ⟨error, heq⟩ | ⟨form, m, w', -, -, -, -, heq⟩
          · simp only [heq]
            exact .shows _ _ _
          · simp only [heq]
            exact .writes _ _ _ _ (by decide) (by simp)
  | deleteMapping =>
      simp only [act]
      cases guidOf? r with
      | none => exact .shows _ _ _
      | some guid =>
          simp only [deleteMapping, unregister]
          cases e.mapping? guid with
          | none => exact .shows _ _ _
          | some m =>
              cases e.registry.unregister guid with
              | error error => exact .shows _ _ _
              | ok result => exact .writes _ _ _ _ (by decide) (by simp)
  | getMapping =>
      simp only [act]
      cases guidOf? r <;> exact .shows _ _ _
  | listMappings => exact .shows _ _ _
  | listScenarios => exact .shows _ _ _
  | settings => exact .shows _ _ _
  | deleteMappings => exact .writes _ _ _ _ (by decide) (by simp)
  | reset => exact .resets _ _ (show 200 < 400 by decide)
  | listRequests => exact .forgets _ _ _ _ (RequestLog.suffix_expire _ _) (show 200 < 400 by decide)
  | deleteRequests => exact .forgets _ _ _ _ (List.nil_suffix) (show 200 < 400 by decide)

namespace Acts

variable {h : Handled}

theorem engine_of_failed (ha : e.Acts action h) (hstatus : 400 ≤ h.response.status) :
    h.engine = e := by
  cases ha with
  | shows => rfl
  | writes _ _ _ _ hmethod hlt => exact absurd hstatus (Nat.not_le.2 hlt)
  | resets _ _ hlt => exact absurd hstatus (Nat.not_le.2 hlt)
  | forgets _ _ _ _ hlog hlt => exact absurd hstatus (Nat.not_le.2 hlt)

theorem scenarios (ha : e.Acts action h) (hreset : action ≠ .reset) :
    h.engine.scenarios = e.scenarios := by
  cases ha with
  | resets => exact absurd rfl hreset
  | _ => rfl

theorem registry (ha : e.Acts action h) (hmethod : action.method = "GET") :
    h.engine.registry = e.registry := by
  cases ha with
  | writes _ _ _ _ hne _ => exact absurd hmethod hne
  | resets => exact absurd hmethod (by decide)
  | _ => rfl

/-- Nothing is added to the log. -/
theorem suffix_log (ha : e.Acts action h) : h.engine.log.entries <:+ e.log.entries := by
  cases ha with
  | resets => exact List.nil_suffix
  | forgets _ _ _ _ hlog _ => exact hlog
  | _ => exact List.suffix_rfl

end Acts

/-- What a request for an administrative action changes: all that it asks for, or nothing. -/
structure WritesWhole (e : Engine) (r : Request) (h : Handled) : Prop where
  /-- a request that fails changes no mapping and no scenario -/
  failed : 400 ≤ h.response.status →
    h.engine.registry = e.registry ∧ h.engine.scenarios = e.scenarios
  /-- all mappings of the body are registered, in their order, and the last one under a GUID stays -/
  added : r.method = "POST" → r.path = "/__admin/mappings" → h.response.status = 201 →
    ∃ forms ms now, Form.readMappings (r.bodyText?.getD "") = .ok forms ∧
      List.Forall₂ (fun form m => ∃ fresh at_, Mapping.ofForm form fresh at_ = .ok m) forms ms ∧
      h.engine.registry = e.registry.registerAll ms now ∧
      ∀ before m later, ms = before ++ m :: later → (∀ d ∈ later, d.guid ≠ m.guid) →
        h.engine.registry.get? m.guid = some { m with updatedAt := now }
  /-- the mapping of the body is registered under the GUID of the path, whichever the body names -/
  put : r.method = "PUT" → ∀ text guid, r.path = "/__admin/mappings/" ++ text →
    Guid.parse? text = some guid → h.response.status = 200 →
    ∃ form m now, Form.Mapping.ofText (r.bodyText?.getD "") = .ok form ∧
      (∃ fresh at_, Mapping.ofForm { form with guid := some guid } fresh at_ = .ok m) ∧
      m.guid = guid ∧ h.engine.registry = e.registry.register m now
  /-- a request that asks for something changes no mapping and no scenario -/
  get : r.method = "GET" → h.engine.registry = e.registry ∧ h.engine.scenarios = e.scenarios

theorem guid_of_ofForm {form : Form.Mapping} {fresh guid : Guid} {now : Instant} {m : Mapping}
    (h : Mapping.ofForm { form with guid := some guid } fresh now = .ok m) : m.guid = guid := by
  obtain ⟨dimensions, -, h⟩ := bind_eq_ok.1 h
  obtain ⟨provider, -, h⟩ := bind_eq_ok.1 h
  obtain ⟨-, rfl⟩ := Mapping.build_eq_ok.1 h
  rfl

theorem act_writes_whole (hr : r.Assembled) (hasked : action.AskedBy r) :
    e.WritesWhole r (e.act w r action) where
  failed hstatus := by
    rw [(e.acts w r action).engine_of_failed hstatus]
    exact ⟨rfl, rfl⟩
  added hmethod hpath hstatus := by
    obtain rfl : action = .addMappings :=
      hasked.unique ⟨by rw [hmethod]; decide, hpath⟩
    simp only [act] at hstatus ⊢
    rcases e.addMappings_cases w r with ⟨error, heq⟩ | ⟨forms, ms, w', hread, hcompile, heq⟩
    · simp [heq] at hstatus
    · rw [heq]
      refine ⟨forms, ms, w'.now, hread, forall₂_of_compileForms hcompile, rfl, ?_⟩
      rintro before m later rfl hlater
      exact Registry.get?_registerAll_of_last hlater _ _ _
  put hmethod text guid hpath htext hstatus := by
    have hput : action.method = "PUT" := (hasked.method_eq hr.upper_method).trans hmethod
    obtain rfl : action = .putMapping := by
      revert hput
      cases action <;> decide
    simp only [act] at hstatus ⊢
    cases hnamed : guidOf? r with
    | none =>
        simp only [hnamed] at hstatus
        exact absurd hstatus (by decide)
    | some named =>
        have hpath' : r.path = "/__admin/mappings" ++ "/" ++ text := hpath
        obtain rfl := eq_of_guidOf? hr hpath' htext hnamed
        simp only [hnamed] at hstatus ⊢
        rcases e.putMapping_cases w r named with
          ⟨error, heq⟩ | ⟨form, m, w', fresh, now, hread, hm, heq⟩
        · simp [heq] at hstatus
        · rw [heq]
          exact ⟨form, m, w'.now, hread, ⟨fresh, now, hm⟩, guid_of_ofForm hm, rfl⟩
  get hmethod := by
    have hget : action.method = "GET" := (hasked.method_eq hr.upper_method).trans hmethod
    have hreset : action ≠ .reset := by
      rintro rfl
      exact absurd hget (by decide)
    exact ⟨(e.acts w r action).registry hget, (e.acts w r action).scenarios hreset⟩

/--
A request that an administrative mapping answers is carried out as a whole or not at all, in every sound server: one that
fails changes nothing, mappings are added all together, a mapping is put under the GUID of the path, and asking for
something changes nothing.
-/
theorem handle_writes_whole (h : e.Sound) (hr : r.Assembled)
    (hmatched : (e.resolve r).matched = some c) (hadmin : c.mapping.isAdmin = true) (w : World)
    (backend : Outbound → Reply) : e.WritesWhole r (e.handle w backend r) := by
  obtain ⟨action, hserves⟩ := (h.genuine_of_matched hmatched).serves hadmin
  obtain ⟨hasked, hhandle⟩ := handle_of_serves hmatched hserves w backend
  rw [hhandle]
  exact act_writes_whole hr hasked

def batchRequest : Request :=
  let named (title : String) : Json :=
    .object [("Guid", .string (default : Guid).text), ("Title", .string title)]
  .ofUrl "POST"
    { (default : Url) with
      scheme := "http", host := some (.domain "h"), path := "/__admin/mappings" }
    [] (Bytes.ofText (Json.array [named "first", named "last"]).compact) none default

/-- A server that has just started adds both, so that the last one stays. -/
theorem batchRequest_adds_whole :
    ∃ e w c, start .standard emptyWorld = .ok (e, w) ∧
      (e.resolve batchRequest).matched = some c ∧ c.mapping.isAdmin = true ∧
      (e.handle w (fun _ => .none) batchRequest).response.status = 201 ∧
      e.WritesWhole batchRequest (e.handle w (fun _ => .none) batchRequest) := by
  have hassembled : batchRequest.Assembled :=
    Request.assembled_ofUrl "http://h/__admin/mappings" (by decide +kernel) _ _ _ _ _
  have hcheck : (start .standard emptyWorld).toOption.any (fun x =>
      (x.1.resolve batchRequest).matched.any (·.mapping.isAdmin) &&
        (x.1.handle x.2 (fun _ => .none) batchRequest).response.status == 201) = true := by
    decide +kernel
  obtain ⟨⟨e, w⟩, hstart, hcheck⟩ := (Option.any_eq_true _ _).1 hcheck
  rw [Bool.and_eq_true, beq_iff_eq] at hcheck
  obtain ⟨c, hmatched, hadmin⟩ := (Option.any_eq_true _ _).1 hcheck.1
  have hstart := toOption_eq_some.1 hstart
  exact ⟨e, w, c, hstart, hmatched, hadmin, hcheck.2,
    handle_writes_whole (sound_start hstart) hassembled hmatched hadmin w _⟩

end Engine

end Understudy

import Understudy.Engine.Handle
import Understudy.Proofs.Files.Mappings
import Understudy.Proofs.Recording.Stored
import Understudy.Proofs.Registry.Slots

/-!
# A restart from saved recordings

A server that starts over a directory with one mapping file has the mapping of this file, administrative mappings and
no others. When the file is the recording of an exchange that `Recording.Survives`, the server starts, and the mapping
scores the recorded request perfectly and answers as it was answered. A blank name in the file keeps it from starting.
-/

namespace Understudy

open Traversal

theorem AdminAction.exists_mapping (action : AdminAction) (guid : Guid) (now : Instant) :
    ∃ m, action.mapping guid now = .ok m ∧ m.isAdmin = true := by
  have hguidPath : (Matcher.Pattern.ofRegex guidPath false).isSome = true := by decide +kernel
  obtain ⟨p, hp⟩ := Option.isSome_iff_exists.1 hguidPath
  obtain ⟨path, hpath⟩ : ∃ path, action.pathMatcher = .ok path := by
    have hregex : ∃ path, Matcher.regex guidPath = .ok path := by
      rw [Matcher.regex, hp]
      exact ⟨_, rfl⟩
    cases action with
    | getMapping | putMapping | deleteMapping => exact hregex
    | _ => exact ⟨_, rfl⟩
  exact ⟨_, bind_eq_ok.2 ⟨path, hpath, Mapping.build_eq_ok.2 ⟨rfl, rfl⟩⟩, rfl⟩

namespace Registry

theorem filter_put {p : Mapping → Bool} {m : Mapping} {ms : List Mapping} (hm : p m = true)
    (h : ∀ d ∈ ms, p d = false) : (put m ms).filter p = [m] := by
  induction ms with
  | nil => simp [put, hm]
  | cons d ms ih =>
      rw [List.forall_mem_cons] at h
      rw [put]
      split
      · rw [List.filter_cons_of_pos hm, List.filter_eq_nil_iff.2 (by simpa using h.2)]
      · rw [List.filter_cons_of_neg (by simp [h.1]), ih h.2]

end Registry

namespace Engine

def IsBare (e : Engine) : Prop := ∀ m ∈ e.registry.mappings, m.isAdmin = true

theorem IsBare.installAdmin {e : Engine} (h : e.IsBare) (w : World) (actions : List AdminAction) :
    ∃ e' w', e.installAdmin w actions = .ok (e', w') ∧ e'.IsBare ∧ e'.settings = e.settings ∧
      w'.files = w.files := by
  induction actions generalizing e w with
  | nil => exact ⟨e, w, rfl, h, rfl, rfl⟩
  | cons action actions ih =>
      obtain ⟨m, hm, hadmin⟩ := action.exists_mapping w.newGuid.1 w.newGuid.2.now
      have hnext : (e.register m w.newGuid.2.now).IsBare := Registry.all_put hadmin h
      obtain ⟨e', w', hinstall, hbare, hsettings, hfiles⟩ := ih hnext w.newGuid.2
      exact ⟨e', w', bind_eq_ok.2 ⟨m, hm, hinstall⟩, hbare, hsettings, hfiles⟩

/-- A mapping that is registered with administrative ones is the only other mapping. -/
theorem IsBare.mappings_register {e : Engine} (h : e.IsBare) {m : Mapping}
    (hm : m.isAdmin = false) (now : Instant) :
    (e.register m now).mappings = [{ m with updatedAt := now }] :=
  Registry.filter_put (p := (!·.isAdmin)) (by simpa [Mapping.isAdmin] using hm) fun d hd => by
    simp [h d hd]

theorem start_eq {settings : ServerSettings} (hread : settings.readStaticMappings = true)
    (hproxy : settings.proxy = none) (w : World) :
    ∃ (e : Engine) (w' : World), e.IsBare ∧ e.settings = settings ∧ w'.files = w.files ∧
      start settings w = e.loadStatic w' := by
  have hbare : (bare settings).IsBare := List.forall_mem_nil _
  have hafter {e : Engine} {w' : World} (hsettings : e.settings = settings) :
      (e.installProxy w' >>= fun x => x.1.loadStatic x.2) = e.loadStatic w' := by
    have hnone : e.installProxy w' = .ok (e, w') := by
      rw [installProxy, hsettings, hproxy]
      rfl
    exact bind_of_eq_ok hnone _
  unfold start
  simp only [hread, if_true]
  cases settings.startAdminInterface with
  | true =>
      obtain ⟨e, w', hinstall, hadmin, hsettings, hfiles⟩ :=
        hbare.installAdmin w AdminAction.all
      refine ⟨e, w', hadmin, hsettings, hfiles, ?_⟩
      exact (bind_of_eq_ok hinstall _).trans (hafter hsettings)
  | false => exact ⟨_, _, hbare, rfl, rfl, hafter rfl⟩

theorem IsBare.loadStatic {e : Engine} (h : e.IsBare) {w : World} {form : Form.Mapping}
    {made : Instant → Mapping}
    (hdirectory : w.files.isDirectory (FilePath.ofText e.settings.mappingsDirectory) = true)
    (hload : w.files.loadMappings e.settings.mappingsDirectory = .ok [form])
    (hform : ∀ fresh now, Mapping.ofForm form fresh now = .ok (made now))
    (hmade : ∀ now, (made now).isAdmin = false) :
    ∃ e' w', e.loadStatic w = .ok (e', w') ∧
      e'.mappings = [{ made w.now with updatedAt := w.now }] := by
  have hcompile : compileForms w [form] = .ok ([made w.now], w.newGuid.2) :=
    bind_eq_ok.2 ⟨_, hform _ _, rfl⟩
  have hregister : e.registerForms w [form] =
      .ok ([made w.now], e.register (made w.now) w.now, w.newGuid.2) :=
    bind_eq_ok.2 ⟨_, hcompile, rfl⟩
  refine ⟨e.register (made w.now) w.now, w.newGuid.2, ?_, h.mappings_register (hmade w.now) w.now⟩
  rw [Engine.loadStatic]
  simp only [hdirectory, if_true]
  exact bind_eq_ok.2 ⟨_, hload, bind_eq_ok.2 ⟨_, hregister, rfl⟩⟩

theorem ofForm_of_loadStatic {e : Engine} {w : World} {form : Form.Mapping} {loaded : Engine × World}
    (hdirectory : w.files.isDirectory (FilePath.ofText e.settings.mappingsDirectory) = true)
    (hload : w.files.loadMappings e.settings.mappingsDirectory = .ok [form])
    (h : e.loadStatic w = .ok loaded) :
    ∃ fresh now m, Mapping.ofForm form fresh now = .ok m := by
  rw [Engine.loadStatic] at h
  simp only [hdirectory, if_true] at h
  rw [bind_of_eq_ok hload] at h
  obtain ⟨registered, hregister, -⟩ := bind_eq_ok.1 h
  obtain ⟨compiled, hcompile, -⟩ := bind_eq_ok.1 hregister
  obtain ⟨m, hm, -⟩ := bind_eq_ok.1 hcompile
  exact ⟨_, _, m, hm⟩

end Engine

namespace Registry

/-- The exchange is recorded in a file, with dimensions made from the request. -/
structure Files (registry : Registry) (scenarios : ScenarioStore) (s : ProxySettings) (r : Request)
    (m : Response.Message) : Prop where
  wanted : s.wants r.method m.status = true
  isNew : registry.hasRecorded scenarios r = false
  toFile : s.saveMappingToFile = true
  ofRequest : s.useDefinedRequestMatchers = false
  assembled : r.Assembled
  status : Response.isLegalStatus m.status = true

variable {registry : Registry} {scenarios : ScenarioStore} {s : ProxySettings} {r : Request}
variable {m : Response.Message}

theorem Files.record (h : registry.Files scenarios s r m) (proxy : Mapping) (directory : String)
    (w : World) :
    ∃ kept registry' w', registry.record scenarios s proxy directory w r m =
        .ok (kept, registry', w') ∧
      w'.files = saved w.files directory (Mapping.ofRecorded s proxy r m w.newGuid.1 w.now) := by
  have hmade : Mapping.ofExchange s proxy r m w.newGuid.1 w.newGuid.2.now =
      .ok (Mapping.ofRecorded s proxy r m w.newGuid.1 w.now) :=
    Mapping.ofExchange_eq_ok.2 ⟨h.status, rfl⟩
  unfold Registry.record
  simp only [h.wanted, h.isNew, h.toFile, Bool.not_true, Bool.or_false, Bool.false_eq_true,
    if_true, if_false]
  cases s.saveMapping with
  | true => exact ⟨_, _, _, bind_of_eq_ok hmade _, rfl⟩
  | false => exact ⟨_, _, _, bind_of_eq_ok hmade _, rfl⟩

/-- The form of the recording is all that is loaded from a directory that was empty. -/
theorem Files.load_record (h : registry.Files scenarios s r m) (hbody : Recording.Storable r)
    {w : World} (hnow : w.now.IsClock) {directory : String}
    (hvacant : w.files.IsVacant (FilePath.ofText directory)) (proxy : Mapping) :
    ∃ kept registry' w', registry.record scenarios s proxy directory w r m =
        .ok (kept, registry', w') ∧
      w'.files.isDirectory (FilePath.ofText directory) = true ∧
      w'.files.loadMappings directory =
        .ok [(Mapping.ofRecorded s proxy r m w.newGuid.1 w.now).toForm] := by
  obtain ⟨kept, registry', w', hrecord, hfiles⟩ := h.record proxy directory w
  have hstorable := Mapping.storable_ofRecorded h.ofRequest h.assembled hbody h.status proxy
    w.newGuid.1 hnow
  obtain ⟨files, hsave, hdirectory, hload⟩ := Form.Mapping.load_save rfl hstorable hvacant
  have hwritten : w'.files = files := by
    rw [hfiles, saved, hsave]
  rw [← hwritten] at hdirectory hload
  exact ⟨kept, registry', w', hrecord, hdirectory, hload⟩

end Registry

namespace Engine

variable {registry : Registry} {scenarios : ScenarioStore} {s : ProxySettings} {r : Request}
variable {m : Response.Message} {settings : ServerSettings}

/--
A server that starts over the directory has the recording as it is read back, and no other mapping that is not
administrative, whatever GUIDs and time it starts with.
-/
theorem start_loads_record (h : registry.Files scenarios s r m) (hnamed : Recording.Named s r)
    (hbody : Recording.Storable r) (hread : settings.readStaticMappings = true)
    (hproxy : settings.proxy = none) {w : World} (hnow : w.now.IsClock)
    (hvacant : w.files.IsVacant (FilePath.ofText settings.mappingsDirectory)) (proxy : Mapping) :
    ∃ kept registry' w',
      registry.record scenarios s proxy settings.mappingsDirectory w r m =
        .ok (kept, registry', w') ∧
      ∀ later : World, later.files = w'.files → ∃ e after now, start settings later = .ok (e, after) ∧
        e.mappings = [(Mapping.ofRecorded s proxy r m w.newGuid.1 w.now).reloaded now] := by
  obtain ⟨kept, registry', w', hrecord, hdirectory, hload⟩ :=
    h.load_record hbody hnow hvacant proxy
  refine ⟨kept, registry', w', hrecord, fun later hlater => ?_⟩
  obtain ⟨e, started, hbare, hsettings, hstarted, hstart⟩ := start_eq hread hproxy later
  rw [← hlater, ← hstarted, ← hsettings] at hdirectory hload
  obtain ⟨e', after, hloaded, hmappings⟩ := hbare.loadStatic hdirectory hload
    (Mapping.ofForm_ofRecorded h.ofRequest h.assembled hnamed h.status proxy w.newGuid.1 · w.now ·)
    fun now => rfl
  exact ⟨e', after, started.now, hstart.trans hloaded, hmappings⟩

/--
An exchange that is recorded into an empty directory and survives is answered again by every server that starts over
this directory without a backend: the recording is its one mapping, scores the request perfectly in every scenario
store, and answers with the status, the body and under each name the values that were recorded.
-/
theorem start_replays_record (h : registry.Files scenarios s r m)
    (hsurvives : Recording.Survives s r) (hbinary : m.binaryHeaders = [])
    (hread : settings.readStaticMappings = true) (hproxy : settings.proxy = none) {w : World}
    (hnow : w.now.IsClock)
    (hvacant : w.files.IsVacant (FilePath.ofText settings.mappingsDirectory)) (proxy : Mapping) :
    ∃ kept registry' w',
      registry.record scenarios s proxy settings.mappingsDirectory w r m =
        .ok (kept, registry', w') ∧
      ∀ later : World, later.files = w'.files → ∃ e after loaded,
        start settings later = .ok (e, after) ∧ e.mappings = [loaded] ∧
        (∀ scenarios, (loaded.score r scenarios : MatchResult Score).isPerfect = true) ∧
        ∃ answer, (∀ backend, (e.respond after backend loaded r).response = answer) ∧
          answer.status = m.status ∧ answer.body = m.body ∧
          ∀ name, answer.allValuesOf name = m.allValuesOf name := by
  obtain ⟨kept, registry', w', hrecord, hlater⟩ :=
    start_loads_record h hsurvives.named hsurvives.storable hread hproxy hnow hvacant proxy
  refine ⟨kept, registry', w', hrecord, fun later hfiles => ?_⟩
  obtain ⟨e, after, now, hstart, hmappings⟩ := hlater later hfiles
  have hperfect := Mapping.isPerfect_reloaded_iff h.ofRequest h.assembled proxy m w.newGuid.1 w.now
    now
  obtain ⟨d, hprovider, hstatus, hbody, hvalues, hnone⟩ :=
    Mapping.reloaded_replays s proxy r m w.newGuid.1 w.now now
  refine ⟨e, after, _, hstart, hmappings, fun store => (hperfect store).2 hsurvives.plain, d.message,
    fun backend => ?_, hstatus, hbody, fun name => ?_⟩
  · rw [respond]
    simp only [hprovider]
  · rw [Response.Message.allValuesOf_eq, Response.Message.allValuesOf_eq, hvalues, hnone, hbinary]

def filing : ProxySettings :=
  { ProxySettings.forUrl "http://upstream" with saveMappingToFile := true }

def reading : ServerSettings :=
  { ServerSettings.standard with readStaticMappings := true, mappingsDirectory := "mappings" }

def emptyWorld : World := { now := default, guids := .made, files := .empty }

def varyMessage : Response.Message := { Mapping.latinMessage with binaryHeaders := [] }

theorem files_filing {r : Request} (hr : r.Assembled) :
    Registry.empty.Files .empty filing r varyMessage where
  wanted := by
    have hstatus : (filing.records && filing.statusFilter.allows 200) = true := by decide +kernel
    have hmethod : filing.recordsMethod r.method = true := rfl
    exact Bool.and_eq_true_iff.2 ⟨hstatus, hmethod⟩
  isNew := rfl
  toFile := rfl
  ofRequest := rfl
  assembled := hr
  status := by decide

theorem emptyWorld_isVacant (directory : String) :
    emptyWorld.files.IsVacant (FilePath.ofText directory) := ⟨rfl, List.forall_mem_nil _⟩

theorem emptyWorld_isClock : emptyWorld.now.IsClock := ⟨by decide +kernel, by decide⟩

def countBody : Json := .object [("count", .number (.whole 1))]

def countRequest : Request :=
  Mapping.ordersRequest "tag=a&tag=b" [("Content-Type", "application/json"), ("Cookie", "sid=1")]
    countBody.pretty

theorem assembled_countRequest : countRequest.Assembled :=
  Request.assembled_ofUrl "http://h/orders?tag=a&tag=b" (by decide +kernel) _ _ _ _ _

theorem legible_countBody (depth : Nat) : Json.Legible (depth + 1) countBody :=
  .object (List.forall_mem_singleton.2 (Reader.legible_whole (by decide) (by decide) depth))

theorem content_countRequest : countRequest.content = some (.json countBody) := by
  have htype : countRequest.headers.get? "content-type" = some "application/json" := by
    decide +kernel
  have hjson : namesJson "application/json" = true := by decide +kernel
  have hfilled : (Bytes.ofText countBody.pretty).isEmpty = false := by decide +kernel
  have hparse : Json.parse? countBody.pretty = some countBody :=
    Json.parse?_pretty (legible_countBody 126)
  have hbody : countRequest.body = Bytes.ofText countBody.pretty := rfl
  rw [assembled_countRequest.content_eq, htype, hbody, Content.detect, hfilled, Bytes.text?_ofText]
  simp only [hjson, if_true, hparse]
  rfl

theorem countRequest_survives : Recording.Survives filing countRequest where
  named := ⟨by decide +kernel, by decide +kernel⟩
  storable := by
    intro v hv
    rw [content_countRequest] at hv
    obtain rfl := Content.json.inj (Option.some.inj hv)
    exact ⟨Json.noConfusion, legible_countBody 122⟩
  plain := by
    intro t ht
    rw [content_countRequest] at ht
    exact Json.noConfusion (Content.json.inj (Option.some.inj ht))

theorem countRequest_replayed :
    ∃ kept registry w, Registry.empty.record .empty filing Mapping.forwarder "mappings" emptyWorld
        countRequest varyMessage = .ok (kept, registry, w) ∧
      ∃ e after loaded, start reading w = .ok (e, after) ∧ e.mappings = [loaded] ∧
        (loaded.score countRequest .empty : MatchResult Score).isPerfect = true ∧
        ∃ answer, (∀ backend, (e.respond after backend loaded countRequest).response = answer) ∧
          answer.status = 200 ∧ answer.body = Bytes.ofText "ok" ∧
          answer.allValuesOf "VARY" = [Bytes.ofText "origin", Bytes.ofText "accept"] := by
  have hread : reading.readStaticMappings = true := rfl
  obtain ⟨kept, registry, w, hrecord, hlater⟩ := start_replays_record
    (files_filing assembled_countRequest) countRequest_survives rfl hread rfl emptyWorld_isClock
    (emptyWorld_isVacant _) Mapping.forwarder
  obtain ⟨e, after, loaded, hstart, hmappings, hperfect, answer, hanswer, hstatus, hbody, hvalues⟩ :=
    hlater w rfl
  refine ⟨kept, registry, w, hrecord, e, after, loaded, hstart, hmappings, hperfect .empty, answer,
    hanswer, hstatus, hbody, ?_⟩
  rw [hvalues]
  decide

/-- A blank name in a recording keeps every server from starting over its directory. -/
theorem start_ne_ok_of_blank (h : registry.Files scenarios s r m) (hbody : Recording.Storable r)
    (hblank : ¬ Recording.Named s r) (hread : settings.readStaticMappings = true)
    (hproxy : settings.proxy = none) {w : World} (hnow : w.now.IsClock)
    (hvacant : w.files.IsVacant (FilePath.ofText settings.mappingsDirectory)) (proxy : Mapping) :
    ∃ kept registry' w',
      registry.record scenarios s proxy settings.mappingsDirectory w r m =
        .ok (kept, registry', w') ∧
      ∀ later : World, later.files = w'.files → ∀ started, start settings later ≠ .ok started := by
  obtain ⟨kept, registry', w', hrecord, hdirectory, hload⟩ :=
    h.load_record hbody hnow hvacant proxy
  refine ⟨kept, registry', w', hrecord, fun later hlater started hstarted => hblank ?_⟩
  obtain ⟨e, before, -, hsettings, hbefore, hstart⟩ := start_eq hread hproxy later
  rw [← hlater, ← hbefore, ← hsettings] at hdirectory hload
  rw [hstart] at hstarted
  obtain ⟨fresh, now, made, hmade⟩ := ofForm_of_loadStatic hdirectory hload hstarted
  obtain ⟨ds, hds, -⟩ := bind_eq_ok.1 hmade
  rw [Mapping.toForm, Mapping.dimensions_ofRecorded h.ofRequest, ← Recording.dimensions_layout,
    Dimension.toForm_dimensions] at hds
  exact Recording.named_of_ofForm hds

/-- A parameter without a name is recorded, and the server does not start over the recording. -/
theorem blankParam_prevents_start :
    Registry.empty.Files .empty filing (Mapping.ordersRequest "=7" [] "") varyMessage ∧
      varyMessage.binaryHeaders = [] ∧ reading.readStaticMappings = true ∧ reading.proxy = none ∧
      emptyWorld.files.IsVacant (FilePath.ofText "mappings") ∧
      ∃ kept registry w, Registry.empty.record .empty filing Mapping.forwarder "mappings" emptyWorld
          (Mapping.ordersRequest "=7" [] "") varyMessage = .ok (kept, registry, w) ∧
        ∀ started, start reading w ≠ .ok started := by
  have hr : (Mapping.ordersRequest "=7" [] "").Assembled :=
    Request.assembled_ofUrl "http://h/orders?=7" (by decide +kernel) _ _ _ _ _
  have hbody : Recording.Storable (Mapping.ordersRequest "=7" [] "") := by
    intro v hv
    rw [hr.content_eq_none.2 (by decide)] at hv
    exact absurd hv (by simp)
  have hblank : ¬ Recording.Named filing (Mapping.ordersRequest "=7" [] "") := by
    intro h
    have hname := h.params ("", ["7"]) (by decide +kernel) (by decide)
    exact absurd hname (by decide)
  have hread : reading.readStaticMappings = true := rfl
  obtain ⟨kept, registry, w, hrecord, hlater⟩ := start_ne_ok_of_blank (files_filing hr) hbody hblank
    hread rfl emptyWorld_isClock (emptyWorld_isVacant _) Mapping.forwarder
  exact ⟨files_filing hr, rfl, rfl, rfl, emptyWorld_isVacant _, kept, registry, w, hrecord,
    hlater w rfl⟩

end Engine

end Understudy

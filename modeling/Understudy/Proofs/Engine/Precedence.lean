import Understudy.Proofs.Engine.Administration

/-!
# Administrative mappings answer first

A request is made for one administrative action at most. A server that starts with the mappings of all actions has them
in front, in the order of the actions, and keeps them there as long as no mapping is registered under one of their
GUIDs. No total is above that of a request that is made for an action, and no priority goes before theirs, so that the
mapping of the action answers it whatever else is registered.
-/

namespace Understudy

open Traversal

namespace AdminAction

def path? : AdminAction → Option String
  | .getMapping | .putMapping | .deleteMapping => none
  | .listMappings | .addMappings | .deleteMappings => some "/__admin/mappings"
  | .reset => some "/__admin/mappings/reset"
  | .listScenarios => some "/__admin/scenarios"
  | .listRequests | .deleteRequests => some "/__admin/requests"
  | .settings => some "/__admin/settings"

def IsGuidPath (path : String) : Prop :=
  ∃ p, Matcher.Pattern.ofRegex guidPath false = some p ∧ p.matches? path = true

def HasPath (action : AdminAction) (path : String) : Prop :=
  match action.path? with
  | some own => path = own
  | none => IsGuidPath path

structure AskedBy (action : AdminAction) (r : Request) : Prop where
  method : Text.sameName (Text.upper action.method) r.method = true
  path : action.HasPath r.path

theorem not_isGuidPath_of_path? {action : AdminAction} {path : String}
    (h : action.path? = some path) : ¬ IsGuidPath path := by
  rintro ⟨p, hp, hmatch⟩
  have hnone : ((Matcher.Pattern.ofRegex guidPath false).any fun p => all.any fun action =>
      action.path?.any p.matches?) = false := by decide +kernel
  have hall : action ∈ all := by cases action <;> decide
  rw [hp, Option.any_some, List.any_eq_false] at hnone
  exact hnone action hall (by rw [h, Option.any_some, hmatch])

/-- Method and path tell actions apart. -/
theorem eq_of_method_path {a b : AdminAction}
    (hmethod : Text.lower (Text.upper a.method) = Text.lower (Text.upper b.method))
    (hpath : a.path? = b.path?) : a = b := by
  revert hmethod hpath
  cases a <;> cases b <;> decide

theorem HasPath.path?_eq {a b : AdminAction} {path : String} (ha : a.HasPath path)
    (hb : b.HasPath path) : a.path? = b.path? := by
  unfold HasPath at ha hb
  cases hpa : a.path? with
  | none =>
      cases hpb : b.path? with
      | none => rfl
      | some own =>
          simp only [hpa, hpb] at ha hb
          exact absurd (hb ▸ ha) (not_isGuidPath_of_path? hpb)
  | some own =>
      cases hpb : b.path? with
      | none =>
          simp only [hpa, hpb] at ha hb
          exact absurd (ha ▸ hb) (not_isGuidPath_of_path? hpa)
      | some other =>
          simp only [hpa, hpb] at ha hb
          rw [← ha, ← hb]

/-- A request is made for one action at most. -/
theorem AskedBy.unique {a b : AdminAction} {r : Request} (ha : a.AskedBy r) (hb : b.AskedBy r) :
    a = b :=
  eq_of_method_path ((Text.sameName_iff.1 ha.method).trans (Text.sameName_iff.1 hb.method).symm)
    (ha.path.path?_eq hb.path)

theorem upper_method (action : AdminAction) : Text.upper action.method = action.method := by
  cases action <;> decide

theorem AskedBy.method_eq {action : AdminAction} {r : Request} (h : action.AskedBy r)
    (hr : Text.upper r.method = r.method) : action.method = r.method := by
  have hsame := Text.upper_eq_of_sameName h.method
  rwa [Text.upper_upper, upper_method, hr] at hsame

/-- The matcher of an action's path knows no partial match: a path is one of the action, or it is not. -/
theorem exists_score_pathMatcher {action : AdminAction} {path : Matcher}
    (h : action.pathMatcher = .ok path) (text : String) :
    ∃ b, (path.score (.text text) : Score) = Scale.ofBool b ∧ (b = true ↔ action.HasPath text) := by
  have hexact (s : String) : ∃ b, ((Matcher.exact s).score (.text text) : Score) = Scale.ofBool b ∧
      (b = true ↔ text = s) :=
    ⟨_, Matcher.score_exact s (.text text), by simp [Attribute.text?]⟩
  have hregex (h : Matcher.regex guidPath = .ok path) :
      ∃ b, (path.score (.text text) : Score) = Scale.ofBool b ∧ (b = true ↔ IsGuidPath text) := by
    unfold Matcher.regex at h
    split at h
    · rename_i p hp
      obtain rfl := pure_eq_ok.1 h
      exact ⟨_, Matcher.score_regex p (.text text), by simp [IsGuidPath, hp, Attribute.text?]⟩
    · exact absurd h throw_ne_ok
  cases action with
  | getMapping | putMapping | deleteMapping => exact hregex h
  | _ =>
      obtain rfl := pure_eq_ok.1 h
      exact hexact _

/-- The matcher of an action's path accepts the paths of the action, and no others. -/
theorem score_pathMatcher {action : AdminAction} {path : Matcher}
    (h : action.pathMatcher = .ok path) (text : String) :
    (path.score (.text text) : Score) = Scale.one ↔ action.HasPath text := by
  obtain ⟨b, hb, hpath⟩ := exists_score_pathMatcher h text
  rw [hb, Scale.ofBool_eq_one, hpath]

end AdminAction

namespace Mapping

structure Serves (m : Mapping) (action : AdminAction) : Prop where
  isAdmin : m.isAdmin = true
  provider : m.provider = .admin action
  priority : m.priority = adminPriority
  step? : m.step? = none
  dimensions : ∃ path, action.pathMatcher = .ok path ∧
    m.dimensions = [.ofMethods [action.method], .path (.single path)]

variable {m : Mapping} {action : AdminAction} {r : Request}

theorem serves_of_mapping {guid : Guid} {now : Instant} (h : action.mapping guid now = .ok m)
    (updated : Instant) : ({ m with updatedAt := updated } : Mapping).Serves action := by
  obtain ⟨path, hpath, h⟩ := bind_eq_ok.1 h
  obtain ⟨-, rfl⟩ := build_eq_ok.1 h
  exact ⟨rfl, rfl, rfl, rfl, path, hpath, rfl⟩

/-- A request scores perfectly in the dimensions of the mapping when it is made for its action. -/
theorem Serves.forall_score_iff (h : m.Serves action) :
    (∀ d ∈ m.dimensions, (d.score r : Score) = Scale.one) ↔ action.AskedBy r := by
  obtain ⟨path, hpath, hdimensions⟩ := h.dimensions
  have hmethod : ((Dimension.ofMethods [action.method]).score r : Score) = Scale.one ↔
      Text.sameName (Text.upper action.method) r.method = true := by
    rw [Dimension.ofMethods, Dimension.score, Scale.ofBool_eq_one]
    simp [Text.listsName]
  have hscore : ((Dimension.path (.single path)).score r : Score) = path.score (.text r.path) :=
    MatcherSet.score_single path (.text r.path)
  rw [hdimensions, List.forall_mem_cons, List.forall_mem_singleton, hmethod, hscore,
    AdminAction.score_pathMatcher hpath]
  exact ⟨fun h => ⟨h.1, h.2⟩, fun h => ⟨h.method, h.path⟩⟩

theorem exists_serves {ms : List Mapping} {actions : List AdminAction}
    (h : List.Forall₂ Serves ms actions) (hm : m ∈ ms) : ∃ action, m.Serves action := by
  obtain ⟨i, hi, rfl⟩ := List.mem_iff_getElem.1 hm
  exact ⟨_, h.get hi (h.length_eq ▸ hi)⟩

theorem Serves.totalValue_eq_one_iff (h : m.Serves action) (scenarios : ScenarioStore) :
    m.totalValue r scenarios = 1 ↔ action.AskedBy r := by
  have hscore : (m.score r scenarios : MatchResult Score) = matchDimensions r m.dimensions := by
    unfold score
    simp only [h.step?]
  rw [← Registry.isPerfect_iff, hscore, isPerfect_matchDimensions, h.forall_score_iff]

end Mapping

namespace Registry

/-- The mappings of all actions stand in front, and no priority goes before theirs. -/
structure Governed (r : Registry) (front : List Mapping) : Prop where
  isPrefix : front <+: r.mappings
  serves : List.Forall₂ Mapping.Serves front AdminAction.all
  priority : ∀ m ∈ r.mappings, Mapping.adminPriority ≤ m.priority

variable {registry after : Registry} {front added : List Mapping} {a d : Mapping} {r : Request}

theorem Governed.eq_of_serves (h : registry.Governed front) (ha : a ∈ front) (hd : d ∈ front)
    {action : AdminAction} (hserves : a.Serves action) (hother : d.Serves action) : d = a := by
  have hproviders : front.map (·.provider) = AdminAction.all.map .admin := by
    have heq : List.Forall₂ (fun m action => m.provider = Provider.admin action) front
        AdminAction.all := h.serves.imp fun _ _ hs => hs.provider
    rw [← List.forall₂_eq_eq_eq, List.forall₂_map_left_iff, List.forall₂_map_right_iff]
    exact heq
  have hnodup : (front.map (·.provider)).Nodup := by
    rw [hproviders]
    exact List.Nodup.map (fun _ _ heq => Provider.admin.inj heq) (by decide)
  exact List.inj_on_of_nodup_map hnodup hd ha (hother.provider.trans hserves.provider.symm)

/-- Mappings that are added elsewhere do not go before the ones in front. -/
theorem Governed.edit (h : registry.Governed front) (hedit : registry.Edit added after)
    (hguid : ∀ m ∈ added, ∀ a ∈ front, m.guid ≠ a.guid)
    (hpriority : ∀ m ∈ added, Mapping.adminPriority ≤ m.priority) : after.Governed front where
  isPrefix := by
    refine hedit.isPrefix h.isPrefix (fun a ha => ?_) hguid
    obtain ⟨action, hserves⟩ := Mapping.exists_serves h.serves ha
    exact hserves.isAdmin
  serves := h.serves
  priority := hedit.all h.priority fun m hm _ => hpriority m hm

/-- The mapping of the action answers that the request is made for. -/
theorem Governed.resolve (h : registry.Governed front) (ha : a ∈ front)
    (hr : ∀ d ∈ a.dimensions, (d.score r : Score) = Scale.one) (scenarios : ScenarioStore)
    (allowPartial : Bool) :
    (registry.resolve r scenarios allowPartial : Resolution Score).matched =
      some ⟨a, a.score r scenarios⟩ := by
  obtain ⟨action, hserves⟩ := Mapping.exists_serves h.serves ha
  have hasked := hserves.forall_score_iff.1 hr
  have hvalue : a.totalValue r scenarios = 1 := (hserves.totalValue_eq_one_iff scenarios).2 hasked
  obtain ⟨earlier, later, hsplit, hfirst⟩ := List.eq_append_cons_of_mem ha
  obtain ⟨back, hback⟩ := h.isPrefix
  refine ((registry.matched_isChosen (fun _ => true) r scenarios allowPartial).2 _).2
    ⟨rfl, earlier, later ++ back, ?_, ⟨rfl, hvalue ▸ one_pos⟩, fun d hd _ => ?_, fun d hd _ => ?_⟩
  · rw [← hback, hsplit, List.append_assoc, List.cons_append]
  · -- a mapping before it is for another action
    left
    rw [hvalue]
    refine lt_of_le_of_ne (totalValue_le_one d r scenarios) fun hone => hfirst ?_
    have hdfront : d ∈ front := hsplit ▸ List.mem_append_left _ hd
    obtain ⟨other, hother⟩ := Mapping.exists_serves h.serves hdfront
    obtain rfl := hasked.unique ((hother.totalValue_eq_one_iff scenarios).1 hone)
    rwa [← h.eq_of_serves ha hdfront hserves hother]
  · -- a mapping behind it ties at best
    have hdmem : d ∈ registry.mappings := by
      rw [← hback, hsplit, List.append_assoc, List.cons_append]
      exact List.mem_append_right _ (List.mem_cons_of_mem a hd)
    have hle := totalValue_le_one d r scenarios
    have hpriority := h.priority d hdmem
    rw [← hserves.priority] at hpriority
    unfold Outranks Ties
    rw [hvalue]
    rcases hle.lt_or_eq with hlt | heq
    · exact Or.inl (Or.inl hlt)
    · rcases hpriority.lt_or_eq with hlt | htie
      · exact Or.inl (Or.inr ⟨heq, hlt⟩)
      · exact Or.inr ⟨heq, htie⟩

end Registry

namespace Engine

variable {e e' : Engine} {w w' : World} {front : List Mapping} {a : Mapping}
variable {events : List Event} {settings : ServerSettings}

/-- Each action brings one mapping at most, and all of them stand at the end when each brings one. -/
theorem serves_installAdmin {actions : List AdminAction}
    (h : e.installAdmin w actions = .ok (e', w')) :
    e'.registry.mappings.length ≤ e.registry.mappings.length + actions.length ∧
      (e.registry.mappings.length + actions.length ≤ e'.registry.mappings.length →
        ∃ ms, e'.registry.mappings = e.registry.mappings ++ ms ∧
          List.Forall₂ Mapping.Serves ms actions) := by
  induction actions generalizing e w with
  | nil =>
      obtain rfl := congrArg Prod.fst (pure_eq_ok.1 h)
      exact ⟨le_rfl, fun _ => ⟨[], by simp, .nil⟩⟩
  | cons action actions ih =>
      obtain ⟨m, hm, h⟩ := bind_eq_ok.1 h
      change (e.register m w.newGuid.2.now).installAdmin w.newGuid.2 actions = .ok (e', w') at h
      obtain ⟨hle, hall⟩ := ih h
      have hlength : (e.register m w.newGuid.2.now).registry.mappings.length = _ :=
        Registry.length_put { m with updatedAt := w.newGuid.2.now } e.registry.mappings
      rw [List.length_cons]
      split at hlength
      · -- the GUID was there, and there are too few mappings
        exact ⟨by omega, fun hmore => by omega⟩
      · rename_i hnew
        refine ⟨by omega, fun hmore => ?_⟩
        obtain ⟨ms, hms, hserves⟩ := hall (by omega)
        refine ⟨{ m with updatedAt := w.newGuid.2.now } :: ms, ?_,
          .cons (Mapping.serves_of_mapping hm _) hserves⟩
        have hput : (e.register m w.newGuid.2.now).registry.mappings =
            e.registry.mappings ++ [{ m with updatedAt := w.newGuid.2.now }] :=
          Registry.put_of_absent fun d hd hguid => hnew (List.mem_map.2 ⟨d, hd, hguid⟩)
        rw [hms, hput, List.append_assoc]
        rfl

theorem governed_run (h : e.registry.Governed front) (hdistinct : e.registry.Distinct)
    (hrange : ∀ event ∈ events, event.InRange)
    (hspared : ∀ m, e.Registers events m → ∀ a ∈ front, m.guid ≠ a.guid) :
    (e.run events).registry.Governed front := by
  induction events generalizing e with
  | nil => exact h
  | cons event events ih =>
      rw [List.forall_mem_cons] at hrange
      have hedit := edit_after hdistinct event
      have hafter := h.edit hedit (fun m hm => hspared m (registers_cons.2 (Or.inl hm)))
        (priority_of_registered hrange.1)
      exact ih hafter (hedit.distinct hdistinct) hrange.2
        fun m hm => hspared m (registers_cons.2 (Or.inr hm))

theorem governed_start (hon : settings.startAdminInterface = true)
    (hstart : start settings w = .ok (e, w')) (hall : e.admins.length = AdminAction.all.length) :
    e.registry.Governed e.admins := by
  obtain ⟨installed, w₁, events, hinstall, rfl, hevents⟩ := exists_run_of_start hstart
  rw [if_pos hon] at hinstall
  have hbare : (bare settings).registry.Distinct := List.nodup_nil
  have hdistinct := distinct_installAdmin hbare hinstall
  have hplain : ∀ event ∈ events, event.Plain := fun event hevent => (hevents event hevent).plain
  -- none of the mappings that were installed is missing
  have hsublist := admins_run_sublist hdistinct hplain
  have hfilter : installed.admins.length ≤ installed.registry.mappings.length :=
    List.length_filter_le _ _
  obtain ⟨hle, hserves⟩ := serves_installAdmin hinstall
  have hmin := hsublist.length_le
  have hempty : (bare settings).registry.mappings.length = 0 := rfl
  obtain ⟨ms, hms, hserves⟩ := hserves (by omega)
  have hadmins : (installed.run events).admins = installed.registry.mappings :=
    (hsublist.trans List.filter_sublist).eq_of_length_le (by omega)
  have hfront : installed.registry.Governed installed.registry.mappings := by
    refine ⟨List.prefix_rfl, ?_, fun m hm => ?_⟩
    · rw [hms]
      exact hserves
    · rw [hms] at hm
      obtain ⟨action, hm⟩ := Mapping.exists_serves hserves hm
      exact hm.priority.ge
  rw [hadmins]
  refine governed_run hfront hdistinct (fun event hevent => (hevents event hevent).inRange)
    fun m hm a ha => ?_
  rw [← hadmins] at ha
  exact (mem_admins_run hdistinct hplain (hsublist.subset ha)).1 ha m hm

/--
A server that starts with a mapping for each administrative action resolves every request that scores perfectly in the
dimensions of one of them to this mapping: after every run in which none of their GUIDs is registered, whatever else is,
and in every state of the scenarios.
-/
theorem run_resolves_admin (hon : settings.startAdminInterface = true)
    (hstart : start settings w = .ok (e, w')) (hall : e.admins.length = AdminAction.all.length)
    (hrange : ∀ event ∈ events, event.InRange)
    (hspared : ∀ m, e.Registers events m → ∀ a ∈ e.admins, m.guid ≠ a.guid) (ha : a ∈ e.admins)
    {r : Request} (hr : ∀ d ∈ a.dimensions, (d.score r : Score) = Scale.one)
    (scenarios : ScenarioStore) :
    ({ e.run events with scenarios }.resolve r).matched = some ⟨a, a.score r scenarios⟩ :=
  (governed_run (governed_start hon hstart hall) (distinct_start hstart) hrange hspared).resolve ha
    hr scenarios _

def forwarding : ServerSettings := { ServerSettings.standard with proxy := some (.forUrl "http://upstream") }

/-- It matches every request, and its priority is that of administrative mappings. -/
def rival : Mapping :=
  { Mapping.forwarder with
    priority := Mapping.adminPriority, dimensions := [], provider := .fixed (.ofStatus 200)
    origin := .configured }

def scenariosRequest : Request :=
  .ofUrl "GET" { (default : Url) with scheme := "http", path := "/__admin/scenarios" } []
    Bytes.empty none default

/-- The rival and the mapping that forwards match as well, and neither answers. -/
theorem rival_does_not_answer :
    ∃ e w' a, start forwarding emptyWorld = .ok (e, w') ∧
      e.admins.length = AdminAction.all.length ∧ a ∈ e.admins ∧
      a.title = some "admin: list scenarios" ∧
      ∀ scenarios, ({ e.run [.operation .deleteMappings, .operation (.register rival default)] with
        scenarios }.resolve scenariosRequest).matched =
          some ⟨a, a.score scenariosRequest scenarios⟩ := by
  have hcheck : (start forwarding emptyWorld).toOption.any (fun x =>
      x.1.admins.length == AdminAction.all.length && x.1.admins.all (rival.guid != ·.guid) &&
        x.1.admins.any fun a => a.title == some "admin: list scenarios" &&
          (Mapping.matchDimensions scenariosRequest a.dimensions : MatchResult Score).isPerfect) =
      true := by decide +kernel
  obtain ⟨⟨e, w'⟩, hstart, hcheck⟩ := (Option.any_eq_true _ _).1 hcheck
  simp only [Bool.and_eq_true, beq_iff_eq, List.all_eq_true, List.any_eq_true, bne_iff_ne] at hcheck
  obtain ⟨⟨hall, hguid⟩, a, ha, htitle, hperfect⟩ := hcheck
  refine ⟨e, w', a, toOption_eq_some.1 hstart, hall, ha, htitle, ?_⟩
  refine run_resolves_admin rfl (toOption_eq_some.1 hstart) hall ?_ (fun m hm b hb => ?_) ha
    ((Mapping.isPerfect_matchDimensions scenariosRequest a.dimensions).1 hperfect)
  · simp [Event.InRange, Op.InRange, rival]
  · obtain rfl : m = rival := by simpa [registers_cons, mem_registered, op?, adds] using hm
    exact hguid b hb

end Engine

end Understudy

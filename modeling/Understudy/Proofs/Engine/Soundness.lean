import Understudy.Proofs.Engine.Precedence

/-!
# Sound servers

A mapping is genuine when being administrative and doing an administrative action are one thing for it. A server is
`Sound` when all its mappings are genuine: it starts so and stays so, as long as no other mapping is handed in. What an
administrative mapping of a sound server answers is a request for its action, and it does that action and nothing else.
-/

namespace Understudy

open Traversal

namespace Mapping

/-- Administrative mappings are those of administrative actions, and no other mapping does such an action. -/
structure Genuine (m : Mapping) : Prop where
  serves : m.isAdmin = true → ∃ action, m.Serves action
  isAdmin : ∀ action, m.provider = .admin action → m.isAdmin = true

variable {m : Mapping} {action : AdminAction} {r : Request}

theorem Serves.updated (h : m.Serves action) (now : Instant) :
    ({ m with updatedAt := now } : Mapping).Serves action :=
  ⟨h.isAdmin, h.provider, h.priority, h.step?, h.dimensions⟩

theorem Serves.genuine (h : m.Serves action) : m.Genuine :=
  ⟨fun _ => ⟨action, h⟩, fun _ _ => h.isAdmin⟩

theorem genuine_of_not_isAdmin (h : m.isAdmin = false)
    (hprovider : ∀ action, m.provider ≠ .admin action) : m.Genuine := by
  refine ⟨fun hadmin => ?_, fun action haction => absurd haction (hprovider action)⟩
  rw [h] at hadmin
  exact absurd hadmin Bool.false_ne_true

theorem Genuine.updated (h : m.Genuine) (now : Instant) :
    ({ m with updatedAt := now } : Mapping).Genuine := by
  refine ⟨fun hadmin => ?_, h.isAdmin⟩
  obtain ⟨action, hserves⟩ := h.serves hadmin
  exact ⟨action, hserves.updated now⟩

/-- A mapping that does an administrative action is the mapping of it. -/
theorem Genuine.serves_of_provider (h : m.Genuine) (hprovider : m.provider = .admin action) :
    m.Serves action := by
  obtain ⟨own, hserves⟩ := h.serves (h.isAdmin action hprovider)
  obtain rfl := Provider.admin.inj (hserves.provider.symm.trans hprovider)
  exact hserves

theorem Genuine.isAdmin_of_proxy (h : m.Genuine) {s : ProxySettings}
    (hprovider : m.provider = .proxy s) : m.isAdmin = false := by
  rw [← Bool.not_eq_true]
  intro hadmin
  obtain ⟨action, hserves⟩ := h.serves hadmin
  exact absurd (hserves.provider.symm.trans hprovider) (by simp)

theorem genuine_of_ofForm {form : Form.Mapping} {fresh : Guid} {now : Instant}
    (h : ofForm form fresh now = .ok m) : m.Genuine := by
  obtain ⟨dimensions, -, h⟩ := bind_eq_ok.1 h
  obtain ⟨provider, hprovider, h⟩ := bind_eq_ok.1 h
  obtain ⟨-, rfl⟩ := build_eq_ok.1 h
  refine genuine_of_not_isAdmin rfl fun action haction => ?_
  rw [show provider = .admin action from haction] at hprovider
  unfold providerOfForm at hprovider
  split at hprovider
  · exact absurd (pure_eq_ok.1 hprovider) (by simp)
  · obtain ⟨d, -, hd⟩ := map_eq_ok.1 hprovider
    exact absurd hd (by simp)

/-- A request that the mapping of an action matches is made for the action. -/
theorem Serves.askedBy_of_isMatch (h : m.Serves action) {scenarios : ScenarioStore}
    (hmatch : (m.score r scenarios : MatchResult Score).isMatch = true) : action.AskedBy r := by
  refine h.forall_score_iff.1 fun d hd => ?_
  have hne : (d.score r : Score) ≠ Scale.zero := score_ne_zero_of_isMatch hmatch hd
  -- method and path either fit or do not
  have hbool : ∃ b, (d.score r : Score) = Scale.ofBool b := by
    obtain ⟨path, hpath, hdimensions⟩ := h.dimensions
    rw [hdimensions, List.mem_cons, List.mem_singleton] at hd
    rcases hd with rfl | rfl
    · exact ⟨_, rfl⟩
    · obtain ⟨b, hb, -⟩ := AdminAction.exists_score_pathMatcher hpath r.path
      exact ⟨b, (MatcherSet.score_single path (.text r.path)).trans hb⟩
  obtain ⟨b, hb⟩ := hbool
  rw [hb] at hne ⊢
  cases b with
  | false => exact absurd rfl hne
  | true => rfl

end Mapping

namespace Engine

variable {e e' : Engine} {w w' : World} {event : Event} {events : List Event}
variable {settings : ServerSettings} {r : Request} {c : Candidate Score} {action : AdminAction}

/-- All mappings are genuine, and no two have one GUID. -/
structure Sound (e : Engine) : Prop where
  distinct : e.registry.Distinct
  genuine : ∀ m ∈ e.registry.mappings, m.Genuine

/-- No mapping is handed in that is not genuine; requests and forms bring in none. -/
def Event.Genuine : Event → Prop
  | .operation (.register m _) => m.Genuine
  | _ => True

theorem Event.Starting.genuine (h : event.Starting) : event.Genuine := by
  unfold Event.Starting at h
  split at h
  · obtain ⟨s, guid, now, hm⟩ := h
    obtain ⟨horigin, -, hprovider⟩ := catchAll_eq_ok hm
    refine Mapping.genuine_of_not_isAdmin (congrArg (· == Origin.admin) horigin) fun action => ?_
    rw [hprovider]
    simp
  · trivial
  · exact h.elim

theorem genuine_of_registered (h : event.Genuine) : ∀ m ∈ e.registered event, m.Genuine := by
  intro m hm
  obtain ⟨op, hop, hm⟩ := mem_registered.1 hm
  cases op with
  | register d now =>
      obtain rfl := List.mem_singleton.1 hm
      cases event with
      | operation op' =>
          obtain rfl := Option.some.inj hop
          exact h
      | request w backend r =>
          rcases caused_cases hop with
            ⟨forms, heq, -⟩ | ⟨guid, heq⟩ | heq | heq | ⟨s, proxy, response, heq⟩ <;> cases heq
  | registerForms w forms =>
      simp only [adds] at hm
      split at hm
      · rename_i ms w' hcompile
        obtain ⟨form, -, fresh, now, hm⟩ := exists_of_mem_compileForms hcompile hm
        exact Mapping.genuine_of_ofForm hm
      · exact absurd hm List.not_mem_nil
  | keep w s proxy r response =>
      rw [Registry.keepCall_eq_made (Option.mem_toList.1 hm)]
      exact Mapping.genuine_of_not_isAdmin rfl fun action => Provider.noConfusion
  | unregister guid => exact absurd hm List.not_mem_nil
  | deleteMappings => exact absurd hm List.not_mem_nil
  | reset => exact absurd hm List.not_mem_nil

theorem Sound.after (h : e.Sound) (hevent : event.Genuine) : (e.after event).Sound := by
  have hedit := edit_after h.distinct event
  exact ⟨hedit.distinct h.distinct,
    hedit.all h.genuine fun m hm now => (genuine_of_registered hevent m hm).updated now⟩

/-- A sound server stays so in every run in which no mapping is handed in that is not genuine. -/
theorem Sound.run (h : e.Sound) (hevents : ∀ event ∈ events, event.Genuine) :
    (e.run events).Sound := by
  induction events generalizing e with
  | nil => exact h
  | cons event events ih =>
      rw [List.forall_mem_cons] at hevents
      exact ih (h.after hevents.1) hevents.2

theorem Sound.installAdmin {actions : List AdminAction} (h : e.Sound)
    (hinstall : e.installAdmin w actions = .ok (e', w')) : e'.Sound := by
  induction actions generalizing e w with
  | nil =>
      obtain rfl := congrArg Prod.fst (pure_eq_ok.1 hinstall)
      exact h
  | cons action actions ih =>
      obtain ⟨m, hm, hrest⟩ := bind_eq_ok.1 hinstall
      have hserves : m.Serves action := Mapping.serves_of_mapping hm m.updatedAt
      have hevent : Event.Genuine (.operation (.register m w.newGuid.2.now)) := hserves.genuine
      exact ih (h.after hevent) hrest

theorem sound_start (h : start settings w = .ok (e, w')) : e.Sound := by
  obtain ⟨installed, w₁, events, hinstall, rfl, hevents⟩ := exists_run_of_start h
  have hbare : (bare settings).Sound := ⟨List.nodup_nil, List.forall_mem_nil _⟩
  refine Sound.run ?_ fun event hevent => (hevents event hevent).genuine
  split at hinstall
  · exact hbare.installAdmin hinstall
  · obtain rfl := congrArg Prod.fst (pure_eq_ok.1 hinstall)
    exact hbare

theorem mem_of_matched (h : (e.resolve r).matched = some c) : c.mapping ∈ e.registry.mappings :=
  (((e.registry.matched_isChosen (fun _ => true) r e.scenarios e.settings.allowPartialMapping).2
    c).1 h).2.mem

theorem isMatch_of_matched (h : (e.resolve r).matched = some c) :
    (c.mapping.score r e.scenarios : MatchResult Score).isMatch = true := by
  have hchosen := (((e.registry.matched_isChosen (fun _ => true) r e.scenarios
    e.settings.allowPartialMapping).2 c).1 h).2
  exact (Registry.isMatch_iff c.mapping r e.scenarios).2 hchosen.meets.2

theorem Sound.genuine_of_matched (h : e.Sound) (hmatched : (e.resolve r).matched = some c) :
    c.mapping.Genuine :=
  h.genuine c.mapping (mem_of_matched hmatched)

/-- The mapping of an action does the action, for a request that is made for it. -/
theorem handle_of_serves (hmatched : (e.resolve r).matched = some c)
    (hserves : c.mapping.Serves action) (w : World) (backend : Outbound → Reply) :
    action.AskedBy r ∧ e.handle w backend r = e.act w r action := by
  refine ⟨hserves.askedBy_of_isMatch (isMatch_of_matched hmatched), ?_⟩
  unfold handle
  simp only [hmatched, hserves.isAdmin, if_true, respond, hserves.provider, advance, hserves.step?]

end Engine

end Understudy

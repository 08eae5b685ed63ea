import Understudy.Proofs.Engine.Events
import Understudy.Proofs.Recording.Restart

/-!
# Administrative mappings stay

A server starts with its administrative mappings and what its settings ask for besides, and then things happen to it.
Whatever these are, no administrative mapping is deleted. One is lost only to a mapping that is registered under its
GUID: this takes its place, and nothing brings the lost one back.
-/

namespace Understudy

open Traversal

namespace Engine

variable {e e' : Engine} {w w' : World} {a : Mapping} {event : Event} {events : List Event}
variable {settings : ServerSettings}

def admins (e : Engine) : List Mapping := e.registry.mappings.filter (·.isAdmin)

theorem mem_admins : a ∈ e.admins ↔ a ∈ e.registry.mappings ∧ a.isAdmin = true := List.mem_filter

def Op.Plain : Op → Prop
  | .register m _ => m.isAdmin = false
  | _ => True

def Op.InRange : Op → Prop
  | .register m _ => Mapping.adminPriority ≤ m.priority
  | .registerForms _ forms => ∀ form ∈ forms, form.InRange
  | _ => True

/-- No administrative mapping is handed in; requests hand in none. -/
def Event.Plain : Event → Prop
  | .operation op => op.Plain
  | .request .. => True

/-- The priorities that are handed in are within their limits; those in requests are in any case. -/
def Event.InRange : Event → Prop
  | .operation op => op.InRange
  | .request .. => True

theorem plain_of_op? {op : Op} (h : event.Plain) (hop : e.op? event = some op) : op.Plain := by
  cases event with
  | operation op' =>
      obtain rfl := Option.some.inj hop
      exact h
  | request w backend r =>
      rcases caused_cases hop with
        ⟨forms, rfl, -⟩ | ⟨guid, rfl⟩ | rfl | rfl | ⟨s, proxy, response, rfl⟩ <;> trivial

theorem inRange_of_op? {op : Op} (h : event.InRange) (hop : e.op? event = some op) :
    op.InRange := by
  cases event with
  | operation op' =>
      obtain rfl := Option.some.inj hop
      exact h
  | request w backend r =>
      rcases caused_cases hop with
        ⟨forms, rfl, hforms⟩ | ⟨guid, rfl⟩ | rfl | rfl | ⟨s, proxy, response, rfl⟩
      · exact hforms
      all_goals trivial

theorem isAdmin_of_registered (h : event.Plain) : ∀ m ∈ e.registered event, m.isAdmin = false := by
  intro m hm
  obtain ⟨op, hop, hm⟩ := mem_registered.1 hm
  have hplain := plain_of_op? h hop
  rcases mem_adds hm with ⟨now, rfl⟩ | ⟨w, forms, rfl, horigin, -⟩ | ⟨horigin, -⟩
  · exact hplain
  · rw [Mapping.isAdmin, horigin]
    rfl
  · rw [Mapping.isAdmin, horigin]
    rfl

theorem priority_of_registered (h : event.InRange) :
    ∀ m ∈ e.registered event, Mapping.adminPriority ≤ m.priority := by
  intro m hm
  obtain ⟨op, hop, hm⟩ := mem_registered.1 hm
  have hrange := inRange_of_op? h hop
  rcases mem_adds hm with ⟨now, rfl⟩ | ⟨w, forms, rfl, -, form, hform, hpriority⟩ | ⟨-, hpriority⟩
  · exact hrange
  · rw [hpriority]
    cases hgiven : form.priority with
    | none => decide
    | some n => exact ((hrange form hform).priority n hgiven).1
  · rw [hpriority]
    decide

/-- An event leaves the administrative mappings whose GUIDs are not registered. -/
theorem mem_admins_after (h : e.registry.Distinct) (hplain : event.Plain) (ha : a ∈ e.admins) :
    a ∈ (e.after event).admins ↔ ∀ m ∈ e.registered event, m.guid ≠ a.guid := by
  obtain ⟨hmem, hadmin⟩ := mem_admins.1 ha
  have hedit := edit_after h event
  constructor
  · intro hafter m hm hguid
    exact hedit.not_mem h (isAdmin_of_registered hplain) hadmin hm hguid (mem_admins.1 hafter).1
  · exact fun hguid => mem_admins.2 ⟨hedit.mem hmem hadmin hguid, hadmin⟩

/-- No event adds to the administrative mappings or moves them. -/
theorem admins_run_sublist (h : e.registry.Distinct) (hplain : ∀ event ∈ events, event.Plain) :
    (e.run events).admins.Sublist e.admins := by
  induction events generalizing e with
  | nil => exact .refl _
  | cons event events ih =>
      rw [List.forall_mem_cons] at hplain
      have hedit := edit_after h event
      exact (ih (hedit.distinct h) hplain.2).trans
        (hedit.filter_isAdmin_sublist (isAdmin_of_registered hplain.1))

theorem mem_admins_run (h : e.registry.Distinct) (hplain : ∀ event ∈ events, event.Plain)
    (ha : a ∈ e.admins) :
    a ∈ (e.run events).admins ↔ ∀ m, e.Registers events m → m.guid ≠ a.guid := by
  induction events generalizing e with
  | nil => simpa using ha
  | cons event events ih =>
      rw [List.forall_mem_cons] at hplain
      have hdistinct := (edit_after h event).distinct h
      have hafter := mem_admins_after h hplain.1 ha
      simp only [run_cons, registers_cons, or_imp, forall_and, ← hafter]
      constructor
      · intro hrun
        have hkept := (admins_run_sublist hdistinct hplain.2).subset hrun
        exact ⟨hkept, (ih hdistinct hplain.2 hkept).1 hrun⟩
      · exact fun ⟨hkept, hrest⟩ => (ih hdistinct hplain.2 hkept).2 hrest

theorem distinct_installAdmin {actions : List AdminAction} (h : e.registry.Distinct)
    (hinstall : e.installAdmin w actions = .ok (e', w')) : e'.registry.Distinct := by
  induction actions generalizing e w with
  | nil =>
      obtain rfl := congrArg Prod.fst (pure_eq_ok.1 hinstall)
      exact h
  | cons action actions ih =>
      obtain ⟨m, -, hrest⟩ := bind_eq_ok.1 hinstall
      exact ih (h.register m w.newGuid.2.now) hrest

/-- The mapping that forwards is not administrative, and all others go before it. -/
theorem catchAll_eq_ok {s : ProxySettings} {guid : Guid} {now : Instant} {m : Mapping}
    (h : catchAll s guid now = .ok m) :
    m.origin = .proxy ∧ m.priority = Mapping.proxyPriority ∧ m.provider = .proxy s := by
  obtain ⟨-, rfl⟩ := Mapping.build_eq_ok.1 h
  exact ⟨rfl, rfl, rfl⟩

/-- What a start does: it registers the mapping that forwards, or the forms of the mapping files. -/
def Event.Starting : Event → Prop
  | .operation (.register m _) => ∃ s guid now, catchAll s guid now = .ok m
  | .operation (.registerForms _ forms) => ∀ form ∈ forms, form.InRange
  | _ => False

theorem Event.Starting.plain (h : event.Starting) : event.Plain := by
  unfold Event.Starting at h
  split at h
  · obtain ⟨s, guid, now, hm⟩ := h
    obtain ⟨horigin, -, -⟩ := catchAll_eq_ok hm
    exact congrArg (· == Origin.admin) horigin
  · trivial
  · exact h.elim

theorem Event.Starting.inRange (h : event.Starting) : event.InRange := by
  unfold Event.Starting at h
  split at h
  · obtain ⟨s, guid, now, hm⟩ := h
    obtain ⟨-, hpriority, -⟩ := catchAll_eq_ok hm
    exact (by decide : Mapping.adminPriority ≤ Mapping.proxyPriority).trans_eq hpriority.symm
  · exact h
  · exact h.elim

theorem exists_run_of_installProxy (h : e.installProxy w = .ok (e', w')) :
    ∃ events, e' = e.run events ∧ ∀ event ∈ events, event.Starting := by
  unfold installProxy at h
  split at h
  · obtain ⟨m, hm, h⟩ := bind_eq_ok.1 h
    obtain rfl := congrArg Prod.fst (pure_eq_ok.1 h)
    exact ⟨[.operation (.register m w.newGuid.2.now)], rfl,
      List.forall_mem_singleton.2 ⟨_, _, _, hm⟩⟩
  · obtain rfl := congrArg Prod.fst (pure_eq_ok.1 h)
    exact ⟨[], rfl, List.forall_mem_nil _⟩

theorem exists_run_of_loadStatic (h : e.loadStatic w = .ok (e', w')) :
    ∃ events, e' = e.run events ∧ ∀ event ∈ events, event.Starting := by
  unfold loadStatic at h
  simp only at h
  split at h
  · obtain ⟨forms, hforms, h⟩ := bind_eq_ok.1 h
    obtain ⟨⟨ms, e₁, w₁⟩, hregister, h⟩ := bind_eq_ok.1 h
    obtain rfl := congrArg Prod.fst (pure_eq_ok.1 h)
    refine ⟨[.operation (.registerForms w forms)], ?_,
      List.forall_mem_singleton.2 (FileStore.inRange_of_loadMappings hforms)⟩
    simp only [run_cons, run_nil, after, apply, hregister]
  · obtain rfl := congrArg Prod.fst (pure_eq_ok.1 h)
    exact ⟨[], rfl, List.forall_mem_nil _⟩

/-- What a server starts with besides its administrative mappings is registered after them. -/
theorem exists_run_of_start (h : start settings w = .ok (e, w')) :
    ∃ installed w₁ events,
      (if settings.startAdminInterface then (bare settings).installAdmin w AdminAction.all
        else pure (bare settings, w)) = .ok (installed, w₁) ∧
      e = installed.run events ∧ ∀ event ∈ events, event.Starting := by
  have hrest : ∀ (installed : Engine) (w₁ : World),
      (installed.installProxy w₁ >>= fun x =>
        if settings.readStaticMappings = true then x.1.loadStatic x.2 else pure x) = .ok (e, w') →
      ∃ events, e = installed.run events ∧ ∀ event ∈ events, event.Starting := by
    intro installed w₁ h
    obtain ⟨⟨forwarding, w₂⟩, hproxy, h⟩ := bind_eq_ok.1 h
    obtain ⟨first, rfl, hfirst⟩ := exists_run_of_installProxy hproxy
    split at h
    · obtain ⟨second, rfl, hsecond⟩ := exists_run_of_loadStatic h
      exact ⟨first ++ second, by simp [run], List.forall_mem_append.2 ⟨hfirst, hsecond⟩⟩
    · obtain rfl := congrArg Prod.fst (pure_eq_ok.1 h)
      exact ⟨first, rfl, hfirst⟩
  unfold start at h
  cases hon : settings.startAdminInterface with
  | true =>
      simp only [hon, if_true] at h
      obtain ⟨⟨installed, w₁⟩, hinstall, h⟩ := bind_eq_ok.1 h
      obtain ⟨events, he, hevents⟩ := hrest installed w₁ h
      exact ⟨installed, w₁, events, hinstall, he, hevents⟩
  | false =>
      simp only [hon, Bool.false_eq_true, if_false] at h
      obtain ⟨events, he, hevents⟩ := hrest _ _ h
      exact ⟨_, _, events, rfl, he, hevents⟩

theorem distinct_start (h : start settings w = .ok (e, w')) : e.registry.Distinct := by
  obtain ⟨installed, w₁, events, hinstall, rfl, -⟩ := exists_run_of_start h
  refine distinct_run ?_ events
  have hbare : (bare settings).registry.Distinct := List.nodup_nil
  split at hinstall
  · exact distinct_installAdmin hbare hinstall
  · obtain rfl := congrArg Prod.fst (pure_eq_ok.1 hinstall)
    exact hbare

/--
Of the administrative mappings that a server starts with, those are left after a run whose GUIDs are nowhere registered
in it, in their order and without others. So requests to delete, operations to reset and recordings remove none, and
each mapping that is registered under the GUID of one removes it.
-/
theorem start_keeps_admins (hstart : start settings w = .ok (e, w'))
    (hplain : ∀ event ∈ events, event.Plain) :
    (e.run events).admins.Sublist e.admins ∧
      ∀ a ∈ e.admins, a ∈ (e.run events).admins ↔
        ∀ m, e.Registers events m → m.guid ≠ a.guid :=
  ⟨admins_run_sublist (distinct_start hstart) hplain,
    fun _ ha => mem_admins_run (distinct_start hstart) hplain ha⟩

theorem start_standard :
    ∃ e w', start .standard emptyWorld = .ok (e, w') ∧
      e.admins.length = AdminAction.all.length := by
  have hcount : (start .standard emptyWorld).toOption.any
      (fun x => x.1.admins.length == AdminAction.all.length) = true := by decide +kernel
  obtain ⟨⟨e, w'⟩, hstart, hlength⟩ := (Option.any_eq_true _ _).1 hcount
  exact ⟨e, w', toOption_eq_some.1 hstart, beq_iff_eq.1 hlength⟩

theorem reset_keeps_admins :
    ∃ e w', start .standard emptyWorld = .ok (e, w') ∧
      e.admins.length = AdminAction.all.length ∧
      ∀ a ∈ e.admins, a ∈ (e.run [.operation (.unregister a.guid), .operation .deleteMappings,
        .operation .reset]).admins := by
  obtain ⟨e, w', hstart, hlength⟩ := start_standard
  refine ⟨e, w', hstart, hlength, fun a ha => ?_⟩
  have hplain : ∀ event ∈ [.operation (.unregister a.guid), .operation .deleteMappings,
      .operation .reset], Event.Plain event := by
    simp [Event.Plain, Op.Plain]
  refine ((start_keeps_admins hstart hplain).2 a ha).2 fun m hm => ?_
  simp [registers_cons, mem_registered, op?, adds] at hm

def putRequest (guid : Guid) : Request :=
  .ofUrl "PUT" { (default : Url) with scheme := "http", path := "/__admin/mappings/" ++ guid.text }
    [] (Bytes.ofText "\x7b\x7d") none default

/-- A mapping that is put under the GUID of an administrative one takes its place. -/
theorem put_replaces_admin :
    ∃ e w' a, start .standard emptyWorld = .ok (e, w') ∧ a ∈ e.admins ∧
      ∀ d ∈ (e.run [.request w' (fun _ => .none) (putRequest a.guid)]).registry.mappings,
        d.guid = a.guid → d.isAdmin = false := by
  have hput : (start .standard emptyWorld).toOption.any (fun x => x.1.admins.head?.any fun a =>
      (x.1.run [.request x.2 (fun _ => .none) (putRequest a.guid)]).registry.mappings.all fun d =>
        d.guid != a.guid || !d.isAdmin) = true := by decide +kernel
  obtain ⟨⟨e, w'⟩, hstart, hput⟩ := (Option.any_eq_true _ _).1 hput
  obtain ⟨a, ha, hput⟩ := (Option.any_eq_true _ _).1 hput
  refine ⟨e, w', a, toOption_eq_some.1 hstart, List.mem_of_head? ha, fun d hd hguid => ?_⟩
  simpa [hguid] using List.all_eq_true.1 hput d hd

end Engine

end Understudy

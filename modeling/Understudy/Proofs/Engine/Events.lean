import Understudy.Proofs.Engine.Handle
import Understudy.Proofs.Form.Limits
import Understudy.Proofs.Recording.Repetition

/-!
# What happens to a server

An `Op` is something that is done to a server, and an `Event` is that or a request. A request changes the registry as
the operation that it causes does, and an operation changes it in one of two ways: mappings are registered one after
another, or mappings are left out of which none is administrative. `run` takes a server through events.
-/

namespace Understudy

open Traversal

namespace Registry

variable {r r' : Registry} {added : List Mapping} {a : Mapping}

/-- The registry after mappings were added, or after others than administrative ones were left out. -/
inductive Edit (r : Registry) : List Mapping → Registry → Prop where
  | register (added : List Mapping) (now : Instant) : Edit r added (r.registerAll added now)
  | leave (keeps : Mapping → Bool) (h : ∀ m ∈ r.mappings, m.isAdmin = true → keeps m = true) :
      Edit r [] ⟨r.mappings.filter keeps⟩

theorem Edit.refl (r : Registry) : r.Edit [] r := .register [] default

theorem Edit.distinct (h : r.Edit added r') (hr : r.Distinct) : r'.Distinct := by
  cases h with
  | register added now => exact hr.registerAll added now
  | leave keeps _ => exact hr.filter keeps

/-- An administrative mapping stays, unless a mapping is added under its GUID. -/
theorem Edit.mem (h : r.Edit added r') (ha : a ∈ r.mappings) (hadmin : a.isAdmin = true)
    (hguid : ∀ m ∈ added, m.guid ≠ a.guid) : a ∈ r'.mappings := by
  cases h with
  | register added now => exact mem_registerAll_of_ne ha hguid now
  | leave keeps hkeeps => exact List.mem_filter.2 ⟨ha, hkeeps a ha hadmin⟩

/-- A mapping that is not administrative takes the place of the one with its GUID. -/
theorem Edit.not_mem (h : r.Edit added r') (hr : r.Distinct)
    (hplain : ∀ m ∈ added, m.isAdmin = false) (hadmin : a.isAdmin = true) {m : Mapping}
    (hm : m ∈ added) (hguid : m.guid = a.guid) : a ∉ r'.mappings := by
  intro ha
  cases h with
  | register added now =>
      obtain ⟨d, hd, -, hget⟩ := get?_registerAll hm r now
      have hfound := (hr.registerAll added now).get?_eq_some_iff.2 ⟨ha, hguid.symm⟩
      rw [hget, Option.some.injEq] at hfound
      have hdplain : ({ d with updatedAt := now } : Mapping).isAdmin = false := hplain d hd
      rw [hfound, hadmin] at hdplain
      exact absurd hdplain (by simp)
  | leave keeps _ => exact absurd hm List.not_mem_nil

theorem Edit.filter_isAdmin_sublist (h : r.Edit added r') (hplain : ∀ m ∈ added, m.isAdmin = false) :
    (r'.mappings.filter (·.isAdmin)).Sublist (r.mappings.filter (·.isAdmin)) := by
  cases h with
  | register added now => exact filter_registerAll_sublist hplain
  | leave keeps _ => exact List.filter_sublist.filter _

/-- Administrative mappings that come first stay so, unless a mapping is added under one of their GUIDs. -/
theorem Edit.isPrefix {front : List Mapping} (h : r.Edit added r') (hfront : front <+: r.mappings)
    (hadmin : ∀ a ∈ front, a.isAdmin = true) (hguid : ∀ m ∈ added, ∀ a ∈ front, m.guid ≠ a.guid) :
    front <+: r'.mappings := by
  obtain ⟨back, hback⟩ := hfront
  cases h with
  | register added now =>
      obtain rfl : r = ⟨front ++ back⟩ := by rw [hback]
      rw [registerAll_append fun m hm a ha => (hguid m hm a ha).symm]
      exact List.prefix_append _ _
  | leave keeps hkeeps =>
      rw [← hback] at hkeeps ⊢
      rw [List.filter_append, List.filter_eq_self.2 fun a ha =>
        hkeeps a (List.mem_append_left back ha) (hadmin a ha)]
      exact List.prefix_append _ _

theorem Edit.all {p : Mapping → Prop} (h : r.Edit added r') (hr : ∀ m ∈ r.mappings, p m)
    (hadded : ∀ m ∈ added, ∀ now, p { m with updatedAt := now }) : ∀ m ∈ r'.mappings, p m := by
  cases h with
  | register added now => exact all_registerAll (fun m hm => hadded m hm now) hr
  | leave keeps _ => exact fun m hm => hr m (List.mem_filter.1 hm).1

end Registry

namespace Engine

inductive Op where
  | register (m : Mapping) (now : Instant)
  | registerForms (w : World) (forms : List Form.Mapping)
  | unregister (guid : Guid)
  | deleteMappings
  | reset
  | keep (w : World) (s : ProxySettings) (proxy : Mapping) (r : Request)
      (response : Response.Message)

inductive Event where
  | operation (op : Op)
  | request (w : World) (backend : Outbound → Reply) (r : Request)

/-- The server after an operation; one that fails leaves it as it was. -/
def apply (e : Engine) : Op → Engine
  | .register m now => e.register m now
  | .registerForms w forms =>
    match e.registerForms w forms with
    | .ok (_, after, _) => after
    | .error _ => e
  | .unregister guid =>
    match e.unregister guid with
    | .ok (_, after) => after
    | .error _ => e
  | .deleteMappings => e.deleteMappings.2
  | .reset => e.reset
  | .keep w s proxy r response => (e.keep w s proxy r response).1

def after (e : Engine) : Event → Engine
  | .operation op => e.apply op
  | .request w backend r => (e.handle w backend r).engine

def run (e : Engine) (events : List Event) : Engine := events.foldl after e

def call (e : Engine) (w : World) (proxy : Mapping) (r : Request) (response : Response.Message) :
    Registry.Call :=
  { proxy, directory := e.settings.mappingsDirectory, world := w, request := r, response }

def adds (e : Engine) : Op → List Mapping
  | .register m _ => [m]
  | .registerForms w forms =>
    match compileForms w forms with
    | .ok (ms, _) => ms
    | .error _ => []
  | .keep w s proxy r response =>
    (e.registry.keepCall e.scenarios s (e.call w proxy r response)).1.toList
  | _ => []

/-- The operation that a request causes: one of the administrative interface, or keeping what a backend answers. -/
def caused (e : Engine) (w : World) (backend : Outbound → Reply) (r : Request) : Option Op :=
  (e.resolve r).matched.bind fun c =>
    match c.mapping.provider with
    | .admin .addMappings =>
      (Form.readMappings (r.bodyText?.getD "")).toOption.map (.registerForms w)
    | .admin .putMapping => (guidOf? r).bind fun guid =>
      (Form.Mapping.ofText (r.bodyText?.getD "")).toOption.map fun form =>
        .registerForms w [{ form with guid := some guid }]
    | .admin .deleteMapping => (guidOf? r).map .unregister
    | .admin .deleteMappings => some .deleteMappings
    | .admin .reset => some .reset
    | .proxy s =>
      (e.clients.forward s backend r).1.toOption.map fun response => .keep w s c.mapping r response
    | _ => none

/-- The operation that an event comes down to. -/
def op? (e : Engine) : Event → Option Op
  | .operation op => some op
  | .request w backend r => e.caused w backend r

def registered (e : Engine) (event : Event) : List Mapping := ((e.op? event).map e.adds).getD []

def Registers (e : Engine) (events : List Event) (m : Mapping) : Prop :=
  ∃ before event later, events = before ++ event :: later ∧ m ∈ (e.run before).registered event

variable {e e' : Engine} {w w' : World} {ms : List Mapping} {forms : List Form.Mapping}
variable {m a : Mapping} {event : Event} {events : List Event}

@[simp] theorem run_nil (e : Engine) : e.run [] = e := rfl

@[simp] theorem run_cons (e : Engine) (event : Event) (events : List Event) :
    e.run (event :: events) = (e.after event).run events := rfl

@[simp] theorem not_registers_nil : ¬ e.Registers [] m := by
  rintro ⟨before, event, later, hsplit, -⟩
  simp at hsplit

theorem registers_cons : e.Registers (event :: events) m ↔
    m ∈ e.registered event ∨ (e.after event).Registers events m := by
  constructor
  · rintro ⟨before, first, later, hsplit, hm⟩
    cases before with
    | nil =>
        obtain ⟨rfl, rfl⟩ := List.cons.inj hsplit
        exact Or.inl hm
    | cons head before =>
        obtain ⟨rfl, rfl⟩ := List.cons.inj hsplit
        exact Or.inr ⟨before, first, later, rfl, hm⟩
  · rintro (hm | ⟨before, first, later, rfl, hm⟩)
    · exact ⟨[], event, events, rfl, hm⟩
    · exact ⟨event :: before, first, later, rfl, hm⟩

theorem registerForms_eq_ok : e.registerForms w forms = .ok (ms, e', w') ↔
    compileForms w forms = .ok (ms, w') ∧
      { e with registry := e.registry.registerAll ms w'.now } = e' := by
  unfold registerForms
  rw [bind_eq_ok]
  constructor
  · rintro ⟨⟨ms', w₁⟩, hcompile, h⟩
    have heq := pure_eq_ok.1 h
    simp only [Prod.mk.injEq] at heq
    obtain ⟨rfl, hengine, rfl⟩ := heq
    exact ⟨hcompile, hengine⟩
  · rintro ⟨hcompile, hengine⟩
    exact ⟨(ms, w'), hcompile, by rw [← hengine]; rfl⟩

theorem mem_registered : m ∈ e.registered event ↔ ∃ op, e.op? event = some op ∧ m ∈ e.adds op := by
  unfold registered
  cases e.op? event <;> simp

/-- Forms are registered all together, or not at all. -/
theorem apply_registerForms (e : Engine) (w : World) (forms : List Form.Mapping) :
    ∃ now, (e.apply (.registerForms w forms)).registry =
      e.registry.registerAll (e.adds (.registerForms w forms)) now := by
  simp only [apply, adds]
  cases hcompile : compileForms w forms with
  | ok compiled =>
      obtain ⟨ms, w'⟩ := compiled
      simp only [registerForms_eq_ok.2 ⟨hcompile, rfl⟩]
      exact ⟨w'.now, rfl⟩
  | error f =>
      have hnone : e.registerForms w forms = .error f := by
        unfold registerForms
        rw [hcompile]
        rfl
      simp only [hnone]
      exact ⟨default, rfl⟩

theorem apply_keep (e : Engine) (w : World) (s : ProxySettings) (proxy : Mapping) (r : Request)
    (response : Response.Message) :
    (e.apply (.keep w s proxy r response)).registry =
      (e.registry.keepCall e.scenarios s (e.call w proxy r response)).2 := by
  simp only [apply, keep, Registry.keepCall, call]
  cases e.registry.record e.scenarios s proxy e.settings.mappingsDirectory w r response <;> rfl

/-- Only a mapping that is not administrative is removed, and no other has its GUID. -/
theorem edit_unregister (h : e.registry.Distinct) (guid : Guid) :
    e.registry.Edit [] (e.apply (.unregister guid)).registry := by
  simp only [apply, unregister, mapping?]
  cases hfound : e.registry.get? guid with
  | none => exact .refl _
  | some d =>
      cases hadmin : d.isAdmin with
      | true =>
          simp only [Option.filter, hadmin]
          exact .refl _
      | false =>
          simp only [Option.filter, hadmin, Registry.unregister_of_some hfound]
          refine .leave _ fun a ha haadmin => ?_
          obtain ⟨hd, hdguid⟩ := h.get?_eq_some_iff.1 hfound
          rw [bne_iff_ne]
          intro hguid
          rw [h.eq_of_guid hd ha (hguid.trans hdguid.symm), hadmin] at haadmin
          exact absurd haadmin (by simp)

/-- Deleting and resetting leave the permanent mappings, of which the administrative ones are part. -/
theorem edit_reset (r : Registry) : r.Edit [] r.reset.2 := by
  refine .leave _ fun a _ hadmin => ?_
  unfold Mapping.isAdmin at hadmin
  rw [Mapping.isPermanent, hadmin, Bool.true_or]

theorem forall₂_of_compileForms (h : compileForms w forms = .ok (ms, w')) :
    List.Forall₂ (fun form m => ∃ fresh now, Mapping.ofForm form fresh now = .ok m) forms ms := by
  induction forms generalizing w ms with
  | nil =>
      obtain rfl := congrArg Prod.fst (pure_eq_ok.1 h)
      exact .nil
  | cons form forms ih =>
      obtain ⟨made, hmade, h⟩ := bind_eq_ok.1 h
      obtain ⟨⟨rest, w₁⟩, hrest, h⟩ := bind_eq_ok.1 h
      have heq := pure_eq_ok.1 h
      rw [Prod.mk.injEq] at heq
      obtain ⟨rfl, rfl⟩ := heq
      exact .cons ⟨_, _, hmade⟩ (ih hrest)

theorem exists_of_mem_compileForms (h : compileForms w forms = .ok (ms, w')) (hm : m ∈ ms) :
    ∃ form ∈ forms, ∃ fresh now, Mapping.ofForm form fresh now = .ok m := by
  have hall := forall₂_of_compileForms h
  obtain ⟨i, hi, rfl⟩ := List.mem_iff_getElem.1 hm
  have hform : i < forms.length := hall.length_eq ▸ hi
  exact ⟨forms[i], List.getElem_mem hform, hall.get hform hi⟩

/-- Where a mapping comes from that an operation registers. -/
theorem mem_adds {op : Op} (h : m ∈ e.adds op) :
    (∃ now, op = .register m now) ∨
      (∃ w forms, op = .registerForms w forms ∧ m.origin = .configured ∧
        ∃ form ∈ forms, m.priority = form.priority.getD 0) ∨
      (m.origin = .recorded ∧ m.priority = Mapping.recordedPriority) := by
  cases op with
  | register d now =>
      obtain rfl := List.mem_singleton.1 h
      exact Or.inl ⟨now, rfl⟩
  | registerForms w forms =>
      simp only [adds] at h
      split at h
      · rename_i ms w' hcompile
        obtain ⟨form, hform, fresh, now, hm⟩ := exists_of_mem_compileForms hcompile h
        obtain ⟨horigin, hpriority⟩ := Mapping.origin_of_ofForm hm
        exact Or.inr (Or.inl ⟨w, forms, rfl, horigin, form, hform, hpriority⟩)
      · exact absurd h List.not_mem_nil
  | keep w s proxy r response =>
      obtain rfl := Registry.keepCall_eq_made (Option.mem_toList.1 h)
      exact Or.inr (Or.inr ⟨rfl, rfl⟩)
  | unregister guid => exact absurd h List.not_mem_nil
  | deleteMappings => exact absurd h List.not_mem_nil
  | reset => exact absurd h List.not_mem_nil

/-- The operations that requests cause; the numbers in forms that they bring are within their limits. -/
theorem caused_cases {op : Op} {backend : Outbound → Reply} {r : Request}
    (h : e.caused w backend r = some op) :
    (∃ forms, op = .registerForms w forms ∧ ∀ form ∈ forms, form.InRange) ∨
      (∃ guid, op = .unregister guid) ∨ op = .deleteMappings ∨ op = .reset ∨
      ∃ s proxy response, op = .keep w s proxy r response := by
  obtain ⟨c, -, h⟩ := Option.bind_eq_some_iff.1 h
  split at h
  · obtain ⟨forms, hforms, rfl⟩ := Option.map_eq_some_iff.1 h
    exact Or.inl ⟨forms, rfl, Form.inRange_of_readMappings (toOption_eq_some.1 hforms)⟩
  · obtain ⟨guid, -, h⟩ := Option.bind_eq_some_iff.1 h
    obtain ⟨form, hform, rfl⟩ := Option.map_eq_some_iff.1 h
    have hrange := Form.Mapping.inRange_of_ofText (toOption_eq_some.1 hform)
    exact Or.inl ⟨_, rfl, List.forall_mem_singleton.2 ⟨hrange.priority, hrange.timesInSameState⟩⟩
  · obtain ⟨guid, -, rfl⟩ := Option.map_eq_some_iff.1 h
    exact Or.inr (Or.inl ⟨guid, rfl⟩)
  · obtain rfl := Option.some.inj h
    exact Or.inr (Or.inr (Or.inl rfl))
  · obtain rfl := Option.some.inj h
    exact Or.inr (Or.inr (Or.inr (Or.inl rfl)))
  · obtain ⟨response, -, rfl⟩ := Option.map_eq_some_iff.1 h
    exact Or.inr (Or.inr (Or.inr (Or.inr ⟨_, _, response, rfl⟩)))
  · exact absurd h (by simp)

theorem edit_apply (h : e.registry.Distinct) (op : Op) :
    e.registry.Edit (e.adds op) (e.apply op).registry := by
  cases op with
  | register m now => exact .register [m] now
  | registerForms w forms =>
      obtain ⟨now, hnow⟩ := e.apply_registerForms w forms
      rw [hnow]
      exact .register _ now
  | unregister guid => exact edit_unregister h guid
  | deleteMappings => exact edit_reset e.registry
  | reset => exact edit_reset e.registry
  | keep w s proxy r response =>
      rw [apply_keep, Registry.keepCall_snd]
      exact .register _ _

theorem respond_registry (e : Engine) (w : World) (backend : Outbound → Reply) (r : Request)
    {c : Candidate Score} (h : (e.resolve r).matched = some c) :
    (e.respond w backend c.mapping r).engine.registry =
      ((e.caused w backend r).elim e e.apply).registry := by
  unfold caused respond
  rw [h, Option.bind_some]
  cases c.mapping.provider with
  | fixed d => rfl
  | computed f => rfl
  | proxy s =>
      simp only [forward]
      cases (e.clients.forward s backend r).1 with
      | error response => rfl
      | ok response =>
          simp only [Except.toOption, Option.map_some, Option.elim_some, apply, keep]
          cases e.registry.record e.scenarios s c.mapping e.settings.mappingsDirectory w r response
            <;> rfl
  | admin action =>
      unfold act
      cases action with
      | addMappings =>
          delta addMappings
          cases Form.readMappings (r.bodyText?.getD "") with
          | error f => rfl
          | ok forms =>
              simp only [Except.toOption, Option.map_some, Option.elim_some, apply, Except.bind]
              cases e.registerForms w forms <;> rfl
      | putMapping =>
          cases guidOf? r with
          | none => rfl
          | some guid =>
              rw [Option.bind_some]
              delta putMapping
              cases Form.Mapping.ofText (r.bodyText?.getD "") with
              | error f => rfl
              | ok form =>
                  simp only [Except.toOption, Option.map_some, Option.elim_some, apply, Except.bind]
                  cases e.registerForms w [{ form with guid := some guid }] <;> rfl
      | deleteMapping =>
          cases guidOf? r with
          | none => rfl
          | some guid =>
              simp only [deleteMapping, Option.map_some, Option.elim_some, apply]
              cases e.unregister guid <;> rfl
      | getMapping => cases guidOf? r <;> rfl
      | _ => rfl

/-- A request changes the registry as the operation does that it causes, and not at all when it causes none. -/
theorem handle_registry (e : Engine) (w : World) (backend : Outbound → Reply) (r : Request) :
    (e.handle w backend r).engine.registry = ((e.caused w backend r).elim e e.apply).registry := by
  cases hmatched : (e.resolve r).matched with
  | none =>
      unfold handle caused
      simp only [hmatched]
      rfl
  | some c =>
      obtain ⟨-, log, hengine⟩ := handle_of_matched hmatched w backend
      rw [hengine, ← e.respond_registry w backend r hmatched]
      exact advance_registry _ c.mapping

/-- Whatever happens, mappings are registered or others than administrative ones are left out. -/
theorem edit_after (h : e.registry.Distinct) (event : Event) :
    e.registry.Edit (e.registered event) (e.after event).registry := by
  have hop : (e.after event).registry = ((e.op? event).elim e e.apply).registry := by
    cases event with
    | operation op => rfl
    | request w backend r => exact e.handle_registry w backend r
  rw [hop]
  unfold registered
  cases e.op? event with
  | none => exact .refl _
  | some op => exact edit_apply h op

theorem distinct_run (h : e.registry.Distinct) (events : List Event) :
    (e.run events).registry.Distinct := by
  induction events generalizing e with
  | nil => exact h
  | cons event events ih => exact ih ((edit_after h event).distinct h)

end Engine

end Understudy

import Understudy.Proofs.Recording.Synthesis
import Understudy.Proofs.Registry.Selection
import Understudy.Proofs.Registry.Slots
import Understudy.Recording.Basic

/-!
# Recording the same exchanges again

`Registry.keepCall` is one call to record, and `recordEach` a row of them, each with the world that it finds. A call
either refuses its exchange, and nothing changes, or puts one recording at the end. After it the exchange is
`Settled`: it is not wanted, or a recording in the registry matches its request perfectly. Later calls with new GUIDs
only add mappings, so that it stays settled, and a settled exchange is refused whenever it comes again.
-/

namespace Understudy

namespace Registry

open Scale.Lawful

section

variable {r : Request} {scenarios : ScenarioStore} {m : Mapping}

theorem totalValue_le_one (m : Mapping) (r : Request) (scenarios : ScenarioStore) :
    m.totalValue r scenarios ≤ 1 :=
  value_le_one (m.isScore_total (α := Score) r scenarios)

theorem isPerfect_iff : (m.score r scenarios : MatchResult Score).isPerfect = true ↔
    m.totalValue r scenarios = 1 :=
  eq_iff (m.isScore_total r scenarios) isScore_one

/-- A recording in the registry matches the request perfectly. -/
def Knows (registry : Registry) (scenarios : ScenarioStore) (r : Request) : Prop :=
  ∃ d ∈ registry.mappings, d.origin = .recorded ∧
    (d.score r scenarios : MatchResult Score).isPerfect = true

/-- The best of all recordings is perfect whenever any of them is. -/
theorem hasRecorded_iff {registry : Registry} :
    registry.hasRecorded scenarios r = true ↔ registry.Knows scenarios r := by
  obtain ⟨hnone, hsome⟩ := registry.matched_isChosen (fun m => m.origin == .recorded) r scenarios
    false
  unfold hasRecorded
  rw [Option.any_eq_true]
  constructor
  · rintro ⟨c, hc, hperfect⟩
    obtain ⟨hresult, hchosen⟩ := (hsome c).1 hc
    rw [hresult] at hperfect
    exact ⟨c.mapping, hchosen.mem, beq_iff_eq.1 hchosen.meets.1, hperfect⟩
  · rintro ⟨d, hd, horigin, hperfect⟩
    rw [isPerfect_iff] at hperfect
    have hanswers : Answers (fun m => m.origin == .recorded) r scenarios d :=
      ⟨beq_iff_eq.2 horigin, hperfect ▸ one_pos⟩
    obtain ⟨c, hc⟩ := Option.ne_none_iff_exists'.1 fun h => hnone.1 h d hd hanswers
    obtain ⟨hresult, hchosen⟩ := (hsome c).1 hc
    refine ⟨c, hc, ?_⟩
    rw [hresult, isPerfect_iff]
    exact le_antisymm (totalValue_le_one c.mapping r scenarios)
      (hperfect ▸ hchosen.value_le hd hanswers)

end

structure Call where
  proxy : Mapping
  directory : String
  world : World
  request : Request
  response : Response.Message

variable (scenarios : ScenarioStore) (s : ProxySettings)

/-- The mapping that a call keeps and the registry after it; a call that fails changes nothing. -/
def keepCall (registry : Registry) (c : Call) : Option Mapping × Registry :=
  match registry.record scenarios s c.proxy c.directory c.world c.request c.response with
  | .ok (kept, after, _) => (kept, after)
  | .error _ => (none, registry)

def recordEach (registry : Registry) (calls : List Call) : Registry :=
  calls.foldl (fun registry c => (registry.keepCall scenarios s c).2) registry

/-- No call makes up a GUID that is in the registry when it comes. -/
def Fresh : Registry → List Call → Prop
  | _, [] => True
  | registry, c :: calls =>
    (∀ d ∈ registry.mappings, d.guid ≠ c.world.newGuid.1) ∧
      Fresh (registry.keepCall scenarios s c).2 calls

/-- The exchange of the call is refused: it is not wanted, cannot be answered again, or is recorded already. -/
def Settled (registry : Registry) (c : Call) : Prop :=
  s.wants c.request.method c.response.status = false ∨
    Response.isLegalStatus c.response.status = false ∨ registry.Knows scenarios c.request

variable {scenarios s} {registry : Registry} {c : Call} {calls : List Call}

@[simp] theorem recordEach_nil : recordEach scenarios s registry [] = registry := rfl

@[simp] theorem recordEach_cons : recordEach scenarios s registry (c :: calls) =
    recordEach scenarios s (registry.keepCall scenarios s c).2 calls := rfl

theorem record_of_settled (h : registry.Settled scenarios s c) :
    registry.record scenarios s c.proxy c.directory c.world c.request c.response =
        .ok (none, registry, c.world) ∨
      ∃ e, registry.record scenarios s c.proxy c.directory c.world c.request c.response =
        .error e := by
  unfold record
  by_cases hrefused : (!s.wants c.request.method c.response.status ||
      registry.hasRecorded scenarios c.request) = true
  · rw [if_pos hrefused]
    exact Or.inl rfl
  · rw [if_neg hrefused]
    rw [Bool.or_eq_true, not_or, Bool.not_eq_true', hasRecorded_iff] at hrefused
    -- the one reason that is left: no mapping can be made
    have hstatus : Response.isLegalStatus c.response.status = false := by
      rcases h with h | h | h
      · exact absurd h hrefused.1
      · exact h
      · exact absurd h hrefused.2
    cases hmade : Mapping.ofExchange s c.proxy c.request c.response c.world.newGuid.1
        c.world.newGuid.2.now with
    | error e =>
        refine Or.inr ⟨e, ?_⟩
        simp only [hmade]
        rfl
    | ok made =>
        rw [Mapping.ofExchange_eq_ok, hstatus] at hmade
        exact absurd hmade.1 Bool.false_ne_true

def Call.made (s : ProxySettings) (c : Call) : Mapping :=
  Mapping.ofRecorded s c.proxy c.request c.response c.world.newGuid.1 c.world.now

theorem record_of_not_settled (h : ¬ registry.Settled scenarios s c) :
    registry.record scenarios s c.proxy c.directory c.world c.request c.response =
      .ok (if s.saveMapping then some (c.made s) else none,
        if s.saveMapping then registry.register (c.made s) c.world.now else registry,
        { c.world.newGuid.2 with
          files :=
            if s.saveMappingToFile then saved c.world.files c.directory (c.made s)
            else c.world.files }) := by
  unfold Settled at h
  rw [not_or, not_or, Bool.not_eq_false, Bool.not_eq_false] at h
  obtain ⟨hwants, hstatus, hnew⟩ := h
  have hnew' : registry.hasRecorded scenarios c.request = false := by
    rw [← Bool.not_eq_true, hasRecorded_iff]
    exact hnew
  have hmade : Mapping.ofExchange s c.proxy c.request c.response c.world.newGuid.1
      c.world.newGuid.2.now = .ok (c.made s) :=
    Mapping.ofExchange_eq_ok.2 ⟨hstatus, rfl⟩
  unfold record
  simp only [hwants, hnew', Bool.not_true, Bool.or_false, Bool.false_eq_true, if_false]
  rw [Traversal.bind_of_eq_ok hmade]
  -- the time is the same whether a file is written or not
  cases s.saveMapping <;> cases s.saveMappingToFile <;> rfl

theorem keepCall_of_settled (h : registry.Settled scenarios s c) :
    registry.keepCall scenarios s c = (none, registry) := by
  rcases record_of_settled h with hrecord | ⟨e, hrecord⟩ <;> rw [keepCall, hrecord]

theorem keepCall_of_not_settled (h : ¬ registry.Settled scenarios s c) :
    registry.keepCall scenarios s c =
      if s.saveMapping then (some (c.made s), registry.register (c.made s) c.world.now)
      else (none, registry) := by
  rw [keepCall, record_of_not_settled h]
  cases s.saveMapping <;> rfl

theorem keepCall_snd : (registry.keepCall scenarios s c).2 =
    registry.registerAll (registry.keepCall scenarios s c).1.toList c.world.now := by
  by_cases hsettled : registry.Settled scenarios s c
  · rw [keepCall_of_settled hsettled]
    rfl
  · rw [keepCall_of_not_settled hsettled]
    cases s.saveMapping <;> rfl

theorem mappings_keepCall (h : ∀ d ∈ registry.mappings, d.guid ≠ c.world.newGuid.1) :
    (registry.keepCall scenarios s c).2.mappings =
      registry.mappings ++ (registry.keepCall scenarios s c).1.toList := by
  by_cases hsettled : registry.Settled scenarios s c
  · rw [keepCall_of_settled hsettled]
    simp
  · rw [keepCall_of_not_settled hsettled]
    cases s.saveMapping with
    | true => exact put_of_absent h
    | false => simp

/-- What a call keeps is the mapping that it makes of its exchange. -/
theorem keepCall_eq_made {m : Mapping} (h : (registry.keepCall scenarios s c).1 = some m) :
    m = c.made s := by
  by_cases hsettled : registry.Settled scenarios s c
  · rw [keepCall_of_settled hsettled] at h
    exact absurd h (by simp)
  · rw [keepCall_of_not_settled hsettled] at h
    split at h
    · exact (Option.some.inj h).symm
    · exact absurd h (by simp)

theorem origin_keepCall : ∀ m ∈ (registry.keepCall scenarios s c).1, m.origin = .recorded := by
  intro m hm
  rw [keepCall_eq_made hm]
  rfl

theorem keepCall_fst_eq_none_iff : (registry.keepCall scenarios s c).1 = none ↔
    s.saveMapping = false ∨ registry.Settled scenarios s c := by
  by_cases hsettled : registry.Settled scenarios s c
  · rw [keepCall_of_settled hsettled]
    simp [hsettled]
  · rw [keepCall_of_not_settled hsettled]
    cases hsave : s.saveMapping <;> simp [hsettled]

theorem Settled.of_append {registry' : Registry} {added : List Mapping}
    (h : registry.Settled scenarios s c) (hadd : registry'.mappings = registry.mappings ++ added) :
    registry'.Settled scenarios s c := by
  refine h.imp_right (Or.imp_right ?_)
  rintro ⟨d, hd, hperfect⟩
  refine ⟨d, ?_, hperfect⟩
  rw [hadd]
  exact List.mem_append_left added hd

/-- What is registered of an exchange settles it: it matches the request perfectly. -/
theorem settled_of_mem (hs : s.useDefinedRequestMatchers = false) (hr : c.request.Assembled)
    (h : c.made s ∈ registry.mappings) : registry.Settled scenarios s c := by
  refine Or.inr (Or.inr ⟨c.made s, h, rfl, ?_⟩)
  rw [Call.made, Mapping.score_ofRecorded s hs, Recording.isPerfect_iff_accepts]
  exact Recording.accepts_self hr s

/-- A call settles its own exchange. -/
theorem settled_keepCall (hsave : s.saveMapping = true) (hs : s.useDefinedRequestMatchers = false)
    (hr : c.request.Assembled) :
    (registry.keepCall scenarios s c).2.Settled scenarios s c := by
  by_cases hsettled : registry.Settled scenarios s c
  · rw [keepCall_of_settled hsettled]
    exact hsettled
  · rw [keepCall_of_not_settled hsettled, if_pos hsave]
    exact settled_of_mem hs hr (mem_put (c.made s) registry.mappings)

/-- Calls with new GUIDs add mappings and leave the ones before as they are. -/
theorem exists_recordEach_eq_append (hfresh : Fresh scenarios s registry calls) :
    ∃ added, (recordEach scenarios s registry calls).mappings = registry.mappings ++ added := by
  induction calls generalizing registry with
  | nil => exact ⟨[], by simp⟩
  | cons c calls ih =>
      obtain ⟨added, hadded⟩ := ih hfresh.2
      refine ⟨(registry.keepCall scenarios s c).1.toList ++ added, ?_⟩
      rw [recordEach_cons, hadded, mappings_keepCall hfresh.1, List.append_assoc]

theorem settled_recordEach (hsave : s.saveMapping = true)
    (hs : s.useDefinedRequestMatchers = false) (hr : ∀ c ∈ calls, c.request.Assembled)
    (hfresh : Fresh scenarios s registry calls) :
    ∀ c ∈ calls, (recordEach scenarios s registry calls).Settled scenarios s c := by
  induction calls generalizing registry with
  | nil => exact List.forall_mem_nil _
  | cons c calls ih =>
      rw [List.forall_mem_cons] at hr
      obtain ⟨added, hadded⟩ := exists_recordEach_eq_append hfresh.2
      exact List.forall_mem_cons.2
        ⟨(settled_keepCall hsave hs hr.1).of_append hadded, ih hr.2 hfresh.2⟩

/-- Calls whose exchanges are settled change nothing. -/
theorem recordEach_of_settled (h : ∀ c ∈ calls, registry.Settled scenarios s c) :
    recordEach scenarios s registry calls = registry := by
  induction calls with
  | nil => rfl
  | cons c calls ih =>
      rw [List.forall_mem_cons] at h
      rw [recordEach_cons, keepCall_of_settled h.1]
      exact ih h.2

theorem Fresh.of_append {before after : List Call}
    (h : Fresh scenarios s registry (before ++ c :: after)) :
    ∀ d ∈ (recordEach scenarios s registry before).mappings, d.guid ≠ c.world.newGuid.1 := by
  induction before generalizing registry with
  | nil => exact h.1
  | cons first before ih => exact ih h.2

/--
In a run with new GUIDs every call adds its recording at the end or nothing, and nothing exactly when it is not to be
registered. When exchanges are registered by what was observed of them, running any of them again, as often as one
likes and in any order, registers nothing and leaves the registry as it is.
-/
theorem recordEach_again (registry : Registry) (scenarios : ScenarioStore) (s : ProxySettings)
    (calls : List Call) (hfresh : Fresh scenarios s registry calls) :
    (∀ before c after, calls = before ++ c :: after →
      let now := recordEach scenarios s registry before
      let kept := (now.keepCall scenarios s c).1
      (now.keepCall scenarios s c).2.mappings = now.mappings ++ kept.toList ∧
        (∀ m ∈ kept, m.origin = .recorded) ∧
        (kept = none ↔ s.saveMapping = false ∨ s.records = false ∨
          s.statusFilter.allows c.response.status = false ∨
          s.recordsMethod c.request.method = false ∨
          Response.isLegalStatus c.response.status = false ∨ now.Knows scenarios c.request)) ∧
    (s.saveMapping = true → s.useDefinedRequestMatchers = false →
      (∀ c ∈ calls, c.request.Assembled) →
      ∀ again : List Call,
        (∀ c ∈ again, ∃ d ∈ calls, c.request = d.request ∧ c.response = d.response) →
        let after := recordEach scenarios s registry calls
        recordEach scenarios s after again = after ∧
          ∀ c ∈ again, after.keepCall scenarios s c = (none, after)) := by
  refine ⟨?_, fun hsave hs hr again hagain => ?_⟩
  · rintro before c after rfl
    refine ⟨mappings_keepCall hfresh.of_append, origin_keepCall, ?_⟩
    rw [keepCall_fst_eq_none_iff]
    simp only [Settled, ProxySettings.wants, Bool.and_eq_false_iff, or_assoc]
  · have hsettled : ∀ c ∈ again,
        (recordEach scenarios s registry calls).Settled scenarios s c := by
      intro c hc
      obtain ⟨d, hd, hrequest, hresponse⟩ := hagain c hc
      have hd := settled_recordEach hsave hs hr hfresh d hd
      unfold Settled at hd ⊢
      rw [hrequest, hresponse]
      exact hd
    exact ⟨recordEach_of_settled hsettled, fun c hc => keepCall_of_settled (hsettled c hc)⟩

def registering : ProxySettings := { ProxySettings.forUrl "http://upstream" with saveMapping := true }

def ordersCall (drawn : ℕ) (query : String) : Call :=
  { proxy := Mapping.forwarder
    directory := "mappings"
    world := { now := default, guids := { GuidSource.made with drawn }, files := .empty }
    request := Mapping.ordersRequest query [] ""
    response := Mapping.latinMessage }

def ordersCalls : List Call := [ordersCall 0 "tag=a", ordersCall 1 "tag=b", ordersCall 2 "tag=a"]

/-- Two recordings are made of them, and none when they come again. -/
theorem ordersCalls_recorded_once :
    Fresh .empty registering .empty ordersCalls ∧
      (recordEach .empty registering .empty ordersCalls).size = 2 ∧
      recordEach .empty registering (recordEach .empty registering .empty ordersCalls)
          [ordersCall 7 "tag=b", ordersCall 8 "tag=a", ordersCall 9 "tag=b"] =
        recordEach .empty registering .empty ordersCalls := by
  have hfresh : Fresh .empty registering .empty ordersCalls :=
    ⟨by decide +kernel, by decide +kernel, by decide +kernel, trivial⟩
  have ha : (Mapping.ordersRequest "tag=a" [] "").Assembled :=
    Request.assembled_ofUrl "http://h/orders?tag=a" (by decide +kernel) _ _ _ _ _
  have hb : (Mapping.ordersRequest "tag=b" [] "").Assembled :=
    Request.assembled_ofUrl "http://h/orders?tag=b" (by decide +kernel) _ _ _ _ _
  obtain ⟨-, hagain⟩ := recordEach_again .empty .empty registering ordersCalls hfresh
  refine ⟨hfresh, by decide +kernel, (hagain rfl rfl ?_ _ ?_).1⟩
  · simp [ordersCalls, ordersCall, ha, hb]
  · simp [ordersCalls, ordersCall]

end Registry

end Understudy

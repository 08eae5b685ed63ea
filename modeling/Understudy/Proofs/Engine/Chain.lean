import Mathlib.Data.List.Nodup
import Understudy.Proofs.Engine.Handle
import Understudy.Proofs.Registry.Selection
import Understudy.Proofs.Scenario.Store

/-!
# A scenario chain plays in order

A `Chain` is a row of mappings of one scenario, each of which answers a number of times and then moves the scenario
on to the state of the next one, and a last mapping that only finishes it. An engine that holds a chain and nothing
else that matches a request answers it by the chain's script. `Chain.At` is what holds between two requests: it says
which links have been played, how often the next one has answered, and ties the scenario's row to both.
-/

namespace Understudy

/-- A mapping that answers a number of times and then moves its scenario on. -/
structure Link where
  mapping : Mapping
  response : Response.Definition
  /-- the state that it moves its scenario to -/
  next : String
  times : Nat
  times_pos : 0 < times

/-- Mappings that play one after another. -/
structure Chain where
  scenario : String
  links : List Link
  /-- answers when all links have played -/
  last : Mapping
  ending : Response.Definition
  distinct : (links.map Link.next).Nodup

namespace Chain

def stateAfter (played : List Link) : Option String := played.getLast?.map Link.next

def answered (played : List Link) : Nat := (played.map Link.times).sum

def script (links : List Link) : List Response.Message :=
  links.flatMap fun l => List.replicate l.times l.response.message

def answer (c : Chain) (count : Nat) : Response.Message :=
  ((script c.links)[count]?).getD c.ending.message

def mappings (c : Chain) : List Mapping := c.links.map Link.mapping ++ [c.last]

def states (c : Chain) : List (Option String) := none :: c.links.map fun l => some l.next

def step (c : Chain) (m : Mapping) (state next : Option String) : ScenarioStep :=
  { scenario := c.scenario
    whenStateIs := state
    setStateTo := next
    timesInSameState := m.timesInSameState }

/-- The mapping waits for a state of the scenario, matches the request perfectly and has a fixed response. -/
structure Plays (c : Chain) (r : Request) (m : Mapping) (state next : Option String)
    (response : Response.Definition) : Prop where
  scenario : m.scenario = some c.scenario
  whenStateIs : m.whenStateIs = state
  setStateTo : m.setStateTo = next
  provider : m.provider = .fixed response
  perfect : (Mapping.matchDimensions r m.dimensions : MatchResult Score).isPerfect = true

/-- The store may stand like this while the chain plays: other scenarios rest, and its own is in one of its states. -/
def Visits (c : Chain) (start s : ScenarioStore) : Prop :=
  (∀ name, name ≠ c.scenario → s.get? name = start.get? name) ∧
    (s.row c.scenario).nextState ∈ c.states

/-- An engine in which the chain is about to play, and in which no other mapping matches meanwhile. -/
structure HeldBy (c : Chain) (e : Engine) (r : Request) : Prop where
  link : ∀ played l rest, c.links = played ++ l :: rest →
    c.Plays r l.mapping (stateAfter played) (some l.next) l.response ∧
      l.mapping.timesInSameState.getD 1 = l.times
  last : c.Plays r c.last (stateAfter c.links) none c.ending
  registered : ∀ m ∈ c.mappings, m ∈ e.registry.mappings
  unused : e.scenarios.get? c.scenario = none
  others : ∀ m ∈ e.registry.mappings, m ∉ c.mappings → ∀ s, c.Visits e.scenarios s →
    (m.score r s : MatchResult Score).isMatch = false

structure At (c : Chain) (start e : Engine) (played rest : List Link) (waited : Nat) : Prop where
  links : c.links = played ++ rest
  registry : e.registry = start.registry
  others : ∀ name, name ≠ c.scenario → e.scenarios.get? name = start.scenarios.get? name
  state : (e.scenarios.row c.scenario).nextState = stateAfter played
  counter : (e.scenarios.row c.scenario).counter = answered played + waited
  waits : ∀ l ∈ rest.head?, (e.scenarios.row c.scenario).timesInState = waited ∧ waited < l.times
  finished : (e.scenarios.row c.scenario).finished = true ↔ rest = [] ∧ 0 < waited
  used : e.scenarios.get? c.scenario = none ↔ answered played + waited = 0

@[simp] theorem stateAfter_nil : stateAfter [] = none := rfl

@[simp] theorem stateAfter_concat (played : List Link) (l : Link) :
    stateAfter (played ++ [l]) = some l.next := by
  simp [stateAfter]

@[simp] theorem answered_append (a b : List Link) : answered (a ++ b) = answered a + answered b := by
  simp [answered]

@[simp] theorem answered_cons (l : Link) (ls : List Link) :
    answered (l :: ls) = l.times + answered ls := by
  simp [answered]

@[simp] theorem answered_nil : answered [] = 0 := rfl

@[simp] theorem script_cons (l : Link) (ls : List Link) :
    script (l :: ls) = List.replicate l.times l.response.message ++ script ls := rfl

theorem script_append (a b : List Link) : script (a ++ b) = script a ++ script b :=
  List.flatMap_append

@[simp] theorem length_script (links : List Link) : (script links).length = answered links := by
  induction links with
  | nil => rfl
  | cons l ls ih => rw [script_cons, List.length_append, List.length_replicate, ih, answered_cons]

variable {c : Chain} {r : Request} {start e : Engine}

theorem answer_of_link {played rest : List Link} {l : Link} {waited : Nat}
    (hlinks : c.links = played ++ l :: rest) (hwaited : waited < l.times) :
    c.answer (answered played + waited) = l.response.message := by
  rw [answer, hlinks, script_append, script_cons,
    List.getElem?_append_right (by rw [length_script]; omega), length_script,
    Nat.add_sub_cancel_left, List.getElem?_append_left (by rw [List.length_replicate]; exact hwaited),
    List.getElem?_replicate_of_lt hwaited]
  rfl

theorem answer_of_ending (waited : Nat) :
    c.answer (answered c.links + waited) = c.ending.message := by
  rw [answer, List.getElem?_eq_none (by rw [length_script]; omega)]
  rfl

theorem stateAfter_mem_states {played rest : List Link} (h : c.links = played ++ rest) :
    stateAfter played ∈ c.states := by
  induction played using List.reverseRecOn with
  | nil => simp [states]
  | append_singleton front l _ =>
      rw [stateAfter_concat, states, h]
      simp

theorem nodup_states (c : Chain) : c.states.Nodup := by
  have hnext : (c.links.map fun l => some l.next).Nodup := by
    rw [show (fun l : Link => some l.next) = some ∘ Link.next from rfl, ← List.map_map]
    exact c.distinct.map (Option.some_injective _)
  exact List.nodup_cons.2 ⟨by simp, hnext⟩

theorem HeldBy.map_whenStateIs (h : c.HeldBy e r) : c.mappings.map (·.whenStateIs) = c.states := by
  have hrest : ∀ rest played : List Link, c.links = played ++ rest →
      (rest.map Link.mapping ++ [c.last]).map (·.whenStateIs) =
        stateAfter played :: rest.map fun l => some l.next := by
    intro rest
    induction rest with
    | nil =>
        intro played hplayed
        rw [List.append_nil] at hplayed
        simp [h.last.whenStateIs, hplayed]
    | cons l rest ih =>
        intro played hplayed
        have hnext := ih (played ++ [l]) (by simp [hplayed])
        rw [List.map_cons, List.cons_append, List.map_cons, hnext,
          (h.link played l rest hplayed).1.whenStateIs, stateAfter_concat, List.map_cons]
  exact hrest c.links [] rfl

theorem HeldBy.eq_of_whenStateIs (h : c.HeldBy e r) {m d : Mapping} (hm : m ∈ c.mappings)
    (hd : d ∈ c.mappings) (heq : d.whenStateIs = m.whenStateIs) : d = m := by
  apply List.inj_on_of_nodup_map (f := fun m : Mapping => m.whenStateIs) _ hd hm heq
  rw [h.map_whenStateIs]
  exact c.nodup_states

theorem HeldBy.plays (h : c.HeldBy e r) {m : Mapping} (hm : m ∈ c.mappings) :
    ∃ state next response, c.Plays r m state next response := by
  rw [mappings, List.mem_append, List.mem_singleton, List.mem_map] at hm
  rcases hm with ⟨l, hl, rfl⟩ | rfl
  · obtain ⟨played, rest, hlinks⟩ := List.append_of_mem hl
    exact ⟨_, _, _, (h.link played l rest hlinks).1⟩
  · exact ⟨_, _, _, h.last⟩

theorem Plays.step? {m : Mapping} {state next : Option String} {response : Response.Definition}
    (h : c.Plays r m state next response) :
    m.step? = some (c.step m state next) := by
  rw [Mapping.step?, h.scenario, ← h.whenStateIs, ← h.setStateTo]
  rfl

theorem Plays.isMatch_iff {m : Mapping} {state next : Option String}
    {response : Response.Definition} (h : c.Plays r m state next response) (s : ScenarioStore) :
    (m.score r s : MatchResult Score).isMatch = true ↔
      (s.row c.scenario).nextState = state := by
  rw [Mapping.isMatch_of_isPerfect h.step? h.perfect, ScenarioStore.allows, Scenario.allows,
    beq_iff_eq]
  rfl

theorem At.resolve (hc : c.HeldBy start r) {played rest : List Link} {waited : Nat}
    (hat : c.At start e played rest waited) {m : Mapping} {next : Option String}
    {response : Response.Definition} (hm : m ∈ c.mappings)
    (hplays : c.Plays r m (stateAfter played) next response) :
    (e.resolve r).matched = some ⟨m, m.score r e.scenarios⟩ := by
  apply Registry.resolve_of_only
  · rw [hat.registry]
    exact hc.registered m hm
  · exact (hplays.isMatch_iff _).2 hat.state
  · intro d hd hmatch
    rw [hat.registry] at hd
    by_cases hmem : d ∈ c.mappings
    · obtain ⟨state, next, response, hother⟩ := hc.plays hmem
      apply hc.eq_of_whenStateIs hm hmem
      rw [hother.whenStateIs, hplays.whenStateIs, ← (hother.isMatch_iff _).1 hmatch, hat.state]
    · have hvisits : c.Visits start.scenarios e.scenarios :=
        ⟨hat.others, hat.state ▸ stateAfter_mem_states hat.links⟩
      rw [hc.others d hd hmem _ hvisits] at hmatch
      exact absurd hmatch Bool.false_ne_true

/-- The count of a link, from the field that may be left out. -/
theorem all_le_iff {times : Option Nat} {n k : Nat} (h : times.getD 1 = n) :
    times.all (· ≤ k + 1) = true ↔ n ≤ k + 1 := by
  subst h
  cases times with
  | none => simp
  | some t => simp

theorem At.advance {played rest played' rest' : List Link} {waited waited' : Nat} {next : Engine}
    {step : ScenarioStep} (hat : c.At start e played rest waited)
    (hscenario : step.scenario = c.scenario) (hregistry : next.registry = e.registry)
    (hscenarios : next.scenarios = (e.scenarios.advance step).2)
    (hlinks : c.links = played' ++ rest')
    (hcount : answered played' + waited' = answered played + waited + 1)
    (hstate : ((e.scenarios.row c.scenario).advance step).nextState = stateAfter played')
    (hwaits : ∀ l ∈ rest'.head?,
      ((e.scenarios.row c.scenario).advance step).timesInState = waited' ∧ waited' < l.times)
    (hfinished : ((e.scenarios.row c.scenario).advance step).finished = true ↔
      rest' = [] ∧ 0 < waited') :
    c.At start next played' rest' waited' := by
  have hrow : next.scenarios.row c.scenario = (e.scenarios.row c.scenario).advance step := by
    rw [hscenarios, ← hscenario, ScenarioStore.row_advance]
  refine ⟨hlinks, hregistry.trans hat.registry, ?_, ?_, ?_, ?_, ?_, ?_⟩
  · intro name hname
    rw [hscenarios, ScenarioStore.get?_advance, if_neg (hscenario ▸ hname.symm)]
    exact hat.others name hname
  · rw [hrow, hstate]
  · rw [hrow, Scenario.advance_counter, hat.counter, hcount]
  · rw [hrow]
    exact hwaits
  · rw [hrow, hfinished]
  · rw [hscenarios, ScenarioStore.get?_advance, if_pos hscenario]
    simp [hcount]

/-- One request after all links have played. -/
theorem At.handle_ending (hc : c.HeldBy start r) {played : List Link} {waited : Nat}
    (hat : c.At start e played [] waited) (w : World) (backend : Outbound → Reply) :
    (e.handle w backend r).response = c.answer (answered played + waited) ∧
      c.At start (e.handle w backend r).engine played [] (waited + 1) := by
  have hplayed : c.links = played := by simpa using hat.links
  have hplays : c.Plays r c.last (stateAfter played) none c.ending := hplayed ▸ hc.last
  have hresolve := hat.resolve hc (by simp [mappings]) hplays
  obtain ⟨hresponse, hregistry, hscenarios⟩ :=
    Engine.handle_of_fixed hresolve hplays.provider hplays.step? w backend
  have hfits : (e.scenarios.row c.scenario).allows (c.step c.last (stateAfter played) none) = true :=
    beq_iff_eq.2 hat.state
  have hrow := Scenario.advance_of_ends hfits rfl
  constructor
  · rw [hresponse, ← hplayed, answer_of_ending]
  · refine hat.advance rfl hregistry hscenarios hat.links (by omega) ?_ (by simp) ?_
    · rw [hrow]
      exact hat.state
    · rw [hrow]
      simp

/-- One request while a link plays: it moves the scenario on with its last answer and not before. -/
theorem At.handle_link (hc : c.HeldBy start r) {played rest : List Link} {l : Link} {waited : Nat}
    (hat : c.At start e played (l :: rest) waited) (w : World) (backend : Outbound → Reply) :
    (e.handle w backend r).response = c.answer (answered played + waited) ∧
      if waited + 1 < l.times then
        c.At start (e.handle w backend r).engine played (l :: rest) (waited + 1)
      else c.At start (e.handle w backend r).engine (played ++ [l]) rest 0 := by
  obtain ⟨hplays, htimes⟩ := hc.link played l rest hat.links
  obtain ⟨hwaited, hlt⟩ := hat.waits l (by simp)
  have hresolve := hat.resolve hc (by simp [mappings, hat.links]) hplays
  obtain ⟨hresponse, hregistry, hscenarios⟩ :=
    Engine.handle_of_fixed hresolve hplays.provider hplays.step? w backend
  have hfits : (e.scenarios.row c.scenario).allows
      (c.step l.mapping (stateAfter played) (some l.next)) = true :=
    beq_iff_eq.2 hat.state
  have hdue : l.mapping.timesInSameState.all
      (· ≤ (e.scenarios.row c.scenario).timesInState + 1) = true ↔ l.times ≤ waited + 1 := by
    rw [all_le_iff htimes, hwaited]
  have hunfinished : (e.scenarios.row c.scenario).finished ≠ true := by
    rw [Ne, hat.finished]
    simp
  constructor
  · rw [hresponse, answer_of_link hat.links hlt]
  · split
    · rename_i hmore
      have hrow := Scenario.advance_of_waits hfits rfl
        (by rw [← Bool.not_eq_true]; exact fun h => absurd (hdue.1 h) (by omega))
      refine hat.advance rfl hregistry hscenarios hat.links (by omega) ?_ ?_ ?_
      · rw [hrow]
        exact hat.state
      · intro l' hl'
        obtain rfl : l = l' := by simpa using hl'
        rw [hrow]
        exact ⟨by rw [hwaited], hmore⟩
      · rw [hrow]
        simp [hunfinished]
    · have hrow := Scenario.advance_of_due hfits rfl (hdue.2 (by omega))
      refine hat.advance rfl hregistry hscenarios (by simp [hat.links]) ?_ ?_ ?_ ?_
      · simp only [answered_append, answered_cons, answered_nil]
        omega
      · rw [hrow, stateAfter_concat]
      · intro l' _
        rw [hrow]
        exact ⟨rfl, l'.times_pos⟩
      · rw [hrow]
        simp [hunfinished]

/-- One request: the chain gives its next answer and moves on by one. -/
theorem At.handle (hc : c.HeldBy start r) {played rest : List Link} {waited : Nat}
    (hat : c.At start e played rest waited) (w : World) (backend : Outbound → Reply) :
    (e.handle w backend r).response = c.answer (answered played + waited) ∧
      ∃ played' rest' waited', answered played' + waited' = answered played + waited + 1 ∧
        c.At start (e.handle w backend r).engine played' rest' waited' := by
  cases rest with
  | nil =>
      obtain ⟨hresponse, hnext⟩ := hat.handle_ending hc w backend
      exact ⟨hresponse, played, [], waited + 1, by omega, hnext⟩
  | cons l rest =>
      obtain ⟨hresponse, hnext⟩ := hat.handle_link hc w backend
      obtain ⟨-, hlt⟩ := hat.waits l (by simp)
      refine ⟨hresponse, ?_⟩
      split at hnext
      · exact ⟨played, l :: rest, waited + 1, by omega, hnext⟩
      · refine ⟨played ++ [l], rest, 0, ?_, hnext⟩
        simp only [answered_append, answered_cons, answered_nil]
        omega

/-- Any number of requests from any point on. -/
theorem At.handleEach (hc : c.HeldBy start r) {played rest : List Link} {waited : Nat}
    (hat : c.At start e played rest waited) (moments : List Engine.Moment) :
    (e.handleEach r moments).1 =
        (List.range' (answered played + waited) moments.length).map c.answer ∧
      ∃ played' rest' waited',
        answered played' + waited' = answered played + waited + moments.length ∧
        c.At start (e.handleEach r moments).2 played' rest' waited' := by
  -- `At` is kept by each request, wherever in the chain it finds the engine
  induction moments generalizing e played rest waited with
  | nil => exact ⟨rfl, played, rest, waited, rfl, hat⟩
  | cons now later ih =>
      obtain ⟨hresponse, played₁, rest₁, waited₁, hcount₁, hnext⟩ :=
        hat.handle hc now.world now.backend
      obtain ⟨hresponses, played', rest', waited', hcount, hlast⟩ := ih hnext
      rw [Engine.handleEach_cons]
      refine ⟨?_, played', rest', waited', ?_, hlast⟩
      · rw [hresponse, hresponses, hcount₁, List.length_cons, List.range'_succ, List.map_cons]
      · rw [hcount, hcount₁, List.length_cons]
        omega

theorem HeldBy.at_start (hc : c.HeldBy e r) : c.At e e [] c.links 0 := by
  have hrow : e.scenarios.row c.scenario = .fresh c.scenario := by
    rw [ScenarioStore.row, hc.unused]
    rfl
  refine ⟨rfl, rfl, fun _ _ => rfl, ?_, ?_, ?_, ?_, ?_⟩
  · rw [hrow]
    rfl
  · rw [hrow]
    rfl
  · intro l _
    rw [hrow]
    exact ⟨rfl, l.times_pos⟩
  · rw [hrow]
    simp [Scenario.fresh]
  · simp [hc.unused]

/-- The count of answers tells whether all links have played and the last mapping has answered. -/
theorem At.finished_iff {played rest : List Link} {waited : Nat}
    (hat : c.At start e played rest waited) :
    (e.scenarios.row c.scenario).finished = true ↔ answered c.links < answered played + waited := by
  rw [hat.finished, hat.links]
  cases rest with
  | nil => simp
  | cons l rest =>
      obtain ⟨-, hlt⟩ := hat.waits l (by simp)
      simp only [answered_append, answered_cons, List.cons_ne_nil, false_and, false_iff]
      omega

/-- A chain that nothing disturbs answers by its script, and its scenario counts the answers. -/
theorem handleEach_of_heldBy (hc : c.HeldBy e r) (moments : List Engine.Moment) :
    (e.handleEach r moments).1 = (List.range moments.length).map c.answer ∧
      ((e.handleEach r moments).2.scenarios.row c.scenario).counter = moments.length ∧
      (((e.handleEach r moments).2.scenarios.row c.scenario).finished = true ↔
        answered c.links < moments.length) ∧
      ((e.handleEach r moments).2.scenarios.get? c.scenario = none ↔ moments = []) := by
  obtain ⟨hresponses, played, rest, waited, hcount, hat⟩ := hc.at_start.handleEach hc moments
  have hcount' : answered played + waited = moments.length := by
    simpa using hcount
  refine ⟨?_, ?_, ?_, ?_⟩
  · rw [hresponses, List.range_eq_range']
    rfl
  · rw [hat.counter, hcount']
  · rw [hat.finished_iff, hcount']
  · rw [hat.used, hcount', List.length_eq_zero_iff]

def samplePart (method : String) (state next : Option String) (times : Option Nat) (status : Nat) :
    Mapping :=
  { guid := ⟨BitVec.ofNat 128 status⟩, title := none, description := none, priority := 0
    dimensions := [.methods [method]], provider := .fixed (.ofStatus status)
    scenario := some "order", whenStateIs := state, setStateTo := next, timesInSameState := times
    origin := .configured, updatedAt := default }

def sample : Chain :=
  { scenario := "order"
    links :=
      [{ mapping := samplePart "GET" none (some "placed") (some 2) 201
         response := .ofStatus 201, next := "placed", times := 2, times_pos := by decide },
        { mapping := samplePart "GET" (some "placed") (some "sent") none 202
          response := .ofStatus 202, next := "sent", times := 1, times_pos := by decide }]
    last := samplePart "GET" (some "sent") none none 200
    ending := .ofStatus 200
    distinct := by decide }

def sampleEngine : Engine :=
  { Engine.bare .standard with
    registry := ⟨samplePart "POST" (some "placed") none none 500 :: sample.mappings.reverse⟩ }

def sampleRequest : Request := { (default : Request) with method := "GET" }

def sampleMoment : Engine.Moment :=
  { world := { now := default, guids := default, files := default }, backend := fun _ => .none }

theorem sample_perfect :
    (Mapping.matchDimensions sampleRequest [.methods ["GET"]] : MatchResult Score).isPerfect =
      true := by
  decide +kernel

theorem sample_heldBy : sample.HeldBy sampleEngine sampleRequest := by
  refine ⟨?_, ⟨rfl, rfl, rfl, rfl, sample_perfect⟩, ?_, rfl, ?_⟩
  · intro played l rest h
    match played, h with
    | [], h =>
        obtain ⟨rfl, -⟩ := List.cons.inj h
        exact ⟨⟨rfl, rfl, rfl, rfl, sample_perfect⟩, rfl⟩
    | [first], h =>
        obtain ⟨hfirst, hrest⟩ := List.cons.inj h
        obtain ⟨rfl, -⟩ := List.cons.inj hrest
        rw [← hfirst]
        exact ⟨⟨rfl, rfl, rfl, rfl, sample_perfect⟩, rfl⟩
    | _ :: _ :: played, h => simp [sample] at h
  · intro m hm
    exact List.mem_cons_of_mem _ (List.mem_reverse.2 hm)
  · intro m hm hother s _
    rcases List.mem_cons.1 hm with rfl | hm
    · exact Mapping.isMatch_eq_false (by decide +kernel) s
    · exact absurd (List.mem_reverse.1 hm) hother

theorem sample_answers :
    sample.HeldBy sampleEngine sampleRequest ∧
      (sampleEngine.handleEach sampleRequest (List.replicate 5 sampleMoment)).1.map (·.status) =
        [201, 201, 202, 200, 200] := by
  refine ⟨sample_heldBy, ?_⟩
  rw [(handleEach_of_heldBy sample_heldBy _).1]
  rfl

end Chain

end Understudy

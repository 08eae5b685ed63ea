import Understudy.Proofs.Form.Limits
import Understudy.Proofs.Form.Reading

/-!
# Which forms can be stored

A form whose fields hold what they can hold is stored unless one of two things stands in the way: a null where no value
is written the same way, for a single pattern or a JSON body, and a JSON value that nests too deep or has a number that
is not read back. Both do stand in the way: no form that is read has such a null, and what nests deeper is not read.
-/

namespace Understudy

open Traversal
open Json (Legible legible_array_iff legible_object_iff)

namespace Form

structure Matcher.IsFree (m : Matcher) : Prop where
  pattern : ∀ v ∈ m.pattern, v.Free
  patterns : ∀ vs ∈ m.patterns, ∀ v ∈ vs, v.Free

def Matcher.NullFree (m : Matcher) : Prop := m.pattern ≠ some .null

section

variable (p : Matcher → Prop)

def Value.All (value : Value) : Prop :=
  ∀ block, value = .matchers block → ∀ m ∈ block.matchers, p m

def Keyed.All (k : Keyed) : Prop := ∀ ms ∈ k.matchers, ∀ m ∈ ms, p m

structure Body.All (b : Body) : Prop where
  matcher : ∀ m ∈ b.matcher, p m
  matchers : ∀ ms ∈ b.matchers, ∀ m ∈ ms, p m

/-- All matchers of the request have the property. -/
structure Request.All (r : Request) : Prop where
  clientIp : ∀ value ∈ r.clientIp, value.All p
  path : ∀ value ∈ r.path, value.All p
  url : ∀ value ∈ r.url, value.All p
  headers : ∀ ks ∈ r.headers, ∀ k ∈ ks, k.All p
  cookies : ∀ ks ∈ r.cookies, ∀ k ∈ ks, k.All p
  params : ∀ ks ∈ r.params, ∀ k ∈ ks, k.All p
  body : ∀ b ∈ r.body, b.All p

end

/-- No null stands where it is taken for no value. -/
structure Mapping.NullFree (m : Mapping) : Prop where
  request : m.request.All Matcher.NullFree
  bodyAsJson : m.response.bodyAsJson ≠ some .null

/-- The numbers are within their limits, the headers in order, and a JSON body is free. -/
structure Response.Held (r : Response) : Prop where
  statusCode : ∀ n ∈ r.statusCode, n < 65536
  headers : ∀ hs ∈ r.headers, Ascending hs
  bodyAsJson : ∀ v ∈ r.bodyAsJson, v.Free
  delay : ∀ n ∈ r.delay, n ≤ 0xFFFFFFFFFFFFFFFF

/-- The fields hold numbers within their limits, free values, and a time of a clock. -/
structure Mapping.Held (m : Mapping) : Prop where
  inRange : m.InRange
  request : m.request.All Matcher.IsFree
  response : m.response.Held
  updatedAt : ∀ t ∈ m.updatedAt, t.IsClock

/-! ## What is legible part by part -/

section

variable {depth : ℕ}

theorem Matcher.storable_of_legible {m : Matcher} (hfree : m.IsFree) (hnull : m.NullFree)
    (h : Legible (depth + 2) m.toJson) : m.Storable depth := by
  rw [toJson, legible_object_iff] at h
  constructor
  · intro v hv
    have hne : v ≠ .null := by
      rintro rfl
      exact hnull hv
    exact ⟨hne, hfree.pattern v hv, h ("Pattern", v) (by simp [Json.optional, Option.mem_def.1 hv])⟩
  · intro vs hvs v hv
    have harray : Legible (depth + 1) (.array vs) :=
      h ("Patterns", .array vs) (by simp [Json.optional, Option.mem_def.1 hvs])
    exact ⟨hfree.patterns vs hvs v hv, legible_array_iff.1 harray v hv⟩

theorem storable_of_ofMatchers {ms : List Matcher} (hfree : ∀ m ∈ ms, m.IsFree)
    (hnull : ∀ m ∈ ms, m.NullFree) (h : Legible (depth + 3) (ofMatchers ms)) :
    ∀ m ∈ ms, m.Storable depth := by
  rw [ofMatchers, legible_array_iff, List.forall_mem_map] at h
  exact fun m hm => Matcher.storable_of_legible (hfree m hm) (hnull m hm) (h m hm)

theorem Value.storable_of_legible {value : Value} (hfree : value.All Matcher.IsFree)
    (hnull : value.All Matcher.NullFree) (h : Legible (depth + 4) value.toJson) :
    value.Storable depth := by
  rintro block rfl
  rw [toJson, legible_object_iff] at h
  exact storable_of_ofMatchers (hfree block rfl) (hnull block rfl)
    (h ("Matchers", ofMatchers block.matchers) (by simp))

theorem Keyed.storable_of_legible {k : Keyed} (hfree : k.All Matcher.IsFree)
    (hnull : k.All Matcher.NullFree) (h : Legible (depth + 4) k.toJson) : k.Storable depth := by
  intro ms hms
  rw [toJson, legible_object_iff] at h
  exact storable_of_ofMatchers (hfree ms hms) (hnull ms hms)
    (h ("Matchers", ofMatchers ms) (by simp [Json.optional, Option.mem_def.1 hms]))

theorem Body.storable_of_legible {b : Body} (hfree : b.All Matcher.IsFree)
    (hnull : b.All Matcher.NullFree) (h : Legible (depth + 4) b.toJson) : b.Storable depth := by
  rw [toJson, legible_object_iff] at h
  constructor
  · intro m hm
    exact Matcher.storable_of_legible (hfree.matcher m hm) (hnull.matcher m hm)
      (h ("Matcher", m.toJson) (by simp [Json.optional, Option.mem_def.1 hm]))
  · intro ms hms
    exact storable_of_ofMatchers (hfree.matchers ms hms) (hnull.matchers ms hms)
      (h ("Matchers", ofMatchers ms) (by simp [Json.optional, Option.mem_def.1 hms]))

/-- A list of named matchers nests one level deeper than the other parts of a request. -/
theorem storable_of_keyed {ks : List Keyed} (hfree : ∀ k ∈ ks, k.All Matcher.IsFree)
    (hnull : ∀ k ∈ ks, k.All Matcher.NullFree)
    (h : Legible (depth + 5) (.array (ks.map Keyed.toJson))) : ∀ k ∈ ks, k.Storable depth := by
  rw [legible_array_iff, List.forall_mem_map] at h
  exact fun k hk => Keyed.storable_of_legible (hfree k hk) (hnull k hk) (h k hk)

theorem Request.storable_of_legible {r : Request} (hfree : r.All Matcher.IsFree)
    (hnull : r.All Matcher.NullFree) (h : Legible (depth + 6) r.toJson) : r.Storable depth := by
  rw [toJson, legible_object_iff] at h
  constructor
  case clientIp =>
    intro value hv
    exact Value.storable_of_legible (hfree.clientIp value hv) (hnull.clientIp value hv)
      (h ("ClientIP", value.toJson) (by simp [Json.optional, Option.mem_def.1 hv]))
  case path =>
    intro value hv
    exact Value.storable_of_legible (hfree.path value hv) (hnull.path value hv)
      (h ("Path", value.toJson) (by simp [Json.optional, Option.mem_def.1 hv]))
  case url =>
    intro value hv
    exact Value.storable_of_legible (hfree.url value hv) (hnull.url value hv)
      (h ("Url", value.toJson) (by simp [Json.optional, Option.mem_def.1 hv]))
  case headers =>
    intro ks hks
    exact storable_of_keyed (hfree.headers ks hks) (hnull.headers ks hks)
      (h ("Headers", .array (ks.map Keyed.toJson)) (by simp [Json.optional, Option.mem_def.1 hks]))
  case cookies =>
    intro ks hks
    exact storable_of_keyed (hfree.cookies ks hks) (hnull.cookies ks hks)
      (h ("Cookies", .array (ks.map Keyed.toJson)) (by simp [Json.optional, Option.mem_def.1 hks]))
  case params =>
    intro ks hks
    exact storable_of_keyed (hfree.params ks hks) (hnull.params ks hks)
      (h ("Params", .array (ks.map Keyed.toJson)) (by simp [Json.optional, Option.mem_def.1 hks]))
  case body =>
    intro b hb
    exact Body.storable_of_legible (hfree.body b hb) (hnull.body b hb)
      (h ("Body", b.toJson) (by simp [Json.optional, Option.mem_def.1 hb]))

theorem Mapping.storable_of_legible {m : Mapping} (hheld : m.Held) (hnull : m.NullFree)
    (h : Legible Json.maxDepth m.toJson) : m.Storable := by
  rw [Json.maxDepth, toJson, legible_object_iff] at h
  have hresponse : Legible 126 m.response.toJson := h ("Response", m.response.toJson) (by simp)
  rw [Response.toJson, legible_object_iff] at hresponse
  refine ⟨hheld.inRange.priority, hheld.inRange.timesInSameState, ?_, ?_, hheld.updatedAt⟩
  · exact Request.storable_of_legible hheld.request hnull.request
      (h ("Request", m.request.toJson) (by simp))
  · obtain ⟨hstatus, hheaders, hbody, hdelay⟩ := hheld.response
    refine ⟨hstatus, hheaders, fun v hv => ⟨?_, hbody v hv, ?_⟩, hdelay⟩
    · rintro rfl
      exact hnull.bodyAsJson hv
    · exact hresponse ("BodyAsJson", v) (by simp [Json.optional, Option.mem_def.1 hv])

end

end Form

/-! ## What is read has no such null -/

namespace Reader

theorem optional_json_ne_null {depth : ℕ} {v : Json.Written} {o : Option Json}
    (h : optional json depth v = .ok o) : o ≠ some .null := by
  rintro rfl
  unfold optional at h
  split at h
  · exact absurd (pure_eq_ok.1 h) (by simp)
  · rename_i hnull
    obtain ⟨x, hx, hsome⟩ := map_eq_ok.1 h
    obtain rfl := Option.some.inj hsome
    have hread : v.toJson? depth = some .null := ofOption_eq_ok.1 hx
    -- only null stands for null
    cases v with
    | null => exact hnull rfl
    | number n => cases n <;> exact absurd hread (by simp [Json.Written.toJson?])
    | array vs => cases depth <;> exact absurd hread (by simp [Json.Written.toJson?])
    | object ms => cases depth <;> exact absurd hread (by simp [Json.Written.toJson?, Json.ofMembers])
    | _ => exact absurd hread (by simp [Json.Written.toJson?])

variable {τ α : Type}

theorem list_eq_ok [Tree τ] {read : Reader τ α} {depth : ℕ} {v : τ} {as : List α}
    (h : list read depth v = .ok as) : ∀ a ∈ as, ∃ depth v, read depth v = .ok a := by
  cases depth with
  | zero => exact absurd h throw_ne_ok
  | succ depth =>
      obtain ⟨items, -, hitems⟩ := bind_eq_ok.1 h
      intro a ha
      obtain ⟨item, -, hitem⟩ := exists_of_mapM_eq_ok hitems ha
      exact ⟨depth, item, hitem⟩

theorem either_eq_ok {first second : Reader τ α} {depth : ℕ} {v : τ} {a : α}
    (h : either first second depth v = .ok a) :
    first depth v = .ok a ∨ second depth v = .ok a := by
  unfold either at h
  split at h
  · rename_i b hfirst
    rw [pure_eq_ok.1 h] at hfirst
    exact Or.inl hfirst
  · split at h
    · rename_i b hsecond
      rw [pure_eq_ok.1 h] at hsecond
      exact Or.inr hsecond
    · exact absurd h throw_ne_ok

end Reader

namespace Form

open Reader

variable {depth : ℕ} {v : Json.Written}

theorem Matcher.nullFree_of_read {m : Matcher} (h : read depth v = .ok m) : m.NullFree := by
  refine Field.record_keeps ?_ (p := Matcher.NullFree) (by simp [NullFree]) h
  simp only [fields, List.forall_mem_cons]
  refine ⟨Field.keeps_needed fun _ _ _ _ _ hm => hm, ?_, Field.keeps_maybe fun _ _ _ hm => hm,
    Field.keeps_maybe fun _ _ _ hm => hm, Field.keeps_maybe fun _ _ _ hm => hm,
    Field.keeps_maybe fun _ _ _ hm => hm, List.forall_mem_nil _⟩
  exact Field.keeps_defaulted fun _ _ o ho _ _ => optional_json_ne_null ho

theorem nullFree_of_list {ms : List Matcher} (h : list Matcher.read depth v = .ok ms) :
    ∀ m ∈ ms, m.NullFree := by
  intro m hm
  obtain ⟨_, _, hread⟩ := list_eq_ok h m hm
  exact Matcher.nullFree_of_read hread

theorem Value.nullFree_of_read {value : Value} (h : read depth v = .ok value) :
    value.All Matcher.NullFree := by
  rintro block rfl
  rcases either_eq_ok h with h | h
  · obtain ⟨s, -, hs⟩ := map_eq_ok.1 h
    exact absurd hs (by simp)
  · obtain ⟨b, hb, hblock⟩ := map_eq_ok.1 h
    obtain rfl := Value.matchers.inj hblock
    refine Field.record_keeps ?_ (p := fun block : Matchers => ∀ m ∈ block.matchers, m.NullFree)
      (by simp) hb
    simp only [Matchers.fields, List.forall_mem_cons]
    refine ⟨?_, Field.keeps_maybe fun _ _ _ hblock => hblock, List.forall_mem_nil _⟩
    exact Field.keeps_needed fun _ _ ms hms _ _ => nullFree_of_list hms

theorem Keyed.nullFree_of_read {k : Keyed} (h : read depth v = .ok k) :
    k.All Matcher.NullFree := by
  refine Field.record_keeps ?_ (p := Keyed.All Matcher.NullFree) (by simp [Keyed.All]) h
  simp only [fields, List.forall_mem_cons]
  refine ⟨Field.keeps_needed fun _ _ _ _ _ hk => hk, ?_, Field.keeps_maybe fun _ _ _ hk => hk,
    Field.keeps_maybe fun _ _ _ hk => hk, Field.keeps_maybe fun _ _ _ hk => hk,
    List.forall_mem_nil _⟩
  refine Field.keeps_maybe fun o ho _ _ ms hms => ?_
  obtain ⟨_, _, hread⟩ := ho ms hms
  exact nullFree_of_list hread

theorem Body.nullFree_of_read {b : Body} (h : read depth v = .ok b) :
    b.All Matcher.NullFree := by
  refine Field.record_keeps ?_ (p := Body.All Matcher.NullFree) ⟨by simp, by simp⟩ h
  simp only [fields, List.forall_mem_cons]
  refine ⟨Field.keeps_maybe fun o ho b hb => ⟨fun m hm => ?_, hb.matchers⟩,
    Field.keeps_maybe fun o ho b hb => ⟨hb.matcher, fun ms hms => ?_⟩,
    Field.keeps_maybe fun _ _ _ hb => ⟨hb.matcher, hb.matchers⟩, List.forall_mem_nil _⟩
  · obtain ⟨_, _, hread⟩ := ho m hm
    exact Matcher.nullFree_of_read hread
  · obtain ⟨_, _, hread⟩ := ho ms hms
    exact nullFree_of_list hread

theorem Request.nullFree_of_read {r : Request} (h : read depth v = .ok r) :
    r.All Matcher.NullFree := by
  refine Field.record_keeps ?_ (p := Request.All Matcher.NullFree)
    ⟨by simp [Request.empty], by simp [Request.empty], by simp [Request.empty],
      by simp [Request.empty], by simp [Request.empty], by simp [Request.empty],
      by simp [Request.empty]⟩ h
  have hvalue (o : Option Value) (ho : ∀ a ∈ o, ∃ depth v, Value.read depth (v : Json.Written) = .ok a) :
      ∀ value ∈ o, value.All Matcher.NullFree := by
    intro value hv
    obtain ⟨_, _, hread⟩ := ho value hv
    exact Value.nullFree_of_read hread
  have hkeyed (o : Option (List Keyed))
      (ho : ∀ a ∈ o, ∃ depth v, list Keyed.read depth (v : Json.Written) = .ok a) :
      ∀ ks ∈ o, ∀ k ∈ ks, k.All Matcher.NullFree := by
    intro ks hks k hk
    obtain ⟨_, _, hlist⟩ := ho ks hks
    obtain ⟨_, _, hread⟩ := list_eq_ok hlist k hk
    exact Keyed.nullFree_of_read hread
  simp only [fields, List.forall_mem_cons]
  refine ⟨Field.keeps_maybe ?_, Field.keeps_maybe ?_, Field.keeps_maybe ?_, Field.keeps_maybe ?_,
    Field.keeps_maybe ?_, Field.keeps_maybe ?_, Field.keeps_maybe ?_, Field.keeps_maybe ?_,
    List.forall_mem_nil _⟩
  case refine_1 => exact fun o ho r hr => { hr with clientIp := hvalue o ho }
  case refine_2 => exact fun o ho r hr => { hr with path := hvalue o ho }
  case refine_3 => exact fun o ho r hr => { hr with url := hvalue o ho }
  case refine_4 => exact fun o ho r hr => { hr with }
  case refine_5 => exact fun o ho r hr => { hr with headers := hkeyed o ho }
  case refine_6 => exact fun o ho r hr => { hr with cookies := hkeyed o ho }
  case refine_7 => exact fun o ho r hr => { hr with params := hkeyed o ho }
  case refine_8 =>
    refine fun o ho r hr => { hr with body := fun b hb => ?_ }
    obtain ⟨_, _, hread⟩ := ho b hb
    exact Body.nullFree_of_read hread

theorem Response.bodyAsJson_ne_null_of_read {r : Response} (h : read depth v = .ok r) :
    r.bodyAsJson ≠ some .null := by
  refine Field.record_keeps ?_ (p := fun r : Response => r.bodyAsJson ≠ some .null)
    (by simp [Response.empty]) h
  simp only [fields, List.forall_mem_cons]
  refine ⟨Field.keeps_defaulted fun _ _ _ _ _ hr => hr, Field.keeps_maybe fun _ _ _ hr => hr,
    Field.keeps_maybe fun _ _ _ hr => hr, ?_, Field.keeps_maybe fun _ _ _ hr => hr,
    Field.keeps_maybe fun _ _ _ hr => hr, Field.keeps_maybe fun _ _ _ hr => hr,
    Field.keeps_maybe fun _ _ _ hr => hr, List.forall_mem_nil _⟩
  exact Field.keeps_defaulted fun _ _ o ho _ _ => optional_json_ne_null ho

theorem Mapping.nullFree_of_read {m : Mapping} (h : read depth v = .ok m) : m.NullFree := by
  have hempty : Mapping.empty.NullFree := by
    refine ⟨?_, by simp [Mapping.empty, Response.empty]⟩
    constructor <;> simp [Mapping.empty, Request.empty]
  refine Field.record_keeps ?_ hempty h
  simp only [fields, List.forall_mem_cons]
  refine ⟨Field.keeps_maybe ?_, Field.keeps_maybe ?_, Field.keeps_maybe ?_, Field.keeps_maybe ?_,
    Field.keeps_maybe ?_, Field.keeps_maybe ?_, Field.keeps_maybe ?_, Field.keeps_maybe ?_,
    Field.keeps_defaulted ?_, Field.keeps_defaulted ?_, Field.keeps_maybe ?_, List.forall_mem_nil _⟩
  case refine_9 =>
    exact fun _ _ r hread m hm => ⟨Request.nullFree_of_read hread, hm.bodyAsJson⟩
  case refine_10 =>
    exact fun _ _ r hread m hm => ⟨hm.request, Response.bodyAsJson_ne_null_of_read hread⟩
  all_goals exact fun _ _ m hm => ⟨hm.request, hm.bodyAsJson⟩

/-- What is stored and what is not, of a form that holds what its fields can hold. -/
theorem Mapping.storable_iff {m : Mapping} (h : m.Held) :
    m.Storable ↔ m.NullFree ∧ Legible Json.maxDepth m.toJson := by
  constructor
  · intro hstorable
    have hrestores := Mapping.restores hstorable
    exact ⟨Mapping.nullFree_of_read hrestores.read_eq, hrestores.legible⟩
  · exact fun hkept => Mapping.storable_of_legible h hkept.1 hkept.2

end Form

end Understudy

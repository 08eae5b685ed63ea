import Understudy.Form.Printing
import Understudy.Form.Reading
import Understudy.Proofs.Guid
import Understudy.Proofs.Record.Reader
import Understudy.Proofs.Response.Form
import Understudy.Proofs.Time.Instant

/-!
# Written forms are read back

A form that can be stored is read back from the text of its JSON value, member by member in the order of their names.
What cannot be stored is told by `Storable`: a null for a pattern or a body, a value that nests too deep or has a number
that is not read back, and numbers beyond the limits of their fields.
-/

namespace Understudy

open Understudy.Field Understudy.Reader Traversal
open Json (Legible)

namespace Form

/-- The patterns are values that can be stored, and a single one is not null. -/
structure Matcher.Storable (depth : ℕ) (m : Matcher) : Prop where
  pattern : ∀ v ∈ m.pattern, v ≠ .null ∧ v.Free ∧ Legible (depth + 1) v
  patterns : ∀ vs ∈ m.patterns, ∀ v ∈ vs, v.Free ∧ Legible depth v

theorem Matcher.restores {depth : ℕ} {m : Matcher} (h : m.Storable depth) :
    Restores Matcher.read (depth + 2) m.toJson m := by
  have hslots : m.toJson = .object (Slots.members [("Name", some (.string m.name)),
      ("Pattern", m.pattern.map id), ("Patterns", m.patterns.map .array),
      ("IgnoreCase", m.ignoreCase.map .bool), ("RejectOnMatch", m.rejectOnMatch.map .bool),
      ("MatchOperator", m.matchOperator.map .string)]) := by
    simp only [toJson, Slots.members_some, Slots.members_map, Slots.members_nil, List.append_nil,
      List.append_assoc, List.cons_append, List.nil_append]
  rw [hslots]
  refine restores_record (by simp) ?_ (by simp [Matcher.fields, needed, maybe, defaulted])
  -- the names are known, and sorting them is a matter of computing
  simp only [Slots.sorted, Ascending.sort, List.foldl_cons, List.foldl_nil]
  refine .cons (sets_bool rfl rfl) ?_
  refine .cons (sets_string rfl rfl) ?_
  refine .cons (sets_needed rfl (restores_string _ m.name) _) ?_
  refine .cons (sets_maybe rfl (fun v hv => ?_) rfl) ?_
  · obtain ⟨hne, hfree, hlegible⟩ := h.pattern v hv
    exact restores_optional hne (restores_json hfree hlegible)
  refine .cons (sets_maybe rfl (fun vs hvs => ?_) rfl) ?_
  · exact restores_optional (by simp) (restores_array (h.patterns vs hvs))
  exact .cons (sets_bool rfl rfl) (.nil _)

theorem Matchers.restores {depth : ℕ} {block : Matchers}
    (h : ∀ m ∈ block.matchers, m.Storable depth) :
    Restores Matchers.read (depth + 4) (Value.matchers block).toJson block := by
  have hslots : (Value.matchers block).toJson = .object (Slots.members
      [("Matchers", some (ofMatchers block.matchers)),
        ("MatchOperator", block.matchOperator.map .string)]) := by
    simp only [Value.toJson, Slots.members_some, Slots.members_map, Slots.members_nil,
      List.append_nil, List.cons_append, List.nil_append]
  rw [hslots]
  refine restores_record (by simp) ?_ (by simp [Matchers.fields, needed, maybe, defaulted])
  simp only [Slots.sorted, Ascending.sort, List.foldl_cons, List.foldl_nil]
  refine .cons (sets_string rfl rfl) ?_
  have hlist := restores_list fun m hm => Matcher.restores (h m hm)
  exact .cons (sets_needed rfl hlist _) (.nil _)

theorem Value.restores {depth : ℕ} {value : Value}
    (h : ∀ block, value = .matchers block → ∀ m ∈ block.matchers, m.Storable depth) :
    Restores Value.read (depth + 4) value.toJson value := by
  cases value with
  | pattern s => exact restores_first (restores_map _ (restores_string _ s))
  | matchers block =>
      exact restores_second (by simp [toJson]) (restores_map _ (Matchers.restores (h block rfl)))

def Keyed.Storable (depth : ℕ) (k : Keyed) : Prop :=
  ∀ ms ∈ k.matchers, ∀ m ∈ ms, m.Storable depth

theorem Keyed.restores {depth : ℕ} {k : Keyed} (h : k.Storable depth) :
    Restores Keyed.read (depth + 4) k.toJson k := by
  have hslots : k.toJson = .object (Slots.members [("Name", some (.string k.name)),
      ("Matchers", k.matchers.map fun ms => .array (ms.map Matcher.toJson)),
      ("IgnoreCase", k.ignoreCase.map .bool), ("RejectOnMatch", k.rejectOnMatch.map .bool),
      ("MatchOperator", k.matchOperator.map .string)]) := by
    simp only [toJson, Slots.members_some, Slots.members_map, Slots.members_nil,
      List.append_nil, List.append_assoc, List.cons_append, List.nil_append]
    rfl
  rw [hslots]
  refine restores_record (by simp) ?_ (by simp [Keyed.fields, needed, maybe, defaulted])
  simp only [Slots.sorted, Ascending.sort, List.foldl_cons, List.foldl_nil]
  refine .cons (sets_bool rfl rfl) ?_
  refine .cons (sets_string rfl rfl) ?_
  refine .cons (sets_list rfl (fun ms hms m hm => Matcher.restores (h ms hms m hm)) rfl) ?_
  refine .cons (sets_needed rfl (restores_string _ k.name) _) ?_
  exact .cons (sets_bool rfl rfl) (.nil _)

/-- The matchers can be stored, one of them alone at one level less. -/
structure Body.Storable (depth : ℕ) (b : Body) : Prop where
  matcher : ∀ m ∈ b.matcher, m.Storable (depth + 1)
  matchers : ∀ ms ∈ b.matchers, ∀ m ∈ ms, m.Storable depth

theorem Body.restores {depth : ℕ} {b : Body} (h : b.Storable depth) :
    Restores Body.read (depth + 4) b.toJson b := by
  have hslots : b.toJson = .object (Slots.members [("Matcher", b.matcher.map Matcher.toJson),
      ("Matchers", b.matchers.map fun ms => .array (ms.map Matcher.toJson)),
      ("MatchOperator", b.matchOperator.map .string)]) := by
    simp only [toJson, Slots.members_map, Slots.members_nil, List.append_nil, List.append_assoc]
    rfl
  rw [hslots]
  refine restores_record (by simp) ?_ (by simp [Body.fields, maybe, defaulted])
  simp only [Slots.sorted, Ascending.sort, List.foldl_cons, List.foldl_nil]
  refine .cons (sets_string rfl rfl) ?_
  refine .cons (sets_maybe rfl (fun m hm => ?_) rfl) ?_
  · exact restores_optional (by simp [Matcher.toJson]) (Matcher.restores (h.matcher m hm))
  exact .cons (sets_list rfl (fun ms hms m hm => Matcher.restores (h.matchers ms hms m hm)) rfl)
    (.nil _)

def Value.Storable (depth : ℕ) (value : Value) : Prop :=
  ∀ block, value = .matchers block → ∀ m ∈ block.matchers, m.Storable depth

structure Request.Storable (depth : ℕ) (r : Request) : Prop where
  clientIp : ∀ value ∈ r.clientIp, value.Storable (depth + 1)
  path : ∀ value ∈ r.path, value.Storable (depth + 1)
  url : ∀ value ∈ r.url, value.Storable (depth + 1)
  headers : ∀ ks ∈ r.headers, ∀ k ∈ ks, k.Storable depth
  cookies : ∀ ks ∈ r.cookies, ∀ k ∈ ks, k.Storable depth
  params : ∀ ks ∈ r.params, ∀ k ∈ ks, k.Storable depth
  body : ∀ b ∈ r.body, b.Storable (depth + 1)

theorem Request.restores {depth : ℕ} {r : Request} (h : r.Storable depth) :
    Restores Request.read (depth + 6) r.toJson r := by
  have hslots : r.toJson = .object (Slots.members [("ClientIP", r.clientIp.map Value.toJson),
      ("Path", r.path.map Value.toJson), ("Url", r.url.map Value.toJson),
      ("Methods", r.methods.map fun ss => .array (ss.map .string)),
      ("Headers", r.headers.map fun ks => .array (ks.map Keyed.toJson)),
      ("Cookies", r.cookies.map fun ks => .array (ks.map Keyed.toJson)),
      ("Params", r.params.map fun ks => .array (ks.map Keyed.toJson)),
      ("Body", r.body.map Body.toJson)]) := by
    simp only [toJson, Slots.members_map, Slots.members_nil, List.append_nil, List.append_assoc]
    rfl
  have hvalue {value : Value} (h : value.Storable (depth + 1)) :
      Restores (optional Value.read) (depth + 5) value.toJson (some value) := by
    refine restores_optional ?_ (Value.restores h)
    cases value <;> simp [Value.toJson]
  rw [hslots]
  refine restores_record (by simp) ?_ (by simp [Request.fields, maybe, defaulted])
  simp only [Slots.sorted, Ascending.sort, List.foldl_cons, List.foldl_nil]
  refine .cons (sets_maybe rfl (fun b hb => ?_) rfl) ?_
  · exact restores_optional (by simp [Body.toJson]) (Body.restores (h.body b hb))
  refine .cons (sets_maybe rfl (fun value hv => hvalue (h.clientIp value hv)) rfl) ?_
  refine .cons (sets_list rfl (fun ks hks k hk => Keyed.restores (h.cookies ks hks k hk)) rfl) ?_
  refine .cons (sets_list rfl (fun ks hks k hk => Keyed.restores (h.headers ks hks k hk)) rfl) ?_
  refine .cons (sets_list rfl (fun ss _ s _ => restores_string _ s) rfl) ?_
  refine .cons (sets_list rfl (fun ks hks k hk => Keyed.restores (h.params ks hks k hk)) rfl) ?_
  refine .cons (sets_maybe rfl (fun value hv => hvalue (h.path value hv)) rfl) ?_
  exact .cons (sets_maybe rfl (fun value hv => hvalue (h.url value hv)) rfl) (.nil _)

theorem HeaderValue.restores (depth : ℕ) (value : HeaderValue) :
    Restores HeaderValue.read (depth + 1) value.toJson value := by
  cases value with
  | one s => exact restores_first (restores_map _ (restores_string _ s))
  | many ss =>
      have hlist := restores_list fun s (_ : s ∈ ss) => restores_string depth s
      exact restores_second (by simp [toJson, Json.ofStrings]) (restores_map _ hlist)

theorem Replace.restores (depth : ℕ) (r : Replace) :
    Restores Replace.read (depth + 1) r.toJson r := by
  have hslots : r.toJson = .object (Slots.members [("OldValue", some (.string r.oldValue)),
      ("NewValue", some (.string r.newValue)), ("IgnoreCase", some (.bool r.ignoreCase))]) := rfl
  rw [hslots]
  refine restores_record (by simp) ?_ (by simp [Replace.fields, needed, defaulted])
  simp only [Slots.sorted, Ascending.sort, List.foldl_cons, List.foldl_nil]
  refine .cons (sets_defaulted rfl (restores_bool _ r.ignoreCase) _) ?_
  refine .cons (sets_needed rfl (restores_string _ r.newValue) _) ?_
  exact .cons (sets_needed rfl (restores_string _ r.oldValue) _) (.nil _)

theorem restores_status {n : ℕ} (h : n < 65536) (depth : ℕ) :
    Restores readStatus depth (Json.ofNat n) (some n) := by
  refine ⟨legible_whole (by omega) (by omega) depth, ?_⟩
  have hrange : 0 ≤ (n : ℤ) ∧ (n : ℤ) < 65536 := by omega
  refine bind_eq_ok.2 ⟨.number (.whole n), rfl, ?_⟩
  simp only [if_pos hrange, Int.toNat_natCast]
  rfl

/-- The numbers are within their limits, the headers in order, and a JSON body can be stored and is not null. -/
structure Response.Storable (depth : ℕ) (r : Response) : Prop where
  statusCode : ∀ n ∈ r.statusCode, n < 65536
  headers : ∀ hs ∈ r.headers, Ascending hs
  bodyAsJson : ∀ v ∈ r.bodyAsJson, v ≠ .null ∧ v.Free ∧ Legible (depth + 2) v
  delay : ∀ n ∈ r.delay, n ≤ 0xFFFFFFFFFFFFFFFF

theorem Response.restores {depth : ℕ} {r : Response} (h : r.Storable depth) :
    Restores Response.read (depth + 3) r.toJson r := by
  have hslots : r.toJson = .object (Slots.members [("StatusCode", r.statusCode.map Json.ofNat),
      ("Headers", r.headers.map fun hs => .object (hs.map fun e => (e.1, e.2.toJson))),
      ("Body", r.body.map .string), ("BodyAsJson", r.bodyAsJson.map id),
      ("BodyAsBytes", r.bodyAsBytes.map .string), ("Delay", r.delay.map Json.ofNat),
      ("ProxyUrl", r.proxyUrl.map .string),
      ("ProxyUrlReplaceSettings", r.proxyUrlReplaceSettings.map Replace.toJson)]) := by
    simp only [toJson, Slots.members_map, Slots.members_nil, List.append_nil, List.append_assoc]
  rw [hslots]
  refine restores_record (by simp) ?_ (by simp [Response.fields, maybe, defaulted])
  simp only [Slots.sorted, Ascending.sort, List.foldl_cons, List.foldl_nil]
  refine .cons (sets_string rfl rfl) ?_
  refine .cons (sets_string rfl rfl) ?_
  refine .cons (sets_maybe rfl (fun v hv => ?_) rfl) ?_
  · obtain ⟨hne, hfree, hlegible⟩ := h.bodyAsJson v hv
    exact restores_optional hne (restores_json hfree hlegible)
  refine .cons (sets_maybe rfl (fun n hn => ?_) rfl) ?_
  · exact restores_optional (by simp [Json.ofNat]) (restores_nat (by decide) (h.delay n hn) _)
  refine .cons (sets_maybe rfl (fun hs hhs => ?_) rfl) ?_
  · have horder := h.headers hs hhs
    have htable := restores_map Ascending.sort
      (restores_table horder fun e _ => HeaderValue.restores depth e.2)
    rw [Ascending.sort_of_ascending horder] at htable
    exact restores_optional (by simp) htable
  refine .cons (sets_string rfl rfl) ?_
  refine .cons (sets_maybe rfl (fun r _ => ?_) rfl) ?_
  · exact restores_optional (by simp [Replace.toJson]) (Replace.restores (depth + 1) r)
  exact .cons (sets_maybe rfl (fun n hn => restores_status (h.statusCode n hn) _) rfl) (.nil _)

/-- The parts can be stored, the numbers are within their limits, and the time is one of a clock. -/
structure Mapping.Storable (m : Mapping) : Prop where
  priority : ∀ n ∈ m.priority, -0x80000000 ≤ n ∧ n ≤ 0x7FFFFFFF
  timesInSameState : ∀ n ∈ m.timesInSameState, n ≤ 0xFFFFFFFF
  request : m.request.Storable 120
  response : m.response.Storable 123
  updatedAt : ∀ t ∈ m.updatedAt, t.IsClock

theorem Mapping.restores {m : Mapping} (h : m.Storable) :
    Restores Mapping.read Json.maxDepth m.toJson m := by
  have hslots : m.toJson = .object (Slots.members [("Guid", m.guid.map fun g => .string g.text),
      ("Title", m.title.map .string), ("Description", m.description.map .string),
      ("Priority", m.priority.map Json.ofInt), ("Scenario", m.scenario.map .string),
      ("WhenStateIs", m.whenStateIs.map .string), ("SetStateTo", m.setStateTo.map .string),
      ("TimesInSameState", m.timesInSameState.map Json.ofNat),
      ("Request", some m.request.toJson), ("Response", some m.response.toJson),
      ("UpdatedAt", m.updatedAt.map fun t => .string t.text)]) := by
    simp only [toJson, Slots.members_some, Slots.members_map, Slots.members_nil, List.append_nil,
      List.append_assoc, List.cons_append, List.nil_append]
  rw [hslots]
  refine restores_record (by simp) ?_ (by simp [Mapping.fields, maybe, defaulted])
  simp only [Slots.sorted, Ascending.sort, List.foldl_cons, List.foldl_nil]
  refine .cons (sets_string rfl rfl) ?_
  refine .cons (sets_maybe rfl (fun g _ => ?_) rfl) ?_
  · exact restores_optional (by simp) (restores_parsed g.parse?_text _)
  refine .cons (sets_maybe rfl (fun n hn => ?_) rfl) ?_
  · obtain ⟨hlow, hhigh⟩ := h.priority n hn
    exact restores_optional (by simp [Json.ofInt]) (restores_int (by decide) hlow hhigh _)
  refine .cons (sets_defaulted rfl (Request.restores h.request) _) ?_
  refine .cons (sets_defaulted rfl (Response.restores h.response) _) ?_
  refine .cons (sets_string rfl rfl) ?_
  refine .cons (sets_string rfl rfl) ?_
  refine .cons (sets_maybe rfl (fun n hn => ?_) rfl) ?_
  · exact restores_optional (by simp [Json.ofNat])
      (restores_nat (by decide) (h.timesInSameState n hn) _)
  refine .cons (sets_string rfl rfl) ?_
  refine .cons (sets_maybe rfl (fun t ht => ?_) rfl) ?_
  · exact restores_optional (by simp) (restores_parsed (Instant.parse?_text (h.updatedAt t ht)) _)
  exact .cons (sets_string rfl rfl) (.nil _)

/-- A form that can be stored is read back from its text. -/
theorem readMappings_pretty {m : Mapping} (h : m.Storable) :
    readMappings m.toJson.pretty = .ok [m] := by
  have hrestores := Mapping.restores h
  have hread : Mapping.ofJson m.toJson.sorted = .ok m := by
    rw [Mapping.ofJson, hrestores.read_eq]
    rfl
  rw [readMappings, Json.parse?_pretty hrestores.legible]
  rw [Mapping.toJson, Json.sorted, Json.ofMembers] at hread ⊢
  simp only
  exact bind_eq_ok.2 ⟨m, hread, rfl⟩

end Form

end Understudy

import Understudy.Matcher.Compile
import Understudy.Proofs.Bytes.Base64
import Understudy.Proofs.Error.Traversal
import Understudy.Proofs.Net.AddressText

/-!
# Matchers that are written and compiled again

`Kind.Compiled` collects what compiling has checked, and from it alone `compile_patterns` tells what becomes of a kind
when its patterns are compiled again: `Kind.rewritten`. Most kinds come back as they are. A JSON text that
itself reads as JSON comes back as what it says, and a bound that is no finite number comes back open.
-/

namespace Understudy

open Traversal

namespace NumericRange

/-- The range as it is read again: a bound that is no finite number leaves its side open. -/
def rewritten (r : NumericRange) : NumericRange :=
  { min := r.min.filter (·.isFinite), max := r.max.filter (·.isFinite) }

def IsOrdered (r : NumericRange) : Prop := ∀ a ∈ r.min, ∀ b ∈ r.max, b.lt a = false

theorem memberBound_ofOption {members : List (String × Json)} {name : String}
    {bound : Option Binary64}
    (h : Json.member? members name = some (Json.ofOption Json.ofBinary64 bound)) :
    memberBound members name = .ok (bound.filter (·.isFinite)) := by
  rw [memberBound, h]
  cases bound with
  | none => rfl
  | some x =>
      cases hx : x.isFinite with
      | false =>
          rw [Option.filter_some_neg (by simp [hx])]
          simp [Json.ofOption, Json.ofBinary64, hx, pure, Except.pure]
      | true =>
          rw [Option.filter_some_pos (by simp [hx])]
          simp [Json.ofOption, Json.ofBinary64, hx, pure, Except.pure, Json.Number.toBinary64]

def checked (range : NumericRange) : Except PatternFault NumericRange :=
  match range.min, range.max with
  | some a, some b => if b.lt a then throw .emptyRange else pure range
  | _, _ => pure range

theorem isOrdered_of_checked {range r : NumericRange} (h : range.checked = .ok r) :
    r.IsOrdered := by
  unfold checked at h
  split at h
  · rename_i a b ha hb
    split at h
    · exact absurd h throw_ne_ok
    · rename_i hlt
      obtain rfl := pure_eq_ok.1 h
      intro a' ha' b' hb'
      rw [ha] at ha'
      rw [hb] at hb'
      cases ha'
      cases hb'
      simpa using hlt
  · rename_i hopen
    obtain rfl := pure_eq_ok.1 h
    intro a ha b hb
    exact absurd hb (hopen a b ha)

theorem isOrdered_of_ofPattern {p : Json} {r : NumericRange} (h : ofPattern p = .ok r) :
    r.IsOrdered := by
  unfold ofPattern at h
  simp only at h
  split at h
  · simp only [bind_eq_ok, pure_eq_ok] at h
    obtain ⟨min, -, max, -, range, rfl, hcheck⟩ := h
    exact isOrdered_of_checked hcheck
  · split at h
    · simp only [bind_eq_ok, pure_eq_ok] at h
      obtain ⟨min, -, max, -, range, rfl, hcheck⟩ := h
      exact isOrdered_of_checked hcheck
    · obtain ⟨range, hrange, -⟩ := bind_eq_ok.1 h
      exact absurd hrange throw_ne_ok
  · obtain ⟨range, hrange, -⟩ := bind_eq_ok.1 h
    exact absurd hrange throw_ne_ok

/-- What a range is written as reads as the range without infinite bounds. -/
theorem ofPattern_toJson {r : NumericRange} (h : r.IsOrdered) :
    ofPattern r.toJson = .ok r.rewritten := by
  have hmin : memberBound
      [("Max", .ofOption .ofBinary64 r.max), ("Min", .ofOption .ofBinary64 r.min)] "Min" =
        .ok r.rewritten.min := memberBound_ofOption rfl
  have hmax : memberBound
      [("Max", .ofOption .ofBinary64 r.max), ("Min", .ofOption .ofBinary64 r.min)] "Max" =
        .ok r.rewritten.max := memberBound_ofOption rfl
  have hchecked : r.rewritten.checked = .ok r.rewritten := by
    unfold checked
    split
    · rename_i a b ha hb
      have hlt := h a (Option.mem_filter_iff.1 ha).1 b (Option.mem_filter_iff.1 hb).1
      rw [if_neg (by simp [hlt])]
      rfl
    · rfl
  unfold ofPattern toJson
  simp only
  rw [hmin, hmax]
  exact hchecked

end NumericRange

namespace Matcher

/-- The expected value as it is read again: a text that reads as JSON stands for what it says. -/
def reread : Json → Json
  | .string s => (Json.parse? s).getD (.string s)
  | v => v

theorem jsonPattern_single (name : String) (v : Json) : jsonPattern name [v] = .ok (reread v) := by
  cases v <;> rfl

namespace Kind

def rewritten : Kind → Kind
  | .json v => .json (reread v)
  | .jsonPartial v => .jsonPartial (reread v)
  | .numericRange r => .numericRange r.rewritten
  | kind => kind

def Compiled (ignoreCase : Bool) : Kind → Prop
  | .exact values => values ≠ [] ∧ ∀ v ∈ values, Exact.ofText v.value = v
  | .wildcard ps => ps ≠ [] ∧ ∀ p ∈ ps, Pattern.ofWildcard p.source ignoreCase = some p
  | .regex ps => ps ≠ [] ∧ ∀ p ∈ ps, Pattern.ofRegex p.source ignoreCase = some p
  | .jsonPath qs => qs ≠ [] ∧ ∀ q ∈ qs, Query.ofText? q.source = some q
  | .xPath es => es ≠ [] ∧ es.any Text.isAllBlank = false
  | .numericRange r => r.IsOrdered
  | .network ns => ns ≠ [] ∧ ∀ n ∈ ns, n.length ≤ Network.width n.address
  | _ => True

end Kind

theorem textPatterns_ne_nil {name : String} {patterns : List Json} {texts : List String}
    (h : textPatterns name patterns = .ok texts) : texts ≠ [] := by
  unfold textPatterns at h
  split at h
  · exact absurd h (by simp [throw, throwThe, MonadExceptOf.throw])
  · rename_i hne
    exact ne_nil_of_mapM_eq_ok h (by simpa using hne)

theorem textPatterns_strings {α : Type} {name : String} {write : α → String} {as : List α}
    (hne : as ≠ []) :
    textPatterns name (as.map fun a => .string (write a)) = .ok (as.map write) := by
  rw [textPatterns, if_neg (by simpa using hne)]
  exact mapM_map_eq_ok fun _ _ => rfl

theorem map_map_eq_self {α β : Type} {write : α → β} {read : β → α} {as : List α}
    (h : ∀ a ∈ as, read (write a) = a) : (as.map write).map read = as := by
  calc (as.map write).map read = as.map fun a => read (write a) := List.map_map
    _ = as.map id := List.map_congr_left h
    _ = as := List.map_id as

/-- What was read from texts and keeps its text reads from this text again. -/
theorem read_of_readAll {α : Type} {name : String} {read? : String → Option α} {write : α → String}
    {texts : List String} {as : List α} (hwrite : ∀ {s a}, read? s = some a → write a = s)
    (h : readAll name read? texts = .ok as) : ∀ a ∈ as, read? (write a) = some a := by
  intro a ha
  obtain ⟨s, -, hs⟩ := exists_of_mapM_eq_ok h ha
  have hread : read? s = some a := by
    cases hread : read? s with
    | none => exact absurd hs (by simp [hread, throw, throwThe, MonadExceptOf.throw])
    | some b =>
        rw [hread] at hs
        rw [pure_eq_ok.1 hs]
  rw [hwrite hread, hread]

theorem readAll_map {α : Type} {name : String} {read? : String → Option α} {write : α → String}
    {as : List α} (h : ∀ a ∈ as, read? (write a) = some a) :
    readAll name read? (as.map write) = .ok as := by
  rw [readAll, mapM_eq_ok, List.forall₂_map_left_iff, List.forall₂_same]
  intro a ha
  rw [h a ha]
  rfl

theorem source_of_build {source expression : String} {ignoreCase : Bool} {p : Pattern}
    (h : Pattern.build source expression ignoreCase = some p) : p.source = source := by
  obtain ⟨regex, -, rfl⟩ := Option.map_eq_some_iff.1 h
  rfl

theorem source_of_ofWildcard {source : String} {ignoreCase : Bool} {p : Pattern}
    (h : Pattern.ofWildcard source ignoreCase = some p) : p.source = source := source_of_build h

theorem source_of_ofRegex {source : String} {ignoreCase : Bool} {p : Pattern}
    (h : Pattern.ofRegex source ignoreCase = some p) : p.source = source := source_of_build h

theorem wildcard_eq_ok {s : String} {m : Matcher} : wildcard s = .ok m ↔
    ∃ p, Pattern.ofWildcard s false = some p ∧ ofKind (.wildcard [p]) = m := by
  unfold wildcard
  cases Pattern.ofWildcard s false with
  | none => exact iff_of_false throw_ne_ok (by simp)
  | some p => simp [pure, Except.pure]

theorem source_of_ofText? {source : String} {q : Query} (h : Query.ofText? source = some q) :
    q.source = source := by
  obtain ⟨path, -, rfl⟩ := Option.map_eq_some_iff.1 h
  rfl

namespace Kind

theorem compiled_of_compile {name : String} {patterns : List Json} {ignoreCase : Bool}
    {kind : Kind} (h : compile name patterns ignoreCase = .ok kind) :
    kind.Compiled ignoreCase ∧ kind.name = name := by
  unfold compile at h
  split at h
  · -- texts that are equal
    obtain ⟨texts, htexts, h⟩ := bind_eq_ok.1 h
    obtain rfl := pure_eq_ok.1 h
    refine ⟨⟨by simpa using textPatterns_ne_nil htexts, ?_⟩, rfl⟩
    intro v hv
    obtain ⟨s, -, rfl⟩ := List.mem_map.1 hv
    rfl
  · -- wildcards
    obtain ⟨texts, htexts, h⟩ := bind_eq_ok.1 h
    obtain ⟨ps, hps, h⟩ := bind_eq_ok.1 h
    obtain rfl := pure_eq_ok.1 h
    exact ⟨⟨ne_nil_of_mapM_eq_ok hps (textPatterns_ne_nil htexts),
      read_of_readAll source_of_ofWildcard hps⟩, rfl⟩
  · -- regular expressions
    obtain ⟨texts, htexts, h⟩ := bind_eq_ok.1 h
    obtain ⟨ps, hps, h⟩ := bind_eq_ok.1 h
    obtain rfl := pure_eq_ok.1 h
    exact ⟨⟨ne_nil_of_mapM_eq_ok hps (textPatterns_ne_nil htexts),
      read_of_readAll source_of_ofRegex hps⟩, rfl⟩
  · -- JSON paths
    obtain ⟨texts, htexts, h⟩ := bind_eq_ok.1 h
    obtain ⟨qs, hqs, h⟩ := bind_eq_ok.1 h
    obtain rfl := pure_eq_ok.1 h
    exact ⟨⟨ne_nil_of_mapM_eq_ok hqs (textPatterns_ne_nil htexts),
      read_of_readAll source_of_ofText? hqs⟩, rfl⟩
  · -- a JSON value
    obtain ⟨v, -, h⟩ := bind_eq_ok.1 h
    obtain rfl := pure_eq_ok.1 h
    exact ⟨trivial, rfl⟩
  · -- a part of a JSON value
    obtain ⟨v, -, h⟩ := bind_eq_ok.1 h
    obtain rfl := pure_eq_ok.1 h
    exact ⟨trivial, rfl⟩
  · -- XPath expressions
    obtain ⟨texts, htexts, h⟩ := bind_eq_ok.1 h
    split at h
    · exact absurd h throw_ne_ok
    · rename_i hblank
      obtain rfl := pure_eq_ok.1 h
      exact ⟨⟨textPatterns_ne_nil htexts, by simpa using hblank⟩, rfl⟩
  · -- bytes
    obtain ⟨texts, htexts, h⟩ := bind_eq_ok.1 h
    split at h
    · split at h
      · obtain rfl := pure_eq_ok.1 h
        exact ⟨trivial, rfl⟩
      · exact absurd h throw_ne_ok
    · exact absurd h throw_ne_ok
  · -- a range
    split at h
    · split at h
      · rename_i r hr
        obtain rfl := pure_eq_ok.1 h
        exact ⟨NumericRange.isOrdered_of_ofPattern hr, rfl⟩
      · exact absurd h throw_ne_ok
    · exact absurd h throw_ne_ok
  · -- networks
    obtain ⟨texts, htexts, h⟩ := bind_eq_ok.1 h
    obtain ⟨ns, hns, h⟩ := bind_eq_ok.1 h
    obtain rfl := pure_eq_ok.1 h
    refine ⟨⟨ne_nil_of_mapM_eq_ok hns (textPatterns_ne_nil htexts), ?_⟩, rfl⟩
    intro n hn
    obtain ⟨s, -, hs⟩ := exists_of_mapM_eq_ok hns hn
    exact Network.length_le_of_parse (mapError_eq_ok.1 hs)
  · -- anything but nothing
    obtain rfl := pure_eq_ok.1 h
    exact ⟨trivial, rfl⟩
  · -- any other name
    exact absurd h throw_ne_ok

/-- The patterns of a compiled kind compile to the rewritten kind. -/
theorem compile_patterns {kind : Kind} {ignoreCase : Bool} (h : kind.Compiled ignoreCase) :
    compile kind.name kind.patterns ignoreCase = .ok kind.rewritten := by
  cases kind with
  | exact values =>
      simp only [compile, Kind.name, Kind.patterns]
      refine bind_eq_ok.2 ⟨_, textPatterns_strings h.1, ?_⟩
      rw [map_map_eq_self h.2]
      rfl
  | wildcard ps | regex ps =>
      simp only [compile, Kind.name, Kind.patterns]
      refine bind_eq_ok.2 ⟨_, textPatterns_strings h.1, ?_⟩
      exact bind_eq_ok.2 ⟨_, readAll_map h.2, rfl⟩
  | jsonPath qs =>
      simp only [compile, Kind.name, Kind.patterns]
      refine bind_eq_ok.2 ⟨_, textPatterns_strings h.1, ?_⟩
      exact bind_eq_ok.2 ⟨_, readAll_map h.2, rfl⟩
  | json v =>
      simp only [compile, Kind.name, Kind.patterns]
      exact bind_eq_ok.2 ⟨_, jsonPattern_single _ v, rfl⟩
  | jsonPartial v =>
      simp only [compile, Kind.name, Kind.patterns]
      exact bind_eq_ok.2 ⟨_, jsonPattern_single _ v, rfl⟩
  | xPath es =>
      simp only [compile, Kind.name, Kind.patterns]
      refine bind_eq_ok.2 ⟨_, textPatterns_strings h.1, ?_⟩
      rw [List.map_id', if_neg (by simp [h.2])]
      rfl
  | exactBytes b =>
      simp only [compile, Kind.name, Kind.patterns]
      refine bind_eq_ok.2 ⟨_, textPatterns_strings (List.cons_ne_nil b []), ?_⟩
      simp only [List.map_cons, List.map_nil, Base64.decode?_encode]
      rfl
  | numericRange r =>
      simp only [compile, Kind.name, Kind.patterns]
      rw [NumericRange.ofPattern_toJson h]
      rfl
  | network ns =>
      simp only [compile, Kind.name, Kind.patterns]
      refine bind_eq_ok.2 ⟨_, textPatterns_strings h.1, ?_⟩
      have hread : (ns.map (·.text)).mapM readNetwork = .ok (ns.map id) :=
        mapM_map_eq_ok fun n hn => by rw [readNetwork, Network.parse_text (h.2 n hn)]; rfl
      rw [List.map_id] at hread
      exact bind_eq_ok.2 ⟨_, hread, rfl⟩
  | notEmpty => rfl

end Kind

end Matcher

end Understudy

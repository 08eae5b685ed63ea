import Understudy.Proofs.Error.Traversal
import Understudy.Proofs.Json.Texts
import Understudy.Record.Reader

/-!
# Records are read back

A record is written as an object of slots: names with values, some of which may be absent. Sorting the members of the
object sorts the slots, and the reader then sets one field after another. `Sets` is one such step and `SetsAll` all of
them; a record that they lead to, with no required field absent, is what is read.
-/

namespace Understudy

open Traversal

/-- The names that an object may have, with the values of those that it has. -/
abbrev Slots := List (String × Option Json)

namespace Slots

def members (slots : Slots) : List (String × Json) :=
  slots.filterMap fun s => s.2.map (s.1, ·)

@[simp] theorem members_nil : members [] = [] := rfl

@[simp] theorem members_some (n : String) (v : Json) (slots : Slots) :
    members ((n, some v) :: slots) = (n, v) :: members slots := rfl

@[simp] theorem members_map {α : Type} (n : String) (f : α → Json) (o : Option α) (slots : Slots) :
    members ((n, o.map f) :: slots) = Json.optional n f o ++ members slots := by
  cases o <;> rfl

def sorted (slots : Slots) : Slots := Ascending.sort slots

theorem mem_members {slots : Slots} {m : String × Json} :
    m ∈ slots.members ↔ (m.1, some m.2) ∈ slots := by
  simp only [members, List.mem_filterMap, Option.map_eq_some_iff]
  constructor
  · rintro ⟨s, hs, v, hv, rfl⟩
    rw [← hv]
    exact hs
  · exact fun h => ⟨_, h, m.2, rfl, rfl⟩

theorem members_ascending {slots : Slots} (h : Ascending slots) : Ascending slots.members := by
  induction slots with
  | nil => exact List.Pairwise.nil
  | cons s slots ih =>
      obtain ⟨n, o⟩ := s
      have hcons := List.pairwise_cons.1 h
      cases o with
      | none => exact ih hcons.2
      | some v =>
          refine List.pairwise_cons.2 ⟨fun m hm => ?_, ih hcons.2⟩
          exact hcons.1 _ (mem_members.1 hm)

theorem sort_members {slots : Slots} (h : (slots.map Prod.fst).Nodup) :
    Ascending.sort slots.members = slots.sorted.members := by
  have hperm : slots.sorted.members.Perm slots.members := (Ascending.sort_perm h).filterMap _
  have hnodup : (slots.members.map Prod.fst).Nodup := by
    have hascending := members_ascending (Ascending.sort_ascending slots)
    refine ((hperm.map Prod.fst).nodup_iff).1 (List.pairwise_map.2 ?_)
    exact hascending.imp fun hlt => hlt.ne
  refine Ascending.eq_of_perm (Ascending.sort_ascending _)
    (members_ascending (Ascending.sort_ascending slots)) ?_
  exact (Ascending.sort_perm hnodup).trans hperm.symm

theorem ofJson_sorted {slots : Slots} (h : (slots.map Prod.fst).Nodup) :
    Json.Written.ofJson (Json.object slots.members).sorted =
      .object (slots.sorted.members.map fun m => (m.1, Json.Written.ofJson m.2.sorted)) := by
  rw [Json.sorted, Json.ofMembers, Json.sortedMembers_eq, Ascending.sort_map,
    sort_members h, Json.Written.ofJson, Json.Written.ofMembers_eq, List.map_map]
  rfl

end Slots

open Json (Legible)
open Json.Written (ofJson)

namespace Reader

variable {α β : Type}

/-- A reader reads a value back from the text of the JSON value that it is written as. -/
structure Restores (read : Reader Json.Written α) (depth : ℕ) (v : Json) (a : α) : Prop where
  legible : Legible depth v
  read_eq : read depth (ofJson v.sorted) = .ok a

variable {read : Reader Json.Written α} {depth : ℕ} {v : Json} {a : α}

theorem restores_string (depth : ℕ) (s : String) : Restores string depth (.string s) s :=
  ⟨.string s, rfl⟩

theorem restores_bool (depth : ℕ) (b : Bool) : Restores bool depth (.bool b) b := ⟨.bool b, rfl⟩

theorem restores_json (hfree : v.Free) (h : Legible depth v) : Restores json depth v v := by
  refine ⟨h, ?_⟩
  have hread := Json.Written.toJson?_ofJson h
  rw [hfree.sorted_eq] at hread ⊢
  simp only [json, Tree.json?, hread]
  rfl

theorem legible_whole {n : ℤ} (hlow : -0x8000000000000000 ≤ n) (hhigh : n < 0x10000000000000000)
    (depth : ℕ) : Legible depth (.number (.whole n)) :=
  .number (Json.Written.number?_whole ⟨hlow, hhigh⟩)

theorem restores_int {low high n : ℤ} (hrange : -0x8000000000000000 ≤ low ∧ high < 0x10000000000000000)
    (hlow : low ≤ n) (hhigh : n ≤ high) (depth : ℕ) :
    Restores (int low high) depth (Json.ofInt n) n := by
  refine ⟨legible_whole (by omega) (by omega) depth, ?_⟩
  have hrange : (some n).filter (fun n => low ≤ n && n ≤ high) = some n :=
    Option.filter_some_pos (by simp [hlow, hhigh])
  change ofOption ((some n).filter fun n => low ≤ n && n ≤ high) = .ok n
  rw [hrange]
  rfl

theorem restores_nat {max n : ℕ} (hrange : max < 0x10000000000000000) (h : n ≤ max) (depth : ℕ) :
    Restores (nat max) depth (Json.ofNat n) n := by
  have hint : Restores (int 0 max) depth (Json.ofInt n) n :=
    restores_int (by omega) (by omega) (by omega) depth
  refine ⟨hint.legible, ?_⟩
  exact map_eq_ok.2 ⟨n, hint.read_eq, Int.toNat_natCast n⟩

theorem restores_parsed {parse? : String → Option α} {s : String} (h : parse? s = some a)
    (depth : ℕ) : Restores (parsed parse?) depth (.string s) a := by
  refine ⟨.string s, bind_eq_ok.2 ⟨s, rfl, ?_⟩⟩
  rw [h]
  rfl

theorem restores_list {write : α → Json} {as : List α}
    (h : ∀ a ∈ as, Restores read depth (write a) a) :
    Restores (list read) (depth + 1) (.array (as.map write)) as := by
  refine ⟨.array ?_, ?_⟩
  · rw [List.forall_mem_map]
    exact fun a ha => (h a ha).legible
  · rw [Json.sorted, Json.sortedItems_eq, ofJson, Json.Written.ofItems_eq, List.map_map, List.map_map]
    refine bind_eq_ok.2 ⟨_, rfl, ?_⟩
    have hitems : (as.map fun a => ofJson (write a).sorted).mapM (read depth) = .ok (as.map id) :=
      mapM_map_eq_ok fun a ha => (h a ha).read_eq
    rwa [List.map_id] at hitems

theorem restores_array {vs : List Json} (h : ∀ v ∈ vs, v.Free ∧ Legible depth v) :
    Restores (list json) (depth + 1) (.array vs) vs := by
  have hlist : Restores (list json) (depth + 1) (.array (vs.map id)) vs :=
    restores_list fun v hv => restores_json (h v hv).1 (h v hv).2
  rwa [List.map_id] at hlist

theorem restores_table {write : α → Json} {entries : List (String × α)} (horder : Ascending entries)
    (h : ∀ e ∈ entries, Restores read depth (write e.2) e.2) :
    Restores (table read) (depth + 1) (.object (entries.map fun e => (e.1, write e.2))) entries := by
  refine ⟨.object ?_, ?_⟩
  · rw [List.forall_mem_map]
    exact fun e he => (h e he).legible
  · have hsorted : (Json.object (entries.map fun e => (e.1, write e.2))).sorted =
        .object (entries.map fun e => (e.1, (write e.2).sorted)) := by
      have hself := Ascending.sort_map (fun a => (write a).sorted) entries
      rw [Ascending.sort_of_ascending horder] at hself
      rw [Json.sorted, Json.ofMembers, Json.sortedMembers_eq, List.map_map]
      exact congrArg Json.object hself
    rw [hsorted, ofJson, Json.Written.ofMembers_eq, List.map_map]
    refine bind_eq_ok.2 ⟨_, rfl, ?_⟩
    have hentries : (entries.map fun e => (e.1, ofJson (write e.2).sorted)).mapM
        (fun m => (read depth m.2).map (m.1, ·)) = .ok (entries.map id) :=
      mapM_map_eq_ok fun e he => map_eq_ok.2 ⟨e.2, (h e he).read_eq, rfl⟩
    rwa [List.map_id] at hentries

theorem restores_second {f : String → α} (hv : ∀ s, v ≠ .string s) (h : Restores read depth v a) :
    Restores (either (string.map f) read) depth v a := by
  have hnone : Tree.string? (ofJson v.sorted) = none := by
    cases v with
    | string s => exact absurd rfl (hv s)
    | _ => rfl
  have hfirst : (string.map f) depth (ofJson v.sorted) = .error .unreadable := by
    simp only [Reader.map, string, hnone]
    rfl
  refine ⟨h.legible, ?_⟩
  simp only [either, hfirst, h.read_eq]
  rfl

theorem restores_first {first second : Reader Json.Written α} (h : Restores first depth v a) :
    Restores (either first second) depth v a := by
  refine ⟨h.legible, ?_⟩
  rw [either, h.read_eq]
  rfl

theorem restores_map (f : α → β) (h : Restores read depth v a) :
    Restores (read.map f) depth v (f a) :=
  ⟨h.legible, map_eq_ok.2 ⟨a, h.read_eq, rfl⟩⟩

theorem restores_optional (hne : v ≠ .null) (h : Restores read depth v a) :
    Restores (optional read) depth v (some a) := by
  have hnull : Tree.isNull (ofJson v.sorted) = false := by
    cases v with
    | null => exact absurd rfl hne
    | _ => rfl
  refine ⟨h.legible, ?_⟩
  rw [optional, hnull]
  exact map_eq_ok.2 ⟨a, h.read_eq, rfl⟩

end Reader

namespace Field

open Reader

variable {σ : Type} {fields : List (Field Json.Written σ)} {depth : ℕ}

/-- One slot takes a record to another: nothing happens for an absent value, and the field is set for a value. -/
def Sets (fields : List (Field Json.Written σ)) (depth : ℕ) (s : String × Option Json)
    (r r' : σ) : Prop :=
  match s.2 with
  | none => r' = r
  | some v => Legible depth v ∧
      ∃ f, fields.find? (·.name == s.1) = some f ∧ f.set depth (ofJson v.sorted) r = .ok r'

inductive SetsAll (fields : List (Field Json.Written σ)) (depth : ℕ) : Slots → σ → σ → Prop where
  | nil (r : σ) : SetsAll fields depth [] r r
  | cons {s : String × Option Json} {slots : Slots} {r r₁ r₂ : σ} (head : Sets fields depth s r r₁)
      (tail : SetsAll fields depth slots r₁ r₂) : SetsAll fields depth (s :: slots) r r₂

theorem SetsAll.legible {slots : Slots} {r r' : σ} (h : SetsAll fields depth slots r r') :
    ∀ m ∈ slots.members, Legible depth m.2 := by
  induction h with
  | nil r => simp
  | @cons s slots r r₁ r₂ head _ ih =>
      obtain ⟨n, o⟩ := s
      cases o with
      | none => exact ih
      | some v =>
          rw [Slots.members_some, List.forall_mem_cons]
          exact ⟨head.1, ih⟩

/-- Setting the members of slots follows the slots; each name is then seen once. -/
theorem setMembers_eq {slots : Slots} {r r' : σ} (h : SetsAll fields depth slots r r')
    (hnodup : (slots.map Prod.fst).Nodup) (seen : List String)
    (hseen : ∀ s ∈ slots, s.1 ∉ seen) :
    setMembers fields depth seen r (slots.members.map fun m => (m.1, ofJson m.2.sorted)) =
      .ok ((slots.members.map Prod.fst).reverse ++ seen, r') := by
  induction h generalizing seen with
  | nil r => rfl
  | @cons s slots r r₁ r₂ head _ ih =>
      obtain ⟨n, o⟩ := s
      rw [List.map_cons, List.nodup_cons] at hnodup
      rw [List.forall_mem_cons] at hseen
      cases o with
      | none =>
          obtain rfl : r₁ = r := head
          exact ih hnodup.2 seen hseen.2
      | some v =>
          obtain ⟨-, f, hfind, hset⟩ := head
          have hnew : seen.contains n = false := by simpa using hseen.1
          have hrest : ∀ s ∈ slots, s.1 ∉ n :: seen := by
            intro s hs hmem
            have hname : s.1 ∈ slots.map Prod.fst := List.mem_map_of_mem hs
            rcases List.mem_cons.1 hmem with rfl | hmem
            · exact hnodup.1 hname
            · exact hseen.2 s hs hmem
          rw [Slots.members_some, List.map_cons, setMembers]
          simp only [hfind, hnew, Bool.false_eq_true, if_false]
          refine bind_eq_ok.2 ⟨r₁, hset, ?_⟩
          rw [ih hnodup.2 (n :: seen) hrest]
          simp

/-- A record is read back from its slots, when no required field is absent. -/
theorem restores_record {slots : Slots} {start r : σ} (hnodup : (slots.map Prod.fst).Nodup)
    (h : SetsAll fields depth slots.sorted start r)
    (hrequired : ∀ f ∈ fields, f.required = true → ∃ v, (f.name, some v) ∈ slots) :
    Restores (record fields start) (depth + 1) (.object slots.members) r := by
  have hperm : slots.sorted.Perm slots := Ascending.sort_perm hnodup
  refine ⟨.object fun m hm => h.legible m ((hperm.filterMap _).mem_iff.2 hm), ?_⟩
  rw [Slots.ofJson_sorted hnodup, record]
  simp only [Tree.members?]
  -- all members are seen, and a required field is one of them
  refine bind_eq_ok.2 ⟨_, setMembers_eq h (((hperm.map Prod.fst).nodup_iff).2 hnodup) [] (by simp), ?_⟩
  have hnone : (fields.find? fun f => f.required &&
      !((slots.sorted.members.map Prod.fst).reverse ++ []).contains f.name) = none := by
    rw [List.find?_eq_none]
    intro f hf habsent
    rw [Bool.and_eq_true] at habsent
    obtain ⟨v, hv⟩ := hrequired f hf habsent.1
    have hmem : f.name ∈ slots.sorted.members.map Prod.fst :=
      List.mem_map_of_mem (Slots.mem_members.2 (hperm.mem_iff.2 hv) :
        (f.name, v) ∈ slots.sorted.members)
    simp [hmem] at habsent
  simp only [hnone]
  rfl

variable {α : Type} {n : String} {read : Reader Json.Written α} {v : Json} {a : α}

theorem sets_needed {put : α → σ → σ} (hfind : fields.find? (·.name == n) = some (.needed n read put))
    (h : Restores read depth v a) (r : σ) : Sets fields depth (n, some v) r (put a r) :=
  ⟨h.legible, _, hfind, map_eq_ok.2 ⟨a, h.read_eq, rfl⟩⟩

theorem sets_defaulted {put : α → σ → σ}
    (hfind : fields.find? (·.name == n) = some (.defaulted n read put))
    (h : Restores read depth v a) (r : σ) : Sets fields depth (n, some v) r (put a r) :=
  ⟨h.legible, _, hfind, map_eq_ok.2 ⟨a, h.read_eq, rfl⟩⟩

/-- A field that may be left out is set to what the slot holds, if it held nothing before. -/
theorem sets_maybe {read : Reader Json.Written (Option α)} {put : Option α → σ → σ}
    (hfind : fields.find? (·.name == n) = some (.defaulted n read put)) {write : α → Json}
    {o : Option α} (h : ∀ a ∈ o, Restores read depth (write a) (some a)) {r : σ}
    (hnone : put none r = r) : Sets fields depth (n, o.map write) r (put o r) := by
  cases o with
  | none => exact hnone
  | some a => exact sets_defaulted hfind (h a rfl) r

theorem sets_string {put : Option String → σ → σ}
    (hfind : fields.find? (·.name == n) = some (.maybe n string put)) {o : Option String} {r : σ}
    (hnone : put none r = r) : Sets fields depth (n, o.map .string) r (put o r) :=
  sets_maybe hfind (fun s _ => restores_optional (by simp) (restores_string depth s)) hnone

theorem sets_bool {put : Option Bool → σ → σ}
    (hfind : fields.find? (·.name == n) = some (.maybe n bool put)) {o : Option Bool} {r : σ}
    (hnone : put none r = r) : Sets fields depth (n, o.map .bool) r (put o r) :=
  sets_maybe hfind (fun b _ => restores_optional (by simp) (restores_bool depth b)) hnone

theorem sets_list {put : Option (List α) → σ → σ}
    (hfind : fields.find? (·.name == n) = some (.maybe n (list read) put)) {write : α → Json}
    {o : Option (List α)} (h : ∀ as ∈ o, ∀ a ∈ as, Restores read depth (write a) a) {r : σ}
    (hnone : put none r = r) :
    Sets fields (depth + 1) (n, o.map fun as => .array (as.map write)) r (put o r) :=
  sets_maybe hfind (fun as has => restores_optional (by simp) (restores_list (h as has))) hnone

end Field

end Understudy

import Mathlib.Data.List.Induction
import Understudy.Request.MultiMap

/-!
# What a map of names holds

A map made of pairs has each name once, in the spelling and at the place of its first arrival, with all values that came
under the name in their order. Looking a name up gives these values, in any spelling that the map takes for the same.
-/

namespace Understudy

namespace MultiMap

variable {ignoreCase : Bool}

@[simp] theorem sameKey_refl (ignoreCase : Bool) (a : String) : sameKey ignoreCase a a = true := by
  cases ignoreCase <;> simp [sameKey]

theorem eq_of_sameKey {a b : String} (h : sameKey false a b = true) : a = b := by
  simpa [sameKey] using h

theorem sameKey_symm (ignoreCase : Bool) (a b : String) :
    sameKey ignoreCase a b = sameKey ignoreCase b a := by
  cases ignoreCase with
  | false => simp only [sameKey, Bool.false_eq_true, if_false, Bool.beq_comm]
  | true => exact Text.sameName_symm a b

theorem sameKey_trans {a b c : String} (hab : sameKey ignoreCase a b = true)
    (hbc : sameKey ignoreCase b c = true) : sameKey ignoreCase a c = true := by
  cases ignoreCase with
  | false => simp_all [sameKey]
  | true => exact Text.sameName_trans hab hbc

theorem sameKey_congr {a b : String} (h : sameKey ignoreCase a b = true) (name : String) :
    sameKey ignoreCase name a = sameKey ignoreCase name b := by
  have hback : sameKey ignoreCase b a = true := by rwa [sameKey_symm]
  exact Bool.eq_iff_iff.2 ⟨fun ha => sameKey_trans ha h, fun hb => sameKey_trans hb hback⟩

/-- The names, each once: of names that are the same the first one stays. -/
def distinctNames (ignoreCase : Bool) : List String → List String
  | [] => []
  | n :: ns => n :: (distinctNames ignoreCase ns).filter (!sameKey ignoreCase n ·)

def valuesFor (ignoreCase : Bool) (pairs : List (String × String)) (name : String) : List String :=
  (pairs.filter fun p => sameKey ignoreCase p.1 name).map Prod.snd

theorem distinctNames_sublist (ignoreCase : Bool) (names : List String) :
    (distinctNames ignoreCase names).Sublist names := by
  induction names with
  | nil => exact List.Sublist.slnil
  | cons n names ih => exact (List.filter_sublist.trans ih).cons_cons n

theorem distinctNames_pairwise (ignoreCase : Bool) (names : List String) :
    (distinctNames ignoreCase names).Pairwise fun a b => sameKey ignoreCase a b = false := by
  induction names with
  | nil => exact List.Pairwise.nil
  | cons n names ih =>
      refine List.pairwise_cons.2 ⟨fun m hm => ?_, ih.filter _⟩
      simpa using (List.mem_filter.1 hm).2

theorem filter_distinctNames (ignoreCase : Bool) (names : List String) (name : String) :
    (distinctNames ignoreCase names).filter (sameKey ignoreCase · name) =
      (names.find? (sameKey ignoreCase · name)).toList := by
  induction names with
  | nil => rfl
  | cons n names ih =>
      rw [distinctNames, List.filter_cons, List.find?_cons, List.filter_filter]
      cases hn : sameKey ignoreCase n name with
      | true =>
          have hnone : (distinctNames ignoreCase names).filter (fun m =>
              sameKey ignoreCase m name && !sameKey ignoreCase n m) = [] := by
            refine List.filter_eq_nil_iff.2 fun m _ h => ?_
            rw [Bool.and_eq_true] at h
            have hname : sameKey ignoreCase name m = true := by
              rw [sameKey_symm]
              exact h.1
            rw [sameKey_trans hn hname] at h
            exact Bool.false_ne_true h.2
          simp [hnone]
      | false =>
          have hsame : ((distinctNames ignoreCase names).filter fun m =>
              sameKey ignoreCase m name && !sameKey ignoreCase n m) =
                (distinctNames ignoreCase names).filter (sameKey ignoreCase · name) := by
            refine List.filter_congr fun m _ => ?_
            cases hm : sameKey ignoreCase m name with
            | false => rfl
            | true => rw [sameKey_congr hm, hn]; rfl
          simp [hsame, ih]

theorem any_distinctNames (ignoreCase : Bool) (names : List String) (name : String) :
    (distinctNames ignoreCase names).any (sameKey ignoreCase · name) =
      names.any (sameKey ignoreCase · name) := by
  rw [← List.isSome_find?, ← List.isSome_find?, ← List.head?_filter, filter_distinctNames,
    Option.head?_toList]

theorem mem_distinctNames_of_mem {names : List String} {n : String} (h : n ∈ names) :
    n ∈ distinctNames false names := by
  have hany : names.any (sameKey false · n) = true := List.any_eq_true.2 ⟨n, h, sameKey_refl _ _⟩
  rw [← any_distinctNames] at hany
  obtain ⟨m, hm, hsame⟩ := List.any_eq_true.1 hany
  obtain rfl := eq_of_sameKey hsame
  exact hm

/-- A further name is left out when it came before. -/
theorem distinctNames_concat (ignoreCase : Bool) (names : List String) (name : String) :
    distinctNames ignoreCase (names ++ [name]) =
      if names.any (sameKey ignoreCase · name) then distinctNames ignoreCase names
      else distinctNames ignoreCase names ++ [name] := by
  induction names with
  | nil => rfl
  | cons n names ih =>
      rw [List.cons_append, distinctNames, ih, List.any_cons, distinctNames]
      cases hn : sameKey ignoreCase n name <;>
        cases names.any (sameKey ignoreCase · name) <;> simp [hn]

theorem valuesFor_concat (pairs : List (String × String)) (p : String × String) (name : String) :
    valuesFor ignoreCase (pairs ++ [p]) name =
      valuesFor ignoreCase pairs name ++ if sameKey ignoreCase p.1 name then [p.2] else [] := by
  cases h : sameKey ignoreCase p.1 name <;> simp [valuesFor, h]

theorem valuesFor_eq_nil {pairs : List (String × String)} {name : String} :
    valuesFor ignoreCase pairs name = [] ↔
      (pairs.map Prod.fst).any (sameKey ignoreCase · name) = false := by
  simp [valuesFor, List.filter_eq_nil_iff, List.any_eq_false]

theorem mem_valuesFor {pairs : List (String × String)} {name v : String} :
    v ∈ valuesFor ignoreCase pairs name ↔
      ∃ n, sameKey ignoreCase n name = true ∧ (n, v) ∈ pairs := by
  simp [valuesFor, and_comm]

theorem valuesFor_congr {a b : String} (h : sameKey ignoreCase a b = true)
    (pairs : List (String × String)) :
    valuesFor ignoreCase pairs a = valuesFor ignoreCase pairs b := by
  simp only [valuesFor, sameKey_congr h]

theorem appendTo_map {names : List String}
    (h : names.Pairwise fun a b => sameKey ignoreCase a b = false) (values : String → List String)
    (name value : String) :
    appendTo ignoreCase name value (names.map fun n => (n, values n)) =
      (names.map fun n => (n, values n ++ if sameKey ignoreCase name n then [value] else [])) ++
        if names.any (sameKey ignoreCase · name) then [] else [(name, [value])] := by
  induction names with
  | nil => rfl
  | cons n names ih =>
      rw [List.pairwise_cons] at h
      rw [List.map_cons, appendTo, List.any_cons, List.map_cons, sameKey_symm ignoreCase name n]
      cases hn : sameKey ignoreCase n name with
      | false => simp [ih h.2]
      | true =>
          -- no later entry has the name
          have hrest : (names.map fun m => (m, values m ++
              if sameKey ignoreCase name m then [value] else [])) =
                names.map fun m => (m, values m) := by
            refine List.map_congr_left fun m hm => ?_
            have hother : sameKey ignoreCase name m = false := by
              rw [← h.1 m hm, sameKey_symm ignoreCase name, sameKey_symm ignoreCase n]
              exact sameKey_congr (by rwa [sameKey_symm]) m
            simp [hother]
          simp [hrest]

theorem ofPairs_concat (ignoreCase : Bool) (pairs : List (String × String)) (p : String × String) :
    ofPairs ignoreCase (pairs ++ [p]) = (ofPairs ignoreCase pairs).append p.1 p.2 := by
  simp [ofPairs]

theorem ignoreCase_ofPairs (ignoreCase : Bool) (pairs : List (String × String)) :
    (ofPairs ignoreCase pairs).ignoreCase = ignoreCase := by
  induction pairs using List.reverseRecOn with
  | nil => rfl
  | append_singleton pairs p ih => rw [ofPairs_concat, append, ih]

/-- The map of pairs: each name where it first came, with all of its values. -/
theorem entries_ofPairs (ignoreCase : Bool) (pairs : List (String × String)) :
    (ofPairs ignoreCase pairs).entries =
      (distinctNames ignoreCase (pairs.map Prod.fst)).map fun n =>
        (n, valuesFor ignoreCase pairs n) := by
  induction pairs using List.reverseRecOn with
  | nil => rfl
  | append_singleton pairs p ih =>
      rw [ofPairs_concat, append, ignoreCase_ofPairs, ih,
        appendTo_map (distinctNames_pairwise _ _), any_distinctNames, List.map_append,
        List.map_singleton, distinctNames_concat]
      simp only [valuesFor_concat]
      cases hnew : (pairs.map Prod.fst).any (sameKey ignoreCase · p.1) with
      | true => simp
      | false => simp [valuesFor_eq_nil.2 hnew]

theorem filter_ofPairs (ignoreCase : Bool) (pairs : List (String × String)) (name : String) :
    ((ofPairs ignoreCase pairs).entries.filter fun e => sameKey ignoreCase e.1 name) =
      (((pairs.map Prod.fst).find? (sameKey ignoreCase · name)).toList).map fun n =>
        (n, valuesFor ignoreCase pairs name) := by
  rw [entries_ofPairs, List.filter_map, ← filter_distinctNames]
  refine List.map_congr_left fun n hn => ?_
  rw [valuesFor_congr (List.mem_filter.1 hn).2]

theorem flatMap_filter_ofPairs (ignoreCase : Bool) (pairs : List (String × String)) (name : String) :
    (((ofPairs ignoreCase pairs).entries.filter fun e =>
        sameKey ignoreCase e.1 name).flatMap Prod.snd) = valuesFor ignoreCase pairs name := by
  rw [filter_ofPairs]
  cases hfound : (pairs.map Prod.fst).find? (sameKey ignoreCase · name) with
  | some n => simp
  | none =>
      refine (valuesFor_eq_nil.2 ?_).symm
      rw [List.any_eq_false]
      exact List.find?_eq_none.1 hfound

/-- The entries of a map that tells case apart, looked through in any way: the values are those that came. -/
theorem mem_flatMap_filter_ofPairs {pairs : List (String × String)} {name v : String} :
    v ∈ ((ofPairs false pairs).entries.filter fun e =>
        sameKey ignoreCase e.1 name).flatMap Prod.snd ↔ v ∈ valuesFor ignoreCase pairs name := by
  rw [entries_ofPairs, mem_valuesFor, List.mem_flatMap]
  constructor
  · rintro ⟨e, he, hv⟩
    obtain ⟨he, hname⟩ := List.mem_filter.1 he
    obtain ⟨n, -, rfl⟩ := List.mem_map.1 he
    obtain ⟨m, hm, hmem⟩ := mem_valuesFor.1 hv
    obtain rfl := eq_of_sameKey hm
    exact ⟨m, hname, hmem⟩
  · rintro ⟨n, hname, hmem⟩
    have hn : n ∈ distinctNames false (pairs.map Prod.fst) :=
      mem_distinctNames_of_mem (List.mem_map.2 ⟨_, hmem, rfl⟩)
    exact ⟨_, List.mem_filter.2 ⟨List.mem_map.2 ⟨n, hn, rfl⟩, hname⟩,
      mem_valuesFor.2 ⟨n, sameKey_refl _ _, hmem⟩⟩

theorem getAll?_ofPairs (ignoreCase : Bool) (pairs : List (String × String)) (name : String) :
    (ofPairs ignoreCase pairs).getAll? name =
      if (pairs.map Prod.fst).any (sameKey ignoreCase · name)
      then some (valuesFor ignoreCase pairs name) else none := by
  rw [getAll?, ignoreCase_ofPairs, ← List.head?_filter, filter_ofPairs, ← List.isSome_find?]
  cases (pairs.map Prod.fst).find? (sameKey ignoreCase · name) <;> rfl

theorem getAll?_of_mem_entries {pairs : List (String × String)} {e : String × List String}
    (h : e ∈ (ofPairs ignoreCase pairs).entries) :
    (ofPairs ignoreCase pairs).getAll? e.1 = some e.2 ∧ ∃ v, v ∈ e.2 := by
  rw [entries_ofPairs] at h
  obtain ⟨n, hn, rfl⟩ := List.mem_map.1 h
  have hany : (pairs.map Prod.fst).any (sameKey ignoreCase · n) = true :=
    List.any_eq_true.2 ⟨n, (distinctNames_sublist _ _).mem hn, sameKey_refl _ _⟩
  refine ⟨by rw [getAll?_ofPairs, hany]; rfl, List.exists_mem_of_ne_nil _ fun hnil => ?_⟩
  rw [valuesFor_eq_nil, hany] at hnil
  exact Bool.false_ne_true hnil.symm

/-! ### A map as the groups of its pairs -/

/-- A distinct name is spelled as the first of the names that are the same. -/
theorem find?_of_mem_distinctNames {names : List String} {n : String}
    (h : n ∈ distinctNames ignoreCase names) :
    names.find? (sameKey ignoreCase · n) = some n := by
  have hmem : n ∈ (distinctNames ignoreCase names).filter (sameKey ignoreCase · n) :=
    List.mem_filter.2 ⟨h, sameKey_refl ignoreCase n⟩
  rwa [filter_distinctNames, Option.mem_toList] at hmem

/-- The distinct names stand in the order in which they first came. -/
theorem distinctNames_pairwise_findIdx (ignoreCase : Bool) (names : List String) :
    (distinctNames ignoreCase names).Pairwise fun a b =>
      names.findIdx (sameKey ignoreCase · a) < names.findIdx (sameKey ignoreCase · b) := by
  induction names with
  | nil => exact List.Pairwise.nil
  | cons n names ih =>
      have hlater : ∀ m ∈ (distinctNames ignoreCase names).filter (!sameKey ignoreCase n ·),
          (n :: names).findIdx (sameKey ignoreCase · m) =
            names.findIdx (sameKey ignoreCase · m) + 1 := by
        intro m hm
        have hm : sameKey ignoreCase n m = false := by simpa using (List.mem_filter.1 hm).2
        rw [List.findIdx_cons, hm]
        rfl
      refine List.pairwise_cons.2 ⟨fun m hm => ?_, ?_⟩
      · rw [hlater m hm, List.findIdx_cons, sameKey_refl]
        exact Nat.succ_pos _
      · refine (ih.filter _).imp_of_mem fun {a b} ha hb hab => ?_
        rw [hlater a ha, hlater b hb]
        exact Nat.succ_lt_succ hab

/-- A map holds the groups of pairs that came one after another: nothing is lost, and nothing is told twice. -/
structure Groups (ignoreCase : Bool) (pairs : List (String × String)) (m : MultiMap) : Prop where
  distinct : m.entries.Pairwise fun a b => sameKey ignoreCase a.1 b.1 = false
  nonempty : ∀ e ∈ m.entries, e.2 ≠ []
  ordered : m.entries.Pairwise fun a b =>
    (pairs.map Prod.fst).findIdx (sameKey ignoreCase · a.1) <
      (pairs.map Prod.fst).findIdx (sameKey ignoreCase · b.1)
  spelling : ∀ e ∈ m.entries, (pairs.map Prod.fst).find? (sameKey ignoreCase · e.1) = some e.1
  values : ∀ e ∈ m.entries, e.2 = valuesFor ignoreCase pairs e.1
  getAll? : ∀ name, m.getAll? name =
    if valuesFor ignoreCase pairs name = [] then none else some (valuesFor ignoreCase pairs name)
  get? : ∀ name, m.get? name = (valuesFor ignoreCase pairs name).head?
  contains : ∀ name, m.contains name = true ↔ ∃ p ∈ pairs, sameKey ignoreCase p.1 name = true

/-- Appending pairs to the empty map groups them by their names. -/
theorem ofPairs_groups (ignoreCase : Bool) (pairs : List (String × String)) :
    Groups ignoreCase pairs (ofPairs ignoreCase pairs) := by
  have hvalues : ∀ e ∈ (ofPairs ignoreCase pairs).entries, e.2 = valuesFor ignoreCase pairs e.1 := by
    rw [entries_ofPairs, List.forall_mem_map]
    exact fun _ _ => rfl
  have hget : ∀ name, (ofPairs ignoreCase pairs).getAll? name =
      if valuesFor ignoreCase pairs name = [] then none
      else some (valuesFor ignoreCase pairs name) := by
    intro name
    rw [getAll?_ofPairs]
    simp only [valuesFor_eq_nil]
    cases (pairs.map Prod.fst).any (sameKey ignoreCase · name) <;> rfl
  refine ⟨?_, ?_, ?_, ?_, hvalues, hget, fun name => ?_, fun name => ?_⟩
  · rw [entries_ofPairs, List.pairwise_map]
    exact distinctNames_pairwise ignoreCase _
  · intro e he
    obtain ⟨-, v, hv⟩ := getAll?_of_mem_entries he
    exact List.ne_nil_of_mem hv
  · rw [entries_ofPairs, List.pairwise_map]
    exact distinctNames_pairwise_findIdx ignoreCase _
  · rw [entries_ofPairs, List.forall_mem_map]
    exact fun _ => find?_of_mem_distinctNames
  · rw [get?, hget]
    split
    · rename_i hnil
      rw [hnil]
      rfl
    · rfl
  · rw [contains, getAll?_ofPairs]
    simp

end MultiMap

end Understudy

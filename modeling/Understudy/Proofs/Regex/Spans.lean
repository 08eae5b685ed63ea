import Mathlib.Logic.Relation
import Mathlib.Order.Nat
import Understudy.Regex.Replacement

/-!
# What a regular expression matches

`Regex.Spans text r i j` says that `r` matches the stretch of the text from place `i` to place `j`, each constructor by
its documented meaning: a set takes one character, an anchor none, a sequence is cut somewhere, a repetition follows its
part so many times. `Regex.spread` computes the same with sets of places (`follows_spread`). The one thing to see is
that a repetition without a bound may stop after as many rounds as there are places: a round that takes no character
leads nowhere, and one that takes some leads on (`exists_times_le`).
-/

namespace Understudy

namespace Regex

/-! ### Relations between places -/

/-- The relation, followed so many times. -/
def times (R : Nat → Nat → Prop) : Nat → Nat → Nat → Prop
  | 0 => Eq
  | n + 1 => Relation.Comp R (times R n)

theorem times_add (R : Nat → Nat → Prop) (m n : Nat) :
    times R (m + n) = Relation.Comp (times R m) (times R n) := by
  induction m with
  | zero => rw [Nat.zero_add, times, Relation.eq_comp]
  | succ m ih => rw [Nat.succ_add, times, ih, times, Relation.comp_assoc]

theorem times_le {R : Nat → Nat → Prop} (hmono : ∀ i j, R i j → i ≤ j) {n i j : Nat}
    (h : times R n i j) : i ≤ j := by
  induction n generalizing i with
  | zero => exact h.le
  | succ n ih =>
      obtain ⟨k, hik, hkj⟩ := h
      exact (hmono i k hik).trans (ih hkj)

/-- Rounds that lead nowhere can be left out, and the others are no more than the places that they pass. -/
theorem exists_times_le {R : Nat → Nat → Prop} (hmono : ∀ i j, R i j → i ≤ j) {n i j : Nat}
    (h : times R n i j) : ∃ m ≤ j - i, times R m i j := by
  induction n generalizing i with
  | zero => exact ⟨0, Nat.zero_le _, h⟩
  | succ n ih =>
      obtain ⟨k, hik, hkj⟩ := h
      obtain ⟨m, hm, hmj⟩ := ih hkj
      rcases (hmono i k hik).eq_or_lt with rfl | hlt
      · exact ⟨m, hm, hmj⟩
      · have hle := times_le hmono hmj
        exact ⟨m + 1, by omega, k, hik, hmj⟩

/-- Either a round or none, so many times. -/
theorem times_or_eq {R : Nat → Nat → Prop} {n i j : Nat} :
    times (fun a b => a = b ∨ R a b) n i j ↔ ∃ m ≤ n, times R m i j := by
  induction n generalizing i with
  | zero => exact ⟨fun h => ⟨0, le_rfl, h⟩, fun ⟨m, hm, h⟩ => by rwa [Nat.le_zero.1 hm] at h⟩
  | succ n ih =>
      constructor
      · rintro ⟨k, rfl | hik, hkj⟩
        · obtain ⟨m, hm, h⟩ := ih.1 hkj
          exact ⟨m, hm.trans n.le_succ, h⟩
        · obtain ⟨m, hm, h⟩ := ih.1 hkj
          exact ⟨m + 1, Nat.succ_le_succ hm, k, hik, h⟩
      · rintro ⟨m, hm, h⟩
        cases m with
        | zero => exact ⟨i, .inl rfl, ih.2 ⟨0, Nat.zero_le _, h⟩⟩
        | succ m =>
            obtain ⟨k, hik, hkj⟩ := h
            exact ⟨k, .inr hik, ih.2 ⟨m, Nat.le_of_succ_le_succ hm, hkj⟩⟩

/-! ### Stretches of a text -/

/-- The character in front of a place, of which the start of the text has the given one. -/
def charBefore (first : Option Char) (text : List Char) : Nat → Option Char
  | 0 => first
  | i + 1 => text[i]?

/-- The regular expression matches the stretch of the text between two places. -/
def Spans (text : List Char) : Regex → Nat → Nat → Prop
  | .empty => Eq
  | .set s => fun i j => j = i + 1 ∧ ∃ c ∈ text[i]?, s.has c.toNat = true
  | .anchor a => fun i j => i = j ∧ a.holds (charBefore none text i) text[i]? = true
  | .sequence a b => Relation.Comp (Spans text a) (Spans text b)
  | .choice a b => fun i j => Spans text a i j ∨ Spans text b i j
  | .repetition r low high => fun i j =>
    ∃ n, low ≤ n ∧ (∀ m ∈ high, n ≤ max low m) ∧ times (Spans text r) n i j

variable {text : List Char}

theorem le_of_spans {r : Regex} {i j : Nat} (h : Spans text r i j) : i ≤ j := by
  induction r generalizing i j with
  | empty => exact Nat.le_of_eq h
  | set s => exact h.1 ▸ i.le_succ
  | anchor a => exact h.1.le
  | sequence a b iha ihb =>
      obtain ⟨k, hik, hkj⟩ := h
      exact (iha hik).trans (ihb hkj)
  | choice a b iha ihb => exact h.elim iha ihb
  | repetition r low high ih =>
      obtain ⟨n, -, -, hn⟩ := h
      exact times_le (fun _ _ => ih) hn

theorem times_le_length {R : Nat → Nat → Prop}
    (hR : ∀ i j, R i j → i ≤ text.length → j ≤ text.length) {n i j : Nat} (h : times R n i j)
    (hi : i ≤ text.length) : j ≤ text.length := by
  induction n generalizing i with
  | zero => exact h ▸ hi
  | succ n ih =>
      obtain ⟨k, hik, hkj⟩ := h
      exact ih hkj (hR i k hik hi)

theorem le_length_of_spans {r : Regex} {i j : Nat} (h : Spans text r i j) (hi : i ≤ text.length) :
    j ≤ text.length := by
  induction r generalizing i j with
  | empty => exact h ▸ hi
  | set s =>
      obtain ⟨rfl, c, hc, -⟩ := h
      exact (List.getElem?_eq_some_iff.1 hc).1
  | anchor a => exact h.1 ▸ hi
  | sequence a b iha ihb =>
      obtain ⟨k, hik, hkj⟩ := h
      exact ihb hkj (iha hik hi)
  | choice a b iha ihb => exact h.elim (iha · hi) (ihb · hi)
  | repetition r low high ih =>
      obtain ⟨n, -, -, hn⟩ := h
      exact times_le_length (fun _ _ => ih) hn hi

theorem spans_ofList_cons (r : Regex) (rs : List Regex) :
    Spans text (ofList (r :: rs)) = Relation.Comp (Spans text r) (Spans text (ofList rs)) := by
  cases rs with
  | nil => exact Relation.comp_eq.symm
  | cons s rs => rfl

theorem spans_ofList_append (rs ss : List Regex) :
    Spans text (ofList (rs ++ ss)) =
      Relation.Comp (Spans text (ofList rs)) (Spans text (ofList ss)) := by
  induction rs with
  | nil => exact Relation.eq_comp.symm
  | cons r rs ih => rw [List.cons_append, spans_ofList_cons, ih, ← Relation.comp_assoc, ← spans_ofList_cons]

/-! ### Sets of places -/

def Has (p : Places) (i : Nat) : Prop := p[i]? = some true

theorem has_lt {p : Places} {i : Nat} (h : Has p i) : i < p.length :=
  (List.getElem?_eq_some_iff.1 h).1

theorem idxOf?_eq_some {p : Places} {k : Nat} :
    p.idxOf? true = some k ↔ Has p k ∧ ∀ j < k, ¬ Has p j := by
  unfold Has
  rw [List.idxOf?_eq_some_iff]
  constructor
  · rintro ⟨hk, htrue, hbefore⟩
    exact ⟨List.getElem?_eq_some_iff.2 ⟨hk, htrue⟩,
      fun j hj h => hbefore j hj (List.getElem?_eq_some_iff.1 h).2⟩
  · rintro ⟨h, hbefore⟩
    obtain ⟨hk, htrue⟩ := List.getElem?_eq_some_iff.1 h
    exact ⟨hk, htrue, fun j hj h => hbefore j hj (List.getElem?_eq_some_iff.2 ⟨_, h⟩)⟩

theorem has_join {p q : Places} (h : p.length = q.length) (i : Nat) :
    Has (join p q) i ↔ Has p i ∨ Has q i := by
  unfold Has join
  rw [List.getElem?_zipWith]
  cases hp : p[i]? with
  | none =>
      have hq : q[i]? = none := by
        rw [List.getElem?_eq_none_iff] at hp ⊢
        omega
      simp [hq]
  | some a =>
      have hlt := (List.getElem?_eq_some_iff.1 hp).1
      rw [h] at hlt
      simp [List.getElem?_eq_getElem hlt]

theorem has_advance {s : CharSet} {text : List Char} {p : Places} (j : Nat) :
    Has (advance s text p) j ↔
      ∃ i, Has p i ∧ j = i + 1 ∧ ∃ c ∈ text[i]?, s.has c.toNat = true := by
  cases j with
  | zero => simp [Has, advance]
  | succ j =>
      have hstep : Has (advance s text p) (j + 1) ↔
          Has p j ∧ ∃ c ∈ text[j]?, s.has c.toNat = true := by
        unfold Has advance
        rw [List.getElem?_cons_succ, List.getElem?_zipWith]
        cases p[j]? <;> cases text[j]? <;> simp
      rw [hstep]
      constructor
      · exact fun ⟨hj, hc⟩ => ⟨j, hj, rfl, hc⟩
      · rintro ⟨i, hi, hij, hc⟩
        obtain rfl : j = i := Nat.succ.inj hij
        exact ⟨hi, hc⟩

theorem length_anchorPlaces (a : Anchor) (first : Option Char) (text : List Char) :
    (anchorPlaces a first text).length = text.length + 1 := by
  induction text generalizing first with
  | nil => rfl
  | cons c text ih => rw [anchorPlaces, List.length_cons, ih, List.length_cons]

theorem getElem?_anchorPlaces (a : Anchor) (first : Option Char) (text : List Char) {i : Nat}
    (hi : i ≤ text.length) :
    (anchorPlaces a first text)[i]? = some (a.holds (charBefore first text i) text[i]?) := by
  induction text generalizing first i with
  | nil =>
      obtain rfl : i = 0 := Nat.le_zero.1 hi
      rfl
  | cons c text ih =>
      cases i with
      | zero => rfl
      | succ i =>
          rw [anchorPlaces, List.getElem?_cons_succ, ih (some c) (Nat.le_of_succ_le_succ hi),
            List.getElem?_cons_succ]
          cases i <;> rfl

/-- A function on sets of places of the text goes from each place along a relation. -/
def Follows (text : List Char) (f : Places → Places) (R : Nat → Nat → Prop) : Prop :=
  ∀ p, p.length = text.length + 1 →
    (f p).length = text.length + 1 ∧ ∀ j, Has (f p) j ↔ ∃ i, Has p i ∧ R i j

/-- Rounds that are left out because nothing changes any more would not change anything. -/
theorem iterate_succ (f : Places → Places) (n : Nat) (p : Places) :
    iterate f (n + 1) p = iterate f n (f p) := by
  rw [iterate]
  split
  · rename_i hfixed
    rw [hfixed]
    cases n with
    | zero => rfl
    | succ n => rw [iterate, if_pos hfixed]
  · rfl

namespace Follows

variable {f g : Places → Places} {R S : Nat → Nat → Prop}

theorem congr (hf : Follows text f R) (h : ∀ i ≤ text.length, ∀ j, R i j ↔ S i j) :
    Follows text f S := by
  intro p hp
  obtain ⟨hlength, hmem⟩ := hf p hp
  refine ⟨hlength, fun j => (hmem j).trans (exists_congr fun i => and_congr_right fun hi => ?_)⟩
  have hlt := has_lt hi
  exact h i (by omega) j

theorem comp (hf : Follows text f R) (hg : Follows text g S) :
    Follows text (fun p => g (f p)) (Relation.Comp R S) := by
  intro p hp
  obtain ⟨hlength, hmem⟩ := hf p hp
  refine ⟨(hg _ hlength).1, fun j => ((hg _ hlength).2 j).trans ?_⟩
  constructor
  · rintro ⟨k, hk, hkj⟩
    obtain ⟨i, hi, hik⟩ := (hmem k).1 hk
    exact ⟨i, hi, k, hik, hkj⟩
  · rintro ⟨i, hi, k, hik, hkj⟩
    exact ⟨k, (hmem k).2 ⟨i, hi, hik⟩, hkj⟩

theorem join (hf : Follows text f R) (hg : Follows text g S) :
    Follows text (fun p => Regex.join (f p) (g p)) (fun i j => R i j ∨ S i j) := by
  intro p hp
  obtain ⟨hflength, hfmem⟩ := hf p hp
  obtain ⟨hglength, hgmem⟩ := hg p hp
  refine ⟨by simp [Regex.join, hflength, hglength], fun j => ?_⟩
  rw [has_join (hflength.trans hglength.symm), hfmem, hgmem, ← exists_or]
  simp only [and_or_left]

theorem id : Follows text (fun p => p) Eq :=
  fun p hp => ⟨hp, fun j => by simp⟩

theorem iterate (hf : Follows text f R) (n : Nat) :
    Follows text (Regex.iterate f n) (times R n) := by
  induction n with
  | zero => exact id
  | succ n ih =>
      have hsucc : Regex.iterate f (n + 1) = fun p => Regex.iterate f n (f p) :=
        funext fun p => iterate_succ f n p
      rw [hsucc]
      exact hf.comp ih

theorem reachable (hf : Follows text f R) (n : Nat) :
    Follows text (Regex.reachable f n) (fun i j => ∃ m ≤ n, times R m i j) :=
  ((id.join hf).iterate n).congr fun _ _ _ => times_or_eq

end Follows

theorem follows_advance (s : CharSet) : Follows text (advance s text) (Spans text (.set s)) :=
  fun p hp => ⟨by simp [advance, hp], has_advance⟩

theorem follows_anchor (a : Anchor) :
    Follows text (fun p => List.zipWith (· && ·) p (anchorPlaces a none text))
      (Spans text (.anchor a)) := by
  intro p hp
  have hlength := length_anchorPlaces a none text
  refine ⟨by simp [hp, hlength], fun j => ?_⟩
  constructor
  · intro h
    have hj : j ≤ text.length := by
      have hlt := has_lt h
      simp only [List.length_zipWith, hp, hlength] at hlt
      omega
    unfold Has at h
    rw [List.getElem?_zipWith, getElem?_anchorPlaces a none text hj] at h
    cases hpj : p[j]? with
    | none => simp [hpj] at h
    | some b =>
        obtain ⟨rfl, hholds⟩ : b = true ∧ a.holds (charBefore none text j) text[j]? = true := by
          simpa [hpj] using h
        exact ⟨j, hpj, rfl, hholds⟩
  · rintro ⟨i, hi, rfl, hholds⟩
    have hle : i ≤ text.length := by
      have hlt := has_lt hi
      omega
    unfold Has at hi ⊢
    rw [List.getElem?_zipWith, getElem?_anchorPlaces a none text hle, hi, hholds]
    rfl

/-- From a set of places `spread` goes to the ends of all stretches that start there and are matched. -/
theorem follows_spread (r : Regex) : Follows text (spread text r) (Spans text r) := by
  induction r with
  | empty => exact .id
  | set s => exact follows_advance s
  | anchor a => exact follows_anchor a
  | sequence a b iha ihb => exact iha.comp ihb
  | choice a b iha ihb => exact iha.join ihb
  | repetition r low high ih =>
      cases high with
      | some m =>
          refine ((ih.iterate low).comp (ih.reachable (m - low))).congr fun i _ j => ?_
          constructor
          · rintro ⟨x, hx, k, hk, hkj⟩
            refine ⟨low + k, Nat.le_add_right _ _, fun m' hm' => ?_, ?_⟩
            · obtain rfl : m = m' := Option.some.inj hm'
              omega
            · rw [times_add]
              exact ⟨x, hx, hkj⟩
          · rintro ⟨n, hlow, hhigh, hn⟩
            have hle := hhigh m rfl
            obtain ⟨k, rfl⟩ := Nat.exists_eq_add_of_le hlow
            rw [times_add] at hn
            obtain ⟨x, hx, hkj⟩ := hn
            exact ⟨x, hx, k, by omega, hkj⟩
      | none =>
          refine ((ih.iterate low).comp (ih.reachable (text.length + 1))).congr fun i hi j => ?_
          constructor
          · rintro ⟨x, hx, k, -, hkj⟩
            refine ⟨low + k, Nat.le_add_right _ _, fun m hm => absurd hm (by simp), ?_⟩
            rw [times_add]
            exact ⟨x, hx, hkj⟩
          · rintro ⟨n, hlow, -, hn⟩
            have hj := times_le_length (fun _ _ => le_length_of_spans) hn hi
            obtain ⟨k, rfl⟩ := Nat.exists_eq_add_of_le hlow
            rw [times_add] at hn
            obtain ⟨x, hx, hkj⟩ := hn
            -- no more rounds than places that they pass
            obtain ⟨k', hk', hkj'⟩ := exists_times_le (fun _ _ => le_of_spans) hkj
            exact ⟨x, hx, k', by omega, hkj'⟩

theorem occursIn_iff {r : Regex} {s : String} :
    r.occursIn s = true ↔ ∃ i j, i ≤ s.toList.length ∧ Spans s.toList r i j := by
  obtain ⟨-, hends⟩ := follows_spread r (List.replicate (s.toList.length + 1) true)
    (List.length_replicate ..)
  have hstart : ∀ i, Has (List.replicate (s.toList.length + 1) true) i ↔ i ≤ s.toList.length := by
    intro i
    unfold Has
    rw [List.getElem?_replicate, Option.ite_none_right_eq_some, and_iff_left rfl, Nat.lt_succ_iff]
  have hany : r.occursIn s = true ↔
      ∃ j, Has (spread s.toList r (List.replicate (s.toList.length + 1) true)) j := by
    rw [occursIn, List.any_eq_true]
    simp [Has, List.mem_iff_getElem?]
  rw [hany]
  constructor
  · rintro ⟨j, hj⟩
    obtain ⟨i, hi, hij⟩ := (hends j).1 hj
    exact ⟨i, j, (hstart i).1 hi, hij⟩
  · rintro ⟨i, j, hi, hij⟩
    exact ⟨j, (hends j).2 ⟨i, (hstart i).2 hi, hij⟩⟩

/-- The match that is taken at a place is the shortest one. -/
theorem lengthAt?_eq_some {r : Regex} {i n : Nat} (hi : i ≤ text.length) :
    r.lengthAt? text i = some n ↔ Spans text r i (i + n) ∧ ∀ m < n, ¬ Spans text r i (i + m) := by
  have hlength : ((List.replicate (text.length + 1) false).set i true).length = text.length + 1 := by
    rw [List.length_set, List.length_replicate]
  have hstart (k : Nat) : Has ((List.replicate (text.length + 1) false).set i true) k ↔ k = i := by
    unfold Has
    rw [List.getElem?_set, List.getElem?_replicate, List.length_replicate]
    split
    · rename_i heq
      exact iff_of_true (if_pos (Nat.lt_succ_of_le hi)) heq.symm
    · rename_i hne
      simp [Ne.symm hne]
  have hends (j : Nat) : Has (spread text r ((List.replicate (text.length + 1) false).set i true)) j ↔
      Spans text r i j := by
    rw [(follows_spread r _ hlength).2 j]
    simp only [hstart, exists_eq_left]
  rw [lengthAt?, Option.map_eq_some_iff]
  simp only [idxOf?_eq_some, hends]
  constructor
  · rintro ⟨k, ⟨hk, hbefore⟩, rfl⟩
    have hle := le_of_spans hk
    rw [Nat.add_sub_cancel' hle]
    exact ⟨hk, fun m hm => hbefore (i + m) (by omega)⟩
  · rintro ⟨hn, hbefore⟩
    refine ⟨i + n, ⟨hn, fun j hj hspans => ?_⟩, Nat.add_sub_cancel_left i n⟩
    have hle := le_of_spans hspans
    exact hbefore (j - i) (by omega) (by rwa [Nat.add_sub_cancel' hle])

end Regex

end Understudy

import Understudy.Proofs.Json.Containment
import Understudy.Proofs.Score.Perfect

/-!
# Equality of whole numbers

Numbers are compared by the doubles that are nearest to them. Between whole numbers this is equality only where doubles
tell them apart: all those of less than 54 bits are doubles themselves, and no other number is rounded to one of them.
Values of whole numbers are equal exactly when they are the same value after rounding (`equals_iff_rounded`); when the
numbers of one of the two are all below `2 ^ 53`, exactly when they are the same value (`rounded_inj`). Beyond that
two different values may be taken for each other.
-/

namespace Understudy

namespace Binary64

theorem ofInt_eq (n : ℤ) : ofInt n = ofMagnitude (n < 0) (n.natAbs : ℕ) := by
  have hnatAbs : (if (n : ℚ) < 0 then -(n : ℚ) else n) = (n.natAbs : ℕ) := by
    rw [Nat.cast_natAbs, Int.cast_abs]
    split
    · rename_i hneg
      rw [abs_of_neg hneg]
    · rename_i hneg
      rw [abs_of_nonneg (not_lt.1 hneg)]
  unfold ofInt ofRat
  rw [hnatAbs]
  simp

theorem nearest_natCast {n : ℕ} (h : n ≤ 2 ^ 53) : nearest n = n :=
  nearest_of_representable (representable_natCast h)

/-- Finite doubles of equal value are the same, negative zeros aside. -/
theorem finite_eq_of_eq {s t : Bool} {a b : ℚ} (ha : 0 ≤ a) (hb : 0 ≤ b)
    (hs : s = true → 0 < a) (ht : t = true → 0 < b)
    (h : (finite s a).eq (finite t b) = true) : finite s a = finite t b := by
  rw [eq, beq_iff_eq] at h
  cases s with
  | false =>
      cases t with
      | false => simpa using h
      | true =>
          have hpos := ht rfl
          simp only [Bool.false_eq_true, if_false, if_true] at h
          linarith
  | true =>
      have hpos := hs rfl
      cases t with
      | false =>
          simp only [Bool.false_eq_true, if_false, if_true] at h
          linarith
      | true => simpa using h

theorem nearest_pos_of_neg {n : ℤ} (h : decide (n < 0) = true) : 0 < nearest (n.natAbs : ℕ) := by
  have hneg : n < 0 := of_decide_eq_true h
  have hone : 1 ≤ n.natAbs := by omega
  exact one_pos.trans_le (le_nearest representable_one (by exact_mod_cast hone))

theorem ofInt_eq_ofInt_iff (m n : ℤ) : (ofInt m).eq (ofInt n) = true ↔ ofInt m = ofInt n := by
  refine ⟨fun h => ?_, fun h => by rw [h]; exact eq_self (ofRat_ne_nan n)⟩
  rw [ofInt_eq, ofInt_eq] at h ⊢
  unfold ofMagnitude at h ⊢
  simp only at h ⊢
  split at h
  · rename_i hmfits
    split at h
    · rename_i hnfits
      rw [if_pos hmfits, if_pos hnfits]
      exact finite_eq_of_eq (representable_nearest _).nonneg (representable_nearest _).nonneg
        nearest_pos_of_neg nearest_pos_of_neg h
    · exact absurd h Bool.false_ne_true
  · rename_i hmfits
    split at h
    · exact absurd h Bool.false_ne_true
    · rename_i hnfits
      rw [eq, beq_iff_eq] at h
      rw [if_neg hmfits, if_neg hnfits, h]

/-- No other whole number is rounded to one of less than 54 bits. -/
theorem nearest_natAbs_inj {m n : ℕ} (hn : n < 2 ^ 53) (h : nearest m = nearest n) : m = n := by
  rw [nearest_natCast hn.le] at h
  rcases lt_trichotomy m n with hlt | heq | hgt
  · rw [nearest_natCast (hlt.trans hn).le] at h
    exact_mod_cast h
  · exact heq
  · have hnext : ((n + 1 : ℕ) : ℚ) ≤ nearest m :=
      le_nearest (representable_natCast hn) (by exact_mod_cast hgt)
    rw [h] at hnext
    push_cast at hnext
    linarith

theorem ofInt_inj {m n : ℤ} (hn : n.natAbs < 2 ^ 53) : ofInt m = ofInt n ↔ m = n := by
  refine ⟨fun h => ?_, fun h => by rw [h]⟩
  have hfits : nearest (n.natAbs : ℕ) < limit := by
    rw [nearest_natCast hn.le]
    refine lt_trans ?_ two_pow_lt_limit
    exact_mod_cast hn
  rw [ofInt_eq, ofInt_eq] at h
  unfold ofMagnitude at h
  simp only [if_pos hfits] at h
  split at h
  · obtain ⟨hsign, hmagnitude⟩ := Binary64.finite.inj h
    have hsame := nearest_natAbs_inj hn hmagnitude
    have hsign : m < 0 ↔ n < 0 := by simpa using hsign
    omega
  · exact absurd h (by simp)

end Binary64

namespace Json

def Number.IsWhole : Number → Prop
  | .whole _ => True
  | .real _ => False

/-- The number is a whole number of less than 54 bits. -/
def Number.IsShort : Number → Prop
  | .whole n => n.natAbs < 2 ^ 53
  | .real _ => False

inductive AllNumbers (P : Number → Prop) : Json → Prop where
  | null : AllNumbers P .null
  | bool (b : Bool) : AllNumbers P (.bool b)
  | number {n : Number} (h : P n) : AllNumbers P (.number n)
  | string (s : String) : AllNumbers P (.string s)
  | array {items : List Json} (h : ∀ v ∈ items, AllNumbers P v) : AllNumbers P (.array items)
  | object {members : List (String × Json)} (h : ∀ m ∈ members, AllNumbers P m.2) :
      AllNumbers P (.object members)

section

variable {P : Number → Prop}

theorem allNumbers_number_iff {n : Number} : AllNumbers P (.number n) ↔ P n :=
  ⟨fun | .number h => h, .number⟩

theorem allNumbers_array_iff {items : List Json} :
    AllNumbers P (.array items) ↔ ∀ v ∈ items, AllNumbers P v :=
  ⟨fun | .array h => h, .array⟩

theorem allNumbers_object_iff {members : List (String × Json)} :
    AllNumbers P (.object members) ↔ ∀ m ∈ members, AllNumbers P m.2 :=
  ⟨fun | .object h => h, .object⟩

end

theorem Number.eq_iff_of_isWhole {m n : Number} (hm : m.IsWhole) (hn : n.IsWhole) :
    m.toBinary64.eq n.toBinary64 = true ↔ m.toBinary64 = n.toBinary64 := by
  cases m with
  | real x => exact hm.elim
  | whole m =>
      cases n with
      | real y => exact hn.elim
      | whole n => exact Binary64.ofInt_eq_ofInt_iff m n

/-- A whole number of less than 54 bits shares its double with no other whole number. -/
theorem Number.eq_of_isShort {m n : Number} (hm : m.IsShort) (hn : n.IsWhole)
    (h : m.toBinary64 = n.toBinary64) : m = n := by
  cases m with
  | real x => exact hm.elim
  | whole m =>
      cases n with
      | real y => exact hn.elim
      | whole n => rw [(Binary64.ofInt_inj hm).1 h.symm]

mutual

/-- The value with the nearest double in the place of each number. -/
def rounded : Json → Json
  | .number n => .number (.real n.toBinary64)
  | .array items => .array (roundedItems items)
  | .object members => .object (roundedMembers members)
  | v => v

def roundedItems : List Json → List Json
  | [] => []
  | v :: vs => rounded v :: roundedItems vs

def roundedMembers : List (String × Json) → List (String × Json)
  | [] => []
  | (n, v) :: ms => (n, rounded v) :: roundedMembers ms

end

theorem roundedItems_eq (items : List Json) : roundedItems items = items.map rounded := by
  induction items with
  | nil => rfl
  | cons v items ih => rw [roundedItems, ih, List.map_cons]

theorem roundedMembers_eq (members : List (String × Json)) :
    roundedMembers members = members.map fun m => (m.1, m.2.rounded) := by
  induction members with
  | nil => rfl
  | cons m members ih => rw [roundedMembers, ih, List.map_cons]

theorem rel_iff_map_eq {α β : Type} {r : α → α → Prop} {f : α → β} {a b : Option α}
    (h : ∀ x ∈ a, ∀ y ∈ b, r x y ↔ f x = f y) : Option.Rel r a b ↔ a.map f = b.map f := by
  constructor
  · intro hab
    cases hab with
    | none => rfl
    | some hxy => exact congrArg some ((h _ rfl _ rfl).1 hxy)
  · intro hab
    cases a with
    | none =>
        cases b with
        | none => exact .none
        | some y => exact absurd hab (by simp)
    | some x =>
        cases b with
        | none => exact absurd hab (by simp)
        | some y => exact .some ((h x rfl y rfl).2 (Option.some.inj hab))

theorem map_eq_map_iff_getElem? {α β : Type} {f : α → β} {xs ys : List α} :
    xs.map f = ys.map f ↔ ∀ i : Nat, xs[i]?.map f = ys[i]?.map f := by
  simp only [List.ext_getElem?_iff, List.getElem?_map]

theorem member?_map (f : Json → Json) (members : List (String × Json)) (name : String) :
    member? (members.map fun m => (m.1, f m.2)) name = (member? members name).map f := by
  simp only [member?, List.find?_map, Option.map_map]
  rfl

theorem eq_iff_member? {es vs : List (String × Json)} (hes : Ascending es) (hvs : Ascending vs) :
    es = vs ↔ ∀ name, member? es name = member? vs name := by
  refine ⟨fun h name => by rw [h], fun h => Ascending.eq_of_perm hes hvs ?_⟩
  have hnodup {ms : List (String × Json)} (hms : Ascending ms) : ms.Nodup :=
    List.Nodup.of_map Prod.fst hms.nodup_fst
  refine (List.perm_ext_iff_of_nodup (hnodup hes) (hnodup hvs)).2 fun m => ⟨fun hm => ?_, fun hm => ?_⟩
  · exact mem_of_member? ((h m.1).symm.trans (member?_of_mem hes hm))
  · exact mem_of_member? ((h m.1).trans (member?_of_mem hvs hm))

theorem ascending_map {members : List (String × Json)} (h : Ascending members) (f : Json → Json) :
    Ascending (members.map fun m => (m.1, f m.2)) :=
  List.pairwise_map.2 h

/-- Values of whole numbers are equal when they are the same value after rounding. -/
theorem equals_iff_rounded {e v : Json} (he : e.Free) (hv : v.Free)
    (hewhole : e.AllNumbers Number.IsWhole) (hvwhole : v.AllNumbers Number.IsWhole) :
    equals false e v = true ↔ e.rounded = v.rounded := by
  induction he generalizing v with
  | null => cases hv <;> simp [equals, sameLeaf, rounded]
  | bool b => cases hv <;> simp [equals, sameLeaf, rounded]
  | string s => cases hv <;> simp [equals, sameLeaf, sameText, rounded]
  | number =>
      rw [allNumbers_number_iff] at hewhole
      cases hv with
      | number =>
          rw [allNumbers_number_iff] at hvwhole
          rw [equals_of_isLeaf rfl, sameLeaf, Number.eq_iff_of_isWhole hewhole hvwhole]
          simp [rounded]
      | _ => simp [equals, sameLeaf, rounded]
  | array _ ih =>
      rw [allNumbers_array_iff] at hewhole
      cases hv with
      | array hvs =>
          rw [allNumbers_array_iff] at hvwhole
          rw [equals, equalItems_iff, rounded, rounded, roundedItems_eq, roundedItems_eq,
            Json.array.injEq, map_eq_map_iff_getElem?]
          refine forall_congr' fun i => rel_iff_map_eq fun x hx y hy => ?_
          have hx := List.mem_of_getElem? hx
          have hy := List.mem_of_getElem? hy
          exact ih x hx (hvs y hy) (hewhole x hx) (hvwhole y hy)
      | _ => simp [equals, sameLeaf, rounded]
  | object horder _ ih =>
      rw [allNumbers_object_iff] at hewhole
      cases hv with
      | object hvorder hvs =>
          rw [allNumbers_object_iff] at hvwhole
          rw [equals_object_iff horder hvorder, rounded, rounded, roundedMembers_eq,
            roundedMembers_eq, Json.object.injEq,
            eq_iff_member? (ascending_map horder _) (ascending_map hvorder _)]
          refine forall_congr' fun name => ?_
          rw [member?_map, member?_map]
          refine rel_iff_map_eq fun x hx y hy => ?_
          have hx := mem_of_member? hx
          have hy := mem_of_member? hy
          exact ih _ hx (hvs _ hy) (hewhole _ hx) (hvwhole _ hy)
      | _ => simp [equals, sameLeaf, rounded]

theorem eq_of_map_eq_map {α β : Type} {f : α → β} {xs ys : List α}
    (h : ∀ x ∈ xs, ∀ y ∈ ys, f x = f y → x = y) (hmap : xs.map f = ys.map f) : xs = ys := by
  induction xs generalizing ys with
  | nil => exact (List.map_eq_nil_iff.1 hmap.symm).symm
  | cons x xs ih =>
      obtain ⟨y, ys, rfl, hxy, hrest⟩ := List.map_eq_cons_iff.1 hmap.symm
      rw [List.forall_mem_cons] at h
      rw [h.1 y List.mem_cons_self hxy.symm,
        ih (fun x hx y hy => h.2 x hx y (List.mem_cons_of_mem _ hy)) hrest.symm]

/-- A value of whole numbers of less than 54 bits is told by its rounded form among all values of whole numbers. -/
theorem eq_of_rounded_eq {e v : Json} (he : e.AllNumbers Number.IsShort)
    (hv : v.AllNumbers Number.IsWhole) (h : e.rounded = v.rounded) : e = v := by
  induction he generalizing v with
  | null => cases hv <;> simp_all [rounded]
  | bool b => cases hv <;> simp_all [rounded]
  | string s => cases hv <;> simp_all [rounded]
  | number hm =>
      cases hv with
      | number hn =>
          rw [rounded, rounded] at h
          rw [Number.eq_of_isShort hm hn (by simpa using h)]
      | _ => exact absurd h (by simp [rounded])
  | array _ ih =>
      cases hv with
      | array hvs =>
          rw [rounded, rounded, roundedItems_eq, roundedItems_eq, Json.array.injEq] at h
          rw [eq_of_map_eq_map (fun x hx y hy hxy => ih x hx (hvs y hy) hxy) h]
      | _ => exact absurd h (by simp [rounded])
  | object _ ih =>
      cases hv with
      | object hvs =>
          rw [rounded, rounded, roundedMembers_eq, roundedMembers_eq, Json.object.injEq] at h
          refine congrArg Json.object (eq_of_map_eq_map (fun x hx y hy hxy => ?_) h)
          obtain ⟨hname, hvalue⟩ := Prod.mk.inj hxy
          exact Prod.ext hname (ih x hx (hvs y hy) hvalue)
      | _ => exact absurd h (by simp [rounded])

end Json

namespace Matcher

open Json (AllNumbers Number)

/--
Between values of whole numbers of 64 bits a matcher for one of them accepts exactly what is the same value after
rounding. When the numbers of either value all have less than 54 bits, it accepts exactly the same value.
-/
theorem score_json_iff_rounded {e v : Json} (he : e.Free) (hv : v.Free)
    (hewhole : e.AllNumbers Number.IsWhole) (hvwhole : v.AllNumbers Number.IsWhole) :
    (((json e).score (.json v) : Score) = Scale.one ↔ e.rounded = v.rounded) ∧
    (e.AllNumbers Number.IsShort ∨ v.AllNumbers Number.IsShort →
      (((json e).score (.json v) : Score) = Scale.one ↔ e = v)) := by
  have hrounded : ((json e).score (.json v) : Score) = Scale.one ↔ e.rounded = v.rounded := by
    rw [score_json, Scale.ofBool_eq_one, Attribute.json?, Option.any_some,
      Json.equals_iff_rounded he hv hewhole hvwhole]
  refine ⟨hrounded, fun hshort => hrounded.trans ⟨fun h => ?_, fun h => by rw [h]⟩⟩
  rcases hshort with heshort | hvshort
  · exact Json.eq_of_rounded_eq heshort hvwhole h
  · exact (Json.eq_of_rounded_eq hvshort hewhole h.symm).symm

def longOrder : Json := .object [("id", .number (.whole 9007199254740993))]

def orderBefore : Json := .object [("id", .number (.whole 9007199254740992))]

def shortOrder : Json := .object [("id", .number (.whole 9007199254740991))]

theorem free_order {n : Int} (h : (Number.whole n).InRange) :
    Json.Free (.object [("id", .number (.whole n))]) :=
  .object (List.pairwise_singleton _ _) (List.forall_mem_singleton.2 (.number h))

theorem allNumbers_order {P : Number → Prop} {n : Number} (h : P n) :
    AllNumbers P (.object [("id", .number n)]) :=
  .object (List.forall_mem_singleton.2 (.number h))

theorem shortOrder_rejects_longOrder :
    shortOrder.Free ∧ longOrder.Free ∧ shortOrder.AllNumbers Number.IsShort ∧
      longOrder.AllNumbers Number.IsWhole ∧
      ((json shortOrder).score (.json longOrder) : Score) ≠ Scale.one ∧
      ((json shortOrder).score (.json shortOrder) : Score) = Scale.one := by
  have hshort : shortOrder.Free := free_order (by simp [Number.InRange])
  have hlong : longOrder.Free := free_order (by simp [Number.InRange])
  have hbits : shortOrder.AllNumbers Number.IsShort :=
    allNumbers_order (by simp [Number.IsShort])
  have hshortWhole : shortOrder.AllNumbers Number.IsWhole := allNumbers_order trivial
  have hlongWhole : longOrder.AllNumbers Number.IsWhole := allNumbers_order trivial
  have hne : shortOrder ≠ longOrder := by simp [shortOrder, longOrder]
  have hother := (score_json_iff_rounded hshort hlong hshortWhole hlongWhole).2 (.inl hbits)
  have hself := (score_json_iff_rounded hshort hshort hshortWhole hshortWhole).2 (.inl hbits)
  exact ⟨hshort, hlong, hbits, hlongWhole, mt hother.1 hne, hself.2 rfl⟩

/-- Two orders of different numbers are taken for each other. -/
theorem longOrder_accepts_orderBefore :
    longOrder.Free ∧ orderBefore.Free ∧ longOrder.AllNumbers Number.IsWhole ∧
      orderBefore.AllNumbers Number.IsWhole ∧ longOrder ≠ orderBefore ∧
      ((json longOrder).score (.json orderBefore) : Score) = Scale.one := by
  have hlong : longOrder.Free := free_order (by simp [Number.InRange])
  have hbefore : orderBefore.Free := free_order (by simp [Number.InRange])
  have hlongWhole : longOrder.AllNumbers Number.IsWhole := allNumbers_order trivial
  have hbeforeWhole : orderBefore.AllNumbers Number.IsWhole := allNumbers_order trivial
  have hdouble : Binary64.ofInt 9007199254740993 = Binary64.ofInt 9007199254740992 := by
    decide +kernel
  have hrounded : longOrder.rounded = orderBefore.rounded := by
    simp [longOrder, orderBefore, Json.rounded, Json.roundedMembers, Number.toBinary64, hdouble]
  refine ⟨hlong, hbefore, hlongWhole, hbeforeWhole, by simp [longOrder, orderBefore], ?_⟩
  rw [score_json, Scale.ofBool_eq_one]
  exact (Json.equals_iff_rounded hlong hbefore hlongWhole hbeforeWhole).2 hrounded

end Matcher

end Understudy

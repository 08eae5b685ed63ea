import Understudy.Json.Comparison
import Understudy.Json.Written
import Understudy.Proofs.Score.Binary64
import Understudy.Proofs.Text.Ascending

/-!
# Values that were read

The value that a text stands for is `Free`: the members of its objects are in ascending order, each name once, and its
numbers are whole numbers of 64 bits or finite doubles. A free value equals itself, with or without regard to case;
without these two properties it need not, because members are found by name and not-a-number equals nothing.
-/

namespace Understudy

namespace Binary64

/-- A finite double whose magnitude is not above `2 ^ 64`. -/
def Small (x : Binary64) : Prop := ∃ s m, x = .finite s m ∧ 0 ≤ m ∧ m ≤ 2 ^ 64

theorem Small.isFinite {x : Binary64} (h : Small x) : x.isFinite = true := by
  obtain ⟨s, m, rfl, -, -⟩ := h
  rfl

theorem small_ofMagnitude (s : Bool) {x : ℚ} (h : x ≤ 2 ^ 64) : Small (ofMagnitude s x) := by
  have hrep : Representable (2 ^ 64) := ⟨1, 64, by norm_num, by norm_num, by norm_num⟩
  have hround : nearest x ≤ 2 ^ 64 := nearest_le hrep h
  have hlimit : (2 : ℚ) ^ 64 < limit := by
    unfold limit
    exact_mod_cast Nat.pow_lt_pow_right (by norm_num) (by norm_num)
  refine ⟨s, nearest x, ?_, (representable_nearest x).nonneg, hround⟩
  unfold ofMagnitude
  exact if_pos (hround.trans_lt hlimit)

theorem small_ofNat {n : ℕ} (h : n < 0x10000000000000000) : Small (ofNat n) := by
  rw [ofNat_eq]
  refine small_ofMagnitude false ?_
  have hle : n ≤ 2 ^ 64 := by omega
  exact_mod_cast hle

theorem eq_self {x : Binary64} (h : x ≠ .nan) : x.eq x = true := by
  cases x with
  | nan => exact absurd rfl h
  | infinite s => simp [eq]
  | finite s m => simp [eq]

theorem ofRat_ne_nan (x : ℚ) : ofRat x ≠ .nan := by
  unfold ofRat ofMagnitude
  extract_lets r
  split <;> simp

theorem small_div_ofNat {x : Binary64} (hx : Small x) {n : ℕ} (hn : 0 < n) :
    Small (x.div (ofNat n)) := by
  obtain ⟨s, m, rfl, hnonneg, hle⟩ := hx
  have hone : 1 ≤ nearest n := le_nearest representable_one (by exact_mod_cast hn)
  rw [ofNat_eq, ofMagnitude]
  split
  · have hne : (nearest n == 0) = false := by
      rw [beq_eq_false_iff_ne]
      exact (one_pos.trans_le hone).ne'
    rw [div, hne]
    refine small_ofMagnitude _ ?_
    exact (div_le_self hnonneg hone).trans hle
  · exact ⟨_, 0, rfl, le_rfl, by positivity⟩

end Binary64

namespace Json

/-- The number is a whole number of 64 bits, with or without a sign, or a finite double. -/
def Number.InRange : Number → Prop
  | .whole n => -0x8000000000000000 ≤ n ∧ n < 0x10000000000000000
  | .real x => x.isFinite = true

/-- The value has its members in order and its numbers in range, throughout. -/
inductive Free : Json → Prop where
  | null : Free .null
  | bool (b : Bool) : Free (.bool b)
  | number {n : Number} (h : n.InRange) : Free (.number n)
  | string (s : String) : Free (.string s)
  | array {items : List Json} (h : ∀ v ∈ items, Free v) : Free (.array items)
  | object {members : List (String × Json)} (order : Ascending members)
      (h : ∀ m ∈ members, Free m.2) : Free (.object members)

theorem member?_of_mem {members : List (String × Json)} (h : Ascending members)
    {m : String × Json} (hm : m ∈ members) : member? members m.1 = some m.2 := by
  rw [member?, h.find?_of_mem hm]
  rfl

theorem sameText_refl (ignoreCase : Bool) (s : String) : sameText ignoreCase s s = true := by
  cases ignoreCase <;> simp [sameText]

theorem Number.eq_self_of_inRange {n : Number} (h : n.InRange) :
    n.toBinary64.eq n.toBinary64 = true := by
  cases n with
  | whole n => exact Binary64.eq_self (Binary64.ofRat_ne_nan n)
  | real x =>
      refine Binary64.eq_self fun hnan => ?_
      rw [Number.toBinary64] at hnan
      rw [Number.InRange, hnan] at h
      exact Bool.false_ne_true h

theorem equalItems_self {ignoreCase : Bool} {items : List Json}
    (h : ∀ v ∈ items, equals ignoreCase v v = true) : equalItems ignoreCase items items = true := by
  induction items with
  | nil => rfl
  | cons v items ih =>
      rw [List.forall_mem_cons] at h
      rw [equalItems, h.1, ih h.2]
      rfl

theorem equalMembers_of_forall {ignoreCase : Bool} {expected members : List (String × Json)}
    (h : ∀ m ∈ expected, ∃ v, member? members m.1 = some v ∧ equals ignoreCase m.2 v = true) :
    equalMembers ignoreCase expected members = true := by
  induction expected with
  | nil => rfl
  | cons m expected ih =>
      rw [List.forall_mem_cons] at h
      obtain ⟨v, hfound, hequal⟩ := h.1
      rw [equalMembers, hfound, ih h.2, Bool.and_true]
      exact hequal

theorem Free.equals_self {v : Json} (h : Free v) (ignoreCase : Bool) :
    equals ignoreCase v v = true := by
  induction h with
  | null => rfl
  | bool b => simp [equals, sameLeaf]
  | number hn => simpa [equals, sameLeaf] using Number.eq_self_of_inRange hn
  | string s => simpa [equals, sameLeaf] using sameText_refl ignoreCase s
  | array _ ih => simpa [equals] using equalItems_self ih
  | object order _ ih =>
      rw [equals, beq_self_eq_true, Bool.true_and]
      exact equalMembers_of_forall fun m hm => ⟨m.2, member?_of_mem order hm, ih m hm⟩

namespace Written

-- the powers of the core library, as where texts are read
attribute [local instance (1100)] instPowNat

theorem leadingDigits_lt {start : Nat} (h : start < 0x10000000000000000) (cs : List Char) :
    (leadingDigits start cs).1 < 0x10000000000000000 := by
  induction cs generalizing start with
  | nil => exact h
  | cons c cs ih =>
      rw [leadingDigits]
      split
      · rename_i hnext
        exact ih hnext
      · exact h

/-- Powers of ten are put on a small double without leaving the range, or there is no number. -/
theorem isFinite_of_scale {fuel : Nat} {x y : Binary64} {e : Int} (hx : x.Small)
    (h : scale fuel x e = some y) : y.isFinite = true := by
  induction fuel generalizing x e with
  | zero =>
      obtain rfl := Option.some.inj h
      exact hx.isFinite
  | succ fuel ih =>
      have hpos (k : Nat) : 0 < 10 ^ k := Nat.pow_pos (by norm_num)
      rw [scale] at h
      simp only at h
      split at h
      · split at h
        · split at h
          · rename_i hfinite
            obtain rfl := Option.some.inj h
            exact hfinite
          · exact absurd h (by simp)
        · obtain rfl := Option.some.inj h
          exact (Binary64.small_div_ofNat hx (hpos _)).isFinite
      · split at h
        · obtain rfl := Option.some.inj h
          exact hx.isFinite
        · split at h
          · exact absurd h (by simp)
          · exact ih (Binary64.small_div_ofNat hx (hpos _)) h

theorem isFinite_neg {x : Binary64} (h : x.isFinite = true) : x.neg.isFinite = true := by
  cases x with
  | finite s m => rfl
  | _ => exact absurd h (by simp [Binary64.isFinite])

theorem isFinite_of_real? {negative : Bool} {whole fraction : List Char} {exponent : Int}
    {x : Binary64} (h : real? negative whole fraction exponent = some x) : x.isFinite = true := by
  have hdigits : (leadingDigits (leadingDigits 0 whole).1 fraction).1 < 0x10000000000000000 :=
    leadingDigits_lt (leadingDigits_lt (by norm_num) whole) fraction
  have hsmall := Binary64.small_ofNat hdigits
  unfold real? at h
  simp only at h
  split at h
  · have hx : x = .finite negative 0 := by
      split at h <;>
        · dsimp only at h
          split at h <;> simp_all
    rw [hx]
    rfl
  · obtain ⟨y, hy, rfl⟩ := Option.map_eq_some_iff.1 h
    have hfinite : y.isFinite = true := by
      split at hy
      · exact isFinite_of_scale hsmall hy
      · exact isFinite_of_scale hsmall hy
    split
    · exact isFinite_neg hfinite
    · exact hfinite

theorem inRange_of_numberOf {negative : Bool} {whole fraction : List Char} {exponent : Option Int}
    {n : Number} (h : numberOf negative whole fraction exponent = some n) : n.InRange := by
  unfold numberOf at h
  simp only at h
  split at h
  · rename_i hfits
    obtain rfl := Option.some.inj h
    simp only [Bool.and_eq_true, decide_eq_true_eq] at hfits
    have hlt := hfits.2
    refine ⟨by omega, by exact_mod_cast hlt⟩
  · split at h
    · rename_i hfits
      obtain rfl := Option.some.inj h
      simp only [Bool.and_eq_true, decide_eq_true_eq] at hfits
      have hle := hfits.2
      refine ⟨by omega, by omega⟩
    · obtain ⟨x, hx, rfl⟩ := Option.map_eq_some_iff.1 h
      exact isFinite_of_real? hx

theorem inRange_of_number? {cs rest : List Char} {n : Number}
    (h : number? cs = some (some n, rest)) : n.InRange := by
  unfold number? at h
  simp only at h
  repeat' split at h
  all_goals
    first
    | obtain ⟨hn, -⟩ := Prod.mk.inj (Option.some.inj h)
      exact inRange_of_numberOf hn
    | exact absurd h (by simp)

/-- The numbers of a text, as far as it is JSON, are in range or beyond the largest double. -/
inductive InRange : Written → Prop where
  | null : InRange .null
  | bool (b : Bool) : InRange (.bool b)
  | number {n : Option Number} (h : ∀ k ∈ n, k.InRange) : InRange (.number n)
  | string (s : String) : InRange (.string s)
  | array {items : List Written} (h : ∀ v ∈ items, InRange v) : InRange (.array items)
  | object {members : List (String × Written)} (h : ∀ m ∈ members, InRange m.2) :
      InRange (.object members)
  | fault : InRange .fault

theorem inRange_word {v : Written} (hv : v.InRange) (expected : String) (cs : List Char) :
    (word expected v cs).1.InRange := by
  unfold word
  simp only
  split
  · exact hv
  · exact .fault

/-- What is read of a text has its numbers in range: a value, items and members. -/
theorem inRange_of_fuel (fuel : Nat) :
    (∀ cs, (value fuel cs).1.InRange) ∧ (∀ cs, ∀ v ∈ (items fuel cs).1, v.InRange) ∧
      ∀ cs, ∀ m ∈ (members fuel cs).1, m.2.InRange := by
  induction fuel with
  | zero => simp [value, items, members, InRange.fault]
  | succ fuel ih =>
      obtain ⟨hvalue, hitems, hmembers⟩ := ih
      refine ⟨fun cs => ?_, fun cs => ?_, fun cs => ?_⟩
      · rw [value]
        split
        · exact .fault
        · split
          · exact .array (by simp)
          · exact .array (hitems _)
        · split
          · exact .object (by simp)
          · exact .object (hmembers _)
        · split
          · exact .string _
          · exact .fault
        · exact inRange_word .null _ _
        · exact inRange_word (.bool true) _ _
        · exact inRange_word (.bool false) _ _
        · split
          · rename_i n _ hnumber
            refine .number fun k hk => ?_
            rw [Option.mem_def.1 hk] at hnumber
            exact inRange_of_number? hnumber
          · exact .fault
      · rw [items]
        split
        · simp [InRange.fault]
        · rename_i v rest _ hv
          have hfirst : v.InRange := by
            have hread := hvalue cs
            rwa [hv] at hread
          split
          · exact List.forall_mem_cons.2 ⟨hfirst, hitems _⟩
          · simpa using hfirst
          · simp [hfirst, InRange.fault]
      · rw [members]
        split
        · split
          · simp [InRange.fault]
          · split
            · split
              · simp [InRange.fault]
              · rename_i rest _ _ v _ _ hv
                have hfirst : v.InRange := by
                  have hread := hvalue rest
                  rwa [hv] at hread
                split
                · exact List.forall_mem_cons.2 ⟨hfirst, hmembers _⟩
                · simpa using hfirst
                · simp [hfirst, InRange.fault]
            · simp [InRange.fault]
        · simp [InRange.fault]

theorem forall_of_toItems? {P : Json → Prop} {depth : Nat} {items : List Written} {xs : List Json}
    (h : toItems? depth items = some xs)
    (hitem : ∀ w ∈ items, ∀ x, toJson? depth w = some x → P x) : ∀ x ∈ xs, P x := by
  induction items generalizing xs with
  | nil =>
      obtain rfl := Option.some.inj h
      simp
  | cons w items ih =>
      rw [toItems?] at h
      rw [List.forall_mem_cons] at hitem
      split at h
      · rename_i x rest hx hrest
        obtain rfl := Option.some.inj h
        exact List.forall_mem_cons.2 ⟨hitem.1 x hx, ih hrest hitem.2⟩
      · exact absurd h (by simp)

theorem forall_of_toMembers? {P : Json → Prop} {depth : Nat} {members : List (String × Written)}
    {xs : List (String × Json)} (h : toMembers? depth members = some xs)
    (hmember : ∀ m ∈ members, ∀ x, toJson? depth m.2 = some x → P x) : ∀ x ∈ xs, P x.2 := by
  induction members generalizing xs with
  | nil =>
      obtain rfl := Option.some.inj h
      simp
  | cons m members ih =>
      rw [toMembers?] at h
      rw [List.forall_mem_cons] at hmember
      split at h
      · rename_i x rest hx hrest
        obtain rfl := Option.some.inj h
        exact List.forall_mem_cons.2 ⟨hmember.1 x hx, ih hrest hmember.2⟩
      · exact absurd h (by simp)

/-- A text with its numbers in range stands for a free value, if for any. -/
theorem free_of_toJson? {w : Written} (h : w.InRange) {depth : Nat} {v : Json}
    (hv : w.toJson? depth = some v) : v.Free := by
  induction h generalizing depth v with
  | null =>
      obtain rfl := Option.some.inj hv
      exact .null
  | bool b =>
      obtain rfl := Option.some.inj hv
      exact .bool b
  | number hn =>
      obtain ⟨n, hsome, rfl⟩ := Option.map_eq_some_iff.1 hv
      exact .number (hn n hsome)
  | string s =>
      obtain rfl := Option.some.inj hv
      exact .string s
  | array _ ih =>
      cases depth with
      | zero => exact absurd hv (by simp [toJson?])
      | succ depth =>
          obtain ⟨xs, hxs, rfl⟩ := Option.map_eq_some_iff.1 hv
          exact .array (forall_of_toItems? hxs fun w hw x hx => ih w hw hx)
  | object _ ih =>
      cases depth with
      | zero => exact absurd hv (by simp [toJson?])
      | succ depth =>
          obtain ⟨xs, hxs, rfl⟩ := Option.map_eq_some_iff.1 hv
          have hfree := forall_of_toMembers? hxs fun m hm x hx => ih m hm hx
          rw [Json.ofMembers]
          exact .object (Ascending.sort_ascending xs) fun m hm => hfree m (Ascending.mem_of_mem_sort hm)
  | fault => exact absurd hv (by simp [toJson?])

end Written

/-- The value that a text stands for is free. -/
theorem free_of_parse? {text : String} {v : Json} (h : parse? text = some v) : v.Free := by
  unfold parse? at h
  simp only at h
  split at h
  · have hread := (Written.inRange_of_fuel (text.toList.length + 1)).1 text.toList
    exact Written.free_of_toJson? hread h
  · exact absurd h (by simp)

end Json

end Understudy

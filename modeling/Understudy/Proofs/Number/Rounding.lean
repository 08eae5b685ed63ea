import Mathlib.Algebra.Order.Field.Power
import Mathlib.Data.Rat.Cast.Order
import Mathlib.Tactic.FieldSimp
import Mathlib.Tactic.Linarith
import Mathlib.Tactic.NormNum
import Mathlib.Tactic.Positivity
import Mathlib.Tactic.Ring
import Understudy.Number.Binary64

/-!
# Rounding to the nearest double

`Binary64.nearest` is pinned down by the magnitudes with a 53-bit significand, the `Representable` ones: it is one of
them, and it never crosses one (`nearest_le`, `le_nearest`), so it leaves them where they are. The one place where
the tie rule matters is `nearest_le_two_pow`: counting on by ones stops at `2 ^ 53`.
-/

namespace Understudy

namespace Binary64

theorem twoPow_eq (e : Int) : twoPow e = (2 : ℚ) ^ e := by
  unfold twoPow
  split
  · rename_i h
    obtain ⟨n, rfl⟩ : ∃ n : ℕ, e = -(n : ℤ) := ⟨e.natAbs, by omega⟩
    rw [Int.natAbs_neg, Int.natAbs_natCast, zpow_neg, zpow_natCast, Rat.mkRat_eq_div]
    simp
  · rename_i h
    obtain ⟨n, rfl⟩ : ∃ n : ℕ, e = (n : ℤ) := ⟨e.toNat, by omega⟩
    simp

theorem le_roundHalfEven {num den k : ℕ} (hden : 0 < den) (h : k * den ≤ num) :
    k ≤ roundHalfEven num den := by
  have hk : k ≤ num / den := (Nat.le_div_iff_mul_le hden).2 h
  unfold roundHalfEven
  simp only
  split
  · exact hk
  · split
    · omega
    · split <;> omega

theorem roundHalfEven_le_succ (num den : ℕ) : roundHalfEven num den ≤ num / den + 1 := by
  unfold roundHalfEven
  simp only
  split
  · omega
  · split
    · omega
    · split <;> omega

/-- A bound half a unit above an even number holds the result back to that number. -/
theorem roundHalfEven_le_of_half {num den k : ℕ} (hden : 0 < den) (heven : k % 2 = 0)
    (h : 2 * num ≤ (2 * k + 1) * den) : roundHalfEven num den ≤ k := by
  have hdiv := Nat.div_add_mod num den
  rcases Nat.lt_or_ge (num / den) k with hlt | hge
  · exact (roundHalfEven_le_succ num den).trans hlt
  · have hmul : den * k ≤ den * (num / den) := Nat.mul_le_mul_left den hge
    have hhalf : 2 * (num % den) ≤ den := by
      have hexp : (2 * k + 1) * den = 2 * (den * k) + den := by ring
      omega
    have hq : num / den = k := by
      apply Nat.le_antisymm _ hge
      by_contra hcon
      have hmore : den * (k + 1) ≤ den * (num / den) :=
        Nat.mul_le_mul_left den (by omega)
      have hexp : (2 * k + 1) * den = 2 * (den * k) + den := by ring
      have hexp' : den * (k + 1) = den * k + den := by ring
      omega
    unfold roundHalfEven
    simp only [hq, heven, if_true]
    split
    · exact le_rfl
    · split
      · omega
      · exact le_rfl

theorem roundHalfEven_le {num den k : ℕ} (hden : 0 < den) (h : num ≤ k * den) :
    roundHalfEven num den ≤ k := by
  have hdiv := Nat.div_add_mod num den
  rcases Nat.lt_or_ge (num / den) k with hlt | hge
  · exact (roundHalfEven_le_succ num den).trans hlt
  · have hmul : den * k ≤ den * (num / den) := Nat.mul_le_mul_left den hge
    have hcomm : k * den = den * k := Nat.mul_comm k den
    have hmod : num % den = 0 := by omega
    have hq : num / den = k := by
      apply Nat.eq_of_mul_eq_mul_left hden
      omega
    unfold roundHalfEven
    simp only [hq, hmod]
    split
    · exact le_rfl
    · omega

theorem exists_units_eq (num : ℕ) {den : ℕ} (hden : 0 < den) (q : ℤ) :
    ∃ a b : ℕ, 0 < b ∧ units num den q = roundHalfEven a b ∧
      (a : ℚ) = (num : ℚ) / den / 2 ^ q * b := by
  have hd : (den : ℚ) ≠ 0 := by exact_mod_cast hden.ne'
  unfold units
  split
  · rename_i hq
    obtain ⟨n, rfl⟩ : ∃ n : ℕ, q = -(n : ℤ) := ⟨q.natAbs, by omega⟩
    refine ⟨num * 2 ^ n, den, hden, by simp, ?_⟩
    rw [zpow_neg, zpow_natCast]
    push_cast
    field_simp
  · rename_i hq
    obtain ⟨n, rfl⟩ : ∃ n : ℕ, q = (n : ℤ) := ⟨q.toNat, by omega⟩
    refine ⟨num, den * 2 ^ n, by positivity, by simp, ?_⟩
    rw [zpow_natCast]
    push_cast
    field_simp

theorem le_units {num den k : ℕ} {q : ℤ} (hden : 0 < den)
    (h : (k : ℚ) * 2 ^ q ≤ (num : ℚ) / den) : k ≤ units num den q := by
  obtain ⟨a, b, hb, hunits, ha⟩ := exists_units_eq num hden q
  rw [hunits]
  apply le_roundHalfEven hb
  have hk : (k : ℚ) ≤ (num : ℚ) / den / 2 ^ q := (le_div_iff₀ (by positivity)).2 h
  have hkb : (k : ℚ) * b ≤ a := by
    rw [ha]
    exact mul_le_mul_of_nonneg_right hk (Nat.cast_nonneg b)
  exact_mod_cast hkb

theorem units_le {num den k : ℕ} {q : ℤ} (hden : 0 < den)
    (h : (num : ℚ) / den ≤ k * 2 ^ q) : units num den q ≤ k := by
  obtain ⟨a, b, hb, hunits, ha⟩ := exists_units_eq num hden q
  rw [hunits]
  apply roundHalfEven_le hb
  have hk : (num : ℚ) / den / 2 ^ q ≤ k := (div_le_iff₀ (by positivity)).2 h
  have hkb : (a : ℚ) ≤ k * b := by
    rw [ha]
    exact mul_le_mul_of_nonneg_right hk (Nat.cast_nonneg b)
  exact_mod_cast hkb

/-- A tie goes to an even number of last places. -/
theorem units_le_of_half {num den k : ℕ} {q : ℤ} (hden : 0 < den) (heven : k % 2 = 0)
    (h : (num : ℚ) / den ≤ (k + 1 / 2) * 2 ^ q) : units num den q ≤ k := by
  obtain ⟨a, b, hb, hunits, ha⟩ := exists_units_eq num hden q
  rw [hunits]
  apply roundHalfEven_le_of_half hb heven
  have hk : (num : ℚ) / den / 2 ^ q ≤ k + 1 / 2 := (div_le_iff₀ (by positivity)).2 h
  have hkb : 2 * (a : ℚ) ≤ (2 * k + 1) * b := by
    rw [ha]
    have hmul := mul_le_mul_of_nonneg_right hk (Nat.cast_nonneg (α := ℚ) b)
    linarith
  exact_mod_cast hkb

theorem zpow_log2_bounds {num den : ℕ} (hnum : 0 < num) (hden : 0 < den) :
    (2 : ℚ) ^ ((num.log2 : ℤ) - den.log2 - 1) ≤ (num : ℚ) / den ∧
      (num : ℚ) / den < 2 ^ ((num.log2 : ℤ) - den.log2 + 1) := by
  have hd : (0 : ℚ) < den := by exact_mod_cast hden
  have hnumLow : (2 : ℚ) ^ num.log2 ≤ num := by exact_mod_cast Nat.log2_self_le hnum.ne'
  have hnumHigh : (num : ℚ) < 2 ^ (num.log2 + 1) := by exact_mod_cast Nat.lt_log2_self (n := num)
  have hdenLow : (2 : ℚ) ^ den.log2 ≤ den := by exact_mod_cast Nat.log2_self_le hden.ne'
  have hdenHigh : (den : ℚ) < 2 ^ (den.log2 + 1) := by exact_mod_cast Nat.lt_log2_self (n := den)
  constructor
  · have hsplit : (2 : ℚ) ^ ((num.log2 : ℤ) - den.log2 - 1) =
        2 ^ num.log2 / 2 ^ (den.log2 + 1) := by
      rw [sub_sub, zpow_sub₀ two_ne_zero]
      norm_cast
    rw [hsplit, div_le_div_iff₀ (by positivity) hd]
    exact mul_le_mul hnumLow hdenHigh.le hd.le (Nat.cast_nonneg num)
  · have hsplit : (2 : ℚ) ^ ((num.log2 : ℤ) - den.log2 + 1) =
        2 ^ (num.log2 + 1) / 2 ^ den.log2 := by
      rw [sub_add_eq_add_sub, zpow_sub₀ two_ne_zero]
      norm_cast
    rw [hsplit, div_lt_div_iff₀ hd (by positivity)]
    exact mul_lt_mul hnumHigh hdenLow (by positivity) (by positivity)

theorem fits_iff {num den : ℕ} (hden : 0 < den) (g : ℤ) :
    (if g < 0 then decide (den ≤ num * 2 ^ g.natAbs) else decide (den * 2 ^ g.toNat ≤ num)) = true ↔
      (2 : ℚ) ^ g ≤ (num : ℚ) / den := by
  have hd : (0 : ℚ) < den := by exact_mod_cast hden
  rw [le_div_iff₀ hd]
  split
  · rename_i hg
    obtain ⟨n, rfl⟩ : ∃ n : ℕ, g = -(n : ℤ) := ⟨g.natAbs, by omega⟩
    rw [decide_eq_true_iff, Int.natAbs_neg, Int.natAbs_natCast, zpow_neg, zpow_natCast,
      inv_mul_le_iff₀ (by positivity), mul_comm]
    exact_mod_cast Iff.rfl
  · rename_i hg
    obtain ⟨n, rfl⟩ : ∃ n : ℕ, g = (n : ℤ) := ⟨g.toNat, by omega⟩
    rw [decide_eq_true_iff, Int.toNat_natCast, zpow_natCast, mul_comm]
    exact_mod_cast Iff.rfl

theorem floorLog2_bounds {num den : ℕ} (hnum : 0 < num) (hden : 0 < den) :
    (2 : ℚ) ^ floorLog2 num den ≤ (num : ℚ) / den ∧
      (num : ℚ) / den < 2 ^ (floorLog2 num den + 1) := by
  obtain ⟨hlow, hhigh⟩ := zpow_log2_bounds hnum hden
  unfold floorLog2
  simp only [fits_iff hden]
  split
  · rename_i h
    exact ⟨h, hhigh⟩
  · rename_i h
    refine ⟨hlow, ?_⟩
    rw [sub_add_cancel]
    exact not_le.1 h

theorem toNat_num_div_den {x : ℚ} (hx : 0 < x) : (x.num.toNat : ℚ) / x.den = x := by
  have hnum := Rat.num_pos.2 hx
  have hcast : (x.num.toNat : ℚ) = (x.num : ℚ) := by
    exact_mod_cast Int.toNat_of_nonneg hnum.le
  rw [hcast, Rat.num_div_den]

/-- What the exponent of the last place says about a magnitude. -/
theorem lastPlace_spec {x : ℚ} (hx : 0 < x) :
    -1074 ≤ lastPlace x.num.toNat x.den ∧
      x < 2 ^ (lastPlace x.num.toNat x.den + 53) ∧
      (-1074 < lastPlace x.num.toNat x.den → 2 ^ (lastPlace x.num.toNat x.den + 52) ≤ x) := by
  have hnum : 0 < x.num.toNat := by
    have := Rat.num_pos.2 hx
    omega
  obtain ⟨hlow, hhigh⟩ := floorLog2_bounds hnum x.den_pos
  rw [toNat_num_div_den hx] at hlow hhigh
  unfold lastPlace
  refine ⟨le_max_right _ _, ?_, ?_⟩
  · refine hhigh.trans_le (zpow_le_zpow_right₀ one_le_two ?_)
    omega
  · intro h
    have heq : max (floorLog2 x.num.toNat x.den - 52) (-1074) + 52 =
        floorLog2 x.num.toNat x.den := by omega
    rwa [heq]

/-- A magnitude with a significand of 53 bits, or the power of two after them. -/
def Representable (y : ℚ) : Prop :=
  ∃ (j : ℕ) (e : ℤ), j ≤ 2 ^ 53 ∧ -1074 ≤ e ∧ y = j * 2 ^ e

theorem Representable.nonneg {y : ℚ} (hy : Representable y) : 0 ≤ y := by
  obtain ⟨j, e, -, -, rfl⟩ := hy
  positivity

theorem representable_natCast {n : ℕ} (hn : n ≤ 2 ^ 53) : Representable n :=
  ⟨n, 0, hn, by norm_num, by simp⟩

theorem representable_zero : Representable 0 := by
  simpa using representable_natCast (n := 0) (by norm_num)

theorem representable_one : Representable 1 := by
  simpa using representable_natCast (n := 1) (by norm_num)

/-- A representable magnitude is a whole number of any given places, or not above the first of them with 53 bits. -/
theorem Representable.eq_mul_or_le {y : ℚ} (hy : Representable y) (q : ℤ) :
    (∃ k : ℕ, y = k * 2 ^ q) ∨ (-1074 < q ∧ y ≤ (2 ^ 52 : ℕ) * 2 ^ q) := by
  obtain ⟨j, e, hj, he, rfl⟩ := hy
  rcases le_or_gt q e with hqe | hqe
  · obtain ⟨n, rfl⟩ : ∃ n : ℕ, e = q + n := ⟨(e - q).toNat, by omega⟩
    refine Or.inl ⟨j * 2 ^ n, ?_⟩
    rw [zpow_add₀ two_ne_zero, zpow_natCast]
    push_cast
    ring
  · refine Or.inr ⟨by omega, ?_⟩
    have hj' : (j : ℚ) ≤ 2 ^ (53 : ℤ) := by exact_mod_cast hj
    calc (j : ℚ) * 2 ^ e ≤ 2 ^ (53 : ℤ) * 2 ^ e :=
          mul_le_mul_of_nonneg_right hj' (by positivity)
      _ = 2 ^ (53 + e) := (zpow_add₀ two_ne_zero _ _).symm
      _ ≤ 2 ^ (52 + q) := zpow_le_zpow_right₀ one_le_two (by omega)
      _ = (2 ^ 52 : ℕ) * 2 ^ q := by
          rw [zpow_add₀ two_ne_zero]
          push_cast
          norm_num

theorem two_pow_mul_le {q : ℤ} {x : ℚ} (h : (2 : ℚ) ^ (q + 52) ≤ x) :
    ((2 ^ 52 : ℕ) : ℚ) * 2 ^ q ≤ x := by
  refine le_trans (le_of_eq ?_) h
  rw [zpow_add₀ two_ne_zero, mul_comm]
  push_cast
  norm_num

theorem nearest_of_pos {x : ℚ} (hx : 0 < x) :
    nearest x =
      (units x.num.toNat x.den (lastPlace x.num.toNat x.den) : ℕ) *
        (2 : ℚ) ^ lastPlace x.num.toNat x.den := by
  unfold nearest
  rw [if_neg (not_le.2 hx)]
  simp only [twoPow_eq]

theorem nearest_nonpos {x : ℚ} (hx : x ≤ 0) : nearest x = 0 := by
  unfold nearest
  rw [if_pos hx]

/-- Rounding does not go past a representable magnitude above. -/
theorem nearest_le {x y : ℚ} (hy : Representable y) (hxy : x ≤ y) : nearest x ≤ y := by
  rcases le_or_gt x 0 with hx | hx
  · rw [nearest_nonpos hx]
    exact hy.nonneg
  · obtain ⟨-, -, hlow⟩ := lastPlace_spec hx
    rw [nearest_of_pos hx]
    generalize lastPlace x.num.toNat x.den = q at *
    obtain ⟨k, hk⟩ : ∃ k : ℕ, y = k * 2 ^ q := by
      rcases hy.eq_mul_or_le q with h | ⟨hq, hle⟩
      · exact h
      · exact ⟨2 ^ 52, le_antisymm hle ((two_pow_mul_le (hlow hq)).trans hxy)⟩
    rw [hk]
    apply mul_le_mul_of_nonneg_right _ (by positivity)
    have hle : (x.num.toNat : ℚ) / x.den ≤ k * 2 ^ q := by
      rw [toNat_num_div_den hx, ← hk]
      exact hxy
    exact_mod_cast units_le x.den_pos hle

/-- Rounding does not go past a representable magnitude below. -/
theorem le_nearest {x y : ℚ} (hy : Representable y) (hyx : y ≤ x) : y ≤ nearest x := by
  rcases le_or_gt x 0 with hx | hx
  · rw [nearest_nonpos hx]
    exact hyx.trans hx
  · obtain ⟨-, -, hlow⟩ := lastPlace_spec hx
    rw [nearest_of_pos hx]
    generalize lastPlace x.num.toNat x.den = q at *
    obtain ⟨k, hyk, hkx⟩ : ∃ k : ℕ, y ≤ k * 2 ^ q ∧ (k : ℚ) * 2 ^ q ≤ x := by
      rcases hy.eq_mul_or_le q with ⟨k, hk⟩ | ⟨hq, hle⟩
      · exact ⟨k, hk.le, hk ▸ hyx⟩
      · exact ⟨2 ^ 52, hle, two_pow_mul_le (hlow hq)⟩
    refine hyk.trans ?_
    apply mul_le_mul_of_nonneg_right _ (by positivity)
    have hle : (k : ℚ) * 2 ^ q ≤ (x.num.toNat : ℚ) / x.den := by
      rw [toNat_num_div_den hx]
      exact hkx
    exact_mod_cast le_units x.den_pos hle

theorem representable_nearest (x : ℚ) : Representable (nearest x) := by
  rcases le_or_gt x 0 with hx | hx
  · rw [nearest_nonpos hx]
    exact representable_zero
  · obtain ⟨hmin, hhigh, -⟩ := lastPlace_spec hx
    refine ⟨_, _, ?_, hmin, nearest_of_pos hx⟩
    apply units_le x.den_pos
    rw [toNat_num_div_den hx]
    refine hhigh.le.trans_eq ?_
    rw [zpow_add₀ two_ne_zero]
    push_cast
    norm_num [mul_comm]

theorem nearest_of_representable {y : ℚ} (hy : Representable y) : nearest y = y :=
  le_antisymm (nearest_le hy le_rfl) (le_nearest hy le_rfl)

/-- One more than `2 ^ 53` lies halfway to the next magnitude, and the tie goes down. -/
theorem nearest_le_two_pow {x : ℚ} (hx : x ≤ 2 ^ 53 + 1) : nearest x ≤ 2 ^ 53 := by
  have htop : Representable (2 ^ 53) := by
    exact_mod_cast representable_natCast (n := 2 ^ 53) le_rfl
  rcases le_or_gt x (2 ^ 53) with hle | hgt
  · exact nearest_le htop hle
  · have hpos : 0 < x := lt_trans (by positivity) hgt
    obtain ⟨-, hhigh, hlow⟩ := lastPlace_spec hpos
    rw [nearest_of_pos hpos]
    generalize lastPlace x.num.toNat x.den = q at *
    have hq : q = 1 := by
      have hge : (53 : ℤ) < q + 53 := by
        rw [← zpow_lt_zpow_iff_right₀ (one_lt_two (α := ℚ))]
        exact lt_trans (by exact_mod_cast hgt) hhigh
      have hle : q + 52 < 54 := by
        rw [← zpow_lt_zpow_iff_right₀ (one_lt_two (α := ℚ))]
        refine lt_of_le_of_lt ((hlow (by omega)).trans hx) ?_
        norm_num
      omega
    subst hq
    have hhalf : (x.num.toNat : ℚ) / x.den ≤ ((2 ^ 52 : ℕ) + 1 / 2) * 2 ^ (1 : ℤ) := by
      rw [toNat_num_div_den hpos]
      refine hx.trans_eq ?_
      push_cast
      norm_num
    have hunits := units_le_of_half x.den_pos (by norm_num) hhalf
    have hcast : (units x.num.toNat x.den 1 : ℚ) ≤ 2 ^ 52 := by exact_mod_cast hunits
    calc (units x.num.toNat x.den 1 : ℚ) * 2 ^ (1 : ℤ) ≤ 2 ^ 52 * 2 ^ (1 : ℤ) :=
          mul_le_mul_of_nonneg_right hcast (by positivity)
      _ = 2 ^ 53 := by norm_num

end Binary64

end Understudy

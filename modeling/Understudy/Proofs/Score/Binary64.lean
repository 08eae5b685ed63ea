import Understudy.Proofs.Number.Rounding
import Understudy.Proofs.Score.Lawful

/-!
# Scores of a running server

Doubles are a lawful scale: the scores are the positive ones up to one, each of which stands for exactly one number.
Averages need a look at rounding: the sum of `n` scores is neither above `n` nor above `2 ^ 53`, since a sum that has
got there no longer grows, and so the quotient is not above one, however long the list is.
-/

namespace Understudy

namespace Binary64

def value (x : Binary64) : ℚ := x.toRat?.getD 0

@[simp] theorem value_finite (m : ℚ) : value (.finite false m) = m := rfl

/-- A double from zero to one, zero being the positive one. -/
def IsUnit (x : Binary64) : Prop := ∃ q : ℚ, x = .finite false q ∧ q ≤ 1 ∧ Representable q

theorem isUnit_zero : IsUnit zero := ⟨0, rfl, zero_le_one, representable_zero⟩

theorem isUnit_one : IsUnit one := ⟨1, rfl, le_rfl, representable_one⟩

theorem two_pow_lt_limit : (2 : ℚ) ^ 53 < limit := by
  unfold limit
  exact_mod_cast Nat.pow_lt_pow_right (by norm_num) (by norm_num)

/-- A magnitude that is rounded to a number not above `2 ^ 53` stays finite. -/
theorem ofMagnitude_of_le {x : ℚ} (h : nearest x ≤ 2 ^ 53) :
    ofMagnitude false x = .finite false (nearest x) := by
  unfold ofMagnitude
  exact if_pos (h.trans_lt two_pow_lt_limit)

theorem ofRat_of_nonneg {x : ℚ} (hx : 0 ≤ x) : ofRat x = ofMagnitude false x := by
  unfold ofRat
  simp [not_lt.2 hx]

theorem add_of_nonneg {m n : ℚ} (hm : 0 ≤ m) (hn : 0 ≤ n) (h : nearest (m + n) ≤ 2 ^ 53) :
    add (.finite false m) (.finite false n) = .finite false (nearest (m + n)) := by
  have hsum : 0 ≤ m + n := add_nonneg hm hn
  unfold add
  simp only [Bool.false_eq_true, if_false, Bool.and_self, beq_iff_eq]
  split
  · rename_i h0
    rw [h0, nearest_nonpos le_rfl]
  · rw [ofRat_of_nonneg hsum, ofMagnitude_of_le h]

theorem isUnit_sub_one {a : Binary64} (ha : IsUnit a) : IsUnit (sub one a) := by
  obtain ⟨q, rfl, hq, hrep⟩ := ha
  have hnonneg : 0 ≤ 1 + -q := by linarith
  have hround : nearest (1 + -q) ≤ 1 := nearest_le representable_one (by linarith [hrep.nonneg])
  unfold sub one neg add
  simp only [Bool.false_eq_true, if_false, Bool.not_false, if_true, Bool.and_true, beq_iff_eq]
  split
  · exact isUnit_zero
  · rw [ofRat_of_nonneg hnonneg, ofMagnitude_of_le (hround.trans (by norm_num))]
    exact ⟨_, rfl, hround, representable_nearest _⟩

/-- The sum of scores stays below their number and below `2 ^ 53`. -/
theorem foldl_add_isUnit {scores : List Binary64} (h : ∀ a ∈ scores, IsUnit a) {m : ℚ} {k : ℕ}
    (hm : Representable m) (hk : m ≤ k) (htop : m ≤ 2 ^ 53) :
    ∃ s : ℚ, scores.foldl add (.finite false m) = .finite false s ∧ Representable s ∧
      s ≤ (k + scores.length : ℕ) ∧ s ≤ 2 ^ 53 := by
  induction scores generalizing m k with
  | nil => exact ⟨m, rfl, hm, by simpa using hk, htop⟩
  | cons a rest ih =>
      rw [List.forall_mem_cons] at h
      obtain ⟨q, rfl, hq, hrep⟩ := h.1
      have htop' : nearest (m + q) ≤ 2 ^ 53 := nearest_le_two_pow (add_le_add htop hq)
      have hk' : nearest (m + q) ≤ (k + 1 : ℕ) := by
        rcases le_or_gt (k + 1) (2 ^ 53) with hsmall | hlarge
        · apply nearest_le (representable_natCast hsmall)
          push_cast
          exact add_le_add hk hq
        · refine htop'.trans ?_
          exact_mod_cast hlarge.le
      rw [List.foldl_cons, add_of_nonneg hm.nonneg hrep.nonneg htop']
      obtain ⟨s, hs, hsrep, hsk, hstop⟩ := ih h.2 (representable_nearest _) hk' htop'
      refine ⟨s, hs, hsrep, ?_, hstop⟩
      rw [List.length_cons, ← add_assoc, add_right_comm]
      exact hsk

theorem ofNat_eq (n : ℕ) : ofNat n = ofMagnitude false n := by
  unfold ofNat
  rw [ofRat_of_nonneg (by positivity)]
  simp

theorem share_single_isUnit {a : Binary64} (ha : IsUnit a) : div (add zero a) (ofNat 1) = a := by
  obtain ⟨q, rfl, hq, hrep⟩ := ha
  have hround : nearest q = q := nearest_of_representable hrep
  have hsum : add zero (.finite false q) = .finite false q := by
    have htop : nearest (0 + q) ≤ 2 ^ 53 := by
      rw [zero_add, hround]
      exact hq.trans (by norm_num)
    unfold zero
    rw [add_of_nonneg le_rfl hrep.nonneg htop, zero_add, hround]
  have hone : ofNat 1 = .finite false 1 := by
    have hnearest : nearest 1 = 1 := nearest_of_representable representable_one
    rw [ofNat_eq, Nat.cast_one, ofMagnitude_of_le, hnearest]
    rw [hnearest]
    norm_num
  rw [hsum, hone]
  unfold div
  simp only [beq_iff_eq, if_neg one_ne_zero, bne_self_eq_false, div_one]
  rw [ofMagnitude_of_le, hround]
  rw [hround]
  exact hq.trans (by norm_num)

theorem isUnit_div_ofNat {s : ℚ} {n : ℕ} (hn : 0 < n) (hle : s ≤ n)
    (htop : s ≤ 2 ^ 53) : IsUnit (div (.finite false s) (ofNat n)) := by
  have hcount : s ≤ nearest n := by
    rcases le_or_gt n (2 ^ 53) with hsmall | hlarge
    · rwa [nearest_of_representable (representable_natCast hsmall)]
    · refine htop.trans (le_nearest ?_ ?_)
      · exact_mod_cast representable_natCast (n := 2 ^ 53) le_rfl
      · exact_mod_cast hlarge.le
  have hpos : 0 < nearest n := by
    refine lt_of_lt_of_le one_pos (le_nearest representable_one ?_)
    exact_mod_cast hn
  rw [ofNat_eq, ofMagnitude]
  split
  · have hround : nearest (s / nearest n) ≤ 1 :=
      nearest_le representable_one ((div_le_one hpos).2 hcount)
    unfold div
    simp only [beq_iff_eq, if_neg hpos.ne']
    rw [bne_self_eq_false, ofMagnitude_of_le (hround.trans (by norm_num))]
    exact ⟨_, rfl, hround, representable_nearest _⟩
  · exact isUnit_zero

end Binary64

instance : Scale.Lawful Binary64 where
  IsScore := Binary64.IsUnit
  value := Binary64.value
  value_nonneg := by
    rintro _ ⟨q, rfl, -, hq⟩
    exact hq.nonneg
  value_le_one := by
    rintro _ ⟨q, rfl, hq, -⟩
    exact hq
  value_inj := by
    rintro _ _ ⟨p, rfl, -, -⟩ ⟨q, rfl, -, -⟩ h
    rw [Binary64.value_finite, Binary64.value_finite] at h
    rw [h]
  lt_iff := by
    rintro _ _ ⟨p, rfl, -, -⟩ ⟨q, rfl, -, -⟩
    simp [Scale.lt, Binary64.lt]
  eq_iff := by
    rintro _ _ ⟨p, rfl, -, -⟩ ⟨q, rfl, -, -⟩
    simp [Scale.eq, Binary64.eq]
  isScore_zero := Binary64.isUnit_zero
  value_zero := rfl
  isScore_one := Binary64.isUnit_one
  value_one := rfl
  isScore_compl := Binary64.isUnit_sub_one
  isScore_share := by
    intro scores hne h
    obtain ⟨s, hs, -, hle, htop⟩ :=
      Binary64.foldl_add_isUnit h (k := 0) Binary64.representable_zero (by simp) (by norm_num)
    have hsum : Scale.sum scores = Binary64.finite false s := hs
    rw [hsum]
    rw [zero_add] at hle
    exact Binary64.isUnit_div_ofNat (List.length_pos_iff.2 hne) hle htop
  share_single := Binary64.share_single_isUnit

end Understudy

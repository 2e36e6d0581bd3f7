import Mathlib.Algebra.Order.Field.Power
import Mathlib.Algebra.Order.Field.Rat
import Mathlib.Algebra.Order.Ring.Cast
import Mathlib.Data.Rat.Cast.Order
import Mathlib.Tactic.GCongr
import Mathlib.Tactic.Linarith
import Mathlib.Tactic.NormNum
import Mathlib.Tactic.Positivity
import Mathlib.Tactic.Ring
import UrlHandoff.Document.Binary64

namespace UrlHandoff.Document.Binary64

theorem zpow_eq_div {base : ℚ} (nonzero : base ≠ 0) (n : ℤ) :
    base ^ n = base ^ n.toNat / base ^ (-n).toNat := by
  rw [eq_div_iff (pow_ne_zero _ nonzero), ← zpow_natCast, ← zpow_natCast, ← zpow_add₀ nonzero]
  congr 1
  omega

section Ratio

variable {num den : Nat}

theorem shiftLeft_le_iff (positive : 0 < den) (n : ℤ) :
    den <<< n.toNat ≤ num <<< (-n).toNat ↔ (2 : ℚ) ^ n ≤ num / den := by
  have den_pos : (0 : ℚ) < den := by exact_mod_cast positive
  rw [zpow_eq_div two_ne_zero, div_le_div_iff₀ (by positivity) den_pos, Nat.shiftLeft_eq,
    Nat.shiftLeft_eq, mul_comm den]
  norm_cast

theorem log2_bounds {n : Nat} (nonzero : n ≠ 0) :
    (2 : ℚ) ^ (n.log2 : ℤ) ≤ n ∧ (n : ℚ) < 2 ^ ((n.log2 : ℤ) + 1) := by
  have low := Nat.log2_self_le nonzero
  have high := Nat.lt_log2_self (n := n)
  exact ⟨by exact_mod_cast low, by exact_mod_cast high⟩

theorem floorLog2_bounds (hnum : num ≠ 0) (hden : den ≠ 0) :
    (2 : ℚ) ^ floorLog2 num den ≤ num / den ∧ (num : ℚ) / den < 2 ^ (floorLog2 num den + 1) := by
  have positive : (0 : ℚ) < den := by exact_mod_cast Nat.pos_of_ne_zero hden
  obtain ⟨numLow, numHigh⟩ := log2_bounds hnum
  obtain ⟨denLow, denHigh⟩ := log2_bounds hden
  unfold floorLog2
  dsimp only
  split
  next fits =>
    refine ⟨(shiftLeft_le_iff (Nat.pos_of_ne_zero hden) _).mp fits, ?_⟩
    rw [div_lt_iff₀ positive]
    calc (num : ℚ) < 2 ^ ((num.log2 : ℤ) + 1) := numHigh
      _ = 2 ^ ((num.log2 : ℤ) - den.log2 + 1) * 2 ^ (den.log2 : ℤ) := by
        rw [← zpow_add₀ two_ne_zero]
        congr 1
        ring
      _ ≤ _ := by gcongr
  next exceeds =>
    rw [shiftLeft_le_iff (Nat.pos_of_ne_zero hden), not_le] at exceeds
    refine ⟨?_, by rwa [sub_add_cancel]⟩
    rw [le_div_iff₀ positive]
    calc (2 : ℚ) ^ ((num.log2 : ℤ) - den.log2 - 1) * den
        ≤ 2 ^ ((num.log2 : ℤ) - den.log2 - 1) * 2 ^ ((den.log2 : ℤ) + 1) := by gcongr
      _ = 2 ^ (num.log2 : ℤ) := by
        rw [← zpow_add₀ two_ne_zero]
        congr 1
        ring
      _ ≤ num := numLow

theorem roundDiv_eq_iff {even : Nat} (halves : even % 2 = 0) (less : num < even * den) :
    roundDiv num den = even ↔ (2 * even - 1) * den ≤ 2 * num := by
  have positive : 0 < den := Nat.pos_of_ne_zero (by rintro rfl; simp at less)
  have below : num / den < even := (Nat.div_lt_iff_lt_mul positive).mpr less
  have split := Nat.div_add_mod num den
  have small := Nat.mod_lt num positive
  have bound : (2 * even - 1) * den ≤ 2 * num ↔ even = num / den + 1 ∧ den ≤ 2 * (num % den) := by
    have double : 2 * num = 2 * (num / den) * den + 2 * (num % den) := by linarith
    by_cases next : even = num / den + 1
    · have odd : 2 * even - 1 = 2 * (num / den) + 1 := by omega
      rw [odd, double, Nat.succ_mul]
      omega
    · have room : (2 * (num / den) + 3) * den ≤ (2 * even - 1) * den :=
        Nat.mul_le_mul_right den (by omega)
      rw [double]
      refine iff_of_false ?_ fun h => next h.1
      rw [Nat.add_mul] at room
      omega
  rw [bound]
  unfold roundDiv
  dsimp only
  split <;> omega

/-- From this on, halfway between the largest finite number and the next power of two, numbers are
too large. -/
def overflowBound : ℚ := 2 ^ 1024 - 2 ^ 970

theorem ofRatio_eq_infinite_iff_exponent (negative sign : Bool) (hnum : num ≠ 0) {exponent : ℤ}
    (holds : max (floorLog2 num den - 52) (-1074) = exponent) :
    ofRatio negative num den = .infinite sign ↔
      negative = sign ∧ (971 < exponent ∨ exponent = 971 ∧
        roundDiv (num <<< (-exponent).toNat) (den <<< exponent.toNat) = 1 <<< 53) := by
  rw [ofRatio, if_neg hnum]
  dsimp only
  rw [holds]
  generalize roundDiv (num <<< (-exponent).toNat) (den <<< exponent.toNat) = rounded
  by_cases carries : rounded = 1 <<< 53
  · rw [if_pos carries]
    dsimp only
    split
    next more =>
      have large : 971 < exponent ∨ exponent = 971 := by omega
      simp [carries, large]
    next less =>
      have small : ¬971 < exponent ∧ exponent ≠ 971 := by omega
      simp [small]
  · rw [if_neg carries]
    dsimp only
    split
    next more => simp [more]
    next less => simp only [less, carries, and_false, or_self, reduceCtorEq]

theorem overflowBound_lt : overflowBound < 2 ^ 1024 := sub_lt_self _ (by positivity)

theorem lt_overflowBound : 2 ^ 1023 < overflowBound := by
  have next : (2 : ℚ) ^ 1024 = 2 ^ 1023 + 2 ^ 1023 := (pow_succ 2 1023).trans (mul_two _)
  have less : (2 : ℚ) ^ 970 < 2 ^ 1023 := pow_lt_pow_right₀ one_lt_two (by norm_num)
  rw [overflowBound, next, add_sub_assoc]
  exact lt_add_of_pos_right _ (sub_pos.mpr less)

theorem shiftLeft_succ_of_pow {unit n : Nat} (h : unit = 2 ^ n) :
    den <<< (n + 1) = den * (2 * unit) := by
  rw [h, Nat.shiftLeft_eq, pow_succ']

theorem roundDiv_top_iff (hden : den ≠ 0) (less : (num : ℚ) / den < 2 ^ 1024) :
    roundDiv num (den <<< 971) = 1 <<< 53 ↔ overflowBound ≤ (num : ℚ) / den := by
  have positive : (0 : ℚ) < den := by exact_mod_cast Nat.pos_of_ne_zero hden
  -- Named, as `norm_num` and `ring` would write the powers out.
  obtain ⟨unit, hunit⟩ : ∃ unit, unit = 2 ^ 970 := ⟨_, rfl⟩
  obtain ⟨full, hfull⟩ : ∃ full, full = 2 ^ 53 := ⟨_, rfl⟩
  have halves : full % 2 = 0 := by rw [hfull]; norm_num
  have some : 1 ≤ 2 * full := by rw [hfull]; norm_num
  have step : den <<< 971 = den * (2 * unit) := shiftLeft_succ_of_pow hunit
  have limit : (2 : ℚ) ^ 1024 = (2 * full * unit : Nat) := by
    rw [hfull, hunit, ← pow_succ', ← pow_add, Nat.cast_pow, Nat.cast_ofNat]
  have bound : overflowBound = ((2 * full - 1) * unit : Nat) := by
    rw [overflowBound, limit, Nat.sub_mul, Nat.cast_sub (Nat.mul_le_mul_right unit some), one_mul,
      hunit, Nat.cast_pow, Nat.cast_ofNat]
  have small : 1 <<< 53 = full := hfull.symm
  rw [limit, div_lt_iff₀ positive] at less
  have less : num < full * (den * (2 * unit)) := by
    have product : 2 * full * unit * den = full * (den * (2 * unit)) := by ring
    rw [← product]
    exact_mod_cast less
  have double : (2 * full - 1) * (den * (2 * unit)) = 2 * ((2 * full - 1) * unit * den) := by ring
  rw [small, step, roundDiv_eq_iff halves less, double, bound, le_div_iff₀ positive]
  rw [Nat.mul_le_mul_left_iff Nat.two_pos]
  exact_mod_cast Iff.rfl

theorem ofRatio_eq_infinite_iff (negative sign : Bool) (hden : den ≠ 0) :
    ofRatio negative num den = .infinite sign ↔
      negative = sign ∧ overflowBound ≤ (num : ℚ) / den := by
  by_cases hnum : num = 0
  · have positive : 0 < overflowBound := lt_trans (by positivity) lt_overflowBound
    simp [hnum, ofRatio, positive]
  · obtain ⟨low, high⟩ := floorLog2_bounds hnum hden
    -- Between the two powers next to the bound the rounding decides, elsewhere the exponent.
    rcases lt_trichotomy (floorLog2 num den) 1023 with less | top | more
    · rw [ofRatio_eq_infinite_iff_exponent negative sign hnum rfl]
      refine and_congr_right fun _ => iff_of_false (by omega) (not_le.mpr ?_)
      calc (num : ℚ) / den < 2 ^ (floorLog2 num den + 1) := high
        _ ≤ 2 ^ (1023 : ℤ) := zpow_le_zpow_right₀ one_le_two (by omega)
        _ = 2 ^ 1023 := zpow_ofNat 2 1023
        _ < overflowBound := lt_overflowBound
    · have holds : max (floorLog2 num den - 52) (-1074) = 971 := by omega
      have next : (1023 : ℤ) + 1 = 1024 := rfl
      rw [top, next, zpow_ofNat] at high
      rw [ofRatio_eq_infinite_iff_exponent negative sign hnum holds, ← roundDiv_top_iff hden high]
      exact and_congr_right fun _ => by simp
    · rw [ofRatio_eq_infinite_iff_exponent negative sign hnum rfl]
      refine and_congr_right fun _ => iff_of_true (.inl (by omega)) ?_
      calc overflowBound ≤ 2 ^ 1024 := overflowBound_lt.le
        _ = 2 ^ (1024 : ℤ) := (zpow_ofNat 2 1024).symm
        _ ≤ 2 ^ floorLog2 num den := zpow_le_zpow_right₀ one_le_two (by omega)
        _ ≤ num / den := low

end Ratio

theorem digitCount_bounds {n : Nat} (nonzero : n ≠ 0) :
    (10 : ℚ) ^ ((digitCount n : ℤ) - 1) ≤ n ∧ (n : ℚ) < 10 ^ (digitCount n : ℤ) := by
  have positive : 0 < digitCount n := Nat.length_toDigits_pos
  have high := (Nat.length_toDigits_le_iff (by decide) positive).mp (Nat.le_refl _)
  have low : 10 ^ (digitCount n - 1) ≤ n := by
    by_contra less
    rw [not_le] at less
    rcases Nat.eq_zero_or_pos (digitCount n - 1) with single | more
    · rw [single] at less
      omega
    · have fewer := (Nat.length_toDigits_le_iff (by decide) more).mpr less
      rw [digitCount] at positive fewer
      omega
  have before : (digitCount n : ℤ) - 1 = (digitCount n - 1 : Nat) := by omega
  rw [before, zpow_natCast, zpow_natCast]
  exact ⟨by exact_mod_cast low, by exact_mod_cast high⟩

theorem ofDecimal_eq_infinite_iff (negative sign : Bool) (digits : Nat) (scale : ℤ) :
    ofDecimal negative digits scale = .infinite sign ↔
      negative = sign ∧ overflowBound ≤ digits * (10 : ℚ) ^ scale := by
  have positive : 0 < overflowBound := lt_trans (by positivity) lt_overflowBound
  have ten : (10 : ℚ) ≠ 0 := by norm_num
  unfold ofDecimal
  split
  next zero => simp [zero, positive]
  next nonzero =>
    obtain ⟨low, high⟩ := digitCount_bounds nonzero
    split
    next large =>
      have bound : overflowBound ≤ digits * 10 ^ scale := by
        calc overflowBound ≤ 2 ^ 1024 := overflowBound_lt.le
          _ ≤ 2 ^ (3 * 400) := pow_le_pow_right₀ one_le_two (by norm_num)
          _ = (2 ^ 3) ^ 400 := pow_mul 2 3 400
          _ ≤ 10 ^ 400 := pow_le_pow_left₀ (by norm_num) (by norm_num) 400
          _ = 10 ^ (400 : ℤ) := (zpow_ofNat 10 400).symm
          _ ≤ 10 ^ ((digitCount digits : ℤ) - 1 + scale) :=
            zpow_le_zpow_right₀ (by norm_num) (by omega)
          _ = 10 ^ ((digitCount digits : ℤ) - 1) * 10 ^ scale := zpow_add₀ ten _ _
          _ ≤ digits * 10 ^ scale := by gcongr
      simp [bound]
    next =>
      split
      next small =>
        have bound : digits * (10 : ℚ) ^ scale < overflowBound := by
          calc digits * (10 : ℚ) ^ scale
              < 10 ^ (digitCount digits : ℤ) * 10 ^ scale := by gcongr
            _ = 10 ^ ((digitCount digits : ℤ) + scale) := (zpow_add₀ ten _ _).symm
            _ ≤ 10 ^ (0 : ℤ) := zpow_le_zpow_right₀ (by norm_num) (by omega)
            _ = 1 := zpow_zero 10
            _ ≤ 2 ^ 1023 := one_le_pow₀ one_le_two
            _ < overflowBound := lt_overflowBound
        simp [bound]
      next =>
        have powered : Nat.pow 10 (-scale).toNat ≠ 0 := (Nat.pow_pos (by decide)).ne'
        have ratio : ((digits * Nat.pow 10 scale.toNat : Nat) : ℚ) / (Nat.pow 10 (-scale).toNat : Nat) =
            digits * 10 ^ scale := by
          rw [zpow_eq_div ten, Nat.pow_eq, Nat.pow_eq]
          push_cast
          exact mul_div_assoc _ _ _
        rw [ofRatio_eq_infinite_iff negative sign powered, ratio]

end UrlHandoff.Document.Binary64

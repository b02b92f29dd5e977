import Mathlib.Analysis.SpecialFunctions.Pow.Real
import Mathlib.NumberTheory.PrimeCounting
import Mathlib.Tactic

namespace RouterCard.Hashing

noncomputable def fractionBits (k : ℕ) (x : ℝ) : ℕ := ⌊Int.fract x * 2 ^ k⌋₊

lemma fractionBits_eq {k i d : ℕ} {x : ℝ} (hd : d < 2 ^ k) (hl : (i * 2 ^ k + d : ℕ) ≤ x * 2 ^ k)
    (hu : x * 2 ^ k < (i * 2 ^ k + d + 1 : ℕ)) : fractionBits k x = d := by
  have hpos : (0 : ℝ) < 2 ^ k := by positivity
  push_cast at hl hu
  have hfloor : ⌊x⌋ = (i : ℤ) := by
    apply Int.floor_eq_iff.mpr
    push_cast
    have hd' : (d : ℝ) + 1 ≤ 2 ^ k := by exact_mod_cast hd
    constructor
    · apply le_of_mul_le_mul_right _ hpos
      linarith [(Nat.cast_nonneg d : (0 : ℝ) ≤ d)]
    · apply lt_of_mul_lt_mul_right _ hpos.le
      linarith
  have hfract : Int.fract x * 2 ^ k = x * 2 ^ k - i * 2 ^ k := by
    rw [Int.fract, hfloor, Int.cast_natCast, sub_mul]
  rw [fractionBits, hfract]
  apply (Nat.floor_eq_iff (by linarith [(Nat.cast_nonneg d : (0 : ℝ) ≤ d)])).mpr
  constructor <;> linarith

lemma fractionBits_root {k n p i d : ℕ} (hn : n ≠ 0) (hd : d < 2 ^ k) (hl : (i * 2 ^ k + d) ^ n ≤ p * (2 ^ k) ^ n)
    (hu : p * (2 ^ k) ^ n < (i * 2 ^ k + d + 1) ^ n) : fractionBits k ((p : ℝ) ^ (n : ℝ)⁻¹) = d := by
  have hpos : (0 : ℝ) < 2 ^ k := by positivity
  have hroot : ((p : ℝ) ^ (n : ℝ)⁻¹ * 2 ^ k) ^ n = ((p * (2 ^ k) ^ n : ℕ) : ℝ) := by
    rw [mul_pow, Real.rpow_inv_natCast_pow (Nat.cast_nonneg p) hn]
    push_cast
    rfl
  have hnonneg : 0 ≤ (p : ℝ) ^ (n : ℝ)⁻¹ * 2 ^ k := by positivity
  apply fractionBits_eq hd (i := i)
  · apply le_of_pow_le_pow_left₀ hn hnonneg
    rw [hroot]
    exact_mod_cast hl
  · apply lt_of_pow_lt_pow_left₀ n (by positivity)
    rw [hroot]
    exact_mod_cast hu

lemma nth_prime_eq {i p : ℕ} (hp : p.Prime) (hc : p.count Nat.Prime = i) : Nat.nth Nat.Prime i = p := by
  rw [← hc]
  exact Nat.nth_count hp

end RouterCard.Hashing

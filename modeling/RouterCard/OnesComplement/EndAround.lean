import Mathlib.Data.Nat.ModEq
import Mathlib.Tactic

/-! One's complement numbers in one digit of base `b`: addition with an end-around carry.
Zero has the two forms `0` and `b - 1`, and `residue` says which of them a sum ends in. -/

namespace RouterCard.OnesComplement

variable {b m n k : ℕ}

def residue (b n : ℕ) : ℕ := if n = 0 then 0 else (n - 1) % (b - 1) + 1

def add (b m n : ℕ) : ℕ := if m + n < b then m + n else m + n - (b - 1)

-- The carry is added to the digit until there is none.
def fold (hb : 2 ≤ b) (n : ℕ) : ℕ := if n < b then n else fold hb (n / b + n % b)
termination_by n
decreasing_by
  have hq : 0 < n / b := Nat.div_pos (by omega) (by omega)
  have hn := Nat.div_add_mod n b
  nlinarith

def carry (b n : ℕ) : ℕ := n / b + n % b

section residue

@[simp] lemma residue_zero (b : ℕ) : residue b 0 = 0 := if_pos rfl

lemma residue_eq_zero : residue b n = 0 ↔ n = 0 := by
  rw [residue]
  split_ifs with h
  · simp [h]
  · simp [h]

lemma residue_lt (hb : 2 ≤ b) (n : ℕ) : residue b n < b := by
  rw [residue]
  split_ifs
  · omega
  · have := Nat.mod_lt (n - 1) (show 0 < b - 1 by omega)
    omega

lemma residue_modEq (b n : ℕ) : residue b n ≡ n [MOD b - 1] := by
  rw [residue]
  split_ifs with h
  · rw [h]
  · have hm := (Nat.mod_modEq (n - 1) (b - 1)).add_right 1
    rwa [Nat.sub_add_cancel (Nat.one_le_iff_ne_zero.mpr h)] at hm

lemma eq_residue (hb : 2 ≤ b) (hm : m < b) (h : m ≡ n [MOD b - 1]) (hz : m = 0 ↔ n = 0) : m = residue b n := by
  rw [residue]
  split_ifs with hn
  · exact hz.mpr hn
  · have hm0 : m ≠ 0 := mt hz.mp hn
    have hpred : m - 1 ≡ n - 1 [MOD b - 1] := by
      apply Nat.ModEq.add_right_cancel' 1
      rwa [Nat.sub_add_cancel (by omega), Nat.sub_add_cancel (by omega)]
    have hlt : m - 1 < b - 1 := by omega
    rw [← hpred, Nat.mod_eq_of_lt hlt]
    omega

lemma residue_of_lt (hb : 2 ≤ b) (h : n < b) : residue b n = n := (eq_residue hb h rfl Iff.rfl).symm

lemma residue_congr (hb : 2 ≤ b) (h : m ≡ n [MOD b - 1]) (hz : m = 0 ↔ n = 0) : residue b m = residue b n :=
  eq_residue hb (residue_lt hb m) ((residue_modEq b m).trans h) (residue_eq_zero.trans hz)

lemma residue_residue_add (hb : 2 ≤ b) (m n : ℕ) : residue b (residue b m + n) = residue b (m + n) := by
  apply residue_congr hb ((residue_modEq b m).add_right n)
  rw [Nat.add_eq_zero_iff, Nat.add_eq_zero_iff, residue_eq_zero]

lemma residue_eq_top (hb : 2 ≤ b) : residue b n = b - 1 ↔ n ≠ 0 ∧ b - 1 ∣ n := by
  constructor
  · intro h
    refine ⟨fun hn => ?_, ?_⟩
    · rw [hn, residue_zero] at h
      omega
    · have hm := residue_modEq b n
      rw [h] at hm
      exact (Nat.modEq_zero_iff_dvd.mp (hm.symm.trans (Nat.modEq_zero_iff_dvd.mpr dvd_rfl)))
  · rintro ⟨hn, hd⟩
    refine (eq_residue hb (by omega) ?_ ?_).symm
    · exact (Nat.modEq_zero_iff_dvd.mpr dvd_rfl).trans (Nat.modEq_zero_iff_dvd.mpr hd).symm
    · omega

lemma dvd_add_complement (hb : 2 ≤ b) (n : ℕ) : b - 1 ∣ n + (b - 1 - residue b n) := by
  have hlt := residue_lt hb n
  have hm := (residue_modEq b n).add_right (b - 1 - residue b n)
  rw [show residue b n + (b - 1 - residue b n) = b - 1 by omega] at hm
  exact Nat.modEq_zero_iff_dvd.mp (hm.symm.trans (Nat.modEq_zero_iff_dvd.mpr dvd_rfl))

end residue

section operations

lemma add_eq_residue (hb : 2 ≤ b) (hm : m < b) (hn : n < b) : add b m n = residue b (m + n) := by
  rw [add]
  split_ifs with h
  · exact (residue_of_lt hb h).symm
  · apply eq_residue hb (by omega)
    · have hs : m + n - (b - 1) + (b - 1) = m + n := by omega
      have hc : m + n - (b - 1) + (b - 1) ≡ m + n - (b - 1) [MOD b - 1] := Nat.add_mod_right ..
      rw [hs] at hc
      exact hc.symm
    · omega

lemma carry_modEq (hb : 2 ≤ b) (n : ℕ) : n / b + n % b ≡ n [MOD b - 1] := by
  have hb1 : b ≡ 1 [MOD b - 1] := (Nat.modEq_iff_dvd' (by omega)).mpr dvd_rfl |>.symm
  have hmul := (hb1.mul_right (n / b)).add_right (n % b)
  rw [Nat.div_add_mod, one_mul] at hmul
  exact hmul.symm

lemma fold_eq_residue (hb : 2 ≤ b) (n : ℕ) : fold hb n = residue b n := by
  induction n using fold.induct (b := b) with
  | hb => exact hb
  | case1 n h => rw [fold, if_pos h, residue_of_lt hb h]
  | case2 n h ih =>
    rw [fold, if_neg h, ih]
    apply residue_congr hb (carry_modEq hb n)
    have hq : 0 < n / b := Nat.div_pos (by omega) (by omega)
    omega

lemma carry_lt (hb : 2 ≤ b) (h : n < 2 * b - 1) : carry b n < b := by
  rw [carry]
  by_cases hn : n < b
  · rw [Nat.div_eq_of_lt hn, Nat.mod_eq_of_lt hn]
    omega
  · have hq : n / b = 1 := Nat.div_eq_of_lt_le (by omega) (by omega)
    have hr := Nat.div_add_mod n b
    rw [hq] at hr ⊢
    omega

lemma fold_rounds (hb : 2 ≤ b) (h : n < b * b) :
    ∃ k ≤ 2, fold hb n = (carry b)^[k] n ∧ (carry b)^[k] n < b ∧ ∀ j < k, b ≤ (carry b)^[j] n := by
  by_cases h₀ : n < b
  · refine ⟨0, by omega, ?_, h₀, nofun⟩
    rw [fold, if_pos h₀]
    rfl
  · have hfold : fold hb n = fold hb (carry b n) := by
      rw [fold, if_neg h₀]
      rfl
    by_cases h₁ : carry b n < b
    · refine ⟨1, by omega, ?_, h₁, fun j hj => ?_⟩
      · rw [hfold, fold, if_pos h₁]
        rfl
      · obtain rfl : j = 0 := by omega
        exact Nat.le_of_not_lt h₀
    · have hsmall : carry b n < 2 * b - 1 := by
        have hq : n / b < b := Nat.div_lt_of_lt_mul h
        have hr : n % b < b := Nat.mod_lt n (by omega)
        rw [carry]
        omega
      have h₂ := carry_lt hb hsmall
      refine ⟨2, le_rfl, ?_, h₂, fun j hj => ?_⟩
      · rw [hfold, fold, if_neg h₁]
        change fold hb (carry b (carry b n)) = carry b (carry b n)
        rw [fold, if_pos h₂]
      · obtain rfl | rfl : j = 0 ∨ j = 1 := by omega
        · exact Nat.le_of_not_lt h₀
        · exact Nat.le_of_not_lt h₁

lemma foldl_add (hb : 2 ≤ b) {ws : List ℕ} (hws : ∀ w ∈ ws, w < b) (hm : m < b) :
    ws.foldl (add b) m = residue b (m + ws.sum) := by
  induction ws generalizing m with
  | nil => simp [residue_of_lt hb hm]
  | cons w ws ih =>
    have hw := hws w (List.mem_cons_self ..)
    rw [List.foldl_cons, add_eq_residue hb hm hw, ih (fun v hv => hws v (List.mem_cons_of_mem w hv)) (residue_lt hb _),
      residue_residue_add hb, List.sum_cons, Nat.add_assoc]

end operations

end RouterCard.OnesComplement

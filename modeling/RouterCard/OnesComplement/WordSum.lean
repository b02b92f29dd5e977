import RouterCard.OnesComplement.EndAround
import RouterCard.Text.Bytes

/-! Sums of the 16-bit words of a byte string in either byte order. A word sum is zero
modulo 65535 in one order when it is in the other, so the one's complement sum in network
order can be checked on a host that adds words as they lie in its memory. -/

namespace RouterCard.OnesComplement

open Text

section words

def wordsLE : Bytes → List ℕ
  | [] => []
  | [a] => [a.toNat]
  | a :: b :: s => (a.toNat + 256 * b.toNat) :: wordsLE s

def wordsBE : Bytes → List ℕ
  | [] => []
  | [a] => [256 * a.toNat]
  | a :: b :: s => (256 * a.toNat + b.toNat) :: wordsBE s

def sumLE (s : Bytes) : ℕ := (wordsLE s).sum
def sumBE (s : Bytes) : ℕ := (wordsBE s).sum

def onesSum (s : Bytes) : ℕ := (wordsBE s).foldl (add 65536) 0

@[simp] lemma sumLE_nil : sumLE [] = 0 := rfl
@[simp] lemma sumBE_nil : sumBE [] = 0 := rfl

@[simp] lemma sumLE_cons_cons (a b : UInt8) (s : Bytes) :
    sumLE (a :: b :: s) = a.toNat + 256 * b.toNat + sumLE s := List.sum_cons

@[simp] lemma sumBE_cons_cons (a b : UInt8) (s : Bytes) :
    sumBE (a :: b :: s) = 256 * a.toNat + b.toNat + sumBE s := List.sum_cons

@[simp] lemma sumLE_singleton (a : UInt8) : sumLE [a] = a.toNat := by simp [sumLE, wordsLE]

@[simp] lemma sumBE_singleton (a : UInt8) : sumBE [a] = 256 * a.toNat := by simp [sumBE, wordsBE]

lemma wordsBE_lt (s : Bytes) : ∀ w ∈ wordsBE s, w < 65536 := by
  induction s using wordsBE.induct with
  | case1 => simp [wordsBE]
  | case2 a =>
    have := a.toNat_lt
    simp only [wordsBE, List.mem_singleton, forall_eq]
    omega
  | case3 a b s ih =>
    have := a.toNat_lt
    have := b.toNat_lt
    simp only [wordsBE, List.forall_mem_cons]
    exact ⟨by omega, ih⟩

lemma sumLE_append {s : Bytes} (hs : s.length % 2 = 0) (t : Bytes) : sumLE (s ++ t) = sumLE s + sumLE t := by
  induction s using wordsLE.induct with
  | case1 => simp
  | case2 a => simp at hs
  | case3 a b s ih =>
    have ht := ih (by simp only [List.length_cons] at hs; omega)
    simp only [List.cons_append, sumLE_cons_cons, ht]
    omega

end words

section order

lemma sumBE_modEq (s : Bytes) : sumBE s ≡ 256 * sumLE s [MOD 65535] := by
  induction s using wordsLE.induct with
  | case1 => rfl
  | case2 a => simp [Nat.ModEq.refl]
  | case3 a b s ih =>
    rw [sumBE_cons_cons, sumLE_cons_cons, Nat.mul_add]
    apply Nat.ModEq.add _ ih
    have hb : b.toNat ≡ b.toNat + 65535 * b.toNat [MOD 65535] := (Nat.add_mul_mod_self_left ..).symm
    have hw : 256 * (a.toNat + 256 * b.toNat) = 256 * a.toNat + (b.toNat + 65535 * b.toNat) := by omega
    rw [hw]
    exact hb.add_left _

lemma sumBE_eq_zero (s : Bytes) : sumBE s = 0 ↔ sumLE s = 0 := by
  induction s using wordsLE.induct with
  | case1 => simp
  | case2 a => simp
  | case3 a b s ih =>
    simp only [sumBE_cons_cons, sumLE_cons_cons]
    omega

lemma dvd_sumBE (s : Bytes) : 65535 ∣ sumBE s ↔ 65535 ∣ sumLE s := by
  have hc : Nat.Coprime 65535 256 := by decide
  rw [← hc.dvd_mul_left (n := sumLE s)]
  exact (sumBE_modEq s).dvd_iff dvd_rfl

lemma onesSum_eq (s : Bytes) : onesSum s = residue 65536 (sumBE s) := by
  rw [onesSum, foldl_add (by decide) (wordsBE_lt s) (by decide), Nat.zero_add, sumBE]

lemma onesSum_eq_top (s : Bytes) : onesSum s = 65535 ↔ sumLE s ≠ 0 ∧ 65535 ∣ sumLE s := by
  rw [onesSum_eq, residue_eq_top (by decide), ne_eq, sumBE_eq_zero]
  exact and_congr_right fun _ => dvd_sumBE s

end order

section exchange

-- The two bytes of each word change places, the padding of an odd last byte included.
def swapWords : Bytes → Bytes
  | [] => []
  | [a] => [0, a]
  | a :: b :: s => b :: a :: swapWords s

def swap16 (n : ℕ) : ℕ := 256 * (n % 256) + n / 256

variable {n : ℕ}

lemma length_swapWords (s : Bytes) : (swapWords s).length = 2 * ((s.length + 1) / 2) := by
  induction s using swapWords.induct with
  | case1 => rfl
  | case2 a => simp [swapWords]
  | case3 a b s ih =>
    simp only [swapWords, List.length_cons, ih]
    omega

lemma sumLE_swapWords (s : Bytes) : sumLE (swapWords s) = sumBE s := by
  induction s using swapWords.induct with
  | case1 => rfl
  | case2 a => simp [swapWords]
  | case3 a b s ih =>
    rw [swapWords, sumLE_cons_cons, sumBE_cons_cons, ih]
    omega

lemma swap16_lt (h : n < 65536) : swap16 n < 65536 := by
  rw [swap16]
  omega

lemma swap16_modEq (n : ℕ) : swap16 n ≡ 256 * n [MOD 65535] := by
  have hmul : swap16 n + 65535 * (n / 256) = 256 * n := by
    rw [swap16]
    omega
  rw [← hmul]
  exact (Nat.add_mul_mod_self_left ..).symm

lemma swap16_eq_zero : swap16 n = 0 ↔ n = 0 := by
  rw [swap16]
  omega

lemma residue_sumBE (s : Bytes) : residue 65536 (sumBE s) = swap16 (residue 65536 (sumLE s)) := by
  refine (eq_residue (by decide) (swap16_lt (residue_lt (by decide) _)) ?_ ?_).symm
  · exact (swap16_modEq _).trans (((residue_modEq 65536 _).mul_left 256).trans (sumBE_modEq s).symm)
  · rw [swap16_eq_zero, residue_eq_zero, sumBE_eq_zero]

lemma sumLE_eq_zero (s : Bytes) : sumLE s = 0 ↔ ∀ b ∈ s, b = 0 := by
  have hzero : ∀ b : UInt8, b.toNat = 0 ↔ b = 0 := fun b => UInt8.toNat_inj (b := 0)
  induction s using wordsLE.induct with
  | case1 => simp
  | case2 a => rw [sumLE_singleton, hzero, List.forall_mem_singleton]
  | case3 a b s ih =>
    have hword : a.toNat + 256 * b.toNat = 0 ↔ a = 0 ∧ b = 0 := by
      rw [← hzero a, ← hzero b]
      omega
    rw [sumLE_cons_cons, Nat.add_eq_zero_iff, hword, List.forall_mem_cons, List.forall_mem_cons, and_assoc]
    exact and_congr_right fun _ => and_congr_right fun _ => ih

end exchange

section storage

def le16 (n : ℕ) : Bytes := [UInt8.ofNat n, UInt8.ofNat (n / 256)]
def be16 (n : ℕ) : Bytes := [UInt8.ofNat (n / 256), UInt8.ofNat n]
def be32 (n : ℕ) : Bytes := be16 (n / 65536) ++ be16 n

lemma sumLE_le16 {n : ℕ} (hn : n < 65536) : sumLE (le16 n) = n := by
  simp only [le16, sumLE_cons_cons, sumLE_nil, UInt8.toNat_ofNat']
  omega

end storage

end RouterCard.OnesComplement

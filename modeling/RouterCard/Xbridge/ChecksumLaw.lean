import RouterCard.Xbridge.Memory

namespace RouterCard.Xbridge

open Text OnesComplement

-- The additions of the first loop, on the accumulators that it goes through.
def NoOverflow (data : Bytes) (len : ℤ) (sum : ℕ) : Prop :=
  if 1 < len then
    match data with
    | a :: b :: rest =>
      sum + (a.toNat + 256 * b.toNat) < 2 ^ 32 ∧ NoOverflow rest (len - 2) ((sum + (a.toNat + 256 * b.toNat)) % 2 ^ 32)
    | _ => True
  else if len = 0 then True
  else
    match data with
    | a :: _ => sum + a.toNat < 2 ^ 32
    | [] => True

def IsOnesSum (s : Bytes) (r : ℕ) : Prop :=
  r ≤ 0xffff ∧ r ≡ sumLE s [MOD 65535] ∧ (r = 0 ↔ ∀ b ∈ s, b = 0)

variable {s a b : Bytes} {r sum : ℕ}

lemma isOnesSum_iff : IsOnesSum s r ↔ r = residue 65536 (sumLE s) := by
  rw [IsOnesSum, ← sumLE_eq_zero]
  constructor
  · rintro ⟨hle, hmod, hzero⟩
    exact eq_residue (by decide) (by omega) hmod hzero
  · rintro rfl
    exact ⟨Nat.le_of_lt_succ (residue_lt (by decide) _), residue_modEq _ _, residue_eq_zero⟩

lemma checksum_whole (hs : s.length ≤ 131074) : checksum s s.length = .ok (residue 65536 (sumLE s)) := by
  rw [checksum_eq_of_le le_rfl hs, List.take_length]

lemma noOverflow_of_lt (h : sum + sumLE s < 2 ^ 32) : NoOverflow s s.length sum := by
  induction s using wordsLE.induct generalizing sum with
  | case1 => simp [NoOverflow]
  | case2 x => simpa [NoOverflow] using h
  | case3 x y rest ih =>
    rw [sumLE_cons_cons] at h
    have hword : sum + (x.toNat + 256 * y.toNat) < 2 ^ 32 := by omega
    have hlen : (((x :: y :: rest).length : ℕ) : ℤ) - 2 = rest.length := by simp; omega
    rw [NoOverflow, if_pos (by simp), hlen, Nat.mod_eq_of_lt hword]
    exact ⟨hword, ih (by omega)⟩

lemma sumLE_lt (hs : s.length ≤ 131074) : sumLE s < 2 ^ 32 := by
  have hle := sumLE_le s
  omega

lemma checksumLoop_whole (hs : s.length ≤ 131074) : checksumLoop s s.length 0 = .ok (sumLE s) := by
  rw [checksumLoop_eq le_rfl (by decide), List.take_length, Nat.zero_add, Nat.mod_eq_of_lt (sumLE_lt hs)]

lemma checksum_append (ha : a.length % 2 = 0) (hs : (a ++ b).length ≤ 131074) :
    ∃ x y r, checksum a a.length = .ok x ∧ checksum b b.length = .ok y ∧ checksum (a ++ b) (a ++ b).length = .ok r ∧
      checksum (le16 x ++ le16 y) 4 = .ok r := by
  rw [List.length_append] at hs
  refine ⟨_, _, _, checksum_whole (by omega), checksum_whole (by omega), checksum_whole (by rwa [List.length_append]), ?_⟩
  have hpair : checksum (le16 (residue 65536 (sumLE a)) ++ le16 (residue 65536 (sumLE b))) (4 : ℕ) = _ :=
    checksum_whole (by simp [le16])
  rw [sumLE_append (by simp [le16]), sumLE_le16 (residue_lt (by decide) _), sumLE_le16 (residue_lt (by decide) _),
    residue_residue_add (by decide), Nat.add_comm, residue_residue_add (by decide), Nat.add_comm, ← sumLE_append ha] at hpair
  exact hpair

lemma checksum_swapWords (hs : s.length ≤ 131074) :
    ∃ r, checksum s s.length = .ok r ∧ checksum (swapWords s) (swapWords s).length = .ok (swap16 r) := by
  refine ⟨_, checksum_whole hs, ?_⟩
  rw [checksum_whole (by rw [length_swapWords]; omega), sumLE_swapWords, residue_sumBE]

theorem checksum_composes (hs : s.length ≤ 131074) :
    NoOverflow s s.length 0 ∧
    (∃ sum, checksumLoop s s.length 0 = .ok sum ∧ ∃ k ≤ 2, checksum s s.length = .ok ((carry 65536)^[k] sum) ∧
      (carry 65536)^[k] sum < 65536 ∧ ∀ j < k, 65536 ≤ (carry 65536)^[j] sum) ∧
    (∃ r, checksum s s.length = .ok r ∧ IsOnesSum s r ∧ ∀ v, IsOnesSum s v → v = r) ∧
    (∀ a b, a ++ b = s → a.length % 2 = 0 → ∃ x y r, checksum a a.length = .ok x ∧ checksum b b.length = .ok y ∧
      checksum s s.length = .ok r ∧ checksum (le16 x ++ le16 y) 4 = .ok r) ∧
    ∃ r, checksum s s.length = .ok r ∧ checksum (swapWords s) (swapWords s).length = .ok (swap16 r) := by
  refine ⟨noOverflow_of_lt (by rw [Nat.zero_add]; exact sumLE_lt hs), ⟨sumLE s, checksumLoop_whole hs, ?_⟩, ?_, ?_,
    checksum_swapWords hs⟩
  · obtain ⟨k, hk, hfold, hlt, hearlier⟩ := fold_rounds (b := 65536) (by decide) (sumLE_lt hs)
    refine ⟨k, hk, ?_, hlt, hearlier⟩
    rw [checksum, checksumLoop_whole hs, ← hfold]
    rfl
  · exact ⟨_, checksum_whole hs, isOnesSum_iff.mpr rfl, fun v hv => isOnesSum_iff.mp hv⟩
  · rintro a b rfl ha
    exact checksum_append ha hs

theorem checksum_composes_odd : ∃ x y r, checksum [1, 2] 2 = .ok x ∧ checksum [255] 1 = .ok y ∧
    checksum [1, 2, 255] 3 = .ok r ∧ checksum (le16 x ++ le16 y) 4 = .ok r :=
  (checksum_composes (s := [1, 2, 255]) (by decide)).2.2.2.1 [1, 2] [255] rfl rfl

end RouterCard.Xbridge

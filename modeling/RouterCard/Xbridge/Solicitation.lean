import RouterCard.Xbridge.Steps

namespace RouterCard.Xbridge

open Text OnesComplement

variable {data : Bytes} {n : ℕ}

section reading

lemma ok_bind {α β : Type} (a : α) (f : α → Access β) : (Except.ok a >>= f) = f a := rfl

lemma guard_ok {p q : Prop} [Decidable p] {rest : Access Bool} (h : ∃ b, rest = .ok b ∧ (b = true ↔ q)) :
    ∃ b, (if p then pure false else rest) = .ok b ∧ (b = true ↔ ¬ p ∧ q) := by
  obtain ⟨b, hb, hq⟩ := h
  by_cases hp : p
  · exact ⟨false, if_pos hp, by simp [hp]⟩
  · exact ⟨b, (if_neg hp).trans hb, by simp [hp, hq]⟩

def octet (data : Bytes) (i : ℕ) : UInt8 := data.getD i 0

def field (data : Bytes) (i n : ℕ) : Bytes := (data.drop i).take n

lemma readByte_octet {i : ℕ} (h : i < data.length) : readByte data i = .ok (octet data i) := by
  rw [readByte_ok h, octet, List.getD_eq_getElem?_getD, List.getElem?_eq_getElem h, Option.getD_some]

lemma readField_field {i m : ℕ} (h : i + m ≤ data.length) :
    ∃ f : Octets m, readField data i m = .ok f ∧ f.val = field data i m := ⟨_, readField_ok h, rfl⟩

lemma length_field {i m : ℕ} (h : i + m ≤ data.length) : (field data i m).length = m := by
  simp [field]
  omega

end reading

section recognised

def pseudoOf (data : Bytes) (payload : Bytes) : Bytes :=
  field data 8 16 ++ field data 24 16 ++ payload ++ be32 IPPROTO_ICMPV6.toNat

structure Solicits (data : Bytes) : Prop where
  nxt : octet data 6 = IPPROTO_ICMPV6
  type : octet data 40 = ND_NEIGHBOR_SOLICIT
  code : octet data 41 = 0
  version : 0xf0 &&& octet data 0 = 0x60
  target : field data 48 16 = linkLocalDefaultGatewayIPv6.val

def CapturedSum (data : Bytes) (n : ℕ) : Prop :=
  65535 ∣ sumLE (pseudoOf data (be16 (n - 40) ++ [0, 0])) + sumLE (field data 40 (n - 40)) % 2 ^ 32

lemma length_pseudoHeader (src dst : In6Addr) (payload : ℕ) : (pseudoHeader src dst payload).length = 40 := by
  simp [pseudoHeader, src.property, dst.property, be16, be32]

lemma sumLE_pseudoOf_ne_zero (payload : Bytes) (h : 40 ≤ data.length) (hp : payload.length = 4) :
    sumLE (pseudoOf data payload) ≠ 0 := by
  have hlen : (field data 8 16 ++ field data 24 16 ++ payload).length % 2 = 0 := by
    rw [List.length_append, List.length_append, length_field (by omega), length_field (by omega), hp]
  rw [pseudoOf, sumLE_append hlen]
  have hnxt : sumLE (be32 IPPROTO_ICMPV6.toNat) = 14848 := by decide
  omega

lemma checksums_ok (hn : n ≤ data.length) (h64 : 64 ≤ n) (hlt : n < 2 ^ 31) {src dst : In6Addr}
    (hsrc : src.val = field data 8 16) (hdst : dst.val = field data 24 16) :
    ∃ b, (do
      let pseudo ← checksum (pseudoHeader src dst (n - 40)) 40
      let message ← checksum (data.drop sizeofIp6Hdr) (toInt (n - 40))
      let csum ← checksum (le16 pseudo ++ le16 message) 4
      return decide (0xffff = csum) : Access Bool) = .ok b ∧ (b = true ↔ CapturedSum data n) := by
  have hph : pseudoHeader src dst (n - 40) = pseudoOf data (be16 (n - 40) ++ [0, 0]) := by
    rw [pseudoHeader, hsrc, hdst, pseudoOf]
  have hpseudo : checksum (pseudoHeader src dst (n - 40)) 40 =
      .ok (residue 65536 (sumLE (pseudoOf data (be16 (n - 40) ++ [0, 0])))) := by
    have hlen := length_pseudoHeader src dst (n - 40)
    have hc := checksum_eq_of_le (n := 40) hlen.ge (by decide)
    rw [List.take_of_length_le hlen.le, hph] at hc
    exact hph ▸ hc
  have hmessage : checksum (data.drop sizeofIp6Hdr) (toInt (n - 40)) =
      .ok (residue 65536 (sumLE (field data 40 (n - 40)) % 2 ^ 32)) := by
    rw [toInt_of_lt (by omega)]
    apply checksum_eq
    rw [List.length_drop, sizeofIp6Hdr]
    omega
  rw [hpseudo, ok_bind, hmessage, ok_bind]
  have hA := residue_lt (b := 65536) (by decide) (sumLE (pseudoOf data (be16 (n - 40) ++ [0, 0])))
  have hB := residue_lt (b := 65536) (by decide) (sumLE (field data 40 (n - 40)) % 2 ^ 32)
  have hne : sumLE (pseudoOf data (be16 (n - 40) ++ [0, 0])) ≠ 0 := sumLE_pseudoOf_ne_zero _ (by omega) rfl
  generalize hS : sumLE (pseudoOf data (be16 (n - 40) ++ [0, 0])) = S at *
  generalize hT : sumLE (field data 40 (n - 40)) % 2 ^ 32 = T at *
  have hcsum : checksum (le16 (residue 65536 S) ++ le16 (residue 65536 T)) 4 = .ok (residue 65536 (S + T)) := by
    have hlen : (le16 (residue 65536 S) ++ le16 (residue 65536 T)).length = 4 := rfl
    have hc := checksum_eq_of_le (n := 4) hlen.ge (by decide)
    rw [List.take_of_length_le hlen.le, sumLE_append (by simp [le16]), sumLE_le16 hA, sumLE_le16 hB, residue_residue_add (by decide),
      Nat.add_comm, residue_residue_add (by decide), Nat.add_comm] at hc
    exact hc
  rw [hcsum, ok_bind]
  refine ⟨_, rfl, ?_⟩
  rw [decide_eq_true_iff, eq_comm, CapturedSum, hS, hT]
  exact (residue_eq_top (by decide)).trans (and_iff_right (by omega))

lemma isNeighborSolicitation_short (hn : n < 64) : isNeighborSolicitation data n = .ok false := by
  rw [isNeighborSolicitation, toSize_of_nonneg (by omega)]
  exact if_pos hn

lemma isNeighborSolicitation_ok (hn : n ≤ data.length) (h64 : 64 ≤ n) (hlt : n < 2 ^ 31) :
    ∃ b, isNeighborSolicitation data n = .ok b ∧
      (b = true ↔ Solicits data ∧ 24 ≤ sumLE (field data 4 2) ∧ CapturedSum data n) := by
  have hns : ¬ sizeofNs > n := by simp only [sizeofNs, sizeofIp6Hdr, sizeofNdNeighborSolicit]; omega
  have hpay : subSize n sizeofIp6Hdr = n - 40 := subSize_of_le (by simp only [sizeofIp6Hdr]; omega) (by omega)
  have hfield : ∀ i m, i + m ≤ 64 → ∃ f : Octets m, readField data i m = .ok f ∧ f.val = field data i m :=
    fun i m h => readField_field (by omega)
  have hbyte : ∀ i, i < 64 → readByte data i = .ok (octet data i) := fun i h => readByte_octet (by omega)
  obtain ⟨plen, hplen, hplenv⟩ := hfield 4 2 (by decide)
  obtain ⟨target, htarget, htargetv⟩ := hfield (sizeofIp6Hdr + 8) 16 (by decide)
  obtain ⟨src, hsrc, hsrcv⟩ := hfield 8 16 (by decide)
  obtain ⟨dst, hdst, hdstv⟩ := hfield 24 16 (by decide)
  have hchecks : Solicits data ∧ 24 ≤ sumLE (field data 4 2) ∧ CapturedSum data n ↔
      ¬ sizeofNdNeighborSolicit > sumLE plen.val ∧ ¬ IPPROTO_ICMPV6 ≠ octet data 6 ∧
      ¬ ND_NEIGHBOR_SOLICIT ≠ octet data sizeofIp6Hdr ∧ ¬ 0 ≠ octet data (sizeofIp6Hdr + 1) ∧
      ¬ 0x60 ≠ 0xf0 &&& octet data 0 ∧ ¬ target ≠ linkLocalDefaultGatewayIPv6 ∧ CapturedSum data n := by
    rw [hplenv]
    simp only [ne_eq, not_not, not_lt, sizeofNdNeighborSolicit, sizeofIp6Hdr, Subtype.ext_iff, htargetv]
    constructor
    · rintro ⟨h, hp, hc⟩
      exact ⟨hp, h.nxt.symm, h.type.symm, h.code.symm, h.version.symm, h.target, hc⟩
    · rintro ⟨hp, h6, h40, h41, h0, h48, hc⟩
      exact ⟨⟨h6.symm, h40.symm, h41.symm, h0.symm, h48⟩, hp, hc⟩
  simp only [hchecks]
  rw [isNeighborSolicitation, toSize_of_nonneg (by omega), if_neg hns, hplen, ok_bind]
  refine guard_ok ?_
  rw [hbyte 6 (by decide), ok_bind]
  refine guard_ok ?_
  rw [hbyte sizeofIp6Hdr (by decide), ok_bind]
  refine guard_ok ?_
  rw [hbyte (sizeofIp6Hdr + 1) (by decide), ok_bind]
  refine guard_ok ?_
  rw [hbyte 0 (by decide), ok_bind]
  refine guard_ok ?_
  rw [htarget, ok_bind]
  refine guard_ok ?_
  rw [hsrc, ok_bind, hdst, ok_bind, hpay]
  exact checksums_ok hn h64 hlt hsrcv hdstv

end recognised

end RouterCard.Xbridge

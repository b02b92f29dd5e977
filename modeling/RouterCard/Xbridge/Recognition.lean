import RouterCard.Xbridge.Solicitation

/-! The recogniser against the solicitations it is meant to find: where it goes by the
captured length it should go by the declared one, which it reads in the wrong byte order. -/

namespace RouterCard.Xbridge

open Text OnesComplement

variable {data : Bytes}

def payloadLength (data : Bytes) : ℕ := 256 * (octet data 4).toNat + (octet data 5).toNat

def InRange (data : Bytes) : Prop := 24 ≤ payloadLength data ∧ 40 + payloadLength data ≤ data.length

def DeclaredSum (data : Bytes) : Prop :=
  onesSum (pseudoOf data (be32 (payloadLength data)) ++ field data 40 (payloadLength data)) = 0xffff

structure IsSolicitation (data : Bytes) : Prop where
  version : (octet data 0).toNat / 16 = 6
  inRange : InRange data
  nxt : octet data 6 = IPPROTO_ICMPV6
  type : octet data 40 = ND_NEIGHBOR_SOLICIT
  code : octet data 41 = 0
  target : field data 48 16 = linkLocalDefaultGatewayIPv6.val
  checksum : DeclaredSum data

/-- The bytes behind the declared payload and the carries lost over it make no difference to the sum. -/
def Agree (data : Bytes) : Prop :=
  sumLE (be16 (data.length - 40) ++ [0, 0]) + sumLE (field data 40 (data.length - 40)) % 2 ^ 32 ≡
    sumLE (be32 (payloadLength data)) + sumLE (field data 40 (payloadLength data)) [MOD 65535]

inductive Misread (data : Bytes) : Prop
  | missed : Solicits data → InRange data → DeclaredSum data →
      (sumLE (field data 4 2) < 24 ∨ ¬ Agree data) → Misread data
  | mistaken : Solicits data → 64 ≤ data.length → 24 ≤ sumLE (field data 4 2) → CapturedSum data data.length →
      (¬ InRange data ∨ ¬ Agree data) → Misread data

section sums

lemma payloadLength_lt (data : Bytes) : payloadLength data < 65536 := by
  have := (octet data 4).toNat_lt
  have := (octet data 5).toNat_lt
  rw [payloadLength]
  omega

lemma sumLE_pseudoOf (h : 40 ≤ data.length) {payload : Bytes} (hp : payload.length = 4) :
    sumLE (pseudoOf data payload) = sumLE (field data 8 16) + sumLE (field data 24 16) + sumLE payload + 14848 := by
  have hsrc : (field data 8 16).length = 16 := length_field (by omega)
  have hdst : (field data 24 16).length = 16 := length_field (by omega)
  rw [pseudoOf, sumLE_append (by simp [hsrc, hdst, hp]), sumLE_append (by simp [hsrc, hdst]), sumLE_append (by simp [hsrc])]
  rfl

def addresses (data : Bytes) : ℕ := sumLE (field data 8 16) + sumLE (field data 24 16) + 14848

lemma capturedSum_iff (h : 40 ≤ data.length) : CapturedSum data data.length ↔ 65535 ∣ addresses data +
    (sumLE (be16 (data.length - 40) ++ [0, 0]) + sumLE (field data 40 (data.length - 40)) % 2 ^ 32) := by
  rw [CapturedSum, sumLE_pseudoOf h rfl, addresses, Nat.add_right_comm _ _ 14848, Nat.add_assoc (_ + 14848)]

lemma declaredSum_iff (h : 40 ≤ data.length) : DeclaredSum data ↔ 65535 ∣ addresses data +
    (sumLE (be32 (payloadLength data)) + sumLE (field data 40 (payloadLength data))) := by
  have hsrc : (field data 8 16).length = 16 := length_field (by omega)
  have hdst : (field data 24 16).length = 16 := length_field (by omega)
  have heven : (pseudoOf data (be32 (payloadLength data))).length % 2 = 0 := by
    simp [pseudoOf, hsrc, hdst, be32, be16]
  rw [DeclaredSum, onesSum_eq_top, sumLE_append heven, sumLE_pseudoOf h rfl, addresses, Nat.add_right_comm _ _ 14848,
    Nat.add_assoc (_ + 14848)]
  exact and_iff_right (by omega)

lemma Agree.sums_iff (ha : Agree data) (h : 40 ≤ data.length) : CapturedSum data data.length ↔ DeclaredSum data := by
  rw [capturedSum_iff h, declaredSum_iff h]
  exact (ha.add_left (addresses data)).dvd_iff dvd_rfl

lemma agree_of_sums (h : 40 ≤ data.length) (hc : CapturedSum data data.length) (hd : DeclaredSum data) : Agree data := by
  have hc0 := Nat.modEq_zero_iff_dvd.mpr ((capturedSum_iff h).mp hc)
  have hd0 := Nat.modEq_zero_iff_dvd.mpr ((declaredSum_iff h).mp hd)
  exact (hc0.trans hd0.symm).add_left_cancel'

lemma agree_of_exact (h : 40 + payloadLength data = data.length) : Agree data := by
  have hlt := payloadLength_lt data
  have hp : data.length - 40 = payloadLength data := by omega
  have hle := sumLE_le (field data 40 (payloadLength data))
  rw [length_field (by omega)] at hle
  have hlen : sumLE (be16 (payloadLength data) ++ [0, 0]) = sumLE (be32 (payloadLength data)) := by
    rw [be32, Nat.div_eq_of_lt hlt, sumLE_append (by simp [be16]), sumLE_append (by simp [be16]), Nat.add_comm]
    rfl
  rw [Agree, hp, Nat.mod_eq_of_lt (by omega), hlen]

end sums

set_option maxRecDepth 8000 in
lemma version_iff (b : UInt8) : 0xf0 &&& b = 0x60 ↔ b.toNat / 16 = 6 := by
  have hall : ∀ n < 256, 240 &&& n = 96 ↔ n / 16 = 6 := by decide
  rw [← UInt8.toNat_inj, UInt8.toNat_and]
  exact hall b.toNat b.toNat_lt

lemma isSolicitation_iff : IsSolicitation data ↔ Solicits data ∧ InRange data ∧ DeclaredSum data := by
  constructor
  · intro h
    exact ⟨⟨h.nxt, h.type, h.code, (version_iff _).mpr h.version, h.target⟩, h.inRange, h.checksum⟩
  · rintro ⟨h, hr, hd⟩
    exact ⟨(version_iff _).mp h.version, hr, h.nxt, h.type, h.code, h.target, hd⟩

lemma accepts_iff (hlen : data.length < 2 ^ 31) : isNeighborSolicitation data data.length = .ok true ↔
    64 ≤ data.length ∧ Solicits data ∧ 24 ≤ sumLE (field data 4 2) ∧ CapturedSum data data.length := by
  by_cases h64 : 64 ≤ data.length
  · obtain ⟨b, hb, hiff⟩ := isNeighborSolicitation_ok le_rfl h64 hlen
    rw [hb, Except.ok.injEq, hiff, and_iff_right h64]
  · rw [isNeighborSolicitation_short (by omega)]
    simp [h64]

structure Shaped (payload : Bytes) : Prop where
  length : 64 ≤ payload.length
  solicits : Solicits payload
  plen : 24 ≤ sumLE (field payload 4 2)
  sum : CapturedSum payload payload.length

lemma shaped_iff (hlen : data.length < 2 ^ 31) : Shaped data ↔ isNeighborSolicitation data data.length = .ok true := by
  rw [accepts_iff hlen]
  constructor
  · intro h
    exact ⟨h.length, h.solicits, h.plen, h.sum⟩
  · rintro ⟨h64, hs, h24, hsum⟩
    exact ⟨h64, hs, h24, hsum⟩

lemma payload_lt (c : Capture) : (c.data.drop 14).length < 2 ^ 31 := by
  have hlt := c.caplen_lt
  rw [List.length_drop]
  omega

theorem recognises_iff (hlen : data.length < 2 ^ 31) :
    (isNeighborSolicitation data data.length = .ok true ↔ IsSolicitation data) ↔ ¬ Misread data := by
  rw [accepts_iff hlen, isSolicitation_iff]
  constructor
  · rintro h (⟨hs, hr, hd, hw⟩ | ⟨hs, h64, h24, hc, hw⟩)
    · obtain ⟨h64, -, h24, hc⟩ := h.mpr ⟨hs, hr, hd⟩
      exact hw.elim (fun hlt => by omega) fun ha => ha (agree_of_sums (by omega) hc hd)
    · obtain ⟨-, hr, hd⟩ := h.mp ⟨h64, hs, h24, hc⟩
      exact hw.elim (fun hn => hn hr) fun ha => ha (agree_of_sums (by omega) hc hd)
  · intro hm
    constructor
    · rintro ⟨h64, hs, h24, hc⟩
      have hw := not_or.mp fun hw => hm (.mistaken hs h64 h24 hc hw)
      exact ⟨hs, not_not.mp hw.1, ((not_not.mp hw.2).sums_iff (by omega)).mp hc⟩
    · rintro ⟨hs, hr, hd⟩
      have hw := not_or.mp fun hw => hm (.missed hs hr hd hw)
      have h64 : 64 ≤ data.length := by have := hr.1; have := hr.2; omega
      exact ⟨h64, hs, not_lt.mp hw.1, ((not_not.mp hw.2).sums_iff (by omega)).mpr hd⟩

lemma not_misread_of_exact (h : 40 + payloadLength data = data.length) (h24 : 24 ≤ payloadLength data)
    (hr : 24 ≤ sumLE (field data 4 2)) : ¬ Misread data := by
  have ha := agree_of_exact h
  rintro (⟨-, -, -, hw⟩ | ⟨-, -, -, -, hw⟩)
  · exact hw.elim (fun hlt => by omega) fun hn => hn ha
  · exact hw.elim (fun hn => hn ⟨h24, h.le⟩) fun hn => hn ha

section samples

-- A payload length of 1 in network order reads as 256, and the sum goes over all 24 bytes.
def declaredOne : Bytes :=
  [0x60, 0, 0, 0, 0, 1, 58, 255] ++ [0xfe, 0x80, 0, 0, 0, 0, 0, 0, 0, 0, 0, 0, 0, 0, 0, 2] ++
    [0xff, 2, 0, 0, 0, 0, 0, 0, 0, 0, 0, 1, 0xff, 0, 0, 1] ++ [135, 0, 0x7d, 0xa2, 0, 0, 0, 0] ++
    linkLocalDefaultGatewayIPv6.val

theorem recognises_declaredOne :
    (isNeighborSolicitation declaredOne declaredOne.length = .ok true ↔ IsSolicitation declaredOne) ↔ ¬ Misread declaredOne :=
  recognises_iff (by decide)

theorem declaredOne_misread :
    ¬ (isNeighborSolicitation declaredOne declaredOne.length = .ok true ↔ IsSolicitation declaredOne) := by
  have ha : isNeighborSolicitation declaredOne declaredOne.length = .ok true :=
    (accepts_iff (by decide)).mpr ⟨by decide, ⟨by decide, by decide, by decide, by decide, by decide⟩, by decide, by
      rw [CapturedSum]
      decide⟩
  exact fun h => absurd (h.mp ha).inRange.1 (by decide)

end samples

end RouterCard.Xbridge

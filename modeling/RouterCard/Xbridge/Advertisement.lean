import RouterCard.Xbridge.Solicitation

namespace RouterCard.Xbridge

open Text OnesComplement

variable (cfg : Settings) (solicited : Bool) (dst : In6Addr)

section aliasing

-- ISO C leaves the reads of a `uint32_t` through the `uint16_t *` of `checksum` undefined. This is
-- what a build finds there: in the last two fields of the pseudo header and in the flags of the message.
structure Found where
  lengths : Octets 8
  flags : Octets 4

-- What the source stores in these fields, and what the reads of the byte-level memory find.
def stored : Found where
  lengths := ⟨be16 32 ++ [0, 0] ++ be32 IPPROTO_ICMPV6.toNat, rfl⟩
  flags := ⟨[advertFlags solicited, 0, 0, 0], rfl⟩

variable (found : Found)

def Found.sum : ℕ := sumLE found.lengths.val + sumLE found.flags.val

def pseudoFound : Bytes := linkLocalDefaultGatewayIPv6.val ++ dst.val ++ found.lengths.val

def messageFound (cksum : ℕ) : Bytes :=
  [ND_NEIGHBOR_ADVERT, 0] ++ le16 cksum ++ found.flags.val ++ linkLocalDefaultGatewayIPv6.val ++
    [ND_OPT_TARGET_LINKADDR, 1] ++ cfg.eHeader.shost.val

def neighborAdvertFound : Access Bytes := do
  let seed ← checksum (pseudoFound dst found) 40
  let sum ← checksum (messageFound cfg found seed) 32
  return advertHeader dst ++ advertMessage cfg solicited (0xffff - sum)

def sendNeighborAdvertFound (iface : Iface) (s : Bridge) : Access (Bridge × List Injection) := do
  let packet ← neighborAdvertFound cfg solicited dst found
  sendPacket cfg iface 72 packet s

lemma neighborAdvert_stored : neighborAdvert cfg solicited dst = neighborAdvertFound cfg solicited dst (stored solicited) := by
  rw [neighborAdvert, neighborAdvertFound, pseudoFound, pseudoHeader, stored]
  simp only [List.append_assoc]
  rfl

lemma sendNeighborAdvert_stored (iface : Iface) (s : Bridge) :
    sendNeighborAdvert cfg solicited iface dst s = sendNeighborAdvertFound cfg solicited dst (stored solicited) iface s := by
  rw [sendNeighborAdvert, neighborAdvert_stored, sendNeighborAdvertFound]

end aliasing

section packet

def pseudoSum : ℕ := sumLE (pseudoHeader linkLocalDefaultGatewayIPv6 dst 32)

def messageSum : ℕ := sumLE (advertMessage cfg solicited 0)

def addressSum : ℕ := sumLE (linkLocalDefaultGatewayIPv6.val ++ dst.val)

def bodySum : ℕ := sumLE ([ND_NEIGHBOR_ADVERT, 0] ++ (linkLocalDefaultGatewayIPv6.val ++
  ([ND_OPT_TARGET_LINKADDR, 1] ++ cfg.eHeader.shost.val)))

def advertPacket : Bytes :=
  advertHeader dst ++ advertMessage cfg solicited (0xffff - residue 65536 (pseudoSum dst + messageSum cfg solicited))

variable (found : Found)

def packetFound : Bytes :=
  advertHeader dst ++ advertMessage cfg solicited (0xffff - residue 65536 (addressSum dst + bodySum cfg + found.sum))

lemma length_advertHeader : (advertHeader dst).length = 40 := by
  simp [advertHeader, linkLocalDefaultGatewayIPv6, dst.property, be16]

lemma length_messageFound (cksum : ℕ) : (messageFound cfg found cksum).length = 32 := by
  simp [messageFound, linkLocalDefaultGatewayIPv6, cfg.eHeader.shost.property, found.flags.property, le16]

lemma length_advertMessage (cksum : ℕ) : (advertMessage cfg solicited cksum).length = 32 :=
  length_messageFound cfg (stored solicited) cksum

lemma length_advertPacket : (advertPacket cfg solicited dst).length = 72 := by
  simp [advertPacket, length_advertHeader, length_advertMessage]

lemma length_packetFound : (packetFound cfg solicited dst found).length = 72 := by
  simp [packetFound, length_advertHeader, length_advertMessage]

lemma length_addresses : (linkLocalDefaultGatewayIPv6.val ++ dst.val).length = 32 := by
  rw [List.length_append, linkLocalDefaultGatewayIPv6.property, dst.property]

lemma sumLE_pseudoFound : sumLE (pseudoFound dst found) = addressSum dst + sumLE found.lengths.val := by
  rw [pseudoFound, sumLE_append (by rw [length_addresses]), addressSum]

lemma sumLE_messageFound {cksum : ℕ} (h : cksum < 65536) :
    sumLE (messageFound cfg found cksum) = cksum + sumLE found.flags.val + bodySum cfg := by
  have hcksum : (le16 cksum).length % 2 = 0 := by simp [le16]
  have hflags : found.flags.val.length % 2 = 0 := by rw [found.flags.property]
  rw [bodySum, messageFound]
  simp only [List.append_assoc]
  rw [sumLE_append rfl, sumLE_append hcksum, sumLE_append hflags, sumLE_append (s := [ND_NEIGHBOR_ADVERT, 0]) rfl,
    sumLE_le16 h]
  omega

lemma pseudoSum_eq : pseudoSum dst = addressSum dst + sumLE (stored solicited).lengths.val := by
  rw [← sumLE_pseudoFound, pseudoSum, pseudoHeader, pseudoFound, stored]
  simp only [List.append_assoc]

lemma neighborAdvertFound_eq :
    neighborAdvertFound cfg solicited dst found = .ok (packetFound cfg solicited dst found) := by
  have hph : (pseudoFound dst found).length = 40 := by
    rw [pseudoFound, List.length_append, length_addresses, found.lengths.property]
  have hseed : checksum (pseudoFound dst found) 40 = .ok (residue 65536 (addressSum dst + sumLE found.lengths.val)) := by
    have hc := checksum_eq_of_le (n := 40) hph.ge (by decide)
    rwa [List.take_of_length_le hph.le, sumLE_pseudoFound] at hc
  have hlt := residue_lt (b := 65536) (by decide) (addressSum dst + sumLE found.lengths.val)
  have hsum : ∀ c < 65536, checksum (messageFound cfg found c) 32 =
      .ok (residue 65536 (c + (sumLE found.flags.val + bodySum cfg))) := by
    intro c hc
    have hmsg := length_messageFound cfg found c
    have hsum := checksum_eq_of_le (n := 32) hmsg.ge (by decide)
    rwa [List.take_of_length_le hmsg.le, sumLE_messageFound cfg found hc, Nat.add_assoc] at hsum
  have hall : addressSum dst + sumLE found.lengths.val + (sumLE found.flags.val + bodySum cfg) =
      addressSum dst + bodySum cfg + found.sum := by
    rw [Found.sum]
    omega
  rw [neighborAdvertFound, hseed, ok_bind, hsum _ hlt, ok_bind, residue_residue_add (by decide), hall]
  rfl

lemma sendNeighborAdvertFound_eq (iface : Iface) (s : Bridge) :
    sendNeighborAdvertFound cfg solicited dst found iface s =
      sendPacket cfg iface (packetFound cfg solicited dst found).length (packetFound cfg solicited dst found) s := by
  rw [sendNeighborAdvertFound, neighborAdvertFound_eq, ok_bind, length_packetFound]
  rfl

lemma neighborAdvert_eq : neighborAdvert cfg solicited dst = .ok (advertPacket cfg solicited dst) := by
  have hsum : pseudoSum dst + messageSum cfg solicited = addressSum dst + bodySum cfg + (stored solicited).sum := by
    have hmsg : messageSum cfg solicited = 0 + sumLE (stored solicited).flags.val + bodySum cfg :=
      sumLE_messageFound cfg (stored solicited) (by decide)
    rw [hmsg, pseudoSum_eq solicited dst, Found.sum]
    omega
  rw [neighborAdvert_stored, neighborAdvertFound_eq, packetFound, advertPacket, hsum]

lemma sendNeighborAdvert_eq (iface : Iface) (s : Bridge) :
    sendNeighborAdvert cfg solicited iface dst s = sendPacket cfg iface (72 : ℕ) (advertPacket cfg solicited dst) s := by
  rw [sendNeighborAdvert, neighborAdvert_eq, ok_bind]
  rfl

end packet

section fields

variable (cksum : ℕ)

lemma drop_advert : (advertHeader dst ++ advertMessage cfg solicited cksum).drop 40 = advertMessage cfg solicited cksum := by
  exact List.drop_left' (length_advertHeader dst)

lemma drop_advertPacket : (advertPacket cfg solicited dst).drop 40 =
    advertMessage cfg solicited (0xffff - residue 65536 (pseudoSum dst + messageSum cfg solicited)) :=
  drop_advert ..

lemma field_advert {i n : ℕ} (h : i + n ≤ 40) :
    field (advertHeader dst ++ advertMessage cfg solicited cksum) i n = field (advertHeader dst) i n := by
  have hlen := length_advertHeader dst
  rw [field, List.drop_append_of_le_length (by omega), List.take_append_of_le_length (by simp; omega), field]

lemma field_source :
    field (advertHeader dst ++ advertMessage cfg solicited cksum) 8 16 = linkLocalDefaultGatewayIPv6.val := by
  rw [field_advert cfg solicited dst cksum (by decide)]
  rfl

lemma field_destination : field (advertHeader dst ++ advertMessage cfg solicited cksum) 24 16 = dst.val := by
  rw [field_advert cfg solicited dst cksum (by decide)]
  exact List.take_of_length_le dst.property.le

lemma field_length : field (advertHeader dst ++ advertMessage cfg solicited cksum) 4 2 = be16 32 := by
  rw [field_advert cfg solicited dst cksum (by decide)]
  rfl

end fields

section verification

variable (found : Found)

-- What a receiver checks: the declared length, and that the sum that it forms in network order, with
-- the length in 32 bits, is all ones.
def Verifies (packet : Bytes) : Prop :=
  field packet 4 2 = be16 (packet.length - 40) ∧ field packet 8 16 = linkLocalDefaultGatewayIPv6.val ∧
  field packet 24 16 = dst.val ∧
  onesSum (field packet 8 16 ++ field packet 24 16 ++ be32 (packet.length - 40) ++ be32 IPPROTO_ICMPV6.toNat ++
    packet.drop 40) = 0xffff

lemma sumLE_standard : sumLE (linkLocalDefaultGatewayIPv6.val ++ dst.val ++ be32 32 ++ be32 IPPROTO_ICMPV6.toNat) =
    addressSum dst + sumLE (stored solicited).lengths.val := by
  rw [List.append_assoc, sumLE_append (by rw [length_addresses]), addressSum]
  rfl

lemma sumLE_stored_lengths : sumLE (stored solicited).lengths.val = 23040 := by
  change sumLE (be16 32 ++ [0, 0] ++ be32 IPPROTO_ICMPV6.toNat) = 23040
  decide

lemma onesSum_advert {cksum : ℕ} (h : cksum < 65536) :
    onesSum (linkLocalDefaultGatewayIPv6.val ++ dst.val ++ be32 32 ++ be32 IPPROTO_ICMPV6.toNat ++
      advertMessage cfg solicited cksum) = 0xffff ↔
    65535 ∣ addressSum dst + bodySum cfg + (stored solicited).sum + cksum := by
  have heven : (linkLocalDefaultGatewayIPv6.val ++ dst.val ++ be32 32 ++ be32 IPPROTO_ICMPV6.toNat).length % 2 = 0 := by
    simp [linkLocalDefaultGatewayIPv6, dst.property, be32, be16]
  have hmsg : sumLE (advertMessage cfg solicited cksum) = cksum + sumLE (stored solicited).flags.val + bodySum cfg :=
    sumLE_messageFound cfg (stored solicited) h
  have hlengths := sumLE_stored_lengths solicited
  have hsum : addressSum dst + sumLE (stored solicited).lengths.val +
      (cksum + sumLE (stored solicited).flags.val + bodySum cfg) =
      addressSum dst + bodySum cfg + (stored solicited).sum + cksum := by
    rw [Found.sum]
    omega
  rw [onesSum_eq_top, sumLE_append heven, sumLE_standard solicited, hmsg, hsum]
  refine ⟨And.right, fun hdvd => ⟨?_, hdvd⟩⟩
  rw [Found.sum]
  omega

-- The complement takes back what was found, so that the difference to what was stored remains.
lemma dvd_complement_iff (m n r : ℕ) :
    65535 ∣ r + n + (0xffff - residue 65536 (r + m)) ↔ m ≡ n [MOD 65535] := by
  have hdvd := dvd_add_complement (b := 65536) (by decide) (r + m)
  rw [Nat.ModEq]
  omega

lemma verifies_iff : Verifies dst (packetFound cfg solicited dst found) ↔
    found.sum ≡ (stored solicited).sum [MOD 65535] := by
  rw [Verifies, length_packetFound, packetFound, field_source, field_destination, field_length, drop_advert,
    and_iff_right rfl, and_iff_right rfl, and_iff_right rfl]
  exact (onesSum_advert cfg solicited dst (by omega)).trans (dvd_complement_iff ..)

theorem advert_verifies_iff (iface : Iface) (s : Bridge) :
    (∃ packet : Bytes, neighborAdvertFound cfg solicited dst found = .ok packet ∧
      sendNeighborAdvertFound cfg solicited dst found iface s = sendPacket cfg iface packet.length packet s ∧
      Verifies dst packet) ↔
    found.sum ≡ (stored solicited).sum [MOD 65535] := by
  have heq := neighborAdvertFound_eq cfg solicited dst found
  rw [← verifies_iff cfg solicited dst found]
  constructor
  · rintro ⟨packet, hpacket, -, hver⟩
    cases heq.symm.trans hpacket
    exact hver
  · exact fun hver => ⟨_, heq, sendNeighborAdvertFound_eq cfg solicited dst found iface s, hver⟩

-- A compiler that lets no `uint16_t` alias them may drop the stores that only `checksum` reads.
def dropped : Found := { stored false with lengths := ⟨List.replicate 8 0, rfl⟩ }

def mac : EtherAddr := ⟨[2, 0, 0, 0, 0, 1], rfl⟩

def layer2 : Settings := .ofFlags [.layer2] mac mac

theorem dropped_stores_unverified : ∃ packet : Bytes,
    neighborAdvertFound layer2 false allNodes dropped = .ok packet ∧ field packet 42 2 = [0xf7, 0xf4] ∧
    ¬Verifies allNodes packet := by
  refine ⟨_, neighborAdvertFound_eq layer2 false allNodes dropped, by decide +kernel, ?_⟩
  rw [verifies_iff]
  decide +kernel

-- In the byte-level memory, which the rest of the model is about.
theorem advert_verifies (iface : Iface) (s : Bridge) : ∃ packet : Bytes,
    sendNeighborAdvert cfg solicited iface dst s = sendPacket cfg iface packet.length packet s ∧
    Verifies dst packet := by
  refine ⟨packetFound cfg solicited dst (stored solicited), ?_, (verifies_iff cfg solicited dst (stored solicited)).mpr rfl⟩
  rw [sendNeighborAdvert_stored, sendNeighborAdvertFound_eq]

end verification

end RouterCard.Xbridge

import RouterCard.Xbridge.Advertisement

namespace RouterCard.Xbridge

open Text OnesComplement

variable {cfg : Settings} {iface : Iface} {c : Capture} {s : Bridge}

lemma Capture.complete_iff : c.complete = true ↔ c.len = c.data.length := by
  rw [Capture.complete, decide_eq_true_iff, eq_comm]

lemma callback_truncated (h : c.complete = false) (s : Bridge) : callback cfg iface c s = .ok (s, []) := by
  rw [callback, h]
  rfl

lemma callback_complete (h : c.complete = true) (s : Bridge) : callback cfg iface c s = (do
    let solicitation ← intercepts cfg iface c
    if solicitation then
      let src ← readField (c.data.drop sizeofEtherHeader) 8 16
      let (s, sent) ← sendNeighborAdvert cfg true iface.other src s
      return (s, sent.map .advert)
    else
      let (s, sent) ← sendPacket cfg iface (toInt c.len) c.data s
      return (s, sent.map .frame)) := by
  rw [callback, h]
  rfl

lemma callback_forward (h : c.complete = true) (hi : intercepts cfg iface c = .ok false) (s : Bridge) :
    callback cfg iface c s = do
      let (s, sent) ← sendPacket cfg iface (c.data.length : ℕ) c.data s
      return (s, sent.map .frame) := by
  rw [callback_complete h, hi, ok_bind, Capture.complete_iff.mp h, toInt_of_lt c.caplen_lt]
  rfl

section passThrough

variable (hc : cfg.secure = false)

include hc

lemma callback_passThrough (h : c.complete = true) (s : Bridge) :
    callback cfg iface c s = .ok (s, [.frame ⟨iface, c.data, c.data.length⟩]) := by
  have hl := l2handling_passThrough hc iface
  have hi : intercepts cfg iface c = .ok false := by rw [intercepts, hl]; rfl
  rw [callback_forward h hi, sendPacket_doneTouch hl]
  rfl

lemma advert_passThrough (solicited : Bool) (dst : In6Addr) (s : Bridge) :
    sendNeighborAdvert cfg solicited .host dst s = .ok (s, [⟨.host, advertPacket cfg solicited dst, 72⟩]) := by
  rw [sendNeighborAdvert_eq, sendPacket_doneTouch (l2handling_passThrough hc _)]
  rfl

end passThrough

section secure

variable (hc : cfg.secure = true)

include hc

lemma advert_secure (solicited : Bool) (dst : In6Addr) (s : Bridge) : ∃ s' i,
    sendNeighborAdvert cfg solicited .host dst s = .ok (s', [i]) ∧ i.iface = .host ∧ i.size = 86 ∧
      i.data.length = sizeofBuf ∧
      (s.Ready cfg → s'.Ready cfg ∧ i.bytes = cfg.eHeader.bytes ++ advertPacket cfg solicited dst) := by
  have hlen := length_advertPacket cfg solicited dst
  obtain ⟨s', i, hi, hiface, hsize, hdata, hbytes⟩ :=
    sendPacket_prepend (l2handling_host hc) hlen.ge (show 72 ≤ 8178 by decide) s
  rw [List.take_of_length_le hlen.le] at hbytes
  exact ⟨s', i, by rw [sendNeighborAdvert_eq, hi], hiface, hsize, hdata, hbytes⟩

lemma step_advertise (s : Bridge) : ∃ s' i, step cfg .advertise s = .ok (s', [.advert i]) ∧
    i.iface = .host ∧ (s.Ready cfg → s'.Ready cfg ∧ i.bytes = cfg.eHeader.bytes ++ advertPacket cfg false allNodes) := by
  obtain ⟨s', i, hadv, hiface, -, -, hbytes⟩ := advert_secure hc false allNodes s
  refine ⟨s', i, ?_, hiface, hbytes⟩
  rw [step, hadv]
  rfl

lemma intercepts_host (c : Capture) : intercepts cfg .host c = .ok false := by
  rw [intercepts, l2handling_host hc]
  rfl

lemma callback_net (h : c.complete = true) (hb : c.data.length ≤ 8178) (s : Bridge) : ∃ s' i,
    callback cfg .host c s = .ok (s', [.frame i]) ∧ i.iface = .host ∧
      (s.Ready cfg → s'.Ready cfg ∧ i.bytes = cfg.eHeader.bytes ++ c.data) := by
  obtain ⟨s', i, hi, hiface, -, -, hbytes⟩ := sendPacket_prepend (l2handling_host hc) le_rfl hb s
  rw [List.take_length] at hbytes
  refine ⟨s', i, ?_, hiface, hbytes⟩
  rw [callback_forward h (intercepts_host hc c), hi]
  rfl

lemma callback_overflow (h : c.complete = true) (hb : 8178 < c.data.length) (s : Bridge) :
    callback cfg .host c s = .error .write := by
  rw [callback_forward h (intercepts_host hc c), sendPacket_overflow (l2handling_host hc) le_rfl hb c.caplen_lt]
  rfl

lemma intercepts_net (h : c.complete = true) : intercepts cfg .net c =
    isNeighborSolicitation (c.data.drop 14) (toInt (subSize c.data.length sizeofEtherHeader)) := by
  rw [intercepts, if_pos (l2handling_net hc), Capture.complete_iff.mp h]
  rfl

-- The length of a frame without a whole header wraps around and passes the first check.
lemma intercepts_short (h : c.complete = true) (hb : c.data.length < 14) : intercepts cfg .net c = .error .read := by
  have hdrop : c.data.drop 14 = [] := List.drop_eq_nil_of_le hb.le
  rw [intercepts_net hc h, hdrop, isNeighborSolicitation]
  have hsize : ¬ sizeofNs > toSize (toInt (subSize c.data.length sizeofEtherHeader)) := by
    simp only [sizeofNs, sizeofIp6Hdr, sizeofNdNeighborSolicit, toSize, toInt, subSize, sizeofEtherHeader]
    split_ifs <;> omega
  rw [if_neg hsize, readField_fault (by decide)]
  rfl

lemma callback_short (h : c.complete = true) (hb : c.data.length < 14) (s : Bridge) :
    callback cfg .net c s = .error .read := by
  rw [callback_complete h, intercepts_short hc h hb]
  rfl

omit hc in
lemma length_payload (hb : 14 ≤ c.data.length) :
    toInt (subSize c.data.length sizeofEtherHeader) = ((c.data.drop 14).length : ℕ) := by
  have hlt := c.caplen_lt
  rw [show sizeofEtherHeader = 14 from rfl, subSize_of_le hb (by omega), toInt_of_lt (by omega), List.length_drop]

lemma intercepts_ok (h : c.complete = true) (hb : 14 ≤ c.data.length) : ∃ b, intercepts cfg .net c = .ok b ∧
    isNeighborSolicitation (c.data.drop 14) (c.data.drop 14).length = .ok b := by
  rw [intercepts_net hc h, length_payload hb]
  have hlt : (c.data.drop 14).length < 2 ^ 31 := by
    have := c.caplen_lt
    rw [List.length_drop]
    omega
  by_cases h64 : 64 ≤ (c.data.drop 14).length
  · obtain ⟨b, hb, -⟩ := isNeighborSolicitation_ok le_rfl h64 hlt
    exact ⟨b, hb, hb⟩
  · exact ⟨false, isNeighborSolicitation_short (by omega), isNeighborSolicitation_short (by omega)⟩

lemma callback_forwarded (h : c.complete = true) (hb : 14 ≤ c.data.length)
    (hi : isNeighborSolicitation (c.data.drop 14) (c.data.drop 14).length = .ok false) (s : Bridge) :
    callback cfg .net c s = .ok (s, if isIPv6Frame c.data then
      [.frame ⟨.net, c.data.drop 14, ((c.data.drop 14).length : ℕ)⟩] else []) := by
  obtain ⟨b, hint, hb'⟩ := intercepts_ok hc h hb
  obtain rfl : b = false := Except.ok.inj (hb'.symm.trans hi)
  rw [callback_forward h hint, sendPacket_strip (l2handling_net hc) hb, toSize_of_nonneg (by have := c.caplen_lt; omega),
    length_payload hb]
  cases isIPv6Frame c.data <;> rfl

lemma callback_intercepted (h : c.complete = true) (hb : 14 ≤ c.data.length)
    (hi : isNeighborSolicitation (c.data.drop 14) (c.data.drop 14).length = .ok true) (s : Bridge) : ∃ s' i src,
    callback cfg .net c s = .ok (s', [.advert i]) ∧ i.iface = .host ∧ i.size = 86 ∧ i.data.length = sizeofBuf ∧
      src.val = field (c.data.drop 14) 8 16 ∧
      (s.Ready cfg → s'.Ready cfg ∧ i.bytes = cfg.eHeader.bytes ++ advertPacket cfg true src) := by
  obtain ⟨b, hint, hb'⟩ := intercepts_ok hc h hb
  obtain rfl : b = true := Except.ok.inj (hb'.symm.trans hi)
  have h64 : 64 ≤ (c.data.drop 14).length := by
    by_contra hlt
    rw [isNeighborSolicitation_short (by omega)] at hi
    exact absurd (Except.ok.inj hi) Bool.false_ne_true
  obtain ⟨src, hsrc, hval⟩ := (readField_field (by omega) : ∃ f : Octets 16, readField (c.data.drop 14) 8 16 = .ok f ∧ _)
  obtain ⟨s', i, hadv, hiface, hsize, hdata, hbytes⟩ := advert_secure hc true src s
  refine ⟨s', i, src, ?_, hiface, hsize, hdata, hval, hbytes⟩
  rw [callback_complete h, hint, ok_bind]
  change (readField (c.data.drop 14) 8 16 >>= _) = _
  rw [hsrc, ok_bind]
  change (sendNeighborAdvert cfg true .host src s >>= _) = _
  rw [hadv]
  rfl

end secure

section samples

def plain : Settings := .ofFlags [] mac mac

end samples

end RouterCard.Xbridge

import RouterCard.Xbridge.Bridge

namespace RouterCard.Xbridge

open Text OnesComplement

variable {cfg : Settings} {iface : Iface} {data : Bytes} {s s' : Bridge} {c : Capture} {n : ℕ} {sent : List Sent}

section buffer

@[simp] lemma EtherHeader.length_bytes (h : EtherHeader) : h.bytes.length = 14 := by
  simp [EtherHeader.bytes, h.dhost.property, h.shost.property, h.type.property]

lemma l2handling_host (hc : cfg.secure = true) : cfg.l2handling .host = .prepend := if_pos hc

lemma l2handling_net (hc : cfg.secure = true) : cfg.l2handling .net = .strip := if_pos hc

lemma l2handling_passThrough (hc : cfg.secure = false) (iface : Iface) : cfg.l2handling iface = .doneTouch := by
  cases iface <;> exact if_neg (by simp [hc])

def Bridge.Ready (cfg : Settings) (s : Bridge) : Prop :=
  s.haveEheader = true → s.buf.val.take sizeofEtherHeader = cfg.eHeader.bytes

lemma Bridge.ready_initial (cfg : Settings) : Bridge.initial.Ready cfg := fun h => absurd h Bool.false_ne_true

lemma headed_ok (cfg : Settings) (s : Bridge) :
    ∃ buf, headed cfg s = .ok buf ∧ (s.Ready cfg → buf.val.take sizeofEtherHeader = cfg.eHeader.bytes) := by
  cases hh : s.haveEheader with
  | true => exact ⟨s.buf, if_pos hh, fun hs => hs hh⟩
  | false =>
    have hlen : cfg.eHeader.bytes.length = sizeofEtherHeader := cfg.eHeader.length_bytes
    obtain ⟨buf, hbuf, hval⟩ := memcpy_ok s.buf hlen.ge (show 0 + sizeofEtherHeader ≤ sizeofBuf by decide)
    refine ⟨buf, (if_neg (by simp [hh])).trans hbuf, fun _ => ?_⟩
    rw [List.take_zero, List.nil_append, List.take_of_length_le hlen.le] at hval
    rw [hval]
    exact List.take_left' hlen

lemma sendPacket_prepend_eq (hl : cfg.l2handling iface = .prepend) (len : ℤ) (data : Bytes) (s : Bridge) :
    sendPacket cfg iface len data s = (do
      let buf ← headed cfg s
      let buf ← memcpy buf sizeofEtherHeader data (toSize len)
      return (⟨buf, true⟩, [⟨iface, buf.val, toInt ((sizeofEtherHeader + toSize len) % 2 ^ 64)⟩])) := by
  rw [sendPacket, hl]

lemma sendPacket_prepend (hl : cfg.l2handling iface = .prepend) (hn : n ≤ data.length) (hb : n ≤ 8178) (s : Bridge) :
    ∃ s' i, sendPacket cfg iface n data s = .ok (s', [i]) ∧ i.iface = iface ∧ i.size = (14 + n : ℕ) ∧
      i.data.length = sizeofBuf ∧ (s.Ready cfg → s'.Ready cfg ∧ i.bytes = cfg.eHeader.bytes ++ data.take n) := by
  obtain ⟨buf, hbuf, htake⟩ := headed_ok cfg s
  have hfit : sizeofEtherHeader + n ≤ sizeofBuf := by simp only [sizeofEtherHeader, sizeofBuf]; omega
  obtain ⟨out, hout, hval⟩ := memcpy_ok buf hn hfit
  have hsize : toSize n = n := toSize_of_nonneg (by omega)
  have hint : toInt ((sizeofEtherHeader + n) % 2 ^ 64) = (14 + n : ℕ) := by
    rw [Nat.mod_eq_of_lt (by simp only [sizeofEtherHeader]; omega), toInt_of_lt (by simp only [sizeofEtherHeader]; omega)]
    rfl
  refine ⟨⟨out, true⟩, ⟨iface, out.val, (14 + n : ℕ)⟩, ?_, rfl, rfl, out.property, fun hs => ?_⟩
  · rw [sendPacket_prepend_eq hl, hbuf, hsize, hint]
    change (memcpy buf sizeofEtherHeader data n >>= _) = _
    rw [hout]
    rfl
  · rw [htake hs] at hval
    have hhead : cfg.eHeader.bytes.length = sizeofEtherHeader := cfg.eHeader.length_bytes
    refine ⟨fun _ => ?_, ?_⟩
    · rw [hval, List.append_assoc]
      exact List.take_left' hhead
    · rw [Injection.bytes, Int.toNat_natCast, hval]
      exact List.take_left' (by simp [List.length_take_of_le hn])

lemma sendPacket_overflow (hl : cfg.l2handling iface = .prepend) (hn : n ≤ data.length) (hb : 8178 < n)
    (hlt : n < 2 ^ 31) (s : Bridge) : sendPacket cfg iface n data s = .error .write := by
  obtain ⟨buf, hbuf, -⟩ := headed_ok cfg s
  have hfit : sizeofBuf < sizeofEtherHeader + n := by simp only [sizeofEtherHeader, sizeofBuf]; omega
  rw [sendPacket_prepend_eq hl, hbuf, toSize_of_nonneg (by omega)]
  change (memcpy buf sizeofEtherHeader data n >>= _) = _
  rw [memcpy_fault buf hn hfit]
  rfl

end buffer

section passing

lemma sendPacket_doneTouch (hl : cfg.l2handling iface = .doneTouch) (len : ℤ) (data : Bytes) (s : Bridge) :
    sendPacket cfg iface len data s = .ok (s, [⟨iface, data, len⟩]) := by
  rw [sendPacket, hl]

def isIPv6Frame (data : Bytes) : Bool := (data.drop 12).take 2 = be16 ETHERTYPE_IPV6

lemma sendPacket_strip (hl : cfg.l2handling iface = .strip) (hd : 14 ≤ data.length) (len : ℤ) (s : Bridge) :
    sendPacket cfg iface len data s = .ok (s, if isIPv6Frame data then
      [⟨iface, data.drop 14, toInt (subSize (toSize len) sizeofEtherHeader)⟩] else []) := by
  rw [sendPacket, hl]
  change (readField data 12 2 >>= _) = _
  rw [readField_ok hd]
  by_cases ht : isIPv6Frame data = true
  · rw [if_pos ht]
    exact if_pos (of_decide_eq_true ht)
  · rw [if_neg ht]
    exact if_neg fun h => ht (decide_eq_true h)

end passing

section runs

variable {e : Event} {es : List Event}

lemma run_cons_ok {x : Bridge × List Sent} (h : step cfg e s = .ok x) :
    run cfg (e :: es) s = (run cfg es x.1).map fun y => (y.1, x.2 ++ y.2) := by
  rw [run, h]
  change (run cfg es x.1 >>= _) = _
  cases run cfg es x.1 <;> rfl

lemma run_cons_error {f : Fault} (h : step cfg e s = .error f) : run cfg (e :: es) s = .error f := by
  rw [run, h]
  rfl

lemma run_cons_elim (h : run cfg (e :: es) s = .ok (s', sent)) :
    ∃ v first rest, step cfg e s = .ok (v, first) ∧ run cfg es v = .ok (s', rest) ∧ sent = first ++ rest := by
  cases he : step cfg e s with
  | error f =>
    rw [run_cons_error he] at h
    cases h
  | ok x =>
    rw [run_cons_ok he] at h
    cases hr : run cfg es x.1 with
    | error f =>
      rw [hr] at h
      cases h
    | ok y =>
      rw [hr] at h
      obtain ⟨rfl, rfl⟩ := Prod.mk.inj (Except.ok.inj h)
      exact ⟨x.1, x.2, y.2, rfl, hr, rfl⟩

end runs

end RouterCard.Xbridge

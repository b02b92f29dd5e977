import RouterCard.Xbridge.Frames

namespace RouterCard.Xbridge

open Text OnesComplement

variable {cfg : Settings} {c : Capture} {s : Bridge}

def unspecified : In6Addr := ⟨[0, 0, 0, 0, 0, 0, 0, 0, 0, 0, 0, 0, 0, 0, 0, 0], rfl⟩

section advertisement

structure Advertises (packet : Bytes) (dst : Bytes) (solicited : Bool) (mac : EtherAddr) : Prop where
  length : packet.length = 72
  version : (octet packet 0).toNat / 16 = 6
  payload : field packet 4 2 = be16 32
  nxt : octet packet 6 = IPPROTO_ICMPV6
  hopLimit : octet packet 7 = 255
  source : field packet 8 16 = linkLocalDefaultGatewayIPv6.val
  destination : field packet 24 16 = dst
  type : octet packet 40 = ND_NEIGHBOR_ADVERT
  code : octet packet 41 = 0
  router : octet packet 44 &&& ND_NA_FLAG_ROUTER = ND_NA_FLAG_ROUTER
  solicited : octet packet 44 &&& ND_NA_FLAG_SOLICITED = if solicited then ND_NA_FLAG_SOLICITED else 0
  target : field packet 48 16 = linkLocalDefaultGatewayIPv6.val
  linkAddr : field packet 64 8 = [ND_OPT_TARGET_LINKADDR, 1] ++ mac.val

lemma octet_advertPacket (solicited : Bool) (dst : In6Addr) (i : ℕ) : octet (advertPacket cfg solicited dst) (40 + i) =
    octet (advertMessage cfg solicited (0xffff - residue 65536 (pseudoSum dst + messageSum cfg solicited))) i := by
  rw [← drop_advertPacket, octet, octet, List.getD_eq_getElem?_getD, List.getD_eq_getElem?_getD, List.getElem?_drop]

lemma field_message (solicited : Bool) (dst : In6Addr) (i n : ℕ) : field (advertPacket cfg solicited dst) (40 + i) n =
    field (advertMessage cfg solicited (0xffff - residue 65536 (pseudoSum dst + messageSum cfg solicited))) i n := by
  rw [← drop_advertPacket, field, field, List.drop_drop]

lemma octet_flags (solicited : Bool) (dst : In6Addr) :
    octet (advertPacket cfg solicited dst) 44 = advertFlags solicited := octet_advertPacket solicited dst 4

lemma advertises_advertPacket (cfg : Settings) (solicited : Bool) (dst : In6Addr) :
    Advertises (advertPacket cfg solicited dst) dst.val solicited cfg.eHeader.shost where
  length := length_advertPacket cfg solicited dst
  version := (isIPv6Packet_advert solicited dst).2
  payload := field_length cfg solicited dst _
  nxt := rfl
  hopLimit := rfl
  source := field_source cfg solicited dst _
  destination := field_destination cfg solicited dst _
  type := octet_advertPacket solicited dst 0
  code := octet_advertPacket solicited dst 1
  router := by
    rw [octet_flags]
    cases solicited <;> decide
  solicited := by
    rw [octet_flags]
    cases solicited <;> decide
  target := field_message solicited dst 8 16
  linkAddr := by
    rw [field_message solicited dst 24 8]
    exact List.take_of_length_le (by simp [advertMessage, cfg.eHeader.shost.property, le16, linkLocalDefaultGatewayIPv6])

end advertisement

section replies

/-- The destination and the solicited flag that neighbour discovery asks for. -/
def replyTo (src : Bytes) : Bytes × Bool :=
  if src = unspecified.val then (allNodes.val, false) else (src, true)

def solicitor (c : Capture) : Bytes := field (c.data.drop 14) 8 16

def Replied (cfg : Settings) (c : Capture) (s : Bridge) : Prop :=
  ∃ s' sent packet, step cfg (.captured .host c) s = .ok (s', sent) ∧ injected .net sent = [] ∧
    injected .host sent = [cfg.eHeader.bytes ++ packet] ∧
    Advertises packet (replyTo (solicitor c)).1 (replyTo (solicitor c)).2 cfg.eHeader.shost ∧
    field packet 24 16 ≠ unspecified.val

lemma step_answered (hc : cfg.secure = true) (hr : Reached cfg s) (h : c.complete = true)
    (hi : intercepts cfg .net c = .ok true) : ∃ s' sent, ∃ src : In6Addr, step cfg (.captured .host c) s = .ok (s', sent) ∧
      src.val = solicitor c ∧ injected .net sent = [] ∧
      injected .host sent = [cfg.eHeader.bytes ++ advertPacket cfg true src] := by
  have hb : 14 ≤ c.data.length := by
    by_contra hb
    rw [intercepts_short hc h (by omega)] at hi
    cases hi
  obtain ⟨b, hint, haccept⟩ := intercepts_ok hc h hb
  obtain rfl : b = true := Except.ok.inj (hint.symm.trans hi)
  obtain ⟨s', i, src, hcall, hiface, -, -, hsrc, hbytes⟩ := callback_intercepted hc h hb haccept s
  refine ⟨s', [.advert i], src, hcall, hsrc, ?_, ?_⟩
  · simp [injected, Sent.injection, hiface]
  · simp [injected, Sent.injection, hiface, (hbytes (hr.ready hc)).2]

theorem replied_iff (hc : cfg.secure = true) (hr : Reached cfg s) (h : c.complete = true)
    (hi : intercepts cfg .net c = .ok true) : Replied cfg c s ↔ solicitor c ≠ unspecified.val := by
  obtain ⟨s', sent, src, hstep, hsrc, hnet, hhost⟩ := step_answered hc hr h hi
  have hadvert := advertises_advertPacket cfg true src
  constructor
  · rintro ⟨u, out, packet, hstep', -, hhost', hreply, -⟩ hzero
    obtain ⟨rfl, rfl⟩ := Prod.mk.inj (Except.ok.inj (hstep.symm.trans hstep'))
    have hpacket : advertPacket cfg true src = packet := List.append_cancel_left (List.singleton_inj.mp (hhost.symm.trans hhost'))
    have hdst := hpacket ▸ hreply.destination
    rw [hadvert.destination, hsrc, replyTo, if_pos hzero, hzero] at hdst
    exact absurd hdst (by decide)
  · intro hne
    refine ⟨s', sent, _, hstep, hnet, hhost, ?_, ?_⟩
    · rw [replyTo, if_neg hne, ← hsrc]
      exact hadvert
    · rwa [hadvert.destination, hsrc]

end replies

section otherTypes

def Inert (cfg : Settings) (c : Capture) (s : Bridge) : Prop :=
  ∃ s' sent, step cfg (.captured .host c) s = .ok (s', sent) ∧ injected .net sent = [] ∧ injected .host sent = []

theorem inert_iff (hc : cfg.secure = true) (hr : Reached cfg s) (h : c.complete = true) (hb : 14 ≤ c.data.length)
    (ht : isIPv6Frame c.data = false) : Inert cfg c s ↔ ¬ Shaped (c.data.drop 14) := by
  rw [shaped_iff (payload_lt c)]
  obtain ⟨s', sent, hstep, -, hh⟩ := step_host_total hc h hb (hr.ready hc)
  cases hh with
  | truncated hcut => exact absurd (h.symm.trans hcut) (by decide)
  | stripped _ _ _ ht' => exact absurd (ht.symm.trans ht') (by decide)
  | discarded _ _ hi _ =>
    refine iff_of_true ⟨s', [], hstep, rfl, rfl⟩ fun ha => ?_
    exact absurd (Except.ok.inj (hi.symm.trans ha)) Bool.false_ne_true
  | answered _ _ hi _ hiface hbytes =>
    refine iff_of_false ?_ (not_not.mpr hi)
    rintro ⟨u, out, hstep', -, hhost⟩
    obtain ⟨rfl, rfl⟩ := Prod.mk.inj (Except.ok.inj (hstep.symm.trans hstep'))
    simp [injected, Sent.injection, hiface] at hhost

end otherTypes

section samples

def solicitation (src : In6Addr) (cksum : Bytes) : Bytes :=
  [0x60, 0, 0, 0, 0, 24, 58, 255] ++ src.val ++ [0xff, 2, 0, 0, 0, 0, 0, 0, 0, 0, 0, 1, 0xff, 0, 0, 1] ++
    [135, 0] ++ cksum ++ [0, 0, 0, 0] ++ linkLocalDefaultGatewayIPv6.val

def neighbor : In6Addr := ⟨[0xfe, 0x80, 0, 0, 0, 0, 0, 0, 0, 0, 0, 0, 0, 0, 0, 2], rfl⟩

def asked : Capture :=
  ⟨List.replicate 12 2 ++ be16 ETHERTYPE_IPV6 ++ solicitation neighbor [0x7d, 0xa2], 78, by decide⟩

def checkingDuplicates : Capture :=
  ⟨List.replicate 12 2 ++ be16 ETHERTYPE_IPV6 ++ solicitation unspecified [0x7c, 0x25], 78, by decide⟩

def mistyped : Capture := ⟨List.replicate 12 2 ++ [8, 6] ++ solicitation neighbor [0x7d, 0xa2], 78, by decide⟩

lemma shaped_mistyped : Shaped (mistyped.data.drop 14) where
  length := by decide
  solicits := ⟨by decide, by decide, by decide, by decide, by decide⟩
  plen := by decide
  sum := by
    rw [CapturedSum]
    decide

lemma shaped_checkingDuplicates : Shaped (checkingDuplicates.data.drop 14) where
  length := by decide
  solicits := ⟨by decide, by decide, by decide, by decide, by decide⟩
  plen := by decide
  sum := by
    rw [CapturedSum]
    decide

lemma intercepts_of_shaped (hc : cfg.secure = true) (h : c.complete = true) (hb : 14 ≤ c.data.length)
    (hs : Shaped (c.data.drop 14)) : intercepts cfg .net c = .ok true := by
  obtain ⟨b, hint, hi⟩ := intercepts_ok hc h hb
  rw [hint, ← hi]
  exact (shaped_iff (payload_lt c)).mp hs

theorem replied_asked : Replied layer2 asked .initial ↔ solicitor asked ≠ unspecified.val := by
  apply replied_iff rfl (.initial layer2) (by decide)
  exact intercepts_of_shaped rfl (by decide) (by decide) shaped_mistyped

theorem checkingDuplicates_unanswered :
    intercepts layer2 .net checkingDuplicates = .ok true ∧ ¬ Replied layer2 checkingDuplicates .initial := by
  have hi : intercepts layer2 .net checkingDuplicates = .ok true :=
    intercepts_of_shaped rfl (by decide) (by decide) shaped_checkingDuplicates
  refine ⟨hi, ?_⟩
  rintro ⟨u, out, packet, hstep', -, hhost', hreply, -⟩
  obtain ⟨s', sent, src, hstep, hsrc, -, hhost⟩ := step_answered rfl (.initial layer2) (by decide) hi
  obtain ⟨rfl, rfl⟩ := Prod.mk.inj (Except.ok.inj (hstep.symm.trans hstep'))
  have hpacket := List.append_cancel_left (List.singleton_inj.mp (hhost.symm.trans hhost'))
  have hflag := hreply.solicited
  rw [← hpacket, octet_flags] at hflag
  exact absurd hflag (by decide)

theorem inert_arp : Inert layer2 arp .initial ↔ ¬ Shaped (arp.data.drop 14) :=
  inert_iff rfl (.initial layer2) (by decide) (by decide) (by decide)

theorem mistyped_answered : isIPv6Frame mistyped.data = false ∧ ¬ Inert layer2 mistyped .initial := by
  refine ⟨by decide, ?_⟩
  rintro ⟨u, out, hstep', -, hhost'⟩
  have hi : intercepts layer2 .net mistyped = .ok true := intercepts_of_shaped rfl (by decide) (by decide) shaped_mistyped
  obtain ⟨s', sent, src, hstep, -, -, hhost⟩ := step_answered rfl (.initial layer2) (by decide) hi
  obtain ⟨rfl, rfl⟩ := Prod.mk.inj (Except.ok.inj (hstep.symm.trans hstep'))
  exact List.cons_ne_nil _ _ (hhost.symm.trans hhost')

end samples

end RouterCard.Xbridge

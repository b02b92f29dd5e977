import RouterCard.Xbridge.Callback

namespace RouterCard.Xbridge

open Text OnesComplement

variable {cfg : Settings} {e : Event} {es : List Event} {c : Capture} {s s' : Bridge} {sent : List Sent}

inductive Handled (cfg : Settings) : Event → List Sent → Prop
  | advertised {i : Injection} : i.iface = .host →
      i.bytes = cfg.eHeader.bytes ++ advertPacket cfg false allNodes → Handled cfg .advertise [.advert i]
  | truncated {iface : Iface} {c : Capture} : c.complete = false → Handled cfg (.captured iface c) []
  | prepended {c : Capture} {i : Injection} : c.complete = true → i.iface = .host →
      i.bytes = cfg.eHeader.bytes ++ c.data → Handled cfg (.captured .net c) [.frame i]
  | answered {c : Capture} {i : Injection} {src : In6Addr} : c.complete = true → 14 ≤ c.data.length →
      isNeighborSolicitation (c.data.drop 14) (c.data.drop 14).length = .ok true →
      src.val = field (c.data.drop 14) 8 16 → i.iface = .host →
      i.bytes = cfg.eHeader.bytes ++ advertPacket cfg true src → Handled cfg (.captured .host c) [.advert i]
  | stripped {c : Capture} : c.complete = true → 14 ≤ c.data.length →
      isNeighborSolicitation (c.data.drop 14) (c.data.drop 14).length = .ok false → isIPv6Frame c.data = true →
      Handled cfg (.captured .host c) [.frame ⟨.net, c.data.drop 14, ((c.data.drop 14).length : ℕ)⟩]
  | discarded {c : Capture} : c.complete = true → 14 ≤ c.data.length →
      isNeighborSolicitation (c.data.drop 14) (c.data.drop 14).length = .ok false → isIPv6Frame c.data = false →
      Handled cfg (.captured .host c) []

section steps

variable (hc : cfg.secure = true)

include hc

lemma step_net_handled (h : c.complete = true) (hs : s.Ready cfg) (hstep : step cfg (.captured .net c) s = .ok (s', sent)) :
    s'.Ready cfg ∧ Handled cfg (.captured .net c) sent := by
  by_cases hb : c.data.length ≤ 8178
  · obtain ⟨u, i, hcall, hiface, hbytes⟩ := callback_net hc h hb s
    obtain ⟨rfl, rfl⟩ := Prod.mk.inj (Except.ok.inj (hcall.symm.trans hstep))
    exact ⟨(hbytes hs).1, .prepended h hiface (hbytes hs).2⟩
  · have hover := (callback_overflow hc h (by omega) s).symm.trans hstep
    cases hover

lemma step_host_total (h : c.complete = true) (hb : 14 ≤ c.data.length) (hs : s.Ready cfg) : ∃ s' sent,
    step cfg (.captured .host c) s = .ok (s', sent) ∧ s'.Ready cfg ∧ Handled cfg (.captured .host c) sent := by
  obtain ⟨b, -, hi⟩ := intercepts_ok hc h hb
  cases b with
  | false =>
    refine ⟨s, _, callback_forwarded hc h hb hi s, hs, ?_⟩
    cases ht : isIPv6Frame c.data with
    | false => exact .discarded h hb hi ht
    | true => exact .stripped h hb hi ht
  | true =>
    obtain ⟨s', i, src, hcall, hiface, -, -, hsrc, hbytes⟩ := callback_intercepted hc h hb hi s
    exact ⟨s', _, hcall, (hbytes hs).1, .answered h hb hi hsrc hiface (hbytes hs).2⟩

lemma step_host_handled (h : c.complete = true) (hs : s.Ready cfg)
    (hstep : step cfg (.captured .host c) s = .ok (s', sent)) : s'.Ready cfg ∧ Handled cfg (.captured .host c) sent := by
  by_cases hb : 14 ≤ c.data.length
  · obtain ⟨u, out, hcall, hu, hout⟩ := step_host_total hc h hb hs
    obtain ⟨rfl, rfl⟩ := Prod.mk.inj (Except.ok.inj (hcall.symm.trans hstep))
    exact ⟨hu, hout⟩
  · have hshort := (callback_short hc h (by omega) s).symm.trans hstep
    cases hshort

lemma step_handled (hs : s.Ready cfg) (hstep : step cfg e s = .ok (s', sent)) : s'.Ready cfg ∧ Handled cfg e sent := by
  cases e with
  | advertise =>
    obtain ⟨u, i, hadv, hiface, hbytes⟩ := step_advertise hc s
    obtain ⟨rfl, rfl⟩ := Prod.mk.inj (Except.ok.inj (hadv.symm.trans hstep))
    exact ⟨(hbytes hs).1, .advertised hiface (hbytes hs).2⟩
  | captured iface c =>
    cases h : c.complete with
    | false =>
      obtain ⟨rfl, rfl⟩ := Prod.mk.inj (Except.ok.inj ((callback_truncated h s).symm.trans hstep))
      exact ⟨hs, .truncated h⟩
    | true =>
      cases iface with
      | host => exact step_host_handled hc h hs hstep
      | net => exact step_net_handled hc h hs hstep

lemma run_ready (hs : s.Ready cfg) (hrun : run cfg es s = .ok (s', sent)) : s'.Ready cfg := by
  induction es generalizing s sent with
  | nil =>
    obtain ⟨rfl, -⟩ := Prod.mk.inj (Except.ok.inj hrun)
    exact hs
  | cons e es ih =>
    obtain ⟨v, first, rest, hstep, hrest, -⟩ := run_cons_elim hrun
    exact ih (step_handled hc hs hstep).1 hrest

end steps

def Reached (cfg : Settings) (s : Bridge) : Prop := ∃ es sent, run cfg es .initial = .ok (s, sent)

lemma Reached.initial (cfg : Settings) : Reached cfg .initial := ⟨[], [], rfl⟩

lemma Reached.ready (hc : cfg.secure = true) (h : Reached cfg s) : s.Ready cfg := by
  obtain ⟨es, sent, hrun⟩ := h
  exact run_ready hc (Bridge.ready_initial cfg) hrun

end RouterCard.Xbridge

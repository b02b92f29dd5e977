import RouterCard.Xbridge.LoopRuns

namespace RouterCard.Xbridge.Process

open Text

variable {cfg : Settings} {p q : Process} {l : Label} {ls : List Label} {s : Bridge} {e : Event} {es : List Event}
  {xs ys : List Sent}

section bridging

def toNet (cfg : Settings) (ds : List Bytes) : List Bytes :=
  if cfg.secure then (ds.filter fun d => isIPv6Frame d && rejects d).map (·.drop 14) else ds

def toHost (cfg : Settings) (ds : List Bytes) : List Bytes := if cfg.secure then ds.map (cfg.eHeader.bytes ++ ·) else ds

lemma toNet_append (xs ys : List Bytes) : toNet cfg (xs ++ ys) = toNet cfg xs ++ toNet cfg ys := by
  unfold toNet
  split_ifs
  · rw [List.filter_append, List.map_append]
  · rfl

lemma toHost_append (xs ys : List Bytes) : toHost cfg (xs ++ ys) = toHost cfg xs ++ toHost cfg ys := by
  unfold toHost
  split_ifs
  · rw [List.map_append]
  · rfl

lemma toNet_nil : toNet cfg [] = [] := by simp [toNet]

lemma toHost_nil : toHost cfg [] = [] := by simp [toHost]

structure Bridges (cfg : Settings) (es : List Event) (sent : List Sent) : Prop where
  net : injected .net sent = toNet cfg (delivered .host es)
  host : injected .host (sent.filter isFrame) = toHost cfg (delivered .net es)

lemma delivered_append (iface : Iface) (es fs : List Event) :
    delivered iface (es ++ fs) = delivered iface es ++ delivered iface fs := List.filterMap_append

def Prepared (cfg : Settings) (s : Bridge) : Prop := cfg.secure = true → s.Ready cfg

lemma run_bridges (hes : ∀ e ∈ es, Sized e) (hs : Prepared cfg s) :
    ∃ s' sent, Xbridge.run cfg es s = .ok (s', sent) ∧ Prepared cfg s' ∧ Bridges cfg es sent := by
  cases hc : cfg.secure with
  | true =>
    obtain ⟨s', outs, hrun, hs', houts⟩ := run_outputs (fun e he s hs => step_carried hc (hes e he) s hs) (hs hc)
    have h := carried_run houts
    refine ⟨s', _, hrun, fun _ => hs', ?_, ?_⟩
    · rw [toNet, if_pos hc]
      exact h.1
    · rw [toHost, if_pos hc]
      exact h.2
  | false =>
    obtain ⟨s', outs, hrun, -, houts⟩ := run_outputs (fun e _ s _ => step_passed hc e s) (s := s) trivial
    have h := passed_run houts
    refine ⟨s', _, hrun, fun ht => absurd (hc.symm.trans ht) Bool.false_ne_true, ?_, ?_⟩
    · rw [toNet, if_neg (by simp [hc])]
      exact h.1
    · rw [toHost, if_neg (by simp [hc])]
      exact h.2.1

end bridging

section process

structure Bridging (cfg : Settings) (p : Process) (host net : List Capture) (sent : List Sent) : Prop where
  prepared : Prepared cfg p.bridge
  sized : ∀ iface, ∀ c ∈ p.queue iface, Sized (.captured iface c)
  bridged : ∃ fromHost fromNet, host = fromHost ++ p.host ∧ net = fromNet ++ p.net ∧
    injected .net sent = toNet cfg (delivered .host (fromHost.map (.captured .host))) ∧
    injected .host (sent.filter isFrame) = toHost cfg (delivered .net (fromNet.map (.captured .net)))

variable {host net : List Capture} {sent : List Sent}

lemma bridging_initial (t : ℤ) : Bridging cfg (initial t) [] [] [] where
  prepared _ := Bridge.ready_initial cfg
  sized iface c hc := by cases iface <;> exact absurd hc List.not_mem_nil
  bridged := ⟨[], [], rfl, rfl, toNet_nil.symm, toHost_nil.symm⟩

lemma delivered_other {i j : Iface} (h : i ≠ j) (cs : List Capture) : delivered j (cs.map (.captured i)) = [] := by
  refine List.filterMap_eq_nil_iff.mpr fun e he => ?_
  obtain ⟨c, -, rfl⟩ := List.mem_map.mp he
  simp [h]

lemma Bridging.keeps {xs : List Sent} (h : Bridging cfg p host net sent) (hb : Prepared cfg q.bridge) (hh : q.host = p.host)
    (hn : q.net = p.net) (hnet : injected .net xs = []) (hframe : xs.filter isFrame = []) :
    Bridging cfg q host net (sent ++ xs) := by
  obtain ⟨fromHost, fromNet, rfl, rfl, h₁, h₂⟩ := h.bridged
  refine ⟨hb, fun iface => ?_, fromHost, fromNet, by rw [hh], by rw [hn], ?_, ?_⟩
  · have hq : q.queue iface = p.queue iface := by cases iface <;> simp [queue, hh, hn]
    rw [hq]
    exact h.sized iface
  · rw [injected_append, hnet, List.append_nil, h₁]
  · rw [List.filter_append, hframe, List.append_nil, h₂]

lemma step_announces (hs : Prepared cfg s) : ∃ s' x, Xbridge.step cfg .advertise s = .ok (s', [x]) ∧ Prepared cfg s' ∧
    injected .net [x] = [] ∧ isFrame x = false := by
  cases hc : cfg.secure with
  | true =>
    obtain ⟨s', i, hadv, hiface, hbytes⟩ := step_advertise hc s
    exact ⟨s', _, hadv, fun _ => (hbytes (hs hc)).1, by simp [injected, Sent.injection, hiface], rfl⟩
  | false =>
    refine ⟨s, .advert ⟨.host, advertPacket cfg false allNodes, 72⟩, ?_, hs, by simp [injected, Sent.injection], rfl⟩
    rw [Xbridge.step, advert_passThrough hc, ok_bind]
    rfl

lemma send_sent (xs : List Sent) : (xs.map Output.sent).flatMap Output.send = xs := by
  simp [List.flatMap_map, Output.send]

lemma go_bridging (r : Reply) (h : Bridging cfg p host net sent) :
    ∃ q out, go cfg r p = .ok (q, out) ∧ Bridging cfg q host net (sent ++ out.flatMap Output.send) := by
  rcases p with ⟨point, quit, stats, na, naTimeout, bridge, clock, hostQueue, netQueue⟩
  cases point with
  | host ready =>
    have hsized : ∀ e ∈ (hostQueue.take r.packets).map (Event.captured .host), Sized e := by
      intro e he
      obtain ⟨c, hc, rfl⟩ := List.mem_map.mp he
      exact h.sized .host c (List.mem_of_mem_take hc)
    obtain ⟨s, xs, hrun, hs, hx⟩ := run_bridges hsized h.prepared
    refine ⟨_, xs.map .sent, by rw [go, hrun]; rfl, hs, fun iface c hc => h.sized iface c ?_, ?_⟩
    · cases iface with
      | host => exact List.mem_of_mem_drop hc
      | net => exact hc
    · obtain ⟨fromHost, fromNet, rfl, rfl, h₁, h₂⟩ := h.bridged
      refine ⟨fromHost ++ hostQueue.take r.packets, fromNet, by simp, rfl, ?_, ?_⟩
      · rw [send_sent, injected_append, h₁, hx.net, List.map_append, delivered_append, toNet_append]
      · rw [send_sent, List.filter_append, injected_append, h₂, hx.host, delivered_other (i := .host) (by decide), toHost_nil,
          List.append_nil]
  | net =>
    have hsized : ∀ e ∈ (netQueue.take r.packets).map (Event.captured .net), Sized e := by
      intro e he
      obtain ⟨c, hc, rfl⟩ := List.mem_map.mp he
      exact h.sized .net c (List.mem_of_mem_take hc)
    obtain ⟨s, xs, hrun, hs, hx⟩ := run_bridges hsized h.prepared
    refine ⟨_, xs.map .sent, by rw [go, hrun]; rfl, hs, fun iface c hc => h.sized iface c ?_, ?_⟩
    · cases iface with
      | host => exact hc
      | net => exact List.mem_of_mem_drop hc
    · obtain ⟨fromHost, fromNet, rfl, rfl, h₁, h₂⟩ := h.bridged
      refine ⟨fromHost, fromNet ++ netQueue.take r.packets, rfl, by simp, ?_, ?_⟩
      · rw [send_sent, injected_append, h₁, hx.net, delivered_other (i := .net) (by decide), toNet_nil, List.append_nil]
      · rw [send_sent, List.filter_append, injected_append, h₂, hx.host, List.map_append, delivered_append, toHost_append]
  | advert =>
    obtain ⟨s, x, hstep, hs, hnet, hframe⟩ := step_announces h.prepared
    have hstep : Xbridge.step cfg .advertise bridge = .ok (s, [x]) := hstep
    refine ⟨⟨.clearNa, quit, stats, na, naTimeout, s, clock, hostQueue, netQueue⟩, [.announced x], ?_,
      h.keeps hs rfl rfl hnet (by simp [Output.send, hframe])⟩
    change (Xbridge.step cfg .advertise bridge >>= _) = _
    rw [hstep]
    rfl
  | wait | clearStats | clearNa | rearm | closed => exact ⟨_, _, rfl, h.keeps h.prepared rfl rfl rfl rfl⟩
  | test | selected | stats | na =>
    unfold go
    dsimp only
    split_ifs <;> exact ⟨_, _, rfl, h.keeps h.prepared rfl rfl rfl rfl⟩

lemma step_bridging (h : Bridging cfg p host net sent) (hl : ∀ iface c, l = .arrive iface c → Sized (.captured iface c)) :
    ∃ q out, step cfg p l = .ok (q, out) ∧
      Bridging cfg q (host ++ l.arrives .host) (net ++ l.arrives .net) (sent ++ out.flatMap Output.send) := by
  cases l with
  | go r =>
    obtain ⟨q, out, hg, hb⟩ := go_bridging r h
    exact ⟨q, out, hg, by simpa [Label.arrives] using hb⟩
  | signal n =>
    refine ⟨_, _, rfl, ?_⟩
    have hb : Bridging cfg (p.signalHandler n) host net (sent ++ []) := by
      cases n <;> exact h.keeps h.prepared rfl rfl rfl rfl
    simpa [Label.arrives] using hb
  | clock t =>
    refine ⟨_, _, rfl, ?_⟩
    have hb : Bridging cfg { p with clock := t } host net (sent ++ []) := h.keeps h.prepared rfl rfl rfl rfl
    simpa [Label.arrives] using hb
  | arrive i c =>
    have hc := hl i c rfl
    obtain ⟨fromHost, fromNet, rfl, rfl, h₁, h₂⟩ := h.bridged
    refine ⟨_, _, rfl, by cases i <;> exact h.prepared, fun iface d hd => ?_, fromHost, fromNet, ?_, ?_, ?_, ?_⟩
    · have hold := h.sized iface d
      cases i <;> cases iface <;> simp only [arrive, queue, List.mem_append, List.mem_singleton] at hd hold
      · exact hd.elim hold fun hd => hd ▸ hc
      · exact hold hd
      · exact hold hd
      · exact hd.elim hold fun hd => hd ▸ hc
    · cases i <;> simp [Label.arrives, arrive]
    · cases i <;> simp [Label.arrives, arrive]
    · simpa using h₁
    · simpa using h₂

lemma run_bridging (h : Bridging cfg p host net sent) (hls : ∀ iface c, .arrive iface c ∈ ls → Sized (.captured iface c)) :
    ∃ q stamped, run cfg ls p = .ok (q, stamped) ∧ Bridging cfg q (host ++ ls.flatMap (Label.arrives .host))
      (net ++ ls.flatMap (Label.arrives .net)) (sent ++ stamped.flatMap fun x => x.2.send) := by
  induction ls generalizing p host net sent with
  | nil => exact ⟨p, [], rfl, by simpa using h⟩
  | cons l ls ih =>
    obtain ⟨m, out, hm, hb⟩ := step_bridging h fun iface c hl => hls iface c (hl ▸ .head ls)
    obtain ⟨q, rest, hq, hb⟩ := ih hb fun iface c hl => hls iface c (.tail l hl)
    refine ⟨q, out.map (Prod.mk p.clock) ++ rest, ?_, by simpa [List.flatMap_map, List.append_assoc] using hb⟩
    change (step cfg p l >>= _) = _
    rw [hm]
    change (run cfg ls m >>= _) = _
    rw [hq]
    rfl

theorem process_bridges (cfg : Settings) (t : ℤ) (hls : ∀ iface c, .arrive iface c ∈ ls → Sized (.captured iface c)) :
    ∃ q stamped fromHost fromNet, run cfg ls (initial t) = .ok (q, stamped) ∧
      ls.flatMap (Label.arrives .host) = fromHost ++ q.host ∧ ls.flatMap (Label.arrives .net) = fromNet ++ q.net ∧
      injected .net (stamped.flatMap fun x => x.2.send) = toNet cfg (delivered .host (fromHost.map (.captured .host))) ∧
      injected .host ((stamped.flatMap fun x => x.2.send).filter isFrame) =
        toHost cfg (delivered .net (fromNet.map (.captured .net))) := by
  obtain ⟨q, stamped, hrun, hb⟩ := run_bridging (bridging_initial t) hls
  obtain ⟨fromHost, fromNet, hh, hn, h₁, h₂⟩ := hb.bridged
  exact ⟨q, stamped, fromHost, fromNet, hrun, hh, hn, h₁, h₂⟩

theorem process_bridges_relay : ∃ q stamped, run layer2 relay (initial 0) = .ok (q, stamped) ∧
    injected .net (stamped.flatMap fun x => x.2.send) = [[0x60, 1]] ∧
    injected .host ((stamped.flatMap fun x => x.2.send).filter isFrame) = [layer2.eHeader.bytes ++ downward.data] := by
  have hsized : ∀ iface c, .arrive iface c ∈ relay → Sized (.captured iface c) := by
    intro iface c h i d hd _
    obtain ⟨rfl, rfl⟩ : iface = i ∧ c = d := by simpa using hd
    obtain ⟨rfl, rfl⟩ | ⟨rfl, rfl⟩ : iface = .host ∧ c = upward ∨ iface = .net ∧ c = downward := by simpa [relay, idle] using h
    · decide
    · decide
  obtain ⟨p, x, y, hrelay, hh, hn⟩ := run_relay
  obtain ⟨q, stamped, fromHost, fromNet, hrun, hhost, hnet, h₁, h₂⟩ := process_bridges layer2 0 hsized
  obtain ⟨rfl, -⟩ := Prod.mk.inj (Except.ok.inj (hrelay.symm.trans hrun))
  rw [hh, List.append_nil] at hhost
  rw [hn, List.append_nil] at hnet
  subst hhost hnet
  exact ⟨_, _, hrun, h₁.trans (by decide), h₂.trans rfl⟩

end process

end RouterCard.Xbridge.Process

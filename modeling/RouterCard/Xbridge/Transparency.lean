import RouterCard.Xbridge.Handling

/-! Whole runs of the bridge: what reaches each interface is what was captured on the
other one, in order, whatever is in the static buffer. -/

namespace RouterCard.Xbridge

open Text OnesComplement

variable {cfg : Settings} {es : List Event} {s : Bridge}

section runs

lemma run_outputs {I : Bridge → Prop} {P : Event → List Sent → Prop}
    (hstep : ∀ e ∈ es, ∀ s, I s → ∃ s' sent, step cfg e s = .ok (s', sent) ∧ I s' ∧ P e sent) (hs : I s) :
    ∃ s' outs, run cfg es s = .ok (s', outs.flatten) ∧ I s' ∧ List.Forall₂ P es outs := by
  induction es generalizing s with
  | nil => exact ⟨s, [], rfl, hs, .nil⟩
  | cons e es ih =>
    obtain ⟨s', sent, he, hI, hP⟩ := hstep e (.head _) s hs
    obtain ⟨u, outs, hrun, hu, houts⟩ := ih (fun d hd => hstep d (.tail e hd)) hI
    refine ⟨u, sent :: outs, ?_, hu, .cons hP houts⟩
    rw [run_cons_ok he, hrun]
    rfl

end runs

section traffic

def delivered (iface : Iface) (es : List Event) : List Bytes :=
  es.filterMap fun
    | .captured i c => if i = iface ∧ c.complete = true then some c.data else none
    | .advertise => none

def advertised (es : List Event) : ℕ := es.countP fun
  | .captured .. => false
  | .advertise => true

def injected (iface : Iface) (sent : List Sent) : List Bytes :=
  (sent.filter fun x => x.injection.iface = iface).map fun x => x.injection.bytes

def isFrame : Sent → Bool
  | .frame _ => true
  | .advert _ => false

def rejects (frame : Bytes) : Bool :=
  match isNeighborSolicitation (frame.drop 14) (frame.drop 14).length with
  | .ok b => !b
  | .error _ => false

lemma rejects_eq {frame : Bytes} {b : Bool}
    (h : isNeighborSolicitation (frame.drop 14) (frame.drop 14).length = .ok b) : rejects frame = !b := by
  rw [rejects, h]

lemma delivered_cons (iface : Iface) (e : Event) (es : List Event) :
    delivered iface (e :: es) = delivered iface [e] ++ delivered iface es := List.filterMap_append (l := [e])

lemma advertised_cons (e : Event) (es : List Event) : advertised (e :: es) = advertised [e] + advertised es := by
  rw [← List.singleton_append, advertised, List.countP_append]
  rfl

lemma bytes_whole (iface : Iface) (d : Bytes) : (⟨iface, d, (d.length : ℕ)⟩ : Injection).bytes = d := by
  rw [Injection.bytes, Int.toNat_natCast, List.take_length]

lemma injected_whole (iface : Iface) (d : Bytes) : injected iface [.frame ⟨iface, d, (d.length : ℕ)⟩] = [d] := by
  have hiface : [Sent.frame ⟨iface, d, (d.length : ℕ)⟩].filter (fun x => x.injection.iface = iface) =
      [.frame ⟨iface, d, (d.length : ℕ)⟩] :=
    List.filter_cons_of_pos (decide_eq_true rfl)
  rw [injected, hiface]
  exact congrArg (fun b => [b]) (bytes_whole iface d)

lemma injected_append (iface : Iface) (xs ys : List Sent) : injected iface (xs ++ ys) = injected iface xs ++ injected iface ys := by
  simp [injected]

def Sized (e : Event) : Prop :=
  ∀ iface c, e = .captured iface c → c.complete = true → 14 ≤ c.data.length ∧ c.data.length ≤ 8178

end traffic

section passThrough

def Passed (e : Event) (sent : List Sent) : Prop :=
  injected .net sent = delivered .host [e] ∧ injected .host (sent.filter isFrame) = delivered .net [e] ∧
    (sent.countP fun x => !isFrame x) = advertised [e]

lemma step_passed (hc : cfg.secure = false) (e : Event) (s : Bridge) :
    ∃ s' sent, step cfg e s = .ok (s', sent) ∧ True ∧ Passed e sent := by
  cases e with
  | advertise =>
    refine ⟨s, [.advert ⟨.host, advertPacket cfg false allNodes, 72⟩], ?_, trivial, rfl, rfl, rfl⟩
    rw [step, advert_passThrough hc, ok_bind]
    rfl
  | captured iface c =>
    cases h : c.complete with
    | false =>
      refine ⟨s, [], callback_truncated h s, trivial, ?_⟩
      simp [Passed, delivered, advertised, injected, h]
    | true =>
      refine ⟨s, _, callback_passThrough hc h s, trivial, ?_⟩
      cases iface <;> simp [Passed, delivered, advertised, injected, h, Iface.other, bytes_whole, Sent.injection, isFrame]

end passThrough

section secure

def Carried (cfg : Settings) (e : Event) (sent : List Sent) : Prop :=
  injected .net sent = ((delivered .host [e]).filter fun d => isIPv6Frame d && rejects d).map (·.drop 14) ∧
    injected .host (sent.filter isFrame) = (delivered .net [e]).map (cfg.eHeader.bytes ++ ·)

lemma Handled.carried {e : Event} {sent : List Sent} (h : Handled cfg e sent) : Carried cfg e sent := by
  cases h with
  | advertised hiface _ => simp [Carried, delivered, injected, Sent.injection, isFrame, hiface]
  | truncated h => simp [Carried, delivered, injected, h]
  | prepended h hiface hbytes => simp [Carried, delivered, injected, Sent.injection, isFrame, hiface, h, hbytes]
  | answered h _ hi _ hiface _ =>
    have hr := rejects_eq hi
    simp [Carried, delivered, injected, Sent.injection, isFrame, hiface, h, hr]
  | discarded h _ _ ht => simp [Carried, delivered, injected, h, ht]
  | stripped h _ hi ht =>
    have hr := rejects_eq hi
    refine ⟨(injected_whole .net _).trans ?_, ?_⟩
    · simp [delivered, h, ht, hr]
    · simp [delivered, injected, isFrame, Sent.injection]

lemma step_carried (hc : cfg.secure = true) {e : Event} (he : Sized e) (s : Bridge) (hs : s.Ready cfg) :
    ∃ s' sent, step cfg e s = .ok (s', sent) ∧ s'.Ready cfg ∧ Carried cfg e sent := by
  suffices hstep : ∃ s' sent, step cfg e s = .ok (s', sent) ∧ s'.Ready cfg ∧ Handled cfg e sent by
    obtain ⟨s', sent, hstep, hs', hsent⟩ := hstep
    exact ⟨s', sent, hstep, hs', hsent.carried⟩
  cases e with
  | advertise =>
    obtain ⟨s', i, hadv, hiface, hbytes⟩ := step_advertise hc s
    exact ⟨s', _, hadv, (hbytes hs).1, .advertised hiface (hbytes hs).2⟩
  | captured iface c =>
    cases h : c.complete with
    | false => exact ⟨s, [], callback_truncated h s, hs, .truncated h⟩
    | true =>
      obtain ⟨hleast, hmost⟩ := he iface c rfl h
      cases iface with
      | host => exact step_host_total hc h hleast hs
      | net =>
        obtain ⟨s', i, hcall, hiface, hbytes⟩ := callback_net hc h hmost s
        exact ⟨s', _, hcall, (hbytes hs).1, .prepended h hiface (hbytes hs).2⟩

end secure

section bridging

lemma passed_run {outs : List (List Sent)} (h : List.Forall₂ Passed es outs) :
    injected .net outs.flatten = delivered .host es ∧ injected .host (outs.flatten.filter isFrame) = delivered .net es ∧
      (outs.flatten.countP fun x => !isFrame x) = advertised es := by
  induction h with
  | nil => exact ⟨rfl, rfl, rfl⟩
  | cons he _ ih =>
    rw [List.flatten_cons, injected_append, List.filter_append, injected_append, List.countP_append, delivered_cons,
      delivered_cons .net, advertised_cons, he.1, he.2.1, he.2.2, ih.1, ih.2.1, ih.2.2]
    exact ⟨rfl, rfl, rfl⟩

lemma carried_run {outs : List (List Sent)} (h : List.Forall₂ (Carried cfg) es outs) :
    injected .net outs.flatten = ((delivered .host es).filter fun d => isIPv6Frame d && rejects d).map (·.drop 14) ∧
      injected .host (outs.flatten.filter isFrame) = (delivered .net es).map (cfg.eHeader.bytes ++ ·) := by
  induction h with
  | nil => exact ⟨rfl, rfl⟩
  | cons he _ ih =>
    rw [List.flatten_cons, injected_append, List.filter_append, injected_append, delivered_cons, delivered_cons .net,
      List.filter_append, List.map_append, List.map_append, he.1, he.2, ih.1, ih.2]
    exact ⟨rfl, rfl⟩

theorem bridging_transparent (cfg : Settings) (hes : ∀ e ∈ es, Sized e) : ∃ s' sent, run cfg es .initial = .ok (s', sent) ∧
    (cfg.secure = true →
      injected .net sent = ((delivered .host es).filter fun d => isIPv6Frame d && rejects d).map (·.drop 14) ∧
      injected .host (sent.filter isFrame) = (delivered .net es).map (cfg.eHeader.bytes ++ ·)) ∧
    (cfg.secure = false →
      injected .net sent = delivered .host es ∧ injected .host (sent.filter isFrame) = delivered .net es ∧
      (sent.countP fun x => !isFrame x) = advertised es) := by
  cases hc : cfg.secure with
  | true =>
    obtain ⟨s', outs, hrun, -, houts⟩ := run_outputs (fun e he s hs => step_carried hc (hes e he) s hs) (Bridge.ready_initial cfg)
    exact ⟨s', _, hrun, fun _ => carried_run houts, fun h => absurd h.symm Bool.false_ne_true⟩
  | false =>
    obtain ⟨s', outs, hrun, -, houts⟩ := run_outputs (fun e _ s _ => step_passed hc e s) (s := .initial) trivial
    exact ⟨s', _, hrun, fun h => absurd h Bool.false_ne_true, fun _ => passed_run houts⟩

def arp : Capture := ⟨List.replicate 12 2 ++ [8, 6, 0, 1], 16, by decide⟩

-- An IPv6 frame that is no solicitation, and a packet from the network.
def upward : Capture := ⟨List.replicate 12 2 ++ be16 ETHERTYPE_IPV6 ++ [0x60, 1], 16, by decide⟩

def downward : Capture := ⟨List.replicate 14 0x60, 14, by decide⟩

def traffic : List Event := [.captured .host upward, .captured .net downward, .captured .host arp, .advertise]

theorem bridging_transparent_traffic : ∃ s' sent, run layer2 traffic .initial = .ok (s', sent) ∧
    injected .net sent = [[0x60, 1]] ∧ injected .host (sent.filter isFrame) = [layer2.eHeader.bytes ++ downward.data] := by
  have hsized : ∀ e ∈ traffic, Sized e := by
    simp only [traffic, List.forall_mem_cons, List.not_mem_nil, false_imp_iff, implies_true, and_true, Sized, Event.captured.injEq,
      and_imp, reduceCtorEq]
    exact ⟨by rintro _ _ rfl rfl; decide, by rintro _ _ rfl rfl; decide, by rintro _ _ rfl rfl; decide⟩
  obtain ⟨s', sent, hrun, hsecure, -⟩ := bridging_transparent layer2 hsized
  obtain ⟨hnet, hhost⟩ := hsecure rfl
  exact ⟨s', sent, hrun, hnet.trans (by decide), hhost.trans rfl⟩

end bridging

end RouterCard.Xbridge

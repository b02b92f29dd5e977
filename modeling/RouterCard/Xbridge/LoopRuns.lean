import RouterCard.Xbridge.Frames
import RouterCard.Xbridge.Process

/-! What holds over every run of the process: each turn is one of the loop, packets are read
once and in order, signals are served, and the advertisements keep their period. -/

namespace RouterCard.Xbridge

def Label.arrives (iface : Iface) : Label → List Capture
  | .arrive i c => if i = iface then [c] else []
  | _ => []

def Output.send : Output → List Sent
  | .sent x | .announced x => [x]
  | _ => []

def Point.beforeHost : Point → Bool
  | .test | .wait | .selected | .host _ | .closed => true
  | _ => false

def Point.beforeNet : Point → Bool
  | .net => true
  | pt => pt.beforeHost

def Point.undecided : Point → Bool
  | .advert | .clearNa | .rearm => false
  | _ => true

def Point.announced : Point → Bool
  | .clearNa | .rearm => true
  | _ => false

-- How often select may be called before the program looks at the flag.

def Point.pastNa : Point → ℕ
  | .clearNa | .rearm | .test | .wait => 1
  | _ => 0

def Point.pastStats : Point → ℕ
  | .selected | .host _ | .net | .stats | .closed => 0
  | _ => 1

def Point.pastQuit : Point → ℕ
  | .wait => 1
  | _ => 0

def Point.rank : Point → ℕ
  | .wait => 11
  | .selected => 10
  | .host _ => 9
  | .net => 8
  | .stats => 7
  | .clearStats => 6
  | .na => 5
  | .advert => 4
  | .clearNa => 3
  | .rearm => 2
  | .test => 1
  | .closed => 0

def Point.readable : Iface → Point → ℕ
  | .host, .wait | .host, .selected | .host, .host _ => 9
  | .net, .wait | .net, .selected | .net, .host _ | .net, .net => 9
  | _, _ => 0

namespace Process

variable {cfg : Settings} {p q : Process} {r : Reply} {l : Label} {ls ks : List Label} {out : List Output}
  {stamped : List (ℤ × Output)}

section steps

inductive Goes (cfg : Settings) (r : Reply) (p : Process) : Process → List Output → Prop
  | quits : p.point = .test → p.quit = true → Goes cfg r p { p with point := .closed } [.showStats .host, .showStats .net]
  | turns : p.point = .test → p.quit = false → Goes cfg r p { p with point := .wait } []
  | waits : p.point = .wait → Goes cfg r p { p with point := .selected } [.select p.untilNext]
  | ready : p.point = .selected → Goes cfg r p { p with point := .host r.net } []
  | readyNet : p.point = .selected → Goes cfg r p { p with point := .net } []
  | timesOut : p.point = .selected → Goes cfg r p { p with point := .stats } []
  | readsHost {net s sent} : p.point = .host net →
      Xbridge.run cfg ((p.host.take r.packets).map (.captured .host)) p.bridge = .ok (s, sent) →
      Goes cfg r p { p with point := if net then .net else .stats, bridge := s, host := p.host.drop r.packets } (sent.map .sent)
  | readsNet {s sent} : p.point = .net →
      Xbridge.run cfg ((p.net.take r.packets).map (.captured .net)) p.bridge = .ok (s, sent) →
      Goes cfg r p { p with point := .stats, bridge := s, net := p.net.drop r.packets } (sent.map .sent)
  | shows : p.point = .stats → p.stats = true →
      Goes cfg r p { p with point := .clearStats } [.showStats .host, .showStats .net, .next p.untilNext]
  | showsNot : p.point = .stats → p.stats = false → Goes cfg r p { p with point := .na } []
  | clearsStats : p.point = .clearStats → Goes cfg r p { p with point := .na, stats := false } []
  | due : p.point = .na → p.na = true ∨ p.naTimeout < p.clock → Goes cfg r p { p with point := .advert } []
  | notDue : p.point = .na → p.na = false → p.clock ≤ p.naTimeout → Goes cfg r p { p with point := .test } []
  | announces {s sent} : p.point = .advert → Xbridge.step cfg .advertise p.bridge = .ok (s, sent) →
      Goes cfg r p { p with point := .clearNa, bridge := s } (sent.map .announced)
  | clearsNa : p.point = .clearNa → Goes cfg r p { p with point := .rearm, na := false } []
  | rearms : p.point = .rearm → Goes cfg r p { p with point := .test, naTimeout := NEIGHBOR_ADV_PERIOD + p.clock } []
  | stays : p.point = .closed → Goes cfg r p p []

lemma ok_inj {a b : Process} {x y : List Output} (h : (Except.ok (a, x) : Access _) = .ok (b, y)) : a = b ∧ x = y :=
  Prod.mk.inj (Except.ok.inj h)

lemma go_cases (h : go cfg r p = .ok (q, out)) : Goes cfg r p q out := by
  unfold go at h
  split at h
  next hp =>
    split_ifs at h with hq <;> obtain ⟨rfl, rfl⟩ := ok_inj h
    · exact .quits hp hq
    · exact .turns hp (by simpa using hq)
  next hp =>
    obtain ⟨rfl, rfl⟩ := ok_inj h
    exact .waits hp
  next hp =>
    split_ifs at h <;> obtain ⟨rfl, rfl⟩ := ok_inj h
    · exact .ready hp
    · exact .readyNet hp
    · exact .timesOut hp
  next net hp =>
    cases hr : Xbridge.run cfg ((p.host.take r.packets).map (.captured .host)) p.bridge with
    | error f =>
      rw [hr] at h
      cases h
    | ok x =>
      rw [hr] at h
      obtain ⟨rfl, rfl⟩ := ok_inj h
      exact .readsHost hp hr
  next hp =>
    cases hr : Xbridge.run cfg ((p.net.take r.packets).map (.captured .net)) p.bridge with
    | error f =>
      rw [hr] at h
      cases h
    | ok x =>
      rw [hr] at h
      obtain ⟨rfl, rfl⟩ := ok_inj h
      exact .readsNet hp hr
  next hp =>
    split_ifs at h with hs <;> obtain ⟨rfl, rfl⟩ := ok_inj h
    · exact .shows hp hs
    · exact .showsNot hp (by simpa using hs)
  next hp =>
    obtain ⟨rfl, rfl⟩ := ok_inj h
    exact .clearsStats hp
  next hp =>
    split_ifs at h with hd <;> obtain ⟨rfl, rfl⟩ := ok_inj h
    · exact .due hp (by simpa using hd)
    · simp only [Bool.or_eq_true, decide_eq_true_eq, not_or, Bool.not_eq_true, not_lt] at hd
      exact .notDue hp hd.1 hd.2
  next hp =>
    cases hr : Xbridge.step cfg .advertise p.bridge with
    | error f =>
      rw [hr] at h
      cases h
    | ok x =>
      rw [hr] at h
      obtain ⟨rfl, rfl⟩ := ok_inj h
      exact .announces hp hr
  next hp =>
    obtain ⟨rfl, rfl⟩ := ok_inj h
    exact .clearsNa hp
  next hp =>
    obtain ⟨rfl, rfl⟩ := ok_inj h
    exact .rearms hp
  next hp =>
    obtain ⟨rfl, rfl⟩ := ok_inj h
    exact .stays hp

lemma run_cons_elim (h : run cfg (l :: ls) p = .ok (q, stamped)) : ∃ m out rest, step cfg p l = .ok (m, out) ∧
    run cfg ls m = .ok (q, rest) ∧ stamped = out.map (Prod.mk p.clock) ++ rest := by
  rw [run] at h
  cases hs : step cfg p l with
  | error f =>
    rw [hs] at h
    cases h
  | ok x =>
    rw [hs] at h
    change (run cfg ls x.1 >>= _) = _ at h
    cases hr : run cfg ls x.1 with
    | error f =>
      rw [hr] at h
      cases h
    | ok y =>
      rw [hr] at h
      obtain ⟨rfl, rfl⟩ := Prod.mk.inj (Except.ok.inj h)
      exact ⟨x.1, x.2, y.2, rfl, hr, rfl⟩

lemma run_append_elim (h : run cfg (ls ++ ks) p = .ok (q, stamped)) : ∃ m first rest, run cfg ls p = .ok (m, first) ∧
    run cfg ks m = .ok (q, rest) ∧ stamped = first ++ rest := by
  induction ls generalizing p stamped with
  | nil => exact ⟨p, [], stamped, rfl, h, rfl⟩
  | cons l ls ih =>
    obtain ⟨m, out, rest, hm, hr, rfl⟩ := run_cons_elim h
    obtain ⟨n, first, last, hn, hk, rfl⟩ := ih hr
    refine ⟨n, out.map (Prod.mk p.clock) ++ first, last, ?_, hk, (List.append_assoc ..).symm⟩
    rw [run, hm]
    change (run cfg ls m >>= _) = _
    rw [hn]
    rfl

end steps

section turns

structure Progress (cfg : Settings) (p : Process) (l : Loop) (fromHost fromNet : List Capture) (sent : List Sent) : Prop where
  run : Xbridge.run cfg (fromHost.map (.captured .host) ++
    (fromNet.map (.captured .net) ++ if p.point.announced then [.advertise] else [])) l.bridge = .ok (p.bridge, sent)
  host_le : fromHost.length ≤ 9
  net_le : fromNet.length ≤ 9
  host : p.point.beforeHost = true → fromHost = []
  net : p.point.beforeNet = true → fromNet = []
  na : p.point.undecided = true → l.na = true → p.na = true
  due : p.point.undecided = false → ∃ (usr2 : Bool) (now : ℤ), (l.na || usr2 || decide (l.naTimeout < now)) = true
  naTimeout : p.naTimeout = l.naTimeout

variable {l' : Loop} {fromHost fromNet : List Capture} {sent before : List Sent} {host net : List Capture}

lemma Progress.passes {l : Loop} (h : Progress cfg p l fromHost fromNet sent) (hb : q.bridge = p.bridge)
    (ht : q.naTimeout = p.naTimeout) (ha : q.point.announced = p.point.announced)
    (hh : q.point.beforeHost = true → p.point.beforeHost = true) (hn : q.point.beforeNet = true → p.point.beforeNet = true)
    (hu : q.point.undecided = true → p.point.undecided = true ∧ (p.na = true → q.na = true))
    (hd : q.point.undecided = false → p.point.undecided = false ∨ p.na = true ∨ p.naTimeout < p.clock) :
    Progress cfg q l fromHost fromNet sent where
  run := by
    rw [hb, ha]
    exact h.run
  host_le := h.host_le
  net_le := h.net_le
  host hq := h.host (hh hq)
  net hq := h.net (hn hq)
  na hq hl := (hu hq).2 (h.na (hu hq).1 hl)
  due hq := by
    rcases hd hq with hp | hna | hlate
    · exact h.due hp
    · exact ⟨true, 0, by simp⟩
    · rw [h.naTimeout] at hlate
      exact ⟨false, p.clock, by simp [hlate]⟩
  naTimeout := ht.trans h.naTimeout

def Turning (cfg : Settings) (p : Process) (host net : List Capture) (sent : List Sent) : Prop :=
  ∃ ts l before fromHost fromNet now, mainLoop cfg ts .initial = .ok (l, before) ∧ Progress cfg p l fromHost fromNet now ∧
    sent = before ++ now ∧ host = ts.flatMap Turn.host ++ fromHost ++ p.host ∧ net = ts.flatMap Turn.net ++ fromNet ++ p.net

lemma turning_initial (t : ℤ) : Turning cfg (initial t) [] [] [] :=
  ⟨[], .initial, [], [], [], [], rfl, ⟨rfl, by simp, by simp, fun _ => rfl, fun _ => rfl, fun _ h => absurd h (by decide),
    fun h => Bool.noConfusion h, rfl⟩, rfl, rfl, rfl⟩

lemma mainLoop_snoc {ts : List Turn} {t : Turn} {l l' l'' : Loop} (h : mainLoop cfg ts l = .ok (l', before))
    (ht : turn cfg t l' = .ok (l'', sent)) : mainLoop cfg (ts ++ [t]) l = .ok (l'', before ++ sent) := by
  induction ts generalizing l before with
  | nil =>
    obtain ⟨rfl, rfl⟩ := Prod.mk.inj (Except.ok.inj h)
    change (turn cfg t l >>= _) = _
    rw [ht]
    exact congrArg (fun s => Except.ok (l'', s)) (List.append_nil sent)
  | cons u ts ih =>
    change (turn cfg u l >>= _) = _ at h
    change (turn cfg u l >>= _) = _
    cases hu : turn cfg u l with
    | error f =>
      rw [hu] at h
      cases h
    | ok x =>
      rw [hu] at h
      change (mainLoop cfg ts x.1 >>= _) = _ at h
      change (mainLoop cfg (ts ++ [t]) x.1 >>= _) = _
      cases hm : mainLoop cfg ts x.1 with
      | error f =>
        rw [hm] at h
        cases h
      | ok y =>
        rw [hm] at h
        obtain ⟨rfl, rfl⟩ := Prod.mk.inj (Except.ok.inj h)
        rw [ih hm]
        exact congrArg (fun s => Except.ok (l'', s)) (List.append_assoc ..).symm

lemma turn_of_run {t : Turn} {l : Loop} {s : Bridge} (h : Xbridge.run cfg (t.events l) l.bridge = .ok (s, sent)) :
    turn cfg t l = .ok (l.next t s, sent) := by
  rw [turn_eq, h]
  rfl

lemma Turning.over {ts : List Turn} {t : Turn} {l : Loop} {now : List Sent} (hm : mainLoop cfg ts .initial = .ok (l, before))
    (hr : Xbridge.run cfg (t.events l) l.bridge = .ok (q.bridge, now)) (hpt : q.point = .test) (hna : q.na = t.usr2Late)
    (ht : q.naTimeout = (l.next t q.bridge).naTimeout) : Turning cfg q (ts.flatMap Turn.host ++ t.host ++ q.host)
      (ts.flatMap Turn.net ++ t.net ++ q.net) (before ++ now) := by
  refine ⟨ts ++ [t], l.next t q.bridge, before ++ now, [], [], [], mainLoop_snoc hm (turn_of_run hr), ?_, by simp, by simp, by simp⟩
  refine ⟨?_, by simp, by simp, fun _ => rfl, fun _ => rfl, fun _ hl => ?_, fun hd => ?_, ht⟩
  · rw [hpt]
    rfl
  · rw [hna]
    exact hl
  · rw [hpt] at hd
    exact absurd hd (by decide)

lemma go_turning (h : Turning cfg p host net sent) (hg : go cfg r p = .ok (q, out)) :
    Turning cfg q host net (sent ++ out.flatMap Output.send) := by
  obtain ⟨ts, l, before, fromHost, fromNet, now, hm, hp, rfl, rfl, rfl⟩ := h
  rcases p with ⟨point, quit, stats, na, naTimeout, bridge, clock, host, net⟩
  cases go_cases hg with
  | quits hpt | turns hpt | waits hpt | ready hpt | readyNet hpt | timesOut hpt | shows hpt | showsNot hpt | clearsStats hpt
  | clearsNa hpt | stays hpt =>
    obtain rfl : point = _ := hpt
    refine ⟨ts, l, before, fromHost, fromNet, now, hm, hp.passes rfl rfl rfl ?_ ?_ ?_ ?_, by simp [Output.send], rfl, rfl⟩ <;>
      simp [Point.beforeHost, Point.beforeNet, Point.undecided]
  | due hpt hdue =>
    obtain rfl : point = _ := hpt
    refine ⟨ts, l, before, fromHost, fromNet, now, hm, hp.passes rfl rfl rfl ?_ ?_ ?_ ?_, by simp, rfl, rfl⟩
    · simp [Point.beforeHost]
    · simp [Point.beforeNet, Point.beforeHost]
    · simp [Point.undecided]
    · exact fun _ => .inr hdue
  | @readsHost ready s sent hpt hr =>
    obtain rfl : point = _ := hpt
    obtain rfl := hp.host rfl
    obtain rfl := hp.net rfl
    obtain ⟨rfl, rfl⟩ : l.bridge = bridge ∧ [] = now := Prod.mk.inj (Except.ok.inj hp.run)
    refine ⟨ts, l, before, host.take r.packets, [], sent, hm, ⟨?_, ?_, by simp, ?_, fun _ => rfl, fun _ => hp.na rfl, ?_,
      hp.naTimeout⟩, ?_, by simp, by simp⟩
    · cases ready <;> simpa [Point.announced] using hr
    · exact (List.length_take_le _ _).trans (Nat.le_of_lt_succ r.packets.isLt)
    · cases ready <;> simp [Point.beforeHost]
    · cases ready <;> simp [Point.undecided]
    · simp [Output.send, List.flatMap_map]
  | @readsNet s sent hpt hr =>
    obtain rfl : point = _ := hpt
    obtain rfl := hp.net rfl
    refine ⟨ts, l, before, fromHost, net.take r.packets, now ++ sent, hm, ⟨?_, hp.host_le, ?_, ?_, ?_, fun _ => hp.na rfl, ?_,
      hp.naTimeout⟩, ?_, by simp, by simp⟩
    · have hfirst : Xbridge.run cfg (fromHost.map (.captured .host)) l.bridge = .ok (bridge, now) := by
        simpa [Point.announced] using hp.run
      have hrest : Xbridge.run cfg ((net.take r.packets).map (.captured .net)) bridge = .ok (s, sent) := hr
      rw [run_append, hfirst]
      change (Xbridge.run cfg ((net.take r.packets).map (.captured .net) ++ []) bridge >>= _) = _
      rw [List.append_nil, hrest]
      rfl
    · exact (List.length_take_le _ _).trans (Nat.le_of_lt_succ r.packets.isLt)
    · simp [Point.beforeHost]
    · simp [Point.beforeNet, Point.beforeHost]
    · simp [Point.undecided]
    · simp [Output.send, List.flatMap_map]
  | notDue hpt hna hlate =>
    obtain rfl : point = _ := hpt
    have hl : l.na = false := by
      by_contra hl
      exact Bool.noConfusion ((hp.na rfl (by simpa using hl)).symm.trans hna)
    have hlate : clock ≤ l.naTimeout := hp.naTimeout ▸ hlate
    have ht : Turn.advertises ⟨fromHost, fromNet, false, na, clock, clock, hp.host_le, hp.net_le⟩ l = false := by
      simp [Turn.advertises, hl, hlate]
    rw [List.flatMap_nil, List.append_nil]
    refine Turning.over (t := ⟨fromHost, fromNet, false, na, clock, clock, hp.host_le, hp.net_le⟩) hm ?_ rfl rfl ?_
    · rw [Turn.events, ht]
      exact hp.run
    · rw [Loop.next, ht]
      exact hp.naTimeout
  | @announces s sent hpt hs =>
    obtain rfl : point = _ := hpt
    refine ⟨ts, l, before, fromHost, fromNet, now ++ sent, hm, ⟨?_, hp.host_le, hp.net_le, ?_, ?_, ?_, fun _ => hp.due rfl,
      hp.naTimeout⟩, ?_, rfl, rfl⟩
    · have hfirst : Xbridge.run cfg (fromHost.map (.captured .host) ++ fromNet.map (.captured .net)) l.bridge =
          .ok (bridge, now) := by
        simpa [Point.announced] using hp.run
      rw [← List.append_assoc, run_append, hfirst]
      simp [Point.announced, Xbridge.run, hs, ok_bind]
    · simp [Point.beforeHost]
    · simp [Point.beforeNet, Point.beforeHost]
    · simp [Point.undecided]
    · simp [Output.send, List.flatMap_map]
  | rearms hpt =>
    obtain rfl : point = _ := hpt
    obtain ⟨usr2, decided, hdue⟩ := hp.due rfl
    have ht : Turn.advertises ⟨fromHost, fromNet, usr2, na, decided, clock, hp.host_le, hp.net_le⟩ l = true := hdue
    rw [List.flatMap_nil, List.append_nil]
    refine Turning.over (t := ⟨fromHost, fromNet, usr2, na, decided, clock, hp.host_le, hp.net_le⟩) hm ?_ rfl rfl ?_
    · rw [Turn.events, ht]
      exact hp.run
    · rw [Loop.next, ht]
      rfl

lemma step_turning (h : Turning cfg p host net sent) (hs : step cfg p l = .ok (q, out)) :
    Turning cfg q (host ++ l.arrives .host) (net ++ l.arrives .net) (sent ++ out.flatMap Output.send) := by
  cases l with
  | go r =>
    have hg := go_turning h hs
    simpa [Label.arrives] using hg
  | signal n =>
    obtain ⟨rfl, rfl⟩ := ok_inj hs
    obtain ⟨ts, l, before, fromHost, fromNet, now, hm, hp, rfl, rfl, rfl⟩ := h
    refine ⟨ts, l, before, fromHost, fromNet, now, hm, ?_, by simp, ?_, ?_⟩
    · apply hp.passes <;> cases n <;> simp +contextual [signalHandler]
    · cases n <;> simp [signalHandler, Label.arrives]
    · cases n <;> simp [signalHandler, Label.arrives]
  | arrive iface c =>
    obtain ⟨rfl, rfl⟩ := ok_inj hs
    obtain ⟨ts, l, before, fromHost, fromNet, now, hm, hp, rfl, rfl, rfl⟩ := h
    refine ⟨ts, l, before, fromHost, fromNet, now, hm, ?_, by simp, ?_, ?_⟩
    · apply hp.passes <;> cases iface <;> simp +contextual [arrive]
    · cases iface <;> simp [arrive, Label.arrives]
    · cases iface <;> simp [arrive, Label.arrives]
  | clock t =>
    obtain ⟨rfl, rfl⟩ := ok_inj hs
    obtain ⟨ts, l, before, fromHost, fromNet, now, hm, hp, rfl, rfl, rfl⟩ := h
    refine ⟨ts, l, before, fromHost, fromNet, now, hm, ?_, by simp, by simp [Label.arrives], by simp [Label.arrives]⟩
    apply hp.passes <;> simp +contextual

lemma run_turning (h : Turning cfg p host net sent) (hr : run cfg ls p = .ok (q, stamped)) :
    Turning cfg q (host ++ ls.flatMap (Label.arrives .host)) (net ++ ls.flatMap (Label.arrives .net))
      (sent ++ stamped.flatMap fun x => x.2.send) := by
  induction ls generalizing p host net sent stamped with
  | nil =>
    obtain ⟨rfl, rfl⟩ := Prod.mk.inj (Except.ok.inj hr)
    simpa using h
  | cons l ls ih =>
    obtain ⟨m, out, rest, hm, hrest, rfl⟩ := run_cons_elim hr
    have hrun := ih (step_turning h hm) hrest
    simpa [List.flatMap_map, List.append_assoc] using hrun

theorem runs_turn {t : ℤ} (h : run cfg ls (initial t) = .ok (p, stamped)) :
    Turning cfg p (ls.flatMap (Label.arrives .host)) (ls.flatMap (Label.arrives .net)) (stamped.flatMap fun x => x.2.send) := by
  simpa using run_turning (turning_initial t) h

-- Nothing is ready, and no packet is read.
def idle : Label := .go ⟨false, false, 0⟩

-- A packet on each interface, and a turn that reads both.
def relay : List Label :=
  [.arrive .host upward, .arrive .net downward, idle, idle, .go ⟨true, true, 0⟩, .go ⟨false, false, 9⟩, .go ⟨false, false, 9⟩]

lemma run_relay : ∃ p x y, run layer2 relay (initial 0) = .ok (p, [(0, .select 1), (0, .sent x), (0, .sent y)]) ∧ p.host = [] ∧
    p.net = [] := ⟨_, _, _, rfl, rfl, rfl⟩

theorem runs_turn_relay : ∃ p x y, run layer2 relay (initial 0) = .ok (p, [(0, .select 1), (0, .sent x), (0, .sent y)]) ∧
    p.host = [] ∧ p.net = [] ∧ Turning layer2 p [upward] [downward] [x, y] := by
  obtain ⟨p, x, y, hrun, hh, hn⟩ := run_relay
  exact ⟨p, x, y, hrun, hh, hn, runs_turn hrun⟩

end turns

section waiting

structure Aside (p q : Process) (out : List Output) : Prop where
  out : out = []
  point : q.point = p.point
  naTimeout : q.naTimeout = p.naTimeout
  quit : p.quit = true → q.quit = true
  stats : p.stats = true → q.stats = true
  na : p.na = true → q.na = true

lemma step_aside (hl : ∀ r, l ≠ .go r) (h : step cfg p l = .ok (q, out)) : Aside p q out := by
  cases l with
  | go r => exact absurd rfl (hl r)
  | signal n =>
    obtain ⟨rfl, rfl⟩ := ok_inj h
    cases n <;> constructor <;> simp [signalHandler]
  | arrive iface c =>
    obtain ⟨rfl, rfl⟩ := ok_inj h
    cases iface <;> constructor <;> simp [arrive]
  | clock t =>
    obtain ⟨rfl, rfl⟩ := ok_inj h
    constructor <;> simp

def selects (stamped : List (ℤ × Output)) : ℕ := stamped.countP fun x =>
  match x.2 with
  | .select _ => true
  | _ => false

def shows (out : Output) : Bool :=
  match out with
  | .next _ => true
  | _ => false

def announces (out : Output) : Bool :=
  match out with
  | .announced _ => true
  | _ => false

lemma selects_append (xs ys : List (ℤ × Output)) : selects (xs ++ ys) = selects xs + selects ys := List.countP_append

lemma run_waiting {W : Process → Prop} {L : Process → ℕ} {A : Output → Bool}
    (hstep : ∀ p q l out, W p → step cfg p l = .ok (q, out) →
      (∃ x ∈ out, A x = true) ∨ W q ∧ selects (out.map (Prod.mk p.clock)) + L q ≤ L p)
    (hw : W p) (h : run cfg ls p = .ok (q, stamped)) :
    (∃ x ∈ stamped, A x.2 = true) ∨ W q ∧ selects stamped + L q ≤ L p := by
  induction ls generalizing p stamped with
  | nil =>
    obtain ⟨rfl, rfl⟩ := Prod.mk.inj (Except.ok.inj h)
    exact .inr ⟨hw, (Nat.zero_add _).le⟩
  | cons l ls ih =>
    obtain ⟨m, out, rest, hm, hr, rfl⟩ := run_cons_elim h
    rcases hstep p m l out hw hm with ⟨x, hx, ha⟩ | ⟨hw, hle⟩
    · exact .inl ⟨(p.clock, x), List.mem_append_left _ (List.mem_map_of_mem hx), ha⟩
    · refine (ih hw hr).imp (fun ⟨x, hx, ha⟩ => ⟨x, List.mem_append_right _ hx, ha⟩) fun ⟨hq, hrest⟩ => ⟨hq, ?_⟩
      rw [selects_append]
      omega

end waiting

section signals

def Owes (p : Process) : Prop := p.na = true ∧ p.point ≠ .clearNa ∨ p.point = .advert

def OwesStats (p : Process) : Prop := p.stats = true ∧ p.point ≠ .clearStats

lemma advertise_one {s s' : Bridge} {sent : List Sent} (h : Xbridge.step cfg .advertise s = .ok (s', sent)) :
    ∃ x, sent = [x] := by
  cases hc : cfg.secure with
  | true =>
    obtain ⟨u, i, hadv, -⟩ := step_advertise hc s
    obtain ⟨-, rfl⟩ := Prod.mk.inj (Except.ok.inj (hadv.symm.trans h))
    exact ⟨_, rfl⟩
  | false =>
    rw [Xbridge.step, advert_passThrough hc, ok_bind] at h
    obtain ⟨-, rfl⟩ := Prod.mk.inj (Except.ok.inj h)
    exact ⟨_, rfl⟩

lemma selects_sent {τ : ℤ} (sent : List Sent) (f : Sent → Output) (hf : ∀ x n, f x ≠ .select n) :
    selects ((sent.map f).map (Prod.mk τ)) = 0 := by
  refine List.countP_eq_zero.mpr fun x hx => ?_
  obtain ⟨y, hy, rfl⟩ := List.mem_map.mp hx
  obtain ⟨z, -, rfl⟩ := List.mem_map.mp hy
  cases hz : f z with
  | select n => exact absurd hz (hf z n)
  | _ => simp

lemma step_owes (hw : Owes p) (h : step cfg p l = .ok (q, out)) :
    (∃ x ∈ out, announces x = true) ∨ Owes q ∧ selects (out.map (Prod.mk p.clock)) + q.point.pastNa ≤ p.point.pastNa := by
  by_cases hl : ∀ r, l ≠ .go r
  · have ha := step_aside hl h
    right
    rw [Owes, ha.out, ha.point]
    exact ⟨hw.imp_left fun hw => ⟨ha.na hw.1, hw.2⟩, (Nat.zero_add _).le⟩
  · push Not at hl
    obtain ⟨r, rfl⟩ := hl
    cases go_cases h with
    | announces hp hs =>
      obtain ⟨x, rfl⟩ := advertise_one hs
      exact .inl ⟨_, List.mem_singleton_self _, rfl⟩
    | clearsNa hp => simp [Owes, hp] at hw
    | notDue hp hna => simp [Owes, hp, hna] at hw
    | @readsHost net s sent hp hr =>
      right
      rw [selects_sent sent .sent (by simp)]
      cases net <;> simp_all [Owes, Point.pastNa]
    | readsNet hp hr =>
      right
      rw [selects_sent _ .sent (by simp)]
      simp_all [Owes, Point.pastNa]
    | _ =>
      right
      simp_all [Owes, Point.pastNa, selects]

lemma step_owesStats (hw : OwesStats p) (h : step cfg p l = .ok (q, out)) :
    (∃ x ∈ out, shows x = true) ∨
      OwesStats q ∧ selects (out.map (Prod.mk p.clock)) + q.point.pastStats ≤ p.point.pastStats := by
  by_cases hl : ∀ r, l ≠ .go r
  · have ha := step_aside hl h
    right
    rw [OwesStats, ha.out, ha.point]
    exact ⟨⟨ha.stats hw.1, hw.2⟩, (Nat.zero_add _).le⟩
  · push Not at hl
    obtain ⟨r, rfl⟩ := hl
    cases go_cases h with
    | shows hp hs => exact .inl ⟨.next p.untilNext, by simp, rfl⟩
    | clearsStats hp => exact absurd hp hw.2
    | showsNot hp hs => simp [OwesStats, hs] at hw
    | @readsHost net s sent hp hr =>
      right
      rw [selects_sent sent .sent (by simp)]
      cases net <;> simp_all [OwesStats, Point.pastStats]
    | readsNet hp hr =>
      right
      rw [selects_sent _ .sent (by simp)]
      simp_all [OwesStats, Point.pastStats]
    | announces hp hs =>
      right
      rw [selects_sent _ .announced (by simp)]
      simp_all [OwesStats, Point.pastStats]
    | _ =>
      right
      simp_all [OwesStats, Point.pastStats, selects]

lemma step_quits (hw : p.quit = true) (h : step cfg p l = .ok (q, out)) :
    q.quit = true ∧ selects (out.map (Prod.mk p.clock)) + q.point.pastQuit ≤ p.point.pastQuit := by
  by_cases hl : ∀ r, l ≠ .go r
  · have ha := step_aside hl h
    rw [ha.out, ha.point]
    exact ⟨ha.quit hw, (Nat.zero_add _).le⟩
  · push Not at hl
    obtain ⟨r, rfl⟩ := hl
    cases go_cases h with
    | @readsHost net s sent hp hr =>
      rw [selects_sent sent .sent (by simp)]
      cases net <;> simp_all [Point.pastQuit]
    | readsNet hp hr =>
      rw [selects_sent _ .sent (by simp)]
      simp_all [Point.pastQuit]
    | announces hp hs =>
      rw [selects_sent _ .announced (by simp)]
      simp_all [Point.pastQuit]
    | _ => simp_all [Point.pastQuit, selects]

structure Obeyed (p : Process) (stamped : List (ℤ × Output)) : Prop where
  na : p.point = .clearNa → ∃ τ x, stamped.getLast? = some (τ, x) ∧ announces x = true
  stats : p.point = .clearStats → ∃ τ x, stamped.getLast? = some (τ, x) ∧ shows x = true

lemma step_obeyed (ho : Obeyed p stamped) (h : step cfg p l = .ok (q, out)) :
    Obeyed q (stamped ++ out.map (Prod.mk p.clock)) := by
  by_cases hl : ∀ r, l ≠ .go r
  · have ha := step_aside hl h
    rw [ha.out, List.map_nil, List.append_nil]
    exact ⟨fun hq => ho.na (ha.point ▸ hq), fun hq => ho.stats (ha.point ▸ hq)⟩
  · push Not at hl
    obtain ⟨r, rfl⟩ := hl
    cases go_cases h with
    | shows hp hs => exact ⟨by simp, fun _ => ⟨p.clock, .next p.untilNext, by simp, rfl⟩⟩
    | announces hp hs =>
      obtain ⟨x, rfl⟩ := advertise_one hs
      exact ⟨fun _ => ⟨p.clock, .announced x, by simp, rfl⟩, by simp⟩
    | @readsHost net s sent hp hr => cases net <;> exact ⟨by simp, by simp⟩
    | stays hp => exact ⟨by simp [hp], by simp [hp]⟩
    | _ => exact ⟨by simp, by simp⟩

lemma run_obeyed {before : List (ℤ × Output)} (ho : Obeyed p before) (h : run cfg ls p = .ok (q, stamped)) :
    Obeyed q (before ++ stamped) := by
  induction ls generalizing p before stamped with
  | nil =>
    obtain ⟨rfl, rfl⟩ := Prod.mk.inj (Except.ok.inj h)
    rwa [List.append_nil]
  | cons l ls ih =>
    obtain ⟨m, out, rest, hm, hr, rfl⟩ := run_cons_elim h
    rw [← List.append_assoc]
    exact ih (step_obeyed ho hm) hr

lemma pastNa_le (pt : Point) : pt.pastNa ≤ 1 := by cases pt <;> simp [Point.pastNa]

lemma pastStats_le (pt : Point) : pt.pastStats ≤ 1 := by cases pt <;> simp [Point.pastStats]

lemma pastQuit_le (pt : Point) : pt.pastQuit ≤ 1 := by cases pt <;> simp [Point.pastQuit]

theorem signals_served {pre post : List Label} {n : Signal} {t : ℤ}
    (h : run cfg (pre ++ .signal n :: post) (initial t) = .ok (q, stamped)) :
    ∃ p before after, run cfg pre (initial t) = .ok (p, before) ∧ stamped = before ++ after ∧
      (n = .usr2 → (∃ x ∈ after, announces x.2 = true) ∨ selects after ≤ 1 ∨
        p.point = .clearNa ∧ ∃ τ x, before.getLast? = some (τ, x) ∧ announces x = true) ∧
      (n = .usr1 → (∃ x ∈ after, shows x.2 = true) ∨ selects after ≤ 1 ∨
        p.point = .clearStats ∧ ∃ τ x, before.getLast? = some (τ, x) ∧ shows x = true) := by
  obtain ⟨p, before, after, hp, hrest, rfl⟩ := run_append_elim h
  obtain ⟨m, out, rest, hm, hr, rfl⟩ := run_cons_elim hrest
  have hinit : Obeyed (initial t) [] := ⟨Point.noConfusion, Point.noConfusion⟩
  have ho : Obeyed p before := run_obeyed hinit hp
  obtain ⟨rfl, rfl⟩ := ok_inj hm
  refine ⟨p, before, rest, hp, rfl, ?_, ?_⟩
  · rintro rfl
    by_cases hpt : p.point = .clearNa
    · exact .inr (.inr ⟨hpt, ho.na hpt⟩)
    · have howes : Owes (p.signalHandler .usr2) := .inl ⟨rfl, hpt⟩
      rcases run_waiting (fun _ _ _ _ => step_owes) howes hr with hx | ⟨-, hle⟩
      · exact .inl hx
      · exact .inr (.inl ((Nat.le_of_add_right_le hle).trans (pastNa_le _)))
  · rintro rfl
    by_cases hpt : p.point = .clearStats
    · exact .inr (.inr ⟨hpt, ho.stats hpt⟩)
    · have howes : OwesStats (p.signalHandler .usr1) := ⟨rfl, hpt⟩
      rcases run_waiting (fun _ _ _ _ => step_owesStats) howes hr with hx | ⟨-, hle⟩
      · exact .inl hx
      · exact .inr (.inl ((Nat.le_of_add_right_le hle).trans (pastStats_le _)))

theorem signals_served_idle : ∃ q stamped, run layer2 ([idle] ++ .signal .usr2 :: [idle, idle, idle, idle, idle]) (initial 0) =
    .ok (q, stamped) ∧ ∃ p before after, run layer2 [idle] (initial 0) = .ok (p, before) ∧ stamped = before ++ after ∧
      (Signal.usr2 = .usr2 → (∃ x ∈ after, announces x.2 = true) ∨ selects after ≤ 1 ∨
        p.point = .clearNa ∧ ∃ τ x, before.getLast? = some (τ, x) ∧ announces x = true) ∧
      (Signal.usr2 = .usr1 → (∃ x ∈ after, shows x.2 = true) ∨ selects after ≤ 1 ∨
        p.point = .clearStats ∧ ∃ τ x, before.getLast? = some (τ, x) ∧ shows x = true) :=
  ⟨_, _, rfl, signals_served (show run layer2 ([idle] ++ .signal .usr2 :: [idle, idle, idle, idle, idle]) (initial 0) =
    .ok (_, _) from rfl)⟩

end signals

section quitting

def queue (p : Process) : Iface → List Capture
  | .host => p.host
  | .net => p.net

def goes (ls : List Label) : ℕ := ls.countP fun
  | .go _ => true
  | _ => false

lemma step_rank (hw : p.quit = true) (h : step cfg p l = .ok (q, out)) : q.point.rank ≤ p.point.rank - goes [l] := by
  by_cases hl : ∀ r, l ≠ .go r
  · rw [(step_aside hl h).point]
    cases l with
    | go r => exact absurd rfl (hl r)
    | _ => exact le_rfl
  · push Not at hl
    obtain ⟨r, rfl⟩ := hl
    have hgoes : goes [.go r] = 1 := rfl
    rw [hgoes]
    cases go_cases h with
    | @readsHost net s sent hp hr => cases net <;> simp_all [Point.rank]
    | _ => simp_all [Point.rank]

lemma run_rank (hw : p.quit = true) (h : run cfg ls p = .ok (q, stamped)) : q.point.rank ≤ p.point.rank - goes ls := by
  induction ls generalizing p stamped with
  | nil =>
    obtain ⟨rfl, rfl⟩ := Prod.mk.inj (Except.ok.inj h)
    exact le_rfl
  | cons l ls ih =>
    obtain ⟨m, out, rest, hm, hr, rfl⟩ := run_cons_elim h
    have hgoes : goes (l :: ls) = goes [l] + goes ls := @List.countP_append _ _ [l] ls
    have hstep := step_rank hw hm
    have hrest := ih (step_quits hw hm).1 hr
    omega

lemma rank_le (pt : Point) : pt.rank ≤ 11 := by cases pt <;> simp [Point.rank]

lemma readable_le (iface : Iface) (pt : Point) : pt.readable iface ≤ 9 := by
  cases iface <;> cases pt <;> simp [Point.readable]

lemma step_reads (iface : Iface) (hw : p.quit = true) (h : step cfg p l = .ok (q, out)) :
    ∃ taken, p.queue iface ++ l.arrives iface = taken ++ q.queue iface ∧
      taken.length + q.point.readable iface ≤ p.point.readable iface := by
  cases l with
  | signal n =>
    obtain ⟨rfl, rfl⟩ := ok_inj h
    exact ⟨[], by cases n <;> cases iface <;> simp [signalHandler, queue, Label.arrives], by cases n <;> simp [signalHandler]⟩
  | arrive i c =>
    obtain ⟨rfl, rfl⟩ := ok_inj h
    exact ⟨[], by cases i <;> cases iface <;> simp [arrive, queue, Label.arrives], by cases i <;> simp [arrive]⟩
  | clock t =>
    obtain ⟨rfl, rfl⟩ := ok_inj h
    exact ⟨[], by cases iface <;> simp [queue, Label.arrives], by simp⟩
  | go r =>
    have hnine := Nat.le_of_lt_succ r.packets.isLt
    cases go_cases h with
    | @readsHost net s sent hp hr =>
      cases iface with
      | host =>
        refine ⟨p.host.take r.packets, by simp [queue, Label.arrives], ?_⟩
        cases net <;> simp [hp, Point.readable] <;> omega
      | net => exact ⟨[], by simp [queue, Label.arrives], by cases net <;> simp [hp, Point.readable]⟩
    | readsNet hp hr =>
      cases iface with
      | host => exact ⟨[], by simp [queue, Label.arrives], by simp [hp, Point.readable]⟩
      | net =>
        refine ⟨p.net.take r.packets, by simp [queue, Label.arrives], ?_⟩
        simp [hp, Point.readable]
        omega
    | turns hp hq => exact absurd hw (by simp [hq])
    | _ =>
      refine ⟨[], ?_, ?_⟩
      · cases iface <;> simp [queue, Label.arrives]
      · cases iface <;> simp_all [Point.readable]

lemma run_reads (iface : Iface) (hw : p.quit = true) (h : run cfg ls p = .ok (q, stamped)) :
    ∃ taken, p.queue iface ++ ls.flatMap (Label.arrives iface) = taken ++ q.queue iface ∧
      taken.length + q.point.readable iface ≤ p.point.readable iface := by
  induction ls generalizing p stamped with
  | nil =>
    obtain ⟨rfl, rfl⟩ := Prod.mk.inj (Except.ok.inj h)
    exact ⟨[], by simp, by simp⟩
  | cons l ls ih =>
    obtain ⟨m, out, rest, hm, hr, rfl⟩ := run_cons_elim h
    obtain ⟨first, hfirst, hle⟩ := step_reads iface hw hm
    obtain ⟨later, hlater, hrest⟩ := ih (step_quits hw hm).1 hr
    refine ⟨first ++ later, ?_, ?_⟩
    · rw [List.flatMap_cons, ← List.append_assoc, hfirst, List.append_assoc, hlater, List.append_assoc]
    · rw [List.length_append]
      omega

theorem ends_on_term {n : Signal} (hn : n = .term ∨ n = .int) (h : run cfg (.signal n :: ls) p = .ok (q, stamped)) :
    selects stamped ≤ 1 ∧ (11 ≤ goes ls → q.point = .closed) ∧
      ∀ iface, ∃ taken, p.queue iface ++ ls.flatMap (Label.arrives iface) = taken ++ q.queue iface ∧ taken.length ≤ 9 := by
  obtain ⟨m, out, rest, hm, hr, rfl⟩ := run_cons_elim h
  obtain ⟨rfl, rfl⟩ := ok_inj hm
  have hquit : (p.signalHandler n).quit = true := by rcases hn with rfl | rfl <;> rfl
  refine ⟨?_, fun hgoes => ?_, fun iface => ?_⟩
  · rcases run_waiting (W := fun p => p.quit = true) (L := fun p => p.point.pastQuit) (A := fun _ => false)
      (fun _ _ _ _ hw hs => .inr (step_quits hw hs)) hquit hr with ⟨x, -, hx⟩ | ⟨-, hle⟩
    · exact absurd hx Bool.false_ne_true
    · exact (Nat.le_of_add_right_le hle).trans (pastQuit_le _)
  · have hrank := run_rank hquit hr
    have hle := rank_le (p.signalHandler n).point
    have hzero : q.point.rank = 0 := by omega
    cases hq : q.point <;> simp [hq, Point.rank] at hzero ⊢
  · obtain ⟨taken, heq, hle⟩ := run_reads iface hquit hr
    have hqueue : (p.signalHandler n).queue iface = p.queue iface := by cases n <;> cases iface <;> rfl
    rw [hqueue] at heq
    exact ⟨taken, heq, (Nat.le_of_add_right_le hle).trans (readable_le _ _)⟩

theorem ends_on_term_idle : ∃ q stamped, run layer2 (.signal .term :: [idle, idle]) (initial 0) = .ok (q, stamped) ∧
    selects stamped ≤ 1 :=
  ⟨_, _, rfl, (ends_on_term (.inl rfl)
    (show run layer2 (.signal .term :: [idle, idle]) (initial 0) = .ok (_, _) from rfl)).1⟩

end quitting

section pacing

def Steady : ℤ → List Label → Prop
  | _, [] => True
  | t, .clock u :: ls => t ≤ u ∧ Steady u ls
  | t, _ :: ls => Steady t ls

def announcements (stamped : List (ℤ × Output)) : List ℤ := (stamped.filter fun x => announces x.2).map Prod.fst

lemma announcements_append (xs ys : List (ℤ × Output)) :
    announcements (xs ++ ys) = announcements xs ++ announcements ys := by
  rw [announcements, List.filter_append, List.map_append, ← announcements, ← announcements]

lemma announcements_none {τ : ℤ} (h : ∀ x ∈ out, announces x = false) : announcements (out.map (Prod.mk τ)) = [] := by
  rw [announcements, List.map_eq_nil_iff, List.filter_eq_nil_iff]
  intro x hx
  obtain ⟨y, hy, rfl⟩ := List.mem_map.mp hx
  simp [h y hy]

structure Paced (p : Process) (stamped : List (ℤ × Output)) : Prop where
  na : p.na = false
  past : ∀ τ ∈ announcements stamped, τ ≤ p.clock
  armed : p.point.announced = false → ∀ τ ∈ announcements stamped, τ + 600 ≤ p.naTimeout
  due : p.point = .advert → p.naTimeout < p.clock
  soon : p.naTimeout ≤ 600 + p.clock
  spaced : (announcements stamped).Pairwise fun τ υ => τ + 600 < υ
  waits : ∀ τ seconds, (τ, .select seconds) ∈ stamped → 1 ≤ seconds ∧ seconds ≤ 600

lemma Paced.goes (h : Paced p stamped) (hc : q.clock = p.clock) (hna : p.na = false → q.na = false)
    (harm : q.point.announced = false → p.point.announced = false ∧ q.naTimeout = p.naTimeout ∨ p.clock + 600 ≤ q.naTimeout)
    (hdue : q.point = .advert → q.naTimeout < q.clock) (hsoon : q.naTimeout ≤ 600 + q.clock)
    (hout : ∀ x ∈ out, announces x = false) (hwaits : ∀ n, .select n ∈ out → 1 ≤ n ∧ n ≤ 600) :
    Paced q (stamped ++ out.map (Prod.mk p.clock)) := by
  have hsame : announcements (stamped ++ out.map (Prod.mk p.clock)) = announcements stamped := by
    rw [announcements_append, announcements_none hout, List.append_nil]
  refine ⟨hna h.na, ?_, fun hq τ hτ => ?_, hdue, hsoon, ?_, fun τ n hmem => ?_⟩
  · rw [hsame, hc]
    exact h.past
  · rw [hsame] at hτ
    rcases harm hq with ⟨hp, ht⟩ | hnew
    · rw [ht]
      exact h.armed hp τ hτ
    · have hpast := h.past τ hτ
      omega
  · rw [hsame]
    exact h.spaced
  · rcases List.mem_append.mp hmem with hmem | hmem
    · exact h.waits τ n hmem
    · obtain ⟨x, hx, he⟩ := List.mem_map.mp hmem
      obtain ⟨-, rfl⟩ := Prod.mk.inj he
      exact hwaits n hx

lemma go_paced (h : Paced p stamped) (hg : go cfg r p = .ok (q, out)) : Paced q (stamped ++ out.map (Prod.mk p.clock)) := by
  have hsoon := h.soon
  cases go_cases hg with
  | announces hp hs =>
    obtain ⟨x, rfl⟩ := advertise_one hs
    have hdue := h.due hp
    have hbefore := h.armed (by rw [hp]; rfl)
    have hsame : announcements (stamped ++ ([x].map Output.announced).map (Prod.mk p.clock)) =
        announcements stamped ++ [p.clock] := by
      rw [announcements_append]
      rfl
    refine ⟨h.na, ?_, Bool.noConfusion, Point.noConfusion, hsoon, ?_, fun τ n hmem => h.waits τ n (by simpa using hmem)⟩
    · rw [hsame]
      exact List.forall_mem_append.mpr ⟨h.past, List.forall_mem_singleton.mpr le_rfl⟩
    · rw [hsame, List.pairwise_append]
      refine ⟨h.spaced, List.pairwise_singleton .., fun τ hτ υ hυ => ?_⟩
      rw [List.mem_singleton.mp hυ]
      have hτ := hbefore τ hτ
      omega
  | waits hp =>
    refine h.goes rfl id (fun _ => .inl ⟨by rw [hp]; rfl, rfl⟩) Point.noConfusion hsoon (by simp [Process.announces]) fun n hn => ?_
    obtain rfl : n = p.untilNext := by simpa using hn
    rw [untilNext]
    omega
  | due hp hd =>
    refine h.goes rfl id (fun _ => .inl ⟨by rw [hp]; rfl, rfl⟩) (fun _ => ?_) hsoon (by simp) (by simp)
    exact hd.resolve_left (by simp [h.na])
  | rearms hp =>
    refine h.goes rfl id (fun _ => .inr ?_) Point.noConfusion ?_ (by simp) (by simp)
    · change p.clock + 600 ≤ 600 + p.clock
      omega
    · change 600 + p.clock ≤ 600 + p.clock
      exact le_rfl
  | @readsHost net s sent hp hr =>
    refine h.goes rfl id (fun _ => .inl ⟨by rw [hp]; rfl, rfl⟩) ?_ hsoon (by simp [Process.announces]) (by simp)
    cases net <;> exact Point.noConfusion
  | stays hp => exact h.goes rfl id (fun hq => .inl ⟨hq, rfl⟩) h.due hsoon (by simp) (by simp)
  | clearsNa hp => exact h.goes rfl (fun _ => rfl) Bool.noConfusion Point.noConfusion hsoon (by simp) (by simp)
  | quits hp | turns hp | ready hp | readyNet hp | timesOut hp | readsNet hp | shows hp | showsNot hp | clearsStats hp
  | notDue hp =>
    exact h.goes rfl id (fun _ => .inl ⟨by rw [hp]; rfl, rfl⟩) Point.noConfusion hsoon (by simp [Process.announces]) (by simp)

lemma run_paced {before : List (ℤ × Output)} (h : Paced p before) (hs : Steady p.clock ls) (hu : .signal .usr2 ∉ ls)
    (hr : run cfg ls p = .ok (q, stamped)) : Paced q (before ++ stamped) := by
  induction ls generalizing p before stamped with
  | nil =>
    obtain ⟨rfl, rfl⟩ := Prod.mk.inj (Except.ok.inj hr)
    rwa [List.append_nil]
  | cons l ls ih =>
    obtain ⟨m, out, rest, hm, hrest, rfl⟩ := run_cons_elim hr
    have hu' : .signal .usr2 ∉ ls := fun hmem => hu (.tail l hmem)
    rw [← List.append_assoc]
    cases l with
    | go r =>
      have hclock : m.clock = p.clock := by cases go_cases hm <;> rfl
      exact ih (go_paced h hm) (hclock ▸ hs) hu' hrest
    | signal n =>
      obtain ⟨rfl, rfl⟩ := ok_inj hm
      have hn : n ≠ .usr2 := fun hn => hu (hn ▸ .head ls)
      rw [List.map_nil, List.append_nil]
      refine ih ?_ (by cases n <;> exact hs) hu' hrest
      cases n with
      | usr2 => exact absurd rfl hn
      | _ => exact ⟨h.na, h.past, h.armed, h.due, h.soon, h.spaced, h.waits⟩
    | arrive iface c =>
      obtain ⟨rfl, rfl⟩ := ok_inj hm
      rw [List.map_nil, List.append_nil]
      refine ih ?_ (by cases iface <;> exact hs) hu' hrest
      cases iface <;> exact ⟨h.na, h.past, h.armed, h.due, h.soon, h.spaced, h.waits⟩
    | clock u =>
      obtain ⟨rfl, rfl⟩ := ok_inj hm
      rw [List.map_nil, List.append_nil]
      have hlater : p.clock ≤ u := hs.1
      have hnext : Paced { p with clock := u } before := by
        refine ⟨h.na, fun τ hτ => (h.past τ hτ).trans hlater, h.armed, fun hp => (h.due hp).trans_le hlater, ?_, h.spaced, h.waits⟩
        exact h.soon.trans (Int.add_le_add_left hlater 600)
      exact ih hnext hs.2 hu' hrest

theorem advertisements_paced {t : ℤ} (ht : 0 ≤ t) (hs : Steady t ls) (hu : .signal .usr2 ∉ ls)
    (h : run cfg ls (initial t) = .ok (p, stamped)) : ((announcements stamped).Pairwise fun τ υ => τ + 600 < υ) ∧
      ∀ τ seconds, (τ, .select seconds) ∈ stamped → 1 ≤ seconds ∧ seconds ≤ 600 := by
  have hinit : Paced (initial t) [] := by
    refine ⟨rfl, by simp [announcements], by simp [announcements], Point.noConfusion, ?_, by simp [announcements], by simp⟩
    change (0 : ℤ) ≤ 600 + t
    omega
  have hp := run_paced hinit hs hu h
  rw [List.nil_append] at hp
  exact ⟨hp.spaced, hp.waits⟩

theorem advertisements_paced_idle : ∃ p stamped, run layer2 [idle, idle, .clock 5, idle] (initial 0) = .ok (p, stamped) ∧
    (0, .select 1) ∈ stamped ∧ ∀ τ seconds, (τ, .select seconds) ∈ stamped → 1 ≤ seconds ∧ seconds ≤ 600 :=
  ⟨_, _, rfl, .head _, (advertisements_paced le_rfl
    (show Steady 0 [idle, idle, .clock 5, idle] from ⟨by decide, trivial⟩) (by simp [idle])
    (show run layer2 [idle, idle, .clock 5, idle] (initial 0) = .ok (_, _) from rfl)).2⟩

end pacing

end Process

end RouterCard.Xbridge

import RouterCard.Xbridge.Handling
import RouterCard.Xbridge.Recognition
import RouterCard.Xbridge.Transparency

namespace RouterCard.Xbridge

open Text OnesComplement

variable {cfg : Settings} {es : List Event} {s s' : Bridge} {sent : List Sent}

def IsIPv6Packet (p : Bytes) : Prop := 40 ≤ p.length ∧ (octet p 0).toNat / 16 = 6

inductive HostFrame (cfg : Settings) (captured : List Bytes) : Bytes → Prop
  | copied {d : Bytes} : d ∈ captured → HostFrame cfg captured d
  | headed {p : Bytes} : IsIPv6Packet p → HostFrame cfg captured (cfg.eHeader.bytes ++ p)

lemma isIPv6Packet_advert (solicited : Bool) (dst : In6Addr) : IsIPv6Packet (advertPacket cfg solicited dst) := by
  have hfirst : octet (advertPacket cfg solicited dst) 0 = 0x60 := rfl
  rw [IsIPv6Packet, length_advertPacket, hfirst]
  decide

section steps

end steps

section runs

lemma HostFrame.elim {captured : List Bytes} {d : Bytes} (h : HostFrame cfg captured d) :
    d ∈ captured ∨ ∃ p, IsIPv6Packet p ∧ d = cfg.eHeader.bytes ++ p := by
  cases h with
  | copied hd => exact .inl hd
  | headed hp => exact .inr ⟨_, hp, rfl⟩

lemma HostFrame.mono {captured captured' : List Bytes} {d : Bytes} (h : HostFrame cfg captured d)
    (hsub : captured ⊆ captured') : HostFrame cfg captured' d := by
  cases h with
  | copied hd => exact .copied (hsub hd)
  | headed hp => exact .headed hp

end runs

section loop

lemma run_append (es fs : List Event) (s : Bridge) : run cfg (es ++ fs) s = (do
    let (s, first) ← run cfg es s
    let (s, rest) ← run cfg fs s
    return (s, first ++ rest)) := by
  induction es generalizing s with
  | nil =>
    change run cfg fs s = (run cfg fs s >>= _)
    cases run cfg fs s <;> rfl
  | cons e es ih =>
    change (step cfg e s >>= fun x => run cfg (es ++ fs) x.1 >>= _) = ((step cfg e s >>= fun x => run cfg es x.1 >>= _) >>= _)
    cases step cfg e s with
    | error f => rfl
    | ok x =>
      change (run cfg (es ++ fs) x.1 >>= _) = ((run cfg es x.1 >>= _) >>= _)
      rw [ih]
      cases run cfg es x.1 with
      | error f => rfl
      | ok y =>
        change ((run cfg fs y.1 >>= _) >>= _) = (run cfg fs y.1 >>= _)
        cases run cfg fs y.1 with
        | error f => rfl
        | ok z => exact congrArg (fun out => Except.ok (z.1, out)) (List.append_assoc ..).symm

def Turn.events (t : Turn) (l : Loop) : List Event :=
  t.host.map (.captured .host) ++ (t.net.map (.captured .net) ++ if t.advertises l then [.advertise] else [])

lemma turn_eq (t : Turn) (l : Loop) : turn cfg t l = (do
    let (s, sent) ← run cfg (t.events l) l.bridge
    return (⟨s, t.usr2Late, if t.advertises l then NEIGHBOR_ADV_PERIOD + t.later else l.naTimeout⟩, sent)) := by
  rw [turn, Turn.events, run_append]
  cases run cfg (t.host.map (.captured .host)) l.bridge with
  | error f => rfl
  | ok x =>
    obtain ⟨s, fromHost⟩ := x
    simp only [ok_bind, run_append]
    cases run cfg (t.net.map (.captured .net)) s with
    | error f => rfl
    | ok y =>
      obtain ⟨s, fromNet⟩ := y
      simp only [ok_bind]
      cases t.advertises l with
      | false => simp [run]
      | true =>
        simp only [if_true, run]
        cases step cfg .advertise s with
        | error f => rfl
        | ok z => simp

def Loop.next (l : Loop) (t : Turn) (s : Bridge) : Loop :=
  ⟨s, t.usr2Late, if t.advertises l then NEIGHBOR_ADV_PERIOD + t.later else l.naTimeout⟩

def loopEvents : List Turn → Loop → List Event
  | [], _ => []
  | t :: ts, l => t.events l ++ loopEvents ts (l.next t l.bridge)

lemma loopEvents_congr (ts : List Turn) {l l' : Loop} (hna : l.na = l'.na) (ht : l.naTimeout = l'.naTimeout) :
    loopEvents ts l = loopEvents ts l' := by
  induction ts generalizing l l' with
  | nil => rfl
  | cons t ts ih =>
    have hadv : t.advertises l = t.advertises l' := by rw [Turn.advertises, Turn.advertises, hna, ht]
    have hnext := @ih (l.next t l.bridge) (l'.next t l'.bridge) rfl (by simp only [Loop.next, hadv, ht])
    simp only [loopEvents, Turn.events, hadv, hnext]

theorem mainLoop_run {ts : List Turn} {l l' : Loop} (h : mainLoop cfg ts l = .ok (l', sent)) :
    run cfg (loopEvents ts l) l.bridge = .ok (l'.bridge, sent) := by
  induction ts generalizing l sent with
  | nil =>
    obtain ⟨rfl, rfl⟩ := Prod.mk.inj (Except.ok.inj h)
    rfl
  | cons t ts ih =>
    rw [mainLoop, turn_eq] at h
    rw [loopEvents, run_append]
    cases ht : run cfg (t.events l) l.bridge with
    | error f =>
      rw [ht] at h
      cases h
    | ok x =>
      obtain ⟨s, first⟩ := x
      rw [ht] at h
      change (mainLoop cfg ts (l.next t s) >>= _) = _ at h
      have hsame : loopEvents ts (l.next t l.bridge) = loopEvents ts (l.next t s) := loopEvents_congr ts rfl rfl
      cases hr : mainLoop cfg ts (l.next t s) with
      | error f =>
        rw [hr] at h
        cases h
      | ok y =>
        obtain ⟨u, rest⟩ := y
        rw [hr] at h
        obtain ⟨rfl, rfl⟩ := Prod.mk.inj (Except.ok.inj h)
        have hrest := ih hr
        simp only [ok_bind, hsame]
        change (run cfg (loopEvents ts (l.next t s)) s >>= _) = _
        change run cfg (loopEvents ts (l.next t s)) s = _ at hrest
        rw [hrest]
        rfl

end loop

section samples

-- The first turn of the loop ends with an advertisement, which is not a frame here.
def quiet : Turn := ⟨[], [], false, false, 1, 1, by decide, by decide⟩

end samples

end RouterCard.Xbridge

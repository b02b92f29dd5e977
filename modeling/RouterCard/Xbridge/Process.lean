import RouterCard.Xbridge.Bridge

/-! The process of `xbridge.c` point by point: packets arrive, the clock is set and signals
are caught between any two points of the loop of `main`. -/

namespace RouterCard.Xbridge

inductive Signal where
  | int
  | term
  | usr1
  | usr2
  deriving DecidableEq

inductive Point where
  | test
  | wait
  | selected
  | host (net : Bool)
  | net
  | stats
  | clearStats
  | na
  | advert
  | clearNa
  | rearm
  | closed
  deriving DecidableEq

structure Process where
  point : Point
  quit : Bool
  stats : Bool
  na : Bool
  naTimeout : ℤ
  bridge : Bridge
  -- what time(NULL) returns
  clock : ℤ
  -- captured on the two interfaces and not read yet
  host : List Capture
  net : List Capture

def Process.initial (clock : ℤ) : Process := ⟨.test, false, false, false, 0, .initial, clock, [], []⟩

inductive Output where
  | select (seconds : ℤ)
  | sent (x : Sent)
  | announced (x : Sent)
  | showStats (iface : Iface)
  -- Next unsolicited NA in so many seconds
  | next (seconds : ℤ)

/-- What the next step is answered: the interfaces that select finds ready, none also when it
is interrupted, and how many packets there are to a pcap_dispatch of 9. -/
structure Reply where
  host : Bool
  net : Bool
  packets : Fin 10

inductive Label where
  | signal (n : Signal)
  | arrive (iface : Iface) (c : Capture)
  | clock (t : ℤ)
  | go (r : Reply)

namespace Process

def signalHandler (p : Process) : Signal → Process
  | .int | .term => { p with quit := true }
  | .usr1 => { p with stats := true }
  | .usr2 => { p with na := true }

def arrive (p : Process) (c : Capture) : Iface → Process
  | .host => { p with host := p.host ++ [c] }
  | .net => { p with net := p.net ++ [c] }

-- MAX(1, na_timeout-now)
def untilNext (p : Process) : ℤ := max 1 (p.naTimeout - p.clock)

variable (cfg : Settings)

def go (r : Reply) (p : Process) : Access (Process × List Output) :=
  match p.point with
  | .test =>
    if p.quit then return ({ p with point := .closed }, [.showStats .host, .showStats .net])
    else return ({ p with point := .wait }, [])
  | .wait => return ({ p with point := .selected }, [.select p.untilNext])
  | .selected =>
    if r.host then return ({ p with point := .host r.net }, [])
    else if r.net then return ({ p with point := .net }, [])
    else return ({ p with point := .stats }, [])
  | .host net => do
    let (s, sent) ← Xbridge.run cfg ((p.host.take r.packets).map (.captured .host)) p.bridge
    return ({ p with point := if net then .net else .stats, bridge := s, host := p.host.drop r.packets }, sent.map .sent)
  | .net => do
    let (s, sent) ← Xbridge.run cfg ((p.net.take r.packets).map (.captured .net)) p.bridge
    return ({ p with point := .stats, bridge := s, net := p.net.drop r.packets }, sent.map .sent)
  | .stats =>
    if p.stats then return ({ p with point := .clearStats }, [.showStats .host, .showStats .net, .next p.untilNext])
    else return ({ p with point := .na }, [])
  | .clearStats => return ({ p with point := .na, stats := false }, [])
  | .na =>
    if p.na || p.naTimeout < p.clock then return ({ p with point := .advert }, [])
    else return ({ p with point := .test }, [])
  | .advert => do
    let (s, sent) ← Xbridge.step cfg .advertise p.bridge
    return ({ p with point := .clearNa, bridge := s }, sent.map .announced)
  | .clearNa => return ({ p with point := .rearm, na := false }, [])
  | .rearm => return ({ p with point := .test, naTimeout := NEIGHBOR_ADV_PERIOD + p.clock }, [])
  | .closed => return (p, [])

def step (p : Process) : Label → Access (Process × List Output)
  | .signal n => return (p.signalHandler n, [])
  | .arrive iface c => return (p.arrive c iface, [])
  | .clock t => return ({ p with clock := t }, [])
  | .go r => go cfg r p

def run : List Label → Process → Access (Process × List (ℤ × Output))
  | [], p => return (p, [])
  | l :: ls, p => do
    let (q, out) ← step cfg p l
    let (q, rest) ← run ls q
    return (q, out.map (Prod.mk p.clock) ++ rest)

end Process

end RouterCard.Xbridge

import RouterCard.Captived.Daemon

/-! The dispatch loop of `main` around the daemon, and the handler of SIGINT and SIGTERM,
which reaches its flag through the pointer that it is registered with. -/

namespace RouterCard.Captived.MainLoop

open Text Interaction

inductive Cell where
  | eventBase
  | continueRunning
  deriving DecidableEq

inductive Signal where
  | sigint
  | sigterm
  deriving DecidableEq

structure Event where
  signal : Signal
  callback : Cell → List (Cell × UInt8)
  arg : Cell

-- The stores of the callback: `false` into what it takes for the flag.
def op (arg : Cell) : List (Cell × UInt8) := [(arg, 0)]

def sigintEvent : Event := ⟨.sigint, op, .eventBase⟩

def sigtermEvent : Event := ⟨.sigterm, op, .eventBase⟩

def events : Signal → Event
  | .sigint => sigintEvent
  | .sigterm => sigtermEvent

def Event.stores (e : Event) : List (Cell × UInt8) := e.callback e.arg

inductive Phase where
  | condition
  | dispatching
  | left
  deriving DecidableEq

structure State (sys : System) where
  cells : Cell → UInt8
  phase : Phase
  daemon : (daemon sys).Config

inductive Label (sys : System) where
  | dispatch
  | server (l : (daemon sys).Label)
  | signal (s : Signal)
  | returned
  | leave

variable {sys : System}

def write (cells : Cell → UInt8) (stores : List (Cell × UInt8)) : Cell → UInt8 :=
  stores.foldl (fun cells x => Function.update cells x.1 x.2) cells

def isAct : (daemon sys).Label → Bool
  | .move (.act _) => true
  | _ => false

-- A signal is handled, and the dispatch returns, between two requests only.
def step (s : State sys) : Label sys → Option (State sys)
  | .dispatch =>
    if s.phase = .condition ∧ s.cells .continueRunning ≠ 0 then some { s with phase := .dispatching } else none
  | .leave => if s.phase = .condition ∧ s.cells .continueRunning = 0 then some { s with phase := .left } else none
  | .server l =>
    if s.phase = .dispatching ∨ isAct l = true then (s.daemon.step l).map fun d => { s with daemon := d } else none
  | .signal sig =>
    if s.phase = .dispatching ∧ s.daemon.thread = none then some { s with cells := write s.cells (events sig).stores }
    else none
  | .returned =>
    if s.phase = .dispatching ∧ s.daemon.thread = none then some { s with phase := .condition } else none

def run (s : State sys) (ls : List (Label sys)) : Option (State sys) := ls.foldlM step s

def start (base : UInt8) (w : World) : State sys where
  cells
    | .eventBase => base
    | .continueRunning => 1
  phase := .condition
  daemon := .idle w

def Handles (s : State sys) (ls : List (Label sys)) (sig : Signal) (u : State sys) : Prop :=
  ∃ pre post, ls = pre ++ .signal sig :: post ∧ run s (pre ++ [.signal sig]) = some u

def Stops (u : State sys) : Prop := ∀ ks v, run u ks = some v → .dispatch ∉ ks

def Confined (sig : Signal) : Prop := ∀ x ∈ (events sig).stores, x.1 = .continueRunning

def StopsOnRequest (s : State sys) (ls : List (Label sys)) : Prop :=
  ∀ sig u, Handles s ls sig u → Stops u ∧ Confined sig

variable {s t u : State sys} {l : Label sys} {ls : List (Label sys)} {sig : Signal} {base : UInt8} {w : World}

lemma stores_events (sig : Signal) : (events sig).stores = [(.eventBase, 0)] := by
  cases sig with
  | sigint => rfl
  | sigterm => rfl

lemma write_of_ne {stores : List (Cell × UInt8)} {cells : Cell → UInt8} {c : Cell} (h : ∀ x ∈ stores, x.1 ≠ c) :
    write cells stores c = cells c := by
  induction stores generalizing cells with
  | nil => rfl
  | cons x stores ih =>
    have hrest := @ih (Function.update cells x.1 x.2) fun y hy => h y (.tail x hy)
    exact hrest.trans (Function.update_of_ne (h x (.head _)).symm _ _)

def Running (s : State sys) : Prop := s.cells .continueRunning = 1 ∧ s.phase ≠ .left

lemma Running.step (hs : Running s) (h : step s l = some t) : Running t := by
  obtain ⟨hflag, hphase⟩ := hs
  cases l with
  | dispatch =>
    obtain ⟨-, h⟩ := Option.ite_none_right_eq_some.mp h
    obtain rfl := Option.some.inj h
    exact ⟨hflag, nofun⟩
  | leave =>
    obtain ⟨⟨-, hzero⟩, -⟩ := Option.ite_none_right_eq_some.mp h
    rw [hflag] at hzero
    exact absurd hzero (by decide)
  | server l =>
    obtain ⟨-, h⟩ := Option.ite_none_right_eq_some.mp h
    obtain ⟨d, -, rfl⟩ := Option.map_eq_some_iff.mp h
    exact ⟨hflag, hphase⟩
  | signal sig =>
    obtain ⟨-, h⟩ := Option.ite_none_right_eq_some.mp h
    obtain rfl := Option.some.inj h
    refine ⟨?_, hphase⟩
    change MainLoop.write s.cells (events sig).stores .continueRunning = 1
    rw [stores_events, write_of_ne (by simp)]
    exact hflag
  | returned =>
    obtain ⟨-, h⟩ := Option.ite_none_right_eq_some.mp h
    obtain rfl := Option.some.inj h
    exact ⟨hflag, nofun⟩

lemma Running.run (hs : Running s) (h : run s ls = some t) : Running t := by
  induction ls generalizing s with
  | nil => exact Option.some.inj h ▸ hs
  | cons l ls ih =>
    obtain ⟨u, hu, ht⟩ := Option.bind_eq_some_iff.mp (List.foldlM_cons.symm.trans h)
    exact ih (hs.step hu) ht

lemma redispatches (hs : Running s) (h : step s (.signal sig) = some u) :
    ∃ v, run u [.returned, .dispatch] = some v := by
  have hu := hs.step h
  obtain ⟨⟨hphase, hthread⟩, h⟩ := Option.ite_none_right_eq_some.mp h
  obtain rfl := Option.some.inj h
  refine ⟨{ s with cells := write s.cells (events sig).stores, phase := .dispatching }, ?_⟩
  have hflag : write s.cells (events sig).stores .continueRunning ≠ 0 :=
    fun hzero => absurd (hu.1.symm.trans hzero) (by decide)
  rw [run, List.foldlM_cons, step, if_pos ⟨hphase, hthread⟩]
  change (List.foldlM step _ [Label.dispatch] : Option (State sys)) = _
  rw [List.foldlM_cons, step, if_pos ⟨rfl, hflag⟩]
  rfl

lemma running_start (base : UInt8) (w : World) : Running (start base w : State sys) := ⟨rfl, nofun⟩

theorem stops_on_request_iff (h : run (start base w) ls = some t) :
    StopsOnRequest (start base w) ls ↔ ∀ sig, .signal sig ∉ ls := by
  constructor
  · intro hstops sig hmem
    obtain ⟨pre, post, rfl⟩ := List.append_of_mem hmem
    rw [run, List.foldlM_append] at h
    obtain ⟨s, hs, h⟩ := Option.bind_eq_some_iff.mp h
    rw [List.foldlM_cons] at h
    obtain ⟨u, hu, -⟩ := Option.bind_eq_some_iff.mp h
    have hhandles : Handles (start base w) (pre ++ .signal sig :: post) sig u := by
      refine ⟨pre, post, rfl, ?_⟩
      rw [run, List.foldlM_append, hs]
      change (List.foldlM step s [.signal sig] : Option (State sys)) = _
      rw [List.foldlM_cons, hu]
      rfl
    obtain ⟨v, hv⟩ := redispatches ((running_start base w).run hs) hu
    exact (hstops sig u hhandles).1 _ v hv (by simp)
  · rintro hnone sig u ⟨pre, post, rfl, -⟩
    exact absurd (List.mem_append_right _ (.head _)) (hnone sig)

section samples

def terminated : List (Label Sample.bare) := [.dispatch, .signal .sigterm, .returned, .dispatch]

theorem stops_on_request_iff_quiet :
    StopsOnRequest (start 1 Sample.first.world) ([.dispatch, .returned] : List (Label Sample.bare)) ↔
      ∀ sig, .signal sig ∉ ([.dispatch, .returned] : List (Label Sample.bare)) :=
  stops_on_request_iff rfl

theorem sigterm_ignored : (run (start 1 Sample.first.world) terminated).isSome = true ∧
    ¬ StopsOnRequest (start 1 Sample.first.world) terminated := by
  refine ⟨rfl, fun h => ?_⟩
  obtain ⟨-, hconfined⟩ := h .sigterm _ ⟨[.dispatch], [.returned, .dispatch], rfl, rfl⟩
  exact absurd (hconfined (.eventBase, 0) (.head _)) nofun

end samples

end RouterCard.Captived.MainLoop

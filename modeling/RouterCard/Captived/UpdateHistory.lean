import RouterCard.Captived.InstallRequest
import RouterCard.Interaction.Monitor

/-! The stored URI and the last installer started, watched over every run of the daemon:
while the flag is up they belong together. -/

namespace RouterCard.Captived.UpdateHistory

open Text Interaction FirmwareManager

section monitor

structure Installs where
  requested : Bytes
  started : Option Bytes

def Installs.next (g : Installs) : (c : Call) → c.Reply → Installs
  | .store .uri uri, _ => { g with requested := uri }
  | .fork command, pid => if 0 < pid then { g with started := some command } else g
  | _, _ => g

def installs : Monitor calls where
  State := Installs
  start := ⟨[], none⟩
  next := Installs.next

-- The flag is up for the installer of the URI that is shown.
structure Matching (sys : System) (w : World) (g : Installs) : Prop where
  text : IsJsonText w.memory.uri
  requested : g.requested = w.memory.uri
  started : w.memory.downloading = true → g.started = some (installCommand sys w.memory.uri)

def Steady : Call → Prop
  | .fork _ | .store .uri _ | .store .downloading true => False
  | _ => True

variable {sys : System} {w v : World} {g : Installs} {t : Trace calls}

abbrev watched (sys : System) : Rules calls (World × Installs) := installs.rules (host sys)

lemma next_steady {c : Call} (hc : Steady c) (r : c.Reply) : g.next c r = g := by
  cases c with
  | fork command => exact hc.elim
  | store f x =>
    cases f with
    | uri => exact hc.elim
    | _ => rfl
  | _ => rfl

lemma answer_steady {c : Call} {r : c.Reply} {o : Outcome} (hc : Steady c) (h : answer sys c o w = some (r, v)) :
    v.memory.uri = w.memory.uri ∧ (v.memory.downloading = true → w.memory.downloading = true) := by
  cases c with
  | store f x =>
    rw [answer_store h]
    cases f with
    | downloading =>
      cases x with
      | false => exact ⟨rfl, fun h => Bool.noConfusion h⟩
      | true => exact hc.elim
    | uri => exact hc.elim
    | _ => exact ⟨rfl, id⟩
  | _ =>
    rw [answer_memory (by simp) h]
    exact ⟨rfl, id⟩

lemma Matching.of_eq (h : Matching sys w g) (hu : v.memory.uri = w.memory.uri)
    (hd : v.memory.downloading = true → w.memory.downloading = true) : Matching sys v g :=
  ⟨hu ▸ h.text, h.requested.trans hu.symm, fun hv => hu ▸ h.started (hd hv)⟩

lemma Matching.steady {c : Call} {r : c.Reply} {o : Outcome} (hc : Steady c) (h : Matching sys w g)
    (ha : answer sys c o w = some (r, v)) : Matching sys v (g.next c r) := by
  rw [next_steady hc]
  exact h.of_eq (answer_steady hc ha).1 (answer_steady hc ha).2

lemma stable_memory {P : Memory → Installs → Prop} (t : Trace calls) :
    (watched sys).Stable t fun x => P x.1.memory x.2 := by
  rintro x y hx ⟨a, ha, hg⟩
  rw [act_memory ha, hg]
  exact hx

lemma stable_matching (t : Trace calls) : (watched sys).Stable t fun x => Matching sys x.1 x.2 := by
  rintro x y hx ⟨a, ha, hg⟩
  rw [hg]
  exact hx.of_eq (congrArg Memory.uri (act_memory ha)) fun h => (congrArg Memory.downloading (act_memory ha)) ▸ h

end monitor

section runs

variable {sys : System} {w : World} {g : Installs} {t : Trace calls} {α : Type}

lemma safe_steady {p : Prog α} (hp : p.Calls Steady) (h : Matching sys w g) :
    p.Safe (watched sys) (fun _ _ x => Matching sys x.1 x.2) t (w, g) := by
  refine .of_calls (P := fun _ (x : World × Installs) => Matching sys x.1 x.2) hp stable_matching
    (fun _ _ _ _ _ => ⟨trivial, trivial⟩) (fun _ _ _ => trivial) ?_ h
  rintro t c x r y hc hx ⟨o, ha, hg⟩
  rw [hg]
  exact hx.steady hc ha

lemma steady_of_works {c : Call} (h : c.Works sys) : Steady c := by
  unfold Call.Works at h
  split at h <;> trivial

lemma steady_of_reads {c : Call} (h : c.Reads) : Steady c := by
  unfold Call.Reads at h
  split at h <;> trivial

lemma steady_stateFrom (b u : Option Bytes) : (stateFrom b u).Calls Steady :=
  stateFrom_calls trivial trivial (fun _ => trivial) b u

lemma steady_firmwareState : (firmwareState sys).Calls Steady := by
  rw [firmwareState_eq]
  exact ⟨trivial, fun _ => ⟨trivial, fun _ => steady_stateFrom _ _⟩⟩

lemma closed_steady : Closed sys Steady fun _ p => p.Calls Steady where
  done _ := trivial
  bind := Program.Calls.bind
  ask _ hc := ⟨hc, fun _ => trivial⟩
  state := steady_firmwareState
  status b := InstallRequest.calls_of_built (built_wifiStatusGet b) (fun _ => steady_of_reads) steady_firmwareState

lemma steady_firmwareGet (b : Body) : (Firmware.get sys b).Calls Steady :=
  closed_steady.firmwareGet (fun _ h => steady_of_reads h.reads) b

lemma steady_commit (b : Body) : (FirmwareCommit.put sys b).Calls Steady := by
  refine steady_firmwareState.bind fun s => ?_
  cases s with
  | none => trivial
  | some s =>
    dsimp only
    split_ifs
    · trivial
    · refine Program.Calls.bind (p := FirmwareCommit.execute sys) ⟨trivial, fun _ => trivial⟩ fun result => ?_
      split_ifs
      · exact steady_firmwareGet none
      · trivial

lemma steady_onSigchld : onSigchld.Calls Steady := by
  rw [onSigchld_eq]
  refine ⟨trivial, fun pid => ⟨trivial, fun r => ?_⟩⟩
  cases r with
  | failed errno => exact ⟨trivial, fun _ => ⟨trivial, fun _ => trivial⟩⟩
  | unchanged => trivial
  | ended how => exact ⟨trivial, fun _ => ⟨trivial, fun _ => ⟨trivial, fun _ => trivial⟩⟩⟩

structure Down (sys : System) (w : World) (g : Installs) : Prop extends Matching sys w g where
  down : w.memory.downloading = false

lemma stable_down (t : Trace calls) : (watched sys).Stable t fun x => Down sys x.1 x.2 := by
  rintro x y hx ⟨a, ha, hg⟩
  exact ⟨stable_matching t x y hx.toMatching ⟨a, ha, hg⟩, (congrArg Memory.downloading (act_memory ha)).trans hx.down⟩

lemma answer_matching {c : Call} {x y : World × Installs} {r : c.Reply} (hx : Matching sys x.1 x.2)
    (ha : (watched sys).answers t c x r y) (hc : Steady c) : Matching sys y.1 y.2 := by
  obtain ⟨o, ha, hg⟩ := ha
  rw [hg]
  exact hx.steady hc ha

lemma stateFrom_down (b u : Option Bytes) (h : Matching sys w g) : (stateFrom b u).Safe (watched sys)
    (fun s _ x => Matching sys x.1 x.2 ∧ (s = some FIRMWARE_STATE_NORMAL → Down sys x.1 x.2)) t (w, g) := by
  have hc := stateFrom_cases b u
  generalize stateFrom b u = p at hc ⊢
  cases hc with
  | unread => exact .of_done (stable_matching t) h fun x hx => ⟨trivial, hx, nofun⟩
  | thrown => exact .of_call (stable_matching t) h (fun _ _ => ⟨trivial, trivial⟩) fun _ r => r.elim
  | @upgraded _ n =>
    refine .of_call (stable_matching t) h (fun _ _ => ⟨trivial, trivial⟩) fun x r y hx ha => ?_
    refine .of_done (stable_matching _) (answer_matching hx ha trivial) fun z hz => ⟨trivial, hz, fun hs => ?_⟩
    rw [stateText, if_pos rfl, Option.some_inj] at hs
    split_ifs at hs
    · exact absurd hs (by decide)
    · exact absurd hs (by decide)
  | @flagged _ n _ _ _ _ h1 =>
    refine .of_call (stable_matching t) h (fun _ _ => ⟨trivial, trivial⟩) fun x d y hx ha => ?_
    have hy := answer_matching hx ha trivial
    obtain ⟨o, ha, -⟩ := ha
    obtain ⟨rfl, hw⟩ := answer_load ha
    rw [stateText, if_neg h1]
    cases hd : x.1.memory.get .downloading with
    | true =>
      rw [if_pos rfl]
      exact .of_done (stable_matching _) hy fun z hz => ⟨trivial, hz, fun hs => absurd (Option.some.inj hs) (by decide)⟩
    | false =>
      rw [if_neg Bool.false_ne_true]
      have hdown : Down sys y.1 y.2 := ⟨hy, (congrArg (fun w : World => w.memory.downloading) hw).trans hd⟩
      exact .of_done (stable_down _) hdown fun z hz => ⟨trivial, hz.toMatching, fun _ => hz⟩

lemma firmwareState_down (h : Matching sys w g) : (firmwareState sys).Safe (watched sys)
    (fun s _ x => Matching sys x.1 x.2 ∧ (s = some FIRMWARE_STATE_NORMAL → Down sys x.1 x.2)) t (w, g) := by
  rw [firmwareState_eq]
  refine .of_call (stable_matching t) h (fun _ _ => ⟨trivial, trivial⟩) fun x r y hx ha => ?_
  refine .of_call (stable_matching _) (answer_matching hx ha trivial) (fun _ _ => ⟨trivial, trivial⟩) fun x r y hx ha => ?_
  exact stateFrom_down _ _ (answer_matching hx ha trivial)

lemma done_matching (a : α) (h : Matching sys w g) :
    (Program.done a : Prog α).Safe (watched sys) (fun _ _ x => Matching sys x.1 x.2) t (w, g) :=
  .of_done (stable_matching t) h fun _ hx => ⟨trivial, hx⟩

structure Begun (sys : System) (w : World) (g : Installs) : Prop where
  text : IsJsonText w.memory.uri
  requested : g.requested = w.memory.uri
  started : g.started = some (installCommand sys w.memory.uri)

lemma stable_begun (t : Trace calls) : (watched sys).Stable t fun x => Begun sys x.1 x.2 := by
  rintro x y hx ⟨a, ha, hg⟩
  have hm := act_memory ha
  rw [hg]
  exact ⟨hm ▸ hx.text, hm ▸ hx.requested, hm ▸ hx.started⟩

lemma started_matching {pid : ℤ} (h : Matching sys w g) :
    (Firmware.started sys pid).Safe (watched sys) (fun _ _ x => Matching sys x.1 x.2) t (w, g) := by
  unfold Firmware.started
  split_ifs
  · exact done_matching _ h
  · exact safe_steady (steady_firmwareGet _) h

lemma start_matching (uri : JsonText) (h : Down sys w g) :
    (Firmware.start sys uri.val).Safe (watched sys) (fun _ _ x => Matching sys x.1 x.2) t (w, g) := by
  rw [Firmware.start_eq, download_eq]
  refine .of_call (stable_down t) h (fun _ _ => ⟨trivial, trivial⟩) fun x () y hx ⟨o, ha, hg⟩ => ?_
  have hdown : Down sys y.1 y.2 ∧ y.1.memory.uri = uri.val := by
    have hm : y.1.memory = x.1.memory.set .uri uri.val := congrArg World.memory (answer_store ha)
    have hu : y.1.memory.uri = uri.val := congrArg Memory.uri hm
    have hd : y.1.memory.downloading = false := (congrArg Memory.downloading hm).trans hx.down
    refine ⟨⟨⟨hu ▸ uri.property, ?_, fun h => absurd (h.symm.trans hd) Bool.noConfusion⟩, hd⟩, hu⟩
    rw [hg, hu]
    rfl
  refine .bind (.mono ?_ fun pid t x hx => started_matching hx)
  refine .of_call ((stable_down _).and (stable_memory (P := fun m _ => m.uri = uri.val) _)) hdown
    (fun _ _ => ⟨trivial, trivial⟩) fun x id y hx ⟨o, ha, hg⟩ => ?_
  have ha : answer sys (.fork (installCommand sys uri.val)) o x.1 = some (id, y.1) := ha
  rcases answer_fork ha with ⟨hid, hy⟩ | ⟨hid, -, -⟩
  · rw [if_pos hid]
    have hnext : y.2 = x.2 := hg.trans (if_neg hid.le.not_gt)
    refine done_matching (w := y.1) (g := y.2) id ?_
    rw [hy, hnext]
    exact hx.1.toMatching
  · rw [if_neg hid.le.not_gt]
    have hnext : y.2 = { x.2 with started := some (installCommand sys uri.val) } := hg.trans (if_pos hid)
    have hm : y.1.memory = x.1.memory := answer_memory (by simp) ha
    have hbegun : Begun sys y.1 y.2 := by
      refine ⟨hm ▸ hx.1.text, ?_, ?_⟩
      · rw [hnext, hm]
        exact hx.1.requested
      · rw [hnext, hm, hx.2]
    refine .of_call (stable_begun _) hbegun (fun _ _ => ⟨trivial, trivial⟩) fun x () y hx ⟨o, ha, hg⟩ => ?_
    have hy : Matching sys y.1 y.2 := by
      rw [answer_store ha, hg]
      exact ⟨hx.text, hx.requested, fun _ => hx.started⟩
    refine .of_call (stable_matching _) hy (fun _ _ => ⟨trivial, trivial⟩) fun x r y hx ha => ?_
    refine .of_call (stable_matching _) (answer_matching hx ha trivial) (fun _ _ => ⟨trivial, trivial⟩) fun x r y hx ha => ?_
    refine .of_call (stable_matching _) (answer_matching hx ha trivial) (fun _ _ => ⟨trivial, trivial⟩) fun x r y hx ha => ?_
    exact done_matching _ (answer_matching hx ha trivial)

lemma accept_matching (body : Body) (h : Down sys w g) :
    (Firmware.accept sys body).Safe (watched sys) (fun _ _ x => Matching sys x.1 x.2) t (w, g) := by
  unfold Firmware.accept
  split
  · split
    · exact done_matching _ h.toMatching
    · exact start_matching _ h
    · exact done_matching _ h.toMatching
  · exact done_matching _ h.toMatching

lemma put_matching (body : Body) (h : Matching sys w g) :
    (Firmware.put sys body).Safe (watched sys) (fun _ _ x => Matching sys x.1 x.2) t (w, g) := by
  refine .bind ((firmwareState_down h).mono fun s t x hx => ?_)
  cases s with
  | none => exact done_matching _ hx.1
  | some s =>
    dsimp only
    split_ifs with hs
    · exact done_matching _ hx.1
    · exact accept_matching body (hx.2 (congrArg some (not_not.mp hs)))

lemma watch_matching (sys : System) : Server.Watch (daemon sys) installs (Matching sys) where
  act a w v g hw ha := hw.of_eq (congrArg Memory.uri (act_memory ha)) fun h => (congrArg Memory.downloading (act_memory ha)) ▸ h
  serve r w v g hw ha := by
    have hv : Matching sys v g := by
      cases r with
      | http m path body =>
        obtain rfl : w = v := Option.some.inj ha
        exact hw
      | sigchld =>
        simp only [acceptRequest] at ha
        split_ifs at ha
        exact Option.some.inj ha ▸ hw.of_eq rfl id
    rcases closed_steady.handler_cases (fun _ => steady_of_works) r with hq | ⟨body, -, hp⟩ | ⟨body, -, hp⟩ | rfl
    · exact safe_steady hq hv
    · simp only [hp]
      exact (put_matching body hv).map
    · simp only [hp]
      exact (safe_steady (steady_commit body) hv).map
    · exact (safe_steady steady_onSigchld hv).map

lemma matching_of_watched {c : (daemon sys).Config} (hc : Server.Watched installs (IsInitial sys) c g)
    (hn : c.thread = none) : Matching sys c.world g := by
  refine (watch_matching sys).between (fun c h => ?_) hc hn
  obtain ⟨env, files, rfl⟩ := h
  have htext : IsJsonText [] := by decide
  exact ⟨rfl, htext, rfl, Bool.noConfusion⟩

end runs

end RouterCard.Captived.UpdateHistory

import RouterCard.Captived.Installers

/-! When the event loop is idle and the flag is up, the installer still runs and its end
will be noticed, as long as registering the event does not fail and a child of the daemon
reports after the registration. -/

namespace RouterCard.Captived.Reaping

open Text Interaction FirmwareManager

variable {sys : System} {w v : World} {o : Outcome} {pid : ℤ}

def Tracked (w : World) : Prop :=
  w.memory.downloading = true → w.registered = true ∧ ∃ p, w.find w.memory.childPid = some p

def Watched (w : World) : Prop :=
  w.memory.downloading = true → w.registered = true ∧
    ∃ p, w.find w.memory.childPid = some p ∧ (p.alive = true ∨ w.caught = true)

lemma Watched.tracked (h : Watched w) : Tracked w := fun hd =>
  have ⟨hr, p, hp, _⟩ := h hd
  ⟨hr, p, hp⟩

lemma act_caught {a : Act} (h : act a w = some v) (hr : w.registered = true) (hc : w.caught = true) :
    v.caught = true := by
  cases act_cases h with
  | write _ hv | setBootcount hv | setEnv hv => exact hv ▸ hc
  | exit _ hv | sigchld hv =>
    subst hv
    simp [World.raise, hc]
  | dropSigchld hn hv => simp [hn] at hr

lemma Tracked.act {a : Act} (hw : Tracked w) (h : act a w = some v) : Tracked v := by
  rw [Tracked, act_memory h, act_registered h]
  intro hd
  obtain ⟨hr, p, hp⟩ := hw hd
  obtain ⟨q, hq, -⟩ := act_find h hp
  exact ⟨hr, q, hq⟩

lemma Watched.act {a : Act} (hw : Watched w) (h : act a w = some v) : Watched v := by
  rw [Watched, act_memory h, act_registered h]
  intro hd
  obtain ⟨hr, p, hp, ha⟩ := hw hd
  obtain ⟨q, hq, hqa⟩ := act_find h hp
  refine ⟨hr, q, hq, ?_⟩
  rcases ha with ha | hc
  · exact (hqa ha).imp_right fun he => by rw [he, hr, Bool.or_true]
  · exact .inr (act_caught h hr hc)

lemma Tracked.of_eq (hw : Tracked w) (hd : v.memory.downloading = w.memory.downloading)
    (hp : v.memory.childPid = w.memory.childPid) (hr : v.registered = w.registered)
    (hi : v.installers = w.installers) : Tracked v := by
  rw [Tracked, hd, hp, hr, World.find, hi]
  exact hw

lemma Watched.of_eq (hw : Watched w) (hd : v.memory.downloading = w.memory.downloading)
    (hp : v.memory.childPid = w.memory.childPid) (hr : v.registered = w.registered)
    (hi : v.installers = w.installers) (hc : w.caught = true → v.caught = true) : Watched v := by
  rw [Watched, hd, hp, hr, World.find, hi]
  intro hd
  obtain ⟨hr, p, hp, ha⟩ := hw hd
  exact ⟨hr, p, hp, ha.imp_right hc⟩

lemma Tracked.kept (hw : Tracked w) (hk : Kept w v) : Tracked v :=
  hw.of_eq hk.downloading hk.childPid hk.registered hk.installers

lemma Watched.kept (hw : Watched w) (hk : Kept w v) : Watched v :=
  hw.of_eq hk.downloading hk.childPid hk.registered hk.installers hk.caught

lemma watched_of_clear (h : w.memory.downloading = false) : Watched w := fun hd => by simp [h] at hd

/-- The installer ended before its event was registered, and no signal has come since. -/
def Missed (w : World) : Prop :=
  w.memory.downloading = true ∧ w.registered = true ∧ w.caught = false ∧
    ∃ how, w.find w.memory.childPid = some ⟨w.memory.childPid, .zombie how⟩

def limits (sys : System) : (daemon sys).Limits where
  act _ _ _ := True
  answer _ _ c o w := ∀ errno, o = .failed errno →
    c ≠ .addSignalEvent ∧ (c = .popen (sys.chroot ++ printenvCommand FIRMWARE_ENV_UPGRADE_AVAIL) → ¬ Missed w)

abbrev rules (sys : System) (r : Request) : Rules calls World :=
  (limits sys).rules (fun _ => True) (fun _ _ _ _ => True) r

lemma stable {P : World → Prop} (h : ∀ a w v, Captived.act a w = some v → P w → P v) (r : Request) (t : Trace calls) :
    (rules sys r).Stable t P := by
  rintro w v hw ⟨a, -, hv⟩
  exact h a w v hv hw

lemma stable_tracked (r : Request) (t : Trace calls) : (rules sys r).Stable t Tracked :=
  stable (fun _ _ _ h hw => hw.act h) r t

lemma stable_watched (r : Request) (t : Trace calls) : (rules sys r).Stable t Watched :=
  stable (fun _ _ _ h hw => hw.act h) r t

lemma stable_memory (P : Memory → Prop) (r : Request) (t : Trace calls) :
    (rules sys r).Stable t fun w => P w.memory :=
  stable (fun _ _ _ h hw => (act_memory h).symm ▸ hw) r t

lemma Tracked.raise (hw : Tracked w) : Watched w.raise := by
  intro hd
  obtain ⟨hr, p, hp⟩ := hw hd
  have hr : w.registered = true := hr
  exact ⟨hr, p, hp, .inr (by simp [World.raise, hr])⟩

lemma Tracked.watched (hw : Tracked w) (hm : ¬ Missed w) : Watched w := by
  intro hd
  obtain ⟨hr, ⟨q, s⟩, hp⟩ := hw hd
  refine ⟨hr, _, hp, ?_⟩
  obtain rfl : q = w.memory.childPid := by simpa using List.find?_some hp
  cases s with
  | running b => exact .inl rfl
  | zombie how =>
    by_contra hc
    exact hm ⟨hd, hr, by simpa [Installer.alive] using hc, how, hp⟩

structure Reported (s : Option Bytes) (w : World) : Prop where
  watched : Watched w
  normal : s = some FIRMWARE_STATE_NORMAL → w.memory.downloading = false

lemma done_watched {α : Type} (r : Request) (a : α) {t : Trace calls} (hw : Watched w) :
    (Program.done a : Prog α).Safe (rules sys r) (fun _ _ v => Watched v) t w :=
  .of_done (stable_watched r t) hw fun _ hv => ⟨trivial, hv⟩

lemma stateFrom_safe (r : Request) (b u : Option Bytes) {t : Trace calls} (hw : Watched w) :
    (stateFrom b u).Safe (rules sys r) (fun s _ v => Reported s v) t w := by
  have hc := stateFrom_cases b u
  generalize stateFrom b u = p at hc ⊢
  cases hc with
  | unread => exact .of_done (stable_watched r t) hw fun v hv => ⟨trivial, hv, by simp⟩
  | thrown => exact .of_call (stable_watched r t) hw (fun v _ => ⟨trivial, trivial⟩) fun _ x => x.elim
  | upgraded =>
    refine .of_call (stable_watched r t) hw (fun v _ => ⟨trivial, trivial⟩) fun v x y _ ha => ?_
    obtain ⟨o, -, ha⟩ := answers_elim ha
    obtain rfl : y = v.store .downloading false := answer_store ha
    refine .of_done (stable_memory (fun m => m.downloading = false) r _) rfl fun y hy => ⟨trivial, ?_⟩
    exact ⟨watched_of_clear hy, fun _ => hy⟩
  | flagged _ _ _ h1 =>
    refine .of_call (stable_watched r t) hw (fun v _ => ⟨trivial, trivial⟩) fun v x y hv ha => ?_
    obtain ⟨o, -, ha⟩ := answers_elim ha
    obtain ⟨rfl, rfl⟩ := answer_load ha
    rw [stateText, if_neg h1]
    cases hd : y.memory.get .downloading with
    | true =>
      rw [if_pos rfl]
      refine .of_done (stable_watched r _) hv fun y hy => ⟨trivial, hy, fun hx => ?_⟩
      exact absurd (Option.some.inj hx) (by decide)
    | false =>
      refine .of_done ((stable_watched r _).and (stable_memory (fun m => m.downloading = false) r _)) ⟨hv, hd⟩
        fun y hy => ⟨trivial, hy.1, fun _ => hy.2⟩

lemma firmwareState_safe (r : Request) {t : Trace calls} (hw : Tracked w) :
    (firmwareState sys).Safe (rules sys r) (fun s _ v => Reported s v) t w := by
  rw [firmwareState_eq]
  refine .of_call (stable_tracked r t) hw (fun v _ => ⟨trivial, trivial⟩) fun v r₁ u hv ha => ?_
  obtain ⟨o, -, ha⟩ := answers_elim ha
  refine .of_call (stable_tracked r _) (hv.kept (answer_popen_kept ha)) (fun v _ => ⟨trivial, trivial⟩)
    fun v r₂ u hv ha => ?_
  obtain ⟨o, hl, ha⟩ := answers_elim ha
  refine stateFrom_safe r _ _ ?_
  rcases answer_popen ha with ⟨⟨errno, rfl⟩, rfl⟩ | ⟨-, rfl⟩
  · exact hv.watched ((hl errno rfl).2 rfl)
  · exact hv.raise

lemma quiet_watched {α : Type} (r : Request) {p : Prog α} (hp : Built sys (Call.Quiet sys) p) {t : Trace calls}
    (hw : Watched w) : p.Safe (rules sys r) (fun _ _ v => Watched v) t w := by
  refine hp.safe (stable_watched r) (fun _ _ => trivial) (fun t c w hc hw => ⟨trivial, fun x u ha => ?_⟩)
    (fun t w hw => ?_) hw
  · obtain ⟨o, -, ha⟩ := answers_elim ha
    exact hw.kept (answer_quiet hc ha)
  · exact (firmwareState_safe r hw.tracked).mono fun _ _ _ h => h.watched

lemma quiet_tracked {α : Type} (r : Request) {p : Prog α} (hp : Built sys (Call.Quiet sys) p) {t : Trace calls}
    (hw : Tracked w) : p.Safe (rules sys r) (fun _ _ v => Tracked v) t w := by
  refine hp.safe (stable_tracked r) (fun _ _ => trivial) (fun t c w hc hw => ⟨trivial, fun x u ha => ?_⟩)
    (fun t w hw => ?_) hw
  · obtain ⟨o, -, ha⟩ := answers_elim ha
    exact hw.kept (answer_quiet hc ha)
  · exact (firmwareState_safe r hw).mono fun _ _ _ h => h.watched.tracked

lemma updateState_safe (r : Request) (obj : Json) {t : Trace calls} (hw : Tracked w) :
    (AggregateResource.addResource obj ⟨bytes "update_state",
      FirmwareUpdateState.resource sys URI_FIRMWARE_UPDATE_STATE, false⟩).Safe (rules sys r)
      (fun _ _ v => Watched v) t w := by
  refine .bind (.bind ((firmwareState_safe r hw).mono fun s t w hw => ?_))
  cases s <;>
  · refine .of_done (stable_watched r t) hw.watched fun v hv => ⟨trivial, ?_⟩
    dsimp only
    split_ifs <;> exact done_watched r _ hv

lemma firmwareGet_safe (r : Request) (b : Body) {t : Trace calls} (hw : Tracked w) :
    (Firmware.get sys b).Safe (rules sys r) (fun _ _ v => Watched v) t w := by
  have hchild : ∀ {obj : Json} {c : Child} {t w}, (∀ b, Built sys Call.Reads (c.res.get b)) → Tracked w →
      (AggregateResource.addResource obj c).Safe (rules sys r) (fun _ _ v => Tracked v) t w := fun hc hw =>
    quiet_tracked r ((built_reads.addResource hc _).mono fun _ h => h.quiet) hw
  rw [Firmware.get_eq]
  refine .bind ((hchild (built_reads.firmwareUriGet fun _ h => h.reads) hw).mono fun obj t w hw => ?_)
  refine .bind ((hchild (built_reads.artifactGet (fun _ h => h.reads) _ _) hw).mono fun obj t w hw => ?_)
  refine .bind ((hchild (built_reads.artifactGet (fun _ h => h.reads) _ _) hw).mono fun obj t w hw => ?_)
  exact .bind ((updateState_safe r obj hw).mono fun obj t w hw => done_watched r _ hw)

def Clear (w : World) : Prop := w.memory.downloading = false

lemma stable_clear (r : Request) (t : Trace calls) : (rules sys r).Stable t Clear :=
  stable_memory (fun m => m.downloading = false) r t

def Unreaped (pid : ℤ) (w : World) : Prop := ∃ p, w.find pid = some p

lemma stable_unreaped (pid : ℤ) (r : Request) (t : Trace calls) : (rules sys r).Stable t (Unreaped pid) :=
  stable (fun _ _ _ h ⟨_, hp⟩ => have ⟨q, hq, _⟩ := act_find h hp; ⟨q, hq⟩) r t

lemma unreaped_forked : Unreaped pid { w with installers := w.installers ++ [⟨pid, .running false⟩] } := by
  refine Option.isSome_iff_exists.mp ?_
  simp [World.find]

lemma download_safe (r : Request) (uri : Bytes) {t : Trace calls} (hw : Clear w) :
    (download sys uri).Safe (rules sys r) (fun id _ v => Tracked v ∧ (id ≤ 0 → Watched v)) t w := by
  rw [download_eq]
  refine .of_call (stable_clear r t) hw (fun v _ => ⟨trivial, trivial⟩) fun v id u hv ha => ?_
  obtain ⟨o, -, ha⟩ := answers_elim ha
  rcases answer_fork ha with ⟨hid, rfl⟩ | ⟨hid, -, rfl⟩
  · rw [if_pos hid]
    refine .of_done (stable_clear r _) hv fun v hv => ⟨trivial, ?_⟩
    exact ⟨(watched_of_clear hv).tracked, fun _ => watched_of_clear hv⟩
  · rw [if_neg (not_lt.mpr hid.le)]
    refine .of_call (stable_unreaped id r _) unreaped_forked (fun v _ => ⟨trivial, trivial⟩) fun v x u hv ha => ?_
    obtain ⟨o, -, ha⟩ := answers_elim ha
    obtain rfl : u = v.store .downloading true := answer_store ha
    refine .of_call (stable_unreaped id r _) hv (fun v _ => ⟨trivial, trivial⟩) fun v x u hv ha => ?_
    obtain ⟨o, -, ha⟩ := answers_elim ha
    obtain rfl : u = v.store .childPid id := answer_store ha
    refine .of_call ((stable_unreaped id r _).and (stable_memory (fun m => m.childPid = id) r _)) ⟨hv, rfl⟩
      (fun v _ => ⟨trivial, trivial⟩) fun v x u hv ha => ?_
    obtain ⟨o, -, ha⟩ := answers_elim ha
    obtain rfl : u = { v with registered := false } := answer_replaceSignalEvent ha
    refine .of_call ((stable_unreaped id r _).and (stable_memory (fun m => m.childPid = id) r _)) hv
      (fun v _ => ⟨trivial, trivial⟩) fun v added u hv ha => ?_
    obtain ⟨o, hl, ha⟩ := answers_elim ha
    rcases answer_addSignalEvent ha with ⟨-, rfl, rfl⟩ | ⟨e, rfl, -, -⟩
    · have ht : Tracked { v with registered := true } := fun _ => ⟨rfl, hv.2 ▸ hv.1⟩
      refine .of_done (stable_tracked r _) ht fun v hv => ⟨trivial, hv, fun h => ?_⟩
      exact absurd hid (not_lt.mpr h)
    · exact absurd rfl (hl e rfl).1

lemma start_safe (r : Request) (uri : Bytes) {t : Trace calls} (hw : Clear w) :
    (Firmware.start sys uri).Safe (rules sys r) (fun _ _ v => Watched v) t w := by
  rw [Firmware.start_eq]
  refine .of_call (stable_clear r t) hw (fun v _ => ⟨trivial, trivial⟩) fun v x u hv ha => ?_
  obtain ⟨o, -, ha⟩ := answers_elim ha
  obtain rfl : u = v.store .uri uri := answer_store ha
  have hc : Clear (v.store .uri uri) := hv
  refine .bind ((download_safe r uri hc).mono fun pid t v hv => ?_)
  unfold Firmware.started
  split_ifs with hp
  · exact done_watched r _ (hv.2 hp)
  · exact firmwareGet_safe r _ hv.1

lemma put_safe (r : Request) (body : Body) {t : Trace calls} (hw : Watched w) :
    (Firmware.put sys body).Safe (rules sys r) (fun _ _ v => Watched v) t w := by
  refine .bind ((firmwareState_safe r hw.tracked).mono fun s t v hv => ?_)
  cases s with
  | none => exact done_watched r _ hv.watched
  | some s =>
    dsimp only
    split_ifs with hs
    · exact done_watched r _ hv.watched
    · unfold Firmware.accept
      split
      · split
        · exact done_watched r _ hv.watched
        · exact start_safe r _ (hv.normal (congrArg some (not_not.mp hs)))
        · exact done_watched r _ hv.watched
      · exact done_watched r _ hv.watched

lemma commit_safe (r : Request) {t : Trace calls} (hw : Watched w) :
    (FirmwareCommit.commit sys).Safe (rules sys r) (fun _ _ v => Watched v) t w := by
  refine .of_call (stable_watched r t) hw (fun v _ => ⟨trivial, trivial⟩) fun v result u hv ha => ?_
  obtain ⟨o, -, ha⟩ := answers_elim ha
  have hu : Watched u := by
    have hr := hv.kept (.raise v)
    rcases answer_shell ha with rfl | rfl | ⟨-, rfl⟩ | ⟨-, rfl⟩
    · exact hv
    · exact hr
    · exact hr.of_eq rfl rfl rfl rfl id
    · exact hr.of_eq rfl rfl rfl rfl id
  change Program.Safe _ _ (if result = 0 then _ else _) _ _
  split_ifs
  · exact firmwareGet_safe r _ hu.tracked
  · exact done_watched r _ hu

lemma commitPut_safe (r : Request) (body : Body) {t : Trace calls} (hw : Watched w) :
    (FirmwareCommit.put sys body).Safe (rules sys r) (fun _ _ v => Watched v) t w := by
  refine .bind ((firmwareState_safe r hw.tracked).mono fun s t v hv => ?_)
  cases s with
  | none => exact done_watched r _ hv.watched
  | some s =>
    dsimp only
    split_ifs
    · exact done_watched r _ hv.watched
    · exact commit_safe r hv.watched

lemma message_safe (s : Bytes) {t : Trace calls} (hw : Watched w) :
    (Program.call (S := calls) (.store .debugMessage s) .done).Safe (rules sys .sigchld) (fun _ _ v => Watched v) t w := by
  refine .of_call (stable_watched _ _) hw (fun v _ => ⟨trivial, trivial⟩) fun v x y hv ha => ?_
  obtain ⟨o, -, ha⟩ := answers_elim ha
  exact done_watched _ _ (hv.kept (answer_quiet (c := .store .debugMessage _) trivial ha))

lemma onSigchld_safe (hw : Tracked w) : onSigchld.Safe (rules sys .sigchld) (fun _ _ v => Watched v) [] w := by
  rw [onSigchld_eq]
  refine .of_call (stable_tracked _ _) hw (fun v _ => ⟨trivial, trivial⟩) fun v pid u hv ha => ?_
  obtain ⟨o, -, ha⟩ := answers_elim ha
  obtain ⟨rfl, rfl⟩ := answer_load ha
  refine .of_call ((stable_tracked _ _).and (stable_memory (fun m => m.childPid = u.memory.childPid) _ _)) ⟨hv, rfl⟩
    (fun v _ => ⟨trivial, trivial⟩) fun v x y hv ha => ?_
  obtain ⟨o, -, ha⟩ := answers_elim ha
  rcases answer_waitid_cases ha with ⟨rfl, hn, rfl⟩ | ⟨rfl, ⟨b, hf⟩, rfl⟩ | ⟨how, rfl, -, rfl⟩
  · have hc : Watched y := by
      intro hd
      obtain ⟨-, p, hp⟩ := hv.1 hd
      rw [hv.2] at hp
      exact absurd (hp.symm.trans hn) (by simp)
    refine .of_call (stable_watched _ _) hc (fun v _ => ⟨trivial, trivial⟩) fun v shown y hv ha => ?_
    obtain ⟨o, -, ha⟩ := answers_elim ha
    obtain ⟨-, rfl⟩ := answer_load ha
    exact message_safe _ hv
  · refine done_watched _ _ fun hd => ⟨(hv.1 hd).1, ⟨u.memory.childPid, .running b⟩, ?_, .inl rfl⟩
    rw [hv.2]
    exact hf
  · refine .of_call (P := fun _ => True) (stable (fun _ _ _ _ _ => trivial) _ _) trivial (fun v _ => ⟨trivial, trivial⟩)
      fun v x y _ ha => ?_
    obtain ⟨o, -, ha⟩ := answers_elim ha
    obtain rfl : y = v.store .downloading false := answer_store ha
    have hc : Clear (v.store .downloading false) := rfl
    refine .of_call (stable_clear _ _) hc (fun v _ => ⟨trivial, trivial⟩) fun v x y hv ha => ?_
    obtain ⟨o, -, ha⟩ := answers_elim ha
    obtain rfl : y = { v with registered := false } := answer_deleteSignalEvent ha
    exact message_safe _ (watched_of_clear hv)

theorem contract (sys : System) : Server.Contract (limits sys) Watched (fun _ => True) (fun _ _ _ _ => True) where
  always_of_idle _ _ := trivial
  act a w v hw _ hv := hw.act hv
  serve r w v hw ha := by
    cases r with
    | sigchld =>
      simp only [acceptRequest] at ha
      split_ifs at ha
      obtain rfl : { w with caught := false } = v := Option.some.inj ha
      have ht : Tracked { w with caught := false } := hw.tracked.of_eq rfl rfl rfl rfl
      exact (onSigchld_safe ht).map
    | http m path body =>
      obtain rfl : w = v := Option.some.inj ha
      cases (handler_cases (.http m path body) : HandlerCases sys _) with
      | quiet hq => exact quiet_watched _ hq hw
      | install hh =>
        simp only [hh]
        exact (put_safe _ body hw).map
      | commit hh =>
        simp only [hh]
        exact (commitPut_safe _ body hw).map

lemma idle_of_initial {c : (daemon sys).Config} (h : IsInitial sys c) : c.thread = none ∧ Watched c.world := by
  obtain ⟨env, files, rfl⟩ := h
  exact ⟨rfl, watched_of_clear rfl⟩

lemma idle_watched {c : (daemon sys).Config} (hc : Server.Reachable (IsInitial sys) (limits sys).ok c)
    (ht : c.thread = none) : Watched c.world := by
  have h := (contract sys).holds (fun _ => idle_of_initial) hc
  simpa only [Server.Holds, ht] using h

theorem updater_never_stuck {c : (daemon sys).Config} (hc : Server.Reachable (IsInitial sys) (limits sys).ok c)
    (ht : c.thread = none) (hs : c.world.caught = false) (hd : c.world.memory.downloading = true) :
    (∃ b, c.world.find c.world.memory.childPid = some ⟨c.world.memory.childPid, .running b⟩) ∧
    c.world.registered = true ∧
    ∀ how v, act (.exit c.world.memory.childPid how) c.world = some v →
      v.caught = true ∧ (acceptRequest .sigchld v).isSome = true := by
  obtain ⟨hr, ⟨q, s⟩, hf, ha⟩ := idle_watched hc ht hd
  have hs' : c.world.caught ≠ true := by simp [hs]
  have halive := ha.resolve_right hs'
  obtain rfl : q = c.world.memory.childPid := by simpa using List.find?_some hf
  refine ⟨?_, hr, fun how v hv => ?_⟩
  · cases s with
    | running b => exact ⟨b, hf⟩
    | zombie how => simp [Installer.alive] at halive
  · have hc : ActCases c.world v (.exit c.world.memory.childPid how) := act_cases hv
    cases hc with
    | exit _ hv =>
      subst hv
      simp [World.raise, hr, acceptRequest]

namespace Sample

open Captived.Sample

def handled : List (daemon bare).Label := updating ++ (.start .sigchld :: done 2 ++ [.finish])

lemma plain_handled : ∀ l ∈ handled, Plain l := by
  intro l hl
  simp only [handled, List.cons_append, List.mem_append, List.mem_cons, List.not_mem_nil, or_false] at hl
  rcases hl with hl | rfl | hl | rfl
  · exact plain_updating l hl
  · trivial
  · exact plain_done 2 l hl
  · trivial

def unregistered : List (daemon bare).Label :=
  .start (.http .put URI_FIRMWARE install) :: done 4 ++ [answered (.forked 7)] ++ done 3 ++
    [answered (.failed 12), .finish, acted (.exit 7 (.exited 1))]

end Sample

set_option maxRecDepth 100000 in
theorem updater_never_stuck_handled : ∃ c, Captived.Sample.first.run Sample.handled = some c ∧
    (∃ b, c.world.find c.world.memory.childPid = some ⟨c.world.memory.childPid, .running b⟩) ∧
    c.world.registered = true := by
  have h : (Captived.Sample.first.run Sample.handled).map (fun c => (c.thread.isNone, c.world.caught,
      c.world.memory.downloading)) = some (true, false, true) := by decide
  obtain ⟨c, hc, he⟩ := Option.map_eq_some_iff.mp h
  simp only [Prod.mk.injEq] at he
  have hr : Server.Reachable (IsInitial _) (limits Captived.Sample.bare).ok c :=
    (Server.Reachable.init ⟨_, _, rfl⟩).run (Captived.Sample.ok_of_plain Sample.plain_handled
      fun _ _ _ _ _ ho errno he => absurd he (ho errno)) hc
  have hw := updater_never_stuck hr (Option.isNone_iff_eq_none.mp he.1) he.2.1 he.2.2
  exact ⟨c, hc, hw.1, hw.2.1⟩

set_option maxRecDepth 100000 in
theorem updater_stuck : ∃ c, Captived.Sample.first.run Sample.unregistered = some c ∧ c.thread = none ∧
    c.world.caught = false ∧ c.world.memory.downloading = true ∧ c.world.registered = false ∧
    ∀ pid, ¬ c.world.Alive pid := by
  have h : (Captived.Sample.first.run Sample.unregistered).map (fun c => (c.thread.isNone, c.world.caught,
      c.world.memory.downloading, c.world.registered, c.world.installers)) =
      some (true, false, true, false, [⟨7, .zombie (.exited 1)⟩]) := by decide
  obtain ⟨c, hc, he⟩ := Option.map_eq_some_iff.mp h
  simp only [Prod.mk.injEq] at he
  obtain ⟨ht, hcaught, hd, hr, hi⟩ := he
  refine ⟨c, hc, Option.isNone_iff_eq_none.mp ht, hcaught, hd, hr, fun pid hp => ?_⟩
  rw [World.Alive, World.Unwritten, World.Written, hi] at hp
  simp at hp

end RouterCard.Captived.Reaping

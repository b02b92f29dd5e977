import RouterCard.Captived.Installers

/-! The lock on firmware operations that `downloading_`, the two variables and the checks
of the update state make up together. `excl` stands for the assumption that no process but
the installer and the commit changes the environment, and that the installer's write never
falls between the two reads of a commit. -/

namespace RouterCard.Captived.UpdateLock

open Text Interaction FirmwareManager

variable {sys : System} {excl : Prop} {w v : World} {o : Outcome} {pid : ℤ}

def NoneUnwritten (w : World) : Prop := ∀ pid, ¬ w.Unwritten pid

structure Idle (excl : Prop) (w : World) : Prop where
  unwritten : NoneUnwritten w
  written : excl → ∀ pid, ¬ w.Written pid

structure Sole (excl : Prop) (pid : ℤ) (w : World) : Prop where
  unwritten : ∀ p, w.Unwritten p → p = pid ∧ w.env.upgradeText ≠ some (bytes "1")
  written : excl → ∀ p, w.Written p → p = pid ∧ w.env = .installed

/-- The only installer that may still write is the one the manager waits for, and its
flag is up. -/
structure Locked (excl : Prop) (w : World) : Prop where
  sole : Sole excl w.memory.childPid w
  flagged : ∀ p, w.Unwritten p → w.memory.downloading = true

def OneAlive (excl : Prop) (w : World) : Prop := excl → ∀ p q, w.Alive p → w.Alive q → p = q

lemma Sole.one (h : Sole excl pid w) : OneAlive excl w := by
  intro he p q hp hq
  have hpid : ∀ p, w.Alive p → p = pid := fun p hp =>
    hp.elim (fun hu => (h.unwritten p hu).1) fun hw => (h.written he p hw).1
  rw [hpid p hp, hpid q hq]

lemma Idle.sole (h : Idle excl w) (pid : ℤ) : Sole excl pid w :=
  ⟨fun p hp => absurd hp (h.unwritten p), fun he p hp => absurd hp (h.written he p)⟩

lemma Idle.locked (h : Idle excl w) : Locked excl w := ⟨h.sole _, fun p hp => absurd hp (h.unwritten p)⟩

lemma Idle.of_eq (h : Idle excl w) (hi : v.installers = w.installers) : Idle excl v := by
  refine ⟨fun p hp => h.unwritten p ?_, fun he p hp => h.written he p ?_⟩
  · rwa [World.Unwritten, hi] at hp
  · rwa [World.Written, hi] at hp

lemma Sole.of_eq (h : Sole excl pid w) (he : v.env = w.env) (hi : v.installers = w.installers) : Sole excl pid v := by
  refine ⟨fun p hp => ?_, fun hx p hp => ?_⟩
  · rw [he]
    rw [World.Unwritten, hi] at hp
    exact h.unwritten p hp
  · rw [he]
    rw [World.Written, hi] at hp
    exact h.written hx p hp

lemma Locked.of_eq (h : Locked excl w) (hc : v.memory.childPid = w.memory.childPid)
    (hd : v.memory.downloading = w.memory.downloading) (he : v.env = w.env) (hi : v.installers = w.installers) :
    Locked excl v := by
  refine ⟨?_, fun p hp => ?_⟩
  · rw [hc]
    exact h.sole.of_eq he hi
  · rw [hd]
    rw [World.Unwritten, hi] at hp
    exact h.flagged p hp

lemma Locked.kept (h : Locked excl w) (hk : Kept w v) : Locked excl v :=
  h.of_eq hk.childPid hk.downloading hk.env hk.installers

def KeepsUpgrade (a : Act) : Prop := ∀ e, a ≠ .setEnv e

def Lawful (excl : Prop) (a : Act) : Prop := KeepsUpgrade a ∧ (excl → a.setsEnv = false)

lemma act_upgrade {a : Act} (ha : KeepsUpgrade a) (h : act a w = some v) :
    (∃ pid, a = .write pid) ∨ v.env.upgradeText = w.env.upgradeText := by
  cases act_cases h with
  | write hf hv => exact .inl ⟨_, rfl⟩
  | exit hf hv => exact .inr (hv ▸ rfl)
  | sigchld hv | dropSigchld _ hv | setBootcount hv => exact .inr (hv ▸ rfl)
  | setEnv hv => exact absurd rfl (ha _)

lemma NoneUnwritten.act {a : Act} (hw : NoneUnwritten w) (h : act a w = some v) : NoneUnwritten v :=
  fun p hp => hw p ((act_fades h).unwritten p hp)

lemma Idle.act {a : Act} (hw : Idle excl w) (h : act a w = some v) : Idle excl v := by
  refine ⟨hw.unwritten.act h, fun he p hp => ?_⟩
  rcases (act_fades h).written p hp with hu | hu
  · exact hw.unwritten p hu
  · exact hw.written he p hu

lemma Sole.act {a : Act} (hw : Sole excl pid w) (ha : Lawful excl a) (h : act a w = some v) : Sole excl pid v := by
  refine ⟨fun p hp => ?_, fun he p hp => ?_⟩
  · obtain ⟨hc, hu⟩ := hw.unwritten p ((act_fades h).unwritten p hp)
    refine ⟨hc, ?_⟩
    rcases act_upgrade ha.1 h with ⟨q, rfl⟩ | he
    · obtain ⟨hq, hne, -⟩ := act_write h
      obtain rfl : q = p := (hw.unwritten q hq).1.trans hc.symm
      exact absurd hp hne
    · rwa [he]
  · rcases act_written h hp with hp | rfl
    · obtain ⟨hc, hi⟩ := hw.written he p hp
      refine ⟨hc, ?_⟩
      rcases act_env (ha.2 he) h with hv | ⟨hv, -⟩
      · exact hv.trans hi
      · exact hv
    · obtain ⟨hu, -, hi, -⟩ := act_write h
      exact ⟨(hw.unwritten p hu).1, hi⟩

lemma Locked.act {a : Act} (hw : Locked excl w) (ha : Lawful excl a) (h : act a w = some v) : Locked excl v := by
  refine ⟨?_, fun p hp => ?_⟩
  · rw [act_memory h]
    exact hw.sole.act ha h
  · rw [act_memory h]
    exact hw.flagged p ((act_fades h).unwritten p hp)

def Window (sys : System) (scope : Option (Request × Trace calls)) : Prop :=
  ∃ body reply b n, scope = some (.http .put URI_FIRMWARE_COMMIT body,
      [⟨.popen (sys.chroot ++ printenvCommand FIRMWARE_ENV_BOOT_COUNT), reply⟩]) ∧
    envValue FIRMWARE_ENV_BOOT_COUNT (PopenReply.result reply) = some b ∧ Text.stoi b = .ok n ∧ n ≠ 0

def limits (sys : System) (excl : Prop) : (daemon sys).Limits where
  act scope a _ := Lawful excl a ∧ (excl → Window sys scope → ∀ pid, a ≠ .write pid)
  answer _ _ _ _ _ := True

def allowed (sys : System) (excl : Prop) (r : Request) (t : Trace calls) (c : Call) (w : World) : Prop :=
  match c with
  | .popen _ => Locked excl w
  | .fork _ => Idle excl w
  | .shell command => command = sys.chroot ++ COMMAND_MENDER_COMMIT → Idle excl w
  | .store .downloading _ | .deleteSignalEvent => r = .sigchld →
    (∃ how, ⟨.waitid w.memory.childPid, .ended how⟩ ∈ t) ∧ w.find w.memory.childPid = none
  | _ => True

abbrev rules (sys : System) (excl : Prop) (r : Request) : Rules calls World :=
  (limits sys excl).rules (OneAlive excl) (allowed sys excl) r

lemma stable {P : World → Prop} (h : ∀ a w v, Lawful excl a → act a w = some v → P w → P v) (r : Request)
    (t : Trace calls) : (rules sys excl r).Stable t P := by
  rintro w v hw ⟨a, ha, hv⟩
  exact h a w v ha.1 hv hw

lemma stable_locked (r : Request) (t : Trace calls) : (rules sys excl r).Stable t (Locked excl) :=
  stable (fun _ _ _ ha hv hw => hw.act ha hv) r t

lemma stable_idle (r : Request) (t : Trace calls) : (rules sys excl r).Stable t (Idle excl) :=
  stable (fun _ _ _ _ hv hw => hw.act hv) r t

lemma stable_sole (pid : ℤ) (r : Request) (t : Trace calls) : (rules sys excl r).Stable t (Sole excl pid) :=
  stable (fun _ _ _ ha hv hw => hw.act ha hv) r t

lemma stable_memory (P : Memory → Prop) (r : Request) (t : Trace calls) :
    (rules sys excl r).Stable t fun w => P w.memory :=
  stable (fun _ _ _ _ hv hw => (act_memory hv).symm ▸ hw) r t

structure Free (excl : Prop) (w : World) : Prop where
  idle : Idle excl w
  upgrade : w.env.upgradeText ≠ some (bytes "1")

lemma stable_free (r : Request) (t : Trace calls) : (rules sys excl r).Stable t (Free excl) := by
  refine stable (fun a w v ha hv hw => ⟨hw.idle.act hv, ?_⟩) r t
  rcases act_upgrade ha.1 hv with ⟨pid, rfl⟩ | he
  · exact absurd (act_write hv).1 (hw.idle.unwritten pid)
  · rw [he]
    exact hw.upgrade

structure Pending (excl : Prop) (w : World) : Prop where
  locked : Locked excl w
  upgrade : w.memory.downloading = true ∨
    w.env.upgradeText ≠ some (bytes "1") ∧ (excl → ∀ pid, ¬ w.Written pid)

lemma stable_pending (r : Request) (t : Trace calls) : (rules sys excl r).Stable t (Pending excl) := by
  refine stable (fun a w v ha hv hw => ⟨hw.locked.act ha hv, ?_⟩) r t
  rw [act_memory hv]
  rcases act_upgrade ha.1 hv with ⟨pid, rfl⟩ | he
  · exact .inl (hw.locked.flagged pid (act_write hv).1)
  · rw [he]
    refine hw.upgrade.imp_right fun ⟨hu, hp⟩ => ⟨hu, fun hx p hp' => ?_⟩
    rcases act_written hv hp' with hp' | rfl
    · exact hp hx p hp'
    · rw [(act_write hv).2.2.1] at he
      exact hu (he.symm.trans Env.upgradeText_installed)

-- `firmware_state` is called first thing in a commit.
def Scoped (scope : Request × Trace calls) : Prop :=
  (∃ body, scope.1 = .http .put URI_FIRMWARE_COMMIT body) ∧ scope.2 = []

structure Reported (excl : Prop) (scope : Request × Trace calls) (s : Option Bytes) (w : World) : Prop where
  locked : Locked excl w
  unwritten : ∀ x, s = some x → x ≠ FIRMWARE_STATE_DOWNLOADING → NoneUnwritten w
  normal : s = some FIRMWARE_STATE_NORMAL → Free excl w
  uncommitted : s = some FIRMWARE_STATE_UNCOMMITTED → Scoped scope → Idle excl w

variable {scope : Request × Trace calls}

lemma Locked.reported_none (h : Locked excl w) : Reported excl scope none w :=
  ⟨h, by simp, by simp, by simp⟩

lemma Free.reported (h : Free excl w) : Reported excl scope (some FIRMWARE_STATE_NORMAL) w :=
  ⟨h.idle.locked, fun _ _ _ => h.idle.unwritten, fun _ => h, fun _ _ => h.idle⟩

lemma Locked.reported_downloading (h : Locked excl w) : Reported excl scope (some FIRMWARE_STATE_DOWNLOADING) w := by
  refine ⟨h, fun x hx hne => absurd (Option.some.inj hx).symm hne, fun hx => ?_, fun hx => ?_⟩
  · exact absurd (Option.some.inj hx) (by decide)
  · exact absurd (Option.some.inj hx) (by decide)

structure Upgraded (excl : Prop) (settled : Prop) (w : World) : Prop where
  locked : Locked excl w
  unwritten : NoneUnwritten w
  idle : settled → Idle excl w

lemma stable_upgraded (settled : Prop) (r : Request) (t : Trace calls) :
    (rules sys excl r).Stable t (Upgraded excl settled) :=
  stable (fun _ _ _ ha hv hw => ⟨hw.locked.act ha hv, hw.unwritten.act hv, fun h => (hw.idle h).act hv⟩) r t

lemma Upgraded.store {settled : Prop} (h : Upgraded excl settled w) :
    Upgraded excl settled (w.store .downloading false) :=
  ⟨⟨h.locked.sole.of_eq rfl rfl, fun p hp => absurd hp (h.unwritten p)⟩, h.unwritten, fun hs => (h.idle hs).of_eq rfl⟩

lemma Upgraded.reported {n : ℤ} {d : Bool} (h : Upgraded excl (n ≠ 0 ∧ Scoped scope) w) :
    Reported excl scope (some (stateText n (bytes "1") d)) w := by
  refine ⟨h.locked, fun _ _ _ => h.unwritten, fun hx => absurd (Option.some.inj hx) ?_,
    fun hx hs => h.idle ⟨?_, hs⟩⟩
  · rw [stateText, if_pos rfl]
    split_ifs <;> decide
  · rintro rfl
    rw [stateText, if_pos rfl, if_pos rfl] at hx
    exact absurd (Option.some.inj hx) (by decide)

lemma Locked.none_of_upgraded (h : Locked excl w) (hu : w.env.upgradeText = some (bytes "1")) : NoneUnwritten w :=
  fun p hp => (h.sole.unwritten p hp).2 hu

lemma stateFrom_safe {r : Request} (hr : r ≠ .sigchld) (b u : Option Bytes) {t : Trace calls} (hl : Locked excl w)
    (hu : ∀ x, u = some x → w.env.upgradeText = some x)
    (hb : ∀ x n, b = some x → Text.stoi x = .ok n → n ≠ 0 → Scoped scope → excl → w.env ≠ .installed) :
    (stateFrom b u).Safe (rules sys excl r) (fun s _ v => Reported excl scope s v) t w := by
  have hc := stateFrom_cases b u
  generalize stateFrom b u = p at hc ⊢
  cases hc with
  | unread => exact .of_done (stable_locked r t) hl fun v hv => ⟨hv.sole.one, hv.reported_none⟩
  | thrown => exact .of_call (stable_locked r t) hl (fun v hv => ⟨hv.sole.one, trivial⟩) fun _ x => x.elim
  | @upgraded x n hx hn h1 =>
    have hnu : NoneUnwritten w := hl.none_of_upgraded (hu _ h1)
    have hup : Upgraded excl (n ≠ 0 ∧ Scoped scope) w := ⟨hl, hnu, fun hs => ⟨hnu, fun he p hp =>
      hb x n hx hn hs.1 hs.2 he (hl.sole.written he p hp).2⟩⟩
    refine .of_call (stable_upgraded _ r t) hup (fun v hv => ⟨hv.locked.sole.one, fun h => absurd h hr⟩)
      fun v x y hv ha => ?_
    obtain ⟨o, -, ha⟩ := answers_elim ha
    obtain rfl : y = v.store .downloading false := answer_store ha
    exact .of_done (stable_upgraded _ r _) hv.store fun y hy => ⟨hy.locked.sole.one, hy.reported⟩
  | flagged _ _ hy h1 =>
    have hu := hu _ hy
    have hp : Pending excl w := by
      refine ⟨hl, .inr ⟨fun h => h1 (Option.some.inj (hu.symm.trans h)), fun hx p hw => ?_⟩⟩
      rw [(hl.sole.written hx p hw).2, Env.upgradeText_installed] at hu
      exact h1 (Option.some.inj hu).symm
    refine .of_call (stable_pending r t) hp (fun v hv => ⟨hv.locked.sole.one, trivial⟩) fun v x y hv ha => ?_
    obtain ⟨o, -, ha⟩ := answers_elim ha
    obtain ⟨rfl, rfl⟩ := answer_load ha
    rw [stateText, if_neg h1]
    cases hd : y.memory.get .downloading with
    | true =>
      rw [if_pos rfl]
      exact .of_done (stable_locked r _) hv.locked fun y hy => ⟨hy.sole.one, hy.reported_downloading⟩
    | false =>
      have hd' : y.memory.downloading ≠ true := by
        have hd : y.memory.downloading = false := hd
        simp [hd]
      have hf := hv.upgrade.resolve_left hd'
      have hfree : Free excl y := ⟨⟨fun p hp => hd' (hv.locked.flagged p hp), hf.2⟩, hf.1⟩
      rw [if_neg Bool.false_ne_true]
      exact .of_done (stable_free r _) hfree fun y hy => ⟨hy.idle.locked.sole.one, hy.reported⟩

def Reading (sys : System) (excl : Prop) (scope : Option (Request × Trace calls)) (w : World) : Prop :=
  Locked excl w ∧ (excl → Window sys scope → w.env ≠ .installed)

lemma stable_reading (r : Request) (t : Trace calls) :
    (rules sys excl r).Stable t (Reading sys excl (some (r, t))) := by
  rintro w v ⟨hl, hw⟩ ⟨a, ⟨ha, hc⟩, hv⟩
  refine ⟨hl.act ha hv, fun hx hwin => ?_⟩
  rcases act_env (ha.2 hx) hv with he | ⟨-, pid, rfl⟩
  · rw [he]
    exact hw hx hwin
  · exact absurd rfl (hc hx hwin pid)

lemma firmwareState_safe {r : Request} (hr : r ≠ .sigchld) {t : Trace calls} (hw : Locked excl w) :
    (firmwareState sys).Safe (rules sys excl r) (fun s _ v => Reported excl (r, t) s v) t w := by
  rw [firmwareState_eq]
  refine .of_call (stable_locked r t) hw (fun v hv => ⟨hv.sole.one, hv⟩) fun v r₁ u hv hr₁ => ?_
  obtain ⟨o, -, ha⟩ := answers_elim hr₁
  have hread : Reading sys excl (some (r, t ++ [⟨_, r₁⟩])) u := by
    refine ⟨hv.kept (answer_popen_kept ha), fun hx ⟨body, reply, b, n, he, hb, hn, h0⟩ hi => ?_⟩
    have ht := (Prod.mk.inj (Option.some.inj he)).2
    obtain ⟨rfl, ht⟩ := List.append_eq_singleton_iff.mp ht |>.resolve_right (by simp)
    obtain rfl : r₁ = reply := by simpa using ht
    rw [(answer_popen_kept ha).env] at hi
    rcases read_bootcount ha with h | h
    · rw [h, hi, Env.bootcountText_installed] at hb
      obtain rfl := Option.some.inj hb
      exact h0 (Except.ok.inj hn).symm
    · exact absurd (h.symm.trans hb) (by simp)
  refine .of_call (stable_reading r _) hread (fun v hv => ⟨hv.1.sole.one, hv.1⟩) fun v r₂ u hv ha => ?_
  obtain ⟨o, -, ha⟩ := answers_elim ha
  have hk : Kept v u := answer_popen_kept ha
  refine stateFrom_safe hr _ _ (hv.1.kept hk) (fun x hx => ?_) fun x n hx hn h0 hs he => ?_
  · rw [hk.env]
    rcases read_upgrade ha with he | he
    · exact he ▸ hx
    · exact absurd (he.symm.trans hx) (by simp)
  · obtain ⟨⟨body, rfl⟩, rfl⟩ := hs
    rw [hk.env]
    exact hv.2 he ⟨body, r₁, x, n, rfl, hx, hn, h0⟩

lemma quiet_step (r : Request) (t : Trace calls) (c : Call) (w : World) (hc : c.Quiet sys) (hw : Locked excl w) :
    (rules sys excl r).allowed t c w ∧ ∀ x u, (rules sys excl r).answers t c w x u → Locked excl u := by
  refine ⟨?_, fun x u ha => ?_⟩
  · cases c with
    | popen command => exact hw
    | shell command => exact fun h => absurd h hc
    | store f x =>
      cases f with
      | downloading => exact hc.elim
      | _ => trivial
    | fork | deleteSignalEvent => exact hc.elim
    | _ => trivial
  · obtain ⟨o, -, ha⟩ := answers_elim ha
    exact hw.kept (answer_quiet hc ha)

lemma quiet_safe {α : Type} {r : Request} (hr : r ≠ .sigchld) {p : Prog α} (hp : Built sys (Call.Quiet sys) p)
    {t : Trace calls} (hw : Locked excl w) : p.Safe (rules sys excl r) (fun _ _ v => Locked excl v) t w := by
  refine hp.safe (stable_locked r) (fun _ hv => hv.sole.one) (quiet_step r) (fun t w hw => ?_) hw
  exact (firmwareState_safe hr hw).mono fun _ _ _ h => h.locked

lemma done_safe {α : Type} (r : Request) (a : α) {t : Trace calls} (hw : Locked excl w) :
    (Program.done a : Prog α).Safe (rules sys excl r) (fun _ _ v => Locked excl v) t w :=
  .of_done (stable_locked r t) hw fun _ hv => ⟨hv.sole.one, hv⟩

lemma sole_forked (hw : Free excl w) :
    Sole excl pid { w with installers := w.installers ++ [⟨pid, .running false⟩] } := by
  refine ⟨fun p hp => ⟨?_, hw.upgrade⟩, fun hx p hp => ?_⟩
  · rcases List.mem_append.mp hp with hp | hp
    · exact absurd hp (hw.idle.unwritten p)
    · exact (Installer.mk.inj (List.mem_singleton.mp hp)).1
  · rcases List.mem_append.mp hp with hp | hp
    · exact absurd hp (hw.idle.written hx p)
    · simp at hp

lemma download_safe {r : Request} (hr : r ≠ .sigchld) (uri : Bytes) {t : Trace calls} (hw : Free excl w) :
    (download sys uri).Safe (rules sys excl r) (fun _ _ v => Locked excl v) t w := by
  rw [download_eq]
  refine .of_call (stable_free r t) hw (fun v hv => ⟨hv.idle.locked.sole.one, hv.idle⟩) fun v id u hv ha => ?_
  obtain ⟨o, -, ha⟩ := answers_elim ha
  rcases answer_fork ha with ⟨hid, rfl⟩ | ⟨hid, -, rfl⟩
  · rw [if_pos hid]
    exact done_safe r id hv.idle.locked
  · rw [if_neg (not_lt.mpr hid.le)]
    refine .of_call (stable_sole id r _) (sole_forked hv) (fun v hv => ⟨hv.one, fun h => absurd h hr⟩)
      fun v x u hv ha => ?_
    obtain ⟨o, -, ha⟩ := answers_elim ha
    obtain rfl : u = v.store .downloading true := answer_store ha
    refine .of_call ((stable_sole id r _).and (stable_memory (fun m => m.downloading = true) r _))
      ⟨hv.of_eq rfl rfl, rfl⟩ (fun v hv => ⟨hv.1.one, trivial⟩) fun v x u hv ha => ?_
    obtain ⟨o, -, ha⟩ := answers_elim ha
    obtain rfl : u = v.store .childPid id := answer_store ha
    have hl : Locked excl (v.store .childPid id) := ⟨hv.1.of_eq rfl rfl, fun _ _ => hv.2⟩
    refine .of_call (stable_locked r _) hl (fun v hv => ⟨hv.sole.one, trivial⟩) fun v x u hv ha => ?_
    obtain ⟨o, -, ha⟩ := answers_elim ha
    obtain rfl : u = { v with registered := false } := answer_replaceSignalEvent ha
    refine .of_call (stable_locked r _) (hv.of_eq rfl rfl rfl rfl) (fun v hv => ⟨hv.sole.one, trivial⟩)
      fun v x u hv ha => ?_
    obtain ⟨o, -, ha⟩ := answers_elim ha
    have hl : Locked excl u := by
      rcases answer_addSignalEvent ha with ⟨-, -, rfl⟩ | ⟨-, -, -, rfl⟩
      · exact hv.of_eq rfl rfl rfl rfl
      · exact hv
    exact done_safe r _ hl

lemma firmwareGet_safe {r : Request} (hr : r ≠ .sigchld) (b : Body) {t : Trace calls} (hw : Locked excl w) :
    (Firmware.get sys b).Safe (rules sys excl r) (fun _ _ v => Locked excl v) t w :=
  quiet_safe hr ((built_firmwareGet b).mono fun _ h => h.quiet) hw

lemma start_safe {r : Request} (hr : r ≠ .sigchld) (uri : Bytes) {t : Trace calls} (hw : Free excl w) :
    (Firmware.start sys uri).Safe (rules sys excl r) (fun _ _ v => Locked excl v) t w := by
  rw [Firmware.start_eq]
  refine .of_call (stable_free r t) hw (fun v hv => ⟨hv.idle.locked.sole.one, trivial⟩) fun v x u hv ha => ?_
  obtain ⟨o, -, ha⟩ := answers_elim ha
  obtain rfl : u = v.store .uri uri := answer_store ha
  have hf : Free excl (v.store .uri uri) := ⟨hv.idle.of_eq rfl, hv.upgrade⟩
  refine .bind ((download_safe hr uri hf).mono fun pid t v hv => ?_)
  unfold Firmware.started
  split_ifs
  · exact done_safe r _ hv
  · exact firmwareGet_safe hr _ hv

lemma accept_safe {r : Request} (hr : r ≠ .sigchld) (body : Body) {t : Trace calls} (hw : Free excl w) :
    (Firmware.accept sys body).Safe (rules sys excl r) (fun _ _ v => Locked excl v) t w := by
  unfold Firmware.accept
  split
  · split
    · exact done_safe r _ hw.idle.locked
    · exact start_safe hr _ hw
    · exact done_safe r _ hw.idle.locked
  · exact done_safe r _ hw.idle.locked

lemma put_safe {r : Request} (hr : r ≠ .sigchld) (body : Body) {t : Trace calls} (hw : Locked excl w) :
    (Firmware.put sys body).Safe (rules sys excl r) (fun _ _ v => Locked excl v) t w := by
  refine .bind ((firmwareState_safe hr hw).mono fun s t v hv => ?_)
  cases s with
  | none => exact done_safe r _ hv.locked
  | some s =>
    dsimp only
    split_ifs with hs
    · exact done_safe r _ hv.locked
    · obtain rfl : s = FIRMWARE_STATE_NORMAL := not_not.mp hs
      exact accept_safe hr body (hv.normal rfl)

lemma commit_safe {r : Request} (hr : r ≠ .sigchld) {t : Trace calls} (hw : Idle excl w) :
    (FirmwareCommit.commit sys).Safe (rules sys excl r) (fun _ _ v => Locked excl v) t w := by
  refine .of_call (stable_idle r t) hw (fun v hv => ⟨hv.locked.sole.one, fun _ => hv⟩) fun v result u hv ha => ?_
  obtain ⟨o, -, ha⟩ := answers_elim ha
  have hi : Idle excl u := by
    refine hv.of_eq ?_
    rcases answer_shell ha with rfl | rfl | ⟨-, rfl⟩ | ⟨-, rfl⟩ <;> rfl
  change Program.Safe _ _ (if result = 0 then _ else _) _ _
  split_ifs
  · exact firmwareGet_safe hr _ hi.locked
  · exact done_safe r _ hi.locked

lemma commitPut_safe {r : Request} (hr : ∃ body, r = .http .put URI_FIRMWARE_COMMIT body) (body : Body)
    (hw : Locked excl w) :
    (FirmwareCommit.put sys body).Safe (rules sys excl r) (fun _ _ v => Locked excl v) [] w := by
  have hne : r ≠ .sigchld := by
    rintro rfl
    simp at hr
  refine .bind ((firmwareState_safe hne hw).mono fun s t v hv => ?_)
  cases s with
  | none => exact done_safe r _ hv.locked
  | some s =>
    dsimp only
    split_ifs with hs
    · exact done_safe r _ hv.locked
    · refine commit_safe hne ?_
      rcases Classical.not_and_iff_not_or_not.mp hs with hs | hs
      · exact (hv.normal (congrArg some (not_not.mp hs))).idle
      · exact hv.uncommitted (congrArg some (not_not.mp hs)) ⟨hr, rfl⟩

structure Reaped (excl : Prop) (pid : ℤ) (w : World) : Prop where
  locked : Locked excl w
  unwritten : NoneUnwritten w
  childPid : w.memory.childPid = pid
  gone : w.find pid = none

lemma stable_reaped (pid : ℤ) (r : Request) (t : Trace calls) : (rules sys excl r).Stable t (Reaped excl pid) :=
  stable (fun _ _ _ ha hv hw => ⟨hw.locked.act ha hv, hw.unwritten.act hv, (act_memory hv).symm ▸ hw.childPid,
    act_find_none hv hw.gone⟩) r t

lemma Locked.reaped (hl : Locked excl w) (hp : w.memory.childPid = pid) :
    Reaped excl pid { w with installers := w.installers.filter fun p => p.pid ≠ pid } := by
  have hu : NoneUnwritten { w with installers := w.installers.filter fun p => p.pid ≠ pid } := by
    intro p hu
    obtain ⟨hu, hne⟩ := List.mem_filter.mp hu
    have he : p = pid := (hl.sole.unwritten p hu).1.trans hp
    simp [he] at hne
  refine ⟨⟨⟨fun p h => absurd h (hu p), fun hx p h => ?_⟩, fun p h => absurd h (hu p)⟩, hu, hp, find_reaped⟩
  exact hl.sole.written hx p (List.mem_filter.mp h).1

lemma Reaped.waited {t : Trace calls} (hw : Reaped excl pid w) (how : Exit) (ht : ⟨.waitid pid, .ended how⟩ ∈ t) :
    (∃ how, ⟨.waitid w.memory.childPid, .ended how⟩ ∈ t) ∧ w.find w.memory.childPid = none := by
  rw [hw.childPid]
  exact ⟨⟨how, ht⟩, hw.gone⟩

lemma message_safe (s : Bytes) {t : Trace calls} (hw : Locked excl w) :
    (Program.call (S := calls) (.store .debugMessage s) .done).Safe (rules sys excl .sigchld)
      (fun _ _ v => Locked excl v) t w := by
  refine .of_call (stable_locked _ _) hw (fun v hv => ⟨hv.sole.one, trivial⟩) fun v x y hv ha => ?_
  obtain ⟨o, -, ha⟩ := answers_elim ha
  exact done_safe _ _ (hv.kept (answer_quiet (c := .store .debugMessage _) trivial ha))

lemma onSigchld_safe (hw : Locked excl w) :
    onSigchld.Safe (rules sys excl .sigchld) (fun _ _ v => Locked excl v) [] w := by
  rw [onSigchld_eq]
  refine .of_call (stable_locked _ _) hw (fun v hv => ⟨hv.sole.one, trivial⟩) fun v pid u hv ha => ?_
  obtain ⟨o, -, ha⟩ := answers_elim ha
  obtain ⟨rfl, rfl⟩ := answer_load ha
  refine .of_call ((stable_locked _ _).and (stable_memory (fun m => m.childPid = u.memory.childPid) _ _)) ⟨hv, rfl⟩
    (fun v hv => ⟨hv.1.sole.one, trivial⟩) fun v x y hv ha => ?_
  obtain ⟨o, -, ha⟩ := answers_elim ha
  rcases answer_waitid_cases ha with ⟨rfl, -, rfl⟩ | ⟨rfl, -, rfl⟩ | ⟨how, rfl, -, rfl⟩
  · refine .of_call (stable_locked _ _) hv.1 (fun v hv => ⟨hv.sole.one, trivial⟩) fun v shown y hv ha => ?_
    obtain ⟨o, -, ha⟩ := answers_elim ha
    obtain ⟨-, rfl⟩ := answer_load ha
    exact message_safe _ hv
  · exact done_safe _ _ hv.1
  · refine .of_call (stable_reaped _ _ _) (hv.1.reaped hv.2)
      (fun v hv => ⟨hv.locked.sole.one, fun _ => hv.waited how (by simp)⟩) fun v x y hv ha => ?_
    obtain ⟨o, -, ha⟩ := answers_elim ha
    obtain rfl : y = v.store .downloading false := answer_store ha
    have hs : Reaped excl (u.memory.get .childPid) (v.store .downloading false) :=
      ⟨⟨hv.locked.sole.of_eq rfl rfl, fun p hp => absurd hp (hv.unwritten p)⟩, hv.unwritten, hv.childPid, hv.gone⟩
    refine .of_call (stable_reaped _ _ _) hs (fun v hv => ⟨hv.locked.sole.one, fun _ => hv.waited how (by simp)⟩)
      fun v x y hv ha => ?_
    obtain ⟨o, -, ha⟩ := answers_elim ha
    obtain rfl : y = { v with registered := false } := answer_deleteSignalEvent ha
    exact message_safe _ (hv.locked.of_eq rfl rfl rfl rfl)

theorem contract (sys : System) (excl : Prop) :
    Server.Contract (limits sys excl) (Locked excl) (OneAlive excl) (allowed sys excl) where
  always_of_idle _ hw := hw.sole.one
  act a w v hw ha hv := hw.act ha.1 hv
  serve r w v hw ha := by
    cases r with
    | sigchld =>
      simp only [acceptRequest] at ha
      split_ifs at ha
      obtain rfl : { w with caught := false } = v := Option.some.inj ha
      have hl : Locked excl { w with caught := false } := hw.of_eq rfl rfl rfl rfl
      exact (onSigchld_safe hl).map
    | http m path body =>
      obtain rfl : w = v := Option.some.inj ha
      have hr : Request.http m path body ≠ .sigchld := Request.noConfusion
      cases (handler_cases (.http m path body) : HandlerCases sys _) with
      | quiet hq => exact quiet_safe hr hq hw
      | install hh =>
        simp only [hh]
        exact (put_safe hr body hw).map
      | commit hh =>
        simp only [hh]
        exact (commitPut_safe ⟨body, rfl⟩ body hw).map

lemma idle_of_initial {c : (daemon sys).Config} (h : IsInitial sys c) : c.thread = none ∧ Locked excl c.world := by
  obtain ⟨env, files, rfl⟩ := h
  exact ⟨rfl, Idle.locked ⟨fun p hp => absurd hp List.not_mem_nil, fun _ p hp => absurd hp List.not_mem_nil⟩⟩

lemma guard {c : (daemon sys).Config} {r : Request} {t : Trace calls} {k : Call} {next : k.Reply → Prog (Option Resp)}
    (hc : Server.Reachable (IsInitial sys) (limits sys excl).ok c) (ht : c.thread = some ⟨r, t, .call k next⟩) :
    allowed sys excl r t k c.world :=
  (contract sys excl).guard (fun _ => idle_of_initial) hc ht

lemma guard_next {c : (daemon sys).Config} {k : Call}
    (hc : Server.Reachable (IsInitial sys) (limits sys excl).ok c) (hn : c.nextCall = some k) :
    ∃ t, c.thread = some t ∧ allowed sys excl t.request t.trace k c.world := by
  obtain ⟨r, t, next, ht⟩ := Server.Config.thread_of_nextCall hn
  exact ⟨_, ht, guard hc ht⟩

end RouterCard.Captived.UpdateLock

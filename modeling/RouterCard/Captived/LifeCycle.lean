import RouterCard.Captived.UpdateLock
import RouterCard.Interaction.Refinement

/-! The life of an update, from the fork of its installer to its commit: an abstract machine
that every run of the daemon follows. -/

namespace RouterCard.Captived.LifeCycle

open Text Interaction FirmwareManager UpdateLock

section machine

/-- Whether an update waits to be committed, whether the manager says that it downloads, and
the installer that may still write. -/
structure Life where
  upgraded : Bool
  downloading : Bool
  writer : Option ℤ
  deriving DecidableEq

inductive Event where
  | fork (pid : ℤ)
  | flag
  | write (pid : ℤ)
  | exit (pid : ℤ)
  | reap
  | unflag
  | commit
  deriving DecidableEq

def Life.after (l : Life) : Event → Option Life
  | .fork pid => if l.upgraded ∨ l.downloading ∨ l.writer.isSome then none else some { l with writer := some pid }
  | .flag => if l.downloading then none else some { l with downloading := true }
  | .write pid => if l.upgraded ∨ l.writer ≠ some pid then none else some { l with upgraded := true, writer := none }
  | .exit pid => some { l with writer := if l.writer = some pid then none else l.writer }
  | .reap => if l.writer.isSome then none else some { l with downloading := false }
  | .unflag => if l.upgraded then some { l with downloading := false } else none
  | .commit => if l.downloading ∨ l.writer.isSome then none else some { l with upgraded := false }

abbrev life : Machine := ⟨Life, Event, Life.after⟩

variable {l m : Life} {pid p q : ℤ}

@[simp] lemma after_fork : l.after (.fork pid) = some m ↔
    l.upgraded = false ∧ l.downloading = false ∧ l.writer = none ∧ m = { l with writer := some pid } := by
  simp only [Life.after, Option.ite_none_left_eq_some, not_or, Bool.not_eq_true, Option.isSome_eq_false_iff,
    Option.isNone_iff_eq_none, and_assoc, Option.some.injEq, eq_comm (b := m)]

@[simp] lemma after_flag : l.after .flag = some m ↔ l.downloading = false ∧ m = { l with downloading := true } := by
  simp only [Life.after, Option.ite_none_left_eq_some, Bool.not_eq_true, Option.some.injEq, eq_comm (b := m)]

@[simp] lemma after_write : l.after (.write pid) = some m ↔
    l.upgraded = false ∧ l.writer = some pid ∧ m = { l with upgraded := true, writer := none } := by
  simp only [Life.after, Option.ite_none_left_eq_some, not_or, Bool.not_eq_true, not_not, and_assoc, Option.some.injEq,
    eq_comm (b := m)]

@[simp] lemma after_exit : l.after (.exit pid) = some m ↔
    m = { l with writer := if l.writer = some pid then none else l.writer } := by
  simp only [Life.after, Option.some.injEq, eq_comm (b := m)]

@[simp] lemma after_reap : l.after .reap = some m ↔ l.writer = none ∧ m = { l with downloading := false } := by
  simp only [Life.after, Option.ite_none_left_eq_some, Option.not_isSome_iff_eq_none, Option.some.injEq, eq_comm (b := m)]

@[simp] lemma after_unflag : l.after .unflag = some m ↔ l.upgraded = true ∧ m = { l with downloading := false } := by
  simp only [Life.after, Option.ite_none_right_eq_some, Option.some.injEq, eq_comm (b := m)]

@[simp] lemma after_commit : l.after .commit = some m ↔
    l.downloading = false ∧ l.writer = none ∧ m = { l with upgraded := false } := by
  simp only [Life.after, Option.ite_none_left_eq_some, not_or, Bool.not_eq_true, Option.isSome_eq_false_iff,
    Option.isNone_iff_eq_none, and_assoc, Option.some.injEq, eq_comm (b := m)]

lemma writer_lasts (p : ℤ) (s : Life) (e : Event) (t : Life) (h : s.after e = some t) (hs : s.writer = some p) :
    t.writer = some p ∨ e = .write p ∨ e = .exit p := by
  cases e with
  | write q =>
    obtain ⟨-, hq, -⟩ := after_write.mp h
    exact .inr (.inl (congrArg Event.write (Option.some.inj (hq.symm.trans hs))))
  | exit q =>
    obtain rfl := after_exit.mp h
    by_cases hpq : p = q
    · exact .inr (.inr (congrArg Event.exit hpq.symm))
    · simp [hs, hpq]
  | _ =>
    simp only [after_fork, after_flag, after_reap, after_unflag, after_commit] at h
    simp_all

lemma no_writer_lasts (p : ℤ) (s : Life) (e : Event) (t : Life) (h : s.after e = some t) (hs : s.writer ≠ some p) :
    t.writer ≠ some p ∨ e = .fork p := by
  cases e with
  | fork q =>
    obtain ⟨-, -, -, rfl⟩ := after_fork.mp h
    by_cases hpq : q = p
    · exact .inr (congrArg Event.fork hpq)
    · exact .inl fun ht => hpq (Option.some.inj ht)
  | exit q =>
    obtain rfl := after_exit.mp h
    left
    dsimp only
    split_ifs
    · simp
    · exact hs
  | _ =>
    simp only [after_flag, after_write, after_reap, after_unflag, after_commit] at h
    simp_all

lemma upgraded_lasts (s : Life) (e : Event) (t : Life) (h : s.after e = some t) (hs : s.upgraded = true) :
    t.upgraded = true ∨ e = .commit := by
  cases e with
  | commit => exact .inr rfl
  | _ =>
    simp only [after_fork, after_flag, after_write, after_exit, after_reap, after_unflag] at h
    simp_all

lemma downloading_lasts (s : Life) (e : Event) (t : Life) (h : s.after e = some t) (hs : s.downloading = true) :
    t.downloading = true ∨ e = .reap ∨ e = .unflag := by
  cases e with
  | reap | unflag => simp
  | _ =>
    simp only [after_fork, after_flag, after_write, after_exit, after_commit] at h
    simp_all

structure Orderly (es : List Event) : Prop where
  forked : ∀ pre p post, es = pre ++ .write p :: post → .fork p ∈ pre
  settled : ∀ pre p mid e post, es = pre ++ .fork p :: (mid ++ e :: post) → e = .commit ∨ e = .reap ∨ (∃ q, e = .fork q) →
    .write p ∈ mid ∨ .exit p ∈ mid
  committed : ∀ pre p mid e post, es = pre ++ .write p :: (mid ++ e :: post) → (∃ q, e = .write q ∨ e = .fork q) →
    .commit ∈ mid
  unflagged : ∀ pre mid e post, es = pre ++ .flag :: (mid ++ e :: post) → e = .flag ∨ e = .commit ∨ (∃ q, e = .fork q) →
    .reap ∈ mid ∨ .unflag ∈ mid

lemma orderly_of_run {es : List Event} (h : life.run l es = some m) (hl : l.writer = none) : Orderly es := by
  refine ⟨?_, ?_, ?_, ?_⟩
  · rintro pre p post rfl
    obtain ⟨s, t, hs, ht, -⟩ := Machine.run_split h
    rcases Machine.lasts (no_writer_lasts p) hs (by simp [hl]) with hp | ⟨e, he, rfl⟩
    · exact absurd (after_write.mp ht).2.1 hp
    · exact he
  · rintro pre p mid e post rfl he
    have hmid : ∃ f ∈ mid, f = .write p ∨ f = .exit p := by
      refine Machine.separated (P := fun s : Life => s.writer = some p) (writer_lasts p)
        (fun s t ht => by rw [(after_fork.mp ht).2.2.2]) (fun s t ht hs => ?_) h
      rcases he with rfl | rfl | ⟨q, rfl⟩
      · exact Option.some_ne_none p (hs.symm.trans (after_commit.mp ht).2.1)
      · exact Option.some_ne_none p (hs.symm.trans (after_reap.mp ht).1)
      · exact Option.some_ne_none p (hs.symm.trans (after_fork.mp ht).2.2.1)
    rcases hmid with ⟨f, hf, rfl | rfl⟩
    · exact .inl hf
    · exact .inr hf
  · rintro pre p mid e post rfl ⟨q, he⟩
    have hmid : ∃ f ∈ mid, f = .commit := by
      refine Machine.separated (P := fun s : Life => s.upgraded = true) upgraded_lasts
        (fun s t ht => by rw [(after_write.mp ht).2.2]) (fun s t ht hs => ?_) h
      rcases he with rfl | rfl
      · exact Bool.noConfusion (hs.symm.trans (after_write.mp ht).1)
      · exact Bool.noConfusion (hs.symm.trans (after_fork.mp ht).1)
    obtain ⟨f, hf, rfl⟩ := hmid
    exact hf
  · rintro pre mid e post rfl he
    have hmid : ∃ f ∈ mid, f = .reap ∨ f = .unflag := by
      refine Machine.separated (P := fun s : Life => s.downloading = true) downloading_lasts
        (fun s t ht => by rw [(after_flag.mp ht).2]) (fun s t ht hs => ?_) h
      rcases he with rfl | rfl | ⟨q, rfl⟩
      · exact Bool.noConfusion (hs.symm.trans (after_flag.mp ht).1)
      · exact Bool.noConfusion (hs.symm.trans (after_commit.mp ht).1)
      · exact Bool.noConfusion (hs.symm.trans (after_fork.mp ht).2.1)
    rcases hmid with ⟨f, hf, rfl | rfl⟩
    · exact .inl hf
    · exact .inr hf

end machine

variable {sys : System} {w v : World} {o : Outcome} {p pid : ℤ}

section guards

def Sound (w : World) : Prop := ∃ pid, Sole False pid w

structure Settled (w : World) : Prop where
  unwritten : NoneUnwritten w
  downloading : w.memory.downloading = false

structure Normal (w : World) : Prop extends Settled w where
  upgrade : w.env.upgradeText ≠ some (bytes "1")

structure Upgraded (w : World) : Prop extends Settled w where
  upgrade : w.env.upgradeText = some (bytes "1")

def allowed (sys : System) (r : Request) (_ : Trace calls) (c : Call) (w : World) : Prop :=
  match c with
  | .fork _ => Normal w
  | .shell command => command = sys.chroot ++ COMMAND_MENDER_COMMIT → Settled w
  | .store .downloading flag => if flag then w.memory.downloading = false else
      match r with
      | .sigchld => NoneUnwritten w
      | .http .. => w.env.upgradeText = some (bytes "1")
  | _ => True

abbrev rules (sys : System) (r : Request) : Rules calls World := (limits sys False).rules Sound (allowed sys) r

lemma NoneUnwritten.sole (h : NoneUnwritten w) (pid : ℤ) : Sole False pid w :=
  ⟨fun p hp => absurd hp (h p), False.elim⟩

lemma NoneUnwritten.sound (h : NoneUnwritten w) : Sound w := ⟨0, NoneUnwritten.sole h 0⟩

lemma NoneUnwritten.locked (h : NoneUnwritten w) : Locked False w :=
  ⟨NoneUnwritten.sole h _, fun p hp => absurd hp (h p)⟩

lemma NoneUnwritten.of_eq (h : NoneUnwritten w) (hi : v.installers = w.installers) : NoneUnwritten v := by
  intro p hp
  rw [World.Unwritten, hi] at hp
  exact h p hp

lemma Settled.locked (h : Settled w) : Locked False w := NoneUnwritten.locked h.unwritten

lemma sound_locked (h : Locked False w) : Sound w := ⟨_, h.sole⟩

lemma Settled.act {a : Act} (hw : Settled w) (h : act a w = some v) : Settled v :=
  ⟨hw.unwritten.act h, (act_memory h) ▸ hw.downloading⟩

lemma upgrade_act {a : Act} (ha : KeepsUpgrade a) (hu : NoneUnwritten w) (h : act a w = some v) :
    v.env.upgradeText = w.env.upgradeText := by
  rcases act_upgrade ha h with ⟨pid, rfl⟩ | he
  · exact absurd (act_write h).1 (hu pid)
  · exact he

lemma stable_locked (r : Request) (t : Trace calls) : (rules sys r).Stable t (Locked False) := UpdateLock.stable_locked r t

lemma stable_settled (r : Request) (t : Trace calls) : (rules sys r).Stable t Settled :=
  UpdateLock.stable (fun _ _ _ _ hv hw => hw.act hv) r t

lemma stable_normal (r : Request) (t : Trace calls) : (rules sys r).Stable t Normal :=
  UpdateLock.stable (fun _ _ _ ha hv hw => ⟨hw.toSettled.act hv, (upgrade_act ha.1 hw.unwritten hv) ▸ hw.upgrade⟩) r t

end guards

section handlers

variable {α : Type} {t : Trace calls}

structure Told (s : Option Bytes) (w : World) : Prop where
  locked : Locked False w
  normal : s = some FIRMWARE_STATE_NORMAL → Normal w
  uncommitted : s = some FIRMWARE_STATE_UNCOMMITTED → Settled w

lemma Told.of_locked {s : Option Bytes} (h : Locked False w) (hn : s ≠ some FIRMWARE_STATE_NORMAL)
    (hu : s ≠ some FIRMWARE_STATE_UNCOMMITTED) : Told s w := ⟨h, fun hs => absurd hs hn, fun hs => absurd hs hu⟩

lemma Settled.told {n : ℤ} (h : Settled w) : Told (some (stateText n (bytes "1") false)) w := by
  refine ⟨h.locked, fun hs => absurd (Option.some.inj hs) ?_, fun _ => h⟩
  rw [stateText, if_pos rfl]
  split_ifs <;> decide

lemma done_safe (r : Request) (a : α) (hw : Locked False w) :
    (Program.done a : Prog α).Safe (rules sys r) (fun _ _ v => Locked False v) t w :=
  .of_done (stable_locked r t) hw fun _ hv => ⟨sound_locked hv, hv⟩

lemma stateFrom_told {r : Request} (hr : r ≠ .sigchld) (b u : Option Bytes) (hl : Locked False w)
    (hu : ∀ x, u = some x → w.env.upgradeText = some x) :
    (stateFrom b u).Safe (rules sys r) (fun s _ v => Told s v) t w := by
  have hc := stateFrom_cases b u
  generalize stateFrom b u = p at hc ⊢
  cases hc with
  | unread => exact .of_done (stable_locked r t) hl fun v hv => ⟨sound_locked hv, .of_locked hv (by simp) (by simp)⟩
  | thrown => exact .of_call (stable_locked r t) hl (fun v hv => ⟨sound_locked hv, trivial⟩) fun _ x => x.elim
  | @upgraded x n hx hn h1 =>
    have hinstalled : NoneUnwritten w ∧ w.env.upgradeText = some (bytes "1") := ⟨hl.none_of_upgraded (hu _ h1), hu _ h1⟩
    refine .of_call (P := fun w => NoneUnwritten w ∧ w.env.upgradeText = some (bytes "1"))
      (UpdateLock.stable (fun _ _ _ ha hv hw => ⟨hw.1.act hv, (upgrade_act ha.1 hw.1 hv).trans hw.2⟩) r t) hinstalled
      (fun v hv => ⟨NoneUnwritten.sound hv.1, ?_⟩) fun v x y hv ha => ?_
    · cases r with
      | sigchld => exact absurd rfl hr
      | http m path body => exact hv.2
    · obtain ⟨o, -, ha⟩ := answers_elim ha
      obtain rfl : y = v.store .downloading false := answer_store ha
      have hset : Settled (v.store .downloading false) := ⟨NoneUnwritten.of_eq hv.1 rfl, rfl⟩
      exact .of_done (stable_settled r _) hset fun z hz => ⟨sound_locked hz.locked, hz.told⟩
  | @flagged _ _ y _ _ hy h1 =>
    have hp : Pending False w :=
      ⟨hl, .inr ⟨fun h => h1 (Option.some.inj ((hu _ hy).symm.trans h)), False.elim⟩⟩
    refine .of_call (stable_pending r t) hp (fun v hv => ⟨sound_locked hv.locked, trivial⟩) fun v d z hv ha => ?_
    obtain ⟨o, -, ha⟩ := answers_elim ha
    obtain ⟨rfl, rfl⟩ := answer_load ha
    rw [stateText, if_neg h1]
    cases hd : z.memory.get .downloading with
    | true =>
      rw [if_pos rfl]
      exact .of_done (stable_locked r _) hv.locked fun z hz => ⟨sound_locked hz, .of_locked hz (by decide) (by decide)⟩
    | false =>
      have hdown : z.memory.downloading = false := hd
      have hnormal : Normal z := by
        refine ⟨⟨fun p hp => ?_, hdown⟩, (hv.upgrade.resolve_left (by simp [hdown])).1⟩
        exact Bool.noConfusion ((hv.locked.flagged p hp).symm.trans hdown)
      rw [if_neg Bool.false_ne_true]
      exact .of_done (stable_normal r _) hnormal fun z hz => ⟨sound_locked hz.locked, hz.locked, fun _ => hz,
        fun hs => absurd (Option.some.inj hs) (by decide)⟩

lemma firmwareState_told {r : Request} (hr : r ≠ .sigchld) (hw : Locked False w) :
    (firmwareState sys).Safe (rules sys r) (fun s _ v => Told s v) t w := by
  rw [firmwareState_eq]
  refine .of_call (stable_locked r t) hw (fun v hv => ⟨sound_locked hv, trivial⟩) fun v r₁ y hv ha => ?_
  obtain ⟨o, -, ha⟩ := answers_elim ha
  have hy : Locked False y := hv.kept (answer_popen_kept ha)
  refine .of_call (stable_locked r _) hy (fun v hv => ⟨sound_locked hv, trivial⟩) fun v r₂ z hv ha => ?_
  obtain ⟨o, -, ha⟩ := answers_elim ha
  have hk : Kept v z := answer_popen_kept ha
  refine stateFrom_told hr _ _ (hv.kept hk) fun x hx => ?_
  rw [hk.env]
  rcases read_upgrade ha with he | he
  · exact he ▸ hx
  · exact absurd (he.symm.trans hx) (by simp)

lemma quiet_step (r : Request) (t : Trace calls) (c : Call) (w : World) (hc : c.Quiet sys) (hw : Locked False w) :
    (rules sys r).allowed t c w ∧ ∀ x u, (rules sys r).answers t c w x u → Locked False u := by
  refine ⟨?_, fun x u ha => ?_⟩
  · cases c with
    | shell command => exact fun h => absurd h hc
    | store f x =>
      cases f with
      | downloading => exact hc.elim
      | _ => trivial
    | fork => exact hc.elim
    | _ => trivial
  · obtain ⟨o, -, ha⟩ := answers_elim ha
    exact hw.kept (answer_quiet hc ha)

lemma quiet_safe {r : Request} (hr : r ≠ .sigchld) {p : Prog α} (hp : Built sys (Call.Quiet sys) p) (hw : Locked False w) :
    p.Safe (rules sys r) (fun _ _ v => Locked False v) t w := by
  refine hp.safe (stable_locked r) (fun _ hv => sound_locked hv) (quiet_step r) (fun t w hw => ?_) hw
  exact (firmwareState_told hr hw).mono fun _ _ _ h => h.locked

lemma firmwareGet_safe {r : Request} (hr : r ≠ .sigchld) (b : Body) (hw : Locked False w) :
    (Firmware.get sys b).Safe (rules sys r) (fun _ _ v => Locked False v) t w :=
  quiet_safe hr ((built_firmwareGet b).mono fun _ h => h.quiet) hw

structure Forked (pid : ℤ) (w : World) : Prop where
  sole : Sole False pid w
  downloading : w.memory.downloading = false

lemma stable_forked (r : Request) (t : Trace calls) : (rules sys r).Stable t (Forked pid) :=
  UpdateLock.stable (fun _ _ _ ha hv hw => ⟨hw.sole.act ha hv, (act_memory hv) ▸ hw.downloading⟩) r t

lemma Normal.forked (h : Normal w) :
    Forked pid { w with installers := w.installers ++ [⟨pid, .running false⟩] } := by
  refine ⟨⟨fun p hp => ⟨?_, h.upgrade⟩, False.elim⟩, h.downloading⟩
  rcases List.mem_append.mp hp with hp | hp
  · exact absurd hp (h.unwritten p)
  · exact (Installer.mk.inj (List.mem_singleton.mp hp)).1

structure Flagged (pid : ℤ) (w : World) : Prop where
  sole : Sole False pid w
  downloading : w.memory.downloading = true

lemma stable_flagged (r : Request) (t : Trace calls) : (rules sys r).Stable t (Flagged pid) :=
  UpdateLock.stable (fun _ _ _ ha hv hw => ⟨hw.sole.act ha hv, (act_memory hv) ▸ hw.downloading⟩) r t

lemma download_safe {r : Request} (uri : Bytes) (hw : Normal w) :
    (download sys uri).Safe (rules sys r) (fun _ _ v => Locked False v) t w := by
  rw [download_eq]
  refine .of_call (stable_normal r t) hw (fun v hv => ⟨sound_locked hv.locked, hv⟩) fun v id u hv ha => ?_
  obtain ⟨o, -, ha⟩ := answers_elim ha
  rcases answer_fork ha with ⟨hid, rfl⟩ | ⟨hid, -, rfl⟩
  · rw [if_pos hid]
    exact done_safe r id hv.locked
  · rw [if_neg (not_lt.mpr hid.le)]
    refine .of_call (stable_forked r _) hv.forked (fun v hv => ⟨⟨_, hv.sole⟩, hv.downloading⟩) fun v x u hv ha => ?_
    obtain ⟨o, -, ha⟩ := answers_elim ha
    obtain rfl : u = v.store .downloading true := answer_store ha
    have hf : Flagged id (v.store .downloading true) := ⟨hv.sole.of_eq rfl rfl, rfl⟩
    refine .of_call (stable_flagged r _) hf (fun v hv => ⟨⟨_, hv.sole⟩, trivial⟩) fun v x u hv ha => ?_
    obtain ⟨o, -, ha⟩ := answers_elim ha
    obtain rfl : u = v.store .childPid id := answer_store ha
    have hl : Locked False (v.store .childPid id) := ⟨hv.sole.of_eq rfl rfl, fun _ _ => hv.downloading⟩
    refine .of_call (stable_locked r _) hl (fun v hv => ⟨sound_locked hv, trivial⟩) fun v x u hv ha => ?_
    obtain ⟨o, -, ha⟩ := answers_elim ha
    obtain rfl : u = { v with registered := false } := answer_replaceSignalEvent ha
    refine .of_call (stable_locked r _) (hv.of_eq rfl rfl rfl rfl) (fun v hv => ⟨sound_locked hv, trivial⟩)
      fun v x u hv ha => ?_
    obtain ⟨o, -, ha⟩ := answers_elim ha
    apply done_safe
    rcases answer_addSignalEvent ha with ⟨-, -, rfl⟩ | ⟨-, -, -, rfl⟩
    · exact hv.of_eq rfl rfl rfl rfl
    · exact hv

lemma accept_safe {r : Request} (hr : r ≠ .sigchld) (body : Body) (hw : Normal w) :
    (Firmware.accept sys body).Safe (rules sys r) (fun _ _ v => Locked False v) t w := by
  unfold Firmware.accept
  split
  · split
    · exact done_safe r _ hw.locked
    · next uri _ =>
      rw [Firmware.start_eq]
      refine .of_call (stable_normal r t) hw (fun v hv => ⟨sound_locked hv.locked, trivial⟩) fun v x u hv ha => ?_
      obtain ⟨o, -, ha⟩ := answers_elim ha
      obtain rfl : u = v.store .uri uri.val := answer_store ha
      have hn : Normal (v.store .uri uri.val) := ⟨⟨NoneUnwritten.of_eq hv.unwritten rfl, hv.downloading⟩, hv.upgrade⟩
      refine .bind ((download_safe uri.val hn).mono fun pid t v hv => ?_)
      unfold Firmware.started
      split_ifs
      · exact done_safe r _ hv
      · exact firmwareGet_safe hr _ hv
    · exact done_safe r _ hw.locked
  · exact done_safe r _ hw.locked

lemma put_safe {r : Request} (hr : r ≠ .sigchld) (body : Body) (hw : Locked False w) :
    (Firmware.put sys body).Safe (rules sys r) (fun _ _ v => Locked False v) t w := by
  refine .bind ((firmwareState_told hr hw).mono fun s t v hv => ?_)
  cases s with
  | none => exact done_safe r _ hv.locked
  | some s =>
    dsimp only
    split_ifs with hs
    · exact done_safe r _ hv.locked
    · obtain rfl : s = FIRMWARE_STATE_NORMAL := not_not.mp hs
      exact accept_safe hr body (hv.normal rfl)

lemma commit_safe {r : Request} (hr : r ≠ .sigchld) (hw : Settled w) :
    (FirmwareCommit.commit sys).Safe (rules sys r) (fun _ _ v => Locked False v) t w := by
  refine .of_call (stable_settled r t) hw (fun v hv => ⟨sound_locked hv.locked, fun _ => hv⟩) fun v result u hv ha => ?_
  obtain ⟨o, -, ha⟩ := answers_elim ha
  have hl : Locked False u := by
    apply NoneUnwritten.locked
    apply NoneUnwritten.of_eq hv.unwritten
    rcases answer_shell ha with rfl | rfl | ⟨-, rfl⟩ | ⟨-, rfl⟩ <;> rfl
  change Program.Safe _ _ (if result = 0 then _ else _) _ _
  split_ifs
  · exact firmwareGet_safe hr _ hl
  · exact done_safe r _ hl

lemma commitPut_safe {r : Request} (hr : r ≠ .sigchld) (body : Body) (hw : Locked False w) :
    (FirmwareCommit.put sys body).Safe (rules sys r) (fun _ _ v => Locked False v) t w := by
  refine .bind ((firmwareState_told hr hw).mono fun s t v hv => ?_)
  cases s with
  | none => exact done_safe r _ hv.locked
  | some s =>
    dsimp only
    split_ifs with hs
    · exact done_safe r _ hv.locked
    · apply commit_safe hr
      rcases Classical.not_and_iff_not_or_not.mp hs with hs | hs
      · exact (hv.normal (congrArg some (not_not.mp hs))).toSettled
      · exact hv.uncommitted (congrArg some (not_not.mp hs))

lemma message_safe (s : Bytes) (hw : Locked False w) :
    (Program.call (S := calls) (.store .debugMessage s) .done).Safe (rules sys .sigchld) (fun _ _ v => Locked False v) t w := by
  refine .of_call (stable_locked _ _) hw (fun v hv => ⟨sound_locked hv, trivial⟩) fun v x y hv ha => ?_
  obtain ⟨o, -, ha⟩ := answers_elim ha
  exact done_safe _ _ (hv.kept (answer_quiet (c := .store .debugMessage _) trivial ha))

lemma onSigchld_safe (hw : Locked False w) :
    onSigchld.Safe (rules sys .sigchld) (fun _ _ v => Locked False v) t w := by
  rw [onSigchld_eq]
  refine .of_call (stable_locked _ _) hw (fun v hv => ⟨sound_locked hv, trivial⟩) fun v pid u hv ha => ?_
  obtain ⟨o, -, ha⟩ := answers_elim ha
  obtain ⟨rfl, rfl⟩ := answer_load ha
  refine .of_call ((stable_locked _ _).and (stable_memory (fun m => m.childPid = u.memory.childPid) _ _)) ⟨hv, rfl⟩
    (fun v hv => ⟨sound_locked hv.1, trivial⟩) fun v x y hv ha => ?_
  obtain ⟨o, -, ha⟩ := answers_elim ha
  rcases answer_waitid_cases ha with ⟨rfl, -, rfl⟩ | ⟨rfl, -, rfl⟩ | ⟨how, rfl, -, rfl⟩
  · refine .of_call (stable_locked _ _) hv.1 (fun v hv => ⟨sound_locked hv, trivial⟩) fun v shown y hv ha => ?_
    obtain ⟨o, -, ha⟩ := answers_elim ha
    obtain ⟨-, rfl⟩ := answer_load ha
    exact message_safe _ hv
  · exact done_safe _ _ hv.1
  · have hreaped := (hv.1.reaped hv.2).unwritten
    refine .of_call (P := NoneUnwritten) (UpdateLock.stable (fun _ _ _ _ hv hw => hw.act hv) _ _) hreaped
      (fun v hv => ⟨NoneUnwritten.sound hv, hv⟩) fun v x y hv ha => ?_
    obtain ⟨o, -, ha⟩ := answers_elim ha
    obtain rfl : y = v.store .downloading false := answer_store ha
    refine .of_call (P := NoneUnwritten) (UpdateLock.stable (fun _ _ _ _ hv hw => hw.act hv) _ _)
      (NoneUnwritten.of_eq hv rfl) (fun v hv => ⟨NoneUnwritten.sound hv, trivial⟩) fun v x y hv ha => ?_
    obtain ⟨o, -, ha⟩ := answers_elim ha
    obtain rfl : y = { v with registered := false } := answer_deleteSignalEvent ha
    exact message_safe _ (NoneUnwritten.locked (NoneUnwritten.of_eq hv rfl))

theorem contract (sys : System) : Server.Contract (limits sys False) (Locked False) Sound (allowed sys) where
  always_of_idle _ hw := sound_locked hw
  act a w v hw ha hv := hw.act ha.1 hv
  serve r w v hw ha := by
    cases r with
    | sigchld =>
      simp only [acceptRequest] at ha
      split_ifs at ha
      obtain rfl : { w with caught := false } = v := Option.some.inj ha
      have hl : Locked False { w with caught := false } := hw.of_eq rfl rfl rfl rfl
      exact (onSigchld_safe hl).map
    | http m path body =>
      obtain rfl : w = v := Option.some.inj ha
      have hr : Request.http m path body ≠ .sigchld := Request.noConfusion
      cases (handler_cases (.http m path body) : HandlerCases sys _) with
      | quiet hq => exact quiet_safe hr hq hw
      | install hh =>
        simp only [hh]
        exact (put_safe hr body hw).map
      | commit hh =>
        simp only [hh]
        exact (commitPut_safe hr body hw).map

end handlers

section runs

def writerOf (w : World) : Option ℤ := (w.installers.find? Installer.unwritten).map Installer.pid

def Life.of (w : World) : Life := ⟨w.env.upgradeText = some (bytes "1"), w.memory.downloading, writerOf w⟩

def callEvents (sys : System) (r : Request) : Call → Outcome → List Event
  | .fork _, .forked pid => [.fork pid]
  | .store .downloading flag, _ => if flag then [.flag] else
      match r with
      | .sigchld => [.reap]
      | .http .. => [.unflag]
  | .shell command, .done | .shell command, .partly _ => if command = sys.chroot ++ COMMAND_MENDER_COMMIT then [.commit] else []
  | _, _ => []

def actEvents : Act → List Event
  | .write pid => [.write pid]
  | .exit pid _ => [.exit pid]
  | _ => []

def events (c : (daemon sys).Config) : (daemon sys).Label → List Event
  | .move (.act a) => actEvents a
  | .move (.answer o) =>
    match c.thread with
    | some ⟨r, _, .call k _⟩ => callEvents sys r k o
    | _ => []
  | _ => []

lemma unwritten_iff {i : Installer} : i.unwritten = true ↔ i = ⟨i.pid, .running false⟩ := by
  rcases i with ⟨pid, s⟩
  simp [Installer.unwritten]

lemma writer_eq_some (h : Sound w) : writerOf w = some p ↔ w.Unwritten p := by
  obtain ⟨pid, h⟩ := h
  constructor
  · intro hp
    obtain ⟨i, hi, rfl⟩ := Option.map_eq_some_iff.mp hp
    have hmem := List.mem_of_find?_eq_some hi
    rw [unwritten_iff.mp (List.find?_some hi)] at hmem
    exact hmem
  · intro hp
    cases hf : w.installers.find? Installer.unwritten with
    | none => simpa [Installer.unwritten] using List.find?_eq_none.mp hf _ hp
    | some i =>
      have hmem := List.mem_of_find?_eq_some hf
      rw [unwritten_iff.mp (List.find?_some hf)] at hmem
      rw [writerOf, hf, Option.map_some, (h.unwritten _ hmem).1, (h.unwritten _ hp).1]

lemma writer_eq_none (h : NoneUnwritten w) : writerOf w = none := by
  refine Option.eq_none_iff_forall_ne_some.mpr fun p hp => ?_
  exact h p ((writer_eq_some (NoneUnwritten.sound h)).mp hp)

lemma writer_eq (h : Sound w) {x : Option ℤ} (hx : ∀ p, x = some p ↔ w.Unwritten p) : writerOf w = x :=
  Option.ext fun p => (writer_eq_some h).trans (hx p).symm

lemma of_eq (he : v.env.upgradeText = w.env.upgradeText) (hd : v.memory.downloading = w.memory.downloading)
    (hw : writerOf v = writerOf w) : Life.of v = Life.of w := by
  rw [Life.of, he, hd, hw, ← Life.of]

lemma of_kept (h : Kept w v) : Life.of v = Life.of w := by
  apply of_eq
  · rw [h.env]
  · exact h.downloading
  · rw [writerOf, h.installers, ← writerOf]

def Distinct (w : World) : Prop := (w.installers.map Installer.pid).Nodup

lemma pids_setState (pid : ℤ) (s : InstallerState) (l : List Installer) :
    (setState pid s l).map Installer.pid = l.map Installer.pid := by
  rw [setState, List.map_map]
  apply List.map_congr_left
  intro i _
  by_cases h : i.pid = pid
  · simp [h]
  · simp [h]

lemma act_distinct {a : Act} (h : act a w = some v) (hw : Distinct w) : Distinct v := by
  cases act_cases h with
  | write _ hv | exit _ hv =>
    subst hv
    rw [Distinct, pids_setState]
    exact hw
  | sigchld hv | dropSigchld _ hv | setBootcount hv | setEnv hv => exact hv ▸ hw

lemma answer_installers {c : Call} {r : c.Reply} (hf : ∀ command, c ≠ .fork command) (hw : ∀ pid, c ≠ .waitid pid)
    (h : answer sys c o w = some (r, v)) : v.installers = w.installers := by
  by_cases hq : c.Quiet sys
  · exact (answer_quiet hq h).installers
  · cases c with
    | fork command => exact absurd rfl (hf command)
    | waitid pid => exact absurd rfl (hw pid)
    | shell command => rcases answer_shell h with rfl | rfl | ⟨-, rfl⟩ | ⟨-, rfl⟩ <;> rfl
    | store f x => rw [answer_store h, World.store]
    | replaceSignalEvent => rw [answer_replaceSignalEvent h]
    | deleteSignalEvent => rw [answer_deleteSignalEvent h]
    | addSignalEvent => rcases answer_addSignalEvent h with ⟨-, -, rfl⟩ | ⟨-, -, -, rfl⟩ <;> rfl
    | _ => exact absurd trivial hq

lemma answer_distinct {c : Call} {r : c.Reply} (h : answer sys c o w = some (r, v)) (hw : Distinct w) : Distinct v := by
  by_cases hf : ∀ command, c ≠ .fork command
  · by_cases hp : ∀ pid, c ≠ .waitid pid
    · rw [Distinct, answer_installers hf hp h]
      exact hw
    · push Not at hp
      obtain ⟨pid, rfl⟩ := hp
      rcases answer_waitid_cases h with ⟨-, -, rfl⟩ | ⟨-, -, rfl⟩ | ⟨how, -, -, rfl⟩
      · exact hw
      · exact hw
      · exact hw.sublist (List.filter_sublist.map _)
  · push Not at hf
    obtain ⟨command, rfl⟩ := hf
    rcases answer_fork h with ⟨-, rfl⟩ | ⟨-, hn, rfl⟩
    · exact hw
    · rw [Distinct, List.map_append, List.map_singleton, List.nodup_append]
      refine ⟨hw, List.nodup_singleton _, fun a ha b hb => ?_⟩
      obtain ⟨i, hi, rfl⟩ := List.mem_map.mp ha
      rw [List.mem_singleton.mp hb]
      simpa using List.find?_eq_none.mp hn i hi

lemma unwritten_of_zombie {how : Exit} (hw : Distinct w) (hf : w.find pid = some ⟨pid, .zombie how⟩) : ¬ w.Unwritten pid := by
  intro hp
  have hz : (⟨pid, .zombie how⟩ : Installer) ∈ w.installers := List.mem_of_find?_eq_some hf
  have he := List.inj_on_of_nodup_map hw hp hz rfl
  simp at he

lemma run_one {l m : Life} {e : Event} (h : l.after e = some m) : life.run l [e] = some m :=
  (Machine.run_singleton (M := life) l e).trans h

lemma act_refines {a : Act} (hw : Sound w) (hv : Sound v) (ha : KeepsUpgrade a) (h : act a w = some v) :
    life.run (Life.of w) (actEvents a) = some (Life.of v) := by
  have hfade := act_fades h
  cases act_cases h with
  | @write pid hf he =>
    obtain ⟨hp, -, -, -⟩ := act_write h
    obtain ⟨q, hs⟩ := hw
    apply run_one
    rw [after_write]
    refine ⟨decide_eq_false (hs.unwritten pid hp).2, (writer_eq_some ⟨q, hs⟩).mpr hp, ?_⟩
    have hnone : NoneUnwritten v := by
      intro p hu
      have hpq := (hs.unwritten p (hfade.unwritten p hu)).1.trans (hs.unwritten pid hp).1.symm
      exact (act_write h).2.1 (hpq ▸ hu)
    have hset : Life.of v = ⟨true, v.memory.downloading, none⟩ := by
      rw [Life.of, writer_eq_none hnone, (act_write h).2.2.1, Env.upgradeText_installed, decide_eq_true rfl]
    rw [hset, act_memory h]
    rfl
  | @exit pid how hf he =>
    apply run_one
    rw [after_exit]
    have hwriter : writerOf v = if writerOf w = some pid then none else writerOf w := by
      refine writer_eq hv fun p => ?_
      have hu : v.Unwritten p ↔ w.Unwritten p ∧ p ≠ pid := by
        subst he
        constructor
        · intro hp
          rcases mem_setState hp with hp | ⟨hne, hp⟩
          · simp at hp
          · exact ⟨hp, hne⟩
        · rintro ⟨hp, hne⟩
          exact List.mem_map.mpr ⟨_, hp, if_neg hne⟩
      rw [hu, ← writer_eq_some hw]
      split_ifs with hx
      · refine iff_of_false (by simp) fun ⟨hp, hne⟩ => hne ?_
        exact Option.some.inj (hp.symm.trans hx)
      · exact ⟨fun hp => ⟨hp, fun hpq => hx (hpq ▸ hp)⟩, fun hp => hp.1⟩
    rw [Life.of, hwriter, act_memory h]
    subst he
    rfl
  | sigchld he | dropSigchld _ he | setBootcount he =>
    subst he
    rfl
  | setEnv he => exact absurd rfl (ha _)

lemma fork_refines {command : Bytes} {x : ℤ} (r : Request) (hv : Sound v) (hn : Normal w)
    (h : answer sys (.fork command) o w = some (x, v)) :
    life.run (Life.of w) (callEvents sys r (.fork command) o) = some (Life.of v) := by
  cases o with
  | failed errno =>
    rw [← (Prod.mk.inj (Option.some.inj h)).2]
    rfl
  | forked pid =>
    simp only [answer, answerFork, Option.ite_none_right_eq_some, Option.some.injEq, Prod.mk.injEq] at h
    obtain ⟨-, -, rfl⟩ := h
    have hwriter : writerOf { w with installers := w.installers ++ [⟨pid, .running false⟩] } = some pid := by
      refine writer_eq hv fun p => ⟨fun hp => ?_, fun hp => ?_⟩
      · obtain rfl := Option.some.inj hp
        exact List.mem_append_right _ (List.mem_singleton_self _)
      · rcases List.mem_append.mp hp with hp | hp
        · exact absurd hp (hn.unwritten p)
        · exact congrArg some (Installer.mk.inj (List.mem_singleton.mp hp)).1.symm
    apply run_one
    rw [after_fork]
    refine ⟨decide_eq_false hn.upgrade, hn.downloading, writer_eq_none hn.unwritten, ?_⟩
    rw [Life.of, hwriter]
    rfl
  | _ => simp [answer, answerFork] at h

lemma upgradeText_commit (e : Env) : e.commit.upgradeText = some (bytes "0") := by
  have h : Env.upgradeText ⟨none, some (bytes "0")⟩ = some (bytes "0") := by decide
  exact h

lemma of_committed (hw : Settled w) (h : v = { w.raise with env := w.env.commit }) :
    life.run (Life.of w) [.commit] = some (Life.of v) := by
  apply run_one
  rw [after_commit]
  refine ⟨hw.downloading, writer_eq_none hw.unwritten, ?_⟩
  subst h
  rw [Life.of, upgradeText_commit, decide_eq_false (by decide)]
  rfl

lemma shell_refines {command : Bytes} {x : ℤ} (r : Request) (hw : command = sys.chroot ++ COMMAND_MENDER_COMMIT → Settled w)
    (h : answer sys (.shell command) o w = some (x, v)) :
    life.run (Life.of w) (callEvents sys r (.shell command) o) = some (Life.of v) := by
  cases o with
  | failed errno =>
    rw [← (Prod.mk.inj (Option.some.inj h)).2]
    rfl
  | done =>
    simp only [answer, answerShell] at h
    rw [callEvents]
    split_ifs at h ⊢ with hc hr
    · exact of_committed (hw hc) (Prod.mk.inj (Option.some.inj h)).2.symm
    · rw [← (Prod.mk.inj (Option.some.inj h)).2]
      rfl
    · rw [← (Prod.mk.inj (Option.some.inj h)).2]
      rfl
  | partly n =>
    simp only [answer, answerShell] at h
    rw [callEvents]
    split_ifs at h ⊢ with hc
    exact of_committed (hw hc) (Prod.mk.inj (Option.some.inj h)).2.symm
  | reply output status =>
    simp only [answer, answerShell] at h
    split_ifs at h
    rw [← (Prod.mk.inj (Option.some.inj h)).2]
    rfl
  | _ => simp [answer, answerShell] at h

lemma answer_refines {r : Request} {t : Trace calls} {k : Call} {x : k.Reply} (hw : Sound w) (hv : Sound v) (hd : Distinct w)
    (hg : allowed sys r t k w) (h : answer sys k o w = some (x, v)) :
    life.run (Life.of w) (callEvents sys r k o) = some (Life.of v) := by
  cases k with
  | fork command => exact fork_refines r hv hg h
  | shell command => exact shell_refines r hg h
  | store f y =>
    obtain rfl := answer_store h
    cases f with
    | downloading =>
      have hwriter : writerOf (w.store .downloading y) = writerOf w := rfl
      cases y with
      | true =>
        have hdown : w.memory.downloading = false := hg
        apply run_one
        rw [after_flag]
        exact ⟨hdown, rfl⟩
      | false =>
        cases r with
        | sigchld =>
          have hnone : NoneUnwritten w := hg
          apply run_one
          rw [after_reap]
          exact ⟨writer_eq_none hnone, rfl⟩
        | http m path body =>
          have hup : w.env.upgradeText = some (bytes "1") := hg
          apply run_one
          rw [after_unflag]
          exact ⟨decide_eq_true hup, rfl⟩
    | _ => rfl
  | waitid pid =>
    rcases answer_waitid_cases h with ⟨-, -, rfl⟩ | ⟨-, -, rfl⟩ | ⟨how, -, hf, rfl⟩
    · rfl
    · rfl
    · have hwriter : writerOf { w with installers := w.installers.filter fun p => p.pid ≠ pid } = writerOf w := by
        refine writer_eq hv fun p => ?_
        rw [writer_eq_some hw]
        refine ⟨fun hp => List.mem_filter.mpr ⟨hp, ?_⟩, fun hp => (List.mem_filter.mp hp).1⟩
        have hne : p ≠ pid := by
          rintro rfl
          exact unwritten_of_zombie hd hf hp
        simpa using hne
      have hlife : Life.of { w with installers := w.installers.filter fun p => p.pid ≠ pid } = Life.of w := of_eq rfl rfl hwriter
      rw [hlife]
      rfl
  | replaceSignalEvent =>
    rw [answer_replaceSignalEvent h]
    rfl
  | deleteSignalEvent =>
    rw [answer_deleteSignalEvent h]
    rfl
  | addSignalEvent =>
    rcases answer_addSignalEvent h with ⟨-, -, rfl⟩ | ⟨-, -, -, rfl⟩ <;> rfl
  | popen command => exact congrArg some (of_kept (answer_popen_kept h)).symm
  | abort a => exact (answer_abort h).elim
  | emptyOptional =>
    rw [(answer_emptyOptional h).2]
    rfl
  | load f =>
    rw [(answer_load h).2]
    rfl
  | _ =>
    obtain ⟨fs, rfl⟩ := answer_fileCall rfl h
    rfl

lemma call_events {c : (daemon sys).Config} {r : Request} {t : Trace calls} {k : Call} {next : k.Reply → Prog (Option Resp)}
    (ht : c.thread = some ⟨r, t, .call k next⟩) : events c (.move (.answer o)) = callEvents sys r k o := by
  rw [events, ht]

variable {c d : (daemon sys).Config} {ls : List (daemon sys).Label}

lemma sound_of_reachable (hc : Server.Reachable (IsInitial sys) (limits sys False).ok c) : Sound c.world :=
  (contract sys).invariant (fun _ => idle_of_initial) hc

lemma distinct_of_reachable {ok : (daemon sys).Config → (daemon sys).Label → Prop}
    (hc : Server.Reachable (IsInitial sys) ok c) : Distinct c.world := by
  refine hc.induct (I := fun c => Distinct c.world) (fun c hinit => ?_) fun c d l hd _ hst => ?_
  · obtain ⟨env, files, rfl⟩ := hinit
    exact List.nodup_nil
  · rcases Server.Config.step_cases hst with ⟨r, w, -, -, hw, rfl⟩ | ⟨r, k, a, -, -, rfl⟩ | ⟨t, m, s, -, -, hm, rfl⟩ |
      ⟨a, w, -, -, hw, rfl⟩
    · cases r with
      | http m path body =>
        obtain rfl : c.world = w := Option.some.inj hw
        exact hd
      | sigchld =>
        simp only [acceptRequest] at hw
        split_ifs at hw
        obtain rfl := Option.some.inj hw
        exact hd
    · exact hd
    · cases m with
      | act a =>
        obtain ⟨w, hw, rfl⟩ := Session.move_act hm
        exact act_distinct hw hd
      | answer o =>
        obtain ⟨q, next, x, w, -, hw, rfl⟩ := Session.move_answer hm
        exact answer_distinct hw hd
    · exact act_distinct hw hd

lemma step_refines {l : (daemon sys).Label} (hc : Server.Reachable (IsInitial sys) (limits sys False).ok c)
    (hok : (limits sys False).ok c l) (h : c.step l = some d) :
    life.run (Life.of c.world) (events c l) = some (Life.of d.world) := by
  have hw := sound_of_reachable hc
  have hv := sound_of_reachable (hc.step hok h)
  cases l with
  | start r =>
    obtain ⟨-, w, hw, rfl⟩ := Server.Config.step_start h
    cases r with
    | http m path body => exact congrArg (fun w => some (Life.of w)) (Option.some.inj hw)
    | sigchld =>
      simp only [acceptRequest] at hw
      split_ifs at hw
      rw [← Option.some.inj hw]
      rfl
  | finish =>
    obtain ⟨r, k, a, -, rfl⟩ := Server.Config.step_finish h
    rfl
  | move m =>
    cases m with
    | act a =>
      obtain ⟨w, ha, rfl⟩ := Server.Config.step_act h
      have hlawful : Lawful False a ∧ _ := hok
      exact act_refines hw hv hlawful.1.1 ha
    | answer o =>
      obtain ⟨r, t, k, next, x, w, ht, ha, rfl⟩ := Server.Config.step_answer h
      have hg : allowed sys r t k c.world := (contract sys).guard (fun _ => idle_of_initial) hc ht
      rw [call_events ht]
      exact answer_refines hw hv (distinct_of_reachable hc) hg ha

lemma ok_of_keeps (h : ∀ a, .move (.act a) ∈ ls → KeepsUpgrade a) : ∀ l ∈ ls, ∀ c, (limits sys False).ok c l := by
  intro l hl c
  cases l with
  | start r => trivial
  | finish => trivial
  | move m =>
    cases m with
    | act a => exact ⟨⟨h a hl, False.elim⟩, False.elim⟩
    | answer o =>
      simp only [Server.Limits.ok]
      split <;> trivial

variable {env : Env} {files : Files}

theorem runs_refine (hk : ∀ e, .move (.act (.setEnv e)) ∉ ls) (h : (initial sys env files).run ls = some c) :
    life.run (Life.of (World.initial env files)) ((initial sys env files).events events ls) = some (Life.of c.world) ∧
      Orderly ((initial sys env files).events events ls) := by
  have hkeeps : ∀ a, .move (.act a) ∈ ls → KeepsUpgrade a := fun a ha e he => hk e (he ▸ ha)
  have hinit : Server.Reachable (IsInitial sys) (limits sys False).ok (initial sys env files) := .init ⟨env, files, rfl⟩
  have hrun := hinit.refines (M := life) (fun c => Life.of c.world) (fun _ _ _ => step_refines) (ok_of_keeps hkeeps) h
  exact ⟨hrun, orderly_of_run hrun rfl⟩

end runs

section samples

open Sample

-- The installer is forked, writes and ends; after a reboot the update is committed.
def wholeLife : List (daemon bare).Label :=
  updating ++ [acted (.write 7), acted (.exit 7 (.exited 0)), .start .sigchld] ++ done 5 ++
    [.finish, acted (.setBootcount (some (bytes "1"))), .start (.http .put URI_FIRMWARE_COMMIT none)] ++ done 10 ++ [.finish]

lemma wholeLife_keeps (e : Env) : .move (.act (.setEnv e)) ∉ wholeLife := by
  simp [wholeLife, updating, done, answered, acted]

set_option maxRecDepth 100000 in
lemma run_wholeLife : ∃ c, first.run wholeLife = some c ∧
    first.events events wholeLife = [.fork 7, .flag, .write 7, .exit 7, .reap, .unflag, .commit] := by
  have h : (first.run wholeLife).isSome = true := by decide
  obtain ⟨c, hc⟩ := Option.isSome_iff_exists.mp h
  exact ⟨c, hc, by decide⟩

theorem runs_refine_wholeLife : ∃ c, first.run wholeLife = some c ∧ life.run (Life.of (World.initial committed fun _ => none))
    [.fork 7, .flag, .write 7, .exit 7, .reap, .unflag, .commit] = some (Life.of c.world) := by
  obtain ⟨c, hc, he⟩ := run_wholeLife
  have h := (runs_refine wholeLife_keeps hc).1
  exact ⟨c, hc, he ▸ h⟩

end samples

end RouterCard.Captived.LifeCycle

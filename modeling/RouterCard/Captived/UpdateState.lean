import RouterCard.Captived.Answers
import RouterCard.Captived.Daemon

/-! The update state that one call of `firmware_state` reports, when the installer
may write the environment before, between and after its two reads. -/

namespace RouterCard.Captived

open Text Interaction FirmwareManager

def Env.bootcountText (e : Env) : Option Bytes :=
  envValue FIRMWARE_ENV_BOOT_COUNT (printVariable FIRMWARE_ENV_BOOT_COUNT e.bootcount).result

def Env.upgradeText (e : Env) : Option Bytes :=
  envValue FIRMWARE_ENV_UPGRADE_AVAIL (printVariable FIRMWARE_ENV_UPGRADE_AVAIL e.upgradeAvailable).result

def stateText (n : ℤ) (upgradeAvail : Bytes) (downloading : Bool) : Bytes :=
  if upgradeAvail = bytes "1" then if n = 0 then FIRMWARE_STATE_DOWNLOADED else FIRMWARE_STATE_UNCOMMITTED
  else if downloading then FIRMWARE_STATE_DOWNLOADING else FIRMWARE_STATE_NORMAL

def decisionTable (downloading : Bool) (e : Env) : Option Bytes := do
  let bootcount ← e.bootcountText
  let upgradeAvail ← e.upgradeText
  let n ← (Text.stoi bootcount).toOption
  return stateText n upgradeAvail downloading

def Env.Stale (e : Env) : Prop :=
  ∃ b n, e.bootcountText = some b ∧ Text.stoi b = .ok n ∧ n ≠ 0 ∧ e.upgradeText ≠ some (bytes "1")

lemma Env.bootcountText_installed : Env.installed.bootcountText = some (bytes "0") := by decide

lemma Env.upgradeText_installed : Env.installed.upgradeText = some (bytes "1") := by decide

lemma decisionTable_installed (d : Bool) : decisionTable d .installed = some FIRMWARE_STATE_DOWNLOADED := by
  cases d <;> decide

lemma Env.not_stale_installed : ¬ Env.installed.Stale := by
  rintro ⟨b, n, -, -, -, h⟩
  exact h upgradeText_installed

variable {sys : System} {w v : World} {o : Outcome}

lemma envValue_nil (envVar : Bytes) (n : ℤ) : envValue envVar (n, []) = none := by
  have hs : stripPrefix (envVar ++ bytes "=") [] = none := by
    rw [stripPrefix, if_neg]
    intro h
    have h0 := h.length_le
    simp [bytes] at h0
  simp [envValue, envPattern, search, matchHere, hs]

lemma answer_printenv {envVar command : Bytes} {p r : PopenReply} (hp : printenv sys command w.env = some p)
    (h : answer sys (.popen command) o w = some (r, v)) :
    r = p ∨ envValue envVar r.result = none := by
  cases o with
  | failed errno =>
    obtain ⟨rfl, -⟩ := Prod.mk.inj (Option.some.inj h)
    exact .inr (envValue_nil envVar errno)
  | done =>
    simp only [answer, answerPopen, hp, Option.map_some] at h
    exact .inl (Prod.mk.inj (Option.some.inj h)).1.symm
  | reply output status =>
    simp only [answer, answerPopen, hp, Option.isSome_some, true_and] at h
    split_ifs at h with hs
    obtain ⟨rfl, -⟩ := Prod.mk.inj (Option.some.inj h)
    refine .inr ?_
    by_cases h1 : status = -1
    · simp [envValue, spawned, PopenReply.result, h1, ECHILD]
    · simp [envValue, spawned, PopenReply.result, h1, hs]
  | _ => simp [answer, answerPopen] at h

lemma printenv_bootcount (e : Env) : printenv sys (sys.chroot ++ printenvCommand FIRMWARE_ENV_BOOT_COUNT) e =
    some (printVariable FIRMWARE_ENV_BOOT_COUNT e.bootcount) := if_pos rfl

lemma printenv_upgrade (e : Env) : printenv sys (sys.chroot ++ printenvCommand FIRMWARE_ENV_UPGRADE_AVAIL) e =
    some (printVariable FIRMWARE_ENV_UPGRADE_AVAIL e.upgradeAvailable) := by
  have hne : sys.chroot ++ printenvCommand FIRMWARE_ENV_UPGRADE_AVAIL ≠
      sys.chroot ++ printenvCommand FIRMWARE_ENV_BOOT_COUNT := by
    rw [ne_eq, List.append_cancel_left_eq]
    decide
  rw [printenv, if_neg hne, if_pos rfl]

lemma read_bootcount {r : PopenReply}
    (h : answer sys (.popen (sys.chroot ++ printenvCommand FIRMWARE_ENV_BOOT_COUNT)) o w = some (r, v)) :
    envValue FIRMWARE_ENV_BOOT_COUNT r.result = w.env.bootcountText ∨
      envValue FIRMWARE_ENV_BOOT_COUNT r.result = none := by
  rcases answer_printenv (printenv_bootcount w.env) h with rfl | h
  · exact .inl rfl
  · exact .inr h

lemma read_upgrade {r : PopenReply}
    (h : answer sys (.popen (sys.chroot ++ printenvCommand FIRMWARE_ENV_UPGRADE_AVAIL)) o w = some (r, v)) :
    envValue FIRMWARE_ENV_UPGRADE_AVAIL r.result = w.env.upgradeText ∨
      envValue FIRMWARE_ENV_UPGRADE_AVAIL r.result = none := by
  rcases answer_printenv (printenv_upgrade w.env) h with rfl | h
  · exact .inl rfl
  · exact .inr h

def NoSetEnv {sys : System} : Move (host sys) → Prop
  | .act a => a.setsEnv = false
  | .answer _ => True

lemma act_env {a : Act} (ha : a.setsEnv = false) (h : act a w = some v) :
    v.env = w.env ∨ v.env = .installed ∧ ∃ pid, a = .write pid := by
  cases act_cases h with
  | write hp hv => exact .inr ⟨hv ▸ rfl, _, rfl⟩
  | exit hp hv => exact .inl (hv ▸ rfl)
  | sigchld hv => exact .inl (hv ▸ rfl)
  | dropSigchld hr hv => exact .inl (hv ▸ rfl)
  | setBootcount | setEnv => simp [Act.setsEnv] at ha

lemma stateFrom_error {b : Bytes} {e : StoiError} (he : Text.stoi b = .error e) (u : Bytes) :
    stateFrom (some b) (some u) = abort (.stoi e) := by
  simp only [stateFrom, FirmwareManager.stoi, he, abort_bind]

lemma stateFrom_ok {b : Bytes} {n : ℤ} (hn : Text.stoi b = .ok n) (u : Bytes) : stateFrom (some b) (some u) =
    if u = bytes "1" then .call (S := calls) (.store .downloading false) fun _ => .done (some (stateText n u false))
    else .call (S := calls) (.load .downloading) fun d => .done (some (stateText n u d)) := by
  simp only [stateFrom, FirmwareManager.stoi, hn, Program.pure_eq, Program.done_bind, store_bind, stateText]
  split_ifs
  · rfl
  · rfl
  · refine congrArg (Program.call (S := calls) (.load .downloading)) (funext fun d : Bool => ?_)
    cases d <;> rfl

inductive StateCases (b u : Option Bytes) : Prog (Option Bytes) → Prop
  | unread : b = none ∨ u = none → StateCases b u (.done none)
  | thrown {e} : StateCases b u (abort (.stoi e))
  | upgraded {x n} : b = some x → Text.stoi x = .ok n → u = some (bytes "1") → StateCases b u
      (.call (S := calls) (.store .downloading false) fun _ => .done (some (stateText n (bytes "1") false)))
  | flagged {x n y} : b = some x → Text.stoi x = .ok n → u = some y → y ≠ bytes "1" → StateCases b u
      (.call (S := calls) (.load .downloading) fun d => .done (some (stateText n y d)))

lemma stateFrom_cases (b u : Option Bytes) : StateCases b u (stateFrom b u) := by
  cases b with
  | none => exact .unread (.inl rfl)
  | some b =>
    cases u with
    | none => exact .unread (.inr rfl)
    | some u =>
      cases hn : Text.stoi b with
      | error e =>
        rw [stateFrom_error hn]
        exact .thrown
      | ok n =>
        rw [stateFrom_ok hn]
        by_cases h1 : u = bytes "1"
        · rw [if_pos h1, h1]
          exact .upgraded rfl hn rfl
        · rw [if_neg h1]
          exact .flagged rfl hn rfl h1

lemma play_acts_memory {α : Type} {s s' : Session (host sys) α} {ms : List (Move (host sys))}
    (hms : ∀ m ∈ ms, m.isAct = true) (h : s.play ms = some s') : s'.world.memory = s.world.memory :=
  Session.play_acts_invariant (I := fun x : World => x.memory = s.world.memory) (K := fun _ => True)
    (fun _ _ _ _ hx hI => (act_memory hx).trans hI) hms (fun _ _ => trivial) h rfl

lemma stateFrom_result {t t' : Trace calls} {ms : List (Move (host sys))} {bootcount upgradeAvail : Option Bytes}
    {s : Bytes} (h : (⟨t, stateFrom bootcount upgradeAvail, w⟩ : Session (host sys) (Option Bytes)).play ms =
      some ⟨t', .done (some s), v⟩) :
    ∃ b u n, bootcount = some b ∧ upgradeAvail = some u ∧ Text.stoi b = .ok n ∧
      s = stateText n u w.memory.downloading := by
  have hc := stateFrom_cases bootcount upgradeAvail
  generalize stateFrom bootcount upgradeAvail = p at hc h
  cases hc with
  | unread => cases (Session.play_done h).2.2
  | thrown =>
    obtain ⟨-, -, -, -, r, -⟩ := Session.play_call h
    exact r.elim
  | @upgraded x n hb hn hu =>
    obtain ⟨pre, o, post, v', r, y, -, -, -, -, hp⟩ := Session.play_call h
    have hs := (Session.play_done hp).2.2
    obtain rfl : s = stateText n (bytes "1") false := by simpa using hs
    exact ⟨x, _, n, hb, hu, hn, by rw [stateText, stateText, if_pos rfl, if_pos rfl]⟩
  | @flagged x n u hb hn hu =>
    obtain ⟨pre, o, post, v', r, y, -, hpre, hw, hr, hp⟩ := Session.play_call h
    have hs := (Session.play_done hp).2.2
    obtain rfl : s = stateText n u r := by simpa using hs
    have hm := play_acts_memory hpre hw
    refine ⟨x, u, n, hb, hu, hn, ?_⟩
    rw [(answer_load hr).1, hm]
    rfl

variable (sys w) in
def stateCall : Session (host sys) (Option Bytes) := ⟨[], firmwareState sys, w⟩

variable (sys w) in
def Consistent (ms : List (Move (host sys))) (s : Bytes) : Prop :=
  ∃ pre post x, ms = pre ++ post ∧ (stateCall sys w).play pre = some x ∧
    decisionTable w.memory.downloading x.world.env = some s

-- The installer's write lands after the first read and before the second.
variable (sys w) in
def Torn (ms : List (Move (host sys))) : Prop :=
  ∃ pre o mid pid post x, ms = pre ++ .answer o :: (mid ++ .act (.write pid) :: post) ∧
    (∀ m ∈ pre, m.isAct = true) ∧ (∀ m ∈ mid, m.isAct = true) ∧
    (stateCall sys w).play (pre ++ .answer o :: mid) = some x ∧ x.world.env.Stale

lemma answer_popen_frame {command : Bytes} {r : PopenReply} (h : answer sys (.popen command) o w = some (r, v)) :
    v.memory = w.memory ∧ v.env = w.env := by
  rcases answer_popen h with ⟨-, rfl⟩ | ⟨-, rfl⟩ <;> exact ⟨rfl, rfl⟩

lemma act_env_cases {a : Act} {e : Env} {w v : World} (ha : a.setsEnv = false) (h : act a w = some v)
    (hw : w.env = e ∨ w.env = .installed) : v.env = e ∨ v.env = .installed := by
  rcases act_env ha h with he | ⟨he, -⟩
  · exact hw.imp he.trans he.trans
  · exact .inr he

lemma noSetEnv_act {ms : List (Move (host sys))} (hne : ∀ m ∈ ms, NoSetEnv m) (a : Act) (ha : .act a ∈ ms) :
    a.setsEnv = false := hne _ ha

lemma writes_env {α : Type} {x x' : Session (host sys) α} {ms : List (Move (host sys))}
    (hms : ∀ m ∈ ms, m.isAct = true) (hne : ∀ m ∈ ms, NoSetEnv m) (h : x.play ms = some x') :
    x'.world.env = x.world.env ∨ x'.world.env = .installed :=
  Session.play_acts_invariant (I := fun y : World => y.env = x.world.env ∨ y.env = .installed)
    (fun _ _ _ => act_env_cases) hms (noSetEnv_act hne) h (.inl rfl)

lemma first_write {α : Type} {x x' : Session (host sys) α} {ms : List (Move (host sys))}
    (hms : ∀ m ∈ ms, m.isAct = true) (hne : ∀ m ∈ ms, NoSetEnv m) (h : x.play ms = some x') :
    x'.world.env = x.world.env ∨ x'.world.env = .installed ∧ ∃ pre pid post y,
      ms = pre ++ .act (.write pid) :: post ∧ x.play pre = some y ∧ y.world.env = x.world.env := by
  induction ms generalizing x with
  | nil => exact .inl (Option.some.inj h ▸ rfl)
  | cons m ms ih =>
    obtain ⟨y, hy, hp⟩ := Option.bind_eq_some_iff.mp h
    have hms' : ∀ m ∈ ms, m.isAct = true := fun n hn => hms n (.tail m hn)
    have hne' : ∀ m ∈ ms, NoSetEnv m := fun n hn => hne n (.tail m hn)
    cases m with
    | answer o => exact absurd (hms _ (.head ms)) Bool.false_ne_true
    | act a =>
      obtain ⟨u, hu, rfl⟩ := Session.move_act hy
      rcases act_env (hne _ (.head ms)) hu with he | ⟨he, pid, rfl⟩
      · rcases ih hms' hne' hp with hx | ⟨hx, pre, pid, post, z, rfl, hz, hze⟩
        · exact .inl (hx.trans he)
        · refine .inr ⟨hx, .act a :: pre, pid, post, z, rfl, ?_, hze.trans he⟩
          rw [Session.play_cons, hy]
          exact hz
      · refine .inr ⟨?_, [], pid, ms, x, rfl, rfl, rfl⟩
        rcases writes_env hms' hne' hp with hx | hx
        · exact hx.trans he
        · exact hx

lemma written_env {α : Type} {x x' : Session (host sys) α} {ms : List (Move (host sys))} {pid : ℤ}
    (hms : ∀ m ∈ ms, m.isAct = true) (hne : ∀ m ∈ ms, NoSetEnv m)
    (h : x.play (.act (.write pid) :: ms) = some x') : x'.world.env = .installed := by
  obtain ⟨y, hy, hp⟩ := Option.bind_eq_some_iff.mp h
  obtain ⟨u, hu, rfl⟩ := Session.move_act hy
  have hc : ActCases x.world u (.write pid) := act_cases hu
  cases hc with
  | write _ hv =>
    rcases writes_env hms hne hp with he | he
    · exact he.trans (hv ▸ rfl)
    · exact he

lemma firmwareState_reads {ms : List (Move (host sys))} {x : Session (host sys) (Option Bytes)} {s : Bytes}
    (h : (stateCall sys w).play ms = some x) (hx : x.result = some (some s)) :
    ∃ pre o₁ mid o₂ post x₁ y₁ x₂ b u n, ms = pre ++ .answer o₁ :: (mid ++ .answer o₂ :: post) ∧
      (∀ m ∈ pre, m.isAct = true) ∧ (∀ m ∈ mid, m.isAct = true) ∧
      (stateCall sys w).play pre = some x₁ ∧ x₁.move (.answer o₁) = some y₁ ∧ y₁.play mid = some x₂ ∧
      y₁.world.env = x₁.world.env ∧ x₁.world.env.bootcountText = some b ∧ x₂.world.env.upgradeText = some u ∧
      Text.stoi b = .ok n ∧ s = stateText n u w.memory.downloading := by
  rcases x with ⟨t, rest, v⟩
  obtain rfl : rest = _ := Session.result_eq hx
  rw [stateCall, firmwareState_eq] at h
  obtain ⟨pre, o₁, post₁, v₁, r₁, u₁, rfl, hpre, hplay₁, ha₁, hrest₁⟩ := Session.play_call h
  obtain ⟨mid, o₂, post, v₂, r₂, u₂, rfl, hmid, hplay₂, ha₂, hrest₂⟩ := Session.play_call hrest₁
  obtain ⟨b, u, n, hb, hu, hn, rfl⟩ := stateFrom_result hrest₂
  have hm : u₂.memory = w.memory := by
    have h₁ := play_acts_memory hpre hplay₁
    have h₂ := play_acts_memory hmid hplay₂
    exact (answer_popen_frame ha₂).1.trans (h₂.trans ((answer_popen_frame ha₁).1.trans h₁))
  have hb' : v₁.env.bootcountText = some b := by
    rcases read_bootcount ha₁ with he | he
    · exact he ▸ hb
    · exact absurd (he.symm.trans hb) (by simp)
  have hu' : v₂.env.upgradeText = some u := by
    rcases read_upgrade ha₂ with he | he
    · exact he ▸ hu
    · exact absurd (he.symm.trans hu) (by simp)
  exact ⟨pre, o₁, mid, o₂, post, _, _, _, b, u, n, rfl, hpre, hmid, hplay₁, Session.move_call ha₁, hplay₂,
    (answer_popen_frame ha₁).2, hb', hu', hn, by rw [hm]⟩

lemma decisionTable_eq {e : Env} {b u : Bytes} {n : ℤ} (hb : e.bootcountText = some b)
    (hu : e.upgradeText = some u) (hn : Text.stoi b = .ok n) (d : Bool) :
    decisionTable d e = some (stateText n u d) := by
  simp [decisionTable, hb, hu, hn, Except.toOption]

lemma untorn_consistent {ms : List (Move (host sys))} {x : Session (host sys) (Option Bytes)} {s : Bytes}
    (hne : ∀ m ∈ ms, NoSetEnv m) (h : (stateCall sys w).play ms = some x) (hx : x.result = some (some s))
    (ht : ¬ Torn sys w ms) : Consistent sys w ms s := by
  obtain ⟨pre, o₁, mid, o₂, post, x₁, y₁, x₂, b, u, n, rfl, hpre, hmid, hx₁, hy₁, hx₂, he, hb, hu, hn, rfl⟩ :=
    firmwareState_reads h hx
  have hnm : ∀ m ∈ mid, NoSetEnv m := fun m hm => hne m (by simp [hm])
  have hread : (stateCall sys w).play (pre ++ .answer o₁ :: mid) = some x₂ := by
    rw [Session.play_append, hx₁]
    simpa [hy₁] using hx₂
  rcases first_write hmid hnm hx₂ with hs | ⟨hs, mid₁, pid, mid₂, y, rfl, hy, hye⟩
  · refine ⟨pre, _, x₁, rfl, hx₁, decisionTable_eq hb ?_ hn _⟩
    rw [← he, ← hs, hu]
  · obtain rfl : bytes "1" = u := Option.some.inj (Env.upgradeText_installed.symm.trans (hs ▸ hu))
    by_cases h0 : n = 0
    · refine ⟨pre ++ .answer o₁ :: (mid₁ ++ .act (.write pid) :: mid₂), .answer o₂ :: post, x₂, by simp, hread, ?_⟩
      rw [hs, decisionTable_installed, h0]
      rfl
    · by_cases hu₁ : x₁.world.env.upgradeText = some (bytes "1")
      · exact ⟨pre, _, x₁, rfl, hx₁, decisionTable_eq hb hu₁ hn _⟩
      · refine absurd ⟨pre, o₁, mid₁, pid, mid₂ ++ .answer o₂ :: post, y, by simp, hpre, ?_, ?_, ?_⟩ ht
        · exact fun m hm => hmid m (by simp [hm])
        · rw [Session.play_append, hx₁]
          simpa [hy₁] using hy
        · rw [hye, he]
          exact ⟨b, n, hb, hn, h0, hu₁⟩

lemma Env.Stale.table_ne {e : Env} (he : e.Stale) (d : Bool) :
    decisionTable d e ≠ some FIRMWARE_STATE_UNCOMMITTED := by
  obtain ⟨b, n, hb, hn, h0, hu⟩ := he
  intro h
  cases hu' : e.upgradeText with
  | none => simp [decisionTable, hb, hu'] at h
  | some u =>
    have h1 : u ≠ bytes "1" := fun h1 => hu (h1 ▸ hu')
    rw [decisionTable_eq hb hu' hn, stateText, if_neg h1] at h
    revert h
    cases d <;> decide

lemma stateFrom_calls {P : Call → Prop} (hl : P (.load .downloading)) (hs : P (.store .downloading false))
    (ha : ∀ a, P (.abort a)) (b u : Option Bytes) : (stateFrom b u).Calls P := by
  have hc := stateFrom_cases b u
  generalize stateFrom b u = p at hc ⊢
  cases hc with
  | unread => trivial
  | thrown => exact ⟨ha _, fun r => r.elim⟩
  | upgraded => exact ⟨hs, fun _ => trivial⟩
  | flagged => exact ⟨hl, fun _ => trivial⟩

lemma stateCall_env {ms : List (Move (host sys))} {x : Session (host sys) (Option Bytes)}
    (hne : ∀ m ∈ ms, NoSetEnv m) (h : (stateCall sys w).play ms = some x) :
    x.world.env = w.env ∨ x.world.env = .installed := by
  refine Session.play_invariant (I := fun y : World => y.env = w.env ∨ y.env = .installed)
    (P := fun c : Call => ∀ command, c ≠ .shell command) (fun _ _ _ => act_env_cases) (fun c o y r z hc hr hI => ?_)
    ?_ (noSetEnv_act hne) h (.inl rfl)
  · exact hI.imp (answer_env hc hr).trans (answer_env hc hr).trans
  · rw [stateCall, firmwareState_eq]
    exact ⟨by simp, fun _ => ⟨by simp, fun _ => stateFrom_calls (by simp) (by simp) (by simp) _ _⟩⟩

lemma torn_inconsistent {ms : List (Move (host sys))} {x : Session (host sys) (Option Bytes)} {s : Bytes}
    (hne : ∀ m ∈ ms, NoSetEnv m) (h : (stateCall sys w).play ms = some x) (hx : x.result = some (some s))
    (ht : Torn sys w ms) : s = FIRMWARE_STATE_UNCOMMITTED ∧ ¬ Consistent sys w ms s := by
  obtain ⟨pre, o, mid, pid, post, y, rfl, hpre, hmid, hy, hys⟩ := ht
  have hys' := hys
  obtain ⟨pre', o₁, mid', o₂, post', x₁, y₁, x₂, b, u, n, he, hpre', hmid', hx₁, hy₁, hx₂, he₁, hb, hu, hn, rfl⟩ :=
    firmwareState_reads h hx
  obtain ⟨rfl, rfl, hrest⟩ := first_answer hpre hpre' he
  obtain ⟨more, rfl, hmore⟩ := acts_append hmid hrest
  have hym : y₁.play mid = some y := by
    rw [Session.play_append, hx₁] at hy
    simpa [hy₁] using hy
  have hyw : y.world.env = w.env := by
    rcases stateCall_env (fun m hm => hne m (by simp at hm ⊢; exact hm.imp_right (Or.imp_right .inl))) hy with hw | hi
    · exact hw
    · exact absurd (hi ▸ hys) Env.not_stale_installed
  have hyx : y.world.env = x₁.world.env := by
    rcases writes_env hmid (fun m hm => hne m (by simp [hm])) hym with hw | hi
    · exact hw.trans he₁
    · exact absurd (hi ▸ hys) Env.not_stale_installed
  have hx₂i : x₂.world.env = .installed := by
    cases more with
    | nil => simp at hmore
    | cons m more =>
      obtain ⟨rfl, rfl⟩ := List.cons.inj hmore
      rw [Session.play_append, hym] at hx₂
      exact written_env (fun m hm => hmid' m (by simp [hm])) (fun m hm => hne m (by simp [hm])) hx₂
  obtain ⟨b', n', hb', hn', h0, -⟩ := hys
  obtain rfl : b' = b := Option.some.inj (hb'.symm.trans (hyx ▸ hb))
  obtain rfl : n' = n := Except.ok.inj (hn'.symm.trans hn)
  have hu1 : bytes "1" = u := Option.some.inj (Env.upgradeText_installed.symm.trans (hx₂i ▸ hu))
  have hs : stateText n' u w.memory.downloading = FIRMWARE_STATE_UNCOMMITTED := by
    rw [stateText, if_pos hu1.symm, if_neg h0]
  refine ⟨hs, ?_⟩
  rintro ⟨p, q, z, hpq, hz, hd⟩
  rw [hs] at hd
  rcases stateCall_env (fun m hm => hne m (hpq ▸ List.mem_append_left q hm)) hz with hw | hi
  · rw [hw, ← hyw] at hd
    exact hys'.table_ne _ hd
  · rw [hi, decisionTable_installed] at hd
    exact absurd hd (by decide)

theorem firmwareState_consistent_iff {ms : List (Move (host sys))} {x : Session (host sys) (Option Bytes)} {s : Bytes}
    (hne : ∀ m ∈ ms, NoSetEnv m) (h : (stateCall sys w).play ms = some x) (hx : x.result = some (some s)) :
    Consistent sys w ms s ↔ ¬ Torn sys w ms :=
  ⟨fun hc ht => (torn_inconsistent hne h hx ht).2 hc, untorn_consistent hne h hx⟩

def Unreadable (sys : System) (t : Trace calls) : Prop :=
  ∃ envVar r, ⟨.popen (sys.chroot ++ printenvCommand envVar), r⟩ ∈ t ∧ envValue envVar (PopenReply.result r) = none

lemma stateFrom_some {t t' : Trace calls} {ms : List (Move (host sys))} {b u : Bytes}
    (h : (⟨t, stateFrom (some b) (some u), w⟩ : Session (host sys) (Option Bytes)).play ms = some ⟨t', .done none, v⟩) :
    False := by
  have hc := stateFrom_cases (some b) (some u)
  generalize stateFrom (some b) (some u) = p at hc h
  cases hc with
  | unread hn => simp at hn
  | thrown =>
    obtain ⟨-, -, -, -, r, -⟩ := Session.play_call h
    exact r.elim
  | upgraded | flagged =>
    obtain ⟨pre, o, post, v', r, x, -, -, -, -, hp⟩ := Session.play_call h
    cases (Session.play_done hp).2.2

lemma unreadable_of_none {ms : List (Move (host sys))} {x : Session (host sys) (Option Bytes)}
    (h : (stateCall sys w).play ms = some x) (hx : x.result = some none) : Unreadable sys x.trace := by
  rcases x with ⟨t, rest, v⟩
  obtain rfl : rest = _ := Session.result_eq hx
  rw [stateCall, firmwareState_eq] at h
  obtain ⟨-, -, post, -, r₁, u₁, rfl, -, -, -, h₁⟩ := Session.play_call h
  obtain ⟨-, -, post, -, r₂, u₂, rfl, -, -, -, h₂⟩ := Session.play_call h₁
  obtain ⟨more, hmore⟩ := Session.play_trace h₂
  have ht : t = ⟨_, r₁⟩ :: ⟨_, r₂⟩ :: more := hmore
  cases hb : envValue FIRMWARE_ENV_BOOT_COUNT (PopenReply.result r₁) with
  | none => exact ⟨_, r₁, ht ▸ .head _, hb⟩
  | some b =>
    cases hu : envValue FIRMWARE_ENV_UPGRADE_AVAIL (PopenReply.result r₂) with
    | none => exact ⟨_, r₂, ht ▸ .tail _ (.head _), hu⟩
    | some u =>
      rw [hb, hu] at h₂
      exact (stateFrom_some h₂).elim

namespace Sample

def tornCall : List (Move (host bare)) := [.answer .done, .act (.write 7), .answer .done, .answer .done]

lemma tornCall_noSetEnv : ∀ m ∈ tornCall, NoSetEnv m := by simp [tornCall, NoSetEnv, Act.setsEnv]

set_option maxRecDepth 100000 in
lemma tornCall_result : ∃ x, (stateCall bare updated.world).play tornCall = some x ∧
    x.result = some (some FIRMWARE_STATE_UNCOMMITTED) := by
  have h : ((stateCall bare updated.world).play tornCall).bind Session.result =
    some (some FIRMWARE_STATE_UNCOMMITTED) := by decide
  exact Option.bind_eq_some_iff.mp h

end Sample

theorem firmwareState_consistent_iff_updated : ∃ x, (stateCall Sample.bare Sample.updated.world).play
    Sample.tornCall = some x ∧ (Consistent Sample.bare Sample.updated.world Sample.tornCall
      FIRMWARE_STATE_UNCOMMITTED ↔ ¬ Torn Sample.bare Sample.updated.world Sample.tornCall) := by
  obtain ⟨x, hx, hr⟩ := Sample.tornCall_result
  exact ⟨x, hx, firmwareState_consistent_iff Sample.tornCall_noSetEnv hx hr⟩

set_option maxRecDepth 100000 in
theorem firmwareState_torn : Sample.first.run Sample.updating = some Sample.updated ∧
    (∃ x, (stateCall Sample.bare Sample.updated.world).play Sample.tornCall = some x ∧
      x.result = some (some FIRMWARE_STATE_UNCOMMITTED)) ∧
    ¬ Consistent Sample.bare Sample.updated.world Sample.tornCall FIRMWARE_STATE_UNCOMMITTED := by
  obtain ⟨x, hx, hr⟩ := Sample.tornCall_result
  refine ⟨Sample.run_updating, ⟨x, hx, hr⟩, (torn_inconsistent Sample.tornCall_noSetEnv hx hr ?_).2⟩
  have hy : ((stateCall Sample.bare Sample.updated.world).play [.answer .done]).map (fun y => y.world.env) =
    some Sample.committed := by decide
  obtain ⟨y, hy, he⟩ := Option.map_eq_some_iff.mp hy
  refine ⟨[], .done, [], 7, [.answer .done, .answer .done], y, rfl, by simp, by simp, hy, ?_⟩
  rw [he]
  exact ⟨bytes "2", 2, by decide, by decide, by decide, by decide⟩

end RouterCard.Captived

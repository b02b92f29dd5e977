import RouterCard.Captived.Alone
import RouterCard.Captived.Daemon

namespace RouterCard.Captived.ModeChange

open Text Interaction Mode

variable (sys : System)

def modeLink : Bytes := sys.chroot ++ LINK_MODE

def targetFile (mode : Bytes) : Bytes := sys.chroot ++ targetName mode

def targetsCommand : Bytes := sys.chroot ++ COMMAND_GET_ACTIVE_TARGETS

def rebootCommand : Bytes := sys.chroot ++ FILE_REBOOT_EXE

section link

variable (o : Outcomes) (w : World) (target link : Bytes)

def Unlinks : Prop := (∃ t, w.files link = some (.link t)) ∧ o (.lstat link) = .done ∧ o (.remove link) = .done

def Links : Prop := (w.files link = none ∨ Unlinks o w link) ∧ o (.symlink target link) = .done

def Loses : Prop := Unlinks o w link ∧ o (.symlink target link) ≠ .done

inductive Relinked : Bool → Option Node → Prop
  | linked : Links o w target link → Relinked true (some (.link target))
  | lost : Loses o w target link → Relinked false none
  | kept : ¬ Links o w target link → ¬ Loses o w target link → Relinked false (w.files link)

end link

variable {sys} {o : Outcomes} {w v : World}

lemma Relinked.of_true {target link : Bytes} {n : Option Node} (h : Relinked o w target link true n) :
    Links o w target link ∧ n = some (.link target) := by
  cases h with
  | linked hl => exact ⟨hl, rfl⟩

lemma Relinked.of_false {target link : Bytes} {n : Option Node} (h : Relinked o w target link false n) :
    (Loses o w target link ∧ n = none) ∨ (¬ Links o w target link ∧ ¬ Loses o w target link ∧ n = w.files link) := by
  cases h with
  | lost hl => exact .inl ⟨hl, rfl⟩
  | kept hn hl => exact .inr ⟨hn, hl, rfl⟩

lemma relinked_of_symlink {u : World} {target link : Bytes} {r : ℤ} (hu : u.files link = w.files link)
    (hw : ¬ Unlinks o w link) (h : respond sys o (.symlink target link) u = some (r, v)) :
    Relinked o w target link (decide (r = 0)) (v.files link) := by
  rcases answer_symlink h with ⟨hd, hn, rfl, rfl⟩ | ⟨hd, rfl, rfl⟩
  · have hl : Links o w target link := ⟨.inl (hu ▸ hn), hd⟩
    simpa [World.setFile] using Relinked.linked hl
  · have hl : ¬ Links o w target link := fun hl => hd hl.2 (hu.trans (hl.1.resolve_right hw))
    rw [hu]
    exact .kept hl fun hl => hw hl.1

lemma relinked_of_removed {u : World} {target link : Bytes} {r : ℤ} (hw : Unlinks o w link)
    (h : respond sys o (.symlink target link) (u.setFile link none) = some (r, v)) :
    Relinked o w target link (decide (r = 0)) (v.files link) := by
  rcases answer_symlink h with ⟨hd, -, rfl, rfl⟩ | ⟨hd, rfl, rfl⟩
  · have hl : Links o w target link := ⟨.inr hw, hd⟩
    simpa [World.setFile] using Relinked.linked hl
  · have hl : Loses o w target link := ⟨hw, fun hs => hd hs (by simp [World.setFile])⟩
    simpa [World.setFile] using Relinked.lost hl

lemma exec_setSymlinkTarget {target link : Bytes} {b : Bool}
    (h : (sys.setSymlinkTarget target link).exec (respond sys o) w = some (b, v)) :
    Relinked o w (sys.chroot ++ target) (sys.chroot ++ link) b (v.files (sys.chroot ++ link)) := by
  obtain ⟨stat, u, hs, h⟩ := Program.exec_call_elim h
  obtain ⟨rfl, ⟨hd, rfl⟩ | ⟨hd, rfl⟩⟩ := answer_lstat hs
  · cases hn : u.files (sys.chroot ++ link) with
    | none =>
      rw [hn] at h
      obtain ⟨r, x, hr, h⟩ := Program.exec_call_elim h
      obtain ⟨rfl, rfl⟩ := Program.exec_done_elim h
      exact relinked_of_symlink rfl (fun hu => by simp [Unlinks, hn] at hu) hr
    | some n =>
      rw [hn] at h
      cases n with
      | link t =>
        obtain ⟨r, x, hr, h⟩ := Program.exec_call_elim h
        obtain ⟨r', y, hr', h⟩ := Program.exec_call_elim h
        obtain ⟨rfl, rfl⟩ := Program.exec_done_elim h
        rcases answer_remove hr with ⟨hrm, -, rfl⟩ | ⟨hrm, rfl⟩
        · exact relinked_of_removed ⟨⟨t, hn⟩, hd, hrm⟩ hr'
        · exact relinked_of_symlink rfl (fun hu => by simp [hrm hu.2.2] at hn) hr'
      | file | directory | other =>
        obtain ⟨rfl, rfl⟩ := Program.exec_done_elim h
        have hu : ¬ Unlinks o u (sys.chroot ++ link) := fun hu => by simp [Unlinks, hn] at hu
        rw [hn, ← hn]
        exact .kept (fun hl => by simp [Links, hn, hu] at hl) fun hl => hu hl.1
  · obtain ⟨r, x, hr, h⟩ := Program.exec_call_elim h
    obtain ⟨rfl, rfl⟩ := Program.exec_done_elim h
    exact relinked_of_symlink rfl (fun hu => hd hu.2.1) hr

lemma exec_routerMode {running : Option Bytes} (h : (routerMode sys).exec (respond sys o) w = some (running, v)) :
    running = runningMode (pipeReply (o (.popen (targetsCommand sys)))).result ∧ v.files = w.files := by
  obtain ⟨r, u, hr, h⟩ := Program.exec_call_elim h
  obtain ⟨rfl, rfl⟩ := Program.exec_done_elim h
  have hc : ∀ e, printenv sys (targetsCommand sys) e = none := printenv_eq_none (by decide) (by decide)
  exact ⟨by rw [answer_popen_reply hc hr]; rfl, answer_popen_files hr⟩

lemma exec_reboot {rc : ℤ} (h : (Reboot.execute sys).exec (respond sys o) w = some (rc, v)) :
    rc = waitStatus (o (.shell (rebootCommand sys))) ∧ v.files = w.files := by
  obtain ⟨r, u, hr, h⟩ := Program.exec_call_elim h
  obtain ⟨rfl, rfl⟩ := Program.exec_done_elim h
  exact ⟨answer_shell_status hr, answer_shell_files hr⟩

lemma exec_symlinkTarget {link t : Bytes} {target : Option Bytes} (hw : w.files (sys.chroot ++ link) = some (.link t))
    (h : (sys.symlinkTarget link).exec (respond sys o) w = some (target, v)) : v = w ∧
    (target = none ↔ o (.readlink (sys.chroot ++ link) ROUTER_CARD_PATH_MAX) ≠ .done ∨ ROUTER_CARD_PATH_MAX ≤ t.length) := by
  obtain ⟨r, u, hr, h⟩ := Program.exec_call_elim h
  obtain ⟨rfl, rfl⟩ := Program.exec_done_elim h
  obtain ⟨rfl, ⟨hd, rfl⟩ | ⟨hd, rfl⟩⟩ := answer_readlink hr
  · simp [hw, hd, targetOf, Option.filter_eq_none_iff]
  · simp [hd]

lemma exec_routerModeConfig {mode : Option Bytes} {t : Bytes} (hw : w.files (modeLink sys) = some (.link t))
    (h : (routerModeConfig sys).exec (respond sys o) w = some (mode, v)) : v = w ∧
    (mode = none ↔ o (.readlink (modeLink sys) ROUTER_CARD_PATH_MAX) ≠ .done ∨ ROUTER_CARD_PATH_MAX ≤ t.length) := by
  obtain ⟨target, u, ht, h⟩ := Program.exec_bind_elim h
  obtain ⟨rfl, htarget⟩ := exec_symlinkTarget hw ht
  cases target with
  | none =>
    obtain ⟨rfl, rfl⟩ := Program.exec_done_elim h
    exact ⟨rfl, htarget⟩
  | some target =>
    cases hm : modeOfLink target with
    | none => simp [hm, abort, respond, answer] at h
    | some m =>
      simp only [hm] at h
      obtain ⟨rfl, rfl⟩ := Program.exec_done_elim h
      exact ⟨rfl, (iff_of_false (Option.some_ne_none m) (Option.some_ne_none target)).trans htarget⟩

def RebootFails (sys : System) (o : Outcomes) (mode : Bytes) : Prop :=
  runningMode (pipeReply (o (.popen (targetsCommand sys)))).result ≠ some mode ∧
    waitStatus (o (.shell (rebootCommand sys))) ≠ 0

def RereadFails (sys : System) (o : Outcomes) (mode : Bytes) : Prop :=
  o (.readlink (modeLink sys) ROUTER_CARD_PATH_MAX) ≠ .done ∨ ROUTER_CARD_PATH_MAX ≤ (targetFile sys mode).length

def Breaks (sys : System) (o : Outcomes) (w : World) (mode : Bytes) : Prop :=
  Loses o w (targetFile sys mode) (modeLink sys) ∨
    Links o w (targetFile sys mode) (modeLink sys) ∧ w.files (modeLink sys) ≠ some (.link (targetFile sys mode)) ∧
      (RebootFails sys o mode ∨ RereadFails sys o mode)

lemma exec_setRouterMode {mode : Bytes} {b : Bool} (hm : isValidMode mode = true)
    (h : (setRouterMode sys mode).exec (respond sys o) w = some (b, v)) :
    ∃ linked, Relinked o w (targetFile sys mode) (modeLink sys) linked (v.files (modeLink sys)) ∧
      (b = true ↔ linked = true ∧ ¬ RebootFails sys o mode) := by
  simp only [setRouterMode, setRouterModeConfig, hm, Bool.not_true, Bool.false_eq_true, if_false] at h
  obtain ⟨linked, u, hl, h⟩ := Program.exec_bind_elim h
  have hrel := exec_setSymlinkTarget hl
  cases linked with
  | false =>
    obtain ⟨rfl, rfl⟩ := Program.exec_done_elim h
    exact ⟨false, hrel, by simp⟩
  | true =>
    obtain ⟨running, x, hr, h⟩ := Program.exec_bind_elim h
    obtain ⟨rfl, hx⟩ := exec_routerMode hr
    by_cases hrun : some mode = runningMode (pipeReply (o (.popen (targetsCommand sys)))).result
    · simp only [hrun, ne_eq, not_true_eq_false, if_false] at h
      obtain ⟨rfl, rfl⟩ := Program.exec_done_elim h
      exact ⟨true, hx ▸ hrel, by simp [RebootFails, hrun]⟩
    · simp only [ne_eq, hrun, not_false_eq_true, if_true] at h
      obtain ⟨rc, y, hrc, h⟩ := Program.exec_bind_elim h
      obtain ⟨rfl, rfl⟩ := Program.exec_done_elim h
      obtain ⟨rfl, hy⟩ := exec_reboot hrc
      have hrun' : runningMode (pipeReply (o (.popen (targetsCommand sys)))).result ≠ some mode := fun he => hrun he.symm
      refine ⟨true, ?_, by simp [RebootFails, hrun']⟩
      rw [hy, hx]
      exact hrel

lemma exec_put {mode : JsonText} {resp : Resp} (hm : isValidMode mode.val = true)
    (h : (put sys (some (.string mode))).exec (respond sys o) w = some (resp, v)) :
    ∃ linked, Relinked o w (targetFile sys mode.val) (modeLink sys) linked (v.files (modeLink sys)) ∧
      (resp.1 = .ok ↔ linked = true ∧ ¬ RebootFails sys o mode.val ∧ ¬ RereadFails sys o mode.val) := by
  simp only [put, hm, Bool.not_true, Bool.false_eq_true, if_false] at h
  obtain ⟨b, u, hb, h⟩ := Program.exec_bind_elim h
  obtain ⟨linked, hrel, hiff⟩ := exec_setRouterMode hm hb
  cases b with
  | false =>
    obtain ⟨rfl, rfl⟩ := Program.exec_done_elim h
    refine ⟨linked, hrel, iff_of_false Status.noConfusion fun hok => ?_⟩
    exact Bool.false_ne_true (hiff.mpr ⟨hok.1, hok.2.1⟩)
  | true =>
    obtain ⟨rfl, hreb⟩ := hiff.mp rfl
    obtain ⟨reread, x, hr, h⟩ := Program.exec_bind_elim h
    obtain ⟨rfl, hnone⟩ := exec_routerModeConfig hrel.of_true.2 hr
    cases reread with
    | none =>
      obtain ⟨rfl, rfl⟩ := Program.exec_done_elim h
      exact ⟨true, hrel, iff_of_false Status.noConfusion fun hok => hok.2.2 (hnone.mp rfl)⟩
    | some m =>
      obtain ⟨rfl, rfl⟩ := Program.exec_done_elim h
      exact ⟨true, hrel, iff_of_true rfl ⟨rfl, hreb, fun hf => Option.some_ne_none m (hnone.mpr hf)⟩⟩

lemma put_rejects (sys : System) {body : Body} (h : ¬ ∃ mode, body = some (.string mode) ∧ isValidMode mode.val = true) :
    ∃ resp, put sys body = .done resp := by
  unfold put
  split
  · next mode =>
    have hm : isValidMode mode.val = false := by simpa using fun hm => h ⟨mode, rfl, hm⟩
    exact ⟨_, by rw [hm]; rfl⟩
  · exact ⟨_, rfl⟩

theorem put_keeps_link_iff {body : Body} {resp : Resp} (h : (put sys body).exec (respond sys o) w = some (resp, v)) :
    (resp.1 ≠ .ok → v.files (modeLink sys) = w.files (modeLink sys)) ↔
      ¬ ∃ mode, body = some (.string mode) ∧ isValidMode mode.val = true ∧ Breaks sys o w mode.val := by
  by_cases hb : ∃ mode, body = some (.string mode) ∧ isValidMode mode.val = true
  · obtain ⟨mode, rfl, hm⟩ := hb
    have hex : (∃ m, some (Json.string mode) = some (.string m) ∧ isValidMode m.val = true ∧ Breaks sys o w m.val) ↔
        Breaks sys o w mode.val := by simp [hm]
    obtain ⟨linked, hrel, hok⟩ := exec_put hm h
    rw [hex, Breaks, ne_eq, hok]
    cases linked with
    | false =>
      simp only [Bool.false_eq_true, false_and, not_false_eq_true, true_imp_iff]
      rcases hrel.of_false with ⟨hl, hv⟩ | ⟨hn, hl, hv⟩
      · obtain ⟨⟨t, ht⟩, -⟩ := hl.1
        simp [hv, ht, hl]
      · simp [hv, hn, hl]
    | true =>
      obtain ⟨hl, hv⟩ := hrel.of_true
      have hnot : ¬ Loses o w (targetFile sys mode.val) (modeLink sys) := fun hlost => hlost.2 hl.2
      have hfails : ¬ (true = true ∧ ¬ RebootFails sys o mode.val ∧ ¬ RereadFails sys o mode.val) ↔
          RebootFails sys o mode.val ∨ RereadFails sys o mode.val := by
        rw [eq_self, true_and, not_and_or, not_not, not_not]
      rw [hv, hfails, or_iff_right hnot, and_iff_right hl]
      constructor
      · rintro hkept ⟨hne, hfail⟩
        exact hne (hkept hfail).symm
      · intro hall hfail
        by_contra hne
        exact hall ⟨fun he => hne he.symm, hfail⟩
  · obtain ⟨r, hr⟩ := put_rejects sys hb
    rw [hr] at h
    obtain ⟨-, rfl⟩ := Program.exec_done_elim h
    exact iff_of_true (fun _ => rfl) fun ⟨mode, hbody, hm, _⟩ => hb ⟨mode, hbody, hm⟩

section samples

def passthrough : World := .initial Sample.committed fun path =>
  if path = LINK_MODE then some (.link (targetFile Sample.bare MODE_PASSTHROUGH)) else none

-- The card runs in passthrough mode, and `symlink` is told what to come to.
def outcomes (symlink : Outcome) : Outcomes
  | .popen _ => .reply (bytes "passthrough.target loaded active active") 0
  | .symlink .. => symlink
  | _ => .done

def secureHost : JsonText := ⟨MODE_SECURE_HOST, by decide⟩

def answered (symlink : Outcome) : Option (Resp × World) :=
  (put Sample.bare (some (.string secureHost))).exec (respond Sample.bare (outcomes symlink)) passthrough

theorem put_keeps_link_iff_changed : ∃ resp v, answered .done = some (resp, v) ∧
    ((resp.1 ≠ .ok → v.files (modeLink Sample.bare) = passthrough.files (modeLink Sample.bare)) ↔
      ¬ ∃ mode, some (Json.string secureHost) = some (.string mode) ∧ isValidMode mode.val = true ∧
        Breaks Sample.bare (outcomes .done) passthrough mode.val) :=
  ⟨_, _, rfl, put_keeps_link_iff rfl⟩

theorem failed_put_loses_link : ∃ resp v, answered (.failed 28) = some (resp, v) ∧ resp.1 = .internalServerError ∧
    passthrough.files (modeLink Sample.bare) = some (.link (targetFile Sample.bare MODE_PASSTHROUGH)) ∧
    v.files (modeLink Sample.bare) = none :=
  ⟨_, _, rfl, rfl, rfl, rfl⟩

end samples

end RouterCard.Captived.ModeChange

import RouterCard.Captived.Answers

namespace RouterCard.Captived

open Text Interaction

variable (sys : System)

abbrev Outcomes := Call → Outcome

def respond (o : Outcomes) (c : Call) (w : World) : Option (c.Reply × World) := answer sys c (o c) w

variable {sys} {o : Outcomes} {w v : World}

section commands

-- What popen and system make of an outcome, for a command that the world does not know.
def pipeReply : Outcome → PopenReply
  | .failed errno => ⟨false, [], 0, errno⟩
  | .reply output status => spawned output status
  | _ => spawned [] 0

def waitStatus : Outcome → ℤ
  | .failed _ => -1
  | .reply _ status => status
  | .partly n => n
  | _ => 0

lemma answer_popen_files {command : Bytes} {out : Outcome} {r : PopenReply}
    (h : answer sys (.popen command) out w = some (r, v)) : v.files = w.files := by
  rcases answer_popen h with ⟨-, rfl⟩ | ⟨-, rfl⟩ <;> rfl

lemma answer_popen_reply {command : Bytes} {out : Outcome} {r : PopenReply} (hc : ∀ e, printenv sys command e = none)
    (h : answer sys (.popen command) out w = some (r, v)) : r = pipeReply out := by
  cases out with
  | failed errno => exact (Prod.mk.inj (Option.some.inj h)).1.symm
  | reply output status =>
    simp only [answer, answerPopen, hc, Option.isSome_none, Bool.false_eq_true, false_and, if_false] at h
    exact (Prod.mk.inj (Option.some.inj h)).1.symm
  | _ => simp [answer, answerPopen, hc] at h

lemma answer_shell_files {command : Bytes} {out : Outcome} {r : ℤ}
    (h : answer sys (.shell command) out w = some (r, v)) : v.files = w.files := by
  rcases answer_shell h with rfl | rfl | ⟨-, rfl⟩ | ⟨-, rfl⟩ <;> rfl

lemma answer_shell_status {command : Bytes} {out : Outcome} {r : ℤ}
    (h : answer sys (.shell command) out w = some (r, v)) : r = waitStatus out := by
  cases out with
  | failed errno => exact (Prod.mk.inj (Option.some.inj h)).1.symm
  | reply output status =>
    simp only [answer, answerShell] at h
    split_ifs at h
    exact (Prod.mk.inj (Option.some.inj h)).1.symm
  | partly n =>
    simp only [answer, answerShell] at h
    split_ifs at h
    exact (Prod.mk.inj (Option.some.inj h)).1.symm
  | done =>
    simp only [answer, answerShell] at h
    split_ifs at h
    all_goals exact (Prod.mk.inj (Option.some.inj h)).1.symm
  | _ => simp [answer, answerShell] at h

lemma printenv_eq_none {command : Bytes} (hb : command ≠ FirmwareManager.printenvCommand FIRMWARE_ENV_BOOT_COUNT)
    (hu : command ≠ FirmwareManager.printenvCommand FIRMWARE_ENV_UPGRADE_AVAIL) (e : Env) :
    printenv sys (sys.chroot ++ command) e = none := by
  have hb' : sys.chroot ++ command ≠ sys.chroot ++ FirmwareManager.printenvCommand FIRMWARE_ENV_BOOT_COUNT :=
    fun h => hb (List.append_cancel_left h)
  have hu' : sys.chroot ++ command ≠ sys.chroot ++ FirmwareManager.printenvCommand FIRMWARE_ENV_UPGRADE_AVAIL :=
    fun h => hu (List.append_cancel_left h)
  rw [printenv, if_neg hb', if_neg hu']

end commands

end RouterCard.Captived

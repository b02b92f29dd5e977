import RouterCard.Captived.Alone
import RouterCard.Captived.Daemon
import RouterCard.Captived.Installers
import RouterCard.Processes.WaitStatus

/-! The way of mender's end into the message that the SIGCHLD callback records: through the
shell, `pclose`, `exit` in the forked child and `waitid`. -/

namespace RouterCard.Captived.InstallStatus

open Text Interaction FirmwareManager Processes

variable (sys : System)

section child

/-- The child's side of the fork; its result is what it hands to `exit`. -/
def installer (uri : Bytes) : Prog ℤ := do
  let result ← sys.executeResult (COMMAND_MENDER_INSTALL ++ bytes " " ++ uri)
  return result.1

inductive Ending where
  -- a shell may put its last command in its own place, or wait for it
  | ran (mender : Termination) (replaced : Bool)
  -- the shell does not get mender to run
  | notRun (code : ExitCode)
  | shellKilled (signal : Signal) (core : Bool)
  -- pclose, or popen, fails
  | notWaited (mender : Termination) (errno : ℤ)
  | notOpened (errno : ℤ)

namespace Ending

def mender : Ending → Option Termination
  | ran mender _ | notWaited mender _ => some mender
  | _ => none

def reply (output : Bytes) : Ending → PopenReply
  | ran mender true => spawned output mender.waitStatus
  | ran mender false => spawned output (Termination.exited mender.shellCode).waitStatus
  | notRun code => spawned output (Termination.exited code).waitStatus
  | shellKilled signal core => spawned output (Termination.signaled signal core).waitStatus
  | notWaited _ errno => ⟨true, output, -1, errno⟩
  | notOpened errno => ⟨false, [], 0, errno⟩

def Shown : Ending → Prop
  | ran (.exited code) _ => code = 0
  | ran (.signaled ..) replaced => replaced = true
  | notRun _ => False
  | shellKilled .. => True
  | notWaited mender errno => mender = .exited 0 ∨ ¬ 256 ∣ errno
  | notOpened errno => ¬ 256 ∣ errno

end Ending

def pipe (r : PopenReply) : (c : Call) → Unit → Option (c.Reply × Unit)
  | .popen _, _ => some (r, ())
  | _, _ => none

end child

section parent

def recorded (uri output : Bytes) (e : Ending) (w : World) : Option Bytes := do
  let (retCode, _) ← (installer sys uri).exec (pipe (e.reply output)) ()
  let w ← act (.exit w.memory.childPid (.exited (exitCode retCode))) w
  let (_, w) ← onSigchld.exec (respond sys fun _ => .done) w
  return w.memory.debugMessage

def successMessage : Bytes := bytes "mender exited with code: 0\n"

def Honest (uri output : Bytes) (e : Ending) (w : World) : Prop :=
  (recorded sys uri output e w).isSome = true ∧
    (recorded sys uri output e w = some successMessage → e.mender = some (.exited 0))

end parent

variable {sys} {uri output : Bytes} {e : Ending} {w v : World}

lemma exec_installer : (installer sys uri).exec (pipe (e.reply output)) () = some ((e.reply output).result.1, ()) := rfl

def ended (how : Exit) (w : World) : World :=
  { w.raise with installers := setState w.memory.childPid (.zombie how) w.installers }

lemma act_ended (how : Exit) (hw : (w.find w.memory.childPid).any Installer.alive = true) :
    act (.exit w.memory.childPid how) w = some (ended how w) := if_pos hw

lemma find_ended (how : Exit) (hw : (w.find w.memory.childPid).any Installer.alive = true) :
    (ended how w).find w.memory.childPid = some ⟨w.memory.childPid, .zombie how⟩ := by
  have hfind : (ended how w).find w.memory.childPid = (w.installers.find? (·.pid = w.memory.childPid)).map fun _ =>
      ⟨w.memory.childPid, .zombie how⟩ := (find_setState _ _ _).trans (if_pos rfl)
  cases hp : w.find w.memory.childPid with
  | none => simp [hp] at hw
  | some p =>
    have hp : w.installers.find? (·.pid = w.memory.childPid) = some p := hp
    rw [hfind, hp]
    rfl

variable (sys) in
lemma exec_onSigchld {how : Exit} (h : w.find w.memory.childPid = some ⟨w.memory.childPid, .zombie how⟩) :
    ∃ v, onSigchld.exec (respond sys fun _ => .done) w = some ((), v) ∧ v.memory.debugMessage = exitMessage how := by
  have hload : respond sys (fun _ => .done) (.load .childPid) w = some (w.memory.childPid, w) := rfl
  have hwait : respond sys (fun _ => .done) (.waitid w.memory.childPid) w = some (.ended how,
      { w with installers := w.installers.filter fun p => p.pid ≠ w.memory.childPid }) := by
    rw [respond, answer, answerWaitid, h]
  refine ⟨({ w with registered := false, installers := w.installers.filter fun p => p.pid ≠ w.memory.childPid }.store
    .downloading false).store .debugMessage (exitMessage how), ?_, rfl⟩
  rw [onSigchld_eq, Program.exec_call, hload, Option.bind_some, Program.exec_call, hwait]
  rfl

lemma recorded_eq (hw : (w.find w.memory.childPid).any Installer.alive = true) :
    recorded sys uri output e w = some (exitMessage (.exited (exitCode (e.reply output).result.1))) := by
  obtain ⟨v, hv, hmessage⟩ := exec_onSigchld sys (find_ended (.exited (exitCode (e.reply output).result.1)) hw)
  rw [recorded, exec_installer]
  change ((act (.exit w.memory.childPid (.exited (exitCode (e.reply output).result.1))) w).bind fun w =>
    (onSigchld.exec (respond sys fun _ => .done) w).bind fun x => some x.2.memory.debugMessage) = _
  rw [act_ended _ hw, Option.bind_some, hv, Option.bind_some, hmessage]

lemma ofInt_exitCode (c : ExitCode) : ofInt (c : ℕ) = ofInt 0 ↔ c = 0 := by
  have hall : ∀ c : ExitCode, ofInt (c : ℕ) = ofInt 0 → c = 0 := by decide +kernel
  exact ⟨hall c, fun h => h ▸ rfl⟩

lemma exitMessage_success (c : ExitCode) : exitMessage (.exited (c : ℕ)) = successMessage ↔ c = 0 := by
  have hsplit : successMessage = bytes "mender exited with code: " ++ ofInt 0 ++ bytes "\n" := by decide
  rw [hsplit, exitMessage, List.append_left_inj, List.append_right_inj, ofInt_exitCode]

variable (sys) in
lemma recorded_success (hw : (w.find w.memory.childPid).any Installer.alive = true) :
    recorded sys uri output e w = some successMessage ↔ exitCode (e.reply output).result.1 = 0 := by
  rw [recorded_eq hw, Option.some_inj, exitMessage_success]

lemma result_spawned (output : Bytes) (status : ℕ) : (spawned output status).result.1 = status := by
  have hne : (status : ℤ) ≠ -1 := by omega
  simp [spawned, PopenReply.result, hne]

lemma spawned_zero (output : Bytes) (t : Termination) :
    exitCode (spawned output t.waitStatus).result.1 = 0 ↔ ∃ code, t = .exited code := by
  rw [result_spawned]
  exact exitCode_waitStatus t

lemma shown_iff (output : Bytes) : e.Shown ↔ (exitCode (e.reply output).result.1 = 0 → e.mender = some (.exited 0)) := by
  have hexited : ∀ code, exitCode (spawned output (Termination.exited code).waitStatus).result.1 = 0 :=
    fun code => (spawned_zero output _).mpr ⟨code, rfl⟩
  have hsignaled : ∀ signal core, exitCode (spawned output (Termination.signaled signal core).waitStatus).result.1 ≠ 0 :=
    fun signal core h => by simpa using (spawned_zero output _).mp h
  cases e with
  | ran mender replaced =>
    cases mender with
    | exited code =>
      have hzero : exitCode ((Ending.ran (.exited code) replaced).reply output).result.1 = 0 := by
        cases replaced
        · exact hexited code
        · exact hexited code
      simp [Ending.Shown, Ending.mender, hzero]
    | signaled signal core =>
      cases replaced with
      | true => exact iff_of_true rfl fun h => absurd h (hsignaled signal core)
      | false =>
        apply iff_of_false Bool.false_ne_true
        intro h
        simpa [Ending.mender] using h (hexited _)
  | notRun code =>
    apply iff_of_false id
    intro h
    simpa [Ending.mender] using h (hexited code)
  | shellKilled signal core => exact iff_of_true trivial fun h => absurd h (hsignaled signal core)
  | notWaited mender errno =>
    have hresult : ((Ending.notWaited mender errno).reply output).result.1 = errno := rfl
    rw [hresult, exitCode_eq_zero, ← Int.dvd_iff_emod_eq_zero, Ending.Shown, Ending.mender, Option.some_inj, imp_iff_not_or, or_comm]
  | notOpened errno =>
    have hresult : ((Ending.notOpened errno).reply output).result.1 = errno := rfl
    rw [hresult, exitCode_eq_zero, ← Int.dvd_iff_emod_eq_zero, Ending.Shown]
    exact ⟨fun hd hz => absurd hz hd, fun h hz => Option.some_ne_none _ (h hz).symm⟩

theorem honest_iff (hw : (w.find w.memory.childPid).any Installer.alive = true) :
    Honest sys uri output e w ↔ e.Shown := by
  rw [Honest, recorded_success sys hw, recorded_eq hw, shown_iff output]
  exact and_iff_right rfl

section samples

def installing : World :=
  { World.initial Sample.committed fun _ => none with
    memory := { Memory.initial with downloading := true, childPid := 7 }, installers := [⟨7, .running false⟩], registered := true }

theorem honest_killed : Honest Sample.bare (bytes "u") [] (.shellKilled ⟨9, by decide⟩ false) installing ↔
    (Ending.shellKilled ⟨9, by decide⟩ false).Shown := honest_iff (by decide)

theorem failed_install_recorded : ¬ Honest Sample.bare (bytes "u") [] (.ran (.exited 1) true) installing := by
  rintro ⟨-, h⟩
  have halive : (installing.find installing.memory.childPid).any Installer.alive = true := by decide
  have hzero : exitCode ((Ending.ran (.exited 1) true).reply []).result.1 = 0 :=
    (spawned_zero [] _).mpr ⟨1, rfl⟩
  exact absurd (h ((recorded_success Sample.bare halive).mpr hzero)) (by simp [Ending.mender])

end samples

end RouterCard.Captived.InstallStatus

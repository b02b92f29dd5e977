import RouterCard.Captived.System
import RouterCard.Text.Pattern

/-! The class `firmware_manager`: the update state read from the boot loader's
environment, the forked installer, and the callback that reaps it. -/

namespace RouterCard.Captived

open Text Interaction

namespace FirmwareManager

variable (sys : System)

def envPattern (envVar : Bytes) : Pattern := .literal (envVar ++ bytes "=") :: group [.many 1 dot]

def envValue (envVar : Bytes) : ℤ × Bytes → Option Bytes
  | (retCode, envString) => if retCode ≠ 0 then none else search (envPattern envVar) envString

def printenvCommand (envVar : Bytes) : Bytes := COMMAND_FW_PRINTENV ++ bytes " " ++ envVar

def getFwEnv (envVar : Bytes) : Prog (Option Bytes) := do
  let result ← sys.executeResult (printenvCommand envVar)
  return envValue envVar result

def stoi (s : Bytes) : Prog ℤ :=
  match Text.stoi s with
  | .ok n => return n
  | .error e => abort (.stoi e)

def stateFrom : Option Bytes → Option Bytes → Prog (Option Bytes)
  | some bootcount, some upgradeAvail => do
    let bootcountInt ← stoi bootcount
    if upgradeAvail = bytes "1" then
      store .downloading false
      if bootcountInt = 0 then
        return some FIRMWARE_STATE_DOWNLOADED
      else
        return some FIRMWARE_STATE_UNCOMMITTED
    else
      let downloading : Bool ← load .downloading
      if downloading then
        return some FIRMWARE_STATE_DOWNLOADING
      else
        return some FIRMWARE_STATE_NORMAL
  | _, _ => return none

def firmwareState : Prog (Option Bytes) := do
  let bootcount ← getFwEnv sys FIRMWARE_ENV_BOOT_COUNT
  let upgradeAvail ← getFwEnv sys FIRMWARE_ENV_UPGRADE_AVAIL
  stateFrom bootcount upgradeAvail

lemma firmwareState_eq : firmwareState sys =
    .call (S := calls) (.popen (sys.chroot ++ printenvCommand FIRMWARE_ENV_BOOT_COUNT)) fun r₁ =>
      .call (S := calls) (.popen (sys.chroot ++ printenvCommand FIRMWARE_ENV_UPGRADE_AVAIL)) fun r₂ =>
        stateFrom (envValue FIRMWARE_ENV_BOOT_COUNT (PopenReply.result r₁))
          (envValue FIRMWARE_ENV_UPGRADE_AVAIL (PopenReply.result r₂)) := rfl

-- The child's side of the fork is the one command `system_.execute(command, ...)`.
def installCommand (uri : Bytes) : Bytes :=
  sys.chroot ++ (COMMAND_MENDER_INSTALL ++ bytes " " ++ uri)

def download (uri : Bytes) : Prog ℤ := do
  let id : ℤ ← ask (.fork (installCommand sys uri))
  if id < 0 then
    return id
  else
    store .downloading true
    store .childPid id
    ask .replaceSignalEvent
    let added : ℤ ← ask .addSignalEvent
    if added ≠ 0 then
      return -1
    else
      return id

lemma download_eq (uri : Bytes) : download sys uri =
    .call (S := calls) (.fork (installCommand sys uri)) fun id =>
      if id < 0 then .done id
      else .call (S := calls) (.store .downloading true) fun _ => .call (S := calls) (.store .childPid id) fun _ =>
        .call (S := calls) .replaceSignalEvent fun _ => .call (S := calls) .addSignalEvent fun added =>
          .done (if added ≠ 0 then -1 else id) := by
  refine congrArg (Program.call (S := calls) (.fork (installCommand sys uri))) (funext fun id : ℤ => ?_)
  dsimp only [Program.bind]
  split_ifs
  · rfl
  · simp only [store_bind, Program.pure_eq, ← apply_ite]
    rfl

def waitFailedMessage (pid errno : ℤ) : Bytes :=
  bytes "ERROR - error while waiting for child process " ++ ofInt pid ++ bytes " to complete. \n" ++
    bytes "\terror code:" ++ ofInt errno ++ bytes "\n"

def exitMessage : Exit → Bytes
  | .killed _ => bytes "ERROR - mender process was killed.\n"
  | .exited status => bytes "mender exited with code: " ++ ofInt status ++ bytes "\n"
  | .dumped _ => bytes "ERROR - mender process encountered unexpected event.\n"

def onSigchld : Prog Unit := do
  let pid : ℤ ← load .childPid
  let waitResult : WaitReply ← ask (.waitid pid)
  match waitResult with
  | .failed errno =>
    let shown : ℤ ← load .childPid
    store .debugMessage (waitFailedMessage shown errno)
  | .unchanged => return ()
  | .ended how =>
    store .downloading false
    ask .deleteSignalEvent
    store .debugMessage (exitMessage how)

lemma onSigchld_eq : onSigchld =
    .call (S := calls) (.load .childPid) fun pid => .call (S := calls) (.waitid pid) fun
      | .failed errno => .call (S := calls) (.load .childPid) fun shown =>
        .call (S := calls) (.store .debugMessage (waitFailedMessage shown errno)) .done
      | .unchanged => .done ()
      | .ended how => .call (S := calls) (.store .downloading false) fun _ => .call (S := calls) .deleteSignalEvent fun _ =>
        .call (S := calls) (.store .debugMessage (exitMessage how)) .done := by
  refine congrArg (Program.call (S := calls) (.load .childPid)) (funext fun pid : ℤ => ?_)
  refine congrArg (Program.call (S := calls) (.waitid pid)) (funext fun r : WaitReply => ?_)
  cases r <;> rfl

end FirmwareManager

end RouterCard.Captived

import RouterCard.Captived.FirmwareManager
import RouterCard.Interaction.Host

/-! What the daemon runs in: its members, the boot loader's environment, the forked
installers, the SIGCHLD event and the file system, with the answer to every call and
the steps that other processes take in between. -/

namespace RouterCard.Captived

open Text Interaction

structure Memory where
  downloading : Bool
  childPid : ℤ
  debugMessage : Bytes
  uri : Bytes
  wifi : WifiFields

def Memory.initial : Memory := ⟨false, -1, [], [], [], [], [], false⟩

def Memory.get (m : Memory) : (f : Field) → f.Value
  | .downloading => m.downloading
  | .childPid => m.childPid
  | .debugMessage => m.debugMessage
  | .uri => m.uri
  | .wifi => m.wifi

def Memory.set (m : Memory) : (f : Field) → f.Value → Memory
  | .downloading, v => { m with downloading := v }
  | .childPid, v => { m with childPid := v }
  | .debugMessage, v => { m with debugMessage := v }
  | .uri, v => { m with uri := v }
  | .wifi, v => { m with wifi := v }

-- The texts of the two variables, `none` for one that is not set.
structure Env where
  bootcount : Option Bytes
  upgradeAvailable : Option Bytes
  deriving DecidableEq

def Env.installed : Env := ⟨some (bytes "0"), some (bytes "1")⟩

def Env.commit (e : Env) : Env := { e with upgradeAvailable := some (bytes "0") }

inductive InstallerState where
  | running (written : Bool)
  | zombie (how : Exit)
  deriving DecidableEq

structure Installer where
  pid : ℤ
  state : InstallerState
  deriving DecidableEq

inductive Node where
  | file (contents : Bytes)
  | link (target : Bytes)
  | directory
  | other
  deriving DecidableEq

abbrev Files := Bytes → Option Node

structure World where
  memory : Memory
  env : Env
  installers : List Installer
  registered : Bool
  caught : Bool
  files : Files
  loaded : Files

def World.initial (env : Env) (files : Files) : World :=
  ⟨.initial, env, [], false, false, files, files⟩

-- A SIGCHLD is kept for the event loop while its handler is installed, else it is lost.
def World.raise (w : World) : World := { w with caught := w.caught || w.registered }

def World.store (w : World) (f : Field) (v : f.Value) : World := { w with memory := w.memory.set f v }

def World.setFile (w : World) (path : Bytes) (n : Option Node) : World :=
  { w with files := Function.update w.files path n }

def World.find (w : World) (pid : ℤ) : Option Installer := w.installers.find? (·.pid = pid)

def Installer.alive (p : Installer) : Bool :=
  match p.state with
  | .running _ => true
  | .zombie _ => false

def Installer.unwritten (p : Installer) : Bool := p.state = .running false

def setState (pid : ℤ) (s : InstallerState) (l : List Installer) : List Installer :=
  l.map fun p => if p.pid = pid then ⟨pid, s⟩ else p

inductive Outcome where
  | done
  | failed (errno : ℤ)
  -- what a command prints and its wait status
  | reply (output : Bytes) (status : ℤ)
  | forked (pid : ℤ)
  -- the effect breaks off after so many bytes, or the command has it and still fails
  | partly (n : ℕ)
  | entries (l : List IfAddr)
  | garbage (s : Bytes)

def ECHILD : ℤ := 10

def spawned (output : Bytes) (status : ℤ) : PopenReply := ⟨true, output, status, ECHILD⟩

def printVariable (name : Bytes) : Option Bytes → PopenReply
  | some v => spawned (name ++ bytes "=" ++ v ++ [10]) 0
  | none => spawned [] 256

def printenv (sys : System) (command : Bytes) (e : Env) : Option PopenReply :=
  if command = sys.chroot ++ FirmwareManager.printenvCommand FIRMWARE_ENV_BOOT_COUNT then
    some (printVariable FIRMWARE_ENV_BOOT_COUNT e.bootcount)
  else if command = sys.chroot ++ FirmwareManager.printenvCommand FIRMWARE_ENV_UPGRADE_AVAIL then
    some (printVariable FIRMWARE_ENV_UPGRADE_AVAIL e.upgradeAvailable)
  else none

def answerPopen (sys : System) (command : Bytes) (w : World) : Outcome → Option (PopenReply × World)
  | .failed errno => some (⟨false, [], 0, errno⟩, w)
  | .done => (printenv sys command w.env).map fun r => (r, w.raise)
  | .reply output status =>
    if (printenv sys command w.env).isSome ∧ status = 0 then none
    else some (spawned output status, w.raise)
  | _ => none

def answerShell (sys : System) (command : Bytes) (w : World) : Outcome → Option (ℤ × World)
  | .failed _ => some (-1, w)
  | .done =>
    if command = sys.chroot ++ COMMAND_MENDER_COMMIT then some (0, { w.raise with env := w.env.commit })
    else if command = sys.chroot ++ COMMAND_RELOAD_CONNMAN then some (0, { w.raise with loaded := w.files })
    else some (0, w.raise)
  | .partly n =>
    if command = sys.chroot ++ COMMAND_MENDER_COMMIT then some (n, { w.raise with env := w.env.commit })
    else none
  | .reply _ status =>
    if (command = sys.chroot ++ COMMAND_MENDER_COMMIT ∨ command = sys.chroot ++ COMMAND_RELOAD_CONNMAN) ∧ status = 0 then
      none
    else some (status, w.raise)
  | _ => none

def answerFork (w : World) : Outcome → Option (ℤ × World)
  | .failed _ => some (-1, w)
  | .forked pid =>
    if 0 < pid ∧ w.find pid = none then
      some (pid, { w with installers := w.installers ++ [⟨pid, .running false⟩] })
    else none
  | _ => none

def answerWaitid (pid : ℤ) (w : World) : WaitReply × World :=
  match w.find pid with
  | none => (.failed ECHILD, w)
  | some ⟨_, .running _⟩ => (.unchanged, w)
  | some ⟨_, .zombie how⟩ =>
    (.ended how, { w with installers := w.installers.filter fun p => p.pid ≠ pid })

def fileKind : Node → FileKind
  | .file _ => .regular
  | .link _ => .link
  | .directory => .directory
  | .other => .other

def contentsOf : Option Node → Option Bytes
  | some (.file c) => some c
  | _ => none

-- A link with a relative text starts from its own directory.
def linked (path target : Bytes) : Bytes :=
  if target.head? = some 47 then target else (path.reverse.dropWhile (· ≠ 47)).reverse ++ target

def follow (files : Files) : ℕ → Bytes → Option Bytes
  | 0, _ => none
  | n + 1, path =>
    match files path with
    | some (.link target) => follow files n (linked path target)
    | _ => some path

-- The name that is opened: the kernel follows forty links (MAXSYMLINKS).
def opened (files : Files) (path : Bytes) : Option Bytes := follow files (40 + 1) path

-- A name that is free or has a regular file: where only system::write leaves files, no other
-- node stands.
def Regular (n : Option Node) : Prop := n = none ∨ ∃ c, n = some (.file c)

def contentAt (files : Files) (path : Bytes) : Option Bytes := (opened files path).bind fun p => contentsOf (files p)

def World.content (w : World) (path : Bytes) : Option Bytes := contentAt w.files path

def World.create (w : World) (path : Bytes) : Bool × World :=
  match opened w.files path with
  | none => (false, w)
  | some p =>
    match w.files p with
    | some .directory => (false, w)
    | some .other => (true, w)
    | _ => (true, w.setFile p (some (.file [])))

def World.amend (w : World) (path : Bytes) (f : Bytes → Bytes) : World :=
  match opened w.files path with
  | none => w
  | some p =>
    match w.files p with
    | some (.file c) => w.setFile p (some (.file (f c)))
    | _ => w

def targetOf : Option Node → Option Bytes
  | some (.link t) => some t
  | _ => none

def answer (sys : System) : (c : Call) → Outcome → World → Option (c.Reply × World)
  | .popen command, o, w => answerPopen sys command w o
  | .shell command, o, w => answerShell sys command w o
  | .fork _, o, w => answerFork w o
  | .waitid pid, .done, w => some (answerWaitid pid w)
  | .replaceSignalEvent, .done, w => some ((), { w with registered := false })
  | .addSignalEvent, .done, w => some (0, { w with registered := true })
  | .addSignalEvent, .failed _, w => some (-1, w)
  | .deleteSignalEvent, .done, w => some ((), { w with registered := false })
  | .readFile path, .done, w => some (w.content path, w)
  | .readFile _, .failed _, w => some (none, w)
  | .createFile path, .done, w => some (w.create path)
  | .createFile _, .failed _, w => some (false, w)
  | .writeFile path contents, .done, w => some (true, w.amend path (· ++ contents))
  | .writeFile path contents, .partly n, w => some (false, w.amend path (· ++ contents.take n))
  | .writeFile .., .failed _, w => some (false, w)
  | .closeFile _, .done, w => some (true, w)
  | .closeFile path, .partly n, w => some (false, w.amend path (·.take n))
  | .closeFile _, .failed _, w => some (false, w)
  | .rename old new, .done, w =>
    (w.files old).map fun n => (0, (w.setFile old none).setFile new (some n))
  | .rename .., .failed _, w => some (-1, w)
  | .lstat path, .done, w => some ((w.files path).map fileKind, w)
  | .lstat _, .failed _, w => some (none, w)
  | .remove path, .done, w => if (w.files path).isSome then some (0, w.setFile path none) else some (-1, w)
  | .remove _, .failed _, w => some (-1, w)
  | .symlink target link, .done, w =>
    if (w.files link).isSome then some (-1, w) else some (0, w.setFile link (some (.link target)))
  | .symlink .., .failed _, w => some (-1, w)
  | .readlink path size, .done, w => some ((targetOf (w.files path)).map (·.take size), w)
  | .readlink .., .failed _, w => some (none, w)
  | .getifaddrs, .entries l, w => some (l, w)
  | .getifaddrs, .failed _, w => some ([], w)
  | .load f, .done, w => some (w.memory.get f, w)
  | .store f v, .done, w => some ((), w.store f v)
  | .emptyOptional, .garbage s, w => some (s, w)
  | _, _, _ => none

inductive Act where
  | write (pid : ℤ)
  | exit (pid : ℤ) (how : Exit)
  | sigchld
  | dropSigchld
  | setBootcount (b : Option Bytes)
  | setEnv (e : Env)

-- Other processes than the installers and the daemon's own commands.
def Act.setsEnv : Act → Bool
  | .setBootcount _ | .setEnv _ => true
  | _ => false

def act : Act → World → Option World
  | .write pid, w =>
    if w.find pid = some ⟨pid, .running false⟩ then
      some { w with env := .installed, installers := setState pid (.running true) w.installers }
    else none
  | .exit pid how, w =>
    if (w.find pid).any Installer.alive then
      some { w.raise with installers := setState pid (.zombie how) w.installers }
    else none
  | .sigchld, w => some w.raise
  | .dropSigchld, w => if w.caught ∧ ¬ w.registered then some { w with caught := false } else none
  | .setBootcount b, w => some { w with env := { w.env with bootcount := b } }
  | .setEnv e, w => some { w with env := e }

abbrev host (sys : System) : Host calls where
  World := World
  Outcome := Outcome
  Act := Act
  answer := answer sys
  act := act

end RouterCard.Captived

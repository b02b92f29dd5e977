import RouterCard.Captived.Defines
import RouterCard.Captived.Json
import RouterCard.Interaction.Program

/-! The calls through which the daemon touches its surroundings and its own long-lived
members, and the class `system` of `system.hpp` written with them. -/

namespace RouterCard.Captived

open Text Interaction

inductive FileKind where
  | link
  | directory
  | regular
  | other
  deriving DecidableEq

inductive AddressFamily where
  | inet
  | inet6
  | other
  deriving DecidableEq

-- The address is the text that `inet_ntop` gives it; an entry may have none.
structure IfAddr where
  name : Bytes
  address : Option (AddressFamily × Bytes)
  running : Bool

structure PopenReply where
  opened : Bool
  output : Bytes
  returnCode : ℤ
  errno : ℤ
  deriving DecidableEq

def PopenReply.result (pipe : PopenReply) : ℤ × Bytes :=
  if !pipe.opened then (pipe.errno, [])
  else if pipe.returnCode = -1 then (pipe.errno, pipe.output)
  else (pipe.returnCode, pipe.output)

inductive Exit where
  | exited (status : ℤ)
  | killed (signal : ℤ)
  | dumped (signal : ℤ)
  deriving DecidableEq

inductive WaitReply where
  | failed (errno : ℤ)
  | unchanged
  | ended (how : Exit)

structure WifiFields where
  ipv4Addrs : List Bytes
  ipv6Addrs : List Bytes
  ssid : Bytes
  connected : Bool

-- Members of firmware_manager, firmware_uri and wifi_status.
inductive Field where
  | downloading
  | childPid
  | debugMessage
  | uri
  | wifi

abbrev Field.Value : Field → Type
  | .downloading => Bool
  | .childPid => ℤ
  | .debugMessage | .uri => Bytes
  | .wifi => WifiFields

inductive Abort where
  | stoi (e : StoiError)
  | outOfRange
  | nullString

inductive Call where
  | popen (command : Bytes)
  | shell (command : Bytes)
  | fork (command : Bytes)
  | waitid (pid : ℤ)
  | replaceSignalEvent
  | addSignalEvent
  | deleteSignalEvent
  | readFile (path : Bytes)
  | createFile (path : Bytes)
  | writeFile (path contents : Bytes)
  | closeFile (path : Bytes)
  | rename (old new : Bytes)
  | lstat (path : Bytes)
  | remove (path : Bytes)
  | symlink (target link : Bytes)
  | readlink (path : Bytes) (size : ℕ)
  | getifaddrs
  | load (f : Field)
  | store (f : Field) (v : f.Value)
  | emptyOptional
  | abort (a : Abort)

abbrev Call.Reply : Call → Type
  | .popen _ => PopenReply
  | .shell _ | .fork _ | .addSignalEvent | .rename .. | .remove _ | .symlink .. => ℤ
  | .waitid _ => WaitReply
  | .replaceSignalEvent | .deleteSignalEvent | .store .. => Unit
  | .readFile _ | .readlink .. => Option Bytes
  -- What happens to stand where the string would be.
  | .emptyOptional => Bytes
  | .createFile _ | .writeFile .. | .closeFile _ => Bool
  | .lstat _ => Option FileKind
  | .getifaddrs => List IfAddr
  | .load f => f.Value
  | .abort _ => Empty

abbrev calls : Signature := ⟨Call, Call.Reply⟩

abbrev Prog := Program calls

def ask (c : Call) : Prog c.Reply := Program.perform (S := calls) c
def load (f : Field) : Prog f.Value := ask (.load f)
def store (f : Field) (v : f.Value) : Prog Unit := ask (.store f v)

@[simp] lemma ask_bind {α : Type} (c : Call) (k : c.Reply → Prog α) : ask c >>= k = .call (S := calls) c k := rfl

@[simp] lemma load_bind {α : Type} (f : Field) (k : f.Value → Prog α) :
    load f >>= k = .call (S := calls) (.load f) k := rfl

@[simp] lemma store_bind {α : Type} (f : Field) (x : f.Value) (k : Unit → Prog α) :
    store f x >>= k = .call (S := calls) (.store f x) k := rfl

-- An exception escapes through libevent's C frames, and a string made from NULL is undefined
-- behaviour: in each case the daemon does not go on.
def abort {α : Type} (a : Abort) : Prog α := .call (S := calls) (.abort a) Empty.elim

@[simp] lemma abort_bind {α β : Type} (a : Abort) (k : α → Prog β) : abort a >>= k = abort a := by
  have hk : (fun r : Empty => Empty.elim r >>= k) = Empty.elim := funext fun r => r.elim
  exact congrArg (Program.call (S := calls) (.abort a)) hk

def isHexDigit (b : UInt8) : Bool := isDigit b || (97 ≤ b && b ≤ 102)

abbrev HexText := {s : Bytes // ∀ b ∈ s, isHexDigit b = true}

-- The vendored hash is a parameter: `hash256` is picosha2's `hash256_hex_string`.
structure System where
  chroot : Bytes
  hash256 : Bytes → HexText

namespace System

variable (sys : System)

def execute (command : Bytes) : Prog ℤ := ask (.shell (sys.chroot ++ command))

def executeResult (command : Bytes) : Prog (ℤ × Bytes) := do
  let pipe : PopenReply ← ask (.popen (sys.chroot ++ command))
  return pipe.result

-- `buf << in.rdbuf()` sets failbit when it inserts no character.
def read (filename : Bytes) : Prog (Option Bytes) := do
  let buf : Option Bytes ← ask (.readFile (sys.chroot ++ filename))
  return buf.filter (· ≠ [])

def readline (filename : Bytes) : Prog (Option Bytes) := do
  let buf : Option Bytes ← ask (.readFile (sys.chroot ++ filename))
  return buf.bind getline

def tempFile (filename : Bytes) : Bytes := sys.chroot ++ filename ++ bytes "_XXXXXX"

def write (filename contents : Bytes) : Prog Bool := do
  let opened : Bool ← ask (.createFile (sys.tempFile filename))
  let written : Bool ← if opened then ask (.writeFile (sys.tempFile filename) contents) else pure true
  let closed : Bool ← if opened then ask (.closeFile (sys.tempFile filename)) else pure false
  if !(opened && written && closed) then
    return false
  let res : ℤ ← ask (.rename (sys.tempFile filename) (sys.chroot ++ filename))
  return res = 0

lemma write_eq (filename contents : Bytes) : sys.write filename contents =
    .call (S := calls) (.createFile (sys.tempFile filename)) fun opened =>
      if opened = true then
        .call (S := calls) (.writeFile (sys.tempFile filename) contents) fun written =>
          .call (S := calls) (.closeFile (sys.tempFile filename)) fun closed =>
            if (written && closed) = true then
              .call (S := calls) (.rename (sys.tempFile filename) (sys.chroot ++ filename)) fun res => .done (decide (res = 0))
            else .done false
      else .done false := by
  refine congrArg (Program.call (S := calls) (.createFile _)) (funext fun opened : Bool => ?_)
  cases opened with
  | false => rfl
  | true =>
    refine congrArg (Program.call (S := calls) (.writeFile ..)) (funext fun written : Bool => ?_)
    refine congrArg (Program.call (S := calls) (.closeFile _)) (funext fun closed : Bool => ?_)
    cases written <;> cases closed <;> rfl

def writeline (filename line : Bytes) : Prog Bool := sys.write filename (line ++ [10])

def symlinkTarget (linkPath : Bytes) : Prog (Option Bytes) := do
  let buf : Option Bytes ← ask (.readlink (sys.chroot ++ linkPath) ROUTER_CARD_PATH_MAX)
  return buf.filter fun target => target.length < ROUTER_CARD_PATH_MAX

def setSymlinkTarget (target link : Bytes) : Prog Bool := do
  let fqTarget := sys.chroot ++ target
  let fqLink := sys.chroot ++ link
  let stat : Option FileKind ← ask (.lstat fqLink)
  match stat with
  | some .link =>
    let _ : ℤ ← ask (.remove fqLink)
    let result : ℤ ← ask (.symlink fqTarget fqLink)
    return result = 0
  | some _ => return false
  | none =>
    let result : ℤ ← ask (.symlink fqTarget fqLink)
    return result = 0

def makeLink (fqTarget fqLink : Bytes) : Prog Bool := do
  let result : ℤ ← ask (.symlink fqTarget fqLink)
  return result = 0

def createSymlinkToConfigDir (target link : Bytes) : Prog Bool := do
  let fqTarget := sys.chroot ++ target
  let fqLink := sys.chroot ++ link
  let stat : Option FileKind ← ask (.lstat fqLink)
  match stat with
  | some .link =>
    let buf : Option Bytes ← ask (.readlink fqLink 512)
    if buf.any fun oldTarget => oldTarget ≠ [] && oldTarget = fqTarget then
      return true
    else
      let removed : ℤ ← ask (.remove fqLink)
      if removed ≠ 0 then return false else makeLink fqTarget fqLink
  | some .directory =>
    let res : ℤ ← ask (.shell (bytes "rm -rf " ++ fqLink))
    if res ≠ 0 then return false else makeLink fqTarget fqLink
  | some .regular =>
    let removed : ℤ ← ask (.remove fqLink)
    if removed ≠ 0 then return false else makeLink fqTarget fqLink
  | _ => makeLink fqTarget fqLink

end System

end RouterCard.Captived

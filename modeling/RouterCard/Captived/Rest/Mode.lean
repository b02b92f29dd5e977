import RouterCard.Captived.Rest.Resource
import RouterCard.Text.Pattern

/-! The resources that reboot the card and that choose the mode it boots into. -/

namespace RouterCard.Captived

open Text Interaction

namespace Reboot

variable (sys : System)

def execute : Prog ℤ := sys.execute FILE_REBOOT_EXE

def post (_ : Body) : Prog Resp := do
  let result ← execute sys
  if result = 0 then
    return Resource.ok (Json.ofString (bytes "Reboot Scheduled"))
  else
    return Resource.internalServerError (bytes "Failed to reboot with error code " ++ ofInt result)

def resource (path : Bytes) : Resource := { Resource.base path with post := post sys }

end Reboot

namespace Mode

variable (sys : System)

def isValidMode (mode : Bytes) : Bool := mode = MODE_SECURE_HOST || mode = MODE_PASSTHROUGH

-- find_last_of on one character; `none` is npos.
def findLastOf (s : Bytes) (c : UInt8) : Option ℕ :=
  (s.reverse.findIdx? (· == c)).map fun i => s.length - 1 - i

def sizeT (n : ℤ) : ℕ := (n % 2 ^ 64).toNat

def position (i : Option ℕ) : ℕ := i.getD (2 ^ 64 - 1)

-- substr takes what is there of the `count` characters, and throws past the end.
def substr (s : Bytes) (pos count : ℕ) : Option Bytes :=
  if pos ≤ s.length then some ((s.drop pos).take count) else none

def modeOfLink (fqLink : Bytes) : Option Bytes :=
  let period := position (findLastOf fqLink 46)
  let slash := position (findLastOf fqLink 47)
  substr fqLink (sizeT (slash + 1)) (sizeT (period - slash - 1))

def routerModeConfig : Prog (Option Bytes) := do
  let fqLink ← sys.symlinkTarget LINK_MODE
  match fqLink with
  | none => return none
  | some fqLink =>
    match modeOfLink fqLink with
    | some mode => return some mode
    | none => abort .outOfRange

def targetName (newMode : Bytes) : Bytes := PATH_MODE_TARGET ++ bytes "/" ++ newMode ++ bytes ".target"

def setRouterModeConfig (newMode : Bytes) : Prog Bool :=
  if !isValidMode newMode then return false
  else sys.setSymlinkTarget (targetName newMode) LINK_MODE

def modePattern : Pattern :=
  group [.oneOf [ MODE_PASSTHROUGH, MODE_SECURE_HOST, MODE_SECURE_LAN]] ++ [.literal (bytes ".target")]

def runningMode : ℤ × Bytes → Option Bytes
  | (retCode, result) => if retCode ≠ 0 then none else search modePattern result

def routerMode : Prog (Option Bytes) := do
  let result ← sys.executeResult COMMAND_GET_ACTIVE_TARGETS
  return runningMode result

def setRouterMode (newMode : Bytes) : Prog Bool := do
  if !isValidMode newMode then
    return false
  else
    let linked ← setRouterModeConfig sys newMode
    if !linked then
      return false
    else
      let running ← routerMode sys
      if some newMode ≠ running then
        let rc ← Reboot.execute sys
        return rc = 0
      else
        return true

def get (_ : Body) : Prog Resp := do
  let tempMode ← routerMode sys
  match tempMode with
  | none => return Resource.internalServerError (bytes "Error: failed to find router mode.")
  | some mode => return Resource.ok (Json.ofString mode)

def put (body : Body) : Prog Resp :=
  match body with
  | some (.string newval) =>
    if !isValidMode newval.val then return Resource.badRequest "Error: mode is invalid."
    else do
      let changed ← setRouterMode sys newval.val
      if !changed then
        return Resource.internalServerError (bytes "Error: failed to update mode.")
      else
        let tempMode ← routerModeConfig sys
        match tempMode with
        | none => return Resource.internalServerError (bytes "Error: failed to find router mode.")
        | some mode => return Resource.ok (Json.ofString mode)
  | _ => return Resource.badRequest "Error: request body is not a JSON string."

def resource (path : Bytes) : Resource := { Resource.base path with get := get sys, put := put sys }

end Mode

end RouterCard.Captived

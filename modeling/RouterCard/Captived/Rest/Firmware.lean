import RouterCard.Captived.FirmwareManager
import RouterCard.Captived.Rest.FileResources

namespace RouterCard.Captived

open Text Interaction

namespace FirmwareUri

def get (_ : Body) : Prog Resp := do
  let uri : Bytes ← load .uri
  if uri = [] then
    return Resource.ok (some .null)
  else
    return Resource.ok (Json.ofString uri)

def setUri (uri : Bytes) : Prog Unit := store .uri uri

def resource (path : Bytes) : Resource := { Resource.base path with get := get }

end FirmwareUri

namespace FirmwareUpdateState

variable (sys : System)

def get (_ : Body) : Prog Resp := do
  let fwState ← FirmwareManager.firmwareState sys
  match fwState with
  | none => return Resource.internalServerError (bytes "Error: failed to read resource: update_state")
  | some fwState => return Resource.ok (Json.ofString fwState)

def resource (path : Bytes) : Resource := { Resource.base path with get := get sys }

end FirmwareUpdateState

namespace Firmware

variable (sys : System)

-- The constructor adds update_URI; main adds the other children.
def children : List Child :=
  [⟨bytes "update_URI", FirmwareUri.resource URI_FIRMWARE_UPDATE_URI, true⟩,
    ⟨bytes "running_version",
      ArtifactInfo.resource sys FILE_FIRMWARE_VERSION FirmwareVersion.pattern URI_FIRMWARE_RUNNING_VERSION, false⟩,
    ⟨bytes "running_image",
      ArtifactInfo.resource sys FILE_FIRMWARE_VERSION FirmwareImage.pattern URI_FIRMWARE_VERSION, false⟩,
    ⟨bytes "update_state", FirmwareUpdateState.resource sys URI_FIRMWARE_UPDATE_STATE, false⟩]

def get : Body → Prog Resp := AggregateResource.get (children sys)

lemma get_eq (b : Body) : get sys b = (do
    let obj ← AggregateResource.addResource (.object [])
      ⟨bytes "update_URI", FirmwareUri.resource URI_FIRMWARE_UPDATE_URI, true⟩
    let obj ← AggregateResource.addResource obj ⟨bytes "running_version",
      ArtifactInfo.resource sys FILE_FIRMWARE_VERSION FirmwareVersion.pattern URI_FIRMWARE_RUNNING_VERSION, false⟩
    let obj ← AggregateResource.addResource obj ⟨bytes "running_image",
      ArtifactInfo.resource sys FILE_FIRMWARE_VERSION FirmwareImage.pattern URI_FIRMWARE_VERSION, false⟩
    let obj ← AggregateResource.addResource obj
      ⟨bytes "update_state", FirmwareUpdateState.resource sys URI_FIRMWARE_UPDATE_STATE, false⟩
    return Resource.ok (some obj)) := by
  simp only [get, AggregateResource.get, children, AggregateResource.addResources, bind_assoc]
  rfl

def start (uri : Bytes) : Prog Resp := do
  FirmwareUri.setUri uri
  let pid ← FirmwareManager.download sys uri
  if pid ≤ 0 then
    return Resource.internalServerError
      (bytes "Error: system encountered an error attempting to download firmware.")
  else
    get sys (some .null)

def started (pid : ℤ) : Prog Resp :=
  if pid ≤ 0 then
    return Resource.internalServerError
      (bytes "Error: system encountered an error attempting to download firmware.")
  else
    get sys (some .null)

lemma start_eq (uri : Bytes) : start sys uri =
    .call (S := calls) (.store .uri uri) fun _ => FirmwareManager.download sys uri >>= started sys := rfl

def accept (body : Body) : Prog Resp :=
  match body with
  | some (.object members) =>
    match Json.objectGet (.object members) (bytes "update_URI") with
    | none => return Resource.badRequest "Error: 'update_URI' element is missing."
    | some (.string uri) => start sys uri.val
    | some _ => return Resource.badRequest "Error: 'update_URI' value must be a string."
  | _ => return Resource.badRequest "Error: request body is not a JSON object."

def put (body : Body) : Prog Resp := do
  let fwState ← FirmwareManager.firmwareState sys
  match fwState with
  | none =>
    return Resource.internalServerError
      (bytes "Error: server is unable to determine if an update is in progress.")
  | some fwState =>
    if fwState ≠ FIRMWARE_STATE_NORMAL then
      return Resource.badRequest "Error: a previous update is in progress."
    else
      accept sys body

def resource : Resource := { Resource.base URI_FIRMWARE with get := get sys, put := put sys }

end Firmware

namespace FirmwareCommit

variable (sys : System)

def execute : Prog ℤ := sys.execute COMMAND_MENDER_COMMIT

def commit : Prog Resp := do
  let result ← execute sys
  if result = 0 then
    Firmware.get sys none
  else
    return Resource.internalServerError
      (bytes "Failed to firmware_commit with error code: " ++ ofInt result)

def put (_ : Body) : Prog Resp := do
  let state ← FirmwareManager.firmwareState sys
  match state with
  | none => return Resource.badRequest "Firmware cannot be committed because its state cannot be found."
  | some state =>
    if state ≠ FIRMWARE_STATE_NORMAL ∧ state ≠ FIRMWARE_STATE_UNCOMMITTED then
      return (.badRequest, Json.ofString (bytes "Firmware cannot be committed in state: " ++ state))
    else
      commit sys

def resource : Resource := { Resource.base URI_FIRMWARE_COMMIT with put := put sys }

end FirmwareCommit

end RouterCard.Captived

import RouterCard.Captived.Rest.Resource
import RouterCard.Text.Pattern

namespace RouterCard.Captived

open Text Interaction

namespace LineResource

variable (sys : System) (filename : Bytes) (writable : Bool)

def line : Prog (Option Bytes) := sys.readline filename

def setLine (newLine : Bytes) : Prog Bool :=
  if !writable then return false else sys.writeline filename newLine

def get (_ : Body) : Prog Resp := do
  let lineOpt ← line sys filename
  match lineOpt with
  | none => return Resource.internalServerError (bytes "Error: failed to read resource")
  | some line => return Resource.ok (Json.ofString line)

def put (path : Bytes) (body : Body) : Prog Resp :=
  if !writable then (Resource.base path).put body
  else
    match body with
    | some (.string newval) => do
      let done ← setLine sys filename writable newval.val
      if !done then
        return Resource.internalServerError (bytes "Error: failed to update resource.")
      else
        get sys filename (some .null)
    | _ => return Resource.badRequest "Error: request body is not a JSON string."

def resource (path : Bytes) : Resource :=
  { Resource.base path with get := get sys filename, put := put sys filename writable path }

end LineResource

def isWordOrDash (b : UInt8) : Bool := isWord b || b == 45

-- The class [0-9a-hA-H].
def isHashChar (b : UInt8) : Bool := isDigit b || (97 ≤ b && b ≤ 104) || (65 ≤ b && b ≤ 72)

def digits : Atom := .many 1 isDigit

def versionPattern : Pattern :=
  [digits, .literal (bytes "."), digits, .literal (bytes "."), digits, .literal (bytes "-"), digits]

namespace FirmwareImage

def pattern : Pattern := .literal (bytes "artifact_name=") :: group [.many 0 dot]

end FirmwareImage

namespace FirmwareVersion

def pattern : Pattern :=
  [.literal (bytes "artifact_name="), .many 1 isWordOrDash, .literal (bytes "-v")] ++
    group versionPattern ++ [.literal (bytes "-g"), .many 1 isHashChar, .lineEnd]

end FirmwareVersion

namespace Model

def pattern : Pattern :=
  .literal (bytes "artifact_name=") :: group [.many 1 isWordOrDash] ++ .literal (bytes "-v") ::
    versionPattern ++ [.literal (bytes "-g"), .many 1 isHashChar, .lineEnd]

end Model

namespace ArtifactInfo

variable (sys : System) (filename : Bytes) (pattern : Pattern)

-- image_name, version and model_number differ in their pattern only.
def parse : Prog (Option Bytes) := do
  let lineOpt ← sys.readline filename
  return lineOpt.bind (search pattern)

def get (_ : Body) : Prog Resp := do
  let value ← parse sys filename pattern
  match value with
  | none => return Resource.internalServerError (bytes "Error: failed to read resource")
  | some value => return Resource.ok (Json.ofString value)

def resource (path : Bytes) : Resource :=
  { Resource.base path with get := get sys filename pattern }

end ArtifactInfo

def FirmwareImage.imageName (sys : System) (filename : Bytes) : Prog (Option Bytes) :=
  ArtifactInfo.parse sys filename FirmwareImage.pattern

def FirmwareVersion.version (sys : System) (filename : Bytes) : Prog (Option Bytes) :=
  ArtifactInfo.parse sys filename FirmwareVersion.pattern

def Model.modelNumber (sys : System) (filename : Bytes) : Prog (Option Bytes) :=
  ArtifactInfo.parse sys filename Model.pattern

namespace Uptime

variable (sys : System)

def seconds : Prog (Option Bytes) := do
  let line ← sys.readline (bytes "/proc/uptime")
  return line.bind doubleText

def get (_ : Body) : Prog Resp := do
  let secondsOpt ← seconds sys
  match secondsOpt with
  | none => return Resource.internalServerError (bytes "Error: failed to read uptime")
  | some seconds => return Resource.ok (some (.real seconds))

def resource (path : Bytes) : Resource := { Resource.base path with get := get sys }

end Uptime

example : search Model.pattern (bytes "artifact_name=xaprw001-v2-v1.0.13-16-g28c001d") =
    some (bytes "xaprw001-v2") := by decide

end RouterCard.Captived

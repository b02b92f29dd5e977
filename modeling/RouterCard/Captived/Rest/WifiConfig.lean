import RouterCard.Captived.Rest.Resource

namespace RouterCard.Captived.WifiConfig

open Text Interaction

variable (sys : System) (configFile : Bytes)

def sha256Hex (s : Bytes) : Bytes := (sys.hash256 s).val

def contents : Prog (Option Bytes) := sys.read configFile

def sha256 : Prog (Option Bytes) := do
  let contentsStr ← contents sys configFile
  return contentsStr.map (sha256Hex sys)

-- `*sha256()`, also where the optional is empty.
def deref : Option Bytes → Prog Bytes
  | some hash => return hash
  | none => ask .emptyOptional

def setContents (newContents : Bytes) : Prog Bool := do
  let hash ← deref (← sha256 sys configFile)
  if sha256Hex sys newContents = hash then
    return true
  else
    let written ← sys.write configFile newContents
    if written then
      let _ ← sys.execute COMMAND_RELOAD_CONNMAN
      return true
    else
      return false

def report (contentsStr : Bytes) : Json :=
  ((Json.object []).objectSet (bytes "contents") (Json.ofString contentsStr)).objectSet (bytes "sha256")
    (Json.ofString (sha256Hex sys contentsStr))

def get (_ : Body) : Prog Resp := do
  let contentsStr ← contents sys configFile
  match contentsStr with
  | none => return Resource.internalServerError (bytes "Error: failed to read config")
  | some contentsStr => return Resource.ok (some (report sys contentsStr))

def put (body : Body) : Prog Resp :=
  match body with
  | some (.object members) =>
    match Json.objectGet (.object members) (bytes "contents") with
    | none => return Resource.badRequest "Error:  'contents' element is missing."
    | some (.string newval) => do
      let done ← setContents sys configFile newval.val
      if !done then
        return Resource.internalServerError (bytes "Error: failed to update config")
      else
        get sys configFile (some .null)
    | some _ => return Resource.badRequest "Error: 'contents' value is not a string."
  | _ => return Resource.badRequest "Error: request body is not a JSON object."

def resource (path : Bytes) : Resource :=
  { Resource.base path with get := get sys configFile, put := put sys configFile }

end RouterCard.Captived.WifiConfig

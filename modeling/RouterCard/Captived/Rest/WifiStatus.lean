import RouterCard.Captived.Rest.Resource
import RouterCard.Text.Pattern

namespace RouterCard.Captived.WifiStatus

open Text Interaction

variable (sys : System)

def resetConnection (_ : WifiFields) : WifiFields := ⟨[], [], [], false⟩

def addEntry (f : WifiFields) (ifa : IfAddr) : WifiFields :=
  if ifa.name ≠ WIFI_INTERFACE_NAME then f
  else
    match ifa.address with
    | some (.inet, addr) =>
      { f with ipv4Addrs := f.ipv4Addrs ++ [addr], connected := f.connected || ifa.running }
    | some (.inet6, addr) =>
      { f with ipv6Addrs := f.ipv6Addrs ++ [addr], connected := f.connected || ifa.running }
    | _ => f

def refreshConnectionStatus : Prog Unit := do
  let fields : WifiFields ← load .wifi
  store .wifi (resetConnection fields)
  let entries : List IfAddr ← ask .getifaddrs
  let fields : WifiFields ← load .wifi
  store .wifi (entries.foldl addEntry fields)

def ssidPattern : Pattern := .literal (bytes "SSID: ") :: group [.many 0 dot]

def ssidOf : ℤ × Bytes → Bytes
  | (retCode, result) => if retCode ≠ 0 then [] else (search ssidPattern result).getD []

def refreshSsid : Prog Unit := do
  let result ← sys.executeResult COMMAND_GET_SSID
  let fields : WifiFields ← load .wifi
  store .wifi { fields with ssid := ssidOf result }

def addresses (addrs : List Bytes) : Json :=
  addrs.foldl (fun arr addr => arr.arrayAppend (Json.ofString addr)) (.array [])

def report (f : WifiFields) : Json :=
  ((((Json.object []).objectSet (bytes "connected") (some (.boolean f.connected))).objectSet
    (bytes "IPv4_addresses") (some (addresses f.ipv4Addrs))).objectSet
    (bytes "IPv6_addresses") (some (addresses f.ipv6Addrs))).objectSet
    (bytes "SSID") (Json.ofString f.ssid)

def get (_ : Body) : Prog Resp := do
  refreshConnectionStatus
  refreshSsid sys
  let fields : WifiFields ← load .wifi
  return Resource.ok (some (report fields))

def resource (path : Bytes) : Resource := { Resource.base path with get := get sys }

end RouterCard.Captived.WifiStatus

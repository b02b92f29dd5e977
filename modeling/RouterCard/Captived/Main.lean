import RouterCard.Captived.Rest.Firmware
import RouterCard.Captived.Rest.Mode
import RouterCard.Captived.Rest.WifiConfig
import RouterCard.Captived.Rest.WifiStatus

namespace RouterCard.Captived.Main

open Text Interaction

variable (sys : System)

def line (uri file : Bytes) : Resource := LineResource.resource sys file false uri

def serialNumber : Resource := line sys URI_SERIAL_NUMBER FILE_SERIAL_NUMBER
def macAddr1 : Resource := line sys URI_WIFI_MAC_ADDRESS_1 FILE_WIFI_MAC_ADDRESS_1
def macAddr2 : Resource := line sys URI_WIFI_MAC_ADDRESS_2 FILE_WIFI_MAC_ADDRESS_2
def macAddr3 : Resource := line sys URI_WIFI_MAC_ADDRESS_3 FILE_WIFI_MAC_ADDRESS_3
def macAddr4 : Resource := line sys URI_WIFI_MAC_ADDRESS_4 FILE_WIFI_MAC_ADDRESS_4

def macAddrs : Resource :=
  AggregateResource.resource URI_WIFI_MAC_ADDRESS
    [⟨bytes "1", macAddr1 sys, false⟩, ⟨bytes "2", macAddr2 sys, false⟩,
      ⟨bytes "3", macAddr3 sys, false⟩, ⟨bytes "4", macAddr4 sys, false⟩]

def controlAddr : Resource := line sys URI_ENF_CONTROL_ADDRESS FILE_ENF_CONTROL_ADDRESS
def dataAddr : Resource := line sys URI_ENF_DATA_ADDRESS FILE_ENF_DATA_ADDRESS

def firmwareImage : Resource :=
  ArtifactInfo.resource sys FILE_FIRMWARE_VERSION FirmwareImage.pattern URI_FIRMWARE_VERSION

def modelNumber : Resource := ArtifactInfo.resource sys FILE_FIRMWARE_VERSION Model.pattern URI_MODEL

def wifiConfigPassthrough : Resource :=
  WifiConfig.resource sys FILE_WIFI_CONFIG_PASSTHROUGH URI_WIFI_CONFIG_PASSTHROUGH

def wifiConfigSecure : Resource :=
  WifiConfig.resource sys FILE_WIFI_CONFIG_SECURE_HOST URI_WIFI_CONFIG_SECURE

def wifiConfigs : Resource :=
  AggregateResource.resource URI_WIFI_CONFIG
    [⟨bytes "passthrough", wifiConfigPassthrough sys, false⟩, ⟨bytes "secure", wifiConfigSecure sys, false⟩]

def wifiStatus : Resource := WifiStatus.resource sys URI_WIFI_STATUS

def wifi : Resource :=
  AggregateResource.resource URI_WIFI
    [⟨bytes "config", wifiConfigs sys, false⟩, ⟨bytes "status", wifiStatus sys, false⟩]

def uptime : Resource := Uptime.resource sys URI_UPTIME
def reboot : Resource := Reboot.resource sys URI_REBOOT
def routerMode : Resource := Mode.resource sys URI_ROUTER_MODE

def root : Resource :=
  AggregateResource.resource URI_ROUTER_STATUS
    [⟨bytes "serial_number", serialNumber sys, false⟩, ⟨bytes "firmware_version", firmwareImage sys, false⟩,
      ⟨bytes "firmware", Firmware.resource sys, false⟩, ⟨bytes "model", modelNumber sys, false⟩,
      ⟨bytes "mac_address", macAddrs sys, false⟩, ⟨bytes "control_address", controlAddr sys, false⟩,
      ⟨bytes "data_address", dataAddr sys, false⟩, ⟨bytes "mode", routerMode sys, false⟩,
      ⟨bytes "uptime", uptime sys, false⟩, ⟨bytes "wifi", wifi sys, false⟩]

def registered : List Resource :=
  [serialNumber sys, macAddr1 sys, macAddr2 sys, macAddr3 sys, macAddr4 sys, macAddrs sys,
    controlAddr sys, dataAddr sys, firmwareImage sys, Firmware.resource sys, FirmwareCommit.resource sys,
    modelNumber sys, routerMode sys, uptime sys, wifiConfigPassthrough sys, wifiConfigSecure sys,
    wifiConfigs sys, wifiStatus sys, wifi sys, reboot sys, root sys]

end RouterCard.Captived.Main

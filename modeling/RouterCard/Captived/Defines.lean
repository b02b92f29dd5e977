import RouterCard.Text.Bytes

namespace RouterCard.Captived

open Text

def FILE_SERIAL_NUMBER := bytes "/rom/serial"
def FILE_WIFI_MAC_ADDRESS_1 := bytes "/rom/mac_address/1"
def FILE_WIFI_MAC_ADDRESS_2 := bytes "/rom/mac_address/2"
def FILE_WIFI_MAC_ADDRESS_3 := bytes "/rom/mac_address/3"
def FILE_WIFI_MAC_ADDRESS_4 := bytes "/rom/mac_address/4"
def FILE_ENF_CONTROL_ADDRESS := bytes "/data/enftun/enf1/address"
def FILE_ENF_DATA_ADDRESS := bytes "/data/enftun/enf0/address"
def FILE_FIRMWARE_VERSION := bytes "/etc/mender/artifact_info"
def FILE_WIFI_CONFIG_PASSTHROUGH := bytes "/data/connman/passthrough/wifi.config"
def FILE_WIFI_CONFIG_SECURE_HOST := bytes "/data/connman/secure-host/wifi.config"

def DIR_WIFI_CONFIG_SECURE_HOST := bytes "/data/connman/secure-host"
def DIR_WIFI_CONFIG_SECURE_LAN := bytes "/data/connman/secure-lan"

def FILE_REBOOT_EXE := bytes "/sbin/reboot"
def LINK_MODE := bytes "/data/systemd/system/default.target"
def PATH_MODE_TARGET := bytes "/etc/systemd/system"

def COMMAND_GET_ACTIVE_TARGETS := bytes "/bin/systemctl list-units --type target"
def COMMAND_RELOAD_CONNMAN := bytes "/bin/systemctl kill -s HUP connman.service"
def COMMAND_GET_SSID := bytes "/sbin/iw dev wlan0 link"
def COMMAND_FW_PRINTENV := bytes "/sbin/fw_printenv"
def COMMAND_MENDER_INSTALL := bytes "/bin/mender -install"
def COMMAND_MENDER_COMMIT := bytes "/bin/mender -commit"

def URI_SERIAL_NUMBER := bytes "/serial_number"
def URI_WIFI_MAC_ADDRESS := bytes "/mac_address"
def URI_WIFI_MAC_ADDRESS_1 := bytes "/mac_address/1"
def URI_WIFI_MAC_ADDRESS_2 := bytes "/mac_address/2"
def URI_WIFI_MAC_ADDRESS_3 := bytes "/mac_address/3"
def URI_WIFI_MAC_ADDRESS_4 := bytes "/mac_address/4"
def URI_ENF_CONTROL_ADDRESS := bytes "/control_address"
def URI_ENF_DATA_ADDRESS := bytes "/data_address"
def URI_FIRMWARE_VERSION := bytes "/firmware_version"
def URI_FIRMWARE := bytes "/firmware"
def URI_FIRMWARE_COMMIT := bytes "/firmware/commit"
def URI_FIRMWARE_UPDATE_STATE := bytes "/firmware/update_state"
def URI_FIRMWARE_UPDATE_URI := bytes "/firmware/update_uri"
def URI_FIRMWARE_RUNNING_VERSION := bytes "/firmware/running_version"
def URI_MODEL := bytes "/model"
def URI_ROUTER_MODE := bytes "/mode"
def URI_ROUTER_STATUS := bytes "/"
def URI_UPTIME := bytes "/uptime"
def URI_WIFI := bytes "/wifi"
def URI_WIFI_CONFIG := bytes "/wifi/config"
def URI_WIFI_CONFIG_PASSTHROUGH := bytes "/wifi/config/passthrough"
def URI_WIFI_CONFIG_SECURE := bytes "/wifi/config/secure"
def URI_WIFI_STATUS := bytes "/wifi/status"
def URI_REBOOT := bytes "/reboot"

def MODE_PASSTHROUGH := bytes "passthrough"
def MODE_SECURE_HOST := bytes "secure-host"
def MODE_SECURE_LAN := bytes "secure-lan"

def FIRMWARE_ENV_BOOT_COUNT := bytes "bootcount"
def FIRMWARE_ENV_UPGRADE_AVAIL := bytes "upgrade_available"

def FIRMWARE_STATE_NORMAL := bytes "normal"
def FIRMWARE_STATE_DOWNLOADING := bytes "downloading"
def FIRMWARE_STATE_DOWNLOADED := bytes "downloaded"
def FIRMWARE_STATE_UNCOMMITTED := bytes "uncommitted"

def ROUTER_CARD_PATH_MAX : ℕ := 1024

def WIFI_INTERFACE_NAME := bytes "wlan0"

end RouterCard.Captived

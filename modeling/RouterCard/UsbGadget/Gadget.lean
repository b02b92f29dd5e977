import RouterCard.Interaction.Program
import RouterCard.UsbGadget.IdentityFiles

namespace RouterCard.UsbGadget

open Text Interaction

/-- A pointer variable, `none` while it is not set or NULL. -/
abbrev Pointer := Option ℕ

inductive FunctionType where
  | acm
  | ecm
  | hss
  deriving DecidableEq

structure GadgetAttrs where
  bcdUSB : ℕ
  bDeviceClass : ℕ
  bDeviceSubClass : ℕ
  bDeviceProtocol : ℕ
  bMaxPacketSize0 : ℕ
  idVendor : ℕ
  idProduct : ℕ
  bcdDevice : ℕ

structure GadgetStrs where
  manufacturer : Bytes
  product : Bytes
  serial : Option Block

structure NetAttrs where
  hostAddr : EtherAddr
  devAddr : EtherAddr
  ifname : Bytes
  qmult : ℕ

/-- What a call that makes something returns, and what it leaves in the variable it is given. -/
structure Made where
  ret : ℤ
  out : Pointer

inductive Call where
  | init (path : Bytes)
  | createGadget (state : Pointer) (name : Bytes) (attrs : GadgetAttrs) (strs : GadgetStrs)
  | createFunction (gadget : Pointer) (type : FunctionType) (inst : Bytes) (attrs : Option NetAttrs)
  | createConfig (gadget : Pointer) (id : ℕ) (label : Bytes) (configuration : Bytes)
  | addConfigFunction (config : Pointer) (name : Bytes) (function : Pointer)
  | enableGadget (gadget : Pointer)
  | cleanup (state : Pointer)
  | getGadget (state : Pointer) (name : Bytes)
  | disableGadget (gadget : Pointer)
  | rmGadget (gadget : Pointer)
  -- print_usbg_error
  | printError (message : Bytes) (code : ℤ)
  | printUsage (program : Bytes)

abbrev Call.Reply : Call → Type
  | .init _ | .createGadget .. | .createFunction .. | .createConfig .. => Made
  | .addConfigFunction .. | .enableGadget _ | .disableGadget _ | .rmGadget _ => ℤ
  | .getGadget .. => Pointer
  | .cleanup _ | .printError .. | .printUsage _ => Unit

abbrev libusbg : Signature := ⟨Call, Call.Reply⟩

abbrev Prog := Program libusbg

def ask (c : Call) : Prog c.Reply := Program.perform (S := libusbg) c

def USBG_SUCCESS : ℤ := 0
def USB_CLASS_MISC : ℕ := 0xef
def USB_CLASS_COMM : ℕ := 2
def USB_PROTO_IAD : ℕ := 0x01
def XAP_VENDOR_ID : ℕ := 0x2fe0
def XAP_MANUFACTURER_STR : Bytes := bytes "Xaptum, Inc."
def XAP_USBG_STR : Bytes := bytes "g1"

structure Build where
  XAP_SERIAL : Bool
  XAP_HSS : Bool
  XAP_PRODUCT_ID : ℕ
  XAP_PRODUCT_STR : Bytes

variable (b : Build)

def gadgetAttrs : GadgetAttrs :=
  ⟨0x0200, USB_CLASS_MISC, USB_CLASS_COMM, USB_PROTO_IAD, 64, XAP_VENDOR_ID, b.XAP_PRODUCT_ID, 0⟩

def gadgetStrs (a : Attributes) : GadgetStrs := ⟨XAP_MANUFACTURER_STR, b.XAP_PRODUCT_STR, a.serial⟩

def ethAttrs (a : Attributes) : NetAttrs := ⟨a.hostAddr, a.devAddr, [], 5⟩

-- The branch on which a call fails ends in `goto exit_clean`.
def orExit (message : Bytes) (ret : ℤ) (next : Prog Unit) : Prog Unit :=
  if ret ≠ USBG_SUCCESS then ask (.printError message ret) else next

def createFunction (gadget : Pointer) (type : FunctionType) (inst : Bytes) (attrs : Option NetAttrs) (message : Bytes)
    (next : Pointer → Prog Unit) : Prog Unit := do
  let made ← ask (.createFunction gadget type inst attrs)
  orExit message made.ret (next made.out)

def addConfigFunction (config : Pointer) (name : Bytes) (function : Pointer) (message : Bytes)
    (next : Prog Unit) : Prog Unit := do
  let ret ← ask (.addConfigFunction config name function)
  orExit message ret next

def createAcm (gadget : Pointer) (next : Pointer → Prog Unit) : Prog Unit :=
  if b.XAP_SERIAL then createFunction gadget .acm (bytes "GS0") none (bytes "Error creating acm0 function") next else next none

def createEcm (gadget : Pointer) (attrs : NetAttrs) (next : Pointer → Prog Unit) : Prog Unit :=
  createFunction gadget .ecm (bytes "usb0") (some attrs) (bytes "Error creating ecm function") next

def createHss (gadget : Pointer) (next : Pointer → Prog Unit) : Prog Unit :=
  if b.XAP_HSS then createFunction gadget .hss (bytes "hss0") none (bytes "Error creating hss function") next else next none

def addAcm (config f_acm0 : Pointer) (next : Prog Unit) : Prog Unit :=
  if b.XAP_SERIAL then addConfigFunction config (bytes "acm.GS0") f_acm0 (bytes "Error adding acm.GS0") next else next

def addEcm (config f_ecm : Pointer) (next : Prog Unit) : Prog Unit :=
  addConfigFunction config (bytes "ecm.usb0") f_ecm (bytes "Error adding ecm.usb0") next

def addHss (config f_hss : Pointer) (next : Prog Unit) : Prog Unit :=
  if b.XAP_HSS then addConfigFunction config (bytes "hss.hss0") f_hss (bytes "Error adding hss.hss0") next else next

def addFunctions (gadget config f_acm0 f_ecm f_hss : Pointer) : Prog Unit :=
  addAcm b config f_acm0 <| addEcm config f_ecm <| addHss b config f_hss <| do
    let ret ← ask (.enableGadget gadget)
    orExit (bytes "Error enabling gadget") ret (return ())

def createConfig (gadget f_acm0 f_ecm f_hss : Pointer) : Prog Unit := do
  let made ← ask (.createConfig gadget 1 (bytes "The only one") [])
  orExit (bytes "Error creating config") made.ret (addFunctions b gadget made.out f_acm0 f_ecm f_hss)

def createGadget (a : Attributes) (state : Pointer) : Prog Unit := do
  let made ← ask (.createGadget state XAP_USBG_STR (gadgetAttrs b) (gadgetStrs b a))
  orExit (bytes "Error on create gadget") made.ret <|
    createAcm b made.out fun f_acm0 => createEcm made.out (ethAttrs a) fun f_ecm => createHss b made.out fun f_hss =>
      createConfig b made.out f_acm0 f_ecm f_hss

def create (a : Attributes) (state : Pointer) : Prog Unit := do
  createGadget b a state
  ask (.cleanup state)

def report (message : Bytes) (ret : ℤ) : Prog Unit :=
  if ret ≠ USBG_SUCCESS then ask (.printError message ret) else return ()

def destroyUsbGadget (state : Pointer) : Prog Unit := do
  let gadget ← ask (.getGadget state XAP_USBG_STR)
  let ret ← ask (.disableGadget gadget)
  report (bytes "Error disabling gadget") ret
  let ret ← ask (.rmGadget gadget)
  report (bytes "Error freeing gadget") ret

def printUsage (argv : List Bytes) : Prog Unit := ask (.printUsage (argv.head?.getD (bytes "xap-usb-gadget")))

def main (a : Attributes) (argv : List Bytes) : Prog ℤ := do
  if argv.length ≠ 2 ∨ (argv[1]? ≠ some (bytes "create") ∧ argv[1]? ≠ some (bytes "destroy")) then
    printUsage argv
    return 0
  else
    let made ← ask (.init (bytes "/sys/kernel/config"))
    if made.ret ≠ USBG_SUCCESS then
      ask (.printError (bytes "Error on USB gadget init") made.ret)
      return 0
    else
      if argv[1]? = some (bytes "create") then create b a made.out
      if argv[1]? = some (bytes "destroy") then destroyUsbGadget made.out
      return 0

end RouterCard.UsbGadget

import RouterCard.Xbridge.Memory

/-! The bridge of `xbridge.c`: what it does with a captured packet, the neighbour
advertisements it sends, and the loop of `main`. -/

namespace RouterCard.Xbridge

open Text OnesComplement

inductive Iface where
  | host
  | net
  deriving DecidableEq

def Iface.other : Iface → Iface
  | .host => .net
  | .net => .host

inductive L2Handling where
  | doneTouch
  | strip
  | prepend
  deriving DecidableEq

abbrev In6Addr := Octets 16

abbrev EtherAddr := Octets 6

def linkLocalDefaultGatewayIPv6 : In6Addr := ⟨[0xfe, 0x80, 0, 0, 0, 0, 0, 0, 0, 0, 0, 0, 0, 0, 0, 1], rfl⟩

def allNodes : In6Addr := ⟨[0xff, 0x02, 0, 0, 0, 0, 0, 0, 0, 0, 0, 0, 0, 0, 0, 1], rfl⟩

def NEIGHBOR_ADV_PERIOD : ℤ := 600
def ETHERTYPE_IPV6 : ℕ := 0x86dd
def IPPROTO_ICMPV6 : UInt8 := 58
def ND_NEIGHBOR_SOLICIT : UInt8 := 135
def ND_NEIGHBOR_ADVERT : UInt8 := 136
def ND_NA_FLAG_ROUTER : UInt8 := 0x80
def ND_NA_FLAG_SOLICITED : UInt8 := 0x40
def ND_OPT_TARGET_LINKADDR : UInt8 := 2

def sizeofEtherHeader : ℕ := 14
def sizeofIp6Hdr : ℕ := 40
def sizeofNdNeighborSolicit : ℕ := 24
def sizeofNs : ℕ := sizeofIp6Hdr + sizeofNdNeighborSolicit
def sizeofBuf : ℕ := 8192

section settings

structure EtherHeader where
  dhost : EtherAddr
  shost : EtherAddr
  type : Octets 2

def EtherHeader.bytes (h : EtherHeader) : Bytes := h.dhost.val ++ h.shost.val ++ h.type.val

def EtherHeader.zero : EtherHeader := ⟨⟨[0, 0, 0, 0, 0, 0], rfl⟩, ⟨[0, 0, 0, 0, 0, 0], rfl⟩, ⟨[0, 0], rfl⟩⟩

inductive Flag where
  | layer2
  | snaplen (n : ℤ)

structure Settings where
  secure : Bool
  snaplen : ℤ
  hostMac : EtherAddr
  netMac : EtherAddr

def Settings.flag (cfg : Settings) : Flag → Settings
  | .layer2 => { cfg with secure := true }
  | .snaplen n => { cfg with snaplen := n }

def Settings.ofFlags (flags : List Flag) (hostMac netMac : EtherAddr) : Settings :=
  flags.foldl Settings.flag ⟨false, 8192, hostMac, netMac⟩

def Settings.l2handling (cfg : Settings) : Iface → L2Handling
  | .host => if cfg.secure then .prepend else .doneTouch
  | .net => if cfg.secure then .strip else .doneTouch

-- A static variable, which main fills in where packets are not just passed along.
def Settings.eHeader (cfg : Settings) : EtherHeader :=
  if cfg.secure then ⟨cfg.netMac, cfg.hostMac, ⟨be16 ETHERTYPE_IPV6, rfl⟩⟩ else .zero

end settings

structure Bridge where
  buf : Octets sizeofBuf
  haveEheader : Bool

def Bridge.initial : Bridge := ⟨⟨List.replicate sizeofBuf 0, List.length_replicate⟩, false⟩

structure Injection where
  iface : Iface
  data : Bytes
  size : ℤ
  deriving DecidableEq

def Injection.bytes (i : Injection) : Bytes := i.data.take i.size.toNat

variable (cfg : Settings)

-- The prepared header is copied just once.
def headed (s : Bridge) : Access (Octets sizeofBuf) :=
  if s.haveEheader then .ok s.buf else memcpy s.buf 0 cfg.eHeader.bytes sizeofEtherHeader

def sendPacket (iface : Iface) (len : ℤ) (data : Bytes) (s : Bridge) : Access (Bridge × List Injection) :=
  match cfg.l2handling iface with
  | .doneTouch => .ok (s, [⟨iface, data, len⟩])
  | .strip => do
    let etherType ← readField data 12 2
    if etherType.val = be16 ETHERTYPE_IPV6 then
      return (s, [⟨iface, data.drop sizeofEtherHeader, toInt (subSize (toSize len) sizeofEtherHeader)⟩])
    else return (s, [])
  | .prepend => do
    let buf ← headed cfg s
    let buf ← memcpy buf sizeofEtherHeader data (toSize len)
    return (⟨buf, true⟩, [⟨iface, buf.val, toInt ((sizeofEtherHeader + toSize len) % 2 ^ 64)⟩])

/-- The IPv6 pseudo header that both functions build: the length goes through `htons` into 32 bits. -/
def pseudoHeader (src dst : In6Addr) (payload : ℕ) : Bytes :=
  src.val ++ dst.val ++ (be16 payload ++ [0, 0]) ++ be32 IPPROTO_ICMPV6.toNat

def isNeighborSolicitation (data : Bytes) (len : ℤ) : Access Bool :=
  if sizeofNs > toSize len then .ok false
  else do
    let plen ← readField data 4 2
    -- the bytes of the field as they lie in memory
    if sizeofNdNeighborSolicit > sumLE plen.val then return false
    let nxt ← readByte data 6
    if IPPROTO_ICMPV6 ≠ nxt then return false
    let type ← readByte data sizeofIp6Hdr
    if ND_NEIGHBOR_SOLICIT ≠ type then return false
    let code ← readByte data (sizeofIp6Hdr + 1)
    if 0 ≠ code then return false
    let flow ← readByte data 0
    if 0x60 ≠ 0xf0 &&& flow then return false
    let target ← readField data (sizeofIp6Hdr + 8) 16
    if target ≠ linkLocalDefaultGatewayIPv6 then return false
    let src ← readField data 8 16
    let dst ← readField data 24 16
    let payload := subSize (toSize len) sizeofIp6Hdr
    let pseudo ← checksum (pseudoHeader src dst payload) 40
    let message ← checksum (data.drop sizeofIp6Hdr) (toInt payload)
    let csum ← checksum (le16 pseudo ++ le16 message) 4
    return 0xffff = csum

section advertisement

variable (solicited : Bool)

def advertFlags : UInt8 := (if solicited then ND_NA_FLAG_SOLICITED else 0) ||| ND_NA_FLAG_ROUTER

def advertHeader (dst : In6Addr) : Bytes :=
  [0x60, 0, 0, 0] ++ be16 32 ++ [IPPROTO_ICMPV6, 255] ++ linkLocalDefaultGatewayIPv6.val ++ dst.val

def advertMessage (cksum : ℕ) : Bytes :=
  [ND_NEIGHBOR_ADVERT, 0] ++ le16 cksum ++ [advertFlags solicited, 0, 0, 0] ++ linkLocalDefaultGatewayIPv6.val ++
    [ND_OPT_TARGET_LINKADDR, 1] ++ cfg.eHeader.shost.val

-- The first sum is left in the checksum field, so that the second one takes it up.
def neighborAdvert (dst : In6Addr) : Access Bytes := do
  let seed ← checksum (pseudoHeader linkLocalDefaultGatewayIPv6 dst 32) 40
  let sum ← checksum (advertMessage cfg solicited seed) 32
  return advertHeader dst ++ advertMessage cfg solicited (0xffff - sum)

def sendNeighborAdvert (iface : Iface) (dst : In6Addr) (s : Bridge) : Access (Bridge × List Injection) := do
  let packet ← neighborAdvert cfg solicited dst
  sendPacket cfg iface 72 packet s

end advertisement

/-- A packet as pcap hands it over: the captured bytes, no more than the `int` that it was
opened with, and the length the packet had on the wire. -/
structure Capture where
  data : Bytes
  len : ℕ
  caplen_lt : data.length < 2 ^ 31

def Capture.complete (c : Capture) : Bool := c.data.length = c.len

inductive Sent where
  | frame (i : Injection)
  | advert (i : Injection)
  deriving DecidableEq

def Sent.injection : Sent → Injection
  | .frame i => i
  | .advert i => i

def intercepts (iface : Iface) (c : Capture) : Access Bool :=
  if cfg.l2handling iface = .strip then
    isNeighborSolicitation (c.data.drop sizeofEtherHeader) (toInt (subSize c.len sizeofEtherHeader))
  else .ok false

def callback (iface : Iface) (c : Capture) (s : Bridge) : Access (Bridge × List Sent) :=
  if !c.complete then .ok (s, [])
  else do
    let solicitation ← intercepts cfg iface c
    if solicitation then
      let src ← readField (c.data.drop sizeofEtherHeader) 8 16
      let (s, sent) ← sendNeighborAdvert cfg true iface.other src s
      return (s, sent.map .advert)
    else
      let (s, sent) ← sendPacket cfg iface (toInt c.len) c.data s
      return (s, sent.map .frame)

section loop

inductive Event where
  | captured (iface : Iface) (c : Capture)
  | advertise

def step : Event → Bridge → Access (Bridge × List Sent)
  | .captured iface c, s => callback cfg iface.other c s
  | .advertise, s => do
    let (s, sent) ← sendNeighborAdvert cfg false .host allNodes s
    return (s, sent.map .advert)

def run : List Event → Bridge → Access (Bridge × List Sent)
  | [], s => return (s, [])
  | e :: es, s => do
    let (s, sent) ← step cfg e s
    let (s, rest) ← run es s
    return (s, sent ++ rest)

structure Loop where
  bridge : Bridge
  na : Bool
  naTimeout : ℤ

def Loop.initial : Loop := ⟨.initial, false, 0⟩

/-- What one turn of the loop meets: the packets of the two dispatches, whether SIGUSR2
comes before `na` is read or after it is cleared, and the clock when it is read. -/
structure Turn where
  host : List Capture
  net : List Capture
  usr2 : Bool
  usr2Late : Bool
  now : ℤ
  later : ℤ
  host_le : host.length ≤ 9
  net_le : net.length ≤ 9

def Turn.advertises (t : Turn) (l : Loop) : Bool := l.na || t.usr2 || l.naTimeout < t.now

def turn (t : Turn) (l : Loop) : Access (Loop × List Sent) := do
  let (s, fromHost) ← run cfg (t.host.map (.captured .host)) l.bridge
  let (s, fromNet) ← run cfg (t.net.map (.captured .net)) s
  if t.advertises l then
    let (s, sent) ← step cfg .advertise s
    return (⟨s, t.usr2Late, NEIGHBOR_ADV_PERIOD + t.later⟩, fromHost ++ fromNet ++ sent)
  else return (⟨s, t.usr2Late, l.naTimeout⟩, fromHost ++ fromNet)

def mainLoop : List Turn → Loop → Access (Loop × List Sent)
  | [], l => return (l, [])
  | t :: ts, l => do
    let (l, sent) ← turn cfg t l
    let (l, rest) ← mainLoop ts l
    return (l, sent ++ rest)

end loop

end RouterCard.Xbridge

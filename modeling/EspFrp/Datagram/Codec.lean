import EspFrp.Json.Text
import EspFrp.Library.BigEndian
import EspFrp.Library.Block
import EspFrp.Types

/-!
# The binary codec for datagrams

A datagram travels in a message with its addresses.  The client has a codec in
C (`udp_codec.c`), the server one in Go (`udp_binary.go`).  Both read a message
from its front; the part that is not yet read stands for the input with its
offset.
-/

namespace EspFrp.Datagram

open Library

/-- `EFRP_UDP_MAX_PAYLOAD_SIZE`, and `MaxUDPPayloadSize` of the server. -/
abbrev maxPayloadSize : Nat := 65507

/-- `EFRP_WIRE_MAX_PAYLOAD`, and `DefaultMaxFramePayloadSize`. -/
abbrev wireMaxPayload : Nat := 65536

/-- `put_u16`, and `PutUint16` of the server. -/
def putU16 (value : Nat) : List UInt8 := BigEndian.toBytes 2 value

/-- `get_u16`, and `Uint16` of the server. -/
def getU16 (bytes : List UInt8) : Nat := BigEndian.ofBytes (bytes.take 2)

/-- `EFRP_UDP_BINARY_TYPE` in front of a body. -/
def typed (body : List UInt8) : List UInt8 := putU16 19 ++ body

/-- The bytes of an address of IPv4 or IPv6. -/
def ipBytes (family : UInt8) : Nat :=
  if family = 4 then 4 else 16

/-! ## The client -/

/-- `efrp_udp_address_t`. -/
structure Address where
  family : UInt8
  ip : Block UInt8 16
  port : UInt16
  zone : List UInt8
deriving DecidableEq

/-- `efrp_udp_packet_t`. -/
structure Packet where
  localAddress : Option Address
  remoteAddress : Address
  payload : List UInt8
deriving DecidableEq

/-- One turn of the loop of `valid_utf8`. -/
def character? : List UInt8 → Option Nat
  | [] => none
  | first :: rest =>
    if first.toNat < 0x80 then
      some 1
    else
      let range :=
        if 0xc2 ≤ first.toNat ∧ first.toNat ≤ 0xdf then
          some (1, 0x80, 0xbf)
        else if 0xe0 ≤ first.toNat ∧ first.toNat ≤ 0xef then
          some (2, if first.toNat = 0xe0 then 0xa0 else 0x80,
            if first.toNat = 0xed then 0x9f else 0xbf)
        else if 0xf0 ≤ first.toNat ∧ first.toNat ≤ 0xf4 then
          some (3, if first.toNat = 0xf0 then 0x90 else 0x80,
            if first.toNat = 0xf4 then 0x8f else 0xbf)
        else
          none
      match range with
      | none => none
      | some (count, low, high) =>
        let second := (rest.getD 0 0).toNat
        if rest.length < count ∨ second < low ∨ high < second then
          none
        else if (rest.tail.take (count - 1)).all Utf8.isTail then
          some (count + 1)
        else
          none

/-- `valid_utf8`. -/
def validUtf8 (bytes : List UInt8) : Bool := Utf8.accepts character? bytes.length bytes

/-- The first bytes of an IPv4 address in an IPv6 address. -/
def mappedBytes : List UInt8 := [0, 0, 0, 0, 0, 0, 0, 0, 0, 0, 0xff, 0xff]

namespace Address

/-- `mapped_ipv4`. -/
def mapped (address : Address) : Bool :=
  address.family == 6 && address.ip.cells.take 12 == mappedBytes

/-- The address is written as one of IPv4. -/
def isIpv4 (address : Address) : Bool := address.family == 4 || address.mapped

/-- `address_size`. -/
def size (address : Address) : Except Result Nat :=
  if address.family ≠ 4 ∧ address.family ≠ 6 then
    .error .invalidArgument
  else if 255 < address.zone.length ∨ (address.isIpv4 ∧ address.zone ≠ []) ∨
      validUtf8 address.zone = false then
    .error .invalidArgument
  else
    .ok (4 + (if address.isIpv4 then 4 else 16) + address.zone.length)

/-- `put_address`. -/
def put (address : Address) : List UInt8 :=
  (if address.isIpv4 then 4 else 6) ::
    (address.ip.cells.drop (if address.mapped then 12 else 0)).take
      (if address.isIpv4 then 4 else 16) ++
    putU16 address.port.toNat ++
    UInt8.ofNat address.zone.length :: address.zone

end Address

/-- The size of an address that may be missing. -/
def optionalSize : Option Address → Except Result Nat
  | some address => address.size
  | none => .ok 0

/-- `efrp_udp_packet_encode`. -/
def encode (packet : Packet) (capacity : Nat) : Except Result (List UInt8) :=
  if maxPayloadSize < packet.payload.length then
    .error .capacityExceeded
  else
    match packet.remoteAddress.size, optionalSize packet.localAddress with
    | .error error, _ => .error error
    | .ok _, .error error => .error error
    | .ok remoteLength, .ok localLength =>
      let total := 5 + localLength + remoteLength + packet.payload.length
      if wireMaxPayload < total ∨ capacity < total then
        .error .capacityExceeded
      else
        .ok (typed ((if packet.localAddress.isSome then 3 else 2) ::
            (packet.localAddress.elim [] Address.put ++ packet.remoteAddress.put ++
              putU16 packet.payload.length ++ packet.payload)))

/-- `read_address`. -/
def readAddress (rest : List UInt8) : Except Result (Address × List UInt8) :=
  match rest with
  | [] => .error .truncated
  | family :: rest =>
    if family ≠ 4 ∧ family ≠ 6 then
      .error .protocolError
    else
      let ipLength := ipBytes family
      if rest.length < ipLength + 3 then
        .error .truncated
      else
        let zoneLength := (rest.getD (ipLength + 2) 0).toNat
        let after := rest.drop (ipLength + 3)
        if after.length < zoneLength then
          .error .truncated
        else if (family = 4 ∧ zoneLength ≠ 0) ∨ validUtf8 (after.take zoneLength) = false then
          .error .protocolError
        else
          .ok
            ({ family := family
               ip := (Block.filled 0 16).copy 0 (rest.take ipLength)
               port := UInt16.ofNat (getU16 (rest.drop ipLength))
               zone := after.take zoneLength },
              after.drop zoneLength)

/-- Bytes that are missing may still arrive in a longer prefix. -/
def orIncomplete {Value : Type} (incomplete : Result) : Except Result Value → Except Result Value
  | .error .truncated => .error incomplete
  | outcome => outcome

/-- The local address of a header, if its flag is set. -/
def readLocal (flags : UInt8) (rest : List UInt8) : Except Result (Option Address × List UInt8) :=
  if flags &&& 1 ≠ 0 then
    match readAddress rest with
    | .error error => .error error
    | .ok (address, rest) => .ok (some address, rest)
  else
    .ok (none, rest)

/-- The length of the payload, which must be the rest of the frame. -/
def readLength (incomplete : Result) (frameLength offset : Nat)
    (rest : List UInt8) : Except Result Nat :=
  if rest.length < 2 then .error incomplete
  else if maxPayloadSize < getU16 rest then .error .capacityExceeded
  else if frameLength - offset < getU16 rest then .error .truncated
  else if getU16 rest < frameLength - offset then .error .protocolError
  else .ok (getU16 rest)

/-- `efrp_udp_packet_header_decode`, which gives the addresses, the length of
the payload and where it starts. -/
def headerDecode (input : List UInt8) (frameLength : Nat) :
    Except Result (Option Address × Address × Nat × Nat) :=
  let incomplete : Result :=
    if input.length < frameLength then .wouldBlock else .truncated
  let flags := input.getD 2 0
  if frameLength < input.length then
    .error .invalidArgument
  else if wireMaxPayload < frameLength then
    .error .capacityExceeded
  else if input.length < 3 then
    .error incomplete
  else if getU16 input ≠ 19 ∨ flags &&& 0xfc ≠ 0 ∨ flags &&& 2 = 0 then
    .error .protocolError
  else do
    let (localAddress, rest) ←
      orIncomplete incomplete (readLocal flags (input.drop 3))
    let (remoteAddress, rest) ← orIncomplete incomplete (readAddress rest)
    let offset := input.length - rest.length + 2
    let length ← readLength incomplete frameLength offset rest
    return (localAddress, remoteAddress, length, offset)

/-- `efrp_udp_packet_decode`. -/
def decode (input : List UInt8) : Except Result Packet := do
  let (localAddress, remoteAddress, length, offset) ←
    headerDecode input input.length
  return { localAddress, remoteAddress,
           payload := (input.drop offset).take length }

/-! ## The server -/

namespace Server

/-- `net.UDPAddr`. -/
structure UdpAddr where
  ip : List UInt8
  port : Int
  zone : List UInt8
deriving DecidableEq

/-- `UDPPacket`. -/
structure UdpPacket where
  localAddr : Option UdpAddr
  remoteAddr : UdpAddr
  content : List UInt8
deriving DecidableEq

/-- `IP.To4`. -/
def to4 (ip : List UInt8) : Option (List UInt8) :=
  if ip.length = 4 then some ip
  else if ip.length = 16 ∧ ip.take 12 = mappedBytes then some (ip.drop 12)
  else none

/-- `IP.To16`, of an address that is none of IPv4. -/
def to16 (ip : List UInt8) : Option (List UInt8) :=
  if ip.length = 4 then some (mappedBytes ++ ip)
  else if ip.length = 16 then some ip
  else none

/-- `binaryUDPAddr`. -/
structure BinaryUdpAddr where
  family : UInt8
  ip : List UInt8
  port : Nat
  zone : List UInt8

/-- `validateBinaryUDPAddr`. -/
def validateBinaryUdpAddr (addr : UdpAddr) : Option BinaryUdpAddr :=
  if addr.port < 0 ∨ 65535 < addr.port then
    none
  else
    match to4 addr.ip with
    | some ip =>
      if addr.zone ≠ [] then none
      else some ⟨4, ip, addr.port.toNat, []⟩
    | none =>
      match to16 addr.ip with
      | none => none
      | some ip =>
        if 255 < addr.zone.length then none
        else if Utf8.wellFormed addr.zone = false then none
        else some ⟨6, ip, addr.port.toNat, addr.zone⟩

/-- `binaryUDPAddrLen`. -/
def binaryUdpAddrLen (addr : BinaryUdpAddr) : Nat := 1 + addr.ip.length + 2 + 1 + addr.zone.length

/-- `putBinaryUDPAddr`. -/
def putBinaryUdpAddr (addr : BinaryUdpAddr) : List UInt8 :=
  addr.family :: addr.ip ++ putU16 addr.port ++ UInt8.ofNat addr.zone.length :: addr.zone

/-- The local address of a packet, if it has one. -/
def validateLocal : Option UdpAddr → Option (Option BinaryUdpAddr)
  | some addr => (validateBinaryUdpAddr addr).map some
  | none => some none

/-- `EncodeUDPPacketBinary`. -/
def encode (packet : UdpPacket) : Option (List UInt8) :=
  if maxPayloadSize < packet.content.length then
    none
  else
    match validateLocal packet.localAddr, validateBinaryUdpAddr packet.remoteAddr with
    | some localAddr, some remoteAddr =>
      let bodyLen := 1 + 2 + packet.content.length +
        localAddr.elim 0 binaryUdpAddrLen + binaryUdpAddrLen remoteAddr
      if wireMaxPayload < 2 + bodyLen then
        none
      else
        some ((if localAddr.isSome then 3 else 2) :: (localAddr.elim [] putBinaryUdpAddr ++
            putBinaryUdpAddr remoteAddr ++
            putU16 packet.content.length ++ packet.content))
    | _, _ => none

/-- `readBinaryUDPAddr`. -/
def readBinaryUdpAddr (rest : List UInt8) : Option (UdpAddr × List UInt8) :=
  match rest with
  | [] => none
  | family :: rest =>
    if family ≠ 4 ∧ family ≠ 6 then
      none
    else
      let ipLen := ipBytes family
      if rest.length < ipLen + 3 then
        none
      else
        let zoneLen := (rest.getD (ipLen + 2) 0).toNat
        let after := rest.drop (ipLen + 3)
        if after.length < zoneLen then none
        else if family = 4 ∧ zoneLen ≠ 0 then none
        else if Utf8.wellFormed (after.take zoneLen) = false then none
        else
          some
            ({ ip := rest.take ipLen
               port := getU16 (rest.drop ipLen)
               zone := after.take zoneLen },
              after.drop zoneLen)

/-- The local address of a body, if its flag is set. -/
def readLocal (flags : UInt8) (rest : List UInt8) : Option (Option UdpAddr × List UInt8) :=
  if flags &&& 1 ≠ 0 then
    (readBinaryUdpAddr rest).map fun read => (some read.1, read.2)
  else
    some (none, rest)

/-- The payload, which must be the rest of the body. -/
def readContent (rest : List UInt8) : Option (List UInt8) :=
  if rest.length < 2 then none
  else if maxPayloadSize < getU16 rest then none
  else if (rest.drop 2).length < getU16 rest then none
  else if getU16 rest < (rest.drop 2).length then none
  else some ((rest.drop 2).take (getU16 rest))

/-- `DecodeUDPPacketBinary`. -/
def decode (body : List UInt8) : Option UdpPacket :=
  let flags := body.getD 0 0
  if body.length < 3 then none
  else if wireMaxPayload < 2 + body.length then none
  else if flags &&& 0xfc ≠ 0 then none
  else if flags &&& 2 = 0 then none
  else do
    let (localAddr, rest) ← readLocal flags (body.drop 1)
    let (remoteAddr, rest) ← readBinaryUdpAddr rest
    let content ← readContent rest
    return { localAddr, remoteAddr, content }

end Server

end EspFrp.Datagram

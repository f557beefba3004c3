import EspFrp.Library.BigEndian
import EspFrp.Local.Connect
import EspFrp.Wire.Reader

/-!
# Datagrams on a work stream

The UDP part of `work.c`: frames that carry datagrams are taken from a
stream, delivered on one local socket for each remote address, and answers
are put into frames.  The codec and the local datagram sockets are
parameters.
-/

namespace EspFrp.Work

open Library Streams

/-- `efrp_work_status_t` without the counts that are taken on demand. -/
structure Status where
  requests : Nat := 0
  completed : Nat := 0
  failed : Nat := 0
  rejectedRequests : Nat := 0
  localSent : Nat := 0
  localReceived : Nat := 0
  udpReceivedDatagrams : Nat := 0
  udpSentDatagrams : Nat := 0
  udpDroppedDatagrams : Nat := 0
  udpExpiredRemotes : Nat := 0
  pending : Nat := 0
  lastError : Result := .ok
deriving DecidableEq, Repr

/-- `EFRP_WORK_IO_STALL_MS`. -/
abbrev ioStallMs : Nat := 2500

/-- `EFRP_UDP_REMOTE_LIMIT`. -/
abbrev remoteLimit : Nat := 4

/-- `EFRP_UDP_IDLE_MS`. -/
abbrev udpIdleMs : Nat := 30000

/-- `EFRP_UDP_HEARTBEAT_MS`. -/
abbrev udpHeartbeatMs : Nat := 30000

/-- `efrp_udp_address_t`. -/
structure Address where
  family : UInt8 := 0
  ip : List UInt8 := []
  port : Nat := 0
  zone : List UInt8 := []
deriving DecidableEq, Repr

/-- `efrp_udp_packet_t`, without the local address. -/
structure Packet where
  remoteAddress : Address := {}
  payload : List UInt8 := []
  payloadLength : Nat := 0
deriving DecidableEq, Repr

/-- Why the codec refuses a packet. -/
inductive CodecError where
  | invalidArgument
  | protocolError
  | capacityExceeded
  | truncated
deriving DecidableEq, Repr

/-- The result code of a refusal. -/
def CodecError.result : CodecError → Result
  | .invalidArgument => .invalidArgument
  | .protocolError => .protocolError
  | .capacityExceeded => .capacityExceeded
  | .truncated => .truncated

/-- `udp_codec.c`; a header may need more bytes of the frame. -/
structure Codec where
  headerDecode : (received : List UInt8) → (length : Nat) → Option (Except CodecError Packet)
  decode : List UInt8 → Except CodecError Packet
  encode : Packet → (capacity : Nat) → Except CodecError (List UInt8)

/-- `udp_local.c`. -/
structure Datagrams (Sys : Type) where
  create : Sys → Except Result Nat × Sys
  step : Sys → (socket : Nat) → Result × Sys
  send : Sys → (socket : Nat) → List UInt8 → Result × Sys
  recv : Sys → (socket capacity : Nat) → Result × List UInt8 × Sys
  destroy : Sys → (socket : Nat) → Result × Sys

/-- `efrp_udp_remote_t`. -/
structure Remote where
  socket : Option Nat := none
  address : Address := {}
  lastActivity : Nat := 0
  closing : Bool := false
deriving DecidableEq, Repr

/-- `efrp_udp_work_t`; `incoming` holds at most `capacity` bytes. -/
structure Udp where
  remotes : List Remote := List.replicate remoteLimit {}
  capacity : Nat
  incoming : List UInt8 := []
  outgoing : List UInt8 := []
  outgoingOffset : Nat := 0
  header : List UInt8 := []
  payloadUsed : Nat := 0
  payloadExpected : Nat := 0
  packet : Packet := {}
  pingAt : Nat := 0
  incomingAt : Nat := 0
  outgoingAt : Nat := 0
  cursor : Nat := 0
  pending : Bool := false
  discard : Bool := false
  headerValidated : Bool := false
  outgoingDatagram : Bool := false
deriving DecidableEq, Repr

variable {Sys Net : Type}

namespace Udp

/-- `udp_create`; the four allocations are one question. -/
def create (os : Local.Os Sys) (packetSize now : Nat) (sys : Sys) : Option Udp × Sys :=
  match os.allocate sys with
  | (false, sys) => (none, sys)
  | (true, sys) =>
    (some
      { capacity := min (packetSize + 555) Wire.maxPayload
        pingAt := now + udpHeartbeatMs }, sys)

/-- `udp_forget`. -/
def forget (datagrams : Datagrams Sys) (remote : Remote) (sys : Sys) : Remote × Sys :=
  match remote.socket with
  | none => ({}, sys)
  | some socket =>
    match datagrams.destroy sys socket with
    | (.ok, sys) => ({}, sys)
    | (_, sys) => ({ remote with closing := true }, sys)

/-- The sockets that `udp_cleanup` could not close. -/
def closeRemotes (datagrams : Datagrams Sys) : List Remote → Sys → List Remote × Sys
  | [], sys => ([], sys)
  | remote :: rest, sys =>
    let (closed, sys) :=
      match remote.socket with
      | none => (remote, sys)
      | some socket =>
        match datagrams.destroy sys socket with
        | (.ok, sys) => ({ remote with socket := none }, sys)
        | (_, sys) => (remote, sys)
    let (others, sys) := closeRemotes datagrams rest sys
    (closed :: others, sys)

/-- `udp_cleanup`: what must be kept to retry. -/
def cleanup (datagrams : Datagrams Sys) (udp : Option Udp) (sys : Sys) : Option Udp × Sys :=
  match udp with
  | none => (none, sys)
  | some udp =>
    let (remotes, sys) := closeRemotes datagrams udp.remotes sys
    if remotes.all fun remote => remote.socket.isNone then
      (none, sys)
    else
      (some
        { udp with
          remotes := remotes
          incoming := []
          outgoing := []
          outgoingOffset := 0
          packet := {}
          pending := false }, sys)

/-- `udp_expire`. -/
def expire (datagrams : Datagrams Sys) (now : Nat) :
    List Remote → Status → Sys → List Remote × Status × Sys
  | [], status, sys => ([], status, sys)
  | remote :: rest, status, sys =>
    let (kept, status, sys) :=
      if remote.socket.isNone then
        (remote, status, sys)
      else if remote.closing then
        let (kept, sys) := forget datagrams remote sys
        (kept, status, sys)
      else if udpIdleMs ≤ now - remote.lastActivity then
        let (kept, sys) := forget datagrams remote sys
        (kept,
          { status with
            udpExpiredRemotes := status.udpExpiredRemotes + 1 }, sys)
      else
        (remote, status, sys)
    let (others, status, sys) := expire datagrams now rest status sys
    (kept :: others, status, sys)

/-- The slot for an address: its own, or else the first free one. -/
def slotFor (address : Address) (remotes : List Remote) : Option Nat :=
  (remotes.findIdx? fun remote => remote.socket.isSome && remote.address == address).or
    (remotes.findIdx? fun remote => remote.socket.isNone)

/-- A datagram goes out on the socket of its slot. -/
def deliverOn (datagrams : Datagrams Sys) (udp : Udp) (slot socket : Nat)
    (remote : Remote) (status : Status) (now : Nat) (sys : Sys) :
    Result × Udp × Status × Sys :=
  let keep (remote : Remote) : Udp := { udp with remotes := udp.remotes.set slot remote }
  let (result, sys) := datagrams.step sys socket
  let (result, sys) :=
    if result = .ok then datagrams.send sys socket udp.packet.payload
    else (result, sys)
  match result with
  | .ok =>
    (.ok, keep { remote with lastActivity := now },
      { status with
        localSent := status.localSent + udp.packet.payload.length
        udpReceivedDatagrams := status.udpReceivedDatagrams + 1 }, sys)
  | .wouldBlock => (.wouldBlock, keep remote, status, sys)
  | error =>
    let (remote, sys) := forget datagrams remote sys
    (error, keep remote, status, sys)

/-- `udp_deliver`. -/
def deliver (datagrams : Datagrams Sys) (udp : Udp) (status : Status)
    (now : Nat) (sys : Sys) : Result × Udp × Status × Sys :=
  match slotFor udp.packet.remoteAddress udp.remotes with
  | none => (.capacityExceeded, udp, status, sys)
  | some slot =>
    let remote := udp.remotes.getD slot {}
    match remote.socket with
    | some socket =>
      if remote.closing then
        (.wouldBlock, udp, status, sys)
      else
        deliverOn datagrams udp slot socket remote status now sys
    | none =>
      match datagrams.create sys with
      | (.error error, sys) => (error, udp, status, sys)
      | (.ok socket, sys) =>
        deliverOn datagrams udp slot socket
          { socket := some socket
            address := udp.packet.remoteAddress
            lastActivity := now } status now sys

/-- What one turn of `udp_feed` leads to. -/
inductive Turn where
  | failed (error : Result) (used : Nat) (udp : Udp)
  | more (used : Nat) (udp : Udp)
  | frame (used : Nat) (udp : Udp) (status : Status)

/-- A header of eight bytes is complete. -/
def announce (udp : Udp) : Except Result Udp :=
  if udp.header.take 4 ≠ [0, 16, 0, 0] then
    .error .protocolError
  else
    let expected := BigEndian.ofBytes (udp.header.drop 4)
    if expected < 2 then
      .error .protocolError
    else if Wire.maxPayload < expected then
      .error .capacityExceeded
    else
      .ok
        { udp with
          payloadExpected := expected
          discard := decide (udp.capacity < expected) }

/-- The metadata is judged as soon as enough of it has arrived. -/
def judge (codec : Codec) (packetSize : Nat) (udp : Udp) :
    Except Result Udp :=
  if udp.headerValidated then
    .ok udp
  else
    match codec.headerDecode udp.incoming udp.payloadExpected with
    | none => .ok udp
    | some (.error error) => .error error.result
    | some (.ok packet) =>
      .ok
        { udp with
          packet := packet
          headerValidated := true
          discard := udp.discard || decide (packetSize < packet.payloadLength) }

/-- The frame is complete. -/
def complete (codec : Codec) (udp : Udp) (status : Status) (now : Nat) :
    Except Result (Udp × Status) :=
  let between (udp : Udp) : Udp :=
    { udp with
      header := []
      payloadUsed := 0
      payloadExpected := 0
      headerValidated := false
      discard := false }
  if !udp.headerValidated then
    .error .truncated
  else if udp.discard then
    .ok (between { udp with incoming := [] },
      { status with
        udpDroppedDatagrams := status.udpDroppedDatagrams + 1 })
  else
    match codec.decode udp.incoming with
    | .error error => .error error.result
    | .ok packet =>
      .ok (between { udp with packet := packet, pending := true, incomingAt := now }, status)

/-- The payload grows. -/
def takePayload (codec : Codec) (packetSize : Nat) (udp : Udp)
    (status : Status) (bytes : List UInt8) (used now : Nat) : Turn :=
  let take := min (udp.payloadExpected - udp.payloadUsed) bytes.length
  let udp :=
    { udp with
      incoming := (udp.incoming ++ bytes.take take).take udp.capacity
      payloadUsed := udp.payloadUsed + take
      incomingAt := now }
  match judge codec packetSize udp with
  | .error error => .failed error (used + take) udp
  | .ok udp =>
    if udp.payloadUsed = udp.payloadExpected then
      match complete codec udp status now with
      | .error error => .failed error (used + take) udp
      | .ok (udp, status) => .frame (used + take) udp status
    else
      .more (used + take) udp

/-- One turn of the loop of `udp_feed`. -/
def turn (codec : Codec) (packetSize : Nat) (udp : Udp) (status : Status)
    (now : Nat) : List UInt8 → Turn
  | [] => .more 0 udp
  | byte :: rest =>
    if udp.header.length < 8 then
      let udp := { udp with header := udp.header ++ [byte], incomingAt := now }
      if udp.header.length < 8 then
        .more 1 udp
      else
        match announce udp with
        | .error error => .failed error 1 udp
        | .ok udp => takePayload codec packetSize udp status rest 1 now
    else
      takePayload codec packetSize udp status (byte :: rest) 0 now

/-- The loop of `udp_feed`, which stops at the end of a frame. -/
def feedLoop (codec : Codec) (packetSize now : Nat) :
    Nat → Udp → Status → List UInt8 → Nat → Result × Nat × Udp × Status
  | 0, udp, status, _, used => (.ok, used, udp, status)
  | fuel + 1, udp, status, bytes, used =>
    if bytes = [] then
      (.ok, used, udp, status)
    else
      match turn codec packetSize udp status now bytes with
      | .failed error count udp => (error, used + count, udp, status)
      | .more count udp =>
        feedLoop codec packetSize now fuel udp status (bytes.drop count) (used + count)
      | .frame count udp status => (.ok, used + count, udp, status)

/-- `udp_feed`. -/
def feed (codec : Codec) (packetSize : Nat) (udp : Udp) (status : Status)
    (bytes : List UInt8) (now : Nat) : Result × Nat × Udp × Status :=
  if udp.pending then
    (.wouldBlock, 0, udp, status)
  else
    feedLoop codec packetSize now bytes.length udp status bytes 0

/-- One local socket is asked for a datagram; true ends the search. -/
def collect (codec : Codec) (datagrams : Datagrams Sys)
    (packetSize : Nat) (udp : Udp) (status : Status) (slot : Nat)
    (now : Nat) (sys : Sys) : Bool × Udp × Status × Sys :=
  let remote := udp.remotes.getD slot {}
  match remote.socket, remote.closing with
  | some socket, false =>
    let dropped (status : Status) : Status :=
      { status with
        udpDroppedDatagrams := status.udpDroppedDatagrams + 1 }
    match datagrams.recv sys socket packetSize with
    | (.wouldBlock, _, sys) => (false, udp, status, sys)
    | (.capacityExceeded, _, sys) =>
      (false, { udp with cursor := (slot + 1) % remoteLimit }, dropped status, sys)
    | (.ok, payload, sys) =>
      let udp :=
        { udp with
          cursor := (slot + 1) % remoteLimit
          remotes := udp.remotes.set slot { remote with lastActivity := now } }
      let status :=
        { status with
          localReceived := status.localReceived + payload.length }
      match codec.encode
          { remoteAddress := remote.address
            payload := payload
            payloadLength := payload.length } udp.capacity with
      | .error _ => (false, udp, dropped status, sys)
      | .ok encoded =>
        match Wire.header .message encoded.length with
        -- no frame within the capacity is refused a header
        | .error _ => (true, udp, status, sys)
        | .ok header =>
          (true,
            { udp with
              outgoing := header ++ encoded
              outgoingOffset := 0
              outgoingAt := now
              outgoingDatagram := true }, status, sys)
    | (_, _, sys) =>
      let (remote, sys) := forget datagrams remote sys
      (false,
        { udp with
          cursor := (slot + 1) % remoteLimit
          remotes := udp.remotes.set slot remote },
        dropped status, sys)
  | _, _ => (false, udp, status, sys)

/-- The search of `udp_output` for a datagram. -/
def search (codec : Codec) (datagrams : Datagrams Sys) (packetSize now : Nat) :
    List Nat → Udp → Status → Sys → Udp × Status × Sys
  | [], udp, status, sys => (udp, status, sys)
  | slot :: rest, udp, status, sys =>
    match collect codec datagrams packetSize udp status slot now sys with
    | (true, udp, status, sys) => (udp, status, sys)
    | (false, udp, status, sys) => search codec datagrams packetSize now rest udp status sys

/-- The slots in the order in which `udp_output` visits them. -/
def visitOrder (udp : Udp) : List Nat :=
  (List.range remoteLimit).map fun offset => (udp.cursor + offset) % remoteLimit

/-- The heartbeat frame of a datagram stream. -/
def heartbeat : List UInt8 := [0, 16, 0, 0, 0, 0, 0, 4, 0, 11, 0x7b, 0x7d]

/-- A part of the pending frame is written. -/
def flush (transport : Transport Net) (udp : Udp) (status : Status)
    (stream : Option Nat) (now : Nat) (net : Net) :
    Result × Udp × Status × Net :=
  if ioStallMs ≤ now - udp.outgoingAt then
    (.timeout, udp, status, net)
  else
    match transport.streamWrite net stream (udp.outgoing.drop udp.outgoingOffset) with
    | (.wouldBlock, _, net) => (.ok, udp, status, net)
    | (.ok, used, net) =>
      let offset := udp.outgoingOffset + used
      if offset = udp.outgoing.length then
        (.ok,
          { udp with
            outgoing := []
            outgoingOffset := 0
            outgoingAt := now
            outgoingDatagram := false },
          if udp.outgoingDatagram then
            { status with
              udpSentDatagrams := status.udpSentDatagrams + 1 }
          else
            status, net)
      else
        (.ok, { udp with outgoingOffset := offset, outgoingAt := now }, status, net)
    | (error, _, net) => (error, udp, status, net)

/-- `udp_output`. -/
def output (codec : Codec) (datagrams : Datagrams Sys)
    (transport : Transport Net) (packetSize : Nat) (udp : Udp)
    (status : Status) (stream : Option Nat) (now : Nat) (net : Net)
    (sys : Sys) : Result × Udp × Status × Net × Sys :=
  if udp.outgoingOffset < udp.outgoing.length then
    let (result, udp, status, net) := flush transport udp status stream now net
    (result, udp, status, net, sys)
  else if udp.pingAt ≤ now then
    (.ok,
      { udp with
        outgoing := heartbeat
        outgoingOffset := 0
        outgoingAt := now
        pingAt := now + udpHeartbeatMs }, status, net, sys)
  else
    let (udp, status, sys) := search codec datagrams packetSize now udp.visitOrder udp status sys
    (.ok, udp, status, net, sys)

end Udp

end EspFrp.Work

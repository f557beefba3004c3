import Mathlib.Algebra.BigOperators.Fin
import EspFrp.Library.Ring
import EspFrp.Types

/-!
# The QUIC transport

The streams of `quic.c`: the callbacks of ngtcp2 and the operations of the
application.  What ngtcp2 and the heap answer is an input of every call.  A
callback that fails makes ngtcp2 refuse the packet, which ends the connection.

The ledgers record what passed between the code and the connection: the bytes
that ngtcp2 delivered, the connection credit that was returned to it and the
streams that it announced.  Packets, timers, DNS, the handshake of TLS and the
status fields that only report are left out.
-/

namespace EspFrp.Quic

/-- `EFRP_QUIC_STREAMS`. -/
abbrev streamSlots : Nat := 4

/-- `EFRP_QUIC_RX_BYTES`. -/
abbrev rxBytes : Nat := 1024

/-- `EFRP_QUIC_TX_BYTES`. -/
abbrev txBytes : Nat := 2048

/-- `efrp_quic_stream_t`; the rings carry their `head` and `used`. -/
structure Stream where
  id : Nat
  receive : Library.Ring UInt8 rxBytes := Library.Ring.empty 0 rxBytes (by decide)
  transmit : Library.Ring UInt8 txBytes := Library.Ring.empty 0 txBytes (by decide)
  submitted : Nat := 0
  receivedOffset : Nat := 0
  acknowledgedOffset : Nat := 0
  localFin : Bool := false
  finSubmitted : Bool := false
  remoteFin : Bool := false
  reset : Bool := false
  closed : Bool := false
  sendStopped : Bool := false
  accepted : Bool := false

namespace Stream

/-- A reset discards what was received. -/
def discard (stream : Stream) : Stream :=
  { stream with
    reset := true
    receive :=
      { Library.Ring.empty 0 rxBytes (by decide) with
        head := stream.receive.head
        head_lt := stream.receive.head_lt } }

/-- The end of a stream discards what was to be sent. -/
def close (stream : Stream) : Stream :=
  { stream with
    closed := true
    submitted := 0
    transmit :=
      { Library.Ring.empty 0 txBytes (by decide) with
        head := stream.transmit.head
        head_lt := stream.transmit.head_lt } }

end Stream

/-- `efrp_quic_transport_t` with the ledgers of its connection. -/
structure Transport where
  peer : Bool
  server : Bool
  isOpen : Bool := false
  result : Result := .ok
  streams : Fin streamSlots → Option Stream := fun _ => none
  maxStreams : Nat
  opened : Nat := 0
  delivered : Nat := 0
  returned : Nat := 0

namespace Transport

/-- A transport whose connection has the limits of `start_connection`. -/
def create (peer server : Bool) : Transport where
  peer := peer
  server := server
  maxStreams := if server then streamSlots else 0

/-- `find_stream`, with the slot of the stream. -/
def findStream (quic : Transport) (id : Nat) : Option (Fin streamSlots × Stream) :=
  (List.finRange streamSlots).findSome? fun slot =>
    (quic.streams slot).bind fun stream =>
      if stream.id = id then some (slot, stream) else none

/-- The first free slot. -/
def freeSlot (quic : Transport) : Option (Fin streamSlots) :=
  (List.finRange streamSlots).find? fun slot => (quic.streams slot).isNone

/-- Write a slot back. -/
def set (quic : Transport) (slot : Fin streamSlots) (stream : Option Stream) : Transport :=
  { quic with streams := Function.update quic.streams slot stream }

/-- `fail`, whose `cleanup` frees all streams. -/
def fail (quic : Transport) (reason : Result) : Transport :=
  { quic with result := reason, isOpen := false, streams := fun _ => none }

/-! ## The callbacks of ngtcp2 -/

/-- `handshake_completed`; `trusted` is the outcome of its checks. -/
def handshakeCompleted (quic : Transport) (trusted : Bool) : Transport :=
  if trusted then { quic with isOpen := true } else quic.fail .protocolError

/-- `incoming_stream`; `allocated` is the outcome of `calloc`. -/
def incomingStream (quic : Transport) (id : Int) (allocated : Bool) :
    Transport :=
  if !quic.peer ∨ !quic.server ∨ id < 0 ∨ id % 4 ≠ 0 then
    quic.fail .protocolError
  else
    match quic.freeSlot with
    | none => quic.fail .protocolError
    | some slot =>
      if allocated then
        { quic.set slot (some { id := id.toNat }) with
          opened := quic.opened + 1 }
      else
        quic.fail .protocolError

/-- `receive_stream`. -/
def receiveStream (quic : Transport) (id offset : Nat)
    (bytes : List UInt8) (fin : Bool) : Transport :=
  match quic.findStream id with
  | none => quic.fail .protocolError
  | some (slot, stream) =>
    if stream.reset ∨ stream.closed ∨ offset ≠ stream.receivedOffset ∨
        rxBytes - stream.receive.used < bytes.length then
      quic.fail .protocolError
    else
      { quic.set slot (some
          { stream with
            receive := stream.receive.write bytes
            receivedOffset := stream.receivedOffset + bytes.length
            remoteFin := stream.remoteFin || fin }) with
        delivered := quic.delivered + bytes.length }

/-- `acknowledge_stream`. -/
def acknowledgeStream (quic : Transport) (id offset count : Nat) :
    Transport :=
  match quic.findStream id with
  | none => quic.fail .protocolError
  | some (slot, stream) =>
    if stream.closed ∨ offset ≠ stream.acknowledgedOffset ∨
        stream.submitted < count ∨ stream.transmit.used < count then
      quic.fail .protocolError
    else
      quic.set slot (some
        { stream with
          transmit := stream.transmit.drop count
          submitted := stream.submitted - count
          acknowledgedOffset := stream.acknowledgedOffset + count })

/-- `reset_stream`. -/
def resetStream (quic : Transport) (id : Nat) : Transport :=
  match quic.findStream id with
  | none => quic.fail .protocolError
  | some (slot, stream) => quic.set slot (some stream.discard)

/-- The close of a stream that the peer has only asked to stop sending. -/
def completedSendStop (stream : Stream) (rxCode txCode : Option Nat) :
    Bool :=
  rxCode.isNone && txCode == some 0 && stream.remoteFin &&
    stream.transmit.used == 0 && stream.submitted == 0

/-- `close_stream`; a code is given if its flag is set. -/
def closeStream (quic : Transport) (id : Nat) (rxCode txCode : Option Nat) : Transport :=
  match quic.findStream id with
  | none => quic.fail .protocolError
  | some (slot, stream) =>
    if (rxCode.isSome ∨ txCode.isSome) ∧ !completedSendStop stream rxCode txCode then
      quic.set slot (some stream.discard.close)
    else
      quic.set slot (some stream.close)

/-- `receive_stop_sending`. -/
def receiveStopSending (quic : Transport) (id : Nat) : Transport :=
  match quic.findStream id with
  | none => quic.fail .protocolError
  | some (slot, stream) => quic.set slot (some { stream with sendStopped := true })

/-- What `write_packets` does to the stream whose bytes ngtcp2 took. -/
def packetWritten (quic : Transport) (id count : Nat) : Transport :=
  match quic.findStream id with
  | none => quic
  | some (slot, stream) =>
    if stream.reset ∨ stream.closed ∨ stream.sendStopped then
      quic
    else if stream.transmit.used - stream.submitted < count then
      quic.fail .protocolError
    else
      quic.set slot (some
        { stream with
          submitted := stream.submitted + count
          finSubmitted := stream.finSubmitted || (stream.localFin &&
              stream.submitted + count == stream.transmit.used) })

/-! ## The operations -/

/-- `ready`. -/
def ready (quic : Transport) : Result :=
  if quic.result ≠ .ok then quic.result
  else if quic.isOpen then .ok
  else .wouldBlock

/-- `open_stream`; ngtcp2 gives an id, or says why not. -/
def openStream (quic : Transport) (native : Except Result Nat)
    (allocated : Bool) : Result × Option Nat × Transport :=
  if quic.ready ≠ .ok then
    (quic.ready, none, quic)
  else if quic.server then
    (.invalidState, none, quic)
  else
    match quic.freeSlot with
    | none => (.wouldBlock, none, quic)
    | some slot =>
      if !allocated then
        (.noMemory, none, quic)
      else
        match native with
        | .error error => (error, none, quic)
        | .ok id => (.ok, some id, quic.set slot (some { id := id, accepted := true }))

/-- The loop of `accept_stream` prefers the smallest id. -/
def select (quic : Transport) (selected : Option (Fin streamSlots × Stream))
    (slot : Fin streamSlots) : Option (Fin streamSlots × Stream) :=
  match quic.streams slot with
  | none => selected
  | some stream =>
    if !stream.accepted ∧ selected.all fun other => stream.id < other.2.id then
      some (slot, stream)
    else
      selected

/-- The stream that waits to be accepted. -/
def waiting (quic : Transport) : Option (Fin streamSlots × Stream) :=
  (List.finRange streamSlots).foldl quic.select none

/-- `accept_stream`. -/
def acceptStream (quic : Transport) : Result × Option Nat × Transport :=
  if quic.ready ≠ .ok then
    (quic.ready, none, quic)
  else if !quic.peer ∨ !quic.server then
    (.invalidState, none, quic)
  else
    match quic.waiting with
    | none => (.wouldBlock, none, quic)
    | some (slot, stream) =>
      (.ok, some stream.id, quic.set slot (some { stream with accepted := true }))

/-- `write_stream`. -/
def writeStream (quic : Transport) (id : Nat) (bytes : List UInt8) : Result × Nat × Transport :=
  if quic.ready ≠ .ok then
    (quic.ready, 0, quic)
  else
    match quic.findStream id with
    | none => (.invalidArgument, 0, quic)
    | some (slot, stream) =>
      if stream.reset then
        (.streamReset, 0, quic)
      else if stream.localFin ∨ stream.closed ∨ stream.sendStopped then
        (.invalidState, 0, quic)
      else if stream.transmit.used = txBytes then
        (.wouldBlock, 0, quic)
      else
        (.ok, min bytes.length (txBytes - stream.transmit.used), quic.set slot (some
            { stream with transmit := stream.transmit.write bytes }))

/-- `read_stream`; `extended` is the outcome of
`ngtcp2_conn_extend_max_stream_offset`. -/
def readStream (quic : Transport) (id capacity : Nat) (extended : Bool) :
    Result × List UInt8 × Transport :=
  if quic.ready ≠ .ok then
    (quic.ready, [], quic)
  else
    match quic.findStream id with
    | none => (.invalidArgument, [], quic)
    | some (slot, stream) =>
      if stream.reset then
        (.streamReset, [], quic)
      else if stream.receive.used = 0 then
        (if stream.remoteFin then .eof else .wouldBlock, [], quic)
      else if !stream.closed ∧ !extended then
        (.protocolError, [], quic.fail .protocolError)
      else
        (.ok, stream.receive.front capacity,
          { quic.set slot (some { stream with receive := stream.receive.drop capacity }) with
            returned := quic.returned + min capacity stream.receive.used })

/-- `close_write`. -/
def closeWrite (quic : Transport) (id : Nat) : Result × Transport :=
  if quic.ready ≠ .ok then
    (quic.ready, quic)
  else
    match quic.findStream id with
    | none => (.invalidArgument, quic)
    | some (slot, stream) =>
      if stream.reset then
        (.streamReset, quic)
      else
        (.ok, quic.set slot (some { stream with localFin := true }))

/-- `reset`; `native` is the outcome of `ngtcp2_conn_shutdown_stream`. -/
def reset (quic : Transport) (id : Nat) (native : Result) : Result × Transport :=
  if quic.ready ≠ .ok then
    (quic.ready, quic)
  else
    match quic.findStream id with
    | none => (.invalidArgument, quic)
    | some (slot, stream) =>
      if stream.reset then
        (.ok, quic)
      else if native ≠ .ok then
        (native, quic)
      else
        (.ok, quic.set slot (some stream.discard))

/-- `release`. -/
def release (quic : Transport) (id : Nat) : Result × Transport :=
  if quic.ready ≠ .ok then
    (quic.ready, quic)
  else
    match quic.findStream id with
    | none => (.invalidArgument, quic)
    | some (slot, stream) =>
      if !stream.reset ∧ !(stream.localFin ∧ stream.remoteFin ∧ stream.receive.used = 0) then
        (.invalidState, quic)
      else if !stream.closed then
        (.wouldBlock, quic)
      else
        (.ok, quic.set slot none)

end Transport

/-! ## Runs -/

/-- What happens to a transport. -/
inductive Event where
  | handshakeCompleted (trusted : Bool)
  | incomingStream (id : Int) (allocated : Bool)
  | receiveStream (id offset : Nat) (bytes : List UInt8) (fin : Bool)
  | acknowledgeStream (id offset count : Nat)
  | resetStream (id : Nat)
  | closeStream (id : Nat) (rxCode txCode : Option Nat)
  | receiveStopSending (id : Nat)
  | packetWritten (id count : Nat)
  /-- Any other failure of a step. -/
  | failed (reason : Result)
  | openStream (native : Except Result Nat) (allocated : Bool)
  | acceptStream
  | writeStream (id : Nat) (bytes : List UInt8)
  | readStream (id capacity : Nat) (extended : Bool)
  | closeWrite (id : Nat)
  | reset (id : Nat) (native : Result)
  | release (id : Nat)
  | cancel

namespace Transport

/-- An event of a connection that has not ended. -/
def after (quic : Transport) : Event → Transport
  | .handshakeCompleted trusted => quic.handshakeCompleted trusted
  | .incomingStream id allocated => quic.incomingStream id allocated
  | .receiveStream id offset bytes fin => quic.receiveStream id offset bytes fin
  | .acknowledgeStream id offset count => quic.acknowledgeStream id offset count
  | .resetStream id => quic.resetStream id
  | .closeStream id rxCode txCode => quic.closeStream id rxCode txCode
  | .receiveStopSending id => quic.receiveStopSending id
  | .packetWritten id count => quic.packetWritten id count
  | .failed reason => if reason = .ok then quic else quic.fail reason
  | .openStream native allocated => (quic.openStream native allocated).2.2
  | .acceptStream => quic.acceptStream.2.2
  | .writeStream id bytes => (quic.writeStream id bytes).2.2
  | .readStream id capacity extended => (quic.readStream id capacity extended).2.2
  | .closeWrite id => (quic.closeWrite id).2
  | .reset id native => (quic.reset id native).2
  | .release id => (quic.release id).2
  | .cancel => quic.fail .cancelled

/-- A run; a connection that has ended stays as it is. -/
def run (quic : Transport) : List Event → Transport
  | [] => quic
  | event :: rest =>
    if quic.result ≠ .ok then quic else (quic.after event).run rest

end Transport

end EspFrp.Quic

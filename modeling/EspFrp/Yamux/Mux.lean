import EspFrp.Library.Ring
import EspFrp.Library.Slots
import EspFrp.Library.Word
import EspFrp.Types
import EspFrp.Yamux.Wire

/-!
# The Yamux client mux

The state of `efrp_yamux_t` and every operation of `yamux.c` except the
incremental input parser, which has a module of its own.  A C function that
changes the mux through a pointer returns the new mux next to its result and
its output arguments; pointers are assumed to be valid.

Three storage details are abstracted.  A control slot holds the header and
not its twelve bytes, the output buffer and the header buffer are the bytes
in use, and the receive ring of a free stream slot is an empty ring instead
of a null pointer.  The timeout trace of the laboratory build is left out.
-/

namespace EspFrp.Yamux

open Library

/-! ## Limits -/

/-- `EFRP_YAMUX_STREAMS`. -/
abbrev streamSlots : Nat := 4

/-- `EFRP_YAMUX_RING_BYTES`. -/
abbrev ringBytes : Nat := 1024

/-- `EFRP_YAMUX_HEADER_BYTES`. -/
abbrev headerBytes : Nat := 12

/-- `EFRP_YAMUX_INITIAL_WINDOW`. -/
abbrev initialWindow : Nat := 262144

/-- `EFRP_YAMUX_CONTROL_SLOTS`. -/
abbrev controlSlots : Nat := 8

/-- `EFRP_YAMUX_DISCARD_LIMIT`. -/
abbrev discardLimit : Nat := 4 * initialWindow

/-- `EFRP_YAMUX_STALL_MS`. -/
abbrev stallMs : Nat := 2500

/-- `EFRP_YAMUX_IO_TIMEOUT_MS`. -/
abbrev ioTimeoutMs : Nat := 5000

/-- `EFRP_YAMUX_OPEN_TIMEOUT_MS`. -/
abbrev openTimeoutMs : Nat := 10000

/-- `UINT32_MAX`. -/
abbrev uint32Max : Nat := 4294967295

/-! ## State -/

/-- The zeroed receive ring of a stream. -/
def freshRing : Ring UInt8 ringBytes := Ring.empty 0 ringBytes (by decide)

/-- `efrp_yamux_stream_t`; the ring carries `head` and `used`. -/
structure Stream where
  id : Nat := 0
  sendCredit : Nat := 0
  receiveCredit : Nat := 0
  returnCredit : Nat := 0
  openedMs : Nat := 0
  blockedMs : Nat := 0
  acknowledged : Bool := false
  localFin : Bool := false
  remoteFin : Bool := false
  reset : Bool := false
  blocked : Bool := false
  ring : Ring UInt8 ringBytes := freshRing
deriving DecidableEq, Repr

/-- The stream part of `reset_state`. -/
def Stream.cleared (stream : Stream) : Stream :=
  { stream with
    reset := true
    returnCredit := 0
    blocked := false
    ring := freshRing }

/-- `efrp_yamux_t`. -/
structure Mux where
  streams : List Stream := List.replicate streamSlots {}
  controls : Ring Header controlSlots := Ring.empty ⟨0, 0, 0, 0, 0⟩ controlSlots (by decide)
  output : List UInt8 := []
  outputOffset : Nat := 0
  outputGrantId : Nat := 0
  outputGrantBytes : Nat := 0
  creditCursor : Nat := 0
  header : List UInt8 := []
  frameId : Nat := 0
  frameRemaining : Nat := 0
  nextId : Nat := 1
  peerLastId : Nat := 0
  discardedBytes : Nat := 0
  frameFlags : Nat := 0
  nowMs : Nat := 0
  inputProgressMs : Nat := 0
  outputProgressMs : Nat := 0
  pingStartedMs : Nat := 0
  headerStartedMs : Nat := 0
  drainStartedMs : Nat := 0
  pingId : Nat := 0
  frameActive : Bool := false
  frameDiscard : Bool := false
  localGoaway : Bool := false
  remoteGoaway : Bool := false
  pingPending : Bool := false
  preferData : Bool := false
  failure : Result := .ok
deriving DecidableEq, Repr

/-- `efrp_yamux_init`. -/
def yamuxInit (now : Nat) : Mux := { nowMs := now }

namespace Mux

/-- `stream`: the slot of a stream id, which is never zero. -/
def stream (mux : Mux) (id : Nat) : Option Stream :=
  if id = 0 then none else Slots.lookup Stream.id id mux.streams

/-- Write a stream back through the pointer that `stream` returned. -/
def setStream (mux : Mux) (stream : Stream) : Mux :=
  { mux with
    streams := Slots.replaceFirst Stream.id stream.id stream mux.streams }

/-- `fail`. -/
def fail (mux : Mux) (error : Result) : Result × Mux := (error, { mux with failure := error })

/-- Put a control frame into the first free control slot. -/
def enqueue (mux : Mux) (header : Header) : Mux :=
  { mux with
    controls := mux.controls.write [header]
    outputProgressMs :=
      if mux.controls.used = 0 ∧ mux.output = [] then mux.nowMs
      else mux.outputProgressMs }

/-- `queue`. -/
def queue (mux : Mux) (kind : Kind) (flags id value : Nat) : Result × Mux :=
  if mux.controls.used = controlSlots then
    (.wouldBlock, mux)
  else
    (.ok, mux.enqueue (Header.make kind flags id value))

/-- `reset_state`. -/
def resetState (mux : Mux) (stream : Stream) : Mux :=
  let cleared := mux.setStream stream.cleared
  if mux.frameActive ∧ mux.frameId = stream.id ∧ ¬mux.frameDiscard then
    { cleared with
      frameDiscard := true
      drainStartedMs := mux.nowMs }
  else
    cleared

end Mux

/-! ## Opening and closing -/

/-- The stream that a successful `efrp_yamux_open` puts into its slot. -/
def openedStream (mux : Mux) : Stream :=
  { id := mux.nextId
    sendCredit := initialWindow
    receiveCredit := initialWindow
    openedMs := mux.nowMs }

/-- `efrp_yamux_open`; `allocated` is the outcome of `calloc`. -/
def yamuxOpen (mux : Mux) (allocated : Bool) : Result × Nat × Mux :=
  if mux.failure ≠ .ok then
    (mux.failure, 0, mux)
  else if mux.localGoaway ∨ mux.remoteGoaway then
    (.sessionClosed, 0, mux)
  else if mux.nextId = 0 then
    (.capacityExceeded, 0, mux)
  else if Slots.lookup Stream.id 0 mux.streams = none then
    (.capacityExceeded, 0, mux)
  else if mux.controls.used = controlSlots then
    (.wouldBlock, 0, mux)
  else if ¬allocated then
    (.noMemory, 0, mux)
  else
    match mux.queue .window synFlag mux.nextId 0 with
    | (.ok, queued) =>
      (.ok, mux.nextId,
        { queued with
          streams := Slots.replaceFirst Stream.id 0 (openedStream mux) mux.streams
          nextId :=
            if mux.nextId = uint32Max then 0
            else add32 mux.nextId 2 })
    | (result, queued) => (result, 0, queued)

/-- `efrp_yamux_close_write`. -/
def yamuxCloseWrite (mux : Mux) (id : Nat) : Result × Mux :=
  if mux.failure ≠ .ok then
    (mux.failure, mux)
  else
    match mux.stream id with
    | none => (.invalidArgument, mux)
    | some stream =>
      if stream.reset then
        (.streamReset, mux)
      else if stream.localFin then
        (.ok, mux)
      else
        match mux.queue .window finFlag id 0 with
        | (.ok, queued) => (.ok, queued.setStream { stream with localFin := true })
        | (result, queued) => (result, queued)

/-- `efrp_yamux_reset`. -/
def yamuxReset (mux : Mux) (id : Nat) : Result × Mux :=
  if mux.failure ≠ .ok then
    (mux.failure, mux)
  else
    match mux.stream id with
    | none => (.invalidArgument, mux)
    | some stream =>
      if stream.reset then
        (.ok, mux)
      else
        match mux.queue .window rstFlag id 0 with
        | (.ok, queued) => (.ok, queued.resetState stream)
        | (result, queued) => (result, queued)

/-- The mux after a successful `efrp_yamux_release`. -/
def Mux.releasing (mux : Mux) (id : Nat) : Mux :=
  { mux with
    streams := Slots.replaceFirst Stream.id id {} mux.streams
    frameDiscard :=
      if mux.frameActive ∧ mux.frameId = id then true
      else mux.frameDiscard }

/-- `efrp_yamux_release`. -/
def yamuxRelease (mux : Mux) (id : Nat) : Result × Mux :=
  if mux.failure ≠ .ok then
    (mux.failure, mux)
  else
    match mux.stream id with
    | none => (.invalidArgument, mux)
    | some stream =>
      if ¬stream.reset ∧ ¬(stream.localFin ∧ stream.remoteFin ∧ stream.ring.used = 0) then
        (.invalidState, mux)
      else
        (.ok, mux.releasing id)

/-- `efrp_yamux_ping`. -/
def yamuxPing (mux : Mux) (opaqueId : Nat) : Result × Mux :=
  if mux.failure ≠ .ok then
    (mux.failure, mux)
  else if mux.pingPending then
    (.wouldBlock, mux)
  else
    match mux.queue .ping synFlag 0 opaqueId with
    | (.ok, queued) =>
      (.ok,
        { queued with
          pingPending := true
          pingId := opaqueId
          pingStartedMs := mux.nowMs })
    | (result, queued) => (result, queued)

/-- `efrp_yamux_goaway`. -/
def yamuxGoaway (mux : Mux) : Result × Mux :=
  if mux.failure ≠ .ok then
    (mux.failure, mux)
  else if mux.localGoaway then
    (.ok, mux)
  else
    match mux.queue .goaway 0 0 0 with
    | (.ok, queued) => (.ok, { queued with localGoaway := true })
    | (result, queued) => (result, queued)

/-! ## Output -/

/-- A stream for which `efrp_yamux_output` may stage a credit grant. -/
def Stream.grantDue (stream : Stream) : Bool :=
  stream.id ≠ 0 ∧ ¬stream.reset ∧ ¬stream.remoteFin ∧ stream.returnCredit ≠ 0

/-- Stage the returned credit of the stream in a slot. -/
def Mux.stageGrant (mux : Mux) (slot : Nat) (stream : Stream) : Mux :=
  { mux.setStream { stream with returnCredit := 0 } with
    output := (Header.make .window 0 stream.id stream.returnCredit).encode
    outputGrantId := stream.id
    outputGrantBytes := stream.returnCredit
    outputProgressMs := mux.nowMs
    creditCursor := (slot + 1) % streamSlots
    preferData := true }

/-- The round-robin search for a grant over the remaining offsets. -/
def Mux.searchGrant (mux : Mux) : List Nat → Mux
  | [] => mux
  | offset :: rest =>
    let slot := (mux.creditCursor + offset) % streamSlots
    match mux.streams[slot]? with
    | none => mux.searchGrant rest
    | some stream =>
      if stream.grantDue then
        mux.stageGrant slot stream
      else
        mux.searchGrant rest

/-- Fill the free output slot: control frames first, then a grant. -/
def Mux.stageOutput (mux : Mux) : Mux :=
  match mux.controls.contents with
  | control :: _ =>
    { mux with
      output := control.encode
      controls := mux.controls.drop 1 }
  | [] => mux.searchGrant (List.range streamSlots)

/-- `efrp_yamux_output`. -/
def yamuxOutput (mux : Mux) : Result × List UInt8 × Mux :=
  if mux.failure ≠ .ok then
    (mux.failure, [], mux)
  else
    let staged := if mux.output = [] then mux.stageOutput else mux
    if staged.output = [] then
      (.wouldBlock, [], staged)
    else
      (.ok, staged.output.drop staged.outputOffset, staged)

/-- The output slot after a number of bytes has been handed over. -/
def Mux.handing (mux : Mux) (count : Nat) : Mux :=
  { mux with
    outputOffset := mux.outputOffset + count
    outputProgressMs := mux.nowMs }

/-- The output slot after its last byte has been handed over. -/
def Mux.clearOutput (mux : Mux) : Mux :=
  { mux with
    output := []
    outputOffset := 0
    outputGrantId := 0
    outputGrantBytes := 0 }

/-- Credit a completely handed over grant to its stream. -/
def Mux.completeGrant (mux : Mux) : Result × Mux :=
  match mux.stream mux.outputGrantId with
  | none => (.ok, mux.clearOutput)
  | some stream =>
    if stream.reset then
      (.ok, mux.clearOutput)
    else if sub32 initialWindow stream.receiveCredit < mux.outputGrantBytes then
      mux.fail .protocolError
    else
      (.ok, (mux.setStream
          { stream with
            receiveCredit := add32 stream.receiveCredit mux.outputGrantBytes }).clearOutput)

/-- `efrp_yamux_consume_output`. -/
def yamuxConsumeOutput (mux : Mux) (length : Nat) : Result × Mux :=
  if mux.output.length - mux.outputOffset < length then
    (.invalidArgument, mux)
  else if mux.failure ≠ .ok then
    (mux.failure, mux)
  else if length = 0 then
    (.ok, mux)
  else
    let advanced := mux.handing length
    if advanced.outputOffset = advanced.output.length then
      advanced.completeGrant
    else
      (.ok, advanced)

/-! ## Application data -/

/-- Stage a DATA frame with the accepted prefix of the offered bytes. -/
def Mux.stageData (mux : Mux) (stream : Stream) (bytes : List UInt8) : Nat × Mux :=
  let count := min (min bytes.length ringBytes) stream.sendCredit
  (count,
    { mux.setStream { stream with sendCredit := sub32 stream.sendCredit count } with
      output := (Header.make .data 0 stream.id count).encode ++ bytes.take count
      outputProgressMs := mux.nowMs
      preferData := false })

/-- `efrp_yamux_write`. -/
def yamuxWrite (mux : Mux) (id : Nat) (bytes : List UInt8) : Result × Nat × Mux :=
  if mux.failure ≠ .ok then
    (mux.failure, 0, mux)
  else
    match mux.stream id with
    | none => (.invalidArgument, 0, mux)
    | some stream =>
      if stream.reset then
        (.streamReset, 0, mux)
      else if stream.localFin then
        (.invalidState, 0, mux)
      else if bytes = [] then
        (.ok, 0, mux)
      else
        let pending :=
          if mux.output ≠ [] ∨ mux.controls.used ≠ 0 ∨ ¬mux.preferData then
            yamuxOutput mux
          else
            (.wouldBlock, [], mux)
        if pending.1 = .ok ∨ stream.sendCredit = 0 then
          (.wouldBlock, 0, pending.2.2)
        else
          let staged := pending.2.2.stageData stream bytes
          (.ok, staged.1, staged.2)

/-- The stream after a successful `efrp_yamux_read`. -/
def Stream.reading (stream : Stream) (capacity : Nat) : Stream :=
  { stream with
    ring := stream.ring.drop capacity
    returnCredit := add32 stream.returnCredit (min capacity stream.ring.used)
    blocked := false }

/-- `efrp_yamux_read`. -/
def yamuxRead (mux : Mux) (id capacity : Nat) : Result × List UInt8 × Mux :=
  if capacity = 0 then
    (.invalidArgument, [], mux)
  else if mux.failure ≠ .ok then
    (mux.failure, [], mux)
  else
    match mux.stream id with
    | none => (.invalidArgument, [], mux)
    | some stream =>
      if stream.reset then
        (.streamReset, [], mux)
      else if stream.ring.used = 0 then
        (if stream.remoteFin then .eof else .wouldBlock, [], mux)
      else
        (.ok, stream.ring.front capacity, mux.setStream (stream.reading capacity))

/-! ## Time -/

/-- A stream that `efrp_yamux_tick` resets at the given time. -/
def Stream.overdue (stream : Stream) (now : Nat) : Bool :=
  stream.id ≠ 0 ∧ ¬stream.reset ∧ ((stream.blocked ∧ stallMs ≤ now - stream.blockedMs) ∨
      (¬stream.acknowledged ∧ openTimeoutMs ≤ now - stream.openedMs))

/-- The loop of `efrp_yamux_tick` over the remaining slots. -/
def Mux.resetOverdue (mux : Mux) : List Nat → Result × Mux
  | [] => (.ok, mux)
  | slot :: rest =>
    match mux.streams[slot]? with
    | none => mux.resetOverdue rest
    | some stream =>
      if stream.overdue mux.nowMs then
        match yamuxReset mux stream.id with
        | (.ok, cleared) => cleared.resetOverdue rest
        | (_, unchanged) => unchanged.fail .capacityExceeded
      else
        mux.resetOverdue rest

/-- The deadlines of `efrp_yamux_tick` that end the session. -/
def Mux.timedOut (mux : Mux) : Bool :=
  ((mux.output ≠ [] ∨ mux.controls.used ≠ 0) ∧ ioTimeoutMs ≤ mux.nowMs - mux.outputProgressMs) ∨
    ((mux.header ≠ [] ∨ mux.frameActive) ∧ ioTimeoutMs ≤ mux.nowMs - mux.inputProgressMs) ∨
    ((¬mux.frameActive ∧ mux.header ≠ []) ∧ ioTimeoutMs ≤ mux.nowMs - mux.headerStartedMs) ∨
    ((mux.frameActive ∧ mux.frameDiscard) ∧ ioTimeoutMs ≤ mux.nowMs - mux.drainStartedMs) ∨
    (mux.pingPending ∧ ioTimeoutMs ≤ mux.nowMs - mux.pingStartedMs)

/-- `efrp_yamux_tick`. -/
def yamuxTick (mux : Mux) (now : Nat) : Result × Mux :=
  if mux.failure ≠ .ok then
    (mux.failure, mux)
  else if now < mux.nowMs then
    mux.fail .invalidArgument
  else
    let advanced := { mux with nowMs := now }
    if advanced.timedOut then
      advanced.fail .timeout
    else
      advanced.resetOverdue (List.range streamSlots)

end EspFrp.Yamux

import EspFrp.Transport.Tls
import EspFrp.Yamux.Slot

/-!
# The Yamux transport over TLS

`stream_yamux.c`: the pump that moves bytes between the mux and the TLS
connection, and the stream operations that an application calls.  The mux is
kept as a `World`, which records what has passed through it.

A schedule is a list of events.  The answers of Mbed TLS are part of the event
that drives the pump, one pair for each of its turns.  The parts of the status
that only report (`state`, `want`, `tls_error`, `verify_flags`,
`next_deadline_ms`, `pending_tx_bytes`) are left out, as are the queries
`status`, `info` and `finish`, which change nothing.
-/

namespace EspFrp.Transport

open Yamux

/-- What Mbed TLS answers in one turn of the pump. -/
structure TurnAnswers where
  write : SslAnswer Nat := .wantWrite
  read : SslAnswer (List UInt8) := .wantRead
deriving DecidableEq, Repr

/-- The turns of one transport step. -/
abbrev stepTurns : Nat := 8

/-- The size of the input buffer. -/
abbrev inputBytes : Nat := 1024

/-- `efrp_yamux_transport_t`; `input` is the unconsumed part of its buffer. -/
structure YamuxTransport where
  tls : Tls
  world : World
  result : Result := .ok
  eof : Bool := false
  input : List UInt8 := []
  staged : Nat := 0
  now : Nat
  cancelled : Bool := false

namespace YamuxTransport

/-- The mux of a transport. -/
abbrev mux (transport : YamuxTransport) : Mux := transport.world.mux

/--
`efrp_transport_yamux_create`.  The record of the bytes that TLS has accepted
starts with the transport.
-/
def create (tls : Tls) (now : Nat) : Option YamuxTransport :=
  if uint64Max - openTimeoutMs < now then
    none
  else if tls.state ≠ .opened ∨ tls.pending ≠ [] then
    none
  else
    some
      { tls := { tls with sent := [] }
        world := World.init now
        now := now }

/-- `stop`. -/
def stop (transport : YamuxTransport) (result : Result) : Result × YamuxTransport :=
  (result, { transport with result := result, tls := transport.tls.cancel })

/-- `ready`. -/
def ready (transport : YamuxTransport) : Result :=
  if transport.cancelled then .cancelled else transport.result

/-- A call of the mux. -/
def call (transport : YamuxTransport) (call : Call) : YamuxTransport :=
  { transport with world := transport.world.step call }

/-! ## The pump -/

/-- Give TLS the chance to accept queued bytes. -/
def flush (transport : YamuxTransport) (now : Nat)
    (answer : SslAnswer Nat) : Result × YamuxTransport :=
  if transport.eof then
    (.ok, transport)
  else
    let outcome := transport.tls.step now answer
    let flushed := { transport with tls := outcome.2 }
    if outcome.1 = .eof then
      (.ok, { flushed with eof := true })
    else if outcome.1 ≠ .ok ∧ outcome.1 ≠ .wouldBlock then
      flushed.stop outcome.1
    else
      (.ok, flushed)

/-- Tell the mux that TLS has accepted the whole staged output. -/
def settle (transport : YamuxTransport) : Result × YamuxTransport :=
  if transport.staged ≠ 0 ∧ transport.tls.pending = [] ∧ transport.tls.state = .opened then
    let result := (yamuxConsumeOutput transport.mux transport.staged).1
    let consumed := transport.call (.consumeOutput transport.staged)
    if result ≠ .ok then
      consumed.stop result
    else
      (.ok, { consumed with staged := 0 })
  else
    (.ok, transport)

/-- Read from TLS into the empty input buffer. -/
def receive (transport : YamuxTransport) (now : Nat)
    (answer : SslAnswer (List UInt8)) : Result × YamuxTransport :=
  if transport.input = [] ∧ ¬transport.eof then
    let outcome := transport.tls.read now inputBytes answer
    let received := { transport with tls := outcome.2.2, input := outcome.2.1 }
    if outcome.1 = .eof then
      (.ok, { received with eof := true })
    else if outcome.1 ≠ .ok ∧ outcome.1 ≠ .wouldBlock then
      { transport with tls := outcome.2.2 }.stop outcome.1
    else
      (.ok, received)
  else
    (.ok, transport)

/-- Feed the input buffer to the mux. -/
def deliver (transport : YamuxTransport) : Result × YamuxTransport :=
  let outcome := yamuxFeed transport.mux transport.input
  let fed := transport.call (.feed transport.input)
  if outcome.1 ≠ .ok ∧ outcome.1 ≠ .wouldBlock then
    fed.stop outcome.1
  else
    (.ok, { fed with input := transport.input.drop outcome.2.1 })

/-- Queue the next output of the mux in TLS. -/
def stage (transport : YamuxTransport) (now : Nat) : Result × YamuxTransport :=
  if transport.staged = 0 ∧ ¬transport.eof then
    let output := yamuxOutput transport.mux
    let filled := transport.call .output
    if output.1 = .ok then
      let outcome := transport.tls.write now output.2.1
      let queued := { filled with tls := outcome.2.2, staged := outcome.2.1 }
      if outcome.1 ≠ .ok ∧ outcome.1 ≠ .wouldBlock then
        queued.stop outcome.1
      else
        (.ok, queued)
    else if output.1 ≠ .wouldBlock then
      filled.stop output.1
    else
      (.ok, filled)
  else
    (.ok, transport)

/-- Go on after a part of a turn that has not stopped the transport. -/
def andThen (outcome : Result × YamuxTransport) (next : YamuxTransport → Result × YamuxTransport) :
    Result × YamuxTransport :=
  if outcome.1 = .ok then next outcome.2 else outcome

/-- One turn of the pump. -/
def turn (transport : YamuxTransport) (now : Nat) (answers : TurnAnswers) :
    Result × YamuxTransport :=
  andThen (transport.flush now answers.write) fun flushed =>
    andThen flushed.settle fun settled =>
      andThen (settled.receive now answers.read) fun received =>
        andThen received.deliver fun delivered => delivered.stage now

/-- The turns of the pump. -/
def turns (transport : YamuxTransport) (now : Nat) : List TurnAnswers → Result × YamuxTransport
  | [] => (.ok, transport)
  | answers :: rest =>
    andThen (transport.turn now answers) fun next => next.turns now rest

/-- `step`; `answers` gives the answers of Mbed TLS in every turn. -/
def step (transport : YamuxTransport) (now : Nat)
    (answers : Fin stepTurns → TurnAnswers) : Result × YamuxTransport :=
  if transport.ready ≠ .ok then
    (transport.ready, transport)
  else if now < transport.now ∨ uint64Max - openTimeoutMs < now then
    (.invalidArgument, transport)
  else
    let result := (yamuxTick transport.mux now).1
    let ticked := { transport with now := now }.call (.tick now)
    if result ≠ .ok then
      ticked.stop result
    else
      andThen (ticked.turns now (List.ofFn answers)) fun pumped =>
        (if pumped.eof ∧ pumped.input = [] then .eof else .ok, pumped)

/-! ## The stream operations -/

/-- `open_stream`; `allocated` is the outcome of `calloc`. -/
def openStream (transport : YamuxTransport) (allocated : Bool) : Result × Nat × YamuxTransport :=
  if transport.ready ≠ .ok then
    (transport.ready, 0, transport)
  else if transport.eof then
    (.sessionClosed, 0, transport)
  else
    let outcome := yamuxOpen transport.mux allocated
    (outcome.1, outcome.2.1, transport.call (.openStream allocated))

/-- `write_stream`. -/
def writeStream (transport : YamuxTransport) (id : Nat)
    (bytes : List UInt8) : Result × Nat × YamuxTransport :=
  if transport.ready ≠ .ok then
    (transport.ready, 0, transport)
  else if uint32Max < id then
    (.invalidArgument, 0, transport)
  else if transport.eof then
    (.sessionClosed, 0, transport)
  else
    let outcome := yamuxWrite transport.mux id bytes
    (outcome.1, outcome.2.1, transport.call (.write id bytes))

/-- `read_stream`. -/
def readStream (transport : YamuxTransport) (id capacity : Nat) :
    Result × List UInt8 × YamuxTransport :=
  if transport.ready ≠ .ok then
    (transport.ready, [], transport)
  else if uint32Max < id then
    (.invalidArgument, [], transport)
  else
    let outcome := yamuxRead transport.mux id capacity
    (outcome.1, outcome.2.1, transport.call (.read id capacity))

/-- `STREAM_ACTION`: a stream operation without arguments of its own. -/
def streamAction (transport : YamuxTransport) (id : Nat)
    (action : Mux → Nat → Result × Mux) (call : Call) :
    Result × YamuxTransport :=
  if transport.ready ≠ .ok then
    (transport.ready, transport)
  else if uint32Max < id then
    (.invalidArgument, transport)
  else
    ((action transport.mux id).1, transport.call call)

/-- `close_write`. -/
def closeWrite (transport : YamuxTransport) (id : Nat) : Result × YamuxTransport :=
  transport.streamAction id yamuxCloseWrite (.closeWrite id)

/-- `reset`. -/
def reset (transport : YamuxTransport) (id : Nat) : Result × YamuxTransport :=
  transport.streamAction id yamuxReset (.reset id)

/-- `release`. -/
def release (transport : YamuxTransport) (id : Nat) : Result × YamuxTransport :=
  transport.streamAction id yamuxRelease (.release id)

/-- `cancel`; the mux is destroyed, which leaves all its fields zero. -/
def cancel (transport : YamuxTransport) : YamuxTransport :=
  if transport.cancelled then
    transport
  else
    { transport with
      cancelled := true
      world := { transport.world with mux := { yamuxInit 0 with nextId := 0 } }
      input := []
      staged := 0
      result := .cancelled
      eof := false
      tls := transport.tls.cancel }

end YamuxTransport

/-! ## Schedules -/

/-- A call of the transport with its arguments. -/
inductive Event where
  | step (now : Nat) (answers : Fin stepTurns → TurnAnswers)
  | openStream (allocated : Bool)
  | write (id : Nat) (bytes : List UInt8)
  | read (id capacity : Nat)
  | closeWrite (id : Nat)
  | reset (id : Nat)
  | release (id : Nat)
  | cancel

namespace YamuxTransport

/-- The transport after an event. -/
def after (transport : YamuxTransport) : Event → YamuxTransport
  | .step now answers => (transport.step now answers).2
  | .openStream allocated => (transport.openStream allocated).2.2
  | .write id bytes => (transport.writeStream id bytes).2.2
  | .read id capacity => (transport.readStream id capacity).2.2
  | .closeWrite id => (transport.closeWrite id).2
  | .reset id => (transport.reset id).2
  | .release id => (transport.release id).2
  | .cancel => transport.cancel

/-- The transport after a schedule. -/
def run (transport : YamuxTransport) (events : List Event) : YamuxTransport :=
  events.foldl after transport

end YamuxTransport

end EspFrp.Transport

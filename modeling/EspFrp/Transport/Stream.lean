import EspFrp.Types

/-!
# Streams of a transport

`stream.c`: the operations that the session, the work streams and the XTCP
controller call on a transport.  A transport is any state machine with these
operations; the answers that say how many bytes were taken or given stay
within what was offered.
-/

namespace EspFrp.Streams

/-- `UINT64_MAX`. -/
abbrev timeMax : Nat := 18446744073709551615

/-- `efrp_stream_info_t`, as far as it is read. -/
structure Info where
  readableBytes : Nat := 0
  reset : Bool := false
deriving DecidableEq, Repr

/-- The part of `efrp_transport_status_t` that is read. -/
structure Status where
  quic : Bool := false
  isOpen : Bool := false
  result : Result := .ok
deriving DecidableEq, Repr

/-- `efrp_stream_operations_t`. -/
structure Transport (Net : Type) where
  step : Net → (now : Nat) → Result × Net
  status : Net → Result × Status
  openStream : Net → Result × Nat × Net
  accept : Net → Result × Nat × Net
  info : Net → (id : Nat) → Result × Info
  write : Net → (id : Nat) → List UInt8 → Result × Nat × Net
  read : Net → (id capacity : Nat) → Result × List UInt8 × Net
  closeWrite : Net → (id : Nat) → Result × Net
  reset : Net → (id : Nat) → Result × Net
  release : Net → (id : Nat) → Result × Net
  finish : Net → Result
  cancel : Net → Net
  destroy : Net → Result × Net
  write_le : ∀ net id bytes, (write net id bytes).2.1 ≤ bytes.length
  read_le : ∀ net id capacity, (read net id capacity).2.1.length ≤ capacity

namespace Transport

variable {Net : Type}

/-- `efrp_stream_info`; there is no stream without an identifier. -/
def streamInfo (transport : Transport Net) (net : Net) : Option Nat → Result × Info
  | none => (.invalidArgument, {})
  | some id => transport.info net id

/-- `efrp_stream_write`. -/
def streamWrite (transport : Transport Net) (net : Net)
    (id : Option Nat) (bytes : List UInt8) : Result × Nat × Net :=
  match id, bytes with
  | some id, byte :: rest => transport.write net id (byte :: rest)
  | _, _ => (.invalidArgument, 0, net)

/-- `efrp_stream_read`; no caller passes an empty buffer. -/
def streamRead (transport : Transport Net) (net : Net)
    (id : Option Nat) (capacity : Nat) : Result × List UInt8 × Net :=
  match id with
  | some id => transport.read net id capacity
  | none => (.invalidArgument, [], net)

/-- A stream action on an optional identifier. -/
def onStream (action : Net → Nat → Result × Net) (net : Net) : Option Nat → Result × Net
  | some id => action net id
  | none => (.invalidArgument, net)

end Transport

end EspFrp.Streams

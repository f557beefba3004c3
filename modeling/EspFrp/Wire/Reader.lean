import EspFrp.Types
import EspFrp.Library.BigEndian

/-!
# Frames

`frame_reader.c`: a message on a stream is a header of eight bytes and a
payload.  The reader takes bytes in any pieces and hands every complete frame
to a handler, which works on a state of its own and may refuse the frame.
-/

namespace EspFrp.Wire

open Library

/-- `EFRP_WIRE_MAX_PAYLOAD`. -/
abbrev maxPayload : Nat := 65536

/-- `EFRP_WIRE_HEADER_SIZE`. -/
abbrev headerSize : Nat := 8

/-- `efrp_wire_magic`. -/
def magic : List UInt8 := [0x46, 0x52, 0x50, 0, 2, 0x0d, 0x0a]

/-- `efrp_frame_kind_t`. -/
inductive Kind where
  | clientHello
  | serverHello
  | message
deriving DecidableEq, Repr

/-- The kind on the wire. -/
def Kind.code : Kind → Nat
  | .clientHello => 1
  | .serverHello => 2
  | .message => 16

/-- `valid_kind`. -/
def Kind.ofCode? : Nat → Option Kind
  | 1 => some .clientHello
  | 2 => some .serverHello
  | 16 => some .message
  | _ => none

/-- `efrp_wire_header`. -/
def header (kind : Kind) (length : Nat) : Except Result (List UInt8) :=
  if maxPayload < length then
    .error .capacityExceeded
  else
    .ok (BigEndian.toBytes 2 kind.code ++ [0, 0] ++ BigEndian.toBytes 4 length)

/-- The frame of a message of the given type. -/
def messageFrame (type : UInt8) (json : List UInt8) : Except Result (List UInt8) :=
  (header .message (json.length + 2)).map fun bytes => bytes ++ [0, type] ++ json

/-- `efrp_wire_reader_t`. -/
structure Reader where
  capacity : Nat
  expectMagic : Bool := false
  magicUsed : Nat := 0
  header : List UInt8 := []
  kind : Kind := .message
  payload : List UInt8 := []
  payloadExpected : Nat := 0
  failure : Result := .ok
deriving DecidableEq, Repr

/-- What the handler does with a frame: it takes it or refuses it. -/
abbrev Handler (State : Type) := State → Kind → List UInt8 → Bool × State

/-- What one turn of the loop of `feed` does. -/
inductive Turn (State : Type) where
  | failed (error : Result) (used : Nat) (reader : Reader) (state : State)
  | more (used : Nat) (reader : Reader) (state : State)
  | frame (used : Nat) (reader : Reader) (state : State)

namespace Reader

variable {State : Type}

/-- The header is complete. -/
def announce (reader : Reader) : Except Result Reader :=
  match Kind.ofCode? (BigEndian.ofBytes (reader.header.take 2)) with
  | none => .error .protocolError
  | some kind =>
    if reader.header.getD 2 0 ≠ 0 ∨ reader.header.getD 3 0 ≠ 0 then
      .error .protocolError
    else
      let expected := BigEndian.ofBytes (reader.header.drop 4)
      if reader.capacity < expected then
        .error .capacityExceeded
      else
        .ok { reader with kind := kind, payloadExpected := expected }

/-- The payload grows, and the frame may be complete. -/
def takePayload (handler : Handler State) (reader : Reader)
    (state : State) (bytes : List UInt8) (used : Nat) : Turn State :=
  let take := min (reader.payloadExpected - reader.payload.length) bytes.length
  let reader := { reader with payload := reader.payload ++ bytes.take take }
  if reader.payload.length = reader.payloadExpected then
    match handler state reader.kind reader.payload with
    | (false, state) => .failed .callbackRejected (used + take) reader state
    | (true, state) =>
      .frame (used + take)
        { reader with
          header := []
          payload := []
          payloadExpected := 0 } state
  else
    .more (used + take) reader state

/-- One turn of the loop of `feed` on the bytes that are left. -/
def turn (handler : Handler State) (reader : Reader) (state : State) : List UInt8 → Turn State
  | [] => .more 0 reader state
  | byte :: rest =>
    if reader.expectMagic ∧ reader.magicUsed < magic.length then
      let next := { reader with magicUsed := reader.magicUsed + 1 }
      if byte ≠ magic.getD reader.magicUsed 0 then
        .failed .protocolError 1 next state
      else
        .more 1 next state
    else if reader.header.length < headerSize then
      let reader := { reader with header := reader.header ++ [byte] }
      if reader.header.length ≠ headerSize then
        .more 1 reader state
      else
        match reader.announce with
        | .error error => .failed error 1 reader state
        | .ok reader => reader.takePayload handler state rest 1
    else
      reader.takePayload handler state (byte :: rest) 0

/-- The loop of `feed`. -/
def loop (handler : Handler State) (one : Bool) :
    Nat → Reader → State → List UInt8 → Nat → Result × Nat × Reader × State
  | 0, reader, state, _, used => (.ok, used, reader, state)
  | fuel + 1, reader, state, bytes, used =>
    if bytes = [] then
      (.ok, used, reader, state)
    else
      match reader.turn handler state bytes with
      | .failed error count reader state =>
        (error, used + count, { reader with failure := error }, state)
      | .more count reader state =>
        loop handler one fuel reader state (bytes.drop count) (used + count)
      | .frame count reader state =>
        if one then
          (.ok, used + count, reader, state)
        else
          loop handler one fuel reader state (bytes.drop count) (used + count)

/-- `feed`; every turn takes a byte. -/
def feedAll (handler : Handler State) (one : Bool) (reader : Reader)
    (state : State) (bytes : List UInt8) :
    Result × Nat × Reader × State :=
  if reader.failure ≠ .ok then
    (reader.failure, 0, reader, state)
  else
    loop handler one bytes.length reader state bytes 0

/-- `efrp_wire_feed`. -/
def feed (handler : Handler State) (reader : Reader) (state : State)
    (bytes : List UInt8) : Result × Nat × Reader × State := feedAll handler false reader state bytes

/-- `efrp_wire_feed_one`. -/
def feedOne (handler : Handler State) (reader : Reader) (state : State)
    (bytes : List UInt8) : Result × Nat × Reader × State := feedAll handler true reader state bytes

/-- `efrp_wire_finish`. -/
def finish (reader : Reader) : Result :=
  if reader.failure ≠ .ok then
    reader.failure
  else if (reader.expectMagic ∧ reader.magicUsed ≠ magic.length) ∨ reader.header ≠ [] then
    .truncated
  else
    .ok

end Reader

end EspFrp.Wire

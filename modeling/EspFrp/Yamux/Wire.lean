import EspFrp.Library.BigEndian

/-!
# The Yamux wire format

A Yamux frame is a twelve-byte header, followed by a payload when the frame
is of type DATA.  This module gives the header codec the mux uses and an
independent reading of a byte string as a sequence of frames.

`framesOf` looks at the bytes alone.  It is the reference against which the
incremental parser of the mux is compared: the last frame of a byte string
may still lack a part of its payload, and a trailing part of a header is no
frame yet.
-/

namespace EspFrp.Yamux

open Library

variable (kind : Kind) (id : Nat) (frame : Frame) (header : Header) (frames : List Frame)
  (rest : List UInt8)

/-! ## Headers -/

/-- The frame types of the wire format. -/
inductive Kind where
  | data
  | window
  | ping
  | goaway
deriving DecidableEq, Repr

/-- The type byte of a frame type. -/
def Kind.code : Kind → Nat
  | .data => 0
  | .window => 1
  | .ping => 2
  | .goaway => 3

/-- The frame type of a type byte, if it is defined. -/
def Kind.ofCode? : Nat → Option Kind
  | 0 => some .data
  | 1 => some .window
  | 2 => some .ping
  | 3 => some .goaway
  | _ => none

theorem Kind.ofCode?_eq_some_iff {code : Nat} {kind : Kind} :
    Kind.ofCode? code = some kind ↔ code = kind.code := by
  constructor
  · intro known
    unfold Kind.ofCode? at known
    split at known <;> cases known <;> rfl
  · rintro rfl
    cases kind <;> rfl

/-- The flag bits of the wire format. -/
def synFlag : Nat := 1

@[inherit_doc synFlag]
def ackFlag : Nat := 2

@[inherit_doc synFlag]
def finFlag : Nat := 4

@[inherit_doc synFlag]
def rstFlag : Nat := 8

/-- The five fields of a frame header. -/
structure Header where
  version : Nat
  type : Nat
  flags : Nat
  id : Nat
  value : Nat
deriving DecidableEq, Repr

namespace Header

def syn (header : Header) : Bool := header.flags.testBit 0

def ack (header : Header) : Bool := header.flags.testBit 1

def fin (header : Header) : Bool := header.flags.testBit 2

def rst (header : Header) : Bool := header.flags.testBit 3

/-- The header of a frame the client sends. -/
def make (kind : Kind) (flags id value : Nat) : Header where
  version := 0
  type := kind.code
  flags := flags
  id := id
  value := value

/-- The twelve bytes that `header` stores. -/
def encode (header : Header) : List UInt8 :=
  BigEndian.toBytes 1 header.version ++ (BigEndian.toBytes 1 header.type ++
      (BigEndian.toBytes 2 header.flags ++ (BigEndian.toBytes 4 header.id ++
          BigEndian.toBytes 4 header.value)))

/-- The fields of a received header. -/
def decode (bytes : List UInt8) : Header where
  version := BigEndian.ofBytes (bytes.take 1)
  type := BigEndian.ofBytes ((bytes.drop 1).take 1)
  flags := BigEndian.ofBytes ((bytes.drop 2).take 2)
  id := BigEndian.ofBytes ((bytes.drop 4).take 4)
  value := BigEndian.ofBytes ((bytes.drop 8).take 4)

/-- Every field fits the bytes that carry it. -/
structure InRange (header : Header) : Prop where
  version : header.version < 256
  type : header.type < 256
  flags : header.flags < 65536
  id : header.id < 4294967296
  value : header.value < 4294967296

/-- The number of payload bytes that follow the header. -/
def payloadLength (header : Header) : Nat :=
  if header.type = Kind.data.code then header.value else 0

@[simp]
theorem encode_length : header.encode.length = 12 := by
  simp [encode]

theorem encode_ne_nil : header.encode ≠ [] := by
  intro empty
  have length := header.encode_length
  rw [empty] at length
  cases length

theorem decode_encode {header : Header} (range : header.InRange) :
    decode header.encode = header := by
  have version := BigEndian.ofBytes_toBytes_of_lt (show header.version < 256 ^ 1 from range.version)
  have type := BigEndian.ofBytes_toBytes_of_lt (show header.type < 256 ^ 1 from range.type)
  have flags := BigEndian.ofBytes_toBytes_of_lt (show header.flags < 256 ^ 2 from range.flags)
  have id := BigEndian.ofBytes_toBytes_of_lt (show header.id < 256 ^ 4 from range.id)
  have value := BigEndian.ofBytes_toBytes_of_lt (show header.value < 256 ^ 4 from range.value)
  simp [decode, encode, List.drop_append, List.drop_of_length_le, List.take_of_length_le,
    version, type, flags, id, value]

theorem encode_decode (length : bytes.length = 12) : (decode bytes).encode = bytes := by
  have version := BigEndian.toBytes_ofBytes_of_length
    (show (bytes.take 1).length = 1 by simp [length])
  have type := BigEndian.toBytes_ofBytes_of_length
    (show ((bytes.drop 1).take 1).length = 1 by simp [length])
  have flags := BigEndian.toBytes_ofBytes_of_length
    (show ((bytes.drop 2).take 2).length = 2 by simp [length])
  have id := BigEndian.toBytes_ofBytes_of_length
    (show ((bytes.drop 4).take 4).length = 4 by simp [length])
  have value := BigEndian.toBytes_ofBytes_of_length
    (show ((bytes.drop 8).take 4).length = 4 by simp [length])
  have lastField : (bytes.drop 8).take 4 = bytes.drop 8 := List.take_of_length_le (by simp [length])
  rw [encode, decode, version, type, flags, id, value, lastField,
    show bytes.drop 8 = (bytes.drop 4).drop 4 by simp,
    List.take_append_drop,
    show bytes.drop 4 = (bytes.drop 2).drop 2 by simp,
    List.take_append_drop,
    show bytes.drop 2 = (bytes.drop 1).drop 1 by simp,
    List.take_append_drop, List.take_append_drop]

theorem decode_inRange (length : bytes.length = 12) : (decode bytes).InRange := by
  have bound (start width : Nat) (within : start + width ≤ 12) :
      BigEndian.ofBytes ((bytes.drop start).take width) < 256 ^ width := by
    have lengthEq : ((bytes.drop start).take width).length = width := by
      rw [List.length_take, List.length_drop]
      omega
    have below := BigEndian.ofBytes_lt ((bytes.drop start).take width)
    rwa [lengthEq] at below
  exact
    { version := bound 0 1 (by omega)
      type := bound 1 1 (by omega)
      flags := bound 2 2 (by omega)
      id := bound 4 4 (by omega)
      value := bound 8 4 (by omega) }

end Header

/-! ## Frames -/

/-- A header together with the payload bytes that have arrived for it. -/
structure Frame where
  header : Header
  payload : List UInt8
deriving DecidableEq, Repr

namespace Frame

/-- The whole payload is there. -/
def Complete (frame : Frame) : Prop := frame.payload.length = frame.header.payloadLength

instance (frame : Frame) : Decidable frame.Complete := inferInstanceAs (Decidable (_ = _))

def encode (frame : Frame) : List UInt8 := frame.header.encode ++ frame.payload

/-- The payload, when the frame is a DATA frame of the given stream. -/
def dataFor (id : Nat) (frame : Frame) : List UInt8 :=
  if frame.header.type = Kind.data.code ∧ frame.header.id = id then
    frame.payload
  else
    []

end Frame

/-- The bytes of a sequence of frames. -/
def encodeFrames (frames : List Frame) : List UInt8 := frames.flatMap Frame.encode

/-- The frames of one stream. -/
def framesFor (id : Nat) (frames : List Frame) : List Frame :=
  frames.filter fun frame => frame.header.id = id

/-- The payloads of the DATA frames of one stream, concatenated. -/
def payloadFor (id : Nat) (frames : List Frame) : List UInt8 := frames.flatMap (Frame.dataFor id)

@[simp]
theorem encodeFrames_append (left right : List Frame) :
    encodeFrames (left ++ right) = encodeFrames left ++ encodeFrames right := List.flatMap_append

@[simp]
theorem payloadFor_append (left right : List Frame) :
    payloadFor id (left ++ right) = payloadFor id left ++ payloadFor id right := List.flatMap_append

@[simp]
theorem payloadFor_singleton : payloadFor id [frame] = frame.dataFor id := by
  simp [payloadFor]

@[simp]
theorem framesFor_append (left right : List Frame) :
    framesFor id (left ++ right) = framesFor id left ++ framesFor id right :=
  List.filter_append left right

theorem framesFor_singleton : framesFor id [frame] =
      if frame.header.id = id then [frame] else [] := by
  by_cases same : frame.header.id = id <;> simp [framesFor, same]

/-- Frames of other streams carry no payload for a stream. -/
theorem payloadFor_framesFor : payloadFor id (framesFor id frames) = payloadFor id frames := by
  induction frames with
  | nil => rfl
  | cons frame _ ih =>
    rw [← List.singleton_append, framesFor_append, payloadFor_append,
      payloadFor_append, ih, framesFor_singleton]
    by_cases same : frame.header.id = id
    · rw [if_pos same]
    rw [if_neg same, payloadFor_singleton, Frame.dataFor, if_neg fun both => same both.2]
    rfl

/-! ## Totals over headers -/

/-- The value of a header of the given kind and stream, otherwise zero. -/
def Header.valueFor (kind : Kind) (id : Nat) (header : Header) : Nat :=
  if header.type = kind.code ∧ header.id = id then header.value else 0

/-- What the headers of one kind announce for one stream. -/
def totalFor (kind : Kind) (id : Nat) (headers : List Header) : Nat :=
  (headers.map (Header.valueFor kind id)).sum

/-- The number of PING frames with given flags and value. -/
def countPings (flags value : Nat) (headers : List Header) : Nat :=
  headers.countP fun header =>
    header.type = Kind.ping.code ∧ header.flags = flags ∧ header.value = value

@[simp]
theorem totalFor_append (left right : List Header) :
    totalFor kind id (left ++ right) = totalFor kind id left + totalFor kind id right := by
  simp [totalFor]

@[simp]
theorem totalFor_singleton : totalFor kind id [header] = header.valueFor kind id := by
  simp [totalFor]

/-- Headers of other streams announce nothing. -/
theorem totalFor_foreign {kind : Kind} {id : Nat} {headers : List Header}
    (foreign : ∀ header ∈ headers, header.id ≠ id) : totalFor kind id headers = 0 := by
  induction headers with
  | nil => rfl
  | cons header _ ih =>
    rcases List.forall_mem_cons.mp foreign with ⟨first, rest⟩
    have none : header.valueFor kind id = 0 := if_neg fun both => first both.2
    have later := ih rest
    unfold totalFor at later ⊢
    rw [List.map_cons, List.sum_cons, none, later]

@[simp]
theorem countPings_append (flags value : Nat) (left right : List Header) :
    countPings flags value (left ++ right) =
      countPings flags value left + countPings flags value right := List.countP_append

theorem countPings_singleton (flags value : Nat) (header : Header) :
    countPings flags value [header] =
      if header.type = Kind.ping.code ∧ header.flags = flags ∧ header.value = value then 1
      else 0 := by
  simp [countPings, List.countP_singleton]

/-! ## Reading a byte string as frames -/

/-- The frames of a byte string; the last payload may be cut short. -/
def framesOf (bytes : List UInt8) : List Frame :=
  if bytes.length < 12 then
    []
  else
    let header := Header.decode (bytes.take 12)
    ⟨header, (bytes.drop 12).take header.payloadLength⟩ ::
      framesOf (bytes.drop (12 + header.payloadLength))
termination_by bytes.length
decreasing_by
  rw [List.length_drop]
  omega

theorem framesOf_short {bytes : List UInt8} (short : bytes.length < 12) : framesOf bytes = [] := by
  rw [framesOf, if_pos short]

/-- One header and a part of its payload are one frame. -/
theorem framesOf_cut {head body : List UInt8} (headLength : head.length = 12)
    (bodyLength : body.length ≤ (Header.decode head).payloadLength) :
    framesOf (head ++ body) = [⟨Header.decode head, body⟩] := by
  have takeHead : (head ++ body).take 12 = head := List.take_left' headLength
  have dropHead : (head ++ body).drop 12 = body := List.drop_left' headLength
  have long : ¬(head ++ body).length < 12 := by
    rw [List.length_append]
    omega
  rw [framesOf, if_neg long]
  dsimp only
  rw [takeHead, dropHead, List.take_of_length_le bodyLength, framesOf_short]
  rw [List.length_drop, List.length_append]
  omega

variable {frame : Frame}

/-- A complete frame in front is read back as it is. -/
theorem framesOf_encode_append (range : frame.header.InRange)
    (complete : frame.Complete) : framesOf (frame.encode ++ rest) = frame :: framesOf rest := by
  have headerLength := frame.header.encode_length
  have takeHeader : (frame.encode ++ rest).take 12 = frame.header.encode := by
    rw [Frame.encode, List.append_assoc, List.take_left' headerLength]
  have dropHeader : (frame.encode ++ rest).drop 12 = frame.payload ++ rest := by
    rw [Frame.encode, List.append_assoc, List.drop_left' headerLength]
  have long : ¬(frame.encode ++ rest).length < 12 := by
    simp only [Frame.encode, List.length_append, headerLength]
    omega
  rw [framesOf, if_neg long]
  dsimp only
  rw [takeHeader, Header.decode_encode range, ← List.drop_drop,
    dropHeader, List.take_left' complete, List.drop_left' complete]

/-- Complete frames in front are read back as they are. -/
theorem framesOf_encodeFrames_append
    (valid : ∀ frame ∈ frames, frame.header.InRange ∧ frame.Complete) :
    framesOf (encodeFrames frames ++ rest) = frames ++ framesOf rest := by
  induction frames with
  | nil => rfl
  | cons frame _ ih =>
    rcases List.forall_mem_cons.mp valid with ⟨⟨range, complete⟩, restValid⟩
    rw [encodeFrames, List.flatMap_cons, List.append_assoc, framesOf_encode_append _ range complete]
    exact congrArg (List.cons frame) (ih restValid)

/-- A sequence of complete frames is read back as it is. -/
theorem framesOf_encodeFrames {frames : List Frame}
    (valid : ∀ frame ∈ frames, frame.header.InRange ∧ frame.Complete) :
    framesOf (encodeFrames frames) = frames := by
  have decoded := framesOf_encodeFrames_append frames [] valid
  have nothing : framesOf [] = [] := framesOf_short (by decide)
  rw [List.append_nil, nothing, List.append_nil] at decoded
  exact decoded

/-! ## The complete frames of a byte string -/

/-- The frames of a byte string whose payload is there. -/
def completeFrames (bytes : List UInt8) : List Frame :=
  (framesOf bytes).filter fun frame => frame.Complete

theorem completeFrames_encodeFrames_append
    (valid : ∀ frame ∈ frames, frame.header.InRange ∧ frame.Complete) :
    completeFrames (encodeFrames frames ++ rest) = frames ++ completeFrames rest := by
  unfold completeFrames
  rw [framesOf_encodeFrames_append frames rest valid, List.filter_append,
    List.filter_eq_self.mpr fun frame member => decide_eq_true (valid frame member).2]

/-- A frame that lacks a byte is not complete. -/
theorem completeFrames_cut {count : Nat} (range : frame.header.InRange)
    (complete : frame.Complete) (cut : count < frame.encode.length) :
    completeFrames (frame.encode.take count) = [] := by
  have headerLength := frame.header.encode_length
  unfold completeFrames
  by_cases short : count < 12
  · rw [framesOf_short]
    · rfl
    · rw [List.length_take]
      omega
  · have bytes : frame.encode.take count =
        frame.header.encode ++ frame.payload.take (count - 12) := by
      rw [Frame.encode, List.take_append, headerLength, List.take_of_length_le (by omega)]
    have decoded := Header.decode_encode range
    rw [Frame.encode, List.length_append, headerLength] at cut
    have length : frame.payload.length = frame.header.payloadLength := complete
    rw [bytes, framesOf_cut headerLength]
    · rw [List.filter_eq_nil_iff]
      intro other member whole
      rw [List.mem_singleton.mp member] at whole
      have taken : (frame.payload.take (count - 12)).length =
          (Header.decode frame.header.encode).payloadLength := of_decide_eq_true whole
      rw [decoded, List.length_take] at taken
      omega
    · rw [decoded, List.length_take]
      omega

/-- More bytes never change the frames that were complete before. -/
theorem completeFrames_mono : completeFrames bytes <+: completeFrames (bytes ++ more) := by
  induction length : bytes.length using Nat.strong_induction_on generalizing bytes with
  | _ size ih =>
    by_cases short : bytes.length < 12
    · rw [completeFrames, framesOf_short short]
      exact List.nil_prefix
    have takeHead : (bytes.take 12).length = 12 := by
      rw [List.length_take]
      omega
    generalize headerEq : Header.decode (bytes.take 12) = header
    have range : header.InRange := by
      rw [← headerEq]
      exact Header.decode_inRange takeHead
    have encoded : header.encode = bytes.take 12 := by
      rw [← headerEq]
      exact Header.encode_decode takeHead
    by_cases cut : (bytes.drop 12).length < header.payloadLength
    · have partly : bytes = bytes.take 12 ++ bytes.drop 12 := (List.take_append_drop _ _).symm
      have none : completeFrames bytes = [] := by
        unfold completeFrames
        rw [partly, framesOf_cut takeHead (by rw [headerEq]; omega), List.filter_eq_nil_iff]
        intro other member whole
        rw [List.mem_singleton.mp member] at whole
        have taken : (bytes.drop 12).length = (Header.decode (bytes.take 12)).payloadLength :=
          of_decide_eq_true whole
        rw [headerEq] at taken
        omega
      rw [none]
      exact List.nil_prefix
    · generalize payloadEq : (bytes.drop 12).take header.payloadLength = payload
      generalize restEq : (bytes.drop 12).drop header.payloadLength = rest
      have complete : Frame.Complete ⟨header, payload⟩ := by
        rw [← payloadEq]
        exact List.length_take_of_le (by omega)
      have split : bytes = encodeFrames [⟨header, payload⟩] ++ rest := by
        rw [encodeFrames, List.flatMap_singleton, Frame.encode, List.append_assoc, ← payloadEq,
          ← restEq, List.take_append_drop, encoded, List.take_append_drop]
      have valid : ∀ frame ∈ [(⟨header, payload⟩ : Frame)],
          frame.header.InRange ∧ frame.Complete := by
        intro frame member
        rw [List.mem_singleton.mp member]
        exact ⟨range, complete⟩
      have smaller : rest.length < size := by
        rw [← restEq, List.length_drop, List.length_drop]
        omega
      rw [split, List.append_assoc, completeFrames_encodeFrames_append _ _ valid,
        completeFrames_encodeFrames_append _ _ valid]
      exact List.prefix_append_right_inj _ |>.mpr (ih rest.length smaller rfl)

end EspFrp.Yamux

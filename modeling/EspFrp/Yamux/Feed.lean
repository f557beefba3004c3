import EspFrp.Yamux.Mux

/-!
# The incremental input parser of the mux

`start_frame`, `end_frame` and the loop of `efrp_yamux_feed`.  The unconsumed
suffix of the input is passed along the loop; what `efrp_yamux_feed` reports
is the difference in length.

One turn of the loop either stops with a result or goes on with a smaller
input, a pending header less, or an exhausted frame less.  `feedMeasure`
counts these, and the loop is total without a bound on its turns.
-/

namespace EspFrp.Yamux

variable (mux : Mux) (bytes : List UInt8)

open Library

/-! ## Frames -/

/-- `end_frame`. -/
def endFrame (mux : Mux) : Mux :=
  let finished :=
    match mux.stream mux.frameId with
    | none => mux
    | some stream =>
      if ¬stream.reset ∧ mux.frameFlags.testBit 2 then
        mux.setStream { stream with remoteFin := true }
      else
        mux
  { finished with frameActive := false, header := [] }

/-- The PING branch of `start_frame`. -/
def startPing (mux : Mux) (header : Header) : Result × Mux :=
  if header.id ≠ 0 ∨ (header.flags ≠ synFlag ∧ header.flags ≠ ackFlag) then
    mux.fail .protocolError
  else if header.flags = synFlag then
    match mux.queue .ping ackFlag 0 header.value with
    | (.ok, queued) => (.ok, { queued with header := [] })
    | (result, queued) => (result, queued)
  else if mux.pingPending ∧ header.value = mux.pingId then
    (.ok, { mux with pingPending := false, header := [] })
  else
    mux.fail .protocolError

/-- The GOAWAY branch of `start_frame`. -/
def startGoaway (mux : Mux) (header : Header) : Result × Mux :=
  if header.id ≠ 0 ∨ header.flags ≠ 0 ∨ 2 < header.value then
    mux.fail .protocolError
  else if header.value ≠ 0 then
    mux.fail .sessionClosed
  else
    (.ok, { mux with remoteGoaway := true, header := [] })

/--
The admission of a stream id by `start_frame`: a peer SYN is answered by a
queued RST, every other frame must name a stream that one side has opened.
-/
def admitStream (mux : Mux) (header : Header) : Result × Mux :=
  if header.syn then
    if header.id % 2 = 1 ∨ header.id ≤ mux.peerLastId ∨ header.rst then
      mux.fail .protocolError
    else
      match mux.queue .window rstFlag header.id 0 with
      | (.ok, queued) => (.ok, { queued with peerLastId := header.id })
      | (result, queued) => (result, queued)
  else if
      if header.id % 2 = 1 then
        mux.nextId ≠ 0 ∧ mux.nextId ≤ header.id
      else
        mux.peerLastId < header.id then
    mux.fail .protocolError
  else
    (.ok, mux)

/-- The checks that `start_frame` makes for a stream that is not reset. -/
def Stream.refuses (stream : Stream) (kind : Kind) (header : Header) :
    Bool :=
  (header.ack ∧ stream.acknowledged) ∨ (¬stream.acknowledged ∧ ¬(header.ack ∨ header.rst)) ∨
    (stream.remoteFin ∧ ¬header.rst ∧ (kind = .data ∨ header.fin)) ∨
    (kind = .data ∧ stream.receiveCredit < header.value) ∨
    (kind = .window ∧ uint32Max - stream.sendCredit < header.value)

/-- The acknowledgement and the credit that a frame header carries. -/
def Stream.receive (stream : Stream) (kind : Kind) (header : Header) :
    Stream :=
  { stream with
    acknowledged := stream.acknowledged || header.ack
    receiveCredit :=
      if kind = .data then sub32 stream.receiveCredit header.value
      else stream.receiveCredit
    sendCredit :=
      if kind = .data then stream.sendCredit
      else add32 stream.sendCredit header.value }

/-- The effect of a frame header on a stream that is not reset. -/
def applyHeader (mux : Mux) (kind : Kind) (header : Header) : Result × Mux :=
  match mux.stream header.id with
  | none => (.ok, mux)
  | some stream =>
    if stream.reset then
      (.ok, mux)
    else if stream.refuses kind header then
      mux.fail .protocolError
    else
      let received := stream.receive kind header
      (.ok,
        if header.rst then
          (mux.setStream received).resetState received
        else
          mux.setStream received)

/-- The payload of a stream frame is dropped instead of stored. -/
def discards (mux : Mux) (id : Nat) : Bool :=
  match mux.stream id with
  | none => true
  | some stream => stream.reset

/-- The end of `start_frame`: the frame becomes the active one. -/
def enterFrame (mux : Mux) (kind : Kind) (header : Header) : Result × Mux :=
  let discard := discards mux header.id
  if kind = .data ∧ discard ∧ (initialWindow < header.value ∨
        sub32 discardLimit mux.discardedBytes < header.value) then
    mux.fail .protocolError
  else
    let active :=
      { mux with
        frameId := header.id
        frameFlags := header.flags
        frameDiscard := discard
        drainStartedMs :=
          if discard then mux.nowMs else mux.drainStartedMs
        frameRemaining := if kind = .data then header.value else 0
        frameActive := true }
    (.ok, if active.frameRemaining = 0 then endFrame active else active)

/-- The DATA and WINDOW branch of `start_frame`. -/
def startStream (mux : Mux) (kind : Kind) (header : Header) : Result × Mux :=
  if header.id = 0 ∨ (header.syn ∧ header.ack) ∨ (header.fin ∧ header.rst) then
    mux.fail .protocolError
  else
    match admitStream mux header with
    | (.ok, admitted) =>
      match applyHeader admitted kind header with
      | (.ok, applied) => enterFrame applied kind header
      | (result, applied) => (result, applied)
    | (result, admitted) => (result, admitted)

/-- `start_frame`. -/
def startFrame (mux : Mux) : Result × Mux :=
  let header := Header.decode mux.header
  if header.version ≠ 0 ∨ 15 < header.flags then
    mux.fail .protocolError
  else
    match Kind.ofCode? header.type with
    | none => mux.fail .protocolError
    | some .ping => startPing mux header
    | some .goaway => startGoaway mux header
    | some kind => startStream mux kind header

/-! ## The loop -/

/-- How a turn of the loop ends. -/
inductive Turn where
  | stop (result : Result) (rest : List UInt8) (mux : Mux)
  | next (rest : List UInt8) (mux : Mux)

/-- Move input bytes into the header buffer. -/
def Mux.fillHeader (mux : Mux) (bytes : List UInt8) : Mux :=
  let chunk := bytes.take (headerBytes - mux.header.length)
  if chunk = [] then
    mux
  else
    { mux with
      headerStartedMs :=
        if mux.header = [] then mux.nowMs else mux.headerStartedMs
      header := mux.header ++ chunk
      inputProgressMs := mux.nowMs }

/-- The bookkeeping after a part of a payload has been taken. -/
def Mux.advanceFrame (mux : Mux) (count : Nat) : Mux :=
  let advanced :=
    { mux with
      frameRemaining := sub32 mux.frameRemaining count
      inputProgressMs := mux.nowMs }
  if advanced.frameRemaining = 0 then endFrame advanced else advanced

/-- The payload half of a turn, with a frame active. -/
def payloadTurn (mux : Mux) (bytes : List UInt8) : Turn :=
  let count := min bytes.length mux.frameRemaining
  if bytes = [] then
    .stop .ok bytes mux
  else if mux.frameDiscard then
    if sub32 discardLimit mux.discardedBytes < count then
      .stop .protocolError bytes (mux.fail .protocolError).2
    else
      .next (bytes.drop count) (Mux.advanceFrame
          { mux with
            discardedBytes := add32 mux.discardedBytes count } count)
  else
    match mux.stream mux.frameId with
    | none => .stop .invalidState bytes (mux.fail .invalidState).2
    | some stream =>
      if stream.ring.available = 0 then
        .stop .wouldBlock bytes (if stream.blocked then
            mux
          else
            mux.setStream { stream with blocked := true, blockedMs := mux.nowMs })
      else
        let stored := min count stream.ring.available
        .next (bytes.drop stored) ((mux.setStream
            { stream with
              ring := stream.ring.write (bytes.take count) }).advanceFrame
            stored)

/-- The header half of a turn, with no frame active. -/
def headerTurn (mux : Mux) (bytes : List UInt8) : Turn :=
  let filled := mux.fillHeader bytes
  let rest := bytes.drop (headerBytes - mux.header.length)
  if filled.header.length ≠ headerBytes then
    .stop .ok rest filled
  else
    let started := startFrame filled
    if started.1 ≠ .ok then
      .stop started.1 rest started.2
    else if started.2.frameActive then
      payloadTurn started.2 rest
    else
      .next rest started.2

/-- One turn of the loop of `efrp_yamux_feed`. -/
def feedTurn (mux : Mux) (bytes : List UInt8) : Turn :=
  if mux.frameActive then payloadTurn mux bytes
  else headerTurn mux bytes

/-- The loop condition of `efrp_yamux_feed`. -/
def feedContinues (mux : Mux) (bytes : List UInt8) : Bool :=
  bytes ≠ [] ∨ (¬mux.frameActive ∧ mux.header.length = headerBytes)

/-- What is left to do for the loop. -/
def feedMeasure (mux : Mux) (bytes : List UInt8) : Nat :=
  2 * bytes.length +
    if (¬mux.frameActive ∧ mux.header.length = headerBytes) ∨
        (mux.frameActive ∧ mux.frameRemaining = 0) then 1
    else 0

theorem feedMeasure_le : feedMeasure mux bytes ≤ 2 * bytes.length + 1 := by
  unfold feedMeasure
  split <;> omega

@[simp]
theorem endFrame_frameActive : (endFrame mux).frameActive = false := rfl

@[simp]
theorem endFrame_header : (endFrame mux).header = [] := rfl

theorem feedMeasure_endFrame : feedMeasure (endFrame mux) bytes = 2 * bytes.length := by
  simp [feedMeasure]

variable {mux : Mux}

theorem feedMeasure_advanceFrame_zero (exhausted : mux.frameRemaining = 0) (bytes : List UInt8) :
    feedMeasure (mux.advanceFrame 0) bytes = 2 * bytes.length := by
  have remaining : sub32 mux.frameRemaining 0 = 0 := by
    rw [exhausted]
    rfl
  simp only [Mux.advanceFrame, remaining, if_true]
  exact feedMeasure_endFrame _ _

/-! ## What the start of a frame can do -/

/-- The end of a frame, with or without a FIN for a live stream. -/
theorem endFrame_cases (mux : Mux) : ((discards mux mux.frameId = true ∨
          mux.frameFlags.testBit 2 = false) ∧
        endFrame mux = { mux with frameActive := false, header := [] }) ∨
      ∃ stream, mux.stream mux.frameId = some stream ∧
        stream.reset = false ∧ mux.frameFlags.testBit 2 = true ∧
        endFrame mux =
          { mux.setStream { stream with remoteFin := true } with
            frameActive := false
            header := [] } := by
  unfold endFrame discards
  cases mux.stream mux.frameId with
  | none => exact Or.inl ⟨Or.inl rfl, rfl⟩
  | some stream =>
    dsimp only
    by_cases finishes : ¬stream.reset = true ∧ mux.frameFlags.testBit 2 = true
    · rw [if_pos finishes]
      exact Or.inr ⟨stream, rfl, Bool.eq_false_of_not_eq_true finishes.1, finishes.2, rfl⟩
    rw [if_neg finishes]
    refine Or.inl ⟨?_, rfl⟩
    by_cases closed : stream.reset = true
    · exact Or.inl closed
    · exact Or.inr (Bool.eq_false_of_not_eq_true fun final => finishes ⟨closed, final⟩)

theorem Mux.queue_cases (mux : Mux) (kind : Kind) (flags id value : Nat) :
    (mux.controls.used = controlSlots ∧ mux.queue kind flags id value = (.wouldBlock, mux)) ∨
      (mux.controls.used < controlSlots ∧ mux.queue kind flags id value =
          (.ok, mux.enqueue (Header.make kind flags id value))) := by
  have bound := mux.controls.used_le
  by_cases full : mux.controls.used = controlSlots
  · exact Or.inl ⟨full, if_pos full⟩
  · exact Or.inr ⟨by omega, if_neg full⟩

/--
A header that `start_frame` rejects before it looks at a stream.  The
constructors follow the checks of the source.
-/
inductive Violation (mux : Mux) (header : Header) : Prop where
  | version (unknown : header.version ≠ 0)
  | flags (unknown : 15 < header.flags)
  | type (unknown : Kind.ofCode? header.type = none)
  | ping (type : header.type = Kind.ping.code) (malformed : header.id ≠ 0 ∨
        (header.flags ≠ synFlag ∧ header.flags ≠ ackFlag))
  | pong (type : header.type = Kind.ping.code) (reply : header.flags = ackFlag)
      (unexpected : ¬(mux.pingPending = true ∧ header.value = mux.pingId))
  | goaway (type : header.type = Kind.goaway.code)
      (malformed : header.id ≠ 0 ∨ header.flags ≠ 0 ∨ 2 < header.value)
  | stream (kind : Kind) (type : header.type = kind.code) (stream : kind = .data ∨ kind = .window)
      (malformed : header.id = 0 ∨ (header.syn = true ∧ header.ack = true) ∨
        (header.fin = true ∧ header.rst = true))
  | opening (kind : Kind) (type : header.type = kind.code) (stream : kind = .data ∨ kind = .window)
      (opening : header.syn = true)
      (wrong : header.id % 2 = 1 ∨ header.id ≤ mux.peerLastId ∨ header.rst = true)
  | unopened (kind : Kind) (type : header.type = kind.code) (stream : kind = .data ∨ kind = .window)
      (plain : header.syn = false)
      (future : (header.id % 2 = 1 ∧ mux.nextId ≠ 0 ∧ mux.nextId ≤ header.id) ∨
          (header.id % 2 = 0 ∧ mux.peerLastId < header.id))

/-- An admitted stream id and the mux after its admission. -/
inductive Admitted (mux : Mux) (header : Header) : Mux → Prop where
  | peerOpened (opening : header.syn = true) (free : mux.controls.used < controlSlots)
      (even : header.id % 2 = 0)
      (increasing : mux.peerLastId < header.id)
      (noReset : header.rst = false) :
      Admitted mux header
        { mux.enqueue (Header.make .window rstFlag header.id 0) with
          peerLastId := header.id }
  | known (plain : header.syn = false)
      (odd : header.id % 2 = 1 → mux.nextId = 0 ∨ header.id < mux.nextId)
      (even : header.id % 2 = 0 → header.id ≤ mux.peerLastId) :
      Admitted mux header mux

/-- The ways in which a stream id is admitted. -/
theorem admitStream_cases (mux : Mux) {kind : Kind}
    (type : header.type = kind.code) (stream : kind = .data ∨ kind = .window) :
    (Violation mux header ∧ admitStream mux header = mux.fail .protocolError) ∨
      (mux.controls.used = controlSlots ∧ header.id % 2 = 0 ∧
        admitStream mux header = (.wouldBlock, mux)) ∨
      ∃ admitted, Admitted mux header admitted ∧ admitStream mux header = (.ok, admitted) := by
  unfold admitStream
  by_cases opening : header.syn = true
  · rw [if_pos opening]
    by_cases wrong : header.id % 2 = 1 ∨ header.id ≤ mux.peerLastId ∨ header.rst = true
    · exact Or.inl ⟨.opening kind type stream opening wrong, if_pos wrong⟩
    rw [if_neg wrong]
    push Not at wrong
    have even : header.id % 2 = 0 := by omega
    rcases mux.queue_cases .window rstFlag header.id 0 with ⟨full, queued⟩ | ⟨free, queued⟩
    · rw [queued]
      exact Or.inr (Or.inl ⟨full, even, rfl⟩)
    · rw [queued]
      exact Or.inr (Or.inr ⟨_, .peerOpened opening free even wrong.2.1
          (Bool.eq_false_of_not_eq_true wrong.2.2), rfl⟩)
  · rw [if_neg opening]
    have plain := Bool.eq_false_of_not_eq_true opening
    by_cases future : (header.id % 2 = 1 ∧ mux.nextId ≠ 0 ∧ mux.nextId ≤ header.id) ∨
          (header.id % 2 = 0 ∧ mux.peerLastId < header.id)
    · refine Or.inl ⟨.unopened kind type stream plain future, if_pos ?_⟩
      rcases future with ⟨odd, unopened⟩ | ⟨even, unopened⟩
      · rw [if_pos odd]
        exact unopened
      rw [if_neg (by omega)]
      exact unopened
    · have admitted : Admitted mux header mux := .known plain (by omega) (by omega)
      refine Or.inr (Or.inr ⟨mux, admitted, if_neg ?_⟩)
      split <;> omega

/-- The effect of an accepted header on the stream it names. -/
inductive Applied (mux : Mux) (kind : Kind) (header : Header) : Mux → Prop where
  | ignored (discarded : discards mux header.id = true) : Applied mux kind header mux
  | received (stream : Stream) (found : mux.stream header.id = some stream)
      (alive : stream.reset = false)
      (accepted : stream.refuses kind header = false)
      (noReset : header.rst = false) :
      Applied mux kind header (mux.setStream (stream.receive kind header))
  | aborted (stream : Stream) (found : mux.stream header.id = some stream)
      (alive : stream.reset = false)
      (accepted : stream.refuses kind header = false)
      (reset : header.rst = true) :
      Applied mux kind header (mux.resetState (stream.receive kind header))

/-- A stream that is written back and then reset is only reset. -/
theorem Mux.resetState_setStream (mux : Mux) (stream : Stream) :
    (mux.setStream stream).resetState stream = mux.resetState stream := by
  have streams : (mux.setStream stream).setStream stream.cleared =
        mux.setStream stream.cleared := by
    unfold Mux.setStream
    rw [show stream.cleared.id = stream.id from rfl,
      Slots.replaceFirst_replaceFirst stream.cleared rfl]
  unfold Mux.resetState
  rw [streams]
  rfl

/-- The ways in which a header changes the stream it names. -/
theorem applyHeader_cases (mux : Mux) (kind : Kind) (header : Header) :
    (∃ stream, mux.stream header.id = some stream ∧
        stream.reset = false ∧ stream.refuses kind header = true ∧
        applyHeader mux kind header = mux.fail .protocolError) ∨
      ∃ applied, Applied mux kind header applied ∧
        applyHeader mux kind header = (.ok, applied) := by
  unfold applyHeader
  cases found : mux.stream header.id with
  | none =>
    have discarded : discards mux header.id = true := by simp only [discards, found]
    exact Or.inr ⟨mux, .ignored discarded, rfl⟩
  | some stream =>
    dsimp only
    by_cases closed : stream.reset = true
    · have discarded : discards mux header.id = true := by simp only [discards, found, closed]
      exact Or.inr ⟨mux, .ignored discarded, if_pos closed⟩
    rw [if_neg closed]
    have alive := Bool.eq_false_of_not_eq_true closed
    by_cases refused : stream.refuses kind header = true
    · exact Or.inl ⟨stream, rfl, alive, refused, if_pos refused⟩
    rw [if_neg refused]
    have accepted := Bool.eq_false_of_not_eq_true refused
    by_cases reset : header.rst = true
    · rw [if_pos reset, Mux.resetState_setStream]
      exact Or.inr ⟨_, .aborted stream found alive accepted reset, rfl⟩
    rw [if_neg reset]
    exact Or.inr ⟨_, .received stream found alive accepted
        (Bool.eq_false_of_not_eq_true reset), rfl⟩

/-- The active frame that a header announces. -/
def Mux.activate (mux : Mux) (kind : Kind) (header : Header) : Mux :=
  { mux with
    frameId := header.id
    frameFlags := header.flags
    frameDiscard := discards mux header.id
    drainStartedMs :=
      if discards mux header.id then mux.nowMs else mux.drainStartedMs
    frameRemaining := if kind = .data then header.value else 0
    frameActive := true }

/-- The ways in which a frame becomes the active one. -/
theorem enterFrame_cases (mux : Mux) (kind : Kind) (header : Header) :
    (discards mux header.id = true ∧ kind = .data ∧ (initialWindow < header.value ∨
          sub32 discardLimit mux.discardedBytes < header.value) ∧
        enterFrame mux kind header = mux.fail .protocolError) ∨
      ((discards mux header.id = true → kind = .data → header.value ≤ initialWindow ∧
            header.value ≤ sub32 discardLimit mux.discardedBytes) ∧
        enterFrame mux kind header = (.ok,
            if (mux.activate kind header).frameRemaining = 0 then
              endFrame (mux.activate kind header)
            else
              mux.activate kind header)) := by
  by_cases excessive : kind = .data ∧ discards mux header.id = true ∧
        (initialWindow < header.value ∨ sub32 discardLimit mux.discardedBytes < header.value)
  · exact Or.inl ⟨excessive.2.1, excessive.1, excessive.2.2, if_pos excessive⟩
  refine Or.inr ⟨?_, if_neg excessive⟩
  intro discarded data
  have within : ¬(initialWindow < header.value ∨
        sub32 discardLimit mux.discardedBytes < header.value) :=
    fun surplus => excessive ⟨data, discarded, surplus⟩
  omega

/-- A stream frame passes the checks that look at the header alone. -/
structure StreamHeader (kind : Kind) (header : Header) : Prop where
  type : header.type = kind.code
  stream : kind = .data ∨ kind = .window
  id : header.id ≠ 0
  synAck : ¬(header.syn = true ∧ header.ack = true)
  finRst : ¬(header.fin = true ∧ header.rst = true)

/-- The mux with the frame of an applied header entered. -/
def Mux.entered (mux : Mux) (kind : Kind) (header : Header) : Mux :=
  if (mux.activate kind header).frameRemaining = 0 then
    endFrame (mux.activate kind header)
  else
    mux.activate kind header

/-- Everything `start_frame` can do with the header it has received. -/
inductive Started (mux : Mux) (header : Header) : Result × Mux → Prop where
  | violated (reason : Violation mux header) : Started mux header (mux.fail .protocolError)
  | closed (type : header.type = Kind.goaway.code) (id : header.id = 0)
      (abnormal : header.value ≠ 0) :
      Started mux header (mux.fail .sessionClosed)
  | postponed (full : mux.controls.used = controlSlots) (even : header.id % 2 = 0) :
      Started mux header (.wouldBlock, mux)
  | pinged (type : header.type = Kind.ping.code) (id : header.id = 0)
      (request : header.flags = synFlag)
      (free : mux.controls.used < controlSlots) :
      Started mux header (.ok,
          { mux.enqueue (Header.make .ping ackFlag 0 header.value) with
            header := [] })
  | ponged (type : header.type = Kind.ping.code) (id : header.id = 0)
      (reply : header.flags = ackFlag)
      (pending : mux.pingPending = true)
      (expected : header.value = mux.pingId) :
      Started mux header (.ok, { mux with pingPending := false, header := [] })
  | departed (type : header.type = Kind.goaway.code) (id : header.id = 0)
      (plain : header.flags = 0) :
      Started mux header (.ok, { mux with remoteGoaway := true, header := [] })
  | rejected (kind : Kind) (admitted : Mux) (stream : Stream)
      (wellFormed : StreamHeader kind header)
      (admission : Admitted mux header admitted)
      (found : admitted.stream header.id = some stream)
      (alive : stream.reset = false)
      (refused : stream.refuses kind header = true) :
      Started mux header (admitted.fail .protocolError)
  | excessive (kind : Kind) (admitted applied : Mux) (wellFormed : StreamHeader kind header)
      (admission : Admitted mux header admitted)
      (application : Applied admitted kind header applied)
      (discarded : discards applied header.id = true)
      (data : kind = .data)
      (surplus : initialWindow < header.value ∨
        sub32 discardLimit applied.discardedBytes < header.value) :
      Started mux header (applied.fail .protocolError)
  | entered (kind : Kind) (admitted applied : Mux) (wellFormed : StreamHeader kind header)
      (admission : Admitted mux header admitted)
      (application : Applied admitted kind header applied)
      (bounded : discards applied header.id = true → kind = .data → header.value ≤ initialWindow ∧
          header.value ≤ sub32 discardLimit applied.discardedBytes) :
      Started mux header (.ok, applied.entered kind header)

theorem startPing_started (type : header.type = Kind.ping.code) :
    Started mux header (startPing mux header) := by
  unfold startPing
  by_cases malformed : header.id ≠ 0 ∨ (header.flags ≠ synFlag ∧ header.flags ≠ ackFlag)
  · rw [if_pos malformed]
    exact .violated (.ping type malformed)
  rw [if_neg malformed]
  push Not at malformed
  by_cases request : header.flags = synFlag
  · rw [if_pos request]
    rcases mux.queue_cases .ping ackFlag 0 header.value with ⟨full, queued⟩ | ⟨free, queued⟩
    · rw [queued]
      exact .postponed full (by rw [malformed.1])
    · rw [queued]
      exact .pinged type malformed.1 request free
  · rw [if_neg request]
    have reply := malformed.2 request
    by_cases expected : mux.pingPending ∧ header.value = mux.pingId
    · rw [if_pos expected]
      exact .ponged type malformed.1 reply expected.1 expected.2
    rw [if_neg expected]
    exact .violated (.pong type reply expected)

theorem startGoaway_started (type : header.type = Kind.goaway.code) :
    Started mux header (startGoaway mux header) := by
  unfold startGoaway
  by_cases malformed : header.id ≠ 0 ∨ header.flags ≠ 0 ∨ 2 < header.value
  · rw [if_pos malformed]
    exact .violated (.goaway type malformed)
  rw [if_neg malformed]
  push Not at malformed
  by_cases abnormal : header.value ≠ 0
  · rw [if_pos abnormal]
    exact .closed type malformed.1 abnormal
  rw [if_neg abnormal]
  exact .departed type malformed.1 malformed.2.1

/-- The header of an admitted stream frame, applied and entered. -/
theorem receive_started (wellFormed : StreamHeader kind header)
    (admission : Admitted mux header admitted) :
    Started mux header (match applyHeader admitted kind header with
      | (.ok, applied) => enterFrame applied kind header
      | (result, applied) => (result, applied)) := by
  rcases applyHeader_cases admitted kind header with
    ⟨stream, found, alive, refused, failed⟩ | ⟨applied, application, changed⟩
  · rw [failed]
    exact .rejected kind admitted stream wellFormed admission found alive refused
  · rw [changed]
    dsimp only
    rcases enterFrame_cases applied kind header with
      ⟨discarded, data, surplus, failed⟩ | ⟨bounded, entered⟩
    · rw [failed]
      exact .excessive kind admitted applied wellFormed admission application discarded data surplus
    · rw [entered]
      exact .entered kind admitted applied wellFormed admission application bounded

theorem startStream_started (type : header.type = kind.code)
    (stream : kind = .data ∨ kind = .window) :
    Started mux header (startStream mux kind header) := by
  unfold startStream
  by_cases malformed : header.id = 0 ∨ (header.syn = true ∧ header.ack = true) ∨
        (header.fin = true ∧ header.rst = true)
  · rw [if_pos malformed]
    exact .violated (.stream kind type stream malformed)
  rw [if_neg malformed]
  rcases not_or.mp malformed with ⟨id, flags⟩
  rcases not_or.mp flags with ⟨synAck, finRst⟩
  rcases admitStream_cases mux type stream with
    ⟨reason, failed⟩ | ⟨full, even, blocked⟩ | ⟨admitted, admission, accepted⟩
  · rw [failed]
    exact .violated reason
  · rw [blocked]
    exact .postponed full even
  · rw [accepted]
    exact receive_started ⟨type, stream, id, synAck, finRst⟩ admission

/-- The inversion of `start_frame`. -/
theorem startFrame_started (mux : Mux) :
    Started mux (Header.decode mux.header) (startFrame mux) := by
  unfold startFrame
  by_cases undefinedHeader : (Header.decode mux.header).version ≠ 0 ∨
        15 < (Header.decode mux.header).flags
  · rw [if_pos undefinedHeader]
    rcases undefinedHeader with version | flags
    · exact .violated (.version version)
    · exact .violated (.flags flags)
  · rw [if_neg undefinedHeader]
    cases known : Kind.ofCode? (Header.decode mux.header).type with
    | none => exact .violated (.type known)
    | some kind =>
      have type := Kind.ofCode?_eq_some_iff.mp known
      cases kind with
      | data => exact startStream_started type (Or.inl rfl)
      | window => exact startStream_started type (Or.inr rfl)
      | ping => exact startPing_started type
      | goaway => exact startGoaway_started type

@[simp]
theorem Mux.resetState_header (mux : Mux) (stream : Stream) :
    (mux.resetState stream).header = mux.header := by
  unfold Mux.resetState
  split <;> rfl

@[simp]
theorem Mux.resetState_frameActive (mux : Mux) (stream : Stream) :
    (mux.resetState stream).frameActive = mux.frameActive := by
  unfold Mux.resetState
  split <;> rfl

theorem Mux.entered_shape (mux : Mux) (kind : Kind) (header : Header) :
    ((mux.entered kind header).frameActive = false ∧ (mux.entered kind header).header = []) ∨
      ((mux.entered kind header).frameActive = true ∧
        (mux.entered kind header).frameRemaining ≠ 0) := by
  unfold Mux.entered
  by_cases empty : (mux.activate kind header).frameRemaining = 0
  · rw [if_pos empty]
    exact Or.inl ⟨rfl, rfl⟩
  rw [if_neg empty]
  exact Or.inr ⟨rfl, empty⟩

/-- An accepted frame is over at once or leaves a payload to receive. -/
theorem startFrame_ok_shape (idle : mux.frameActive = false) (accepted : (startFrame mux).1 = .ok) :
    ((startFrame mux).2.frameActive = false ∧ (startFrame mux).2.header = []) ∨
      ((startFrame mux).2.frameActive = true ∧ (startFrame mux).2.frameRemaining ≠ 0) := by
  have outcome := startFrame_started mux
  generalize startFrame mux = result at *
  cases outcome with
  | violated | closed | postponed | rejected | excessive => cases accepted
  | pinged | ponged | departed => exact Or.inl ⟨idle, rfl⟩
  | entered kind _ applied => exact applied.entered_shape kind _

/-! ## Totality of the loop -/

variable {bytes rest : List UInt8} {next : Mux}

theorem payloadTurn_decreases
    (active : mux.frameActive = true) (proceeds : payloadTurn mux bytes = .next rest next) :
    feedMeasure next rest < feedMeasure mux bytes := by
  have byCount (count : Nat) (base : Mux) (remaining : base.frameRemaining = mux.frameRemaining)
      (nonempty : bytes ≠ [])
      (progress : count = 0 → mux.frameRemaining = 0) :
      feedMeasure (base.advanceFrame count) (bytes.drop count) <
        feedMeasure mux bytes := by
    have positive := List.length_pos_iff.mpr nonempty
    by_cases none : count = 0
    · subst count
      have exhausted := progress rfl
      rw [feedMeasure_advanceFrame_zero (remaining.trans exhausted), List.drop_zero]
      simp [feedMeasure, active, exhausted]
    · have bound := feedMeasure_le (base.advanceFrame count) (bytes.drop count)
      rw [List.length_drop] at bound
      unfold feedMeasure at bound ⊢
      omega
  unfold payloadTurn at proceeds
  by_cases empty : bytes = []
  · rw [if_pos empty] at proceeds
    cases proceeds
  have positive := List.length_pos_iff.mpr empty
  rw [if_neg empty] at proceeds
  by_cases discarded : mux.frameDiscard = true
  · rw [if_pos discarded] at proceeds
    split at proceeds
    · cases proceeds
    cases proceeds
    exact byCount _ _ rfl empty (by omega)
  · rw [if_neg discarded] at proceeds
    split at proceeds
    · cases proceeds
    split at proceeds
    · cases proceeds
    cases proceeds
    exact byCount _ _ rfl empty (by omega)

theorem Mux.fillHeader_frameActive (mux : Mux) (bytes : List UInt8) :
    (mux.fillHeader bytes).frameActive = mux.frameActive := by
  unfold Mux.fillHeader
  dsimp only
  split <;> rfl

theorem headerTurn_decreases (idle : mux.frameActive = false)
    (proceeds : headerTurn mux bytes = .next rest next) :
    feedMeasure next rest < feedMeasure mux bytes := by
  unfold headerTurn at proceeds
  by_cases complete : (mux.fillHeader bytes).header.length = headerBytes
  · rw [if_neg (not_not.mpr complete)] at proceeds
    have smaller : (bytes.drop (headerBytes - mux.header.length)).length < bytes.length ∨
          (bytes.drop (headerBytes - mux.header.length) = bytes ∧
            mux.header.length = headerBytes) := by
      by_cases filled : bytes.take (headerBytes - mux.header.length) = []
      · have unchanged : mux.fillHeader bytes = mux := by
          simp only [Mux.fillHeader, filled, if_true]
        rw [unchanged] at complete
        exact Or.inr ⟨by rw [complete]; simp, complete⟩
      · have taken := List.length_pos_iff.mpr filled
        rw [List.length_take] at taken
        rw [List.length_drop]
        omega
    by_cases accepted : (startFrame (mux.fillHeader bytes)).1 = .ok
    · rw [if_neg (not_not.mpr accepted)] at proceeds
      have idleFilled : (mux.fillHeader bytes).frameActive = false :=
        (mux.fillHeader_frameActive bytes).trans idle
      have before : 2 * (bytes.drop (headerBytes - mux.header.length)).length <
            feedMeasure mux bytes := by
        unfold feedMeasure
        rcases smaller with shorter | ⟨same, pending⟩
        · omega
        rw [same, if_pos (Or.inl ⟨by simp [idle], pending⟩)]
        omega
      have shape := startFrame_ok_shape idleFilled accepted
      have flag : feedMeasure (startFrame (mux.fillHeader bytes)).2
              (bytes.drop (headerBytes - mux.header.length)) =
            2 * (bytes.drop (headerBytes - mux.header.length)).length := by
        rcases shape with ⟨ended, cleared⟩ | ⟨active, remaining⟩ <;> simp [feedMeasure, *]
      rcases shape with ⟨ended, _⟩ | ⟨active, _⟩
      · rw [if_neg (by simp [ended])] at proceeds
        cases proceeds
        omega
      · rw [if_pos active] at proceeds
        have inner := payloadTurn_decreases active proceeds
        omega
    · rw [if_pos accepted] at proceeds
      cases proceeds
  · rw [if_pos complete] at proceeds
    cases proceeds

theorem feedTurn_decreases (proceeds : feedTurn mux bytes = .next rest next) :
    feedMeasure next rest < feedMeasure mux bytes := by
  unfold feedTurn at proceeds
  by_cases active : mux.frameActive = true
  · rw [if_pos active] at proceeds
    exact payloadTurn_decreases active proceeds
  rw [if_neg active] at proceeds
  exact headerTurn_decreases (Bool.eq_false_of_not_eq_true active) proceeds

/-- The loop of `efrp_yamux_feed`, with the input it leaves behind. -/
def feedLoop (mux : Mux) (bytes : List UInt8) : Result × List UInt8 × Mux :=
  if feedContinues mux bytes then
    match _turn : feedTurn mux bytes with
    | .stop result rest next => (result, rest, next)
    | .next rest next => feedLoop next rest
  else
    (.ok, bytes, mux)
termination_by feedMeasure mux bytes
decreasing_by exact feedTurn_decreases _turn

/-- `efrp_yamux_feed`: the result, the consumed length and the mux. -/
def yamuxFeed (mux : Mux) (bytes : List UInt8) : Result × Nat × Mux :=
  if mux.failure ≠ .ok then
    (mux.failure, 0, mux)
  else
    let fed := feedLoop mux bytes
    (fed.1, bytes.length - fed.2.1.length, fed.2.2)

/-- `efrp_yamux_finish`. -/
def yamuxFinish (mux : Mux) : Result :=
  if mux.failure ≠ .ok then mux.failure
  else if mux.header ≠ [] ∨ mux.frameActive then .truncated
  else .ok

end EspFrp.Yamux

import EspFrp.Yamux.Credit

/-!
# Runs with their frames

The mux works on bytes, the theorems speak about frames.  `Traced` follows a
run together with a `History` that the program does not store: the frames
that have been received completely, the part of the payload that has arrived
for the active frame, the frames that have been handed over completely, and
the frame in the output slot.  `Parsed` connects the first two with the
consumed input, and `Parsed.framesOf_consumed` reads them off it.
-/

namespace EspFrp.Yamux

open Library

/-! ## The parser with its frames -/

/-- A header that `start_frame` leaves in the header buffer. -/
inductive Stalled (mux : Mux) (header : Header) : Result × Mux → Prop where
  | violated (reason : Violation mux header) : Stalled mux header (mux.fail .protocolError)
  | closed : Stalled mux header (mux.fail .sessionClosed)
  | postponed (full : mux.controls.used = controlSlots) (even : header.id % 2 = 0) :
      Stalled mux header (.wouldBlock, mux)
  | rejected (kind : Kind) (admitted : Mux) (stream : Stream)
      (wellFormed : StreamHeader kind header)
      (admission : Admitted mux header admitted)
      (found : admitted.stream header.id = some stream)
      (alive : stream.reset = false)
      (refused : stream.refuses kind header = true) :
      Stalled mux header (admitted.fail .protocolError)
  | excessive (kind : Kind) (admitted applied : Mux) (wellFormed : StreamHeader kind header)
      (admission : Admitted mux header admitted)
      (application : Applied admitted kind header applied)
      (discarded : discards applied header.id = true)
      (data : kind = .data)
      (surplus : initialWindow < header.value ∨
        sub32 discardLimit applied.discardedBytes < header.value) :
      Stalled mux header (applied.fail .protocolError)

/-- A PING or GOAWAY frame that `start_frame` has dealt with. -/
inductive Session (mux : Mux) (header : Header) : Mux → Prop where
  | pinged (type : header.type = Kind.ping.code) (id : header.id = 0)
      (request : header.flags = synFlag)
      (free : mux.controls.used < controlSlots) :
      Session mux header
        { mux.enqueue (Header.make .ping ackFlag 0 header.value) with
          header := [] }
  | ponged (type : header.type = Kind.ping.code) (id : header.id = 0)
      (reply : header.flags = ackFlag)
      (pending : mux.pingPending = true)
      (expected : header.value = mux.pingId) :
      Session mux header { mux with pingPending := false, header := [] }
  | departed (type : header.type = Kind.goaway.code) (id : header.id = 0)
      (plain : header.flags = 0) :
      Session mux header { mux with remoteGoaway := true, header := [] }

/-- A DATA or WINDOW frame that has become the active one. -/
inductive Enters (mux : Mux) (header : Header) : Mux → Prop where
  | intro (kind : Kind) (admitted applied : Mux) (wellFormed : StreamHeader kind header)
      (admission : Admitted mux header admitted)
      (application : Applied admitted kind header applied)
      (bounded : discards applied header.id = true → kind = .data → header.value ≤ initialWindow ∧
          header.value ≤ sub32 discardLimit applied.discardedBytes) :
      Enters mux header (applied.activate kind header)

/-- A part of a payload that has been dropped or stored. -/
inductive Takes (mux : Mux) (chunk : List UInt8) : Mux → Prop where
  | discard (discarded : mux.frameDiscard = true) (within : chunk.length ≤ mux.frameRemaining)
      (bounded : chunk.length ≤ sub32 discardLimit mux.discardedBytes) :
      Takes mux chunk
        { mux with
          discardedBytes := add32 mux.discardedBytes chunk.length
          frameRemaining := sub32 mux.frameRemaining chunk.length
          inputProgressMs := mux.nowMs }
  | store (stream : Stream) (kept : mux.frameDiscard = false)
      (found : mux.stream mux.frameId = some stream)
      (within : chunk.length ≤ mux.frameRemaining)
      (room : chunk.length ≤ stream.ring.available) :
      Takes mux chunk
        { mux.setStream { stream with ring := stream.ring.write chunk } with
          frameRemaining := sub32 mux.frameRemaining chunk.length
          inputProgressMs := mux.nowMs }

/--
One state change of the parser with the complete frames and the part of the
active payload before and after it.
-/
inductive Parse (mux : Mux) (done : List Frame) (body : List UInt8) :
    List UInt8 → Mux → List Frame → List UInt8 → Prop where
  | fill (chunk : List UInt8) (idle : mux.frameActive = false)
      (fits : chunk.length ≤ headerBytes - mux.header.length)
      (incomplete : mux.header.length + chunk.length ≠ headerBytes) :
      Parse mux done body chunk (mux.fillHeader chunk) done body
  | stall (chunk : List UInt8) (outcome : Result × Mux) (idle : mux.frameActive = false)
      (complete : mux.header.length + chunk.length = headerBytes)
      (stalled : Stalled (mux.fillHeader chunk) (Header.decode (mux.header ++ chunk)) outcome) :
      Parse mux done body chunk outcome.2 done body
  | session (chunk : List UInt8) (next : Mux) (idle : mux.frameActive = false)
      (complete : mux.header.length + chunk.length = headerBytes)
      (session : Session (mux.fillHeader chunk) (Header.decode (mux.header ++ chunk)) next) :
      Parse mux done body chunk next (done ++ [⟨Header.decode (mux.header ++ chunk), []⟩]) []
  | enter (chunk : List UInt8) (next : Mux) (idle : mux.frameActive = false)
      (complete : mux.header.length + chunk.length = headerBytes)
      (enters : Enters (mux.fillHeader chunk) (Header.decode (mux.header ++ chunk)) next)
      (more : next.frameRemaining ≠ 0) :
      Parse mux done body chunk next done []
  | enterLast (chunk : List UInt8) (next : Mux) (idle : mux.frameActive = false)
      (complete : mux.header.length + chunk.length = headerBytes)
      (enters : Enters (mux.fillHeader chunk) (Header.decode (mux.header ++ chunk)) next)
      (last : next.frameRemaining = 0) :
      Parse mux done body chunk (endFrame next)
        (done ++ [⟨Header.decode (mux.header ++ chunk), []⟩]) []
  | take (chunk : List UInt8) (next : Mux) (active : mux.frameActive = true)
      (takes : Takes mux chunk next)
      (more : next.frameRemaining ≠ 0) :
      Parse mux done body chunk next done (body ++ chunk)
  | takeLast (chunk : List UInt8) (next : Mux) (active : mux.frameActive = true)
      (takes : Takes mux chunk next)
      (last : next.frameRemaining = 0) :
      Parse mux done body chunk (endFrame next)
        (done ++ [⟨Header.decode mux.header, body ++ chunk⟩]) []
  | exhaust (count : Nat) (active : mux.frameActive = true) (discarded : mux.frameDiscard = true)
      (within : count ≤ mux.frameRemaining)
      (excessive : sub32 discardLimit mux.discardedBytes < count) :
      Parse mux done body [] (mux.fail .protocolError).2 done body
  | block (stream : Stream) (active : mux.frameActive = true)
      (found : mux.stream mux.frameId = some stream) :
      Parse mux done body [] (mux.setStream { stream with blocked := true, blockedMs := mux.nowMs })
        done body
  | lose (active : mux.frameActive = true) (kept : mux.frameDiscard = false)
      (missing : mux.stream mux.frameId = none) :
      Parse mux done body [] (mux.fail .invalidState).2 done body

variable {chunk : List UInt8} {mux next : Mux}

theorem Mux.fillHeader_header_of_le (fits : chunk.length ≤ headerBytes - mux.header.length) :
    (mux.fillHeader chunk).header = mux.header ++ chunk := by
  rw [Mux.fillHeader_header, List.take_of_length_le fits]

/-- The start of a frame is a step of the parser with its frames. -/
theorem Parse.of_started (idle : mux.frameActive = false)
    (complete : mux.header.length + chunk.length = headerBytes)
    (started : Started (mux.fillHeader chunk) (Header.decode (mux.header ++ chunk)) outcome) :
    ∃ done' body', Parse mux done body chunk outcome.2 done' body' := by
  cases started with
  | violated reason => exact ⟨_, _, .stall chunk _ idle complete (.violated reason)⟩
  | closed => exact ⟨_, _, .stall chunk _ idle complete .closed⟩
  | postponed full even => exact ⟨_, _, .stall chunk _ idle complete (.postponed full even)⟩
  | pinged type id request free =>
    exact ⟨_, _, .session chunk _ idle complete (.pinged type id request free)⟩
  | ponged type id reply pending expected =>
    exact ⟨_, _, .session chunk _ idle complete (.ponged type id reply pending expected)⟩
  | departed type id plain => exact ⟨_, _, .session chunk _ idle complete (.departed type id plain)⟩
  | rejected kind admitted stream wellFormed admission found alive refused =>
    exact ⟨_, _, .stall chunk _ idle complete
      (.rejected kind admitted stream wellFormed admission found alive refused)⟩
  | excessive kind admitted applied wellFormed admission application discarded data surplus =>
    exact ⟨_, _, .stall chunk _ idle complete (.excessive kind admitted applied wellFormed admission
        application discarded data surplus)⟩
  | entered kind admitted applied wellFormed admission application bounded =>
    have enters := Enters.intro kind admitted applied wellFormed admission application bounded
    unfold Mux.entered
    by_cases last : (applied.activate kind (Header.decode (mux.header ++ chunk))).frameRemaining = 0
    · rw [if_pos last]
      exact ⟨_, _, .enterLast chunk _ idle complete enters last⟩
    rw [if_neg last]
    exact ⟨_, _, .enter chunk _ idle complete enters last⟩

theorem Parse.of_takes {advanced : Mux}
    (active : mux.frameActive = true) (takes : Takes mux chunk
      { advanced with
        frameRemaining := sub32 advanced.frameRemaining chunk.length
        inputProgressMs := advanced.nowMs }) :
    ∃ done' body', Parse mux done body chunk (advanced.advanceFrame chunk.length) done' body' := by
  unfold Mux.advanceFrame
  by_cases last : sub32 advanced.frameRemaining chunk.length = 0
  · rw [if_pos last]
    exact ⟨_, _, .takeLast chunk _ active takes last⟩
  rw [if_neg last]
  exact ⟨_, _, .take chunk _ active takes last⟩

/-- Every step of the parser can be followed with its frames. -/
theorem Parse.of_feedStep (done : List Frame) (body : List UInt8) (step : FeedStep mux chunk next) :
    ∃ done' body', Parse mux done body chunk next done' body' := by
  cases step with
  | fill chunk idle fits incomplete => exact ⟨_, _, .fill chunk idle fits incomplete⟩
  | start chunk idle complete =>
    have started := startFrame_started (mux.fillHeader chunk)
    rw [Mux.fillHeader_header_of_le (by omega)] at started
    exact of_started idle complete started
  | discard _ active discarded within bounded =>
    exact of_takes active (.discard discarded within bounded)
  | exhaust count active discarded within excessive =>
    exact ⟨_, _, .exhaust count active discarded within excessive⟩
  | store _ stream active kept found within room =>
    exact of_takes active (.store stream kept found within room)
  | block stream active found => exact ⟨_, _, .block stream active found⟩
  | lose active kept missing => exact ⟨_, _, .lose active kept missing⟩

/-! ## Traced runs -/

/-- A change that consumes input. -/
def Label.isFed : Label → Bool
  | .fed _ => true
  | _ => false

/-- The frames behind the bytes of a run. -/
structure History where
  done : List Frame := []
  body : List UInt8 := []
  sent : List Frame := []
  staged : List Frame := []

/-- The history after a call that turns one mux into another. -/
def History.called (history : History) (mux next : Mux) : History :=
  { history with
    sent :=
      if mux.output ≠ [] ∧ next.output = [] then
        history.sent ++ history.staged
      else
        history.sent
    staged :=
      if next.output = [] then []
      else if mux.output = [] then framesOf next.output
      else history.staged }

/-- A run with its history. -/
inductive Traced : World → History → Prop where
  | init (now : Nat) : Traced (World.init now) {}
  | call {world : World} {history : History} {label : Label} {next : Mux}
      (earlier : Traced world history)
      (ready : world.mux.failure = .ok)
      (change : Change world.mux label next)
      (quiet : label.isFed = false) :
      Traced (world.record label next) (history.called world.mux next)
  | feed {world : World} {history : History} {done : List Frame}
      {body chunk : List UInt8} {next : Mux}
      (earlier : Traced world history)
      (ready : world.mux.failure = .ok)
      (parse : Parse world.mux history.done history.body chunk next done body)
      (step : FeedStep world.mux chunk next) :
      Traced (world.record (.fed chunk) next) { history with done := done, body := body }

theorem Traced.reachable (traced : Traced world history) : world.Reachable := by
  induction traced with
  | init now => exact .init now
  | call _ ready change _ ih => exact ih.record ready change
  | feed _ ready _ step ih => exact ih.record ready (.feed _ _ step)

/-- Every reachable world has a traced run. -/
theorem World.Reachable.traced (reachable : world.Reachable) : ∃ history, Traced world history := by
  refine reachable.invariant (fun world => ∃ history, Traced world history)
    (fun now => ⟨{}, .init now⟩) ?_
  rintro world label next _ ready ⟨history, traced⟩ change
  cases fed : label.isFed with
  | false => exact ⟨_, traced.call ready change fed⟩
  | true =>
    cases change with
    | feed _ _ step =>
      rcases Parse.of_feedStep history.done history.body step with ⟨done, body, parse⟩
      exact ⟨_, traced.feed ready parse step⟩
    | _ => cases fed

/-! ## What the calls leave alone -/

/-- The input side of the mux is as before. -/
structure SameInput (mux next : Mux) : Prop where
  header : next.header = mux.header
  frameActive : next.frameActive = mux.frameActive
  frameId : next.frameId = mux.frameId
  frameFlags : next.frameFlags = mux.frameFlags
  frameRemaining : next.frameRemaining = mux.frameRemaining
  peerLastId : next.peerLastId = mux.peerLastId
  discardedBytes : next.discardedBytes = mux.discardedBytes

theorem SameInput.resetState (same : SameInput base mux)
    (stream : Stream) : SameInput base (mux.resetState stream) := by
  rw [Mux.resetState_eq]
  exact ⟨same.header, same.frameActive, same.frameId, same.frameFlags,
    same.frameRemaining, same.peerLastId, same.discardedBytes⟩

/-- No call apart from `efrp_yamux_feed` touches the input side. -/
theorem Change.sameInput (change : Change mux label next)
    (quiet : label.isFed = false) : SameInput mux next := by
  cases change with
  | reset _ stream =>
    refine SameInput.resetState ?_ stream
    exact ⟨rfl, rfl, rfl, rfl, rfl, rfl, rfl⟩
  | feed => cases quiet
  | _ => exact ⟨rfl, rfl, rfl, rfl, rfl, rfl, rfl⟩

/-- A view of a stream that sees none of its output side. -/
structure InputView {View : Type} (view : Stream → View) : Prop where
  localFin : ∀ stream value, view { stream with localFin := value } = view stream
  sendCredit : ∀ stream value, view { stream with sendCredit := value } = view stream
  receiveCredit : ∀ stream value, view { stream with receiveCredit := value } = view stream
  returnCredit : ∀ stream value, view { stream with returnCredit := value } = view stream

/-- What a call does to the input side of the live streams. -/
inductive CallEffect {View : Type} (view : Stream → View) (mux : Mux) : Label → Mux → Prop where
  | opened (free : Stream) (available : mux.nextId ≠ 0)
      (slot : Slots.lookup Stream.id 0 mux.streams = some free) :
      CallEffect view mux .silent mux.opening
  | read (id capacity : Nat) (stream : Stream) (found : mux.stream id = some stream)
      (alive : stream.reset = false) :
      CallEffect view mux (.read id (stream.ring.front capacity))
        (mux.setStream (stream.reading capacity))
  | kept {label : Label} {next : Mux} (unread : ∀ id bytes, label ≠ .read id bytes)
      (keeps : Keeps view mux next)
      (nextId : next.nextId = mux.nextId)
      (dropped : mux.frameActive = true → next.frameDiscard = true →
        mux.frameDiscard = false → discards next mux.frameId = true) :
      CallEffect view mux label next

/-- Every call opens a stream, reads from one or keeps the input side. -/
theorem Change.callEffect (blind : InputView view) (table : mux.Table)
    (change : Change mux label next) (quiet : label.isFed = false) :
    CallEffect view mux label next := by
  have unchanged := Keeps.refl view mux
  have same (next : Mux) (discard : next.frameDiscard = mux.frameDiscard) :
      mux.frameActive = true → next.frameDiscard = true →
        mux.frameDiscard = false → discards next mux.frameId = true := by
    intro _ after before
    rw [discard, before] at after
    cases after
  cases change with
  | openStream free available slot => exact .opened free available slot
  | finish _ stream found =>
    exact .kept (fun _ _ => Label.noConfusion)
      ((unchanged.setStream found { stream with localFin := true }
        rfl rfl (blind.localFin _ _)).of_streams rfl)
      rfl (same _ rfl)
  | reset id stream found =>
    have sameId := Mux.stream_id found
    have queued : Keeps view mux (mux.enqueue (Header.make .window rstFlag id 0)) :=
      unchanged.of_streams rfl
    refine .kept (fun _ _ => Label.noConfusion) (queued.resetState found stream rfl)
      (by rw [Mux.resetState_eq]; rfl) ?_
    intro active after before
    rw [Mux.resetState_frameDiscard] at after
    change (mux.frameDiscard || (mux.frameActive && mux.frameId == stream.id)) = true at after
    have taken : mux.frameId = stream.id := by simpa [before, active] using after
    have foundQueued : (mux.enqueue (Header.make .window rstFlag id 0)).stream id =
          some stream := found
    have foundNow : ((mux.enqueue (Header.make .window rstFlag id 0)).resetState
          stream).stream id = some stream.cleared := by
      rw [Mux.stream_resetState foundQueued stream rfl, Function.update_self]
    rw [taken, sameId]
    exact discards_of_found foundNow
  | release id _ found =>
    have occupied := Mux.stream_ne_zero found
    refine .kept (fun _ _ => Label.noConfusion) (unchanged.releasing table.distinct occupied) rfl ?_
    intro active after before
    have taken : mux.frameId = id := by
      by_contra other
      change (if mux.frameActive = true ∧ mux.frameId = id then true
        else mux.frameDiscard) = true at after
      rw [if_neg fun both => other both.2, before] at after
      cases after
    rw [taken]
    simp only [discards, Mux.stream_releasing table.distinct occupied, Function.update_self]
  | stageGrant _ stream _ _ member due =>
    have found := table.stream_of_mem (List.mem_of_getElem? member) (Stream.grantDue_iff.mp due).1
    exact .kept (fun _ _ => Label.noConfusion)
      ((unchanged.setStream found { stream with returnCredit := 0 }
        rfl rfl (blind.returnCredit _ _)).of_streams rfl)
      rfl (same _ rfl)
  | stageData _ stream bytes found =>
    exact .kept (fun _ _ => Label.noConfusion) ((unchanged.setStream found
        { stream with
          sendCredit := sub32 stream.sendCredit (mux.stageData stream bytes).1 }
        rfl rfl (blind.sendCredit _ _)).of_streams rfl)
      rfl (same _ rfl)
  | handOverGrant _ stream _ _ found =>
    exact .kept (fun _ _ => Label.noConfusion) ((unchanged.setStream found
        { stream with
          receiveCredit := add32 stream.receiveCredit mux.outputGrantBytes }
        rfl rfl (blind.receiveCredit _ _)).of_streams rfl)
      rfl (same _ rfl)
  | read id capacity stream found alive => exact .read id capacity stream found alive
  | feed => cases quiet
  | _ => exact .kept (fun _ _ => Label.noConfusion) (unchanged.of_streams rfl) rfl (same _ rfl)

/-! ## Frames and consumed bytes -/

/-- The active frame with the payload that has arrived. -/
def Mux.current (mux : Mux) (body : List UInt8) : List Frame :=
  if mux.frameActive then [⟨Header.decode mux.header, body⟩] else []

/-- A complete header that `start_frame` has not accepted. -/
def Mux.pending (mux : Mux) : List Frame :=
  if mux.frameActive = false ∧ mux.header.length = headerBytes then
    [⟨Header.decode mux.header, []⟩]
  else
    []

/-- The frames account for the consumed input and the parser state. -/
structure Parsed (mux : Mux) (consumed : List UInt8)
    (done : List Frame) (body : List UInt8) : Prop where
  consumed : consumed = encodeFrames done ++ (mux.header ++ body)
  valid : ∀ frame ∈ done, frame.header.InRange ∧ frame.Complete
  short : mux.header.length ≤ headerBytes
  idle : mux.frameActive = false → body = []
  complete : mux.frameActive = true → mux.header.length = headerBytes
  frameId : mux.frameActive = true → mux.frameId = (Header.decode mux.header).id
  frameFlags : mux.frameActive = true → mux.frameFlags = (Header.decode mux.header).flags
  remaining : mux.frameActive = true →
    body.length + mux.frameRemaining = (Header.decode mux.header).payloadLength

theorem encodeFrames_singleton (frame : Frame) : encodeFrames [frame] = frame.encode := by
  simp [encodeFrames]

theorem Frame.encode_decode (length : bytes.length = headerBytes) :
    Frame.encode ⟨Header.decode bytes, body⟩ = bytes ++ body := by
  rw [Frame.encode, Header.encode_decode length]

namespace Parsed

variable {consumed body chunk : List UInt8}

variable (parsed : Parsed mux consumed done body)
include parsed

theorem congr (same : SameInput mux next) : Parsed next consumed done body where
  consumed := by rw [same.header]; exact parsed.consumed
  valid := parsed.valid
  short := by rw [same.header]; exact parsed.short
  idle := by rw [same.frameActive]; exact parsed.idle
  complete := by
    rw [same.frameActive, same.header]
    exact parsed.complete
  frameId := by
    rw [same.frameActive, same.header, same.frameId]
    exact parsed.frameId
  frameFlags := by
    rw [same.frameActive, same.header, same.frameFlags]
    exact parsed.frameFlags
  remaining := by
    rw [same.frameActive, same.header, same.frameRemaining]
    exact parsed.remaining

/-- Input bytes in the header buffer, with no frame active. -/
theorem filled (inactive : mux.frameActive = false) (header : next.header = mux.header ++ chunk)
    (stillInactive : next.frameActive = false)
    (fits : mux.header.length + chunk.length ≤ headerBytes) :
    Parsed next (consumed ++ chunk) done body where
  consumed := by
    rw [header, parsed.consumed, parsed.idle inactive]
    simp
  valid := parsed.valid
  short := by
    rw [header, List.length_append]
    exact fits
  idle := fun _ => parsed.idle inactive
  complete := by rw [stillInactive]; exact nofun
  frameId := by rw [stillInactive]; exact nofun
  frameFlags := by rw [stillInactive]; exact nofun
  remaining := by rw [stillInactive]; exact nofun

/-- A frame of the complete header, over at once. -/
theorem dispatched (inactive : mux.frameActive = false) (length : mux.header.length = headerBytes)
    (empty : (Header.decode mux.header).payloadLength = 0)
    (stillInactive : next.frameActive = false) (cleared : next.header = []) :
    Parsed next consumed (done ++ [⟨Header.decode mux.header, []⟩]) [] where
  consumed := by
    rw [parsed.consumed, parsed.idle inactive, cleared, encodeFrames_append, encodeFrames_singleton,
      Frame.encode_decode length]
    simp
  valid := by
    intro frame member
    rcases List.mem_append.mp member with before | new
    · exact parsed.valid frame before
    rw [List.mem_singleton.mp new]
    exact ⟨Header.decode_inRange length, empty.symm⟩
  short := by rw [cleared]; exact Nat.zero_le _
  idle := fun _ => rfl
  complete := by rw [stillInactive]; exact nofun
  frameId := by rw [stillInactive]; exact nofun
  frameFlags := by rw [stillInactive]; exact nofun
  remaining := by rw [stillInactive]; exact nofun

/-- The end of an active frame that has its whole payload. -/
theorem ended (active : mux.frameActive = true) (last : mux.frameRemaining = 0) :
    Parsed (endFrame mux) consumed (done ++ [⟨Header.decode mux.header, body⟩]) [] where
  consumed := by
    rw [parsed.consumed, endFrame_header, encodeFrames_append,
      encodeFrames_singleton, Frame.encode_decode (parsed.complete active)]
    simp
  valid := by
    intro frame member
    rcases List.mem_append.mp member with before | new
    · exact parsed.valid frame before
    have length := parsed.remaining active
    rw [last] at length
    rw [List.mem_singleton.mp new]
    exact ⟨Header.decode_inRange (parsed.complete active), length⟩
  short := Nat.zero_le _
  idle := fun _ => rfl
  complete := nofun
  frameId := nofun
  frameFlags := nofun
  remaining := nofun

/-- The frames that can be read off the consumed input. -/
theorem framesOf_consumed : framesOf consumed = done ++ (mux.current body ++ mux.pending) := by
  rw [parsed.consumed, framesOf_encodeFrames_append done _ parsed.valid]
  congr 1
  unfold Mux.current Mux.pending
  cases active : mux.frameActive with
  | true =>
    have bodyLength := parsed.remaining active
    rw [framesOf_cut (parsed.complete active) (by omega)]
    simp
  | false =>
    rw [parsed.idle active, List.append_nil]
    by_cases length : mux.header.length = headerBytes
    · have whole := @framesOf_cut mux.header [] length (Nat.zero_le _)
      rw [List.append_nil] at whole
      rw [whole]
      simp [length]
    · have bound := lt_of_le_of_ne parsed.short length
      rw [framesOf_short bound]
      simp [length]

end Parsed

/-! ## The active frame -/

/-- What the start of a stream frame tells about the active frame. -/
structure Mux.Receives (mux : Mux) (header : Header) : Prop where
  frameActive : mux.frameActive = true
  frameId : mux.frameId = header.id
  frameFlags : mux.frameFlags = header.flags
  frameRemaining : mux.frameRemaining = header.payloadLength

variable {kind : Kind}

theorem Mux.activate_receives (mux : Mux) {header : Header}
    (wellFormed : StreamHeader kind header) : (mux.activate kind header).Receives header where
  frameActive := rfl
  frameId := rfl
  frameFlags := rfl
  frameRemaining := by
    unfold Header.payloadLength
    rw [wellFormed.type]
    rcases wellFormed.stream with rfl | rfl <;> rfl

variable {admitted : Mux}

theorem Admitted.header {header : Header}
    (admission : Admitted mux header admitted) : admitted.header = mux.header := by
  cases admission <;> rfl

variable {applied : Mux}

theorem Applied.header {header : Header}
    (application : Applied mux kind header applied) : applied.header = mux.header := by
  cases application <;> simp [Mux.setStream]

theorem Admitted.frameActive {header : Header}
    (admission : Admitted mux header admitted) : admitted.frameActive = mux.frameActive := by
  cases admission <;> rfl

theorem Applied.frameActive {header : Header}
    (application : Applied mux kind header applied) : applied.frameActive = mux.frameActive := by
  cases application <;> simp [Mux.setStream]

theorem Enters.header {header : Header} (enters : Enters mux header next) :
    next.header = mux.header := by
  cases enters with
  | intro _ _ _ _ admission application => exact application.header.trans admission.header

theorem Enters.receives {header : Header} (enters : Enters mux header next) :
    next.Receives header := by
  cases enters with
  | intro _ _ applied wellFormed => exact applied.activate_receives wellFormed

theorem Stalled.header {header : Header}
    (stalled : Stalled mux header outcome) : outcome.2.header = mux.header := by
  cases stalled with
  | rejected _ _ _ _ admission => exact admission.header
  | excessive _ _ _ _ admission application => exact application.header.trans admission.header
  | _ => rfl

theorem Stalled.frameActive {header : Header} (stalled : Stalled mux header outcome) :
    outcome.2.frameActive = mux.frameActive := by
  cases stalled with
  | rejected _ _ _ _ admission => exact admission.frameActive
  | excessive _ _ _ _ admission application =>
    exact application.frameActive.trans admission.frameActive
  | _ => rfl

section

variable (session : Session mux first next)
include session

theorem Session.header : next.header = [] := by
  cases session <;> rfl

theorem Session.frameActive : next.frameActive = mux.frameActive := by
  cases session <;> rfl

theorem Session.id : first.id = 0 := by
  cases session <;> assumption

theorem Session.payloadLength : first.payloadLength = 0 := by
  unfold Header.payloadLength
  cases session with
  | pinged type | ponged type | departed type => rw [type]; rfl

end

/-- What a taken chunk leaves of the active frame. -/
structure Mux.Advances (mux next : Mux) (count : Nat) : Prop where
  header : next.header = mux.header
  frameActive : next.frameActive = mux.frameActive
  frameId : next.frameId = mux.frameId
  frameFlags : next.frameFlags = mux.frameFlags
  within : count ≤ mux.frameRemaining
  frameRemaining : next.frameRemaining = sub32 mux.frameRemaining count

theorem Takes.advances (takes : Takes mux chunk next) : mux.Advances next chunk.length := by
  cases takes with
  | discard _ within | store _ _ _ within => exact ⟨rfl, rfl, rfl, rfl, within, rfl⟩

theorem Header.payloadLength_lt {header : Header}
    (range : header.InRange) : header.payloadLength < word32 := by
  have value := range.value
  unfold Header.payloadLength
  split
  · exact value
  · decide

/-! ## The streams at the start of a frame -/

section StartOfFrame

variable {View : Type} {header : Header}

theorem Mux.fillHeader_streams (mux : Mux) (chunk : List UInt8) :
    (mux.fillHeader chunk).streams = mux.streams := by
  unfold Mux.fillHeader
  dsimp only
  split <;> rfl

theorem Admitted.streams (admission : Admitted mux header next) : next.streams = mux.streams := by
  cases admission <;> rfl

theorem Applied.keeps (keeps : Keeps view base mux)
    (blind : ∀ stream, view (stream.receive kind header) = view stream)
    (application : Applied mux kind header next) : Keeps view base next := by
  cases application with
  | ignored => exact keeps
  | received stream found =>
    exact keeps.setStream found (stream.receive kind header) rfl rfl (blind stream)
  | aborted stream found =>
    exact keeps.resetState found (stream.receive kind header) rfl

theorem Stalled.keeps
    (blind : ∀ kind stream, view (Stream.receive stream kind header) = view stream)
    (stalled : Stalled mux header outcome) : Keeps view mux outcome.2 := by
  have unchanged := Keeps.refl view mux
  cases stalled with
  | rejected _ _ _ _ admission => exact unchanged.of_streams admission.streams
  | excessive kind _ _ _ admission application =>
    exact (Applied.keeps (unchanged.of_streams admission.streams)
      (blind kind) application).of_streams rfl
  | _ => exact unchanged.of_streams rfl

theorem Stalled.nextId (stalled : Stalled mux header outcome) : outcome.2.nextId = mux.nextId := by
  cases stalled with
  | rejected _ admitted _ _ admission => exact (SameIds.of_edits (.admitted admission)).nextId
  | excessive _ admitted applied _ admission application =>
    exact (SameIds.of_edits ((Edits.admitted admission).trans (Edits.applied application))).nextId
  | _ => rfl

theorem Session.streams (session : Session mux header next) : next.streams = mux.streams := by
  cases session <;> rfl

theorem Session.nextId (session : Session mux header next) : next.nextId = mux.nextId := by
  cases session <;> rfl

theorem Enters.keeps (blind : ∀ kind stream, view (Stream.receive stream kind header) = view stream)
    (enters : Enters mux header next) : Keeps view mux next := by
  cases enters with
  | intro kind _ _ _ admission application =>
    exact (Applied.keeps ((Keeps.refl view mux).of_streams admission.streams)
      (blind kind) application).of_streams rfl

theorem Enters.nextId (enters : Enters mux header next) : next.nextId = mux.nextId := by
  cases enters with
  | intro _ admitted applied _ admission application =>
    exact (SameIds.of_edits ((Edits.admitted admission).trans (Edits.applied application))).nextId

/-- A client stream id in an accepted header has been handed out. -/
theorem Enters.opened (enters : Enters mux header next) (range : header.InRange)
    (odd : header.id % 2 = 1) : Opened mux.nextId header.id := by
  cases enters with
  | intro _ _ _ _ admission =>
    cases admission with
    | peerOpened => omega
    | known _ past => exact ⟨odd, range.id, past odd⟩

theorem Enters.discard (enters : Enters mux header next) :
    next.frameDiscard = discards next next.frameId := by
  cases enters
  rfl

end StartOfFrame

namespace Parsed

variable {consumed body chunk : List UInt8}

variable (parsed : Parsed mux consumed done body)
include parsed

/-- A frame of the complete header has become the active one. -/
theorem entered (inactive : mux.frameActive = false) (length : mux.header.length = headerBytes)
    (header : next.header = mux.header) (receives : next.Receives (Header.decode mux.header)) :
    Parsed next consumed done [] where
  consumed := by rw [parsed.consumed, parsed.idle inactive, header]
  valid := parsed.valid
  short := by rw [header]; exact parsed.short
  idle := by rw [receives.frameActive]; exact nofun
  complete := fun _ => by rw [header]; exact length
  frameId := fun _ => by rw [header]; exact receives.frameId
  frameFlags := fun _ => by rw [header]; exact receives.frameFlags
  remaining := fun _ => by
    rw [header, receives.frameRemaining]
    exact Nat.zero_add _

/-- A part of the payload of the active frame has been taken. -/
theorem taken (active : mux.frameActive = true) (advances : mux.Advances next chunk.length) :
    Parsed next (consumed ++ chunk) done (body ++ chunk) where
  consumed := by
    rw [parsed.consumed, advances.header]
    simp
  valid := parsed.valid
  short := by rw [advances.header]; exact parsed.short
  idle := by rw [advances.frameActive, active]; exact nofun
  complete := fun _ => by
    rw [advances.header]
    exact parsed.complete active
  frameId := fun _ => by
    rw [advances.header, advances.frameId]
    exact parsed.frameId active
  frameFlags := fun _ => by
    rw [advances.header, advances.frameFlags]
    exact parsed.frameFlags active
  remaining := fun _ => by
    have before := parsed.remaining active
    have within := advances.within
    have range := Header.payloadLength_lt (Header.decode_inRange (parsed.complete active))
    rw [advances.header, advances.frameRemaining, List.length_append, sub32_of_le within (by omega)]
    omega

/-- The header buffer is filled up. -/
theorem filledUp (idle : mux.frameActive = false)
    (complete : mux.header.length + chunk.length = headerBytes) :
    Parsed (mux.fillHeader chunk) (consumed ++ chunk) done body ∧
      (mux.fillHeader chunk).header = mux.header ++ chunk ∧
      (mux.fillHeader chunk).header.length = headerBytes ∧
      (mux.fillHeader chunk).frameActive = false := by
  have header := @Mux.fillHeader_header_of_le chunk mux (by omega)
  have stillIdle := (mux.fillHeader_frameActive chunk).trans idle
  refine ⟨parsed.filled idle header stillIdle (by omega), header, ?_, stillIdle⟩
  rw [header, List.length_append]
  exact complete

/-- The header buffer is filled up and a stream frame entered. -/
theorem enters (idle : mux.frameActive = false)
    (complete : mux.header.length + chunk.length = headerBytes)
    (enters : Enters (mux.fillHeader chunk) (Header.decode (mux.header ++ chunk)) next) :
    Parsed next (consumed ++ chunk) done [] ∧ next.header = mux.header ++ chunk := by
  rcases parsed.filledUp idle complete with ⟨filled, header, length, stillIdle⟩
  rw [← header] at enters
  exact ⟨filled.entered stillIdle length enters.header enters.receives, enters.header.trans header⟩

/-- The parser keeps the frames in step with the consumed input. -/
theorem parse (parse : Parse mux done body chunk next done' body') :
    Parsed next (consumed ++ chunk) done' body' := by
  cases parse with
  | fill chunk idle fits =>
    have short := parsed.short
    exact parsed.filled idle (Mux.fillHeader_header_of_le fits)
      ((mux.fillHeader_frameActive chunk).trans idle) (by omega)
  | stall _ _ idle complete stalled =>
    rcases parsed.filledUp idle complete with ⟨_, header, _, stillIdle⟩
    exact parsed.filled idle (stalled.header.trans header)
      (stalled.frameActive.trans stillIdle) (by omega)
  | session _ _ idle complete session =>
    rcases parsed.filledUp idle complete with ⟨filled, header, length, stillIdle⟩
    rw [← header] at session ⊢
    exact filled.dispatched stillIdle length session.payloadLength
      (session.frameActive.trans stillIdle) session.header
  | enter _ _ idle complete enters => exact (parsed.enters idle complete enters).1
  | enterLast _ _ idle complete enters last =>
    rcases parsed.enters idle complete enters with ⟨entered, header⟩
    rw [← header]
    exact entered.ended enters.receives.frameActive last
  | take _ _ active takes => exact parsed.taken active takes.advances
  | takeLast _ _ active takes last =>
    have advances := takes.advances
    rw [← advances.header]
    exact (parsed.taken active advances).ended (advances.frameActive.trans active) last
  | exhaust | block stream | lose =>
    rw [List.append_nil]
    exact parsed.congr ⟨rfl, rfl, rfl, rfl, rfl, rfl, rfl⟩

end Parsed

theorem World.record_consumed (world : World) (label : Label) (mux : Mux)
    (quiet : label.isFed = false) : (world.record label mux).consumed = world.consumed := by
  cases label with
  | fed => cases quiet
  | _ => rfl

/-- In every run the frames account for the consumed input. -/
theorem Traced.parsed (traced : Traced world history) :
    Parsed world.mux world.consumed history.done history.body := by
  induction traced with
  | init => exact ⟨rfl, nofun, Nat.zero_le _, fun _ => rfl, nofun, nofun, nofun, nofun⟩
  | call _ _ change quiet ih =>
    rw [World.record_mux, World.record_consumed _ _ _ quiet]
    exact ih.congr (change.sameInput quiet)
  | feed _ _ parse _ ih => exact ih.parse parse

end EspFrp.Yamux

import EspFrp.Aead.Tapping

/-!
# From the writer to the reader

A pipe is a writer and a reader with the bytes between them.  The caller
decides how much is written, how much of the output is drained, how much of
it is fed, and how much plaintext is consumed at a time.  Whatever the caller
decides, no call fails, and what is consumed is what was accepted.
-/

namespace EspFrp.Aead

open Library

variable {Context State : Type}

/--
A writer and a reader, the bytes that have left the one and not reached the
other, the plaintext that is in view, and what has been accepted and consumed
at the two ends.
-/
structure Pipe (Context State : Type) (capacity : Nat) where
  writer : Writer capacity
  context : Context
  wire : List UInt8 := []
  endpoint : Endpoint State
  view : List UInt8 := []
  accepted : List UInt8 := []
  received : List UInt8 := []

/-- What the caller does. -/
inductive PipeEvent where
  | write (bytes : List UInt8)
  | drain (length : Nat)
  | feed (length : Nat)
  | plaintext
  | consume (length : Nat)
deriving DecidableEq, Repr

namespace Pipe

/-- A writer and a reader that have just been initialised. -/
def start (capacity : Nat) (key : Block UInt8 32) (streamNonce : Block UInt8 12) (context : Context)
    (state : State) : Pipe Context State capacity where
  writer := (Writer.init {} key (.ok, streamNonce)).2
  context := context
  endpoint := (Session.start key state).endpoint

/--
One call.  Output is drained and consumed at once; plaintext is consumed only
as far as it is in view.
-/
def step (services : Services Context) (platform : Platform State)
    (pipe : Pipe Context State capacity) :
    PipeEvent → Result × Pipe Context State capacity
  | .write bytes =>
    let (result, count, writer, context) := pipe.writer.write services pipe.context bytes
    (result,
      { pipe with
        writer := writer
        context := context
        accepted := pipe.accepted ++ bytes.take count })
  | .drain length =>
    match pipe.writer.output with
    | (.ok, bytes) =>
      let taken := bytes.take length
      let (result, writer) := pipe.writer.consumeOutput taken.length
      (result, { pipe with writer := writer, wire := pipe.wire ++ taken })
    | (result, _) => (result, pipe)
  | .feed length =>
    let (result, consumed, endpoint) := pipe.endpoint.feed platform (pipe.wire.take length)
    (result,
      { pipe with
        endpoint := endpoint
        wire := pipe.wire.drop consumed })
  | .plaintext =>
    let (result, bytes, endpoint) := pipe.endpoint.plaintext platform
    (result,
      { pipe with
        endpoint := endpoint
        view := if result = .ok then bytes else pipe.view })
  | .consume length =>
    let count := min length pipe.view.length
    if count = 0 then
      (.ok, pipe)
    else
      let (result, endpoint) := pipe.endpoint.consumePlaintext platform count
      (result,
        { pipe with
          endpoint := endpoint
          view := pipe.view.drop count
          received := pipe.received ++ pipe.view.take count })

/-- A sequence of calls. -/
def run (services : Services Context) (platform : Platform State)
    (pipe : Pipe Context State capacity) (events : List PipeEvent) :
    Pipe Context State capacity :=
  events.foldl (fun pipe event => (pipe.step services platform event).2) pipe

/-- Nothing is under way between the writer and the reader. -/
def Idle (pipe : Pipe Context State capacity) : Prop :=
  pipe.writer.outputUsed = 0 ∧ pipe.wire = [] ∧ pipe.endpoint.reader.ready = false

/-- The reader's end of a pipe. -/
def tap (pipe : Pipe Context State capacity) : Tap State :=
  ⟨pipe.endpoint, pipe.wire, pipe.view, pipe.received⟩

/-- A pipe with another reader's end. -/
def setTap (pipe : Pipe Context State capacity) (tap : Tap State) :
    Pipe Context State capacity :=
  { pipe with
    endpoint := tap.endpoint
    wire := tap.rest
    view := tap.view
    received := tap.received }

end Pipe

/-- A call at the reader's end. -/
def PipeEvent.ofTap : TapEvent → PipeEvent
  | .feed length => .feed length
  | .plaintext => .plaintext
  | .consume length => .consume length

namespace Pipe

variable (services : Services Context) (platform : Platform State)
  (pipe : Pipe Context State capacity)

theorem step_ofTap (event : TapEvent) : pipe.step services platform (.ofTap event) =
      ((pipe.tap.step platform event).1, pipe.setTap (pipe.tap.step platform event).2) := by
  cases event with
  | feed length | plaintext => rfl
  | consume length =>
    by_cases nothing : min length pipe.view.length = 0
    · have tapEq : pipe.tap.step platform (.consume length) = (.ok, pipe.tap) := if_pos nothing
      rw [tapEq]
      exact if_pos nothing
    have tapEq : pipe.tap.step platform (.consume length) = (_, _) := if_neg nothing
    rw [tapEq]
    exact if_neg nothing

theorem run_ofTap (events : List TapEvent) : pipe.run services platform (events.map .ofTap) =
      pipe.setTap (pipe.tap.run platform events) := by
  induction events generalizing pipe with
  | nil => rfl
  | cons event events ih =>
    have next := ih (pipe.step services platform (.ofTap event)).2
    rw [step_ofTap] at next
    rw [List.map_cons, run, List.foldl_cons, step_ofTap]
    exact next

/-! ## Nonces -/

/-- The number of a writer's nonce; a writer that has failed is behind them all. -/
def level (writer : Writer capacity) : Nat :=
  if writer.ready = .ok then BigEndian.ofBytes writer.nonce.cells else nonceSpace

/-- Every new record has taken the writer past a nonce. -/
def Ascends (writer next : Writer capacity) : Prop :=
  ∃ count, next.records = writer.records + count ∧ level writer + count ≤ level next

theorem fail_level (writer : Writer capacity) (bad : error ≠ .ok) :
    level (writer.fail error).2 = nonceSpace := by
  refine if_neg ?_
  dsimp only [Writer.fail, Writer.ready]
  split <;> simp [bad]

theorem step_ascends (event : PipeEvent) :
    Ascends pipe.writer (pipe.step services platform event).2.writer := by
  cases event with
  | write bytes =>
    have inside := BigEndian.ofBytes_lt pipe.writer.nonce.cells
    rw [Block.cells_length] at inside
    have low : level pipe.writer ≤ nonceSpace := by
      unfold level
      split
      exacts [inside.le, Nat.le_refl _]
    dsimp only [step, Writer.write]
    generalize (if pipe.writer.nonceSent then 0 else 12) = ahead
    split_ifs with stopped _ _ _ failed ended
    any_goals exact ⟨0, rfl, Nat.le_refl _⟩
    · exact ⟨0, rfl, low.trans (fail_level _ (by simp)).ge⟩
    · exact ⟨0, rfl, low.trans (fail_level _ failed).ge⟩
    · exact ⟨0, rfl, low.trans (fail_level _ (by simp)).ge⟩
    · obtain ⟨stops, value⟩ := Counter.ofBytes_increment pipe.writer.nonce.cells
      rw [Bool.not_eq_true', Bool.not_eq_false, nextNonce, stops, decide_eq_true_iff] at ended
      have ready := not_not.mp stopped
      refine ⟨1, rfl, ((congrArg (· + 1) (if_pos ready)).trans ?_).le⟩
      exact ((if_pos ready).trans (value.trans (Nat.mod_eq_of_lt ended))).symm
  | _ =>
    dsimp only [step, Writer.consumeOutput]
    repeat' split
    all_goals exact ⟨0, rfl, Nat.le_refl _⟩

end Pipe

/-! ## The invariant -/

/-- What a pipe has carried so far. -/
structure Flowing (platform : Platform State) (Writes : Context → Prop)
    (Holds : State → Option (Nat × List UInt8) → Prop)
    (key : Block UInt8 32) (streamNonce : Block UInt8 12)
    (plaintexts : List (List UInt8)) (fed : List UInt8)
    (pipe : Pipe Context State capacity) : Prop where
  sending : Sending platform.gcm key streamNonce plaintexts (fed ++ pipe.wire) pipe.writer
  writes : Writes pipe.context
  running : Running platform Holds key fed pipe.tap
  accepted : pipe.accepted = plaintexts.flatten

namespace Flowing

variable {platform : Platform State} {Writes : Context → Prop}
  {Holds : State → Option (Nat × List UInt8) → Prop}
  {pipe : Pipe Context State capacity}

section

variable (flowing : Flowing platform Writes Holds key streamNonce plaintexts fed pipe)
include flowing

/-- The stream that the reader is fed carries what has been accepted. -/
theorem decode : decodeStream platform.gcm key (fed ++ (pipe.wire ++ pipe.writer.pending)) =
      (plaintexts, .boundary) := by
  rw [← List.append_assoc, ← flowing.sending.stream]
  exact decode_wireStream platform key flowing.sending.toSendable

/-- A write is accepted or has to wait. -/
theorem write (reliable : services.Reliable Writes) (same : services.gcm = platform.gcm)
    (large : 33 ≤ capacity) (small : capacity ≤ txMaxBytes) (bytes : List UInt8)
    (spare : bytes ≠ [] → pipe.writer.outputUsed = 0 → Spare streamNonce pipe.writer.records) :
    ((pipe.step services platform (.write bytes)).1 = .ok ∨
        (pipe.step services platform (.write bytes)).1 = .wouldBlock) ∧
      ∃ plaintexts, Flowing platform Writes Holds key streamNonce
        plaintexts fed (pipe.step services platform (.write bytes)).2 := by
  have sending := flowing.sending
  have ready := sending.ready
  by_cases nothing : bytes = []
  · subst nothing
    have writeEq : pipe.writer.write services pipe.context [] =
        (.ok, 0, pipe.writer, pipe.context) := by
      simp [Writer.write, ready]
    simp only [Pipe.step, writeEq]
    exact ⟨.inl trivial, plaintexts, { flowing with
      accepted := by simp [flowing.accepted] }⟩
  · by_cases idle : pipe.writer.outputUsed = 0
    · have room := spare nothing idle
      rw [sending.records] at room
      rw [← same] at sending
      obtain ⟨_, following, writeEq, holds, nextSending⟩ :=
        sending.write reliable large small flowing.writes idle nothing room
      simp only [Pipe.step, writeEq]
      refine ⟨.inl trivial, _,
        { sending := by rw [← same]; exact nextSending
          writes := holds
          running := flowing.running
          accepted := ?_ }⟩
      rw [flowing.accepted, List.flatten_append, List.flatten_singleton, Nat.min_comm,
        ← List.take_take, List.take_length]
    · have writeEq : pipe.writer.write services pipe.context bytes =
          (.wouldBlock, 0, pipe.writer, pipe.context) := by
        simp [Writer.write, ready, nothing, idle]
      simp only [Pipe.step, writeEq]
      exact ⟨.inr trivial, plaintexts, { flowing with
        accepted := by simp [flowing.accepted] }⟩

/-- Draining passes output on to the wire. -/
theorem drain (services : Services Context) (length : Nat) :
    ((pipe.step services platform (.drain length)).1 = .ok ∨
        (pipe.step services platform (.drain length)).1 = .wouldBlock) ∧
      Flowing platform Writes Holds key streamNonce plaintexts fed
        (pipe.step services platform (.drain length)).2 ∧
      (pipe.writer.pending.length ≤ length → (pipe.step services platform
          (.drain length)).2.writer.outputUsed = 0) := by
  have sending := flowing.sending
  rcases sending.output with ⟨idle, outputEq⟩ | ⟨some, outputEq⟩
  · simp only [Pipe.step, outputEq]
    exact ⟨.inr trivial, flowing, fun _ => idle⟩
  obtain ⟨_, consumeEq, nextSending, pendingLength⟩ :=
    sending.consumeOutput (List.length_take_le' length _)
  have takenEq : pipe.writer.pending.take (pipe.writer.pending.take length).length =
        pipe.writer.pending.take length := by
    rw [List.length_take, ← List.take_take, List.take_length]
  rw [takenEq, List.append_assoc] at nextSending
  simp only [Pipe.step, outputEq, consumeEq]
  refine ⟨.inl trivial, { flowing with
    sending := nextSending
    running := ⟨flowing.running.tracking, flowing.running.view⟩ }, ?_⟩
  intro enough
  rcases nextSending.output with ⟨idle, _⟩ | ⟨more, _⟩
  · exact idle
  rw [List.length_take] at pendingLength
  exact absurd (List.eq_nil_of_length_eq_zero (by omega)) more

/-- A call at the reader's end. -/
theorem read (faithful : platform.Faithful Holds) (event : TapEvent) :
    let outcome := pipe.tap.step platform event
    (outcome.1 = .ok ∨ outcome.1 = .wouldBlock) ∧
      ∃ fed, Flowing platform Writes Holds key streamNonce plaintexts fed
        (pipe.setTap outcome.2) := by
  intro outcome
  obtain ⟨fed', inputEq, ends⟩ := flowing.running.step faithful event
  have inputEq : fed' ++ outcome.2.rest = fed ++ pipe.wire := inputEq
  rcases ends with ⟨running, result⟩ | ⟨stopped, _⟩
  · refine ⟨result, fed', { flowing with
      sending := ?_
      running := running }⟩
    have sending := flowing.sending
    rw [← inputEq] at sending
    exact sending
  · -- the decoder does not fail on what a writer has sent
    obtain ⟨_, _, decoded⟩ := stopped.halted.decoded
    have all := flowing.decode
    rw [← List.append_assoc, ← inputEq, List.append_assoc, decoded] at all
    cases all

theorem reads (faithful : platform.Faithful Holds) (events : List TapEvent) :
    ∃ fed, Flowing platform Writes Holds key streamNonce plaintexts fed
      (pipe.setTap (pipe.tap.run platform events)) := by
  induction events generalizing pipe fed with
  | nil => exact ⟨fed, flowing⟩
  | cons event events ih =>
    obtain ⟨_, _, next⟩ := flowing.read faithful event
    exact ih next

end

/-- One event, if a write has a record to spare. -/
theorem step (flowing : Flowing platform Writes Holds key streamNonce plaintexts fed pipe)
    (reliable : services.Reliable Writes)
    (faithful : platform.Faithful Holds)
    (same : services.gcm = platform.gcm)
    (large : 33 ≤ capacity) (small : capacity ≤ txMaxBytes)
    (event : PipeEvent)
    (spare : ∀ bytes, event = .write bytes → bytes ≠ [] → pipe.writer.outputUsed = 0 →
        Spare streamNonce pipe.writer.records) :
    ((pipe.step services platform event).1 = .ok ∨
        (pipe.step services platform event).1 = .wouldBlock) ∧
      ∃ plaintexts fed, Flowing platform Writes Holds key streamNonce
        plaintexts fed (pipe.step services platform event).2 := by
  have reading (tapEvent : TapEvent) : ((pipe.step services platform (.ofTap tapEvent)).1 = .ok ∨
          (pipe.step services platform (.ofTap tapEvent)).1 = .wouldBlock) ∧
        ∃ plaintexts fed, Flowing platform Writes Holds key streamNonce plaintexts fed
          (pipe.step services platform (.ofTap tapEvent)).2 := by
    rw [Pipe.step_ofTap]
    obtain ⟨result, next⟩ := flowing.read faithful tapEvent
    exact ⟨result, plaintexts, next⟩
  cases event with
  | write bytes =>
    obtain ⟨result, plaintexts, next⟩ := flowing.write reliable same
      large small bytes (spare bytes rfl)
    exact ⟨result, plaintexts, fed, next⟩
  | drain length =>
    obtain ⟨result, next, _⟩ := flowing.drain services length
    exact ⟨result, plaintexts, fed, next⟩
  | feed length => exact reading (.feed length)
  | plaintext => exact reading .plaintext
  | consume length => exact reading (.consume length)

theorem start (free : Holds state none)
    (writes : Writes context) (large : 33 ≤ capacity) (small : capacity ≤ txMaxBytes)
    (platform : Platform State) (key : Block UInt8 32) (streamNonce : Block UInt8 12) :
    Flowing platform Writes Holds key streamNonce [] []
      (Pipe.start capacity key streamNonce context state) := by
  have writerEq : (Pipe.start capacity key streamNonce context state).writer =
        { active := true
          key := key
          streamNonce := streamNonce
          nonce := streamNonce } := by
    simp only [Pipe.start, Writer.init]
    rw [if_neg (by omega), if_neg (by decide), if_neg (by decide)]
  have inside := BigEndian.ofBytes_lt streamNonce.cells
  rw [Block.cells_length] at inside
  refine
    { sending := ?_
      writes := writes
      running := Running.start free platform key []
      accepted := rfl }
  rw [writerEq]
  exact
    { inside := inside
      counted := Nat.zero_le _
      sizes := nofun
      active := rfl
      running := rfl
      keyed := rfl
      streamed := rfl
      records := rfl
      nonce := (nonceAt_zero _).symm
      nonceSent := rfl
      used_le := Nat.zero_le _
      offset_le := Nat.le_refl _
      unfinished := fun used => absurd rfl used
      stream := rfl }

/-! ## The end of the stream -/

variable (flowing : Flowing platform Writes Holds key streamNonce plaintexts fed pipe)
include flowing

theorem received_prefix : pipe.received <+: pipe.accepted := by
  have found := flowing.running.received_prefix (pipe.wire ++ pipe.writer.pending)
  rw [flowing.decode] at found
  rw [flowing.accepted]
  exact (List.prefix_append _ _).trans found

/-- Nothing is lost on the way. -/
theorem finished (idle : pipe.Idle) :
    pipe.received = pipe.accepted ∧ pipe.endpoint.finish = .ok := by
  obtain ⟨noOutput, noWire, notReady⟩ := idle
  have decoded := flowing.decode
  rw [noWire, Sending.pending_idle noOutput, List.append_nil, List.append_nil] at decoded
  have kept : Kept platform Holds key fed pipe.tap := by
    refine ⟨fed, ?_, .inl flowing.running⟩
    rw [Pipe.tap, noWire, List.append_nil]
  obtain ⟨received, _⟩ := kept.done (.inr ⟨noWire, notReady⟩)
  rw [decoded] at received
  refine ⟨received.trans flowing.accepted.symm,
    kept.finish.mpr ⟨flowing.running.readyState, .inr ?_⟩⟩
  rw [Pipe.tap, noWire, List.length_nil, Nat.sub_zero, List.take_length, decoded]

/-- The caller can always bring the pipe to an end without writing. -/
theorem drains (services : Services Context) (faithful : platform.Faithful Holds) :
    ∃ more : List PipeEvent, (∀ bytes, .write bytes ∉ more) ∧
      (pipe.run services platform more).Idle ∧
      ∃ fed, Flowing platform Writes Holds key streamNonce plaintexts
        fed (pipe.run services platform more) := by
  obtain ⟨_, drained, noOutput⟩ := flowing.drain services pipe.writer.pending.length
  generalize drainEq : (pipe.step services platform
    (.drain pipe.writer.pending.length)).2 = first at *
  obtain ⟨more, done⟩ := drained.running.drains faithful
  obtain ⟨fed, ended⟩ := drained.reads faithful more
  refine ⟨.drain pipe.writer.pending.length :: more.map .ofTap, ?_, ?_⟩
  · intro bytes member
    obtain ⟨event, _, same⟩ := List.mem_map.mp ((List.mem_cons.mp member).resolve_left nofun)
    cases event <;> cases same
  · rw [Pipe.run, List.foldl_cons, drainEq]
    rw [← Pipe.run, Pipe.run_ofTap]
    refine ⟨⟨noOutput (Nat.le_refl _), ?_⟩, fed, ended⟩
    exact done.resolve_left (not_not.mpr ended.running.readyState)

end Flowing

/-! ## Runs -/

/-- Every write that can be accepted has a record to spare. -/
def Provided (services : Services Context) (platform : Platform State)
    (streamNonce : Block UInt8 12) (pipe : Pipe Context State capacity)
    (events : List PipeEvent) : Prop :=
  ∀ before bytes after, events = before ++ .write bytes :: after → bytes ≠ [] →
    (pipe.run services platform before).writer.outputUsed = 0 →
    Spare streamNonce (pipe.run services platform before).writer.records

variable {streamNonce : Block UInt8 12} {services : Services Context} {platform : Platform State}

theorem Provided.before {pipe : Pipe Context State capacity} {before after : List PipeEvent}
    (provided : Provided services platform streamNonce pipe (before ++ after)) :
    Provided services platform streamNonce pipe before := by
  intro first bytes rest split
  refine provided first bytes (rest ++ after) ?_
  rw [split, List.append_assoc, List.cons_append]

/-- The invariant along a run. -/
theorem Pipe.run_flowing {Writes : Context → Prop}
    {Holds : State → Option (Nat × List UInt8) → Prop}
    (reliable : services.Reliable Writes)
    (faithful : platform.Faithful Holds)
    (same : services.gcm = platform.gcm)
    (large : 33 ≤ capacity) (small : capacity ≤ txMaxBytes)
    {key : Block UInt8 32}
    {context : Context} (writes : Writes context) {state : State}
    (free : Holds state none) {events : List PipeEvent}
    (provided : Provided services platform streamNonce
      (Pipe.start capacity key streamNonce context state) events) :
    ∃ plaintexts fed, Flowing platform Writes Holds key streamNonce plaintexts fed
      ((Pipe.start capacity key streamNonce context state).run services platform events) := by
  induction events using List.reverseRecOn with
  | nil => exact ⟨[], [], Flowing.start free writes large small platform key streamNonce⟩
  | append_singleton before event ih =>
    obtain ⟨_, _, flowing⟩ := ih provided.before
    rw [Pipe.run, List.foldl_append]
    exact (flowing.step reliable faithful same large small event (fun bytes isWrite some idle =>
        provided before bytes [] (by rw [isWrite]) some idle)).2

/--
Control records arrive as they were written.  Whatever the caller does, no
call fails; what has been consumed is a prefix of what has been accepted; a
pipe with nothing under way has delivered everything, and `finish` agrees;
and the caller can bring the pipe there without writing any more.
-/
theorem records_roundTrip {services : Services Context}
    {platform : Platform State} {Writes : Context → Prop}
    {Holds : State → Option (Nat × List UInt8) → Prop}
    (reliable : services.Reliable Writes)
    (faithful : platform.Faithful Holds)
    (same : services.gcm = platform.gcm)
    (large : 33 ≤ capacity) (small : capacity ≤ txMaxBytes)
    (key : Block UInt8 32) (streamNonce : Block UInt8 12)
    {context : Context} (writes : Writes context) {state : State}
    (free : Holds state none) (events : List PipeEvent)
    (provided : Provided services platform streamNonce
      (Pipe.start capacity key streamNonce context state) events) :
    let start := Pipe.start capacity key streamNonce context state
    let pipe := start.run services platform events
    (∀ before event after, events = before ++ event :: after →
      let result := ((start.run services platform before).step services platform event).1
      result = .ok ∨ result = .wouldBlock) ∧
    pipe.received <+: pipe.accepted ∧
    (pipe.Idle → pipe.received = pipe.accepted ∧ pipe.endpoint.finish = .ok) ∧
    ∃ more, (∀ bytes, PipeEvent.write bytes ∉ more) ∧ (pipe.run services platform more).Idle ∧
      (pipe.run services platform more).received = pipe.accepted ∧
      (pipe.run services platform more).endpoint.finish = .ok := by
  intro start pipe
  obtain ⟨_, _, flowing⟩ := Pipe.run_flowing reliable faithful same large small writes free provided
  refine ⟨?_, flowing.received_prefix, flowing.finished, ?_⟩
  · intro before event after split result
    subst split
    obtain ⟨_, _, earlier⟩ := Pipe.run_flowing reliable faithful same
      large small writes free provided.before
    exact (earlier.step reliable faithful same large small event (fun bytes isWrite some idle =>
        provided before bytes after (by rw [isWrite]) some idle)).1
  · obtain ⟨more, noWrite, idle, _, ended⟩ := flowing.drains services faithful
    obtain ⟨all, finishes⟩ := ended.finished idle
    refine ⟨more, noWrite, idle, ?_, finishes⟩
    rw [all, ended.accepted, ← flowing.accepted]

/-- One byte is written, and the rest follows. -/
theorem records_roundTrip_oneByte :
    let platform := memoryPlatform .openssl plainGcm fun _ => .filled 0 32
    let services := Endpoint.services platform
    let context := (Session.start (.filled 1 32) none).endpoint
    let pipe := (Pipe.start 33 (.filled 1 32) (.filled 0 12) context
      none).run services platform [.write [7]]
    pipe.accepted = [7] ∧ ∃ more, (pipe.run services platform more).received =
        pipe.accepted := by
  intro platform services context pipe
  have faithful := memoryPlatform_faithful .openssl plainGcm fun _ => .filled 0 32
  have provided : Provided services platform (.filled 0 12)
      (Pipe.start 33 (.filled 1 32) (.filled 0 12) context none)
      [.write [7]] := by
    intro before bytes after split _ _
    cases before with
    | nil => decide +kernel
    | cons =>
      have tooShort := congrArg List.length split
      simp at tooShort
  obtain ⟨_, _, _, more, _, _, all, _⟩ := records_roundTrip
    (faithful.reliable 0 none) faithful rfl (Nat.le_refl 33)
    (by decide) (.filled 1 32) (.filled 0 12) ⟨rfl, rfl⟩ rfl
    [.write [7]] provided
  exact ⟨by decide +kernel, more, all⟩

end EspFrp.Aead

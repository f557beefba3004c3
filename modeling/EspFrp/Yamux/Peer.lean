import EspFrp.Yamux.Ledger

/-!
# The mux and its peer

The mux is connected to a peer by two byte channels that lose nothing, keep
the order and delay arbitrarily.  A system holds the run of the mux, how many
of the bytes handed over have arrived at the peer, and the frames the peer
has sent.  The peer may send a frame whenever a rule allows it, given what
it has received and sent so far.

The rule `Obeys` is the flow of control that the wire format asks of a peer.
A peer that also keeps apart the flags of opening, closing and resetting a
stream never makes the mux report a protocol error, except for the payload
that has to be dropped.
-/

namespace EspFrp.Yamux

open Library

/-! ## The system -/

/-- The mux, its peer and the bytes between them. -/
structure System where
  world : World
  delivered : Nat
  outbox : List Frame

namespace System

/-- The complete frames that have arrived at the peer. -/
def received (system : System) : List Frame :=
  completeFrames (system.world.handed.take system.delivered)

/-- The bytes of the peer that the mux has not consumed. -/
def inFlight (system : System) : List UInt8 :=
  (encodeFrames system.outbox).drop system.world.consumed.length

end System

/-- A call that gives input to the mux. -/
def Call.isFeed : Call → Bool
  | .feed _ => true
  | _ => false

/--
What a peer may send, given the frames it has received and the headers it
has sent before.
-/
abbrev Rule := List Frame → List Header → Frame → Prop

/-- The systems that are reached with a peer that follows a rule. -/
inductive Connected (rule : Rule) : System → Prop where
  | start (now : Nat) : Connected rule ⟨World.init now, 0, []⟩
  | call {system : System} (call : Call) (earlier : Connected rule system)
      (outward : call.isFeed = false) :
      Connected rule { system with world := system.world.step call }
  | deliver {system : System} (count : Nat) (earlier : Connected rule system)
      (within : system.delivered + count ≤ system.world.handed.length) :
      Connected rule { system with delivered := system.delivered + count }
  | send {system : System} (frame : Frame) (earlier : Connected rule system)
      (allowed : rule system.received (system.outbox.map Frame.header) frame) :
      Connected rule { system with outbox := system.outbox ++ [frame] }
  | arrive {system : System} (count : Nat) (earlier : Connected rule system) : Connected rule
        { system with
          world := system.world.step (.feed (system.inFlight.take count)) }

/-! ## The rule -/

/-- The frame types, flags and codes that the wire format defines. -/
structure Frame.Defined (frame : Frame) : Prop where
  wellFormed : frame.WellFormed
  ping : frame.header.type = Kind.ping.code →
    frame.header.flags = synFlag ∨ frame.header.flags = ackFlag
  goaway : frame.header.type = Kind.goaway.code → frame.header.flags = 0 ∧ frame.header.value ≤ 2

/--
The obligations of a peer: defined frames only; every PING is answered once;
its own streams have increasing even ids; a client stream is answered after
its SYN, with ACK or RST first and ACK once; no DATA or FIN follows its FIN
and nothing its RST; DATA stays within the window it has been granted, and
the window it grants within 32 bits.
-/
structure Obeys (received : List Frame) (earlier : List Header) (frame : Frame) : Prop where
  defined : frame.Defined
  pong : frame.header.type = Kind.ping.code → frame.header.flags = ackFlag →
      countPings ackFlag frame.header.value earlier <
        countPings synFlag frame.header.value (received.map Frame.header)
  opens : frame.header.id ≠ 0 → frame.header.syn = true → frame.header.id % 2 = 0 ∧
      ∀ header ∈ earlier, header.id ≠ 0 → header.syn = true → header.id < frame.header.id
  known : frame.header.id ≠ 0 → frame.header.syn = false → (frame.header.id % 2 = 0 →
        ∃ header ∈ earlier, header.id = frame.header.id ∧ header.syn = true) ∧
      (frame.header.id % 2 = 1 → ∃ other ∈ received,
          other.header.id = frame.header.id ∧ other.header.syn = true)
  answers : frame.header.id % 2 = 1 → (∀ header ∈ earlier, header.id ≠ frame.header.id) →
      frame.header.ack = true ∨ frame.header.rst = true
  answersOnce : frame.header.id % 2 = 1 → frame.header.ack = true →
    ∀ header ∈ earlier, header.id = frame.header.id → header.ack = false
  afterFin : frame.header.id ≠ 0 → (∃ header ∈ earlier,
      header.id = frame.header.id ∧ header.fin = true) →
      frame.header.type ≠ Kind.data.code ∧ frame.header.fin = false
  afterRst : frame.header.id ≠ 0 →
    ∀ header ∈ earlier, header.id = frame.header.id → header.rst = false
  credit : frame.header.type = Kind.data.code →
    totalFor .data frame.header.id earlier + frame.header.value ≤ initialWindow +
        totalFor .window frame.header.id (received.map Frame.header)
  window : frame.header.type = Kind.window.code →
    initialWindow + totalFor .window frame.header.id earlier + frame.header.value ≤
      uint32Max + (payloadFor frame.header.id received).length

/-- Opening, closing and resetting a stream are not mixed in one frame. -/
structure Header.Separate (header : Header) : Prop where
  synAck : ¬(header.syn = true ∧ header.ack = true)
  synRst : ¬(header.syn = true ∧ header.rst = true)
  finRst : ¬(header.fin = true ∧ header.rst = true)

/-- The obligations of a peer that keeps its flags apart. -/
def ObeysStrictly : Rule := fun received earlier frame =>
  Obeys received earlier frame ∧ (frame.header.id ≠ 0 → frame.header.Separate)

/-! ## What the peer knows -/

/-- A byte string that starts with complete frames and a header. -/
theorem header_of_inbound (doneValid : ∀ frame ∈ done, frame.header.InRange ∧ frame.Complete)
    (outboxValid : ∀ frame ∈ outbox, frame.header.InRange ∧ frame.Complete)
    (length : head.length = headerBytes)
    (inbound : encodeFrames done ++ head <+: encodeFrames outbox) :
    ∃ frame later, outbox = done ++ frame :: later ∧ frame.header = Header.decode head := by
  rcases inbound with ⟨tail, bytes⟩
  have frames := congrArg framesOf bytes
  have long : ¬(head ++ tail).length < 12 := by
    rw [List.length_append]
    simp only [headerBytes] at length
    omega
  rw [framesOf_encodeFrames outboxValid, List.append_assoc,
    framesOf_encodeFrames_append done _ doneValid, framesOf, if_neg long] at frames
  refine ⟨_, _, frames.symm, ?_⟩
  rw [List.take_left' length]

/-- What has arrived at the peer is a part of what has been sent. -/
theorem Wired.completeFrames_handed {mux : Mux} {handed : List UInt8}
    (wired : Wired mux handed sent staged) : completeFrames handed = sent := by
  have valid : ∀ frame ∈ sent ++ (staged ++ mux.queued),
      frame.header.InRange ∧ frame.Complete := fun frame member =>
    ⟨(wired.wellFormed frame member).range, (wired.wellFormed frame member).complete⟩
  have sentValid := fun frame member => valid frame (List.mem_append_left _ member)
  rw [wired.handed, completeFrames_encodeFrames_append sent _ sentValid]
  have none : completeFrames (mux.output.take mux.outputOffset) = [] := by
    rcases wired.offset with ⟨empty, _⟩ | within
    · rw [empty, List.take_nil]
      exact List.filter_eq_nil_iff.mpr fun frame member => by
        rw [framesOf_short (by decide)] at member
        cases member
    · rw [wired.output] at within ⊢
      cases staged with
      | nil => cases within
      | cons frame rest =>
        have single := wired.single
        have last : rest = [] := by
          cases rest with
          | nil => rfl
          | cons => simp at single
        subst last
        have framed := valid frame (List.mem_append_right _
          (List.mem_append_left _ List.mem_cons_self))
        rw [encodeFrames_singleton] at within ⊢
        exact completeFrames_cut framed.1 framed.2 within
  rw [none, List.append_nil]

namespace Obeys

/-- What is allowed stays so when the peer has received more. -/
theorem mono (obeys : Obeys received earlier frame)
    (grown : received <+: more) : Obeys more earlier frame := by
  rcases grown with ⟨rest, rfl⟩
  refine
    { obeys with
      pong := ?_
      known := ?_
      credit := ?_
      window := ?_ }
  · intro type reply
    have before := obeys.pong type reply
    rw [List.map_append, countPings_append]
    omega
  · intro nonzero plain
    rcases obeys.known nonzero plain with ⟨even, odd⟩
    refine ⟨even, fun isOdd => ?_⟩
    rcases odd isOdd with ⟨other, member, facts⟩
    exact ⟨other, List.mem_append_left _ member, facts⟩
  · intro data
    have before := obeys.credit data
    rw [List.map_append, totalFor_append]
    omega
  · intro window
    have before := obeys.window window
    rw [payloadFor_append, List.length_append]
    omega

end Obeys

/-! ## Frames of an obedient peer -/

/-- The stream of the frame that waits and the payload it still brings. -/
def Mux.waiting (mux : Mux) : Nat × Nat :=
  if mux.frameActive then
    (mux.frameId, mux.frameRemaining)
  else
    ((Header.decode mux.header).id, (Header.decode mux.header).payloadLength)

/--
The frame that waits belongs to a stream that is reset, released or refused,
and its payload exceeds what may still be dropped.
-/
structure Mux.Overrun (mux : Mux) : Prop where
  dropped : discards mux mux.waiting.1 = true
  excess : discardLimit < mux.discardedBytes + mux.waiting.2

theorem Violation.of_filled
    (reason : Violation (mux.fillHeader chunk) header) : Violation mux header := by
  have session := (Undisturbed.refl mux).fillHeader chunk
  have peer := ((SameOutput.refl mux).fillHeader chunk).peerLastId
  have ids := (SameIds.of_edits (.fillHeader mux chunk)).nextId
  cases reason with
  | version unknown => exact .version unknown
  | flags unknown => exact .flags unknown
  | type unknown => exact .type unknown
  | ping type malformed => exact .ping type malformed
  | pong type reply unexpected =>
    rw [session.pingPending, session.pingId] at unexpected
    exact .pong type reply unexpected
  | goaway type malformed => exact .goaway type malformed
  | stream kind type stream malformed => exact .stream kind type stream malformed
  | opening kind type stream opening wrong =>
    rw [peer] at wrong
    exact .opening kind type stream opening wrong
  | unopened kind type stream plain future =>
    rw [peer, ids] at future
    exact .unopened kind type stream plain future

/-- A client stream whose SYN has arrived at the peer has been opened. -/
theorem Traced.opened_of_received (traced : Traced world history)
    (arrived : received <+: history.sent) {id : Nat} (odd : id % 2 = 1)
    (named : ∃ other ∈ received, other.header.id = id ∧ other.header.syn = true) :
    Opened world.mux.nextId id := by
  by_contra unopened
  rcases named with ⟨other, member, sameId, _⟩
  have inLog : other ∈ framesFor id (history.log world.mux) :=
    List.mem_filter.mpr ⟨List.mem_append_left _ (arrived.subset member), decide_eq_true sameId⟩
  rw [(traced.legal.client.unopened id odd unopened).1] at inLog
  cases inLog

theorem Traced.no_violation (traced : Traced world history) (ready : world.mux.failure = .ok)
    (arrived : received <+: history.sent)
    (obeys : ObeysStrictly received (history.accepted world.mux) frame) :
    ¬Violation world.mux frame.header := by
  rcases obeys with ⟨obeys, separate⟩
  have wellFormed := obeys.defined.wellFormed
  have tally := traced.books.tally
  have ofStream {kind : Kind} (type : frame.header.type = kind.code)
      (stream : kind = .data ∨ kind = .window) :
      frame.header.id ≠ 0 := by
    intro zero
    have session := wellFormed.session.mp zero
    rw [type] at session
    rcases stream with rfl | rfl <;> rcases session with is | is <;>
      cases is
  intro reason
  cases reason with
  | version unknown => exact unknown wellFormed.version
  | flags unknown => exact absurd wellFormed.flags (Nat.not_le.mpr unknown)
  | type unknown => exact wellFormed.type unknown
  | ping type malformed =>
    have zero := wellFormed.session.mpr (Or.inl type)
    rcases malformed with nonzero | ⟨noSyn, noAck⟩
    · exact nonzero zero
    · exact (obeys.defined.ping type).elim noSyn noAck
  | pong type reply unexpected =>
    have answered := obeys.pong type reply
    have asked := tally.pings frame.header.value
    have none : world.mux.pendingPings frame.header.value = 0 :=
      if_neg fun pending => unexpected ⟨pending.1, pending.2.symm⟩
    rcases arrived with ⟨rest, sent⟩
    unfold History.log at asked
    rw [← sent] at asked
    simp only [List.map_append, countPings_append] at asked
    omega
  | goaway type =>
    have zero := wellFormed.session.mpr (Or.inr type)
    rcases obeys.defined.goaway type with ⟨plain, code⟩
    omega
  | stream _ type stream malformed =>
    have nonzero := ofStream type stream
    rcases malformed with zero | synAck | finRst
    · exact nonzero zero
    · exact (separate nonzero).synAck synAck
    · exact (separate nonzero).finRst finRst
  | opening _ type stream opening wrong =>
    have nonzero := ofStream type stream
    rcases obeys.opens nonzero opening with ⟨even, increasing⟩
    rcases wrong with odd | past | reset
    · omega
    · rcases tally.last ready with none | ⟨header, member, syn, last⟩
      · omega
      have later := increasing header member (by omega) syn
      omega
    · exact (separate nonzero).synRst ⟨opening, reset⟩
  | unopened _ type stream plain future =>
    have nonzero := ofStream type stream
    rcases obeys.known nonzero plain with ⟨even, odd⟩
    rcases future with ⟨isOdd, notYet⟩ | ⟨isEven, notYet⟩
    · have opened := traced.opened_of_received arrived isOdd (odd isOdd)
      have past := opened.past
      omega
    rcases even isEven with ⟨header, member, sameId, syn⟩
    have latest := tally.latest header member (by omega) syn
    omega

/-- The payload that has arrived at the peer has been written. -/
theorem Traced.payload_le (traced : Traced world history) (arrived : received <+: history.sent)
    {id : Nat} (odd : id % 2 = 1) :
    (payloadFor id received).length ≤ (world.written id).length := by
  have written := (traced.legal.client.legal id odd).payload
  rcases arrived with ⟨rest, sent⟩
  have whole : payloadFor id (history.log world.mux) =
      world.written id := by
    rw [← written, payloadFor_framesFor]
  rw [← whole]
  unfold History.log
  rw [← sent, List.append_assoc, payloadFor_append, List.length_append]
  omega

section

variable (traced : Traced world history) (arrived : received <+: history.sent)
  (obeys : ObeysStrictly received (history.accepted world.mux) frame)
include traced arrived obeys

/-- A live stream takes every frame of an obedient peer. -/
theorem Traced.accepts (wellFormed : StreamHeader kind frame.header)
    (found : world.mux.stream frame.header.id = some stream)
    (alive : stream.reset = false) : stream.Accepts kind frame.header := by
  rcases obeys with ⟨obeys, _⟩
  have books := traced.books
  have nonzero := Mux.stream_ne_zero found
  have odd := (traced.reachable.table.opened_of_stream found).odd
  have type := wellFormed.type
  refine ⟨?_, ?_, ?_, ?_, ?_⟩
  · intro acks
    refine Bool.eq_false_of_not_eq_true fun known => ?_
    rcases books.spent.acknowledged _ stream found alive known with ⟨header, member, sameId, ack⟩
    rw [obeys.answersOnce odd acks header member sameId] at ack
    cases ack
  · intro unknown
    exact obeys.answers odd (books.spent.unacknowledged _ stream found alive unknown)
  · intro closed _
    rcases (traced.delivered.finished _ stream found alive).mp closed with
      ⟨earlier, member, sameId, fin⟩
    have accepted : earlier.header ∈ history.accepted world.mux :=
      List.mem_map_of_mem (List.mem_append_left _ member)
    rcases obeys.afterFin nonzero ⟨_, accepted, sameId, fin⟩ with ⟨noData, noFin⟩
    refine ⟨?_, noFin⟩
    rintro rfl
    exact noData type
  · rintro rfl
    have announced := obeys.credit type
    have credit := books.granted.credit _ stream found alive
    rcases arrived with ⟨rest, sent⟩
    rw [← sent, List.map_append, totalFor_append] at credit
    omega
  · rintro rfl
    have announced := obeys.window type
    have credit := books.spent.credit _ stream found alive
    have payload := traced.payload_le arrived odd
    omega

/-- No DATA frame of an obedient peer exceeds the initial window. -/
theorem Traced.value_le (data : frame.header.type = Kind.data.code)
    (nonzero : frame.header.id ≠ 0) : frame.header.value ≤ initialWindow := by
  have announced := obeys.1.credit data
  have covered := traced.books.granted.covered _ nonzero
  rcases arrived with ⟨rest, sent⟩
  rw [← sent, List.map_append, totalFor_append] at covered
  omega

end

/-- The only error an obedient peer provokes by a header. -/
theorem Traced.overrun_of_stalled (traced : Traced world history)
    (ready : world.mux.failure = .ok) (arrived : received <+: history.sent)
    (obeys : ObeysStrictly received (history.accepted world.mux) frame)
    (idle : world.mux.frameActive = false)
    (header : (world.mux.fillHeader chunk).header = world.mux.header ++ chunk)
    (decoded : frame.header = Header.decode (world.mux.header ++ chunk))
    (stalled : Stalled (world.mux.fillHeader chunk) frame.header outcome)
    (failed : outcome.2.failure = .protocolError) : outcome.2.Overrun := by
  have streams := world.mux.fillHeader_streams chunk
  have filledIdle := (world.mux.fillHeader_frameActive chunk).trans idle
  cases stalled with
  | violated reason => exact (traced.no_violation ready arrived obeys reason.of_filled).elim
  | closed => cases failed
  | postponed =>
    rw [world.mux.fillHeader_failure chunk, ready] at failed
    cases failed
  | rejected _ _ _ wellFormed admission found alive refused =>
    rw [Mux.stream_congr admission.streams, Mux.stream_congr streams] at found
    have accepts := traced.accepts arrived obeys wellFormed found alive
    rw [Stream.refuses_eq_false_iff.mpr accepts] at refused
    cases refused
  | excessive kind admitted applied wellFormed admission application discarded data surplus =>
    have type := wellFormed.type
    rw [data] at type
    have small := traced.value_le arrived obeys type wellFormed.id
    have same := (((Undisturbed.refl world.mux).fillHeader
      chunk).admitted admission).applied application
    have bounded := traced.books.tally.discarded
    have excess := surplus.resolve_left (Nat.not_lt.mpr small)
    rw [same.discardedBytes, sub32_of_le bounded (by decide)] at excess
    have inactive : applied.frameActive = false :=
      (application.frameActive.trans admission.frameActive).trans filledIdle
    have buffer : Header.decode applied.header = frame.header := by
      rw [application.header, admission.header, header, ← decoded]
    have waiting : (applied.fail .protocolError).2.waiting =
        (frame.header.id, frame.header.value) := by
      change (if applied.frameActive = true then _ else
        ((Header.decode applied.header).id, (Header.decode applied.header).payloadLength)) = _
      rw [inactive, if_neg Bool.false_ne_true, buffer, Header.payloadLength, if_pos type]
    refine ⟨?_, ?_⟩
    · rw [waiting]
      exact discarded
    · rw [waiting]
      change discardLimit < applied.discardedBytes + frame.header.value
      rw [same.discardedBytes]
      omega

/-- The only error an obedient peer provokes. -/
theorem Traced.overrun_of_parse (traced : Traced world history) (ready : world.mux.failure = .ok)
    (arrived : received <+: history.sent)
    (obedient : ∀ earlier frame later, outbox = earlier ++ frame :: later →
        ObeysStrictly received (earlier.map Frame.header) frame)
    (inbound : world.consumed ++ chunk <+: encodeFrames outbox)
    (parse : Parse world.mux history.done history.body chunk next done body)
    (failed : next.failure = .protocolError) : next.Overrun := by
  have parsed := traced.parsed
  have filled (chunk : List UInt8) : (world.mux.fillHeader chunk).failure = .ok :=
    (world.mux.fillHeader_failure chunk).trans ready
  have entered {chunk : List UInt8} {header : Header} {next : Mux}
      (enters : Enters (world.mux.fillHeader chunk) header next) : next.failure = .ok := by
    cases enters with
    | intro _ _ _ _ admission application =>
      exact (application.failure.trans admission.failure).trans (filled chunk)
  have impossible {mux : Mux} (fine : mux.failure = .ok)
      (wrong : mux.failure = .protocolError) : False := by
    rw [fine] at wrong
    cases wrong
  have outboxValid : ∀ frame ∈ outbox, frame.header.InRange ∧ frame.Complete := by
    intro frame member
    rcases List.append_of_mem member with ⟨earlier, later, split⟩
    have wellFormed := (obedient earlier frame later split).1.defined.wellFormed
    exact ⟨wellFormed.range, wellFormed.complete⟩
  cases parse with
  | fill chunk => exact (impossible (filled chunk) failed).elim
  | stall chunk _ idle complete stalled =>
    have length : (world.mux.header ++ chunk).length = headerBytes := by
      rw [List.length_append]
      exact complete
    have bytes : encodeFrames history.done ++
        (world.mux.header ++ chunk) <+: encodeFrames outbox := by
      rw [parsed.consumed, parsed.idle idle, List.append_nil, List.append_assoc] at inbound
      exact inbound
    rcases header_of_inbound parsed.valid outboxValid length bytes with
      ⟨frame, later, split, decoded⟩
    have obeys := obedient _ frame later split
    have accepted : history.done.map Frame.header = history.accepted world.mux := by
      unfold History.accepted
      rw [Mux.current_idle _ idle, List.append_nil]
    rw [accepted] at obeys
    rw [← decoded] at stalled
    exact traced.overrun_of_stalled ready arrived obeys idle
      (Mux.fillHeader_header_of_le (by omega)) decoded stalled failed
  | session chunk _ _ _ session => cases session <;> exact (impossible (filled chunk) failed).elim
  | enter _ _ _ _ enters => exact (impossible (entered enters) failed).elim
  | enterLast _ _ _ _ enters =>
    rw [endFrame_failure] at failed
    exact (impossible (entered enters) failed).elim
  | take _ _ _ takes => cases takes <;> exact (impossible ready failed).elim
  | takeLast _ _ _ takes =>
    rw [endFrame_failure] at failed
    cases takes <;> exact (impossible ready failed).elim
  | exhaust _ active discarded _ excessive =>
    have bounded := traced.books.tally.discarded
    rw [sub32_of_le bounded (by decide)] at excessive
    have waiting : (world.mux.fail .protocolError).2.waiting =
        (world.mux.frameId, world.mux.frameRemaining) :=
      if_pos active
    refine ⟨?_, ?_⟩
    · rw [waiting]
      exact traced.delivered.dropping active discarded
    · rw [waiting]
      change discardLimit < world.mux.discardedBytes + world.mux.frameRemaining
      omega
  | block => exact (impossible ready failed).elim
  | lose => cases failed

/-! ## Whole calls -/

/-- Only input makes the mux report a protocol error. -/
theorem Change.no_protocolError (change : Change mux label next) (quiet : label.isFed = false)
    (accounts : mux.Accounts) (ready : mux.failure = .ok) : next.failure ≠ .protocolError := by
  have fine : mux.failure ≠ .protocolError := by
    rw [ready]
    exact Result.noConfusion
  cases change with
  | reset =>
    rw [Mux.resetState_failure]
    exact fine
  | overGrant _ _ found alive excessive =>
    exact absurd excessive (Nat.not_lt.mpr (accounts.grant_le found alive))
  | expire _ _ other => exact other
  | feed => cases quiet
  | _ => exact fine

theorem World.record_grows (world : World) (label : Label) (next : Mux) :
    world.consumed <+: (world.record label next).consumed ∧
      world.handed <+: (world.record label next).handed := by
  have same (bytes : List UInt8) : bytes <+: bytes := ⟨[], List.append_nil _⟩
  cases label with
  | fed bytes => exact ⟨⟨bytes, rfl⟩, same _⟩
  | handed bytes => exact ⟨same _, ⟨bytes, rfl⟩⟩
  | _ => exact ⟨same _, same _⟩

theorem Changes.grows (changes : Changes world final) :
    world.consumed <+: final.consumed ∧ world.handed <+: final.handed := by
  induction changes with
  | refl => exact ⟨⟨[], List.append_nil _⟩, ⟨[], List.append_nil _⟩⟩
  | @step world _ label next _ _ _ ih =>
    have first := world.record_grows label next
    exact ⟨first.1.trans ih.1, first.2.trans ih.2⟩

theorem completeFrames_mono_of_isPrefix (grown : bytes <+: more) :
    completeFrames bytes <+: completeFrames more := by
  rcases grown with ⟨rest, rfl⟩
  exact completeFrames_mono

/-- An obedient peer provokes no error but the one for dropped payload. -/
theorem Changes.overrun {received outbox : List Frame} (obedient : ∀ earlier frame later,
      outbox = earlier ++ frame :: later → ObeysStrictly received (earlier.map Frame.header) frame)
    {world final : World} (changes : Changes world final)
    (inbound : final.consumed <+: encodeFrames outbox)
    (reachable : world.Reachable)
    (arrived : received <+: completeFrames world.handed)
    (before : world.mux.failure = .protocolError → world.mux.Overrun)
    (failed : final.mux.failure = .protocolError) :
    final.mux.Overrun := by
  induction changes with
  | refl => exact before failed
  | @step world _ label next ready change tail ih =>
    have grown := world.record_grows label next
    refine ih inbound (reachable.record ready change)
      (arrived.trans (completeFrames_mono_of_isPrefix grown.2)) ?_ failed
    rw [World.record_mux]
    intro wrong
    cases fed : label.isFed with
    | false => exact (change.no_protocolError fed reachable.accounts ready wrong).elim
    | true =>
      cases change with
      | feed _ _ step =>
        rcases reachable.traced with ⟨history, traced⟩
        rcases Parse.of_feedStep history.done history.body step with ⟨done, body, parse⟩
        rw [traced.legal.wired.completeFrames_handed] at arrived
        exact traced.overrun_of_parse ready arrived obedient
          (tail.grows.1.trans inbound) parse wrong
      | _ => cases fed

/-! ## Every system -/

/-- What holds of every system with an obedient peer. -/
structure Safe (system : System) : Prop where
  reachable : system.world.Reachable
  delivered : system.delivered ≤ system.world.handed.length
  inbound : system.world.consumed <+: encodeFrames system.outbox
  obedient : ∀ earlier frame later, system.outbox = earlier ++ frame :: later →
      ObeysStrictly system.received (earlier.map Frame.header) frame
  overrun : system.world.mux.failure = .protocolError → system.world.mux.Overrun

namespace Safe

theorem arrived (system : System) : system.received <+: completeFrames system.world.handed :=
  completeFrames_mono_of_isPrefix <| List.take_prefix _ _

/-- A call leaves what has arrived at the peer as it is. -/
theorem received_step (safe : Safe system) (call : Call) :
    System.received { system with world := system.world.step call } =
      system.received := by
  rcases (Changes.of_step system.world call).grows.2 with ⟨rest, handed⟩
  unfold System.received
  rw [← handed, List.take_append_of_le_length safe.delivered]

/-- A call, provided that it consumes what the peer has sent. -/
theorem step (safe : Safe system) (call : Call)
    (inbound : (system.world.step call).consumed <+: encodeFrames system.outbox) :
    Safe { system with world := system.world.step call } := by
  have changes := Changes.of_step system.world call
  refine ⟨?_, ?_, inbound, ?_, ?_⟩
  · rcases safe.reachable with ⟨now, earlier⟩
    exact ⟨now, earlier.trans changes⟩
  · exact safe.delivered.trans changes.grows.2.length_le
  · rw [safe.received_step call]
    exact safe.obedient
  · exact changes.overrun safe.obedient inbound safe.reachable (arrived system) safe.overrun

theorem deliver (safe : Safe system)
    (within : system.delivered + count ≤ system.world.handed.length) :
    Safe { system with delivered := system.delivered + count } := by
  refine ⟨safe.reachable, within, safe.inbound, ?_, safe.overrun⟩
  intro earlier frame later split
  rcases safe.obedient earlier frame later split with ⟨obeys, separate⟩
  refine ⟨obeys.mono (completeFrames_mono_of_isPrefix ?_), separate⟩
  exact List.take_prefix_take_left (Nat.le_add_right _ _)

theorem send (safe : Safe system) {frame : Frame}
    (allowed : ObeysStrictly system.received (system.outbox.map Frame.header) frame) :
    Safe { system with outbox := system.outbox ++ [frame] } := by
  refine ⟨safe.reachable, safe.delivered, ?_, ?_, safe.overrun⟩
  · refine safe.inbound.trans ?_
    rw [encodeFrames_append]
    exact List.prefix_append _ _
  · intro earlier other later split
    rcases List.eq_nil_or_concat later with rfl | ⟨more, last, rfl⟩
    · rcases List.append_inj' split rfl with ⟨same, single⟩
      rw [← same, ← List.singleton_inj.mp single]
      exact allowed
    have parts : system.outbox ++ [frame] = (earlier ++ other :: more) ++ [last] := by
      simpa using split
    exact safe.obedient earlier other more (List.append_inj' parts rfl).1

theorem arrive (safe : Safe system) (count : Nat) : Safe
      { system with
        world := system.world.step (.feed (system.inFlight.take count)) } := by
  refine safe.step _ ?_
  rcases safe.inbound with ⟨rest, bytes⟩
  have inFlight : system.inFlight = rest := by
    unfold System.inFlight
    rw [← bytes, List.drop_left]
  change system.world.consumed ++ List.take _ _ <+: _
  rw [inFlight, ← bytes, List.prefix_append_right_inj, List.take_take]
  exact List.take_prefix _ _

theorem of_connected (connected : Connected ObeysStrictly system) : Safe system := by
  induction connected with
  | start now =>
    refine ⟨.init now, Nat.le_refl 0, ⟨_, List.nil_append _⟩, ?_, nofun⟩
    intro earlier frame later split
    simp at split
  | call call _ outward ih =>
    refine ih.step call ?_
    have inbound := ih.inbound
    cases call with
    | feed => cases outward
    | _ => exact inbound
  | deliver _ _ within ih => exact ih.deliver within
  | send _ _ allowed ih => exact ih.send allowed
  | arrive count _ ih => exact ih.arrive count

end Safe

/-! ## Flags that are mixed -/

/-- The first frame of a peer on a stream, without payload. -/
theorem Obeys.first {received : List Frame} {flags id : Nat}
    (flagsRange : flags ≤ 15) (nonzero : id ≠ 0) (range : id < word32)
    (opens : flags.testBit 0 = true → id % 2 = 0)
    (known : flags.testBit 0 = false → id % 2 = 1 ∧ ∃ other ∈ received,
        other.header.id = id ∧ other.header.syn = true)
    (answers : id % 2 = 1 → flags.testBit 1 = true ∨ flags.testBit 3 = true) :
    Obeys received [] (Header.make .window flags id 0).frame where
  defined :=
    { wellFormed := by
        refine Header.make_wellFormed flagsRange range (by decide)
          ⟨fun zero => absurd zero nonzero, ?_⟩ rfl
        rintro (other | other) <;> cases other
      ping := nofun
      goaway := nofun }
  pong := nofun
  opens := fun _ opening => ⟨opens opening, nofun⟩
  known := fun _ plain =>
    ⟨fun even => by
        have odd := (known plain).1
        change id % 2 = 0 at even
        omega,
      fun _ => (known plain).2⟩
  answers := fun odd _ => answers odd
  answersOnce := fun _ _ => nofun
  afterFin := by
    rintro _ ⟨header, member, _⟩
    cases member
  afterRst := fun _ => nofun
  credit := nofun
  window := fun _ => by
    change initialWindow + 0 + 0 ≤ _
    simp only [initialWindow, uint32Max]
    omega

/-- The system in which the SYN of stream 1 has arrived at the peer. -/
def greeted : System where
  world := World.run 0 [.openStream true, .output, .consumeOutput 12]
  delivered := 12
  outbox := []

theorem greeted_connected (rule : Rule) : Connected rule greeted := by
  have opened : Connected rule _ := .call (.openStream true) (.start 0) rfl
  have handed := Connected.call (.consumeOutput 12) (.call .output opened rfl) rfl
  exact .deliver 12 handed (by decide +kernel)

/-- The system in which the peer has then sent one frame. -/
def greetedBy (flags id : Nat) : System :=
  { greeted with outbox := [(Header.make .window flags id 0).frame] }

theorem greeted_received :
    ∃ other ∈ greeted.received, other.header.id = 1 ∧ other.header.syn = true := by
  decide +kernel

/--
The mux reports a protocol error to a peer that closes and resets a stream in
one frame, and to one that opens a stream together with ACK or RST.
-/
theorem mixedFlags_rejected : (Connected Obeys (greetedBy (finFlag + rstFlag) 1) ∧
        (yamuxFeed (greetedBy (finFlag + rstFlag) 1).world.mux
          (greetedBy (finFlag + rstFlag) 1).inFlight).1 = .protocolError ∧
        ¬(yamuxFeed (greetedBy (finFlag + rstFlag) 1).world.mux
          (greetedBy (finFlag + rstFlag) 1).inFlight).2.2.Overrun) ∧
      (Connected Obeys (greetedBy (synFlag + ackFlag) 2) ∧
        (yamuxFeed (greetedBy (synFlag + ackFlag) 2).world.mux
          (greetedBy (synFlag + ackFlag) 2).inFlight).1 = .protocolError ∧
        ¬(yamuxFeed (greetedBy (synFlag + ackFlag) 2).world.mux
          (greetedBy (synFlag + ackFlag) 2).inFlight).2.2.Overrun) ∧
      Connected Obeys (greetedBy (synFlag + rstFlag) 2) ∧
        (yamuxFeed (greetedBy (synFlag + rstFlag) 2).world.mux
          (greetedBy (synFlag + rstFlag) 2).inFlight).1 = .protocolError ∧
        ¬(yamuxFeed (greetedBy (synFlag + rstFlag) 2).world.mux
          (greetedBy (synFlag + rstFlag) 2).inFlight).2.2.Overrun := by
  have within (mux : Mux) (small : mux.discardedBytes + mux.waiting.2 ≤ discardLimit) :
      ¬mux.Overrun := fun overrun =>
    absurd overrun.excess (Nat.not_lt.mpr small)
  refine ⟨⟨?_, by decide +kernel, within _ (by decide +kernel)⟩,
    ⟨?_, by decide +kernel, within _ (by decide +kernel)⟩,
    ?_, by decide +kernel, within _ (by decide +kernel)⟩
  · exact .send _ (greeted_connected Obeys) (.first (by decide) (by decide) (by decide) (by decide)
        (fun _ => ⟨rfl, greeted_received⟩) (by decide))
  · exact .send _ (greeted_connected Obeys) (.first (by decide) (by decide) (by decide) (by decide)
        (by decide) (by decide))
  · exact .send _ (greeted_connected Obeys) (.first (by decide) (by decide) (by decide) (by decide)
        (by decide) (by decide))

/--
With a peer that obeys the rules and keeps its flags apart, the mux reports
a protocol error for its input only when the payload that it has to drop for
streams that are reset, released or refused would exceed the limit.
-/
theorem no_false_protocolError (system : System)
    (connected : Connected ObeysStrictly system) (count : Nat) :
    (yamuxFeed system.world.mux (system.inFlight.take count)).1 ≠ .protocolError ∨
      (yamuxFeed system.world.mux (system.inFlight.take count)).2.2.Overrun := by
  by_cases wrong : (yamuxFeed system.world.mux (system.inFlight.take count)).1 = .protocolError
  · have stored := (yamuxFeed_told system.world.mux (system.inFlight.take count)).resolve_left (by
        rintro ⟨_, fine | fine⟩ <;> cases wrong.symm.trans fine)
    exact Or.inr ((Safe.of_connected (connected.arrive count)).overrun (stored.trans wrong))
  · exact Or.inl wrong

theorem no_false_protocolError_acknowledged : (yamuxFeed (greetedBy ackFlag 1).world.mux
        ((greetedBy ackFlag 1).inFlight.take 12)).1 ≠ .protocolError ∨
      (yamuxFeed (greetedBy ackFlag 1).world.mux
        ((greetedBy ackFlag 1).inFlight.take 12)).2.2.Overrun := by
  refine no_false_protocolError (greetedBy ackFlag 1) ?_ 12
  refine .send _ (greeted_connected ObeysStrictly) ⟨?_, fun _ => ?_⟩
  · exact .first (by decide) (by decide) (by decide) (by decide)
      (fun _ => ⟨rfl, greeted_received⟩) (by decide)
  · exact ⟨by decide, by decide, by decide⟩

end EspFrp.Yamux

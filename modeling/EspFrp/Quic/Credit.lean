import EspFrp.Quic.Transport

/-!
# The credit of a QUIC connection

The bytes that ngtcp2 delivered are returned as connection credit when they
are read.  A reset discards unread bytes without returning their credit, so
that the books balance in the runs without such a reset.  The limit of remote
streams is the one of the handshake for as long as the connection lives.
-/

namespace EspFrp.Quic.Transport

/-! ## What an event does -/

/-- The unread bytes of a slot. -/
def load (stream : Option Stream) : Nat := stream.elim 0 fun stream => stream.receive.used

/-- The unread bytes of all streams. -/
def unread (quic : Transport) : Nat := ∑ slot, load (quic.streams slot)

/-- The part of the connection window that ngtcp2 may use. -/
def window (quic : Transport) : Nat := streamSlots * rxBytes + quic.returned - quic.delivered

/-- The unread bytes that an event discards. -/
def discarded (quic : Transport) : Event → Nat
  | .resetStream id => (quic.findStream id).elim 0 fun found => found.2.receive.used
  | .closeStream id rxCode txCode =>
    (quic.findStream id).elim 0 fun found =>
      if (rxCode.isSome ∨ txCode.isSome) ∧ !completedSendStop found.2 rxCode txCode then
        found.2.receive.used
      else
        0
  | .reset id native =>
    (quic.findStream id).elim 0 fun found =>
      if quic.ready = .ok ∧ !found.2.reset ∧ native = .ok then
        found.2.receive.used
      else
        0
  | _ => 0

/-- A stream that was reset has no unread bytes. -/
def Emptied (stream : Stream) : Prop := stream.reset = true → stream.receive.used = 0

/-- The peer opens a stream. -/
def announces : Event → Bool
  | .incomingStream _ _ => true
  | _ => false

/-- One slot changes, and the ledgers with it. -/
inductive Effect (quic : Transport) (lost : Nat) : Transport → Prop where
  | ended {next : Transport} (error : next.result ≠ .ok) (limit : next.maxStreams = quic.maxStreams)
      (count : next.opened = quic.opened) : Effect quic lost next
  | kept (isOpen : Bool) (lossless : lost = 0) : Effect quic lost { quic with isOpen := isOpen }
  | wrote (slot : Fin streamSlots) (new : Option Stream) (given taken : Nat)
      (change : (∀ old ∈ quic.streams slot, Emptied old) →
        load new + taken + lost = load (quic.streams slot) + given ∧
          ∀ stream ∈ new, Emptied stream) :
      Effect quic lost
        { quic.set slot new with
          delivered := quic.delivered + given
          returned := quic.returned + taken }

variable {slot : Fin streamSlots}

theorem findStream_some {quic : Transport} {id : Nat}
    (found : quic.findStream id = some (slot, stream)) : quic.streams slot = some stream := by
  obtain ⟨_, _, here⟩ := List.exists_of_findSome?_eq_some found
  rw [Option.bind_eq_some_iff] at here
  obtain ⟨_, present, same⟩ := here
  split at same
  · cases same
    exact present
  · cases same

theorem freeSlot_some {quic : Transport}
    (free : quic.freeSlot = some slot) : quic.streams slot = none := by
  have isFree := List.find?_some free
  exact Option.isNone_iff_eq_none.mp isFree

theorem waiting_some {quic : Transport}
    (found : quic.waiting = some (slot, stream)) : quic.streams slot = some stream := by
  have chosen : ∀ (slots : List (Fin streamSlots)) selected,
      (∀ slot stream, selected = some (slot, stream) → quic.streams slot = some stream) →
      ∀ slot stream, slots.foldl quic.select selected =
        some (slot, stream) → quic.streams slot = some stream := by
    intro slots
    induction slots with
    | nil => exact fun _ known => known
    | cons _ _ ih =>
      intro selected known
      refine ih _ fun slot stream selects => ?_
      dsimp only [select] at selects
      split at selects
      · exact known slot stream selects
      split at selects
      · cases selects
        assumption
      · exact known slot stream selects
  refine chosen _ none ?_ slot stream found
  intro _ _ impossible
  cases impossible

variable (quic : Transport)
variable (event : Event) (id : Nat)

section

variable {quic : Transport}

/-- The stream of a slot changes. -/
theorem Effect.stream {stream new : Stream} {lost : Nat} (given taken : Nat)
    (present : quic.streams slot = some stream)
    (balance : new.receive.used + taken + lost = stream.receive.used + given)
    (emptied : Emptied stream → Emptied new) :
    Effect quic lost
      { quic.set slot (some new) with
        delivered := quic.delivered + given
        returned := quic.returned + taken } := by
  refine .wrote slot (some new) given taken fun known => ⟨?_, ?_⟩
  · rw [present]
    exact balance
  · rintro _ ⟨⟩
    exact emptied (known stream present)

/-- A slot that keeps its unread bytes. -/
theorem Effect.quiet {stream new : Stream} (present : quic.streams slot = some stream)
    (receive : new.receive = stream.receive) (reset : new.reset = stream.reset) :
    Effect quic 0 (quic.set slot (some new)) := by
  refine Effect.stream 0 0 present ?_ ?_
  · rw [receive]
  · rw [Emptied, Emptied, receive, reset]
    exact id

/-- A new stream enters a free slot. -/
theorem Effect.fresh {new : Stream} (free : quic.streams slot = none)
    (empty : new.receive.used = 0) : Effect quic 0 (quic.set slot (some new)) := by
  refine .wrote slot (some new) 0 0 fun _ => ⟨?_, ?_⟩
  · rw [free]
    exact empty
  · rintro _ ⟨⟩
    exact fun _ => empty

end

theorem Effect.same {quic : Transport} : Effect quic 0 quic := .kept quic.isOpen rfl

theorem fail_effect (lost : Nat) (reason : Result) (error : reason ≠ .ok) :
    Effect quic lost (quic.fail reason) := .ended error rfl rfl

/-- A stream is discarded. -/
theorem Effect.discards {quic : Transport} {stream new : Stream}
    (present : quic.streams slot = some stream) (empty : new.receive.used = 0) :
    Effect quic stream.receive.used (quic.set slot (some new)) := by
  refine .wrote slot (some new) 0 0 fun _ => ⟨?_, ?_⟩
  · rw [present, load, load, Option.elim, Option.elim, empty]
    omega
  · rintro _ ⟨⟩
    exact fun _ => empty

theorem incomingStream_effect (id : Int) (allocated : Bool) :
    Effect { quic with opened := (quic.incomingStream id allocated).opened }
      0 (quic.incomingStream id allocated) := by
  dsimp only [incomingStream]
  split
  · exact fail_effect _ 0 _ (by decide)
  split
  · exact fail_effect _ 0 _ (by decide)
  next slot free =>
  split
  · exact .fresh (freeSlot_some free) rfl
  · exact fail_effect _ 0 _ (by decide)

theorem receiveStream_effect (id offset : Nat) (bytes : List UInt8) (fin : Bool) :
    Effect quic 0 (quic.receiveStream id offset bytes fin) := by
  dsimp only [receiveStream]
  split
  · exact fail_effect quic 0 _ (by decide)
  next slot stream found =>
  split
  · exact fail_effect quic 0 _ (by decide)
  next accepted =>
  refine Effect.stream bytes.length 0 (findStream_some found) ?_ ?_
  · change stream.receive.used + (bytes.take _).length + 0 + 0 = _
    rw [List.take_of_length_le (show bytes.length ≤ stream.receive.available from by
        change bytes.length ≤ rxBytes - stream.receive.used
        omega)]
    rfl
  · intro _ reset
    exact absurd (.inl reset) accepted

theorem acknowledgeStream_effect (id offset count : Nat) :
    Effect quic 0 (quic.acknowledgeStream id offset count) := by
  dsimp only [acknowledgeStream]
  split
  · exact fail_effect quic 0 _ (by decide)
  next found =>
  split
  · exact fail_effect quic 0 _ (by decide)
  · exact .quiet (findStream_some found) rfl rfl

theorem resetStream_effect :
    Effect quic (quic.discarded (.resetStream id)) (quic.resetStream id) := by
  dsimp only [resetStream, discarded]
  rcases found : quic.findStream id with _ | ⟨slot, stream⟩
  · exact fail_effect quic _ _ (by decide)
  · exact .discards (findStream_some found) rfl

theorem closeStream_effect (rxCode txCode : Option Nat) :
    Effect quic (quic.discarded (.closeStream id rxCode txCode))
      (quic.closeStream id rxCode txCode) := by
  dsimp only [closeStream, discarded]
  rcases found : quic.findStream id with _ | ⟨slot, stream⟩
  · exact fail_effect quic _ _ (by decide)
  dsimp only [Option.elim]
  split
  · exact .discards (findStream_some found) rfl
  · exact .quiet (findStream_some found) rfl rfl

theorem packetWritten_effect (id count : Nat) : Effect quic 0 (quic.packetWritten id count) := by
  dsimp only [packetWritten]
  split
  · exact .same
  next found =>
  split
  · exact .same
  split
  · exact fail_effect quic 0 _ (by decide)
  · exact .quiet (findStream_some found) rfl rfl

theorem openStream_effect (native : Except Result Nat) (allocated : Bool) :
    Effect quic 0 (quic.openStream native allocated).2.2 := by
  dsimp only [openStream]
  iterate 2
    split
    · exact .same
  split
  · exact .same
  next free =>
  iterate 2
    split
    · exact .same
  exact .fresh (freeSlot_some free) rfl

theorem acceptStream_effect : Effect quic 0 quic.acceptStream.2.2 := by
  dsimp only [acceptStream]
  iterate 2
    split
    · exact .same
  split
  · exact .same
  · next found => exact .quiet (waiting_some found) rfl rfl

theorem writeStream_effect (bytes : List UInt8) :
    Effect quic 0 (quic.writeStream id bytes).2.2 := by
  dsimp only [writeStream]
  split
  · exact .same
  split
  · exact .same
  next found =>
  iterate 3
    split
    · exact .same
  exact .quiet (findStream_some found) rfl rfl

theorem readStream_effect (id capacity : Nat) (extended : Bool) :
    Effect quic 0 (quic.readStream id capacity extended).2.2 := by
  dsimp only [readStream]
  split
  · exact .same
  split
  · exact .same
  next slot stream found =>
  split
  · exact .same
  next intact =>
  split
  · exact .same
  split
  · exact fail_effect quic 0 _ (by decide)
  refine Effect.stream 0 _ (findStream_some found) ?_ ?_
  · change stream.receive.used - min capacity stream.receive.used + _ + 0 = stream.receive.used + 0
    have within := Nat.min_le_right capacity stream.receive.used
    omega
  · exact fun _ reset => absurd reset intact

theorem closeWrite_effect : Effect quic 0 (quic.closeWrite id).2 := by
  dsimp only [closeWrite]
  split
  · exact .same
  split
  · exact .same
  next found =>
  split
  · exact .same
  · exact .quiet (findStream_some found) rfl rfl

theorem reset_effect (native : Result) :
    Effect quic (quic.discarded (.reset id native)) (quic.reset id native).2 := by
  dsimp only [reset, discarded]
  rcases found : quic.findStream id with _ | ⟨slot, stream⟩
  · split <;> exact .same
  dsimp only [Option.elim]
  by_cases resets : quic.ready = .ok ∧ !stream.reset ∧ native = .ok
  · rw [if_pos resets, if_neg (not_not.mpr resets.1), if_neg (by simpa using resets.2.1),
      if_neg (not_not.mpr resets.2.2)]
    exact .discards (findStream_some found) rfl
  rw [if_neg resets]
  split
  · exact .same
  next ready =>
  split
  · exact .same
  next intact =>
  split
  · exact .same
  next native =>
  exact absurd ⟨not_ne_iff.mp ready, by simpa using intact, not_ne_iff.mp native⟩ resets

theorem release_effect : Effect quic 0 (quic.release id).2 := by
  dsimp only [release]
  split
  · exact .same
  split
  · exact .same
  next slot stream found =>
  split
  · exact .same
  next done =>
  split
  · exact .same
  refine .wrote slot none 0 0 fun known => ⟨?_, by simp⟩
  have present := findStream_some found
  have emptied : stream.receive.used = 0 := by
    by_cases reset : stream.reset = true
    · exact known stream present reset
    simp only [reset] at done
    simp at done
    exact done.2.2
  rw [present]
  exact emptied.symm

theorem after_effect (quiet : announces event = false) :
    Effect quic (quic.discarded event) (quic.after event) := by
  cases event with
  | handshakeCompleted =>
    dsimp only [after, handshakeCompleted]
    split
    · exact .kept true rfl
    · exact fail_effect quic _ _ (by decide)
  | incomingStream => cases quiet
  | receiveStream id offset bytes fin => exact receiveStream_effect quic id offset bytes fin
  | acknowledgeStream id offset count => exact acknowledgeStream_effect quic id offset count
  | resetStream id => exact resetStream_effect quic id
  | closeStream id rxCode txCode => exact closeStream_effect quic id rxCode txCode
  | receiveStopSending =>
    dsimp only [after, receiveStopSending]
    split
    · exact fail_effect quic _ _ (by decide)
    · next found => exact .quiet (findStream_some found) rfl rfl
  | packetWritten id count => exact packetWritten_effect quic id count
  | failed =>
    dsimp only [after]
    split
    · exact .same
    · next error => exact fail_effect quic _ _ error
  | openStream native allocated => exact openStream_effect quic native allocated
  | acceptStream => exact acceptStream_effect quic
  | writeStream id bytes => exact writeStream_effect quic id bytes
  | readStream id capacity extended => exact readStream_effect quic id capacity extended
  | closeWrite id => exact closeWrite_effect quic id
  | reset id native => exact reset_effect quic id native
  | release id => exact release_effect quic id
  | cancel => exact fail_effect quic _ _ (by decide)

/-! ## Runs -/

/-- A condition on every event of a run. -/
def Along (condition : Transport → Event → Prop) : Transport → List Event → Prop
  | _, [] => True
  | quic, event :: rest =>
    quic.result = .ok → condition quic event ∧ Along condition (quic.after event) rest

/-- What every event of a run keeps holds after it. -/
theorem run_keeps (Holds : Transport → Prop)
    (step : ∀ quic event, quic.result = .ok → condition quic event →
      Holds quic → Holds (quic.after event))
    (events : List Event) (quic : Transport)
    (along : Along condition quic events) (holds : Holds quic) :
    Holds (quic.run events) := by
  induction events generalizing quic with
  | nil => exact holds
  | cons event _ ih =>
    rw [run]
    split
    · exact holds
    · next alive =>
      have alive := not_ne_iff.mp alive
      exact ih (quic.after event) (along alive).2 (step quic event alive (along alive).1 holds)

/-! ## Connection credit -/

/-- Delivered bytes are returned or unread. -/
structure Balanced (quic : Transport) : Prop where
  credit : quic.delivered = quic.returned + quic.unread
  restored : (∀ slot, quic.streams slot = none) → quic.window = streamSlots * rxBytes

/-- What carries the balance through a run. -/
structure Accounted (quic : Transport) : Prop where
  credit : quic.delivered = quic.returned + quic.unread
  emptied : ∀ slot, ∀ stream ∈ quic.streams slot, Emptied stream

theorem unread_set (slot : Fin streamSlots) (new : Option Stream) :
    (quic.set slot new).unread + load (quic.streams slot) = quic.unread + load new := by
  have split := fun streams : Fin streamSlots → Option Stream =>
    Finset.add_sum_erase Finset.univ (fun other => load (streams other)) (Finset.mem_univ slot)
  have others : ∑ other ∈ Finset.univ.erase slot, load ((quic.set slot new).streams other) =
      ∑ other ∈ Finset.univ.erase slot, load (quic.streams other) := by
    refine Finset.sum_congr rfl fun other member => ?_
    dsimp only [set]
    rw [Function.update_of_ne (Finset.ne_of_mem_erase member)]
  have own : (quic.set slot new).streams slot = new := by
    dsimp only [set]
    rw [Function.update_self]
  rw [unread, unread, ← split, ← split quic.streams, others, own]
  omega

variable {quic next : Transport}

theorem Effect.accounted (effect : Effect quic 0 next)
    (accounted : Accounted quic) (alive : next.result = .ok) : Accounted next := by
  cases effect with
  | ended error => exact absurd alive error
  | kept => exact ⟨accounted.credit, accounted.emptied⟩
  | wrote slot new given taken change =>
    obtain ⟨_, emptied⟩ := change (accounted.emptied slot)
    have moved := quic.unread_set slot new
    have credit := accounted.credit
    refine ⟨?_, fun other stream member => ?_⟩
    · change quic.delivered + given = quic.returned + taken + (quic.set slot new).unread
      omega
    · change stream ∈ Function.update quic.streams slot new other at member
      by_cases same : other = slot
      · subst same
        rw [Function.update_self] at member
        exact emptied stream member
      rw [Function.update_of_ne same] at member
      exact accounted.emptied other stream member

theorem after_accounted (alive : quic.result = .ok) (spares : quic.discarded event = 0)
    (accounted : quic.result = .ok → Accounted quic) (still : (quic.after event).result = .ok) :
    Accounted (quic.after event) := by
  have before := accounted alive
  cases quiet : announces event with
  | true =>
    cases event with
    | incomingStream id allocated =>
      exact (incomingStream_effect quic id allocated).accounted
        ⟨before.credit, before.emptied⟩ still
    | _ => cases quiet
  | false =>
    have effect := quic.after_effect event quiet
    rw [spares] at effect
    exact effect.accounted before still

theorem Accounted.balanced {quic : Transport} (accounted : Accounted quic) : Balanced quic := by
  refine ⟨accounted.credit, fun free => ?_⟩
  have unread : quic.unread = 0 := Finset.sum_eq_zero fun slot _ => by rw [free slot]; rfl
  have credit := accounted.credit
  rw [window]
  omega

/-- The credit of a connection is conserved in the runs in which no reset and
no abortive close discards unread bytes. -/
theorem connectionCredit_balanced (peer server : Bool) (events : List Event)
    (spares : Along (fun quic event => quic.discarded event = 0) (create peer server) events)
    (healthy : ((create peer server).run events).result = .ok) :
    Balanced ((create peer server).run events) := by
  have fresh : Accounted (create peer server) := ⟨by simp [unread, create, load], by simp [create]⟩
  have accounted := run_keeps (fun quic => quic.result = .ok → Accounted quic)
    (fun quic event alive spares accounted => quic.after_accounted event alive spares accounted)
    events (create peer server) spares (fun _ => fresh)
  exact (accounted healthy).balanced

/-- A stream is opened, read to its end, finished and released. -/
def readThrough : List Event :=
  [.handshakeCompleted true, .openStream (.ok 0) true,
    .receiveStream 0 0 [7] true, .readStream 0 1 true, .closeWrite 0,
    .closeStream 0 none none, .release 0]

theorem connectionCredit_balanced_readThrough :
    Balanced ((create false false).run readThrough) := by
  refine connectionCredit_balanced false false readThrough ?_ (by decide +kernel)
  repeat' first
    | exact trivial
    | (intro _; refine ⟨by decide +kernel, ?_⟩)

/-- A stream is opened, reset by the peer with one byte unread, and
released. -/
def resetUnread : List Event :=
  [.handshakeCompleted true, .openStream (.ok 0) true, .receiveStream 0 0 [7] false, .resetStream 0,
    .closeStream 0 (some 1) none, .release 0]

/-- The byte that a reset discards is never returned as credit. -/
theorem reset_loses_credit : ((create false false).run resetUnread).result = .ok ∧
      ¬Balanced ((create false false).run resetUnread) := by
  refine ⟨by decide +kernel, fun balanced => ?_⟩
  have credit := balanced.credit
  revert credit
  decide +kernel

/-! ## Stream credit -/

/-- A free slot means that the visitor may open another stream. -/
def Permits (quic : Transport) : Prop :=
  (∃ slot, quic.streams slot = none) → quic.opened < quic.maxStreams

instance : DecidablePred Permits := fun quic =>
  inferInstanceAs (Decidable (_ → quic.opened < quic.maxStreams))

theorem Effect.limits {lost : Nat} (effect : Effect quic lost next) :
    next.maxStreams = quic.maxStreams ∧ next.opened = quic.opened := by
  cases effect with
  | ended _ limit count => exact ⟨limit, count⟩
  | kept | wrote => exact ⟨rfl, rfl⟩

/-- No event raises the limit of the streams that a peer may open. -/
theorem after_limits : (quic.after event).maxStreams = quic.maxStreams ∧
      ((quic.after event).opened = quic.opened ∨ announces event = true ∧
          (quic.after event).opened = quic.opened + 1) := by
  cases quiet : announces event with
  | true =>
    cases event with
    | incomingStream id allocated =>
      refine ⟨(incomingStream_effect quic id allocated).limits.1, ?_⟩
      dsimp only [after, incomingStream]
      split
      · exact .inl rfl
      split
      · exact .inl rfl
      split
      · exact .inr ⟨rfl, rfl⟩
      · exact .inl rfl
    | _ => cases quiet
  | false =>
    have limits := (quic.after_effect event quiet).limits
    exact ⟨limits.1, .inl limits.2⟩

/-- A provider permits another stream as long as at most three were opened,
whatever else happens on the connection. -/
theorem streams_permitted (events : List Event)
    (few : Along (fun quic event => announces event = true →
      quic.opened < streamSlots - 1) (create true true) events) :
    Permits ((create true true).run events) := by
  have limited := run_keeps (fun quic => quic.maxStreams = streamSlots ∧ quic.opened < streamSlots)
    (fun quic event _ few limited => by
      obtain ⟨limit, opened⟩ := quic.after_limits event
      refine ⟨limit.trans limited.1, ?_⟩
      rcases opened with same | ⟨announced, more⟩
      · rw [same]
        exact limited.2
      have before := few announced
      omega)
    events (create true true) few ⟨rfl, by decide⟩
  rw [Permits, limited.1]
  exact fun _ => limited.2

/-- A visitor stream that both sides complete. -/
def completed (id : Nat) : List Event :=
  [.incomingStream id true, .acceptStream, .receiveStream id 0 [] true,
    .closeWrite id, .closeStream id none none, .release id]

theorem streams_permitted_one : Permits ((create true true).run
      (.handshakeCompleted true :: completed 0)) := by
  refine streams_permitted _ ?_
  repeat' first
    | exact trivial
    | (intro _; refine ⟨by decide +kernel, ?_⟩)

/-- After the stream of the proof and three business streams, all complete
and released, the provider permits no further stream. -/
theorem fifth_stream_blocked : ((create true true).run
      (.handshakeCompleted true :: [0, 4, 8, 12].flatMap completed)).ready = .ok ∧
      ¬Permits ((create true true).run (.handshakeCompleted true ::
          [0, 4, 8, 12].flatMap completed)) := by
  decide +kernel

end EspFrp.Quic.Transport

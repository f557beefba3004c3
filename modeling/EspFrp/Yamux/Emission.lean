import EspFrp.Yamux.Delivery

/-!
# The output as frames

Three producers share the one output slot: the queue of control frames, the
automatic credit grants and the application data.  This module follows their
frames.  The log of a run is what has been handed over completely, then the
frame in the output slot, then the queued control frames; `Wired` says that
its bytes are the bytes handed over and the bytes still to come.  A call
appends at most one frame to the log and never changes an earlier one.
-/

namespace EspFrp.Yamux

open Library

/-! ## The log -/

/-- A frame that is a header only. -/
def Header.frame (header : Header) : Frame := ⟨header, []⟩

/-- The control frames in the queue. -/
def Mux.queued (mux : Mux) : List Frame := mux.controls.contents.map Header.frame

/-- The bytes that are staged or queued but not handed over. -/
def Mux.unsent (mux : Mux) : List UInt8 :=
  mux.output.drop mux.outputOffset ++ encodeFrames mux.queued

/-- All frames the mux has produced, in order. -/
def History.log (history : History) (mux : Mux) : List Frame :=
  history.sent ++ (history.staged ++ mux.queued)

/-- A frame that the wire format defines. -/
structure Frame.WellFormed (frame : Frame) : Prop where
  range : frame.header.InRange
  complete : frame.Complete
  version : frame.header.version = 0
  type : Kind.ofCode? frame.header.type ≠ none
  flags : frame.header.flags ≤ 15
  session : frame.header.id = 0 ↔
    frame.header.type = Kind.ping.code ∨ frame.header.type = Kind.goaway.code

variable {header : Header} {mux next : Mux} {id : Nat} {flags value : Nat}

theorem Header.make_wellFormed (flagsRange : flags ≤ 15) (idRange : id < word32)
    (valueRange : value < word32) (session : id = 0 ↔ kind = .ping ∨ kind = .goaway)
    (length : payload.length = if kind = .data then value else 0) :
    Frame.WellFormed ⟨Header.make kind flags id value, payload⟩ where
  range := by
    refine ⟨Nat.zero_lt_succ 255, ?_, ?_, idRange, valueRange⟩
    · change kind.code < 256
      cases kind <;> decide
    · exact Nat.lt_of_le_of_lt flagsRange (by decide)
  complete := by
    change payload.length =
      if kind.code = Kind.data.code then value else 0
    rw [length]
    cases kind <;> rfl
  version := rfl
  type := by cases kind <;> exact nofun
  flags := flagsRange
  session := by
    change id = 0 ↔ kind.code = Kind.ping.code ∨ kind.code = Kind.goaway.code
    rw [session]
    cases kind <;> decide

/-- The log is what the bytes of the output side encode. -/
structure Wired (mux : Mux) (handed : List UInt8) (sent staged : List Frame) : Prop where
  handed : handed = encodeFrames sent ++ mux.output.take mux.outputOffset
  output : mux.output = encodeFrames staged
  offset : (mux.output = [] ∧ mux.outputOffset = 0) ∨ mux.outputOffset < mux.output.length
  single : staged.length ≤ 1
  wellFormed : ∀ frame ∈ sent ++ (staged ++ mux.queued), frame.WellFormed

/--
What a transition does to the output slot and the control queue: the bytes
it hands over and the frames it adds to the log.
-/
inductive Emission (mux : Mux) : List UInt8 → Mux → List Frame → Prop where
  | none {next : Mux} (output : next.output = mux.output)
      (offset : next.outputOffset = mux.outputOffset)
      (controls : next.controls = mux.controls) :
      Emission mux [] next []
  | queue {next : Mux} (header : Header) (room : mux.controls.used < controlSlots)
      (output : next.output = mux.output)
      (offset : next.outputOffset = mux.outputOffset)
      (controls : next.controls = mux.controls.write [header]) :
      Emission mux [] next [header.frame]
  | stageControl {next : Mux} (header : Header) (rest : List Header) (free : mux.output = [])
      (queued : mux.controls.contents = header :: rest)
      (output : next.output = header.encode)
      (offset : next.outputOffset = mux.outputOffset)
      (controls : next.controls = mux.controls.drop 1) :
      Emission mux [] next []
  | stage {next : Mux} (frame : Frame) (free : mux.output = []) (quiet : mux.controls.contents = [])
      (output : next.output = frame.encode)
      (offset : next.outputOffset = mux.outputOffset)
      (controls : next.controls = mux.controls) :
      Emission mux [] next [frame]
  | hand {next : Mux} (count : Nat) (positive : 0 < count)
      (within : mux.outputOffset + count < mux.output.length)
      (output : next.output = mux.output)
      (offset : next.outputOffset = mux.outputOffset + count)
      (controls : next.controls = mux.controls) :
      Emission mux (mux.nextOutput count) next []
  | handLast {next : Mux} (count : Nat) (positive : 0 < count)
      (last : mux.outputOffset + count = mux.output.length)
      (output : next.output = [])
      (offset : next.outputOffset = 0)
      (controls : next.controls = mux.controls) :
      Emission mux (mux.nextOutput count) next []

theorem Frame.encode_ne_nil (frame : Frame) : frame.encode ≠ [] := by
  intro empty
  exact Header.encode_ne_nil _ (List.append_eq_nil_iff.mp empty).1

theorem encodeFrames_eq_nil_iff : encodeFrames frames = [] ↔ frames = [] := by
  unfold encodeFrames
  rw [List.flatMap_eq_nil_iff]
  constructor
  · intro empty
    cases frames with
    | nil => rfl
    | cons frame => exact absurd (empty frame List.mem_cons_self) frame.encode_ne_nil
  · rintro rfl frame member
    cases member

theorem framesOf_encode (wellFormed : frame.WellFormed) : framesOf frame.encode = [frame] := by
  have decoded := framesOf_encode_append [] wellFormed.range wellFormed.complete
  have nothing : framesOf [] = [] := framesOf_short (by decide)
  rw [List.append_nil, nothing] at decoded
  exact decoded

theorem Mux.queued_congr (controls : next.controls = mux.controls) : next.queued = mux.queued :=
  congrArg (fun ring => ring.contents.map Header.frame) controls

theorem Mux.queued_write (room : mux.controls.used < controlSlots)
    (controls : next.controls = mux.controls.write [header]) :
    next.queued = mux.queued ++ [header.frame] := by
  have available : 1 ≤ mux.controls.available := by
    unfold Ring.available
    omega
  unfold Mux.queued
  rw [controls, Ring.contents_write, List.take_of_length_le available, List.map_append]
  rfl

namespace Wired

variable {handed bytes : List UInt8} {history : History}

theorem staged_eq_nil_iff (wired : Wired mux handed history.sent history.staged) :
    mux.output = [] ↔ history.staged = [] := by
  rw [wired.output, encodeFrames_eq_nil_iff]

theorem offset_zero (wired : Wired mux handed history.sent history.staged)
    (free : mux.output = []) : mux.outputOffset = 0 := by
  have offset := wired.offset
  rw [free] at offset
  exact (offset.resolve_right nofun).2

/-- A transition that leaves the slot alone. -/
theorem called_same (wired : Wired mux handed history.sent history.staged)
    (output : next.output = mux.output) : history.called mux next = history := by
  have slot := wired.staged_eq_nil_iff
  unfold History.called
  rw [output]
  by_cases free : mux.output = []
  · rw [if_neg fun both => both.1 free, if_pos free, ← slot.mp free]
  · rw [if_neg fun both => free both.2, if_neg free, if_neg free]

/-- A transition that puts a frame into the free slot. -/
theorem called_stage (free : mux.output = []) (output : next.output = frame.encode)
    (wellFormed : frame.WellFormed) :
    history.called mux next = { history with staged := [frame] } := by
  unfold History.called
  rw [if_neg fun both => both.1 free, output,
    if_neg frame.encode_ne_nil, if_pos free, framesOf_encode wellFormed]

/-- A transition that empties the slot. -/
theorem called_clear (busy : mux.output ≠ []) (output : next.output = []) :
    history.called mux next =
      { history with
        sent := history.sent ++ history.staged
        staged := [] } := by
  unfold History.called
  rw [if_pos ⟨busy, output⟩, if_pos output]

/-- Every transition keeps the bytes and the frames together. -/
theorem emission (wired : Wired mux handed history.sent history.staged)
    (emission : Emission mux bytes next new) (wellFormed : ∀ frame ∈ new, frame.WellFormed) :
    Wired next (handed ++ bytes) (history.called mux next).sent (history.called mux next).staged ∧
      (history.called mux next).log next = history.log mux ++ new := by
  have offset := wired.offset
  have valid := wired.wellFormed
  have slot := wired.staged_eq_nil_iff
  unfold History.log
  cases emission with
  | none output offsetEq controls =>
    have queued := Mux.queued_congr controls
    rw [wired.called_same output, queued, List.append_nil, List.append_nil]
    refine ⟨⟨?_, ?_, ?_, wired.single, ?_⟩, rfl⟩
    · rw [output, offsetEq]
      exact wired.handed
    · rw [output]
      exact wired.output
    · rw [output, offsetEq]
      exact offset
    · rw [queued]
      exact valid
  | queue _ room output offsetEq controls =>
    have queued := Mux.queued_write room controls
    rw [wired.called_same output, queued, List.append_nil]
    refine ⟨⟨?_, ?_, ?_, wired.single, ?_⟩, by simp⟩
    · rw [output, offsetEq]
      exact wired.handed
    · rw [output]
      exact wired.output
    · rw [output, offsetEq]
      exact offset
    · intro frame member
      rw [queued, ← List.append_assoc, ← List.append_assoc,
        List.mem_append, List.append_assoc] at member
      rcases member with old | added
      · exact valid frame old
      · exact wellFormed frame added
  | stageControl header rest free queued output offsetEq controls =>
    have empty := slot.mp free
    have before : mux.queued = header.frame :: rest.map Header.frame := by
      unfold Mux.queued
      rw [queued]
      rfl
    have after : next.queued = rest.map Header.frame := by
      unfold Mux.queued
      rw [controls, Ring.contents_drop, queued]
      rfl
    have encoded : header.frame.encode = header.encode := List.append_nil _
    have framed : header.frame.WellFormed := by
      refine valid _ (List.mem_append_right _ (List.mem_append_right _ ?_))
      rw [before]
      exact List.mem_cons_self
    rw [called_stage free (output.trans encoded.symm) framed, after,
      before, empty, List.append_nil, List.append_nil]
    have zero := wired.offset_zero free
    refine ⟨⟨?_, ?_, ?_, Nat.le_refl 1, ?_⟩, rfl⟩
    · rw [offsetEq, zero, List.take_zero, wired.handed, zero, List.take_zero]
    · rw [output, encodeFrames_singleton, encoded]
    · rw [offsetEq, zero, output]
      exact Or.inr (List.length_pos_iff.mpr header.encode_ne_nil)
    · rw [after]
      rw [before, empty] at valid
      exact valid
  | stage frame free quiet output offsetEq controls =>
    have empty := slot.mp free
    have framed := wellFormed frame (List.mem_singleton_self _)
    have before : mux.queued = [] := by
      unfold Mux.queued
      rw [quiet]
      rfl
    have after := (Mux.queued_congr controls).trans before
    rw [called_stage free output framed, after, before, empty, List.append_nil, List.append_nil]
    have zero := wired.offset_zero free
    refine ⟨⟨?_, ?_, ?_, Nat.le_refl 1, ?_⟩, by simp⟩
    · rw [offsetEq, zero, List.take_zero, wired.handed, zero, List.take_zero]
    · rw [output, encodeFrames_singleton]
    · rw [offsetEq, zero, output]
      exact Or.inr (List.length_pos_iff.mpr frame.encode_ne_nil)
    · rw [after, List.append_nil]
      intro other member
      rcases List.mem_append.mp member with old | added
      · exact valid other (List.mem_append_left _ old)
      · exact wellFormed other added
  | hand _ _ within output offsetEq controls =>
    have queued := Mux.queued_congr controls
    rw [wired.called_same output, queued, List.append_nil]
    refine ⟨⟨?_, ?_, ?_, wired.single, ?_⟩, rfl⟩
    · rw [output, offsetEq, wired.handed, List.take_add, List.append_assoc]
      rfl
    · rw [output]
      exact wired.output
    · rw [output, offsetEq]
      exact Or.inr within
    · rw [queued]
      exact valid
  | handLast count _ last output offsetEq controls =>
    have busy : mux.output ≠ [] := by
      intro free
      rw [free] at last
      simp at last
      omega
    have queued := Mux.queued_congr controls
    rw [called_clear busy output, queued, List.append_nil]
    refine ⟨⟨?_, ?_, ?_, Nat.zero_le 1, ?_⟩, by simp⟩
    · have whole : mux.output.take mux.outputOffset ++ mux.nextOutput count =
            mux.output := by
        unfold Mux.nextOutput
        rw [← List.take_add, last, List.take_length]
      rw [output, wired.handed, List.append_assoc, whole, wired.output]
      simp
    · rw [output]
      rfl
    · exact Or.inl ⟨output, offsetEq⟩
    · rw [queued, List.nil_append, List.append_assoc]
      exact valid

end Wired

/-! ## Client streams -/

/-- The bytes that a label hands over. -/
def Label.handedBytes : Label → List UInt8
  | .handed bytes => bytes
  | _ => []

/-- The bytes that a label accepts for a stream. -/
def Label.writtenTo (label : Label) (id : Nat) : List UInt8 :=
  match label with
  | .wrote other bytes => if other = id then bytes else []
  | _ => []

theorem World.record_handed (world : World) (label : Label) (mux : Mux) :
    (world.record label mux).handed = world.handed ++ label.handedBytes := by
  cases label <;> simp [World.record, Label.handedBytes]

theorem World.record_written (world : World) (label : Label) (mux : Mux) (id : Nat) :
    (world.record label mux).written id = world.written id ++ label.writtenTo id := by
  cases label with
  | wrote other =>
    by_cases same : id = other
    · subst same
      simp [World.record, Label.writtenTo]
    · simp [World.record, Label.writtenTo, same, Ne.symm same]
  | _ => simp [World.record, Label.writtenTo]

/-- What the frames of one client stream have to obey. -/
structure ClientLegal (id : Nat) (frames : List Frame) (written : List UInt8) : Prop where
  first : ∀ frame, frames.head? = some frame → frame = (Header.make .window synFlag id 0).frame
  payload : payloadFor id frames = written
  fin : frames.Pairwise fun earlier later =>
    earlier.header.fin = true → later.header.fin = false ∧ later.header.type ≠ Kind.data.code
  rst : frames.Pairwise fun earlier _ => earlier.header.rst = false

theorem ClientLegal.nil (id : Nat) : ClientLegal id [] [] := ⟨nofun, rfl, .nil, .nil⟩

theorem ClientLegal.syn (id : Nat) :
    ClientLegal id [(Header.make .window synFlag id 0).frame] [] where
  first := by
    intro frame first
    cases first
    rfl
  payload := by simp [Header.frame]
  fin := List.pairwise_singleton _ _
  rst := List.pairwise_singleton _ _

/-- A further frame of a stream that has not been reset. -/
theorem ClientLegal.snoc
    (legal : ClientLegal id frames written)
    (begun : frames ≠ [])
    (noRst : ∀ earlier ∈ frames, earlier.header.rst = false)
    (noFin : frame.header.fin = true ∨ frame.header.type = Kind.data.code →
        ∀ earlier ∈ frames, earlier.header.fin = false) :
    ClientLegal id (frames ++ [frame]) (written ++ frame.dataFor id) where
  first := by
    rw [List.head?_append_of_ne_nil _ begun]
    exact legal.first
  payload := by rw [payloadFor_append, payloadFor_singleton, legal.payload]
  fin := by
    rw [List.pairwise_append]
    refine ⟨legal.fin, List.pairwise_singleton _ _, ?_⟩
    intro earlier member later new finished
    rw [List.mem_singleton.mp new]
    have open' : ¬(frame.header.fin = true ∨ frame.header.type = Kind.data.code) := by
      intro further
      rw [noFin further earlier member] at finished
      cases finished
    rcases not_or.mp open' with ⟨noSecond, noData⟩
    exact ⟨Bool.eq_false_of_not_eq_true noSecond, noData⟩
  rst := by
    rw [List.pairwise_append]
    exact ⟨legal.rst, List.pairwise_singleton _ _, fun earlier member _ _ => noRst earlier member⟩

/-- The log and the table agree about the client streams. -/
structure ClientLog (mux : Mux) (log : List Frame) (written : Nat → List UInt8) : Prop where
  unopened : ∀ id, id % 2 = 1 → ¬Opened mux.nextId id → framesFor id log = [] ∧ written id = []
  begun : ∀ id, Opened mux.nextId id → framesFor id log ≠ []
  legal : ∀ id, id % 2 = 1 → ClientLegal id (framesFor id log) (written id)
  unreset : ∀ id stream, mux.stream id = some stream →
    stream.reset = false → ∀ frame ∈ framesFor id log, frame.header.rst = false
  unfinished : ∀ id stream, mux.stream id = some stream →
    stream.reset = false → stream.localFin = false →
      ∀ frame ∈ framesFor id log, frame.header.fin = false

/-- What a transition adds to the log, seen from the client streams. -/
inductive ClientStep (mux : Mux) : Label → Mux → List Frame → Prop where
  | keep {label : Label} {next : Mux} {new : List Frame} (keeps : Keeps Stream.localFin mux next)
      (nextId : next.nextId = mux.nextId)
      (unwritten : ∀ id, label.writtenTo id = [])
      (foreign : ∀ frame ∈ new, frame.header.id % 2 = 0) :
      ClientStep mux label next new
  | opened (free : Stream) (available : mux.nextId ≠ 0)
      (slot : Slots.lookup Stream.id 0 mux.streams = some free) :
      ClientStep mux .silent mux.opening [(Header.make .window synFlag mux.nextId 0).frame]
  | stream {label : Label} {next : Mux} (id : Nat) (stream : Stream) (frame : Frame)
      (found : mux.stream id = some stream)
      (alive : stream.reset = false)
      (frameId : frame.header.id = id)
      (unfinished : frame.header.fin = true ∨
        frame.header.type = Kind.data.code → stream.localFin = false)
      (nextId : next.nextId = mux.nextId)
      (written : ∀ other, label.writtenTo other = frame.dataFor other)
      (others : ∀ other, other ≠ id → next.stream other = mux.stream other)
      (here : ∀ after, next.stream id = some after → after.reset = false →
          frame.header.rst = false ∧ (after.localFin = false →
              frame.header.fin = false ∧ stream.localFin = false)) :
      ClientStep mux label next [frame]

theorem framesFor_foreign (foreign : ∀ frame ∈ frames, frame.header.id ≠ id) :
    framesFor id frames = [] := by
  unfold framesFor
  rw [List.filter_eq_nil_iff]
  intro frame member same
  exact foreign frame member (of_decide_eq_true same)

namespace ClientLog

variable (client : ClientLog mux log written) (table : mux.Table)
include client table

theorem keep (keeps : Keeps Stream.localFin mux next) (nextId : next.nextId = mux.nextId)
    (foreign : ∀ frame ∈ new, frame.header.id % 2 = 0) : ClientLog next (log ++ new) written := by
  have apart (id : Nat) (odd : id % 2 = 1) : framesFor id (log ++ new) = framesFor id log := by
    have none : framesFor id new = [] := by
      refine framesFor_foreign fun frame member same => ?_
      have even := foreign frame member
      omega
    rw [framesFor_append, none, List.append_nil]
  refine ⟨?_, ?_, ?_, ?_, ?_⟩
  · intro id odd fresh
    rw [apart id odd]
    exact client.unopened id odd (nextId ▸ fresh)
  · intro id opened
    rw [apart id opened.odd]
    exact client.begun id (nextId ▸ opened)
  · intro id odd
    rw [apart id odd]
    exact client.legal id odd
  · intro id stream found alive
    rcases keeps id stream found alive with ⟨old, foundOld, aliveOld, _⟩
    rw [apart id (table.opened_of_stream foundOld).odd]
    exact client.unreset id old foundOld aliveOld
  · intro id stream found alive unfinished
    rcases keeps id stream found alive with ⟨old, foundOld, aliveOld, same⟩
    rw [apart id (table.opened_of_stream foundOld).odd]
    exact client.unfinished id old foundOld aliveOld (same.symm.trans unfinished)

theorem opening (available : mux.nextId ≠ 0)
    (slot : Slots.lookup Stream.id 0 mux.streams = some free) :
    ClientLog mux.opening (log ++ [(Header.make .window synFlag mux.nextId 0).frame]) written := by
  have streams := Mux.stream_opening available slot table.fresh
  have unopened := client.unopened mux.nextId (table.next available).1 (fun opened => by
      have past := opened.past
      omega)
  have own : framesFor mux.nextId (log ++ [(Header.make .window synFlag mux.nextId 0).frame]) =
        [(Header.make .window synFlag mux.nextId 0).frame] := by
    rw [framesFor_append, unopened.1, framesFor_singleton]
    exact if_pos rfl
  have apart (id : Nat) (other : id ≠ mux.nextId) :
      framesFor id (log ++ [(Header.make .window synFlag mux.nextId 0).frame]) =
        framesFor id log := by
    have different : (Header.make .window synFlag mux.nextId 0).frame.header.id ≠
          id := other.symm
    rw [framesFor_append, framesFor_singleton, if_neg different, List.append_nil]
  refine ⟨?_, ?_, ?_, ?_, ?_⟩
  · intro id odd fresh
    have other : id ≠ mux.nextId := by
      rintro rfl
      exact fresh (table.next_opening available)
    rw [apart id other]
    exact client.unopened id odd fun opened => fresh (table.opened_opening available opened)
  · intro id opened
    by_cases here : id = mux.nextId
    · rw [here, own]
      exact List.cons_ne_nil _ _
    rw [apart id here]
    exact client.begun id (table.opened_of_opening available opened here)
  · intro id odd
    by_cases here : id = mux.nextId
    · rw [here, own, unopened.2]
      exact ClientLegal.syn mux.nextId
    rw [apart id here]
    exact client.legal id odd
  · intro id stream found alive
    rw [streams] at found
    by_cases here : id = mux.nextId
    · rw [here, own]
      intro frame member
      rw [List.mem_singleton.mp member]
      exact (by decide : synFlag.testBit 3 = false)
    · rw [Function.update_of_ne here] at found
      rw [apart id here]
      exact client.unreset id stream found alive
  · intro id stream found alive unfinished
    rw [streams] at found
    by_cases here : id = mux.nextId
    · rw [here, own]
      intro frame member
      rw [List.mem_singleton.mp member]
      exact (by decide : synFlag.testBit 2 = false)
    · rw [Function.update_of_ne here] at found
      rw [apart id here]
      exact client.unfinished id stream found alive unfinished

/-- One more frame of a live stream. -/
theorem append {stream : Stream} {frame : Frame}
    (found : mux.stream id = some stream) (alive : stream.reset = false)
    (frameId : frame.header.id = id) (unfinished : frame.header.fin = true ∨
      frame.header.type = Kind.data.code → stream.localFin = false)
    (nextId : next.nextId = mux.nextId)
    (others : ∀ other, other ≠ id → next.stream other = mux.stream other)
    (here : ∀ after, next.stream id = some after → after.reset = false → frame.header.rst = false ∧
          (after.localFin = false → frame.header.fin = false ∧ stream.localFin = false)) :
    ClientLog next (log ++ [frame]) (fun other => written other ++ frame.dataFor other) := by
  have opened := table.opened_of_stream found
  have own : framesFor id (log ++ [frame]) = framesFor id log ++ [frame] := by
    rw [framesFor_append, framesFor_singleton, if_pos frameId]
  have apart (other : Nat) (ne : other ≠ id) :
      framesFor other (log ++ [frame]) = framesFor other log := by
    rw [framesFor_append, framesFor_singleton, if_neg (fun same => ne (same.symm.trans frameId)),
      List.append_nil]
  have noData (other : Nat) (ne : other ≠ id) : frame.dataFor other = [] :=
    if_neg fun both => ne (both.2.symm.trans frameId)
  refine ⟨?_, ?_, ?_, ?_, ?_⟩
  · intro other odd fresh
    rw [nextId] at fresh
    have ne : other ≠ id := by
      rintro rfl
      exact fresh opened
    rw [apart other ne, noData other ne, List.append_nil]
    exact client.unopened other odd fresh
  · intro other openedNow
    rw [framesFor_append]
    exact List.append_ne_nil_of_left_ne_nil (client.begun other (nextId ▸ openedNow)) _
  · intro other odd
    by_cases same : other = id
    · subst same
      rw [own]
      refine (client.legal other odd).snoc (client.begun other opened)
        (client.unreset other stream found alive) ?_
      intro further
      exact client.unfinished other stream found alive (unfinished further)
    · rw [apart other same, noData other same, List.append_nil]
      exact client.legal other odd
  · intro other after foundNow aliveNow
    by_cases same : other = id
    · subst same
      rw [own]
      intro member inLog
      rcases List.mem_append.mp inLog with old | added
      · exact client.unreset other stream found alive member old
      rw [List.mem_singleton.mp added]
      exact (here after foundNow aliveNow).1
    · rw [apart other same]
      rw [others other same] at foundNow
      exact client.unreset other after foundNow aliveNow
  · intro other after foundNow aliveNow openNow
    by_cases same : other = id
    · subst same
      rcases (here after foundNow aliveNow).2 openNow with ⟨noFin, openBefore⟩
      rw [own]
      intro member inLog
      rcases List.mem_append.mp inLog with old | added
      · exact client.unfinished other stream found alive openBefore member old
      rw [List.mem_singleton.mp added]
      exact noFin
    · rw [apart other same]
      rw [others other same] at foundNow
      exact client.unfinished other after foundNow aliveNow openNow

/-- Every transition keeps the client streams legal. -/
theorem step (step : ClientStep mux label next new) :
    ClientLog next (log ++ new) (fun id => written id ++ label.writtenTo id) := by
  cases step with
  | keep keeps nextId unwritten foreign =>
    have same : (fun id => written id ++ label.writtenTo id) = written := by
      funext id
      rw [unwritten id, List.append_nil]
    rw [same]
    exact client.keep table keeps nextId foreign
  | opened _ available slot =>
    have same : (fun id => written id ++ Label.silent.writtenTo id) =
          written := by
      funext id
      exact List.append_nil _
    rw [same]
    exact client.opening table available slot
  | stream id stream frame found alive frameId unfinished nextId written' others here =>
    have same : (fun id => written id ++ label.writtenTo id) =
          fun other => written other ++ frame.dataFor other := by
      funext other
      rw [written' other]
    rw [same]
    exact client.append table found alive frameId unfinished nextId others here

end ClientLog

/-! ## The calls -/

/-- The number of PING requests with a given value that are unanswered. -/
def Mux.pendingPings (mux : Mux) (value : Nat) : Nat :=
  if mux.pingPending = true ∧ mux.pingId = value then 1 else 0

/-- Everything a call adds to the log. -/
structure Produces (mux : Mux) (label : Label) (next : Mux) (new : List Frame) : Prop where
  emission : Emission mux label.handedBytes next new
  client : ClientStep mux label next new
  wellFormed : ∀ frame ∈ new, frame.WellFormed
  own : ∀ frame ∈ new, frame.header.id = 0 ∨ frame.header.id % 2 = 1
  pings : ∀ value, countPings synFlag value (new.map Frame.header) + mux.pendingPings value =
      next.pendingPings value

namespace Produces

/-- A call that adds nothing. -/
theorem nothing (emission : Emission mux label.handedBytes next [])
    (keeps : Keeps Stream.localFin mux next) (nextId : next.nextId = mux.nextId)
    (pings : ∀ value, next.pendingPings value = mux.pendingPings value)
    (unwritten : ∀ id, label.writtenTo id = []) : Produces mux label next [] :=
  ⟨emission, .keep keeps nextId unwritten nofun, nofun, nofun,
    fun value => (Nat.zero_add _).trans (pings value).symm⟩

/-- A call that adds a frame of the whole session. -/
theorem session (room : mux.controls.used < controlSlots)
    (output : next.output = mux.output)
    (offset : next.outputOffset = mux.outputOffset) (controls : next.controls =
      mux.controls.write [Header.make kind flags 0 value])
    (streams : next.streams = mux.streams) (nextId : next.nextId = mux.nextId)
    (flagsRange : flags ≤ 15) (valueRange : value < word32)
    (kindSession : kind = .ping ∨ kind = .goaway) (pings : ∀ asked,
      countPings synFlag asked [Header.make kind flags 0 value] + mux.pendingPings asked =
        next.pendingPings asked) :
    Produces mux .silent next [(Header.make kind flags 0 value).frame] where
  emission := .queue _ room output offset controls
  client := by
    refine .keep ((Keeps.refl _ mux).of_streams streams) nextId (fun _ => rfl) ?_
    intro frame member
    rw [List.mem_singleton.mp member]
    rfl
  wellFormed := by
    intro frame member
    rw [List.mem_singleton.mp member]
    refine Header.make_wellFormed flagsRange (by decide) valueRange
      ⟨fun _ => kindSession, fun _ => rfl⟩ ?_
    rcases kindSession with rfl | rfl <;> rfl
  own := by
    intro frame member
    rw [List.mem_singleton.mp member]
    exact Or.inl rfl
  pings := pings

/-- A frame of a stream is no PING. -/
theorem no_pings (kindStream : kind = .data ∨ kind = .window) (flags id value asked : Nat) :
    countPings synFlag asked [Header.make kind flags id value] = 0 := by
  rw [countPings_singleton]
  refine if_neg fun both => ?_
  have type := both.1
  rcases kindStream with rfl | rfl <;> cases type

/-- A frame of a stream in the table is well formed. -/
theorem stream_wellFormed {stream : Stream}
    (table : mux.Table) (found : mux.stream id = some stream) (flagsRange : flags ≤ 15)
    (valueRange : value < word32) (kindStream : kind = .data ∨ kind = .window)
    (length : payload.length = if kind = .data then value else 0) :
    Frame.WellFormed ⟨Header.make kind flags id value, payload⟩ := by
  have opened := table.opened_of_stream found
  refine Header.make_wellFormed flagsRange opened.range valueRange
    ⟨fun zero => absurd zero (Mux.stream_ne_zero found), ?_⟩ length
  rcases kindStream with rfl | rfl <;> rintro (other | other) <;>
    cases other

/-- A call that adds a frame of a live client stream. -/
theorem stream {stream : Stream}
    (emission : Emission mux label.handedBytes next
      [⟨Header.make kind flags id value, payload⟩]) (table : mux.Table)
    (found : mux.stream id = some stream) (alive : stream.reset = false)
    (unfinished : flags.testBit 2 = true ∨ kind = .data →
      stream.localFin = false) (nextId : next.nextId = mux.nextId)
    (written : ∀ other, label.writtenTo other =
      Frame.dataFor other ⟨Header.make kind flags id value, payload⟩) (streams : next.stream = Function.update mux.stream id (some after))
    (here : after.reset = false → flags.testBit 3 = false ∧
      (after.localFin = false → flags.testBit 2 = false ∧ stream.localFin = false))
    (flagsRange : flags ≤ 15) (valueRange : value < word32)
    (kindStream : kind = .data ∨ kind = .window)
    (length : payload.length = if kind = .data then value else 0)
    (pings : ∀ asked, next.pendingPings asked = mux.pendingPings asked) :
    Produces mux label next [⟨Header.make kind flags id value, payload⟩] where
  emission := emission
  client := by
    refine .stream id stream _ found alive rfl ?_ nextId written ?_ ?_
    · rintro (final | data)
      · exact unfinished (Or.inl final)
      refine unfinished (Or.inr ?_)
      rcases kindStream with rfl | rfl
      · rfl
      · cases data
    · intro other apart
      rw [streams, Function.update_of_ne apart]
    · intro now foundNow
      rw [streams, Function.update_self] at foundNow
      cases foundNow
      exact here
  wellFormed := by
    intro frame member
    rw [List.mem_singleton.mp member]
    exact stream_wellFormed table found flagsRange valueRange kindStream length
  own := by
    intro frame member
    rw [List.mem_singleton.mp member]
    exact Or.inr (table.opened_of_stream found).odd
  pings := by
    intro asked
    rw [pings asked]
    change countPings synFlag asked [Header.make kind flags id value] +
      mux.pendingPings asked = mux.pendingPings asked
    rw [no_pings kindStream, Nat.zero_add]

end Produces

theorem Mux.Accounts.returnCredit_lt (accounts : mux.Accounts) {stream : Stream}
    (found : mux.stream id = some stream) (alive : stream.reset = false) :
    stream.returnCredit < word32 := by
  have balanced := accounts.balanced id stream found alive
  unfold Mux.balance at balanced
  simp only [word32, initialWindow] at *
  omega

section StageData

variable (mux : Mux) (stream : Stream) (bytes : List UInt8)

/-- The accepted prefix of the offered bytes has the accepted length. -/
theorem Mux.stageData_length :
    (bytes.take (mux.stageData stream bytes).1).length = (mux.stageData stream bytes).1 := by
  rw [List.length_take]
  exact Nat.min_eq_left ((Nat.min_le_left _ _).trans (Nat.min_le_left _ _))

theorem Mux.stageData_lt : (mux.stageData stream bytes).1 < word32 :=
  Nat.lt_of_le_of_lt ((Nat.min_le_left _ _).trans (Nat.min_le_right _ _)) (by decide)

theorem Mux.stageData_le_sendCredit : (mux.stageData stream bytes).1 ≤ stream.sendCredit :=
  Nat.min_le_right _ _

end StageData

/-- Every call adds at most one frame to the log, and a legal one. -/
theorem Change.produces {label : Label} (change : Change mux label next)
    (quiet : label.isFed = false) (table : mux.Table)
    (accounts : mux.Accounts) : ∃ new, Produces mux label next new := by
  have unchanged := Keeps.refl Stream.localFin mux
  cases change with
  | openStream free available slot room =>
    rcases table.next available with ⟨odd, range⟩
    refine ⟨_, .queue _ room rfl rfl rfl, .opened free available slot,
      ?_, ?_, fun _ => Nat.zero_add _⟩
    · intro frame member
      rw [List.mem_singleton.mp member]
      refine Header.make_wellFormed (by decide) range (by decide)
        ⟨fun zero => absurd zero available, ?_⟩ rfl
      rintro (other | other) <;> cases other
    · intro frame member
      rw [List.mem_singleton.mp member]
      exact Or.inr odd
  | finish id stream found alive unfinished room =>
    have streams := Mux.stream_setStream found { stream with localFin := true } rfl
    refine ⟨_, .stream (.queue (Header.make .window finFlag id 0) room
      rfl rfl rfl) table found alive (fun _ => unfinished) rfl ?_ streams
      (fun _ => ⟨by decide, nofun⟩) (by decide) (by decide) (Or.inr rfl) rfl (fun _ => rfl)⟩
    intro other
    exact (Frame.dataFor_empty other _).symm
  | reset id stream found alive room =>
    have foundQueued : (mux.enqueue (Header.make .window rstFlag id 0)).stream id =
          some stream := found
    have streams := Mux.stream_resetState foundQueued stream rfl
    have shape := Mux.resetState_eq (mux.enqueue (Header.make .window rstFlag id 0)) stream
    refine ⟨_, .stream (.queue (Header.make .window rstFlag id 0) room
      (by rw [shape]; rfl) (by rw [shape]; rfl) (by rw [shape]; rfl))
      table found alive (fun wrong => absurd wrong (by decide)) (by rw [shape]; rfl) ?_ streams
      nofun (by decide) (by decide) (Or.inr rfl) rfl (fun _ => by rw [shape]; rfl)⟩
    intro other
    exact (Frame.dataFor_empty other _).symm
  | release _ _ found =>
    exact ⟨_, .nothing (.none rfl rfl rfl)
      (unchanged.releasing table.distinct (Mux.stream_ne_zero found))
      rfl (fun _ => rfl) (fun _ => rfl)⟩
  | ping _ range settled room =>
    refine ⟨_, .session room rfl rfl rfl rfl rfl (by decide) range (Or.inl rfl) ?_⟩
    intro asked
    simp [countPings_singleton, Mux.pendingPings, Header.make, settled]
  | goaway room =>
    refine ⟨_, .session room rfl rfl rfl rfl rfl (by decide) (by decide) (Or.inr rfl) ?_⟩
    intro asked
    exact Nat.zero_add _
  | stageControl control rest free queued =>
    exact ⟨_, .nothing (.stageControl control rest free queued rfl rfl rfl)
      (unchanged.of_streams rfl) rfl (fun _ => rfl) (fun _ => rfl)⟩
  | stageGrant _ stream free queued member due =>
    have conditions := Stream.grantDue_iff.mp due
    have found := table.stream_of_mem (List.mem_of_getElem? member) conditions.1
    have streams := Mux.stream_setStream found { stream with returnCredit := 0 } rfl
    have range := accounts.returnCredit_lt found conditions.2.1
    refine ⟨_, .stream (.stage ⟨Header.make .window 0 stream.id stream.returnCredit, []⟩
        free queued (List.append_nil _).symm rfl rfl)
      table found conditions.2.1 (fun wrong => absurd wrong (by decide)) rfl ?_ streams
      (fun _ => ⟨by decide, fun unfinished => ⟨by decide, unfinished⟩⟩) (by decide) range
      (Or.inr rfl) rfl (fun _ => rfl)⟩
    intro other
    exact (Frame.dataFor_empty other _).symm
  | stageData id stream bytes found alive unfinished _ _ free queued =>
    have sameId := Mux.stream_id found
    have count := mux.stageData_length stream bytes
    have range := mux.stageData_lt stream bytes
    have streams := Mux.stream_setStream found
      { stream with
        sendCredit := sub32 stream.sendCredit (mux.stageData stream bytes).1 } rfl
    refine ⟨_, .stream (.stage ⟨Header.make .data 0 id (mux.stageData stream bytes).1,
          bytes.take (mux.stageData stream bytes).1⟩
        free queued (by rw [← sameId]; rfl) rfl rfl)
      table found alive (fun _ => unfinished) rfl ?_ streams
      (fun _ => ⟨by decide, fun unfinished => ⟨by decide, unfinished⟩⟩) (by decide) range
      (Or.inl rfl) count (fun _ => rfl)⟩
    intro other
    by_cases same : id = other <;>
      simp [Label.writtenTo, Frame.dataFor, Header.make, same]
  | handOver count positive within =>
    exact ⟨_, .nothing (.hand count positive within rfl rfl rfl)
      (unchanged.of_streams rfl) rfl (fun _ => rfl) (fun _ => rfl)⟩
  | handOverLast count positive last =>
    exact ⟨_, .nothing (.handLast count positive last rfl rfl rfl)
      (unchanged.of_streams rfl) rfl (fun _ => rfl) (fun _ => rfl)⟩
  | handOverGrant count stream positive last found =>
    exact ⟨_, .nothing (.handLast count positive last rfl rfl rfl) ((unchanged.setStream found
        { stream with
          receiveCredit := add32 stream.receiveCredit mux.outputGrantBytes }
        rfl rfl rfl).of_streams rfl)
      rfl (fun _ => rfl) (fun _ => rfl)⟩
  | overGrant _ _ found alive excessive =>
    exact absurd excessive (Nat.not_lt.mpr (accounts.grant_le found alive))
  | read _ capacity stream found =>
    exact ⟨_, .nothing (.none rfl rfl rfl)
      (unchanged.setStream found (stream.reading capacity) rfl rfl rfl)
      rfl (fun _ => rfl) (fun _ => rfl)⟩
  | feed => cases quiet
  | _ =>
    exact ⟨_, .nothing (.none rfl rfl rfl) (unchanged.of_streams rfl)
      rfl (fun _ => rfl) (fun _ => rfl)⟩

/-! ## The parser -/

/-- The output side and the last peer stream id are as before. -/
structure SameOutput (mux next : Mux) : Prop where
  output : next.output = mux.output
  outputOffset : next.outputOffset = mux.outputOffset
  controls : next.controls = mux.controls
  peerLastId : next.peerLastId = mux.peerLastId

namespace SameOutput

theorem refl (mux : Mux) : SameOutput mux mux := ⟨rfl, rfl, rfl, rfl⟩

theorem resetState (same : SameOutput base mux) (stream : Stream) :
    SameOutput base (mux.resetState stream) := by
  rw [Mux.resetState_eq]
  exact ⟨same.output, same.outputOffset, same.controls, same.peerLastId⟩

theorem fillHeader (same : SameOutput base mux) (chunk : List UInt8) :
    SameOutput base (mux.fillHeader chunk) := by
  unfold Mux.fillHeader
  dsimp only
  split
  · exact same
  · exact ⟨same.output, same.outputOffset, same.controls, same.peerLastId⟩

theorem endFrame (same : SameOutput base mux) : SameOutput base (endFrame mux) := by
  rcases endFrame_cases mux with ⟨_, ended⟩ | ⟨stream, _, _, _, ended⟩ <;>
  · rw [ended]
    exact ⟨same.output, same.outputOffset, same.controls, same.peerLastId⟩

theorem applied (same : SameOutput base mux)
    (application : Applied mux kind header next) : SameOutput base next := by
  cases application with
  | ignored => exact same
  | received => exact ⟨same.output, same.outputOffset, same.controls, same.peerLastId⟩
  | aborted => exact same.resetState _

end SameOutput

/-- The reset that answers a stream opened by the peer. -/
def refusal (id : Nat) : Frame := (Header.make .window rstFlag id 0).frame

/--
What the parser adds to the log: a reply to a PING, the refusal of a peer
stream, or nothing.  The headers are those it has accepted.
-/
inductive Answers (mux next : Mux) : List Header → List Frame → Prop where
  | nothing {accepted : List Header} (same : SameOutput mux next)
      (plain : ∀ header ∈ accepted, header.id ≠ 0 → header.syn = false) :
      Answers mux next accepted []
  | reply (header : Header) (id : header.id = 0) (range : header.value < word32)
      (room : mux.controls.used < controlSlots)
      (output : next.output = mux.output)
      (outputOffset : next.outputOffset = mux.outputOffset)
      (controls : next.controls = mux.controls.write [Header.make .ping ackFlag 0 header.value])
      (peerLastId : next.peerLastId = mux.peerLastId) :
      Answers mux next [header] [(Header.make .ping ackFlag 0 header.value).frame]
  | refuse {accepted : List Header} (id : Nat)
      (nonzero : id ≠ 0) (even : id % 2 = 0) (range : id < word32)
      (increasing : mux.peerLastId < id)
      (named : ∀ header ∈ accepted, header.id = id)
      (room : mux.controls.used < controlSlots)
      (output : next.output = mux.output)
      (outputOffset : next.outputOffset = mux.outputOffset)
      (controls : next.controls = mux.controls.write [Header.make .window rstFlag id 0])
      (peerLastId : next.peerLastId = id) :
      Answers mux next accepted [refusal id]

namespace Answers

/-- An answer may be followed by changes of the input side. -/
theorem trans (answers : Answers base mux accepted new)
    (same : SameOutput mux next) : Answers base next accepted new := by
  cases answers with
  | nothing first plain =>
    exact .nothing ⟨same.output.trans first.output, same.outputOffset.trans first.outputOffset,
        same.controls.trans first.controls, same.peerLastId.trans first.peerLastId⟩ plain
  | reply header id range room output outputOffset controls peerLastId =>
    exact .reply header id range room (same.output.trans output)
      (same.outputOffset.trans outputOffset)
      (same.controls.trans controls) (same.peerLastId.trans peerLastId)
  | refuse id nonzero even range increasing named room output outputOffset controls peerLastId =>
    exact .refuse id nonzero even range increasing named room (same.output.trans output)
      (same.outputOffset.trans outputOffset)
      (same.controls.trans controls) (same.peerLastId.trans peerLastId)

/-- The header buffer may be filled before an answer. -/
theorem of_filled (answers : Answers (mux.fillHeader chunk) next accepted new) :
    Answers mux next accepted new := by
  have same := (SameOutput.refl mux).fillHeader chunk
  cases answers with
  | nothing later plain =>
    exact .nothing ⟨later.output.trans same.output, later.outputOffset.trans same.outputOffset,
        later.controls.trans same.controls, later.peerLastId.trans same.peerLastId⟩ plain
  | reply header id range room output outputOffset controls peerLastId =>
    rw [same.controls] at room controls
    exact .reply header id range room (output.trans same.output)
      (outputOffset.trans same.outputOffset) controls (peerLastId.trans same.peerLastId)
  | refuse id nonzero even range increasing named room output outputOffset controls peerLastId =>
    rw [same.controls] at room controls
    rw [same.peerLastId] at increasing
    exact .refuse id nonzero even range increasing named room (output.trans same.output)
      (outputOffset.trans same.outputOffset) controls peerLastId

theorem of_admitted (range : header.InRange) (nonzero : header.id ≠ 0)
    (named : ∀ other ∈ accepted, other = header) (admission : Admitted mux header next) :
    ∃ new, Answers mux next accepted new := by
  cases admission with
  | peerOpened _ free even increasing =>
    exact ⟨_, .refuse header.id nonzero even range.id increasing
      (fun other member => by rw [named other member])
      free rfl rfl rfl rfl⟩
  | known plain =>
    refine ⟨_, .nothing (SameOutput.refl mux) ?_⟩
    intro other member _
    rw [named other member]
    exact plain

theorem of_stalled (range : header.InRange)
    (stalled : Stalled mux header outcome) : ∃ new, Answers mux outcome.2 [] new := by
  cases stalled with
  | rejected _ admitted _ wellFormed admission =>
    rcases @of_admitted header mux admitted [] range wellFormed.id
      nofun admission with ⟨new, answers⟩
    exact ⟨new, answers.trans ⟨rfl, rfl, rfl, rfl⟩⟩
  | excessive _ admitted applied wellFormed admission application =>
    rcases @of_admitted header mux admitted [] range wellFormed.id
      nofun admission with ⟨new, answers⟩
    have same := (SameOutput.refl admitted).applied application
    exact ⟨new, answers.trans ⟨same.output, same.outputOffset, same.controls, same.peerLastId⟩⟩
  | _ => exact ⟨_, .nothing ⟨rfl, rfl, rfl, rfl⟩ nofun⟩

theorem of_session (range : header.InRange) (session : Session mux header next) :
    ∃ new, Answers mux next [header] new := by
  have zero := session.id
  have plain : ∀ other ∈ [header], other.id ≠ 0 → other.syn = false := by
    intro other member nonzero
    rw [List.mem_singleton.mp member] at nonzero
    exact absurd zero nonzero
  cases session with
  | pinged _ id _ free => exact ⟨_, .reply header id range.value free rfl rfl rfl rfl⟩
  | ponged | departed => exact ⟨_, .nothing ⟨rfl, rfl, rfl, rfl⟩ plain⟩

theorem of_enters (range : header.InRange) (enters : Enters mux header next) :
    ∃ new, Answers mux next [header] new := by
  cases enters with
  | intro _ admitted applied wellFormed admission application =>
    rcases @of_admitted header mux admitted [header] range
      wellFormed.id (fun _ => List.mem_singleton.mp) admission with
      ⟨new, answers⟩
    have same := (SameOutput.refl admitted).applied application
    exact ⟨new, answers.trans ⟨same.output, same.outputOffset, same.controls, same.peerLastId⟩⟩

theorem of_takes (takes : Takes mux chunk next) : Answers mux next [] [] := by
  cases takes <;> exact .nothing ⟨rfl, rfl, rfl, rfl⟩ nofun

end Answers

/-- The headers of all frames that have been started. -/
def History.accepted (history : History) (mux : Mux) : List Header :=
  (history.done ++ mux.current history.body).map Frame.header

theorem History.called_accepted (history : History) (same : SameInput mux next) :
    (history.called mux next).accepted next = history.accepted mux := by
  unfold History.accepted
  rw [Mux.current_congr _ same]
  rfl

/-- One state change of the parser with the headers it accepts. -/
inductive Acceptance (mux : Mux) : List Header → Mux → Prop where
  | filled (chunk : List UInt8) : Acceptance mux [] (mux.fillHeader chunk)
  | stalled (chunk : List UInt8) (header : Header) (outcome : Result × Mux) (range : header.InRange)
      (stalled : Stalled (mux.fillHeader chunk) header outcome) :
      Acceptance mux [] outcome.2
  | session (chunk : List UInt8) (header : Header) (next : Mux) (range : header.InRange)
      (session : Session (mux.fillHeader chunk) header next) :
      Acceptance mux [header] next
  | entered (chunk : List UInt8) (header : Header) (next : Mux) (range : header.InRange)
      (enters : Enters (mux.fillHeader chunk) header next) :
      Acceptance mux [header] next
  | taken (chunk : List UInt8) (next : Mux) (takes : Takes mux chunk next) : Acceptance mux [] next
  | blocked (stream : Stream) (found : mux.stream mux.frameId = some stream) : Acceptance mux []
        (mux.setStream { stream with blocked := true, blockedMs := mux.nowMs })
  | failed (error : Result) (fatal : error ≠ .ok) : Acceptance mux [] (mux.fail error).2
  | ended {accepted : List Header} {next : Mux} (earlier : Acceptance mux accepted next) :
      Acceptance mux accepted (endFrame next)

/-- The parser accepts at most one header at a time. -/
theorem Parse.acceptance
    (parsed : Parsed mux consumed done body) (parse : Parse mux done body chunk next done' body') :
    ∃ accepted, Acceptance mux accepted next ∧ (done' ++ next.current body').map Frame.header =
        (done ++ mux.current body).map Frame.header ++ accepted := by
  have idleHeaders (idle : mux.frameActive = false) : (done ++ mux.current body).map Frame.header =
        done.map Frame.header := by
    rw [Mux.current_idle body idle, List.append_nil]
  have range (complete : mux.header.length + chunk.length = headerBytes) :
      (Header.decode (mux.header ++ chunk)).InRange :=
    Header.decode_inRange (by rw [List.length_append]; exact complete)
  cases parse with
  | fill chunk idle =>
    have active := (mux.fillHeader_frameActive chunk).trans idle
    refine ⟨[], .filled chunk, ?_⟩
    rw [idleHeaders idle, Mux.current_idle body active]
    simp
  | stall chunk outcome idle complete stalled =>
    have active := stalled.frameActive.trans ((mux.fillHeader_frameActive chunk).trans idle)
    refine ⟨[], .stalled chunk _ outcome (range complete) stalled, ?_⟩
    rw [idleHeaders idle, Mux.current_idle body active]
    simp
  | session chunk next idle complete session =>
    have active := session.frameActive.trans ((mux.fillHeader_frameActive chunk).trans idle)
    refine ⟨_, .session chunk _ next (range complete) session, ?_⟩
    rw [idleHeaders idle, Mux.current_idle [] active]
    simp
  | enter chunk next idle complete enters =>
    refine ⟨_, .entered chunk _ next (range complete) enters, ?_⟩
    rcases parsed.enters idle complete enters with ⟨_, header⟩
    rw [idleHeaders idle, Mux.current_active [] enters.receives.frameActive, header]
    simp
  | enterLast chunk next idle complete enters =>
    refine ⟨_, .ended (.entered chunk _ next (range complete) enters), ?_⟩
    rw [idleHeaders idle, Mux.current_idle [] (endFrame_frameActive next)]
    simp
  | take chunk next active takes =>
    have advances := takes.advances
    refine ⟨[], .taken chunk next takes, ?_⟩
    rw [Mux.current_active body active, Mux.current_active _ (advances.frameActive.trans active),
      advances.header]
    simp
  | takeLast chunk next active takes =>
    refine ⟨[], .ended (.taken chunk next takes), ?_⟩
    rw [Mux.current_active body active, Mux.current_idle [] (endFrame_frameActive next)]
    simp
  | exhaust | lose => exact ⟨[], .failed _ (by decide), (List.append_nil _).symm⟩
  | block stream _ found => exact ⟨[], .blocked stream found, (List.append_nil _).symm⟩

/-- The parser answers the header it accepts. -/
theorem Acceptance.answers (acceptance : Acceptance mux accepted next) :
    ∃ new, Answers mux next accepted new := by
  induction acceptance with
  | filled chunk => exact ⟨[], .nothing ((SameOutput.refl mux).fillHeader chunk) nofun⟩
  | stalled _ _ _ range stalled =>
    rcases Answers.of_stalled range stalled with ⟨new, answers⟩
    exact ⟨new, answers.of_filled⟩
  | session _ _ _ range session =>
    rcases Answers.of_session range session with ⟨new, answers⟩
    exact ⟨new, answers.of_filled⟩
  | entered _ _ _ range enters =>
    rcases Answers.of_enters range enters with ⟨new, answers⟩
    exact ⟨new, answers.of_filled⟩
  | taken _ _ takes => exact ⟨[], .of_takes takes⟩
  | blocked | failed => exact ⟨[], .nothing ⟨rfl, rfl, rfl, rfl⟩ nofun⟩
  | ended _ ih =>
    rcases ih with ⟨new, answers⟩
    exact ⟨new, answers.trans (SameOutput.refl _).endFrame⟩

end EspFrp.Yamux

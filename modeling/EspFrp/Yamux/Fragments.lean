import EspFrp.Yamux.Refusals

/-!
# Fragments of the input

`efrp_yamux_feed` may be called with any fragments of the input.  A turn of
its loop that sees less of the input stops early, and the next call goes on
where it stopped.  Only a mux that fails while it discards payload has
counted different amounts of it.
-/

namespace EspFrp.Yamux

open Library

/-- The mux up to the payload that it has discarded. -/
def Mux.blurred (mux : Mux) : Mux :=
  { mux with discardedBytes := 0, frameRemaining := 0, inputProgressMs := 0 }

/-- Two outcomes of the loop that are the same, or the same failure. -/
def SameOutcome (left right : Result × List UInt8 × Mux) : Prop :=
  left = right ∨ left.1 = right.1 ∧ left.2.2.failure ≠ .ok ∧ left.2.2.blurred = right.2.2.blurred

/-- The outcome of feeding more after the loop has stopped. -/
def resumed (stopped : Result × List UInt8 × Mux) (more : List UInt8) : Result × List UInt8 × Mux :=
  if stopped.2.2.failure = .ok then
    feedLoop stopped.2.2 (stopped.2.1 ++ more)
  else
    (stopped.1, stopped.2.1 ++ more, stopped.2.2)

/-- A turn that sees a part of the input leads to the outcome of the whole. -/
def Turn.Splits (whole : Result × List UInt8 × Mux) (more : List UInt8) : Turn → Prop
  | .stop result rest mux => SameOutcome whole (resumed (result, rest, mux) more)
  | .next rest mux => SameOutcome whole (feedLoop mux (rest ++ more))

/-! ## The payload -/

section

variable {mux : Mux}

theorem feedLoop_payload (active : mux.frameActive = true) (bytes : List UInt8) :
    feedLoop mux bytes = (payloadTurn mux bytes).outcome := by
  rw [feedLoop_turn, feedTurn, if_pos active]

/-- A part of the payload has been taken and leaves the frame open. -/
def Mux.partly (mux : Mux) (count : Nat) : Mux :=
  { mux with
    frameRemaining := mux.frameRemaining - count
    inputProgressMs := mux.nowMs }

theorem Mux.advanceFrame_part (mux : Mux) {count : Nat} (range : mux.frameRemaining < word32)
    (part : count < mux.frameRemaining) : mux.advanceFrame count = mux.partly count := by
  unfold Mux.advanceFrame
  dsimp only
  rw [sub32_of_le part.le range, if_neg (by omega)]
  rfl

theorem Mux.partly_advanceFrame (mux : Mux) {count : Nat} (part : count < mux.frameRemaining)
    (more : Nat) : (mux.partly count).advanceFrame more = mux.advanceFrame (count + more) := by
  have remaining : sub32 (mux.frameRemaining - count) more =
      sub32 mux.frameRemaining (count + more) := by
    simp only [sub32, word32]
    omega
  simp only [Mux.advanceFrame, Mux.partly, remaining]

theorem Mux.setStream_setStream {first second : Stream} (same : first.id = second.id) :
    (mux.setStream first).setStream second = mux.setStream second := by
  unfold Mux.setStream
  rw [same, Slots.replaceFirst_replaceFirst second same]

/-- The mux that drops a part of the payload. -/
def Mux.dropping (mux : Mux) (count : Nat) : Mux :=
  { mux with discardedBytes := add32 mux.discardedBytes count }

/-- The stream that stores a part of the payload. -/
def Stream.storing (stream : Stream) (bytes : List UInt8) : Stream :=
  { stream with ring := stream.ring.write bytes }

def Mux.storing (mux : Mux) (stream : Stream) (bytes : List UInt8) : Mux :=
  mux.setStream (stream.storing bytes)

/-- The mux that waits for room in the ring of a stream. -/
def Mux.blocking (mux : Mux) (stream : Stream) : Mux :=
  if stream.blocked then mux
  else mux.setStream { stream with blocked := true, blockedMs := mux.nowMs }

section

variable {bytes : List UInt8} (some : bytes ≠ [])
include some

theorem payloadTurn_dropping (discarded : mux.frameDiscard = true) {used : Nat}
    (before : mux.discardedBytes = used) (size : min bytes.length mux.frameRemaining = count) :
    payloadTurn mux bytes =
      if sub32 discardLimit used < count then
        .stop .protocolError bytes (mux.fail .protocolError).2
      else
        .next (bytes.drop count) ((mux.dropping count).advanceFrame count) := by
  rw [payloadTurn, if_neg some, if_pos discarded, before, size, Mux.dropping, before]

theorem payloadTurn_storing (kept : mux.frameDiscard = false) {stream : Stream}
    (found : mux.stream mux.frameId = .some stream) (room : stream.ring.available ≠ 0)
    (size : min (min bytes.length mux.frameRemaining) stream.ring.available = count) :
    payloadTurn mux bytes = .next (bytes.drop count)
        ((mux.storing stream (bytes.take count)).advanceFrame count) := by
  have written : stream.ring.write (bytes.take (min bytes.length mux.frameRemaining)) =
      stream.ring.write (bytes.take count) := by
    rw [← Ring.write_take_available, List.take_take, Nat.min_comm, size]
  rw [payloadTurn, if_neg some, if_neg (by simp [kept]), found]
  dsimp only
  rw [if_neg room, written, size]
  rfl

theorem payloadTurn_full (kept : mux.frameDiscard = false) {stream : Stream}
    (found : mux.stream mux.frameId = .some stream) (full : stream.ring.available = 0) :
    payloadTurn mux bytes = .stop .wouldBlock bytes (mux.blocking stream) ∧
      payloadTurn (mux.blocking stream) bytes = .stop .wouldBlock bytes (mux.blocking stream) := by
  have turn {mux : Mux} {stream : Stream} (kept : mux.frameDiscard = false)
      (found : mux.stream mux.frameId = .some stream)
      (full : stream.ring.available = 0) :
      payloadTurn mux bytes = .stop .wouldBlock bytes (mux.blocking stream) := by
    rw [payloadTurn, if_neg some, if_neg (by simp [kept]), found]
    dsimp only
    rw [if_pos full]
    rfl
  refine ⟨turn kept found full, ?_⟩
  by_cases blocked : stream.blocked = true
  · have same : mux.blocking stream = mux := if_pos blocked
    rw [same, turn kept found full, same]
  have there := Mux.stream_setStream_self found
    { stream with blocked := true, blockedMs := mux.nowMs } rfl
  rw [Mux.blocking, if_neg blocked]
  exact @turn (mux.setStream _) _ kept there full

end

variable (active : mux.frameActive = true) {first more : List UInt8}
  (some : first ≠ []) (rest : more ≠ [])
  (part : first.length < mux.frameRemaining)
include active some rest part

/-- The payload that is dropped in two parts. -/
theorem feedLoop_drops (discarded : mux.frameDiscard = true)
    (bounded : first.length ≤ sub32 discardLimit mux.discardedBytes) :
    SameOutcome (feedLoop mux (first ++ more))
      (feedLoop ((mux.dropping first.length).partly first.length) more) := by
  generalize size : min more.length (mux.frameRemaining - first.length) = later
  have limit : sub32 discardLimit (add32 mux.discardedBytes first.length) =
      sub32 discardLimit mux.discardedBytes - first.length := by
    simp only [sub32, add32, word32, discardLimit] at bounded ⊢
    omega
  have total : min (first ++ more).length mux.frameRemaining = first.length + later := by
    rw [List.length_append]
    omega
  have same : ((mux.dropping first.length).partly first.length).dropping later =
      (mux.dropping (first.length + later)).partly first.length := by
    simp [Mux.dropping, Mux.partly, add32, Nat.add_assoc]
  have opened : ((mux.dropping first.length).partly first.length).frameActive = true := active
  have second := @payloadTurn_dropping ((mux.dropping first.length).partly first.length) _ rest _
    discarded (add32 mux.discardedBytes first.length) rfl size
  rw [feedLoop_payload opened, second, same,
    (mux.dropping _).partly_advanceFrame part, limit, feedLoop_payload active,
    payloadTurn_dropping (List.append_ne_nil_of_left_ne_nil some more)
      discarded rfl total, List.drop_length_add_append]
  by_cases excessive : sub32 discardLimit mux.discardedBytes < first.length + later
  · rw [if_pos excessive, if_pos (by omega)]
    exact .inr ⟨rfl, Result.noConfusion, rfl⟩
  rw [if_neg excessive, if_neg (by omega)]
  exact .inl rfl

/-- The payload that is stored in two parts. -/
theorem feedLoop_stores (kept : mux.frameDiscard = false) {stream : Stream}
    (found : mux.stream mux.frameId = .some stream) (room : first.length < stream.ring.available) :
    feedLoop mux (first ++ more) =
      feedLoop ((mux.storing stream first).partly first.length) more := by
  have there := Mux.stream_setStream_self found (stream.storing first) rfl
  have left : (stream.storing first).ring.available = stream.ring.available - first.length :=
    stream.ring.available_write room.le
  generalize size : min (min more.length (mux.frameRemaining - first.length))
    (stream.storing first).ring.available = later
  have total : min (min (first ++ more).length mux.frameRemaining)
      stream.ring.available = first.length + later := by
    rw [List.length_append]
    omega
  have opened : ((mux.storing stream first).partly first.length).frameActive = true := active
  have second := @payloadTurn_storing ((mux.storing stream first).partly first.length) _ rest _ kept
    _ there (by omega) size
  have ring : (stream.storing first).storing (more.take later) =
      stream.storing (first ++ more.take later) := by
    rw [Stream.storing, Stream.storing, stream.ring.write_append room.le]
    rfl
  have same : ((mux.storing stream first).partly first.length).storing
      (stream.storing first) (more.take later) =
      (mux.storing stream (first ++ more.take later)).partly first.length := by
    rw [Mux.storing, ring]
    have twice := @Mux.setStream_setStream mux (stream.storing first)
      (stream.storing (first ++ more.take later)) rfl
    exact congrArg (Mux.partly · first.length) twice
  rw [feedLoop_payload opened, second, same,
    (mux.storing stream _).partly_advanceFrame part, feedLoop_payload active,
    payloadTurn_storing (List.append_ne_nil_of_left_ne_nil some more) kept found (by omega) total,
    List.take_length_add_append, List.drop_length_add_append]

end

/-- A payload turn that sees a part of the input. -/
theorem payloadTurn_splits {mux : Mux} (ready : mux.failure = .ok)
    (active : mux.frameActive = true) (range : mux.frameRemaining < word32)
    (first more : List UInt8) :
    (payloadTurn mux first).Splits (feedLoop mux (first ++ more)) more := by
  by_cases none : first = []
  · subst none
    exact .inl (if_pos ready).symm
  have some := List.append_ne_nil_of_left_ne_nil none more
  have length : (first ++ more).length = first.length + more.length := List.length_append
  -- a part that leaves the frame open, before nothing or more of it
  have parts {next : Mux} (turn : payloadTurn mux first = .next [] next) (rest : more ≠ [] →
        SameOutcome (feedLoop mux (first ++ more)) (feedLoop next more)) :
      SameOutcome (feedLoop mux (first ++ more)) (feedLoop next more) := by
    by_cases last : more = []
    · rw [last, List.append_nil, feedLoop_payload active, turn]
      exact .inl rfl
    · exact rest last
  by_cases discarded : mux.frameDiscard = true
  · generalize size : min first.length mux.frameRemaining = count
    have turn := payloadTurn_dropping none discarded rfl size
    have whole := payloadTurn_dropping some discarded rfl rfl
    by_cases excessive : sub32 discardLimit mux.discardedBytes < count
    · rw [turn, if_pos excessive, feedLoop_payload active, whole, if_pos (by omega)]
      exact .inl (if_neg Result.noConfusion).symm
    rw [if_neg excessive] at turn
    rw [turn]
    by_cases part : first.length < mux.frameRemaining
    · have all : count = first.length := by omega
      rw [all, (mux.dropping _).advanceFrame_part range part, List.drop_length] at turn ⊢
      exact parts turn fun rest => feedLoop_drops active none rest part discarded (by omega)
    have same : min (first ++ more).length mux.frameRemaining = count := by omega
    rw [feedLoop_payload active, whole, same, if_neg excessive,
      List.drop_append_of_le_length (by omega)]
    exact .inl rfl
  · have kept := Bool.eq_false_of_not_eq_true discarded
    cases found : mux.stream mux.frameId with
    | none =>
      have lost {bytes : List UInt8} (some : bytes ≠ []) : payloadTurn mux bytes =
            .stop .invalidState bytes (mux.fail .invalidState).2 := by
        rw [payloadTurn, if_neg some, if_neg discarded, found]
      rw [feedLoop_payload active, lost none, lost some]
      exact .inl (if_neg Result.noConfusion).symm
    | some stream =>
      by_cases full : stream.ring.available = 0
      · have blocked : (mux.blocking stream).frameActive = true ∧
            (mux.blocking stream).failure = .ok := by
          unfold Mux.blocking
          split <;> exact ⟨active, ready⟩
        obtain ⟨whole, again⟩ := payloadTurn_full some kept found full
        rw [feedLoop_payload active, whole, (payloadTurn_full none kept found full).1]
        refine .inl (Eq.symm ?_)
        exact (if_pos blocked.2).trans ((feedLoop_payload blocked.1 _).trans (congrArg _ again))
      generalize size : min (min first.length mux.frameRemaining) stream.ring.available = count
      have turn := payloadTurn_storing none kept found full size
      rw [turn]
      by_cases part : first.length < mux.frameRemaining ∧ first.length < stream.ring.available
      · have all : count = first.length := by omega
        rw [all, List.take_length, List.drop_length,
          (mux.storing _ _).advanceFrame_part range part.1] at turn ⊢
        exact parts turn fun rest =>
          .inl (feedLoop_stores active none rest part.1 kept found part.2)
      · rw [feedLoop_payload active,
          @payloadTurn_storing _ _ some count kept _ found full (by omega),
          List.drop_append_of_le_length (by omega),
          List.take_append_of_le_length (by omega)]
        exact .inl rfl

/-! ## The header -/

section

variable {mux : Mux}

theorem Mux.fillHeader_append (short : mux.header.length + first.length < headerBytes)
    (more : List UInt8) :
    (mux.fillHeader first).fillHeader more = mux.fillHeader (first ++ more) := by
  by_cases none : first = []
  · simp [none, Mux.fillHeader]
  have chunk : first.take (headerBytes - mux.header.length) = first :=
    List.take_of_length_le (by omega)
  have whole : (first ++ more).take (headerBytes - mux.header.length) =
      first ++ more.take (headerBytes - (mux.header ++ first).length) := by
    rw [List.take_append, chunk, Nat.sub_sub, List.length_append]
  simp only [Mux.fillHeader, chunk, none, if_false, whole, List.append_eq_nil_iff,
    false_and, and_false]
  split
  · next last => rw [last, List.append_nil]
  · simp [List.append_assoc]

variable (idle : mux.frameActive = false)
include idle

/-- A header that is completed in two parts. -/
theorem feedLoop_fills (short : mux.header.length + first.length < headerBytes)
    (more : List UInt8) : feedLoop mux (first ++ more) = feedLoop (mux.fillHeader first) more := by
  have filling : (mux.fillHeader first).frameActive = false :=
    (mux.fillHeader_frameActive first).trans idle
  have length : (mux.fillHeader first).header.length = mux.header.length + first.length := by
    rw [Mux.fillHeader_header, List.length_append, List.length_take]
    omega
  rw [feedLoop_header idle, feedLoop_header filling, Mux.fillHeader_append short, List.drop_append,
    length, List.drop_eq_nil_of_le (by omega), List.nil_append, Nat.sub_sub]

/-- A header turn that sees a part of the input. -/
theorem headerTurn_splits (ready : mux.failure = .ok)
    (range : (mux.fillHeader first).header.length = headerBytes →
      (startFrame (mux.fillHeader first)).2.frameActive = true →
      (startFrame (mux.fillHeader first)).2.frameRemaining < word32)
    (more : List UInt8) :
    (headerTurn mux first).Splits (feedLoop mux (first ++ more)) more := by
  have filledReady := (mux.fillHeader_failure first).trans ready
  have length := congrArg List.length (mux.fillHeader_header first)
  rw [List.length_append, List.length_take] at length
  unfold headerTurn
  by_cases complete : (mux.fillHeader first).header.length = headerBytes
  · have enough : headerBytes - mux.header.length ≤ first.length := by omega
    have same : mux.fillHeader (first ++ more) = mux.fillHeader first := by
      rw [← mux.fillHeader_take, List.take_append_of_le_length enough, mux.fillHeader_take]
    rw [if_neg (not_not.mpr complete), feedLoop_header idle, same,
      List.drop_append_of_le_length enough]
    rw [if_neg (not_not.mpr complete)]
    by_cases started : (startFrame (mux.fillHeader first)).1 = .ok
    · have startedReady : (startFrame (mux.fillHeader first)).2.failure = .ok := by
        rcases startFrame_failure _ filledReady with ⟨_, fine⟩ | ⟨_, wrong⟩
        · exact fine
        · exact absurd started wrong
      rw [if_neg (not_not.mpr started), if_pos started]
      split
      · next active => exact payloadTurn_splits startedReady active (range complete active) _ more
      · exact .inl rfl
    · rw [if_pos started, if_neg started]
      refine .inl (Eq.symm ?_)
      rcases startFrame_failure _ filledReady with ⟨fine | blocked, _⟩ | ⟨failed, wrong⟩
      · exact absurd fine started
      · have waits := startFrame_blocked blocked
        rw [waits]
        refine (if_pos filledReady).trans ?_
        rw [feedLoop_pending ((mux.fillHeader_frameActive first).trans idle) complete, waits]
        rfl
      · exact if_neg (by rw [failed]; exact wrong)
  · rw [if_pos complete]
    refine .inl (Eq.symm ((if_pos filledReady).trans ?_))
    by_cases short : mux.header.length + first.length < headerBytes
    · rw [List.drop_eq_nil_of_le (by omega), List.nil_append]
      exact (feedLoop_fills idle short more).symm
    have none : headerBytes - mux.header.length = 0 := by omega
    simp [Mux.fillHeader, none]

end

/-! ## The loop -/

/-- A mux that a run can reach. -/
def Mux.Live (mux : Mux) : Prop := ∃ world : World, world.Reachable ∧ world.mux = mux

theorem Mux.Live.fed (live : mux.Live) (steps : FeedSteps mux used next) : next.Live := by
  obtain ⟨world, reachable, rfl⟩ := live
  exact ⟨_, reachable.trans (.of_feedSteps world steps), rfl⟩

theorem Mux.Live.range {mux : Mux} (live : mux.Live)
    (active : mux.frameActive = true) : mux.frameRemaining < word32 := by
  obtain ⟨_, reachable, rfl⟩ := live
  obtain ⟨_, traced⟩ := reachable.traced
  have remaining := traced.parsed.remaining active
  have value := (Header.decode_inRange (traced.parsed.complete active)).value
  unfold Header.payloadLength at remaining
  change _ < 4294967296
  split at remaining <;> omega

theorem feedTurn_splits {mux : Mux} (live : mux.Live)
    (ready : mux.failure = .ok) (first more : List UInt8) :
    (feedTurn mux first).Splits (feedLoop mux (first ++ more)) more := by
  unfold feedTurn
  by_cases active : mux.frameActive = true
  · rw [if_pos active]
    exact payloadTurn_splits ready active (live.range active) first more
  rw [if_neg active]
  have idle := Bool.eq_false_of_not_eq_true active
  refine headerTurn_splits idle ready ?_ more
  intro complete
  rw [← mux.fillHeader_take] at complete ⊢
  have starts := FeedStep.start (first.take (headerBytes - mux.header.length)) idle (by
      have length := congrArg List.length (mux.fillHeader_header first)
      rw [← mux.fillHeader_take, complete, List.length_append] at length
      exact length.symm)
  exact (live.fed (.single ready starts)).range

theorem SameOutcome.trans {first second third : Result × List UInt8 × Mux}
    (one : SameOutcome first second) (two : SameOutcome second third) :
    SameOutcome first third := by
  rcases one with rfl | ⟨result, failed, same⟩
  · exact two
  rcases two with rfl | ⟨next, _, later⟩
  · exact .inr ⟨result, failed, same⟩
  · exact .inr ⟨result.trans next, failed, same.trans later⟩

/-- Feeding the rest goes on as if all had been fed. -/
theorem feedLoop_resumed (live : mux.Live) (ready : mux.failure = .ok) (first more : List UInt8) :
    SameOutcome (feedLoop mux (first ++ more)) (resumed (feedLoop mux first) more) := by
  fun_induction feedLoop mux first with
  | case1 _ first _ _ _ _ turn =>
    have splits := feedTurn_splits live ready first more
    rw [turn] at splits
    exact splits
  | case2 _ first _ _ _ turn ih =>
    have splits := feedTurn_splits live ready first more
    have sound := feedTurn_sound first ready
    rw [turn] at splits sound
    obtain ⟨⟨_, _, steps⟩, nextReady⟩ := sound
    exact splits.trans (ih (live.fed steps) (nextReady _ _ rfl))
  | case3 => exact .inl (if_pos ready).symm

/--
In every run it does not matter how the input of the parser is cut: feeding
the rest of a first part together with more leads to the mux, the consumed
bytes and the result of feeding both at once.  A mux that fails does so with
the same error, and differs at most in the payload it has discarded.
-/
theorem fragments_agree (now : Nat) (calls : List Call) (first more : List UInt8) :
    let mux := (World.run now calls).mux
    let whole := yamuxFeed mux (first ++ more)
    let part := yamuxFeed mux first
    let rest := yamuxFeed part.2.2 (first.drop part.2.1 ++ more)
    rest.1 = whole.1 ∧
      if whole.2.2.failure = .ok then
        rest.2.2 = whole.2.2 ∧ part.2.1 + rest.2.1 = whole.2.1
      else
        rest.2.2.blurred = whole.2.2.blurred := by
  intro mux
  have live : mux.Live := ⟨_, World.run_reachable now calls, rfl⟩
  by_cases ready : mux.failure = .ok
  swap
  · have failed (bytes : List UInt8) : yamuxFeed mux bytes = (mux.failure, 0, mux) := if_pos ready
    dsimp only
    rw [failed, failed, failed, if_neg ready]
    exact ⟨rfl, rfl⟩
  have feeds {mux : Mux} (ready : mux.failure = .ok) (bytes : List UInt8) :
      yamuxFeed mux bytes = ((feedLoop mux bytes).1, bytes.length - (feedLoop mux bytes).2.1.length,
        (feedLoop mux bytes).2.2) := if_neg (not_not.mpr ready)
  have same := feedLoop_resumed live ready first more
  have told := feedLoop_told ready first
  obtain ⟨_, split, _⟩ := feedLoop_steps mux first ready
  rw [feeds ready, feeds ready]
  generalize feedLoop mux first = stopped at *
  generalize feedLoop mux (first ++ more) = whole at *
  rcases stopped with ⟨result, left, next⟩
  have rest : first.drop (first.length - left.length) = left := by
    rw [split, List.length_append, Nat.add_sub_cancel, List.drop_left]
  dsimp only at *
  rw [rest]
  by_cases fine : next.failure = .ok
  · obtain ⟨_, splitLater, _⟩ := feedLoop_steps next (left ++ more) fine
    rw [resumed, if_pos fine] at same
    rw [feeds fine]
    generalize feedLoop next (left ++ more) = final at *
    rcases same with rfl | ⟨result, failed, blurred⟩
    · have before := congrArg List.length split
      have after := congrArg List.length splitLater
      rw [List.length_append] at before
      rw [List.length_append, List.length_append] at after
      refine ⟨rfl, ?_⟩
      dsimp only
      split
      · refine ⟨rfl, ?_⟩
        rw [List.length_append, List.length_append]
        omega
      · rfl
    · rw [if_neg failed]
      exact ⟨result.symm, blurred.symm⟩
  · rw [resumed, if_neg fine] at same
    rw [show yamuxFeed next (left ++ more) = (next.failure, 0, next) from if_pos fine]
    have stored := told.resolve_left fun kept => fine kept.1
    rcases same with rfl | ⟨error, failed, blurred⟩
    · rw [if_neg fine]
      exact ⟨stored, rfl⟩
    rw [if_neg failed]
    exact ⟨stored.trans error.symm, blurred.symm⟩

end EspFrp.Yamux

import EspFrp.Yamux.Feed
import Mathlib.Logic.Relation

/-!
# The input parser as a sequence of steps

The loop of `efrp_yamux_feed` interleaves six kinds of state change.
`FeedStep` names them, together with the input bytes that each one consumes,
and `feedLoop_steps` decomposes a call of the loop into such steps.  A
property of the mux and of the input consumed so far is then an invariant of
the parser as soon as every single step keeps it.
-/

namespace EspFrp.Yamux

open Library

/-- One state change of the parser and the bytes it consumes. -/
inductive FeedStep (mux : Mux) : List UInt8 → Mux → Prop where
  | fill (chunk : List UInt8) (idle : mux.frameActive = false)
      (fits : chunk.length ≤ headerBytes - mux.header.length)
      (incomplete : mux.header.length + chunk.length ≠ headerBytes) :
      FeedStep mux chunk (mux.fillHeader chunk)
  | start (chunk : List UInt8) (idle : mux.frameActive = false)
      (complete : mux.header.length + chunk.length = headerBytes) :
      FeedStep mux chunk (startFrame (mux.fillHeader chunk)).2
  | discard (chunk : List UInt8) (active : mux.frameActive = true)
      (discarded : mux.frameDiscard = true)
      (within : chunk.length ≤ mux.frameRemaining)
      (bounded : chunk.length ≤ sub32 discardLimit mux.discardedBytes) :
      FeedStep mux chunk (Mux.advanceFrame
          { mux with
            discardedBytes := add32 mux.discardedBytes chunk.length }
          chunk.length)
  | exhaust (count : Nat) (active : mux.frameActive = true) (discarded : mux.frameDiscard = true)
      (within : count ≤ mux.frameRemaining)
      (excessive : sub32 discardLimit mux.discardedBytes < count) :
      FeedStep mux [] (mux.fail .protocolError).2
  | store (chunk : List UInt8) (stream : Stream) (active : mux.frameActive = true)
      (kept : mux.frameDiscard = false)
      (found : mux.stream mux.frameId = some stream)
      (within : chunk.length ≤ mux.frameRemaining)
      (room : chunk.length ≤ stream.ring.available) :
      FeedStep mux chunk ((mux.setStream
          { stream with ring := stream.ring.write chunk }).advanceFrame
          chunk.length)
  | block (stream : Stream) (active : mux.frameActive = true)
      (found : mux.stream mux.frameId = some stream) :
      FeedStep mux [] (mux.setStream { stream with blocked := true, blockedMs := mux.nowMs })
  | lose (active : mux.frameActive = true) (kept : mux.frameDiscard = false)
      (missing : mux.stream mux.frameId = none) :
      FeedStep mux [] (mux.fail .invalidState).2

/-- A sequence of state changes, each made by a mux that has not failed. -/
inductive FeedSteps : Mux → List UInt8 → Mux → Prop where
  | refl (mux : Mux) : FeedSteps mux [] mux
  | step {mux middle final : Mux} {chunk rest : List UInt8} (ready : mux.failure = .ok)
      (head : FeedStep mux chunk middle)
      (tail : FeedSteps middle rest final) :
      FeedSteps mux (chunk ++ rest) final

namespace FeedSteps

theorem single (ready : mux.failure = .ok)
    (change : FeedStep mux chunk final) : FeedSteps mux chunk final := by
  simpa using FeedSteps.step ready change (.refl final)

theorem trans (head : FeedSteps mux first middle)
    (tail : FeedSteps middle second final) : FeedSteps mux (first ++ second) final := by
  induction head with
  | refl => simpa using tail
  | step ready change _ ih =>
    rw [List.append_assoc]
    exact .step ready change (ih tail)

end FeedSteps

/-! ## What the steps leave alone -/

@[simp]
theorem Mux.setStream_failure (mux : Mux) (stream : Stream) :
    (mux.setStream stream).failure = mux.failure := rfl

@[simp]
theorem Mux.resetState_failure (mux : Mux) (stream : Stream) :
    (mux.resetState stream).failure = mux.failure := by
  unfold Mux.resetState
  split <;> rfl

@[simp]
theorem endFrame_failure (mux : Mux) : (endFrame mux).failure = mux.failure := by
  unfold endFrame
  split
  · rfl
  · split <;> rfl

@[simp]
theorem Mux.advanceFrame_failure (mux : Mux) (count : Nat) :
    (mux.advanceFrame count).failure = mux.failure := by
  unfold Mux.advanceFrame
  dsimp only
  split
  · exact endFrame_failure _
  · rfl

@[simp]
theorem Mux.entered_failure (mux : Mux) (kind : Kind) (header : Header) :
    (mux.entered kind header).failure = mux.failure := by
  unfold Mux.entered
  split
  · exact endFrame_failure _
  · rfl

theorem Admitted.failure
    (admission : Admitted mux header admitted) : admitted.failure = mux.failure := by
  cases admission <;> rfl

theorem Applied.failure
    (application : Applied mux kind header applied) : applied.failure = mux.failure := by
  cases application <;> simp

/-- The result of `start_frame` tells whether the mux has failed. -/
theorem startFrame_failure (mux : Mux) (ready : mux.failure = .ok) :
    ((startFrame mux).1 = .ok ∨ (startFrame mux).1 = .wouldBlock) ∧
        (startFrame mux).2.failure = .ok ∨
      (startFrame mux).2.failure = (startFrame mux).1 ∧ (startFrame mux).1 ≠ .ok := by
  have outcome := startFrame_started mux
  generalize startFrame mux = result at outcome
  cases outcome with
  | violated | closed | rejected | excessive => exact Or.inr ⟨rfl, Result.noConfusion⟩
  | postponed => exact Or.inl ⟨Or.inr rfl, ready⟩
  | pinged | ponged | departed => exact Or.inl ⟨Or.inl rfl, ready⟩
  | entered _ _ _ _ admission application =>
    refine Or.inl ⟨Or.inl rfl, ?_⟩
    rw [Mux.entered_failure, application.failure, admission.failure]
    exact ready

/-! ## Decomposing the loop -/

/-- The state and the rest of the input after a turn. -/
def Turn.after : Turn → List UInt8 × Mux
  | .stop _ rest mux => (rest, mux)
  | .next rest mux => (rest, mux)

/-- A turn that goes on does so with a mux that has not failed. -/
def Turn.Sound (mux : Mux) (bytes : List UInt8) (turn : Turn) : Prop :=
  (∃ used, bytes = used ++ turn.after.1 ∧ FeedSteps mux used turn.after.2) ∧
    ∀ rest next, turn = .next rest next → next.failure = .ok

theorem payloadTurn_sound (bytes : List UInt8) (ready : mux.failure = .ok)
    (active : mux.frameActive = true) : (payloadTurn mux bytes).Sound mux bytes := by
  unfold payloadTurn
  by_cases empty : bytes = []
  · rw [if_pos empty]
    exact ⟨⟨[], rfl, .refl mux⟩, fun _ _ impossible => by cases impossible⟩
  rw [if_neg empty]
  by_cases discarded : mux.frameDiscard = true
  · rw [if_pos discarded]
    split
    · next excessive =>
      refine ⟨⟨[], rfl, .single ready (.exhaust _ active discarded (Nat.min_le_right _ _)
          excessive)⟩, ?_⟩
      intro _ _ impossible
      cases impossible
    · next bounded =>
      have chunkLength : (bytes.take (min bytes.length mux.frameRemaining)).length =
            min bytes.length mux.frameRemaining := by
        rw [List.length_take]
        omega
      have change := FeedStep.discard (bytes.take (min bytes.length mux.frameRemaining))
        active discarded (by omega) (by omega)
      rw [chunkLength] at change
      refine ⟨⟨_, (List.take_append_drop _ _).symm, .single ready change⟩, ?_⟩
      rintro _ _ ⟨⟩
      rw [Mux.advanceFrame_failure]
      exact ready
  · have kept := Bool.eq_false_of_not_eq_true discarded
    rw [if_neg discarded]
    cases found : mux.stream mux.frameId with
    | none =>
      refine ⟨⟨[], rfl, .single ready (.lose active kept found)⟩, ?_⟩
      intro _ _ impossible
      cases impossible
    | some stream =>
      dsimp only
      by_cases full : stream.ring.available = 0
      · rw [if_pos full]
        refine ⟨⟨[], rfl, ?_⟩, fun _ _ impossible => by cases impossible⟩
        by_cases blocked : stream.blocked = true
        · simp only [Turn.after, blocked, if_true]
          exact .refl mux
        simp only [Turn.after, blocked]
        exact .single ready (.block stream active found)
      · rw [if_neg full]
        generalize countEq : min bytes.length mux.frameRemaining = count
        have written : stream.ring.write (bytes.take count) = stream.ring.write
                (bytes.take (min count stream.ring.available)) := by
          rw [← Ring.write_take_available, List.take_take, Nat.min_comm]
        have chunkLength : (bytes.take (min count stream.ring.available)).length =
              min count stream.ring.available := by
          rw [List.length_take]
          omega
        have change := FeedStep.store (bytes.take (min count stream.ring.available)) stream
          active kept found (by omega) (by omega)
        rw [chunkLength, ← written] at change
        refine ⟨⟨_, (List.take_append_drop _ _).symm, .single ready change⟩, ?_⟩
        rintro _ _ ⟨⟩
        rw [Mux.advanceFrame_failure]
        exact ready

theorem Mux.fillHeader_failure (mux : Mux) (bytes : List UInt8) :
    (mux.fillHeader bytes).failure = mux.failure := by
  unfold Mux.fillHeader
  dsimp only
  split <;> rfl

theorem Mux.fillHeader_header (mux : Mux) (bytes : List UInt8) :
    (mux.fillHeader bytes).header = mux.header ++ bytes.take (headerBytes - mux.header.length) := by
  unfold Mux.fillHeader
  dsimp only
  split
  · next none => rw [none, List.append_nil]
  · rfl

theorem Mux.fillHeader_take (mux : Mux) (bytes : List UInt8) :
    mux.fillHeader (bytes.take (headerBytes - mux.header.length)) = mux.fillHeader bytes := by
  unfold Mux.fillHeader
  rw [List.take_take, Nat.min_self]

theorem headerTurn_sound (bytes : List UInt8) (ready : mux.failure = .ok)
    (idle : mux.frameActive = false) : (headerTurn mux bytes).Sound mux bytes := by
  have filledReady : (mux.fillHeader bytes).failure = .ok :=
    (mux.fillHeader_failure bytes).trans ready
  have split := List.take_append_drop (headerBytes - mux.header.length) bytes
  have filledLength := congrArg List.length (mux.fillHeader_header bytes)
  rw [List.length_append] at filledLength
  unfold headerTurn
  by_cases complete : (mux.fillHeader bytes).header.length = headerBytes
  · rw [if_neg (not_not.mpr complete)]
    have starting : FeedSteps mux (bytes.take (headerBytes - mux.header.length))
          (startFrame (mux.fillHeader bytes)).2 := by
      rw [← mux.fillHeader_take bytes]
      exact .single ready (.start _ idle (by omega))
    have outcome := startFrame_failure (mux.fillHeader bytes) filledReady
    by_cases accepted : (startFrame (mux.fillHeader bytes)).1 = .ok
    · rw [if_neg (not_not.mpr accepted)]
      have startedReady : (startFrame (mux.fillHeader bytes)).2.failure = .ok := by
        rcases outcome with ⟨_, fine⟩ | ⟨_, wrong⟩
        · exact fine
        · exact absurd accepted wrong
      by_cases active : (startFrame (mux.fillHeader bytes)).2.frameActive = true
      · rw [if_pos active]
        rcases payloadTurn_sound (bytes.drop (headerBytes - mux.header.length))
            startedReady active with
          ⟨⟨used, rest, steps⟩, continues⟩
        refine ⟨⟨_, ?_, starting.trans steps⟩, continues⟩
        rw [List.append_assoc, ← rest, split]
      · rw [if_neg active]
        refine ⟨⟨_, split.symm, starting⟩, ?_⟩
        rintro _ _ ⟨⟩
        exact startedReady
    · rw [if_pos accepted]
      refine ⟨⟨_, split.symm, starting⟩, ?_⟩
      intro _ _ impossible
      cases impossible
  · rw [if_pos complete]
    have filling : FeedSteps mux (bytes.take (headerBytes - mux.header.length))
          (mux.fillHeader bytes) := by
      rw [← mux.fillHeader_take bytes]
      exact .single ready (.fill _ idle (List.length_take_le _ _) (by omega))
    refine ⟨⟨_, split.symm, filling⟩, ?_⟩
    intro _ _ impossible
    cases impossible

theorem feedTurn_sound (bytes : List UInt8) (ready : mux.failure = .ok) :
    (feedTurn mux bytes).Sound mux bytes := by
  unfold feedTurn
  by_cases active : mux.frameActive = true
  · rw [if_pos active]
    exact payloadTurn_sound bytes ready active
  rw [if_neg active]
  exact headerTurn_sound bytes ready (Bool.eq_false_of_not_eq_true active)

/-- The loop consumes a prefix of the input, step by step. -/
theorem feedLoop_steps (mux : Mux) (bytes : List UInt8) (ready : mux.failure = .ok) :
    ∃ used, bytes = used ++ (feedLoop mux bytes).2.1 ∧
      FeedSteps mux used (feedLoop mux bytes).2.2 := by
  fun_induction feedLoop mux bytes with
  | case1 _ bytes _ _ _ _ turn =>
    have sound := feedTurn_sound bytes ready
    rw [turn] at sound
    exact sound.1
  | case2 _ bytes _ _ _ turn ih =>
    have sound := feedTurn_sound bytes ready
    rw [turn] at sound
    rcases sound with ⟨⟨used, split, steps⟩, nextReady⟩
    rcases ih (nextReady _ _ rfl) with ⟨later, laterSplit, laterSteps⟩
    refine ⟨used ++ later, ?_, steps.trans laterSteps⟩
    rw [List.append_assoc, ← laterSplit]
    exact split
  | case3 mux => exact ⟨[], rfl, .refl mux⟩

/-- The result of a feed tells whether the mux has failed. -/
def Told (result : Result) (mux : Mux) : Prop :=
  (mux.failure = .ok ∧ (result = .ok ∨ result = .wouldBlock)) ∨ mux.failure = result

theorem payloadTurn_told (ready : mux.failure = .ok)
    (stops : payloadTurn mux bytes = .stop result rest next) : Told result next := by
  unfold payloadTurn at stops
  dsimp only at stops
  split at stops
  · cases stops
    exact .inl ⟨ready, .inl rfl⟩
  split at stops
  · split at stops
    · cases stops
      exact .inr rfl
    · cases stops
  · split at stops
    · cases stops
      exact .inr rfl
    split at stops
    · cases stops
      refine .inl ⟨?_, .inr rfl⟩
      split <;> exact ready
    · cases stops

theorem feedTurn_told (ready : mux.failure = .ok)
    (stops : feedTurn mux bytes = .stop result rest next) : Told result next := by
  unfold feedTurn at stops
  split at stops
  · exact payloadTurn_told ready stops
  have filled := (mux.fillHeader_failure bytes).trans ready
  have outcome := startFrame_failure _ filled
  unfold headerTurn at stops
  dsimp only at stops
  split at stops
  · cases stops
    exact .inl ⟨filled, .inl rfl⟩
  split at stops
  · cases stops
    rcases outcome with ⟨fine, kept⟩ | ⟨stored, _⟩
    · exact .inl ⟨kept, fine⟩
    · exact .inr stored
  · next started =>
    split at stops
    · refine payloadTurn_told ?_ stops
      rcases outcome with ⟨_, kept⟩ | ⟨_, wrong⟩
      · exact kept
      · exact absurd wrong started
    · cases stops

theorem feedLoop_told (ready : mux.failure = .ok) (bytes : List UInt8) :
    Told (feedLoop mux bytes).1 (feedLoop mux bytes).2.2 := by
  fun_induction feedLoop mux bytes with
  | case1 _ _ _ _ _ _ turn => exact feedTurn_told ready turn
  | case2 _ bytes _ rest next turn ih => exact ih ((feedTurn_sound bytes ready).2 rest next turn)
  | case3 => exact .inl ⟨ready, .inl rfl⟩

theorem yamuxFeed_told (mux : Mux) (bytes : List UInt8) :
    Told (yamuxFeed mux bytes).1 (yamuxFeed mux bytes).2.2 := by
  unfold yamuxFeed
  split
  · exact .inr rfl
  · next ready => exact feedLoop_told (not_ne_iff.mp ready) bytes

/-- The bytes that a call of `efrp_yamux_feed` reports as consumed. -/
theorem yamuxFeed_steps (mux : Mux) (bytes : List UInt8) :
    (yamuxFeed mux bytes).2.2 = mux ∧ (yamuxFeed mux bytes).2.1 = 0 ∨ mux.failure = .ok ∧
        FeedSteps mux (bytes.take (yamuxFeed mux bytes).2.1) (yamuxFeed mux bytes).2.2 := by
  unfold yamuxFeed
  by_cases failed : mux.failure ≠ .ok
  · rw [if_pos failed]
    exact Or.inl ⟨rfl, rfl⟩
  rw [if_neg failed]
  have ready := not_ne_iff.mp failed
  rcases feedLoop_steps mux bytes ready with ⟨used, split, steps⟩
  refine Or.inr ⟨ready, ?_⟩
  have prefixEq : bytes.take (bytes.length - (feedLoop mux bytes).2.1.length) =
        used := by
    generalize (feedLoop mux bytes).2.1 = rest at split
    rw [split, List.length_append, Nat.add_sub_cancel]
    exact List.take_left
  rw [prefixEq]
  exact steps

/-! ## Elementary changes -/

/-- How the parser or a reset changes a stream. -/
structure StreamEdit (now : Nat) (old new : Stream) : Prop where
  id : new.id = old.id
  reset : old.reset = true → new.reset = true
  openedMs : new.openedMs = old.openedMs
  blockedMs : new.blockedMs = old.blockedMs ∨ new.blockedMs = now
  due : old.grantDue = false → new.grantDue = false

/-- An elementary change that the parser or a reset makes. -/
inductive Edit (mux : Mux) : Mux → Prop where
  | enqueue (header : Header) : Edit mux (mux.enqueue header)
  | stream {id : Nat} {old new : Stream} (found : mux.stream id = some old)
      (edit : StreamEdit mux.nowMs old new) :
      Edit mux (mux.setStream new)
  | parser {next : Mux} (kept : next =
        { mux with
          header := next.header
          headerStartedMs := next.headerStartedMs
          inputProgressMs := next.inputProgressMs
          frameId := next.frameId
          frameRemaining := next.frameRemaining
          frameFlags := next.frameFlags
          frameActive := next.frameActive
          frameDiscard := next.frameDiscard
          drainStartedMs := next.drainStartedMs
          discardedBytes := next.discardedBytes
          peerLastId := next.peerLastId
          pingPending := next.pingPending
          remoteGoaway := next.remoteGoaway
          failure := next.failure })
      (started : next.headerStartedMs = mux.headerStartedMs ∨ next.headerStartedMs = mux.nowMs)
      (progress : next.inputProgressMs = mux.inputProgressMs ∨ next.inputProgressMs = mux.nowMs)
      (drain : next.drainStartedMs = mux.drainStartedMs ∨ next.drainStartedMs = mux.nowMs) :
      Edit mux next

/-- A sequence of elementary changes. -/
abbrev Edits : Mux → Mux → Prop := Relation.ReflTransGen Edit

namespace Edits

theorem fillHeader (mux : Mux) (chunk : List UInt8) : Edits mux (mux.fillHeader chunk) := by
  unfold Mux.fillHeader
  dsimp only
  split
  · exact .refl
  · exact .single (.parser rfl (ite_eq_or_eq _ _ _).symm (.inr rfl) (.inl rfl))

theorem resetState {id : Nat} (found : mux.stream id = some old)
    (sameId : stream.id = old.id) (opened : stream.openedMs = old.openedMs)
    (blocked : stream.blockedMs = old.blockedMs) : Edits mux (mux.resetState stream) := by
  have cleared : Edits mux (mux.setStream stream.cleared) :=
    .single (.stream found ⟨sameId, fun _ => rfl, opened, .inl blocked, by
      simp [Stream.grantDue, Stream.cleared]⟩)
  unfold Mux.resetState
  split
  · exact cleared.tail (.parser rfl (.inl rfl) (.inl rfl) (.inr rfl))
  · exact cleared

theorem endFrame (mux : Mux) : Edits mux (endFrame mux) := by
  rcases endFrame_cases mux with ⟨_, ended⟩ | ⟨stream, found, _, _, ended⟩
  · rw [ended]
    exact .single (.parser rfl (.inl rfl) (.inl rfl) (.inl rfl))
  rw [ended]
  have finished : Edits mux (mux.setStream { stream with remoteFin := true }) :=
    .single (.stream found ⟨rfl, id, rfl, .inl rfl, by simp [Stream.grantDue]⟩)
  exact finished.tail (.parser rfl (.inl rfl) (.inl rfl) (.inl rfl))

theorem advanceFrame (mux : Mux) (count : Nat) : Edits mux (mux.advanceFrame count) := by
  unfold Mux.advanceFrame
  dsimp only
  split
  · refine .head ?_ (endFrame _)
    exact .parser rfl (.inl rfl) (.inr rfl) (.inl rfl)
  · exact .single (.parser rfl (.inl rfl) (.inr rfl) (.inl rfl))

theorem entered (mux : Mux) (kind : Kind) (header : Header) :
    Edits mux (mux.entered kind header) := by
  have active : Edit mux (mux.activate kind header) :=
    .parser rfl (.inl rfl) (.inl rfl) (ite_eq_or_eq _ _ _).symm
  unfold Mux.entered
  split
  · exact (endFrame _).head active
  · exact .single active

theorem admitted (admission : Admitted mux header next) : Edits mux next := by
  cases admission with
  | peerOpened => exact .tail (.single (.enqueue _)) (.parser rfl (.inl rfl) (.inl rfl) (.inl rfl))
  | known => exact .refl

theorem applied (application : Applied mux kind header next) : Edits mux next := by
  cases application with
  | ignored => exact .refl
  | received stream found => exact .single (.stream found ⟨rfl, id, rfl, .inl rfl, id⟩)
  | aborted _ found => exact resetState found rfl rfl rfl

theorem started (started : Started mux header outcome) : Edits mux outcome.2 := by
  cases started with
  | postponed => exact .refl
  | pinged => exact .tail (.single (.enqueue _)) (.parser rfl (.inl rfl) (.inl rfl) (.inl rfl))
  | rejected _ admitted _ _ admission =>
    exact (Edits.admitted admission).tail (.parser rfl (.inl rfl) (.inl rfl) (.inl rfl))
  | excessive _ admitted applied _ admission application =>
    exact ((Edits.admitted admission).trans (Edits.applied application)).tail
      (.parser rfl (.inl rfl) (.inl rfl) (.inl rfl))
  | entered kind admitted applied _ admission application =>
    exact ((Edits.admitted admission).trans
      (Edits.applied application)).trans (entered _ kind header)
  | _ => exact .single (.parser rfl (.inl rfl) (.inl rfl) (.inl rfl))

theorem of_feedStep (change : FeedStep mux chunk next) : Edits mux next := by
  cases change with
  | fill => exact fillHeader mux chunk
  | start => exact (fillHeader mux chunk).trans (started (startFrame_started _))
  | discard =>
    refine .head ?_ (advanceFrame _ _)
    exact .parser rfl (.inl rfl) (.inl rfl) (.inl rfl)
  | store _ stream _ _ found =>
    refine .head ?_ (advanceFrame _ _)
    exact .stream found ⟨rfl, id, rfl, .inl rfl, id⟩
  | block stream _ found => exact .single (.stream found ⟨rfl, id, rfl, .inr rfl, id⟩)
  | _ => exact .single (.parser rfl (.inl rfl) (.inl rfl) (.inl rfl))

theorem of_feedSteps (steps : FeedSteps mux used next) : Edits mux next := by
  induction steps with
  | refl => exact .refl
  | step _ change _ ih => exact (of_feedStep change).trans ih

theorem of_reset (mux : Mux) (id : Nat) : Edits mux (yamuxReset mux id).2 := by
  unfold yamuxReset
  split
  · exact .refl
  split
  · exact .refl
  next stream found =>
  split
  · exact .refl
  rcases mux.queue_cases .window rstFlag id 0 with ⟨_, queued⟩ | ⟨_, queued⟩
  · rw [queued]
  · rw [queued]
    refine .head (.enqueue (Header.make .window rstFlag id 0)) ?_
    exact resetState found rfl rfl rfl

theorem of_resetOverdue (mux : Mux) (slots : List Nat) : Edits mux (mux.resetOverdue slots).2 := by
  induction slots generalizing mux with
  | nil => exact .refl
  | cons _ _ ih =>
    unfold Mux.resetOverdue
    split
    · exact ih mux
    next stream _ =>
    split
    · have resetting := of_reset mux stream.id
      split
      · next cleared outcome =>
        rw [outcome] at resetting
        exact resetting.trans (ih cleared)
      · next unchanged _ outcome =>
        rw [outcome] at resetting
        exact resetting.tail (.parser rfl (.inl rfl) (.inl rfl) (.inl rfl))
    · exact ih mux

end Edits

end EspFrp.Yamux

import EspFrp.Yamux.Table

/-!
# Receive credit

The initial window of a stream is split at any time into the credit that the
peer may still use, the bytes in the ring, the credit that is waiting to be
returned, the grant in the output slot and the rest of the active frame.
`Mux.Accounts` states that split for every live stream, together with the
facts about the output slot and the active frame that keep it an invariant.
-/

namespace EspFrp.Yamux

open Library

/-! ## The accounts -/

/-- The credit of a stream that the output slot carries. -/
def Mux.grantFor (mux : Mux) (id : Nat) : Nat :=
  if mux.outputGrantId = id then mux.outputGrantBytes else 0

/-- The payload that the active frame still brings to a stream. -/
def Mux.frameFor (mux : Mux) (id : Nat) : Nat :=
  if mux.frameActive = true ∧ mux.frameDiscard = false ∧ mux.frameId = id then
    mux.frameRemaining
  else
    0

/-- Everything the window of a stream is split into. -/
def Mux.balance (mux : Mux) (stream : Stream) : Nat :=
  stream.receiveCredit + stream.ring.used + stream.returnCredit +
    mux.grantFor stream.id + mux.frameFor stream.id

/-- The window of every live stream is accounted for. -/
structure Mux.Accounts (mux : Mux) : Prop where
  idle : mux.output = [] → mux.outputGrantId = 0
  granted : mux.outputGrantId = 0 ∨ Opened mux.nextId mux.outputGrantId
  receiving : mux.frameActive = true → mux.frameDiscard = false → discards mux mux.frameId = false
  balanced : ∀ id stream, mux.stream id = some stream →
    stream.reset = false → mux.balance stream = initialWindow

variable {stream : Stream}

theorem Stream.grantDue_iff : stream.grantDue = true ↔
      stream.id ≠ 0 ∧ stream.reset = false ∧
        stream.remoteFin = false ∧ stream.returnCredit ≠ 0 := by
  simp [Stream.grantDue]

variable {mux : Mux}

theorem discards_of_found {id : Nat}
    (found : mux.stream id = some stream) : discards mux id = stream.reset := by
  simp only [discards, found]

theorem discards_congr {mux next : Mux} {id : Nat} (same : next.stream id = mux.stream id) :
    discards next id = discards mux id := by
  unfold discards
  rw [same]

namespace Mux.Accounts

variable {mux next : Mux} {id : Nat} {stream old new : Stream}

section

variable (accounts : mux.Accounts)
include accounts

/-- The accounts look at the streams, the output slot and the frame. -/
theorem congr (streams : next.streams = mux.streams) (nextId : next.nextId = mux.nextId)
    (output : next.output = [] → mux.output = [])
    (grantId : next.outputGrantId = mux.outputGrantId)
    (grantBytes : next.outputGrantBytes = mux.outputGrantBytes)
    (active : next.frameActive = mux.frameActive) (discard : next.frameDiscard = mux.frameDiscard)
    (frameId : next.frameId = mux.frameId) (remaining : next.frameRemaining = mux.frameRemaining) :
    next.Accounts where
  idle := fun free => grantId.trans (accounts.idle (output free))
  granted := by
    rw [grantId, nextId]
    exact accounts.granted
  receiving := by
    rw [active, discard, frameId, discards_congr (congrFun (stream_congr streams) _)]
    exact accounts.receiving
  balanced := by
    intro id stream found alive
    rw [stream_congr streams] at found
    have balanced := accounts.balanced id stream found alive
    unfold Mux.balance Mux.grantFor Mux.frameFor at *
    rw [grantId, grantBytes, active, discard, frameId, remaining]
    exact balanced

theorem receiveCredit_le (found : mux.stream id = some stream)
    (alive : stream.reset = false) : stream.receiveCredit ≤ initialWindow := by
  have balanced := accounts.balanced id stream found alive
  unfold Mux.balance at balanced
  omega

/-- No grant is in flight for the id of a new stream. -/
theorem grantFor_fresh (available : mux.nextId ≠ 0) : mux.grantFor mux.nextId = 0 := by
  have notNext : mux.outputGrantId ≠ mux.nextId := by
    rcases accounts.granted with zero | opened
    · omega
    have past := opened.past
    omega
  exact if_neg notNext

/-- No payload is in flight for an id that is not in the table. -/
theorem frameFor_of_discards (discarded : discards mux id = true) : mux.frameFor id = 0 := by
  refine if_neg ?_
  rintro ⟨active, kept, rfl⟩
  have live := accounts.receiving active kept
  rw [discarded] at live
  cases live

/-- A rewritten stream that stays alive or stays reset. -/
theorem rewrite (found : mux.stream id = some old)
    (streams : next.stream = Function.update mux.stream id (some new))
    (sameReset : new.reset = old.reset)
    (idle : next.output = [] → next.outputGrantId = 0)
    (granted : next.outputGrantId = 0 ∨ Opened next.nextId next.outputGrantId)
    (frame : next.frameActive = true → mux.frameActive = true ∧
        next.frameDiscard = mux.frameDiscard ∧
        next.frameId = mux.frameId) (others : ∀ other stream, other ≠ id →
      mux.stream other = some stream → stream.reset = false →
        next.grantFor other = mux.grantFor other ∧ next.frameFor other = mux.frameFor other)
    (here : new.reset = false → mux.balance old = initialWindow →
      next.balance new = initialWindow) :
    next.Accounts where
  idle := idle
  granted := granted
  receiving := by
    intro active kept
    rcases frame active with ⟨before, discard, frameId⟩
    have live := accounts.receiving before (discard ▸ kept)
    rw [frameId]
    by_cases same : mux.frameId = id
    · rw [same, discards_of_found found] at live
      have foundNow : next.stream id = some new := by rw [streams, Function.update_self]
      rw [same, discards_of_found foundNow, sameReset]
      exact live
    · have unchanged : next.stream mux.frameId = mux.stream mux.frameId := by
        rw [streams, Function.update_of_ne same]
      rw [discards_congr unchanged]
      exact live
  balanced := by
    intro other stream foundNow alive
    rcases update_found streams foundNow with ⟨rfl, ⟨⟩⟩ | ⟨same, foundNow⟩
    · exact here alive (accounts.balanced other old found (sameReset ▸ alive))
    have balanced := accounts.balanced other stream foundNow alive
    rcases others other stream same foundNow alive with ⟨grant, frame⟩
    have sameId := stream_id foundNow
    unfold Mux.balance at balanced ⊢
    rw [sameId] at balanced ⊢
    rw [grant, frame]
    exact balanced

/-- A rewritten stream whose credit and ring stay as they are. -/
theorem setStream (found : mux.stream id = some old) (sameId : new.id = old.id)
    (same : new.reset = old.reset ∧ new.receiveCredit = old.receiveCredit ∧
      new.ring = old.ring ∧ new.returnCredit = old.returnCredit) :
    (mux.setStream new).Accounts := by
  have streams := stream_setStream found new sameId
  refine accounts.rewrite found streams same.1 accounts.idle accounts.granted
    (fun active => ⟨active, rfl, rfl⟩) (fun _ _ _ _ _ => ⟨rfl, rfl⟩) ?_
  intro _ balanced
  unfold Mux.balance
  rw [same.2.1, same.2.2.1, same.2.2.2, sameId]
  exact balanced

/-- A stream that leaves the table or is reset takes its frame along. -/
theorem abandon (id : Nat) (streams : ∀ other, other ≠ id → next.stream other = mux.stream other)
    (gone : discards next id = true)
    (idle : next.output = [] → next.outputGrantId = 0)
    (nextId : next.nextId = mux.nextId)
    (grantId : next.outputGrantId = mux.outputGrantId)
    (grantBytes : next.outputGrantBytes = mux.outputGrantBytes)
    (frame : next.frameActive = mux.frameActive ∧ next.frameId = mux.frameId ∧
      next.frameRemaining = mux.frameRemaining) (discard : next.frameDiscard =
      (mux.frameDiscard || (mux.frameActive && mux.frameId == id))) :
    next.Accounts where
  idle := idle
  granted := by
    rw [grantId, nextId]
    exact accounts.granted
  receiving := by
    rw [frame.1, frame.2.1, discard]
    intro active kept
    have apart : mux.frameId ≠ id := by
      intro same
      simp [active, same] at kept
    have keptBefore : mux.frameDiscard = false := by
      simp only [Bool.or_eq_false_iff] at kept
      exact kept.1
    rw [discards_congr (streams _ apart)]
    exact accounts.receiving active keptBefore
  balanced := by
    intro other stream found alive
    have apart : other ≠ id := by
      rintro rfl
      rw [discards_of_found found, alive] at gone
      cases gone
    rw [streams _ apart] at found
    have balanced := accounts.balanced other stream found alive
    have frameSame : next.frameFor other = mux.frameFor other := by
      unfold Mux.frameFor
      rw [frame.1, frame.2.1, frame.2.2, discard]
      by_cases here : mux.frameId = other
      · have otherFrame : mux.frameId ≠ id := fun same => apart (here.symm.trans same)
        simp [otherFrame]
      · simp [here]
    have sameId := stream_id found
    unfold Mux.balance at balanced ⊢
    rw [sameId] at balanced ⊢
    rw [frameSame]
    unfold Mux.grantFor at balanced ⊢
    rw [grantId, grantBytes]
    exact balanced

end

/-! ## The calls -/

theorem init (now : Nat) : (yamuxInit now).Accounts where
  idle := fun _ => rfl
  granted := Or.inl rfl
  receiving := nofun
  balanced := by
    intro id stream found
    have member := stream_mem found
    have fresh : stream = {} := List.eq_of_mem_replicate member
    have zero := stream_id found
    rw [fresh] at zero
    exact absurd zero.symm (stream_ne_zero found)

section

variable (accounts : mux.Accounts)
include accounts

theorem opening (table : mux.Table) (available : mux.nextId ≠ 0)
    (slot : Slots.lookup Stream.id 0 mux.streams = some free) : mux.opening.Accounts := by
  have streams := stream_opening available slot table.fresh
  have unknown : discards mux mux.nextId = true := by simp only [discards, table.fresh]
  refine ⟨accounts.idle, ?_, ?_, ?_⟩
  · exact accounts.granted.imp_right (table.opened_opening available)
  · intro active kept
    have live := accounts.receiving active kept
    have apart : mux.frameId ≠ mux.nextId := by
      intro same
      rw [same, unknown] at live
      cases live
    have unchanged : mux.opening.stream mux.frameId = mux.stream mux.frameId := by
      rw [streams, Function.update_of_ne apart]
    exact (discards_congr unchanged).trans live
  · intro id stream found alive
    rcases update_found streams found with ⟨here, ⟨⟩⟩ | ⟨here, found⟩
    · have grant := accounts.grantFor_fresh available
      have frame := accounts.frameFor_of_discards unknown
      change initialWindow + 0 + 0 + mux.grantFor mux.nextId +
        mux.frameFor mux.nextId = initialWindow
      omega
    · exact accounts.balanced id stream found alive

theorem resetState (found : mux.stream id = some old) (stream : Stream)
    (same : stream.id = old.id) : (mux.resetState stream).Accounts := by
  have streams := stream_resetState found stream same
  have discard := mux.resetState_frameDiscard stream
  refine accounts.abandon id ?_ ?_ ?_ ?_ ?_ ?_ ?_ ?_
  · intro other apart
    rw [streams, Function.update_of_ne apart]
  · exact discards_of_found (stream_resetState_self found stream same)
  · rw [resetState_eq]
    exact accounts.idle
  · rw [resetState_eq]
    rfl
  · rw [resetState_eq]
    rfl
  · rw [resetState_eq]
    rfl
  · rw [resetState_eq]
    exact ⟨rfl, rfl, rfl⟩
  · rw [discard, same, stream_id found]

theorem releasing (table : mux.Table) (found : mux.stream id = some stream) :
    (mux.releasing id).Accounts := by
  have streams := stream_releasing table.distinct (stream_ne_zero found)
  refine accounts.abandon id ?_ ?_ accounts.idle rfl rfl rfl ⟨rfl, rfl, rfl⟩ ?_
  · intro other apart
    rw [streams, Function.update_of_ne apart]
  · simp only [discards, streams, Function.update_self]
  · change (if mux.frameActive = true ∧ mux.frameId = id then true
      else mux.frameDiscard) = _
    by_cases taken : mux.frameActive = true ∧ mux.frameId = id
    · simp [taken.1, taken.2]
    rw [if_neg taken]
    have apart : (mux.frameActive && mux.frameId == id) = false := by simpa using taken
    rw [apart, Bool.or_false]

theorem stageGrant (table : mux.Table) (free : mux.output = [])
    (member : mux.streams[slot]? = some stream) (due : stream.grantDue = true) :
    (mux.stageGrant slot stream).Accounts := by
  have conditions := Stream.grantDue_iff.mp due
  have found := table.stream_of_mem (List.mem_of_getElem? member) conditions.1
  have opened := table.opened_of_stream found
  have slotFree := accounts.idle free
  have streams := stream_setStream found { stream with returnCredit := 0 } rfl
  refine accounts.rewrite found streams rfl ?_ (Or.inr opened)
    (fun active => ⟨active, rfl, rfl⟩) ?_ ?_
  · intro empty
    exact absurd empty (Header.encode_ne_nil _)
  · intro other _ apart foundOther _
    have before : mux.outputGrantId ≠ other := by
      rw [slotFree]
      exact (stream_ne_zero foundOther).symm
    refine ⟨?_, rfl⟩
    exact (if_neg apart.symm).trans (if_neg before).symm
  · intro _ balanced
    have before : mux.grantFor stream.id = 0 := by
      refine if_neg ?_
      rw [slotFree]
      exact conditions.1.symm
    have after : (mux.stageGrant slot stream).grantFor stream.id =
          stream.returnCredit :=
      if_pos rfl
    unfold Mux.balance at balanced ⊢
    change stream.receiveCredit + stream.ring.used + 0 + (mux.stageGrant slot stream).grantFor
      stream.id + mux.frameFor stream.id = initialWindow
    omega

theorem handOverGrant (found : mux.stream mux.outputGrantId = some stream)
    (alive : stream.reset = false)
    (bounded : mux.outputGrantBytes ≤ sub32 initialWindow stream.receiveCredit) :
    ((mux.handing count).setStream
      { stream with
        receiveCredit :=
          add32 stream.receiveCredit mux.outputGrantBytes }).clearOutput.Accounts := by
  have sameId := stream_id found
  have credit := accounts.receiveCredit_le found alive
  have within : stream.receiveCredit + mux.outputGrantBytes < word32 := by
    rw [sub32_of_le credit (by decide)] at bounded
    simp only [word32, initialWindow] at *
    omega
  have streams := stream_setStream found
    { stream with
      receiveCredit := add32 stream.receiveCredit mux.outputGrantBytes } rfl
  have occupied := stream_ne_zero found
  refine accounts.rewrite found streams rfl (fun _ => rfl)
    (Or.inl rfl) (fun active => ⟨active, rfl, rfl⟩) ?_ ?_
  · intro other _ apart foundOther _
    refine ⟨?_, rfl⟩
    exact (if_neg (stream_ne_zero foundOther).symm).trans (if_neg apart.symm).symm
  · intro _ balanced
    have before : mux.grantFor stream.id = mux.outputGrantBytes := if_pos sameId.symm
    unfold Mux.balance at balanced
    change add32 stream.receiveCredit mux.outputGrantBytes + stream.ring.used +
      stream.returnCredit + (if 0 = stream.id then 0 else 0) + mux.frameFor stream.id =
      initialWindow
    rw [add32_of_lt within, ite_self]
    omega

theorem handOverLast (unclaimed : discards mux mux.outputGrantId = true) :
    (mux.handing count).clearOutput.Accounts where
  idle := fun _ => rfl
  granted := Or.inl rfl
  receiving := accounts.receiving
  balanced := by
    intro id stream found alive
    have balanced := accounts.balanced id stream found alive
    have sameId := stream_id found
    have apart : mux.outputGrantId ≠ stream.id := by
      intro same
      have claimed : discards mux id = stream.reset := discards_of_found found
      rw [same, sameId, claimed, alive] at unclaimed
      cases unclaimed
    have before : mux.grantFor stream.id = 0 := if_neg apart
    unfold Mux.balance at balanced
    change stream.receiveCredit + stream.ring.used + stream.returnCredit +
      (if 0 = stream.id then 0 else 0) + mux.frameFor stream.id = initialWindow
    rw [ite_self]
    omega

theorem reading (found : mux.stream id = some stream) :
    (mux.setStream (stream.reading capacity)).Accounts := by
  refine accounts.rewrite found (stream_setStream found (stream.reading capacity) rfl)
    rfl accounts.idle accounts.granted (fun active => ⟨active, rfl, rfl⟩)
    (fun _ _ _ _ _ => ⟨rfl, rfl⟩) ?_
  intro _ balanced
  unfold Mux.balance at balanced
  have credit : stream.returnCredit + min capacity stream.ring.used <
        word32 := by
    simp only [word32, initialWindow] at *
    omega
  change stream.receiveCredit + (stream.ring.used - min capacity stream.ring.used) +
    add32 stream.returnCredit (min capacity stream.ring.used) +
    mux.grantFor stream.id + mux.frameFor stream.id = initialWindow
  rw [add32_of_lt credit]
  omega

/-! ## The parser -/

theorem fillHeader (chunk : List UInt8) : (mux.fillHeader chunk).Accounts := by
  unfold Mux.fillHeader
  dsimp only
  split
  · exact accounts
  · exact accounts.congr rfl rfl id rfl rfl rfl rfl rfl rfl

theorem admitted {header : Header} (admission : Admitted mux header next) : next.Accounts := by
  cases admission with
  | peerOpened => exact accounts.congr rfl rfl id rfl rfl rfl rfl rfl rfl
  | known => exact accounts

end

section

variable (accounts : mux.Accounts) (inactive : mux.frameActive = false) {header : Header}
include accounts inactive

/-- A frame whose payload is dropped brings nothing to any stream. -/
theorem activate_discarded (discarded : discards mux header.id = true) :
    (mux.activate kind header).Accounts where
  idle := accounts.idle
  granted := accounts.granted
  receiving := by
    intro _ kept
    rw [show (mux.activate kind header).frameDiscard =
      discards mux header.id from rfl, discarded] at kept
    cases kept
  balanced := by
    intro id stream found alive
    have balanced := accounts.balanced id stream found alive
    have before : mux.frameFor stream.id = 0 := if_neg fun active => by simp [inactive] at active
    have after : (mux.activate kind header).frameFor stream.id = 0 := by
      refine if_neg fun active => ?_
      have kept : discards mux header.id = false := active.2.1
      rw [discarded] at kept
      cases kept
    unfold Mux.balance at balanced ⊢
    rw [after]
    rw [before] at balanced
    exact balanced

/-- A frame that is kept brings its payload to its stream. -/
theorem activate_received (found : mux.stream header.id = some stream)
    (alive : stream.reset = false) (accepted : stream.refuses kind header = false) :
    ((mux.setStream (stream.receive kind header)).activate kind header).Accounts := by
  have sameId := stream_id found
  have streams := stream_setStream found (stream.receive kind header) rfl
  have kept : discards (mux.setStream (stream.receive kind header)) header.id = false :=
    (discards_of_found (stream_setStream_self found (stream.receive kind header) rfl)).trans alive
  have before (other : Nat) : mux.frameFor other = 0 :=
    if_neg fun active => by simp [inactive] at active
  refine ⟨accounts.idle, accounts.granted, fun _ _ => kept, ?_⟩
  intro other stream' foundNow aliveNow
  rcases update_found streams foundNow with ⟨rfl, ⟨⟩⟩ | ⟨here, foundNow⟩
  · have balanced := accounts.balanced header.id stream found alive
    have after : ((mux.setStream (stream.receive kind header)).activate kind
            header).frameFor stream.id =
          if kind = .data then header.value else 0 :=
      if_pos ⟨rfl, kept, sameId.symm⟩
    unfold Mux.balance at balanced
    rw [before] at balanced
    change (if kind = .data then sub32 stream.receiveCredit header.value
        else stream.receiveCredit) + stream.ring.used +
        stream.returnCredit + mux.grantFor stream.id +
        ((mux.setStream (stream.receive kind header)).activate kind header).frameFor stream.id =
          initialWindow
    rw [after]
    by_cases data : kind = .data
    · have covered : header.value ≤ stream.receiveCredit := by
        simp only [Stream.refuses, data, decide_eq_false_iff_not,
          not_or, not_and, not_lt] at accepted
        exact accepted.2.2.2.1 trivial
      have range : stream.receiveCredit < word32 := by
        simp only [word32, initialWindow] at *
        omega
      rw [if_pos data, if_pos data, sub32_of_le covered range]
      omega
    · rw [if_neg data, if_neg data]
      exact balanced
  · have balanced := accounts.balanced other stream' foundNow aliveNow
    have after : ((mux.setStream (stream.receive kind header)).activate kind
            header).frameFor stream'.id = 0 :=
      if_neg fun active => here ((stream_id foundNow).symm.trans active.2.2.symm)
    unfold Mux.balance at balanced ⊢
    rw [after]
    rw [before] at balanced
    exact balanced

theorem activate (application : Applied mux kind header next) :
    (next.activate kind header).Accounts := by
  cases application with
  | ignored discarded => exact accounts.activate_discarded inactive discarded
  | received _ found alive accepted =>
    exact accounts.activate_received inactive found alive accepted
  | aborted stream found =>
    have inactiveNow : (mux.resetState (stream.receive kind header)).frameActive =
          false := by
      rw [resetState_frameActive]
      exact inactive
    have foundNow := stream_resetState_self found (stream.receive kind header) rfl
    have reset := accounts.resetState found (stream.receive kind header) rfl
    exact reset.activate_discarded inactiveNow (discards_of_found foundNow)

end

/-- A header applied without a stream that would take its payload. -/
theorem applied (accounts : mux.Accounts) {kind : Kind}
    {header : Header} (application : Applied mux kind header next)
    (discarded : discards next header.id = true) : next.Accounts := by
  cases application with
  | ignored => exact accounts
  | received stream found alive =>
    have foundNow := stream_setStream_self found (stream.receive kind header) rfl
    rw [discards_of_found foundNow] at discarded
    exact absurd (alive.symm.trans discarded) Bool.false_ne_true
  | aborted stream found =>
    exact accounts.resetState found (stream.receive kind header) rfl

/-- The end of a frame without payload left. -/
theorem endFrame (accounts : mux.Accounts) (exhausted : mux.frameRemaining = 0) :
    (endFrame mux).Accounts := by
  have before (other : Nat) : mux.frameFor other = 0 := by
    unfold Mux.frameFor
    rw [exhausted, ite_self]
  rcases endFrame_cases mux with ⟨_, ended⟩ | ⟨stream, found, _, _, ended⟩
  · rw [ended]
    refine ⟨accounts.idle, accounts.granted, nofun, ?_⟩
    intro id stream found alive
    have balanced := accounts.balanced id stream found alive
    unfold Mux.balance at balanced ⊢
    rw [before] at balanced
    exact balanced
  · rw [ended]
    refine accounts.rewrite found (stream_setStream found { stream with remoteFin := true } rfl)
      rfl accounts.idle accounts.granted nofun ?_ ?_
    · intro other _ _ _ _
      exact ⟨rfl, (before other).symm⟩
    · intro _ balanced
      unfold Mux.balance at balanced ⊢
      rw [before] at balanced
      exact balanced

/-- A part of the payload is taken and the frame ends if it was the rest. -/
theorem advanceFrame (accounts : Mux.Accounts
      { mux with
        frameRemaining := sub32 mux.frameRemaining count
        inputProgressMs := mux.nowMs }) :
    (mux.advanceFrame count).Accounts := by
  unfold Mux.advanceFrame
  dsimp only
  split
  · next exhausted => exact accounts.endFrame exhausted
  · exact accounts

theorem discarding (accounts : mux.Accounts) (discarded : mux.frameDiscard = true) :
    Mux.Accounts
      { mux with
        discardedBytes := count
        frameRemaining := remaining
        inputProgressMs := mux.nowMs } where
  idle := accounts.idle
  granted := accounts.granted
  receiving := by
    intro _ kept
    have kept : mux.frameDiscard = false := kept
    rw [discarded] at kept
    cases kept
  balanced := by
    intro id stream found alive
    have balanced := accounts.balanced id stream found alive
    have dropped (remaining : Nat) : (if mux.frameActive = true ∧ mux.frameDiscard = false ∧
          mux.frameId = stream.id then remaining else 0) = 0 :=
      if_neg fun active => by simp [discarded] at active
    have before : mux.frameFor stream.id = 0 := dropped _
    unfold Mux.balance at balanced ⊢
    rw [before] at balanced
    change stream.receiveCredit + stream.ring.used + stream.returnCredit + mux.grantFor stream.id +
      (if mux.frameActive = true ∧ mux.frameDiscard = false ∧
        mux.frameId = stream.id then remaining else 0) = initialWindow
    rw [dropped]
    exact balanced

theorem storing (accounts : mux.Accounts) (active : mux.frameActive = true)
    (kept : mux.frameDiscard = false) (found : mux.stream mux.frameId = some stream)
    (within : chunk.length ≤ mux.frameRemaining) (room : chunk.length ≤ stream.ring.available) :
    Mux.Accounts
      { mux.setStream { stream with ring := stream.ring.write chunk } with
        frameRemaining := sub32 mux.frameRemaining chunk.length
        inputProgressMs := mux.nowMs } := by
  have sameId := stream_id found
  have before : mux.frameFor stream.id = mux.frameRemaining := if_pos ⟨active, kept, sameId.symm⟩
  refine accounts.rewrite found (stream_setStream found
      { stream with ring := stream.ring.write chunk } rfl)
    rfl accounts.idle accounts.granted
    (fun _ => ⟨active, rfl, rfl⟩) ?_ ?_
  · intro other _ apart _ _
    refine ⟨rfl, ?_⟩
    exact (if_neg fun here => apart here.2.2.symm).trans
      (if_neg fun here => apart here.2.2.symm).symm
  · intro _ balanced
    unfold Mux.balance at balanced
    rw [before] at balanced
    have range : mux.frameRemaining < word32 := by
      simp only [word32, initialWindow] at *
      omega
    change stream.receiveCredit + (stream.ring.used + (chunk.take stream.ring.available).length) +
      stream.returnCredit + mux.grantFor stream.id +
      (if mux.frameActive = true ∧ mux.frameDiscard = false ∧ mux.frameId = stream.id then
        sub32 mux.frameRemaining chunk.length else 0) = initialWindow
    rw [if_pos ⟨active, kept, sameId.symm⟩, List.take_of_length_le room, sub32_of_le within range]
    omega

theorem entered {kind : Kind} {header : Header} (accounts : (mux.activate kind header).Accounts) :
    (mux.entered kind header).Accounts := by
  unfold Mux.entered
  split
  · next exhausted => exact accounts.endFrame exhausted
  · exact accounts

theorem started (accounts : mux.Accounts) {header : Header} (inactive : mux.frameActive = false)
    (started : Started mux header outcome) : outcome.2.Accounts := by
  cases started with
  | postponed => exact accounts
  | violated | closed | pinged | ponged | departed =>
    exact accounts.congr rfl rfl id rfl rfl rfl rfl rfl rfl
  | rejected _ admitted _ _ admission =>
    exact (accounts.admitted admission).congr rfl rfl id rfl rfl rfl rfl rfl rfl
  | excessive _ admitted applied _ admission application discarded =>
    have after := (accounts.admitted admission).applied application discarded
    exact after.congr rfl rfl id rfl rfl rfl rfl rfl rfl
  | entered _ admitted _ _ admission application =>
    have inactiveNow : admitted.frameActive = false := by cases admission <;> exact inactive
    exact ((accounts.admitted admission).activate inactiveNow application).entered

theorem feedStep (accounts : mux.Accounts) (step : FeedStep mux chunk next) : next.Accounts := by
  cases step with
  | fill chunk => exact accounts.fillHeader chunk
  | start chunk inactive =>
    exact (accounts.fillHeader chunk).started ((mux.fillHeader_frameActive chunk).trans inactive)
      (startFrame_started _)
  | discard _ _ discarded => exact advanceFrame (accounts.discarding discarded)
  | exhaust | lose => exact accounts.congr rfl rfl id rfl rfl rfl rfl rfl rfl
  | store _ _ active kept found within room =>
    exact advanceFrame (accounts.storing active kept found within room)
  | block _ _ found => exact accounts.setStream found rfl ⟨rfl, rfl, rfl, rfl⟩

/-- Every change keeps the accounts. -/
theorem change (accounts : mux.Accounts) (table : mux.Table)
    (change : Change mux label next) : next.Accounts := by
  cases change with
  | openStream _ available slot => exact accounts.opening table available slot
  | finish _ stream found =>
    have rewritten : (mux.setStream { stream with localFin := true }).Accounts :=
      accounts.setStream found rfl ⟨rfl, rfl, rfl, rfl⟩
    exact rewritten.congr rfl rfl (fun free => free) rfl rfl rfl rfl rfl rfl
  | reset id stream found =>
    have queued : (mux.enqueue (Header.make .window rstFlag id 0)).Accounts :=
      accounts.congr rfl rfl (fun free => free) rfl rfl rfl rfl rfl rfl
    exact queued.resetState found stream rfl
  | release _ _ found => exact accounts.releasing table found
  | ping | goaway | handOver | overGrant | clock | expire =>
    exact accounts.congr rfl rfl id rfl rfl rfl rfl rfl rfl
  | stageControl _ _ free => exact accounts.congr rfl rfl (fun _ => free) rfl rfl rfl rfl rfl rfl
  | stageGrant _ _ free _ member due => exact accounts.stageGrant table free member due
  | stageData _ stream bytes found _ _ _ _ free =>
    have rewritten : (mux.setStream
        { stream with
          sendCredit := sub32 stream.sendCredit (mux.stageData stream bytes).1 }).Accounts :=
      accounts.setStream found rfl ⟨rfl, rfl, rfl, rfl⟩
    exact rewritten.congr rfl rfl (fun _ => free) rfl rfl rfl rfl rfl rfl
  | handOverLast _ _ _ unclaimed => exact accounts.handOverLast unclaimed
  | handOverGrant _ _ _ _ found alive bounded => exact accounts.handOverGrant found alive bounded
  | read _ _ _ found => exact accounts.reading found
  | feed _ _ step => exact accounts.feedStep step

end Mux.Accounts

/-! ## Every run -/

/-- The accounts are balanced in every reachable world. -/
theorem World.Reachable.accounts {world : World}
    (reachable : world.Reachable) : world.mux.Accounts := by
  refine reachable.invariant (fun world => world.mux.Accounts) Mux.Accounts.init ?_
  intro world label next earlier _ accounts change
  rw [World.record_mux]
  exact accounts.change earlier.table change

/-- A grant never exceeds what is missing in the window of its stream. -/
theorem Mux.Accounts.grant_le (accounts : mux.Accounts)
    (found : mux.stream mux.outputGrantId = some stream) (alive : stream.reset = false) :
    mux.outputGrantBytes ≤ sub32 initialWindow stream.receiveCredit := by
  have balanced := accounts.balanced _ stream found alive
  have credit := accounts.receiveCredit_le found alive
  have grant : mux.grantFor stream.id = mux.outputGrantBytes := if_pos (Mux.stream_id found).symm
  rw [sub32_of_le credit (by decide)]
  unfold Mux.balance at balanced
  omega

theorem Mux.Accounts.consumeOutput (accounts : mux.Accounts) (ready : mux.failure = .ok)
    (length : Nat) : (yamuxConsumeOutput mux length).1 ≠ .protocolError := by
  unfold yamuxConsumeOutput
  split
  · exact Result.noConfusion
  rw [if_neg (not_not.mpr ready)]
  split
  · exact Result.noConfusion
  dsimp only
  split
  · rcases (mux.handing length).completeGrant_cases with
      ⟨_, completed⟩ | ⟨stream, found, alive, outcome⟩
    · rw [completed]
      exact Result.noConfusion
    · rcases outcome with ⟨excessive, _⟩ | ⟨_, completed⟩
      · exact absurd excessive (Nat.not_lt.mpr (accounts.grant_le found alive))
      rw [completed]
      exact Result.noConfusion
  · exact Result.noConfusion

/--
In every run the window of each live stream that is not reset is split into
its credit, its ring, the returned credit, the grant in the output slot and
the rest of the active frame.  A grant that would exceed the window does not
occur.
-/
theorem receiveCredit_conserved (now : Nat) (calls : List Call)
    (mux : Mux) (reached : (World.run now calls).mux = mux)
    (ready : mux.failure = .ok) :
    (∀ stream ∈ mux.streams, stream.id ≠ 0 → stream.reset = false →
      stream.receiveCredit + stream.ring.used + stream.returnCredit +
            (if mux.outputGrantId = stream.id then
              mux.outputGrantBytes
            else
              0) +
          (if mux.frameActive = true ∧ mux.frameDiscard = false ∧ mux.frameId = stream.id then
            mux.frameRemaining
          else
            0) =
          262144 ∧
        stream.ring.used ≤ 1024 ∧ stream.receiveCredit ≤ 262144) ∧
      ∀ length, (yamuxConsumeOutput mux length).1 ≠ .protocolError := by
  subst reached
  have reachable := World.run_reachable now calls
  have accounts := reachable.accounts
  refine ⟨?_, accounts.consumeOutput ready⟩
  intro stream member live alive
  have found := reachable.table.stream_of_mem member live
  exact ⟨accounts.balanced stream.id stream found alive,
    stream.ring.used_le, accounts.receiveCredit_le found alive⟩

/-- A run that leaves a stream in the middle of a frame and of a grant. -/
def partialFrameCalls : List Call :=
  [.openStream true, .output, .consumeOutput 12,
    .feed ((Header.make .data ackFlag 1 5).encode ++ [1, 2, 3]),
    .read 1 2, .output, .consumeOutput 7]

theorem receiveCredit_conserved_partialFrame :
    (∃ stream ∈ (World.run 0 partialFrameCalls).mux.streams, stream.id ≠ 0 ∧ stream.reset = false) ∧
      ∀ length, (yamuxConsumeOutput (World.run 0 partialFrameCalls).mux
          length).1 ≠ .protocolError :=
  ⟨by decide +kernel, (receiveCredit_conserved 0 partialFrameCalls _ rfl (by decide +kernel)).2⟩

end EspFrp.Yamux

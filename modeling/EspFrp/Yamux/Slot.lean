import EspFrp.Yamux.Ledger

/-!
# The output slot

Control frames, automatic credit grants and application data share the one
output slot of the mux.  `Calm` says that an operation leaves the slot and
its preference for data alone and makes no credit grant due; it holds of every
operation except those that fill or empty the slot, which are treated one by
one.
-/

namespace EspFrp.Yamux

open Library

variable (world : World) (mux : Mux) (id : Nat)

/-- No stream has credit for which a grant is due. -/
def Mux.NoneDue (mux : Mux) : Prop := ∀ stream ∈ mux.streams, stream.grantDue = false

instance (mux : Mux) : Decidable mux.NoneDue :=
  inferInstanceAs (Decidable (∀ stream ∈ mux.streams, _))

namespace Mux.NoneDue

variable {mux : Mux} {id : Nat}

theorem stream (noneDue : mux.NoneDue) (found : mux.stream id = some old) : old.grantDue = false :=
  noneDue old (Mux.stream_mem found)

theorem setStream (noneDue : mux.NoneDue) {new : Stream}
    (notDue : new.grantDue = false) : (mux.setStream new).NoneDue := by
  intro stream member
  rcases Slots.mem_replaceFirst member with rfl | before
  · exact notDue
  · exact noneDue stream before

end Mux.NoneDue

/-- The output slot and the preference for data are as before. -/
structure SameSlot (base mux : Mux) : Prop where
  output : mux.output = base.output
  outputOffset : mux.outputOffset = base.outputOffset
  outputGrantId : mux.outputGrantId = base.outputGrantId
  preferData : mux.preferData = base.preferData
  creditCursor : mux.creditCursor = base.creditCursor

theorem SameSlot.refl : SameSlot mux mux := ⟨rfl, rfl, rfl, rfl, rfl⟩

/-- The bytes in the output slot that are not yet handed over. -/
def Mux.slotBytes (mux : Mux) : List UInt8 := mux.output.drop mux.outputOffset

theorem SameSlot.slotBytes {base mux : Mux} (same : SameSlot base mux) :
    mux.slotBytes = base.slotBytes := by
  unfold Mux.slotBytes
  rw [same.output, same.outputOffset]

/-- The output slot is as before and no grant has become due. -/
structure Calm (base mux : Mux) : Prop extends SameSlot base mux where
  noneDue : base.NoneDue → mux.NoneDue

namespace Calm

variable {base mux next : Mux}

theorem refl (mux : Mux) : Calm mux mux := ⟨⟨rfl, rfl, rfl, rfl, rfl⟩, id⟩

theorem trans (calm : Calm base mux) (later : Calm mux next) : Calm base next where
  output := later.output.trans calm.output
  outputOffset := later.outputOffset.trans calm.outputOffset
  outputGrantId := later.outputGrantId.trans calm.outputGrantId
  preferData := later.preferData.trans calm.preferData
  creditCursor := later.creditCursor.trans calm.creditCursor
  noneDue := later.noneDue ∘ calm.noneDue

/-- The stream that is written back is due only if it was so before. -/
theorem setStream {id : Nat} (found : mux.stream id = some old)
    (same : old.grantDue = false → new.grantDue = false) : Calm mux (mux.setStream new) :=
  ⟨⟨rfl, rfl, rfl, rfl, rfl⟩, fun noneDue => noneDue.setStream (same (noneDue.stream found))⟩

theorem of_edits (edits : Edits mux next) : Calm mux next := by
  induction edits with
  | refl => exact refl mux
  | tail _ edit calm =>
    refine calm.trans ?_
    cases edit with
    | enqueue => exact ⟨⟨rfl, rfl, rfl, rfl, rfl⟩, id⟩
    | stream found edit => exact setStream found edit.due
    | parser kept =>
      rw [kept]
      exact ⟨⟨rfl, rfl, rfl, rfl, rfl⟩, id⟩

theorem of_feed (mux : Mux) (bytes : List UInt8) : Calm mux (yamuxFeed mux bytes).2.2 := by
  rcases yamuxFeed_steps mux bytes with ⟨unchanged, _⟩ | ⟨_, steps⟩
  · rw [unchanged]
    exact refl mux
  · exact of_edits (.of_feedSteps steps)

theorem of_tick (mux : Mux) (now : Nat) : Calm mux (yamuxTick mux now).2 := by
  unfold yamuxTick
  split
  · exact refl mux
  split
  · exact ⟨⟨rfl, rfl, rfl, rfl, rfl⟩, id⟩
  dsimp only
  split
  · exact ⟨⟨rfl, rfl, rfl, rfl, rfl⟩, id⟩
  refine Calm.trans ?_ (of_edits (.of_resetOverdue _ _))
  exact ⟨⟨rfl, rfl, rfl, rfl, rfl⟩, id⟩

end Calm

/-! ## Calls that neither fill nor empty the slot -/

/-- The calls that leave the output slot alone. -/
def Call.sparesOutput : Call → Bool
  | .write _ _ => false
  | .output => false
  | .consumeOutput _ => false
  | _ => true

theorem yamuxOpen_sameSlot (allocated : Bool) : SameSlot mux (yamuxOpen mux allocated).2.2 := by
  unfold yamuxOpen
  iterate 6
    split
    · exact .refl mux
  rcases mux.queue_cases .window synFlag mux.nextId 0 with
    ⟨_, queued⟩ | ⟨_, queued⟩ <;> rw [queued] <;>
    exact ⟨rfl, rfl, rfl, rfl, rfl⟩

theorem yamuxCloseWrite_sameSlot : SameSlot mux (yamuxCloseWrite mux id).2 := by
  unfold yamuxCloseWrite
  iterate 4
    split
    · exact .refl mux
  rcases mux.queue_cases .window finFlag id 0 with ⟨_, queued⟩ | ⟨_, queued⟩ <;> rw [queued] <;>
    exact ⟨rfl, rfl, rfl, rfl, rfl⟩

theorem yamuxRelease_sameSlot : SameSlot mux (yamuxRelease mux id).2 := by
  unfold yamuxRelease
  iterate 3
    split
    · exact .refl mux
  exact ⟨rfl, rfl, rfl, rfl, rfl⟩

theorem yamuxRead_sameSlot (id capacity : Nat) : SameSlot mux (yamuxRead mux id capacity).2.2 := by
  unfold yamuxRead
  iterate 5
    split
    · exact .refl mux
  exact ⟨rfl, rfl, rfl, rfl, rfl⟩

theorem yamuxPing_sameSlot (opaqueId : Nat) : SameSlot mux (yamuxPing mux opaqueId).2 := by
  unfold yamuxPing
  iterate 2
    split
    · exact .refl mux
  rcases mux.queue_cases .ping synFlag 0 opaqueId with ⟨_, queued⟩ | ⟨_, queued⟩ <;> rw [queued] <;>
    exact ⟨rfl, rfl, rfl, rfl, rfl⟩

theorem yamuxGoaway_sameSlot : SameSlot mux (yamuxGoaway mux).2 := by
  unfold yamuxGoaway
  iterate 2
    split
    · exact .refl mux
  rcases mux.queue_cases .goaway 0 0 0 with ⟨_, queued⟩ | ⟨_, queued⟩ <;> rw [queued] <;>
    exact ⟨rfl, rfl, rfl, rfl, rfl⟩

namespace World

theorem step_sameSlot (spares : call.sparesOutput = true) :
    SameSlot world.mux (world.step call).mux := by
  cases call with
  | openStream allocated => exact yamuxOpen_sameSlot world.mux allocated
  | read id capacity => exact yamuxRead_sameSlot world.mux id capacity
  | closeWrite id => exact yamuxCloseWrite_sameSlot world.mux id
  | reset id => exact (Calm.of_edits (.of_reset world.mux id)).toSameSlot
  | release id => exact yamuxRelease_sameSlot world.mux id
  | ping opaqueId => exact yamuxPing_sameSlot world.mux opaqueId.toNat
  | goaway => exact yamuxGoaway_sameSlot world.mux
  | tick now => exact (Calm.of_tick world.mux now).toSameSlot
  | feed bytes => exact (Calm.of_feed world.mux bytes).toSameSlot
  | write | output | consumeOutput => cases spares

theorem step_handed (spares : call.sparesOutput = true) :
    (world.step call).handed = world.handed := by
  cases call <;> first | rfl | cases spares

end World

/-! ## The bytes that have entered the slot -/

/-- All bytes that have entered the output slot. -/
def World.emitted (world : World) : List UInt8 := world.handed ++ world.mux.slotBytes

/-- A WindowUpdate that returns credit. -/
def Frame.isGrant (frame : Frame) : Bool :=
  frame.header.type = Kind.window.code ∧ frame.header.value ≠ 0

/-- The number of credit grants in a byte string. -/
def grantsIn (bytes : List UInt8) : Nat := (completeFrames bytes).countP Frame.isGrant

theorem grantsIn_mono {bytes more : List UInt8} (within : bytes <+: more) :
    grantsIn bytes ≤ grantsIn more := by
  obtain ⟨_, rfl⟩ := within
  exact completeFrames_mono.sublist.countP_le

theorem grantsIn_encodeFrames {frames : List Frame}
    (wellFormed : ∀ frame ∈ frames, frame.WellFormed) :
    grantsIn (encodeFrames frames) = frames.countP Frame.isGrant := by
  have valid := fun frame member =>
    And.intro (wellFormed frame member).range (wellFormed frame member).complete
  have decoded := completeFrames_encodeFrames_append frames [] valid
  have nothing : completeFrames [] = [] := by
    rw [completeFrames, framesOf_short (by decide), List.filter_nil]
  rw [List.append_nil, nothing, List.append_nil] at decoded
  rw [grantsIn, decoded]

theorem Wired.emitted {mux : Mux} {handed : List UInt8} (wired : Wired mux handed sent staged) :
    handed ++ mux.slotBytes = encodeFrames (sent ++ staged) := by
  rw [Mux.slotBytes, wired.handed, List.append_assoc,
    List.take_append_drop, wired.output, encodeFrames_append]

namespace World

variable {world : World}

theorem emitted_of_sameSlot (spares : call.sparesOutput = true) :
    (world.step call).emitted = world.emitted := by
  rw [emitted, (world.step_sameSlot spares).slotBytes, world.step_handed spares]
  rfl

variable (reachable : world.Reachable)
include reachable

/-- The bytes that have entered the slot are complete frames. -/
theorem Reachable.emitted_frames : ∃ frames, world.emitted = encodeFrames frames ∧
      ∀ frame ∈ frames ++ world.mux.queued,
        frame.WellFormed := by
  obtain ⟨history, traced⟩ := reachable.traced
  have wired := traced.legal.wired
  refine ⟨history.sent ++ history.staged, wired.emitted, ?_⟩
  rw [List.append_assoc]
  exact wired.wellFormed

/-- Nothing of an empty slot has been handed over. -/
theorem Reachable.outputOffset_of_free (free : world.mux.output = []) :
    world.mux.outputOffset = 0 := by
  obtain ⟨_, traced⟩ := reachable.traced
  rcases traced.legal.wired.offset with ⟨_, none⟩ | within
  · exact none
  rw [free] at within
  exact absurd within (Nat.not_lt_zero _)

/-- At most one grant has entered the slot and is not handed over. -/
theorem Reachable.grantsIn_emitted_le : grantsIn world.emitted ≤ grantsIn world.handed + 1 := by
  obtain ⟨history, traced⟩ := reachable.traced
  have wired := traced.legal.wired
  have sent : encodeFrames history.sent <+: world.handed := by
    rw [wired.handed]
    exact List.prefix_append _ _
  have wellFormed (frame : Frame) (member : frame ∈ history.sent ++ history.staged) :
      frame.WellFormed := by
    refine wired.wellFormed frame ?_
    rw [← List.append_assoc]
    exact List.mem_append_left _ member
  have before : history.sent.countP Frame.isGrant ≤ grantsIn world.handed := by
    rw [← grantsIn_encodeFrames fun frame member =>
      wellFormed frame (List.mem_append_left _ member)]
    exact grantsIn_mono sent
  have last : history.staged.countP Frame.isGrant ≤ 1 := List.countP_le_length.trans wired.single
  rw [emitted, wired.emitted, grantsIn_encodeFrames wellFormed, List.countP_append]
  omega

/-- A queued control frame returns no credit. -/
theorem Reachable.queued_not_grant {control : Header}
    (queued : control ∈ world.mux.controls.contents) : control.frame.isGrant = false := by
  obtain ⟨_, traced⟩ := reachable.traced
  have wellFormed : control.frame.WellFormed :=
    traced.legal.wired.wellFormed _ (List.mem_append_right _ (List.mem_append_right _
        (List.mem_map_of_mem queued)))
  unfold Frame.isGrant
  rw [decide_eq_false_iff_not]
  rintro ⟨window, credit⟩
  refine credit (traced.books.granted.queue control queued ?_)
  intro session
  have type := wellFormed.session.mp session
  rw [window] at type
  revert type
  decide

/-- A control frame that enters the slot returns no credit. -/
theorem Reachable.grantsIn_control {control : Header}
    (queued : control ∈ world.mux.controls.contents) :
    grantsIn (world.emitted ++ control.encode) = grantsIn world.emitted := by
  obtain ⟨frames, emitted, wellFormed⟩ := reachable.emitted_frames
  have bytes : world.emitted ++ control.encode = encodeFrames (frames ++ [control.frame]) := by
    rw [emitted, encodeFrames_append, encodeFrames_singleton]
    simp [Frame.encode, Header.frame]
  rw [bytes, emitted, grantsIn_encodeFrames, grantsIn_encodeFrames, List.countP_append,
    List.countP_singleton, reachable.queued_not_grant queued]
  · rfl
  · intro frame member
    exact wellFormed frame (List.mem_append_left _ member)
  · intro frame member
    rcases List.mem_append.mp member with before | new
    · exact wellFormed frame (List.mem_append_left _ before)
    rw [List.mem_singleton.mp new]
    exact wellFormed _ (List.mem_append_right _ (List.mem_map_of_mem queued))

end World

/-! ## Filling the slot -/

/-- An output call on a busy slot changes nothing. -/
theorem yamuxOutput_busy {mux : Mux} (busy : mux.output ≠ []) : (yamuxOutput mux).2.2 = mux := by
  rcases yamuxOutput_cases mux with same | ⟨_, free, _⟩
  · exact same
  · exact absurd free busy

theorem Mux.NoneDue.output {mux : Mux} (noneDue : mux.NoneDue) : (yamuxOutput mux).2.2.NoneDue := by
  rcases yamuxOutput_cases mux with same | ⟨_, _, filled⟩
  · rw [same]
    exact noneDue
  rcases filled with ⟨_, _, _, filled⟩ | ⟨_, slot, stream, member, due, _⟩
  · rw [filled]
    exact noneDue
  rw [noneDue stream (List.mem_of_getElem? member)] at due
  cases due

/-- The bytes that an output call offers are those in the slot. -/
theorem yamuxOutput_bytes {mux : Mux} (offered : (yamuxOutput mux).1 = .ok) :
    (yamuxOutput mux).2.1 = (yamuxOutput mux).2.2.slotBytes := by
  unfold yamuxOutput at offered ⊢
  split at offered
  · next failed => exact absurd offered failed
  next ready =>
  rw [if_neg ready]
  dsimp only at offered ⊢
  generalize (if mux.output = [] then mux.stageOutput else mux) = staged at offered ⊢
  split at offered
  · cases offered
  · next filled =>
    rw [if_neg filled]
    rfl

/-- Data has the next slot as long as a grant is in the slot. -/
theorem World.Reachable.preferData {world : World} (reachable : world.Reachable)
    (granted : world.mux.outputGrantId ≠ 0) : world.mux.preferData = true := by
  refine reachable.invariant
    (fun world => world.mux.outputGrantId ≠ 0 → world.mux.preferData = true)
    (fun _ none => absurd rfl none) ?_ granted
  intro world label next earlier _ holds change
  rw [World.record_mux]
  cases change with
  | stageGrant => exact fun _ => rfl
  | stageData _ _ _ _ _ _ _ _ free =>
    exact fun granted => absurd (earlier.accounts.idle free) granted
  | handOverLast | handOverGrant => exact fun none => absurd rfl none
  | reset id _ found =>
    have calm := Calm.of_edits (.head (.enqueue (Header.make .window rstFlag id 0))
      (Edits.resetState found rfl rfl rfl))
    rw [calm.outputGrantId, calm.preferData]
    exact holds
  | feed _ _ step =>
    have calm := Calm.of_edits (.of_feedStep step)
    rw [calm.outputGrantId, calm.preferData]
    exact holds
  | _ => exact holds

/-! ## Emptying the slot -/

/-- What `efrp_yamux_consume_output` does to the slot. -/
structure Handed (mux : Mux) (count : Nat) (next : Mux) : Prop where
  slotBytes : next.slotBytes = mux.slotBytes.drop count
  preferData : next.preferData = mux.preferData
  noneDue : mux.NoneDue → next.NoneDue

theorem Handed.clearing {mux next : Mux} (last : mux.outputOffset + count = mux.output.length)
    (preferData : next.preferData = mux.preferData) (noneDue : mux.NoneDue → next.NoneDue) :
    Handed mux count next.clearOutput where
  slotBytes := by
    unfold Mux.slotBytes
    rw [List.drop_drop, last, List.drop_length]
    rfl
  preferData := preferData
  noneDue := noneDue

theorem Mux.Accounts.yamuxConsumeOutput_cases {mux : Mux} (accounts : mux.Accounts) (count : Nat) :
    ((yamuxConsumeOutput mux count).1 ≠ .ok ∧ (yamuxConsumeOutput mux count).2 = mux) ∨
      (yamuxConsumeOutput mux count).1 = .ok ∧ count ≤ mux.slotBytes.length ∧
        Handed mux count (yamuxConsumeOutput mux count).2 := by
  unfold yamuxConsumeOutput
  by_cases beyond : mux.output.length - mux.outputOffset < count
  · rw [if_pos beyond]
    exact Or.inl ⟨nofun, rfl⟩
  rw [if_neg beyond]
  have within : count ≤ mux.slotBytes.length := by
    unfold Mux.slotBytes
    rw [List.length_drop]
    omega
  by_cases failed : mux.failure ≠ .ok
  · rw [if_pos failed]
    exact Or.inl ⟨failed, rfl⟩
  rw [if_neg failed]
  by_cases zero : count = 0
  · rw [if_pos zero]
    refine Or.inr ⟨rfl, within, ?_, rfl, fun noneDue => noneDue⟩
    rw [zero]
    rfl
  rw [if_neg zero]
  by_cases last : mux.outputOffset + count = mux.output.length
  · rw [if_pos (show (mux.handing count).outputOffset =
      (mux.handing count).output.length from last)]
    rcases (mux.handing count).completeGrant_cases with
      ⟨_, completed⟩ | ⟨stream, found, alive, outcome⟩
    · rw [completed]
      exact Or.inr ⟨rfl, within, .clearing last rfl fun noneDue => noneDue⟩
    · rcases outcome with ⟨excessive, _⟩ | ⟨_, completed⟩
      · exact absurd excessive (Nat.not_lt.mpr (accounts.grant_le found alive))
      rw [completed]
      refine Or.inr ⟨rfl, within, .clearing last rfl ?_⟩
      intro noneDue
      exact Mux.NoneDue.setStream noneDue (noneDue.stream (found : mux.stream _ = some stream) :)
  · rw [if_neg (show ¬(mux.handing count).outputOffset =
      (mux.handing count).output.length from last)]
    refine Or.inr ⟨rfl, within, ?_, rfl, fun noneDue => noneDue⟩
    unfold Mux.slotBytes Mux.handing
    rw [List.drop_drop]

theorem World.Reachable.emitted_consumeOutput {world : World} (reachable : world.Reachable)
    (count : Nat) : (world.step (.consumeOutput count)).emitted = world.emitted := by
  rcases reachable.accounts.yamuxConsumeOutput_cases count with ⟨refused, same⟩ | ⟨done, _, handed⟩
  · unfold emitted World.step
    dsimp only
    rw [if_neg refused, same, List.append_nil]
  · unfold emitted World.step
    dsimp only
    rw [if_pos done, handed.slotBytes, List.append_assoc]
    exact congrArg _ (List.take_append_drop count world.mux.slotBytes)

end EspFrp.Yamux

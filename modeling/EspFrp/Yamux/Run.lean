import EspFrp.Yamux.FeedSteps

/-!
# Runs of the mux

A run is a list of API calls.  `World` keeps, next to the mux, what the two
sides of it have seen: the input bytes that `efrp_yamux_feed` has consumed,
the output bytes that `efrp_yamux_consume_output` has taken over, and for
every stream id the bytes read and the bytes accepted by a write.

The calls are decomposed once into labelled changes of the mux.  Every
invariant of the mux is afterwards a statement about one change; the rule
`World.Reachable.invariant` lifts it to all runs.
-/

namespace EspFrp.Yamux

variable (now : Nat) (mux : Mux) (id : Nat) (allocated : Bool)

open Library

/-! ## Calls -/

/-- A call of the mux API with its arguments. -/
inductive Call where
  | openStream (allocated : Bool)
  | write (id : Nat) (bytes : List UInt8)
  | read (id capacity : Nat)
  | closeWrite (id : Nat)
  | reset (id : Nat)
  | release (id : Nat)
  | ping (opaqueId : UInt32)
  | goaway
  | tick (now : Nat)
  | output
  | consumeOutput (length : Nat)
  | feed (bytes : List UInt8)
deriving DecidableEq, Repr

/-- The mux together with what has passed through it. -/
structure World where
  mux : Mux
  consumed : List UInt8
  handed : List UInt8
  readBytes : Nat → List UInt8
  written : Nat → List UInt8

namespace World

/-- A freshly initialised mux. -/
def init (now : Nat) : World where
  mux := yamuxInit now
  consumed := []
  handed := []
  readBytes := fun _ => []
  written := fun _ => []

/-- The effect of one call. -/
def step (world : World) : Call → World
  | .openStream allocated => { world with mux := (yamuxOpen world.mux allocated).2.2 }
  | .write id bytes =>
    let outcome := yamuxWrite world.mux id bytes
    { world with
      mux := outcome.2.2
      written := Function.update world.written id (world.written id ++ bytes.take outcome.2.1) }
  | .read id capacity =>
    let outcome := yamuxRead world.mux id capacity
    { world with
      mux := outcome.2.2
      readBytes := Function.update world.readBytes id (world.readBytes id ++ outcome.2.1) }
  | .closeWrite id => { world with mux := (yamuxCloseWrite world.mux id).2 }
  | .reset id => { world with mux := (yamuxReset world.mux id).2 }
  | .release id => { world with mux := (yamuxRelease world.mux id).2 }
  | .ping opaqueId => { world with mux := (yamuxPing world.mux opaqueId.toNat).2 }
  | .goaway => { world with mux := (yamuxGoaway world.mux).2 }
  | .tick now => { world with mux := (yamuxTick world.mux now).2 }
  | .output => { world with mux := (yamuxOutput world.mux).2.2 }
  | .consumeOutput length =>
    let outcome := yamuxConsumeOutput world.mux length
    { world with
      mux := outcome.2
      handed :=
        world.handed ++
          if outcome.1 = .ok then
            (world.mux.output.drop world.mux.outputOffset).take length
          else
            [] }
  | .feed bytes =>
    let outcome := yamuxFeed world.mux bytes
    { world with
      mux := outcome.2.2
      consumed := world.consumed ++ bytes.take outcome.2.1 }

/-- A run from initialisation. -/
def run (now : Nat) (calls : List Call) : World := calls.foldl step (init now)

end World

/-! ## Labelled changes -/

/-- What a change of the mux lets through. -/
inductive Label where
  | silent
  | fed (bytes : List UInt8)
  | handed (bytes : List UInt8)
  | read (id : Nat) (bytes : List UInt8)
  | wrote (id : Nat) (bytes : List UInt8)

/-- The mux after a successful `efrp_yamux_open`. -/
def Mux.opening (mux : Mux) : Mux :=
  { mux.enqueue (Header.make .window synFlag mux.nextId 0) with
    streams := Slots.replaceFirst Stream.id 0 (openedStream mux) mux.streams
    nextId :=
      if mux.nextId = uint32Max then 0 else add32 mux.nextId 2 }

/-- The bytes of the output slot that are handed over next. -/
def Mux.nextOutput (mux : Mux) (count : Nat) : List UInt8 :=
  (mux.output.drop mux.outputOffset).take count

/-- Every change that a mux which has not failed can make. -/
inductive Change (mux : Mux) : Label → Mux → Prop where
  | openStream (free : Stream) (available : mux.nextId ≠ 0)
      (slot : Slots.lookup Stream.id 0 mux.streams = some free)
      (room : mux.controls.used < controlSlots) :
      Change mux .silent mux.opening
  | finish (id : Nat) (stream : Stream) (found : mux.stream id = some stream)
      (alive : stream.reset = false)
      (unfinished : stream.localFin = false)
      (room : mux.controls.used < controlSlots) :
      Change mux .silent ((mux.enqueue (Header.make .window finFlag id 0)).setStream
          { stream with localFin := true })
  | reset (id : Nat) (stream : Stream) (found : mux.stream id = some stream)
      (alive : stream.reset = false)
      (room : mux.controls.used < controlSlots) :
      Change mux .silent ((mux.enqueue (Header.make .window rstFlag id 0)).resetState stream)
  | release (id : Nat) (stream : Stream) (found : mux.stream id = some stream)
      (closed : stream.reset = true ∨ (stream.localFin = true ∧ stream.remoteFin = true ∧
          stream.ring.used = 0)) :
      Change mux .silent (mux.releasing id)
  | ping (opaqueId : Nat) (range : opaqueId < word32) (quiet : mux.pingPending = false)
      (room : mux.controls.used < controlSlots) :
      Change mux .silent
        { mux.enqueue (Header.make .ping synFlag 0 opaqueId) with
          pingPending := true
          pingId := opaqueId
          pingStartedMs := mux.nowMs }
  | goaway (room : mux.controls.used < controlSlots) : Change mux .silent
        { mux.enqueue (Header.make .goaway 0 0 0) with
          localGoaway := true }
  | stageControl (control : Header) (rest : List Header) (free : mux.output = [])
      (queued : mux.controls.contents = control :: rest) :
      Change mux .silent
        { mux with
          output := control.encode
          controls := mux.controls.drop 1 }
  | stageGrant (slot : Nat) (stream : Stream) (free : mux.output = [])
      (quiet : mux.controls.contents = [])
      (member : mux.streams[slot]? = some stream)
      (due : stream.grantDue = true) :
      Change mux .silent (mux.stageGrant slot stream)
  | stageData (id : Nat) (stream : Stream) (bytes : List UInt8)
      (found : mux.stream id = some stream)
      (alive : stream.reset = false)
      (unfinished : stream.localFin = false)
      (offered : bytes ≠ [])
      (credit : stream.sendCredit ≠ 0)
      (free : mux.output = [])
      (quiet : mux.controls.contents = []) :
      Change mux (.wrote id (bytes.take (mux.stageData stream bytes).1))
        (mux.stageData stream bytes).2
  | handOver (count : Nat) (positive : 0 < count)
      (within : mux.outputOffset + count < mux.output.length) :
      Change mux (.handed (mux.nextOutput count)) (mux.handing count)
  | handOverLast (count : Nat) (positive : 0 < count)
      (last : mux.outputOffset + count = mux.output.length)
      (unclaimed : discards mux mux.outputGrantId = true) :
      Change mux (.handed (mux.nextOutput count)) (mux.handing count).clearOutput
  | handOverGrant (count : Nat) (stream : Stream) (positive : 0 < count)
      (last : mux.outputOffset + count = mux.output.length)
      (found : mux.stream mux.outputGrantId = some stream)
      (alive : stream.reset = false)
      (bounded : mux.outputGrantBytes ≤ sub32 initialWindow stream.receiveCredit) :
      Change mux (.handed (mux.nextOutput count)) ((mux.handing count).setStream
          { stream with
            receiveCredit := add32 stream.receiveCredit mux.outputGrantBytes }).clearOutput
  | overGrant (count : Nat) (stream : Stream) (found : mux.stream mux.outputGrantId = some stream)
      (alive : stream.reset = false)
      (excessive : sub32 initialWindow stream.receiveCredit < mux.outputGrantBytes) :
      Change mux .silent ((mux.handing count).fail .protocolError).2
  | read (id capacity : Nat) (stream : Stream) (found : mux.stream id = some stream)
      (alive : stream.reset = false)
      (positive : 0 < capacity) :
      Change mux (.read id (stream.ring.front capacity)) (mux.setStream (stream.reading capacity))
  | clock (now : Nat) (forward : mux.nowMs ≤ now) : Change mux .silent { mux with nowMs := now }
  | expire (error : Result) (fatal : error ≠ .ok) (other : error ≠ .protocolError) :
      Change mux .silent (mux.fail error).2
  | feed (chunk : List UInt8) (next : Mux) (change : FeedStep mux chunk next) :
      Change mux (.fed chunk) next

namespace World

/-- Put a changed mux in place and note what it has let through. -/
def record (world : World) (label : Label) (mux : Mux) : World :=
  match label with
  | .silent => { world with mux := mux }
  | .fed bytes => { world with mux := mux, consumed := world.consumed ++ bytes }
  | .handed bytes => { world with mux := mux, handed := world.handed ++ bytes }
  | .read id bytes =>
    { world with
      mux := mux
      readBytes := Function.update world.readBytes id (world.readBytes id ++ bytes) }
  | .wrote id bytes =>
    { world with
      mux := mux
      written := Function.update world.written id (world.written id ++ bytes) }

@[simp]
theorem record_mux (world : World) (label : Label) (mux : Mux) :
    (world.record label mux).mux = mux := by
  cases label <;> rfl

end World

/-- A sequence of changes, each made by a mux that has not failed. -/
inductive Changes : World → World → Prop where
  | refl (world : World) : Changes world world
  | step {world final : World} {label : Label} {next : Mux} (ready : world.mux.failure = .ok)
      (head : Change world.mux label next)
      (tail : Changes (world.record label next) final) :
      Changes world final

namespace Changes

theorem single {world : World} {label : Label} {next : Mux} (ready : world.mux.failure = .ok)
    (change : Change world.mux label next) : Changes world (world.record label next) :=
  .step ready change (.refl _)

theorem trans {world middle final : World} (head : Changes world middle)
    (tail : Changes middle final) : Changes world final := by
  induction head with
  | refl => exact tail
  | step ready change _ ih => exact .step ready change (ih tail)

/-- What every change keeps is kept by a sequence of changes. -/
theorem invariant {Holds : World → Prop} (preserved :
      ∀ {world : World} {label : Label} {next : Mux}, world.mux.failure = .ok → Holds world →
          Change world.mux label next → Holds (world.record label next))
    {world final : World}
    (changes : Changes world final) (holds : Holds world) :
    Holds final := by
  induction changes with
  | refl => exact holds
  | step ready change _ ih => exact ih (preserved ready holds change)

end Changes

/-! ## Decomposing the calls -/

namespace Changes

/-- A call that leaves the mux as it is, or changes it silently. -/
theorem of_silent {world : World} {next : Mux}
    (outcome : next = world.mux ∨ world.mux.failure = .ok ∧ Change world.mux .silent next) :
    Changes world { world with mux := next } := by
  rcases outcome with unchanged | ⟨ready, change⟩
  · rw [unchanged]
    exact .refl world
  · exact single ready change

end Changes

/-- The ways in which `efrp_yamux_open` ends. -/
theorem yamuxOpen_cases :
    ((yamuxOpen mux allocated).1 ≠ .ok ∧ (yamuxOpen mux allocated).2.2 = mux) ∨
      mux.failure = .ok ∧ mux.nextId ≠ 0 ∧ Change mux .silent mux.opening ∧
        yamuxOpen mux allocated = (.ok, mux.nextId, mux.opening) := by
  unfold yamuxOpen
  by_cases failed : mux.failure ≠ .ok
  · rw [if_pos failed]
    exact Or.inl ⟨failed, rfl⟩
  rw [if_neg failed]
  split
  · exact Or.inl ⟨Result.noConfusion, rfl⟩
  split
  · exact Or.inl ⟨Result.noConfusion, rfl⟩
  next available =>
  split
  · exact Or.inl ⟨Result.noConfusion, rfl⟩
  next occupied =>
  split
  · exact Or.inl ⟨Result.noConfusion, rfl⟩
  split
  · exact Or.inl ⟨Result.noConfusion, rfl⟩
  rcases Option.ne_none_iff_exists'.mp occupied with ⟨free, slot⟩
  rcases mux.queue_cases .window synFlag mux.nextId 0 with ⟨_, queued⟩ | ⟨room, queued⟩
  · rw [queued]
    exact Or.inl ⟨Result.noConfusion, rfl⟩
  · rw [queued]
    exact Or.inr ⟨not_ne_iff.mp failed, available, .openStream free available slot room, rfl⟩

theorem yamuxOpen_change : (yamuxOpen mux allocated).2.2 = mux ∨
      mux.failure = .ok ∧ Change mux .silent (yamuxOpen mux allocated).2.2 := by
  rcases yamuxOpen_cases mux allocated with ⟨_, same⟩ | ⟨ready, _, change, answer⟩
  · exact Or.inl same
  · rw [answer]
    exact Or.inr ⟨ready, change⟩

theorem yamuxCloseWrite_change : (yamuxCloseWrite mux id).2 = mux ∨
      mux.failure = .ok ∧ Change mux .silent (yamuxCloseWrite mux id).2 := by
  unfold yamuxCloseWrite
  split
  · exact Or.inl rfl
  next failed =>
  cases found : mux.stream id with
  | none => exact Or.inl rfl
  | some stream =>
    dsimp only
    split
    · exact Or.inl rfl
    next alive =>
    split
    · exact Or.inl rfl
    next unfinished =>
    rcases mux.queue_cases .window finFlag id 0 with ⟨_, queued⟩ | ⟨room, queued⟩
    · rw [queued]
      exact Or.inl rfl
    · rw [queued]
      exact Or.inr ⟨not_ne_iff.mp failed,
        .finish id stream found (Bool.eq_false_of_not_eq_true alive)
          (Bool.eq_false_of_not_eq_true unfinished) room⟩

/-- The ways in which `efrp_yamux_reset` ends. -/
theorem yamuxReset_cases {mux : Mux} (ready : mux.failure = .ok) (id : Nat) :
    (yamuxReset mux id).2 = mux ∨ Change mux .silent (yamuxReset mux id).2 := by
  unfold yamuxReset
  rw [if_neg (not_not.mpr ready)]
  cases found : mux.stream id with
  | none => exact Or.inl rfl
  | some stream =>
    dsimp only
    split
    · exact Or.inl rfl
    next alive =>
    rcases mux.queue_cases .window rstFlag id 0 with ⟨_, queued⟩ | ⟨room, queued⟩
    · rw [queued]
      exact Or.inl rfl
    · rw [queued]
      exact Or.inr (.reset id stream found (Bool.eq_false_of_not_eq_true alive) room)

section

variable (mux : Mux)

theorem yamuxReset_change (id : Nat) :
    (yamuxReset mux id).2 = mux ∨ mux.failure = .ok ∧ Change mux .silent (yamuxReset mux id).2 := by
  by_cases failed : mux.failure ≠ .ok
  · refine Or.inl ?_
    unfold yamuxReset
    rw [if_pos failed]
  have ready := not_ne_iff.mp failed
  exact (yamuxReset_cases ready id).imp_right fun change => ⟨ready, change⟩

theorem yamuxReset_failure (id : Nat) : (yamuxReset mux id).2.failure = mux.failure := by
  unfold yamuxReset
  split
  · rfl
  split
  · rfl
  split
  · rfl
  rcases mux.queue_cases .window rstFlag id 0 with ⟨_, queued⟩ | ⟨_, queued⟩ <;> rw [queued]
  exact Mux.resetState_failure _ _

theorem yamuxRelease_change (id : Nat) : (yamuxRelease mux id).2 = mux ∨
      mux.failure = .ok ∧ Change mux .silent (yamuxRelease mux id).2 := by
  unfold yamuxRelease
  split
  · exact Or.inl rfl
  next failed =>
  cases found : mux.stream id with
  | none => exact Or.inl rfl
  | some stream =>
    dsimp only
    split
    · exact Or.inl rfl
    next unsettled =>
    have closed : stream.reset = true ∨ (stream.localFin = true ∧ stream.remoteFin = true ∧
            stream.ring.used = 0) := by
      by_contra neither
      rcases not_or.mp neither with ⟨alive, unfinished⟩
      exact unsettled ⟨alive, unfinished⟩
    exact Or.inr ⟨not_ne_iff.mp failed, .release id stream found closed⟩

theorem yamuxPing_change (range : opaqueId < word32) :
    (yamuxPing mux opaqueId).2 = mux ∨
      mux.failure = .ok ∧ Change mux .silent (yamuxPing mux opaqueId).2 := by
  unfold yamuxPing
  split
  · exact Or.inl rfl
  next failed =>
  split
  · exact Or.inl rfl
  next quiet =>
  rcases mux.queue_cases .ping synFlag 0 opaqueId with ⟨_, queued⟩ | ⟨room, queued⟩
  · rw [queued]
    exact Or.inl rfl
  · rw [queued]
    exact Or.inr ⟨not_ne_iff.mp failed,
      .ping opaqueId range (Bool.eq_false_of_not_eq_true quiet) room⟩

theorem yamuxGoaway_change :
    (yamuxGoaway mux).2 = mux ∨ mux.failure = .ok ∧ Change mux .silent (yamuxGoaway mux).2 := by
  unfold yamuxGoaway
  split
  · exact Or.inl rfl
  next failed =>
  split
  · exact Or.inl rfl
  rcases mux.queue_cases .goaway 0 0 0 with ⟨_, queued⟩ | ⟨room, queued⟩
  · rw [queued]
    exact Or.inl rfl
  · rw [queued]
    exact Or.inr ⟨not_ne_iff.mp failed, .goaway room⟩

theorem Mux.searchGrant_cases (offsets : List Nat) : mux.searchGrant offsets = mux ∨
      ∃ slot stream, mux.streams[slot]? = some stream ∧ stream.grantDue = true ∧
        mux.searchGrant offsets = mux.stageGrant slot stream := by
  induction offsets with
  | nil => exact Or.inl rfl
  | cons offset _ ih =>
    unfold Mux.searchGrant
    dsimp only
    cases member : mux.streams[(mux.creditCursor + offset) % streamSlots]? with
    | none => exact ih
    | some stream =>
      dsimp only
      by_cases due : stream.grantDue = true
      · rw [if_pos due]
        exact Or.inr ⟨_, stream, member, due, rfl⟩
      rw [if_neg due]
      exact ih

/-- The ways in which `efrp_yamux_output` fills the output slot. -/
theorem yamuxOutput_cases : (yamuxOutput mux).2.2 = mux ∨ mux.failure = .ok ∧ mux.output = [] ∧
        ((∃ control rest, mux.controls.contents = control :: rest ∧ (yamuxOutput mux).2.2 =
              { mux with
                output := control.encode
                controls := mux.controls.drop 1 }) ∨
          (mux.controls.contents = [] ∧ ∃ slot stream, mux.streams[slot]? = some stream ∧
              stream.grantDue = true ∧
              (yamuxOutput mux).2.2 = mux.stageGrant slot stream)) := by
  unfold yamuxOutput
  split
  · exact Or.inl rfl
  next failed =>
  rw [apply_ite (fun outcome : Result × List UInt8 × Mux => outcome.2.2), ite_self]
  by_cases free : mux.output = []
  · rw [if_pos free]
    unfold Mux.stageOutput
    cases queued : mux.controls.contents with
    | nil =>
      rcases mux.searchGrant_cases (List.range streamSlots) with
        none | ⟨slot, stream, member, due, staged⟩
      · exact Or.inl none
      · exact Or.inr ⟨not_ne_iff.mp failed, free, Or.inr ⟨rfl, slot, stream, member, due, staged⟩⟩
    | cons control rest =>
      exact Or.inr ⟨not_ne_iff.mp failed, free, Or.inl ⟨control, rest, rfl, rfl⟩⟩
  · rw [if_neg free]
    exact Or.inl rfl

theorem yamuxOutput_change :
    (yamuxOutput mux).2.2 = mux ∨ mux.failure = .ok ∧ Change mux .silent (yamuxOutput mux).2.2 := by
  rcases yamuxOutput_cases mux with same | ⟨ready, free, filled⟩
  · exact Or.inl same
  rcases filled with ⟨control, rest, queued, filled⟩ | ⟨quiet, slot, stream, member, due, filled⟩
  · rw [filled]
    exact Or.inr ⟨ready, .stageControl control rest free queued⟩
  · rw [filled]
    exact Or.inr ⟨ready, .stageGrant slot stream free quiet member due⟩

end

/-- Nothing is pending when `efrp_yamux_output` offers no bytes. -/
theorem yamuxOutput_idle {mux : Mux} (ready : mux.failure = .ok)
    (nothing : (yamuxOutput mux).1 ≠ .ok) :
    mux.output = [] ∧ mux.controls.contents = [] ∧ (yamuxOutput mux).2.2 = mux := by
  unfold yamuxOutput at nothing ⊢
  rw [if_neg (not_not.mpr ready)] at nothing ⊢
  by_cases free : mux.output = []
  · rw [if_pos free] at nothing ⊢
    have stagedFree : mux.stageOutput.output = [] := by
      by_contra staged
      rw [if_neg staged] at nothing
      exact nothing rfl
    rw [if_pos stagedFree]
    unfold Mux.stageOutput at stagedFree ⊢
    cases queued : mux.controls.contents with
    | nil =>
      rw [queued] at stagedFree
      rcases mux.searchGrant_cases (List.range streamSlots) with
        none | ⟨slot, stream, _, _, staged⟩
      · exact ⟨free, rfl, none⟩
      · rw [staged] at stagedFree
        exact absurd stagedFree (Header.encode_ne_nil _)
    | cons =>
      rw [queued] at stagedFree
      exact absurd stagedFree (Header.encode_ne_nil _)
  · rw [if_neg free, if_neg free] at nothing
    exact absurd rfl nothing

/-- A write that stages the accepted prefix of the offered bytes. -/
structure StagesData (mux : Mux) (id : Nat) (bytes : List UInt8) (stream : Stream) : Prop where
  found : mux.stream id = some stream
  alive : stream.reset = false
  unfinished : stream.localFin = false
  offered : bytes ≠ []
  credit : stream.sendCredit ≠ 0
  free : mux.output = []
  quiet : mux.controls.contents = []

/-- The ways in which `efrp_yamux_write` ends. -/
theorem yamuxWrite_cases (bytes : List UInt8) :
    ((yamuxWrite mux id bytes).2.1 = 0 ∧ ((yamuxWrite mux id bytes).2.2 = mux ∨
          (mux.output ≠ [] ∨ mux.controls.used ≠ 0 ∨ ¬mux.preferData = true) ∧
            (yamuxWrite mux id bytes).2.2 = (yamuxOutput mux).2.2)) ∨
      mux.failure = .ok ∧ ∃ stream, StagesData mux id bytes stream ∧
          yamuxWrite mux id bytes = (.ok, mux.stageData stream bytes) := by
  unfold yamuxWrite
  by_cases failed : mux.failure ≠ .ok
  · rw [if_pos failed]
    exact Or.inl ⟨rfl, Or.inl rfl⟩
  rw [if_neg failed]
  have ready := not_ne_iff.mp failed
  cases found : mux.stream id with
  | none => exact Or.inl ⟨rfl, Or.inl rfl⟩
  | some stream =>
    dsimp only
    by_cases reset : stream.reset = true
    · rw [if_pos reset]
      exact Or.inl ⟨rfl, Or.inl rfl⟩
    rw [if_neg reset]
    by_cases finished : stream.localFin = true
    · rw [if_pos finished]
      exact Or.inl ⟨rfl, Or.inl rfl⟩
    rw [if_neg finished]
    by_cases nothing : bytes = []
    · rw [if_pos nothing]
      exact Or.inl ⟨rfl, Or.inl rfl⟩
    rw [if_neg nothing]
    have stages (credit : stream.sendCredit ≠ 0) (free : mux.output = [])
        (quiet : mux.controls.contents = []) :
        StagesData mux id bytes stream :=
      ⟨found, Bool.eq_false_of_not_eq_true reset,
        Bool.eq_false_of_not_eq_true finished, nothing, credit, free,
        quiet⟩
    by_cases asks : mux.output ≠ [] ∨ mux.controls.used ≠ 0 ∨ ¬mux.preferData = true
    · rw [if_pos asks]
      by_cases refused : (yamuxOutput mux).1 = .ok ∨ stream.sendCredit = 0
      · rw [if_pos refused]
        exact Or.inl ⟨rfl, Or.inr ⟨asks, rfl⟩⟩
      rw [if_neg refused]
      rcases not_or.mp refused with ⟨idle, credit⟩
      rcases yamuxOutput_idle ready idle with ⟨free, quiet, same⟩
      rw [same]
      exact Or.inr ⟨ready, stream, stages credit free quiet, rfl⟩
    · rw [if_neg asks]
      by_cases refused : Result.wouldBlock = .ok ∨ stream.sendCredit = 0
      · rw [if_pos refused]
        exact Or.inl ⟨rfl, Or.inl rfl⟩
      rw [if_neg refused]
      rcases not_or.mp asks with ⟨free, unused⟩
      exact Or.inr ⟨ready, stream, stages (not_or.mp refused).2 (not_ne_iff.mp free)
          (mux.controls.contents_eq_nil_iff.mpr (not_ne_iff.mp (not_or.mp unused).1)), rfl⟩

/-- The ways in which the last byte of the output slot is accounted. -/
theorem Mux.completeGrant_cases : (discards mux mux.outputGrantId = true ∧
        mux.completeGrant = (.ok, mux.clearOutput)) ∨
      ∃ stream, mux.stream mux.outputGrantId = some stream ∧ stream.reset = false ∧
        ((sub32 initialWindow stream.receiveCredit < mux.outputGrantBytes ∧
            mux.completeGrant = mux.fail .protocolError) ∨
          (mux.outputGrantBytes ≤ sub32 initialWindow stream.receiveCredit ∧ mux.completeGrant =
              (.ok, (mux.setStream
                  { stream with
                    receiveCredit :=
                      add32 stream.receiveCredit mux.outputGrantBytes }).clearOutput))) := by
  unfold Mux.completeGrant discards
  cases found : mux.stream mux.outputGrantId with
  | none => exact Or.inl ⟨rfl, rfl⟩
  | some stream =>
    dsimp only
    by_cases reset : stream.reset = true
    · rw [if_pos reset]
      exact Or.inl ⟨reset, rfl⟩
    rw [if_neg reset]
    refine Or.inr ⟨stream, rfl, Bool.eq_false_of_not_eq_true reset, ?_⟩
    by_cases excessive : sub32 initialWindow stream.receiveCredit < mux.outputGrantBytes
    · rw [if_pos excessive]
      exact Or.inl ⟨excessive, rfl⟩
    rw [if_neg excessive]
    exact Or.inr ⟨Nat.le_of_not_lt excessive, rfl⟩

namespace Changes

variable (world : World)

theorem of_write (id : Nat) (bytes : List UInt8) :
    Changes world (world.step (.write id bytes)) := by
  unfold World.step
  dsimp only
  rcases yamuxWrite_cases world.mux id bytes with ⟨none, outcome⟩ | ⟨ready, stream, stages, outcome⟩
  · rw [none, List.take_zero, List.append_nil, Function.update_eq_self]
    rcases outcome with same | ⟨_, asked⟩
    · exact of_silent (Or.inl same)
    rw [asked]
    exact of_silent (yamuxOutput_change world.mux)
  · rw [outcome]
    exact single ready (.stageData id stream bytes stages.found stages.alive
        stages.unfinished stages.offered stages.credit stages.free
        stages.quiet)

theorem of_read (id capacity : Nat) : Changes world (world.step (.read id capacity)) := by
  have unchanged : Changes world
        { world with
          readBytes := Function.update world.readBytes id (world.readBytes id ++ []) } := by
    rw [List.append_nil, Function.update_eq_self]
    exact .refl world
  unfold World.step
  dsimp only
  unfold yamuxRead
  by_cases zero : capacity = 0
  · rw [if_pos zero]
    exact unchanged
  rw [if_neg zero]
  by_cases failed : world.mux.failure ≠ .ok
  · rw [if_pos failed]
    exact unchanged
  rw [if_neg failed]
  cases found : world.mux.stream id with
  | none => exact unchanged
  | some stream =>
    dsimp only
    by_cases reset : stream.reset = true
    · rw [if_pos reset]
      exact unchanged
    rw [if_neg reset]
    by_cases drained : stream.ring.used = 0
    · rw [if_pos drained]
      exact unchanged
    rw [if_neg drained]
    exact single (not_ne_iff.mp failed)
      (.read id capacity stream found (Bool.eq_false_of_not_eq_true reset)
        (Nat.pos_of_ne_zero zero))

theorem of_consumeOutput (length : Nat) : Changes world (world.step (.consumeOutput length)) := by
  have unchanged (bytes : List UInt8) (none : bytes = []) :
      Changes world { world with handed := world.handed ++ bytes } := by
    rw [none, List.append_nil]
    exact .refl world
  unfold World.step
  dsimp only
  unfold yamuxConsumeOutput
  by_cases beyond : world.mux.output.length - world.mux.outputOffset < length
  · rw [if_pos beyond]
    exact unchanged _ rfl
  rw [if_neg beyond]
  by_cases failed : world.mux.failure ≠ .ok
  · rw [if_pos failed]
    exact unchanged _ (if_neg failed)
  rw [if_neg failed]
  have ready := not_ne_iff.mp failed
  by_cases zero : length = 0
  · rw [if_pos zero]
    exact unchanged _ (by rw [zero]; rfl)
  rw [if_neg zero]
  have positive := Nat.pos_of_ne_zero zero
  by_cases last : world.mux.outputOffset + length = world.mux.output.length
  · rw [if_pos (show (world.mux.handing length).outputOffset =
      (world.mux.handing length).output.length from last)]
    rcases (world.mux.handing length).completeGrant_cases with
      ⟨unclaimed, completed⟩ | ⟨stream, found, alive, outcome⟩
    · rw [completed]
      exact single ready (.handOverLast length positive last unclaimed)
    · rcases outcome with ⟨excessive, completed⟩ | ⟨bounded, completed⟩
      · rw [completed]
        have failing := single ready (.overGrant length stream found alive excessive)
        simpa [World.record, Mux.fail] using failing
      · rw [completed]
        exact single ready (.handOverGrant length stream positive last found alive bounded)
  · rw [if_neg (show ¬(world.mux.handing length).outputOffset =
      (world.mux.handing length).output.length from last)]
    exact single ready (.handOver length positive (by omega))

/-- The loop of `efrp_yamux_tick`. -/
theorem of_resetOverdue (slots : List Nat) (ready : world.mux.failure = .ok) :
    Changes world { world with mux := (world.mux.resetOverdue slots).2 } := by
  induction slots generalizing world with
  | nil => exact .refl world
  | cons slot _ ih =>
    unfold Mux.resetOverdue
    cases member : world.mux.streams[slot]? with
    | none => exact ih world ready
    | some stream =>
      dsimp only
      by_cases overdue : stream.overdue world.mux.nowMs = true
      · rw [if_pos overdue]
        have resetting := of_silent (yamuxReset_change world.mux stream.id)
        have stillReady : (yamuxReset world.mux stream.id).2.failure = .ok :=
          (yamuxReset_failure world.mux stream.id).trans ready
        split
        · next cleared outcome =>
          rw [outcome] at resetting stillReady
          exact resetting.trans (ih { world with mux := cleared } stillReady)
        · next unchanged _ outcome =>
          rw [outcome] at resetting stillReady
          exact resetting.trans (single stillReady (.expire .capacityExceeded (by decide)
                (by decide)))
      · rw [if_neg overdue]
        exact ih world ready

theorem of_tick (now : Nat) : Changes world (world.step (.tick now)) := by
  unfold World.step
  dsimp only
  unfold yamuxTick
  by_cases failed : world.mux.failure ≠ .ok
  · rw [if_pos failed]
    exact .refl world
  rw [if_neg failed]
  have ready := not_ne_iff.mp failed
  by_cases backwards : now < world.mux.nowMs
  · rw [if_pos backwards]
    exact single ready (.expire .invalidArgument (by decide) (by decide))
  rw [if_neg backwards]
  have advancing := single ready (.clock now (Nat.le_of_not_lt backwards))
  generalize advanced : ({ world.mux with nowMs := now } : Mux) = next at advancing ⊢
  have nextReady : next.failure = .ok := by
    rw [← advanced]
    exact ready
  by_cases late : next.timedOut = true
  · rw [if_pos late]
    have expiring : Changes (world.record .silent next) _ :=
      single nextReady (.expire .timeout (by decide) (by decide))
    exact advancing.trans expiring
  · rw [if_neg late]
    exact advancing.trans (of_resetOverdue (world.record .silent next) _ nextReady)

theorem of_feedSteps (steps : FeedSteps world.mux used final) :
    Changes world
      { world with
        mux := final
        consumed := world.consumed ++ used } := by
  generalize start : world.mux = mux at steps
  induction steps generalizing world with
  | refl =>
    rw [← start, List.append_nil]
    exact .refl world
  | @step _ middle _ chunk _ ready head _ ih =>
    subst start
    have first := single ready (.feed chunk middle head)
    have later := ih (world.record (.fed chunk) middle) rfl
    have both := first.trans later
    simp only [World.record, List.append_assoc] at both
    exact both

theorem of_feed (bytes : List UInt8) : Changes world (world.step (.feed bytes)) := by
  unfold World.step
  dsimp only
  rcases yamuxFeed_steps world.mux bytes with ⟨unchanged, none⟩ | ⟨_, steps⟩
  · rw [unchanged, none, List.take_zero, List.append_nil]
    exact .refl world
  · exact of_feedSteps world steps

/-- Every call of the API is a sequence of changes. -/
theorem of_step (call : Call) : Changes world (world.step call) := by
  cases call with
  | openStream allocated => exact of_silent (yamuxOpen_change world.mux allocated)
  | write id bytes => exact of_write world id bytes
  | read id capacity => exact of_read world id capacity
  | closeWrite id => exact of_silent (yamuxCloseWrite_change world.mux id)
  | reset id => exact of_silent (yamuxReset_change world.mux id)
  | release id => exact of_silent (yamuxRelease_change world.mux id)
  | ping opaqueId => exact of_silent (yamuxPing_change world.mux opaqueId.toNat_lt)
  | goaway => exact of_silent (yamuxGoaway_change world.mux)
  | tick now => exact of_tick world now
  | output => exact of_silent (yamuxOutput_change world.mux)
  | consumeOutput length => exact of_consumeOutput world length
  | feed bytes => exact of_feed world bytes

end Changes

/-! ## Reachable worlds -/

/-- A world that a sequence of changes leads to from initialisation. -/
def World.Reachable (world : World) : Prop := ∃ now, Changes (World.init now) world

namespace World.Reachable

theorem init : (World.init now).Reachable := ⟨now, .refl _⟩

theorem trans {world final : World} (reachable : world.Reachable)
    (changes : Changes world final) : final.Reachable := by
  rcases reachable with ⟨now, earlier⟩
  exact ⟨now, earlier.trans changes⟩

theorem record {world : World} (reachable : world.Reachable)
    (ready : world.mux.failure = .ok) (change : Change world.mux label next) :
    (world.record label next).Reachable := reachable.trans (.single ready change)

/--
The rule for invariants: what holds after initialisation and is kept by every
-/
theorem invariant (Holds : World → Prop) (initially : ∀ now, Holds (World.init now)) (preserved :
      ∀ {world : World} {label : Label} {next : Mux},
        world.Reachable → world.mux.failure = .ok → Holds world → Change world.mux label next →
            Holds (world.record label next))
    {world : World} (reachable : world.Reachable) :
    Holds world := by
  rcases reachable with ⟨now, changes⟩
  have both : world.Reachable ∧ Holds world :=
    @Changes.invariant (fun world => world.Reachable ∧ Holds world) (fun ready holds change =>
        ⟨holds.1.record ready change, preserved holds.1 ready holds.2 change⟩)
      _ _ changes ⟨init now, initially now⟩
  exact both.2

end World.Reachable

/-- A world stays reachable under a call. -/
theorem World.Reachable.step {world : World} (reachable : world.Reachable)
    (call : Call) : (world.step call).Reachable := by
  obtain ⟨now, changes⟩ := reachable
  exact ⟨now, changes.trans (.of_step world call)⟩

/-- Every list of calls leads to a reachable world. -/
theorem World.run_reachable (calls : List Call) : (World.run now calls).Reachable := by
  unfold World.run
  induction calls using List.reverseRecOn with
  | nil => exact .init now
  | append_singleton _ call ih =>
    rw [List.foldl_append]
    exact ih.step call

end EspFrp.Yamux

import EspFrp.Yamux.Slot

/-!
# Send credit, identifiers and bounded state

The credit that a client stream spends is what the peer has granted before,
as natural numbers.  The ids of the client are the odd numbers in order, and
neither the table, the control queue nor the discarded payload can grow
beyond its limit.
-/

namespace EspFrp.Yamux

open Library

variable (mux : Mux) (world : World)

/-! ## The size of a frame -/

/-- The output slot holds at most one frame of full size. -/
theorem Change.output_le {mux next : Mux} (change : Change mux label next)
    (small : mux.output.length ≤ headerBytes + ringBytes) :
    next.output.length ≤ headerBytes + ringBytes := by
  cases change with
  | reset =>
    rw [Mux.resetState_eq]
    exact small
  | stageControl control => simp [control.encode_length]
  | stageGrant => simp [Mux.stageGrant, Header.encode_length]
  | stageData id stream bytes =>
    have count : (mux.stageData stream bytes).1 ≤ ringBytes :=
      (Nat.min_le_left _ _).trans (Nat.min_le_right _ _)
    have taken := List.length_take_le (mux.stageData stream bytes).1 bytes
    change ((Header.make .data 0 stream.id _).encode ++
      bytes.take (mux.stageData stream bytes).1).length ≤ _
    rw [List.length_append, Header.encode_length]
    exact Nat.add_le_add_left (taken.trans count) 12
  | handOverLast | handOverGrant => exact Nat.zero_le _
  | feed _ _ step =>
    rw [(Calm.of_edits (.of_feedStep step)).output]
    exact small
  | _ => exact small

theorem World.Reachable.output_le {world : World} (reachable : world.Reachable) :
    world.mux.output.length ≤ headerBytes + ringBytes := by
  refine reachable.invariant (fun world => world.mux.output.length ≤ headerBytes + ringBytes)
    (fun _ => Nat.zero_le _) ?_
  intro world label next _ _ small change
  rw [World.record_mux]
  exact change.output_le small

theorem Emission.payload_le {mux next : Mux} (emission : Emission mux handed next new)
    (small : next.output.length ≤ headerBytes + ringBytes) :
    ∀ frame ∈ new, frame.payload.length ≤ ringBytes := by
  cases emission with
  | queue => simp [Header.frame]
  | stage _ _ _ output =>
    rw [output, Frame.encode, List.length_append, Header.encode_length] at small
    simp only [List.mem_singleton, forall_eq]
    exact Nat.le_of_add_le_add_left small
  | _ => exact fun _ member => absurd member List.not_mem_nil

/-- No frame of a run carries more than a ring can take. -/
theorem Traced.frames_small {world : World} (traced : Traced world history) :
    ∀ frame ∈ history.log world.mux, frame.payload.length ≤ ringBytes := by
  induction traced with
  | init =>
    rw [Legal.log_init]
    exact nofun
  | @call _ _ _ _ earlier _ change quiet ih =>
    have small := change.output_le earlier.reachable.output_le
    rcases change.produces quiet earlier.reachable.table
      earlier.reachable.accounts with ⟨new, produces⟩
    rw [World.record_mux]
    have log := (earlier.legal.wired.emission produces.emission produces.wellFormed).2
    rw [log]
    exact List.forall_mem_append.mpr ⟨ih, produces.emission.payload_le small⟩
  | @feed world history done body chunk next earlier ready parse step ih =>
    have small := (Change.feed chunk next step).output_le earlier.reachable.output_le
    rcases parse.acceptance earlier.parsed with ⟨_, acceptance, _⟩
    rcases acceptance.answers with ⟨new, answers⟩
    rcases answers.sound with ⟨emission, wellFormed, _⟩
    have wired := earlier.legal.wired
    have log := (wired.emission emission wellFormed).2
    rw [wired.called_same answers.output] at log
    rw [World.record_mux]
    change ∀ frame ∈ History.log history next, _
    rw [show History.log history next = history.log world.mux ++ new from log]
    exact List.forall_mem_append.mpr ⟨ih, emission.payload_le small⟩

/-! ## Send credit -/

/-- A stream never gets more than it has been granted, also when it is
gone. -/
theorem Traced.written_le {world : World} (traced : Traced world history) (id : Nat) :
    (world.written id).length ≤
      initialWindow + totalFor .window id (history.accepted world.mux) := by
  induction traced with
  | init => exact Nat.zero_le _
  | @call world history label next earlier ready change quiet ih =>
    have books := (earlier.call ready change quiet).books.spent.credit id
    have same := change.sameInput quiet
    have accepted := history.called_accepted same
    rw [World.record_mux] at books ⊢
    by_cases silent : label.writtenTo id = []
    · rw [accepted, World.record_written, silent, List.append_nil]
      exact ih
    cases change with
    | stageData other stream bytes found alive =>
      by_cases here : other = id
      · subst here
        have streams := Mux.stream_setStream found
          { stream with
            sendCredit := sub32 stream.sendCredit (world.mux.stageData stream bytes).1 } rfl
        have balance := (books _ ((congrFun streams other).trans (Function.update_self ..)) alive).1
        omega
      · exact absurd (if_neg here) silent
    | _ => exact absurd rfl silent
  | @feed world history done body chunk next earlier ready parse step ih =>
    rcases parse.acceptance earlier.parsed with ⟨more, _, accepted⟩
    rw [World.record_mux, show History.accepted { history with done := done, body := body } next =
        history.accepted world.mux ++ more from accepted,
      totalFor_append]
    exact ih.trans (by omega)

/-- An increment is judged by the credit that the stream has left. -/
theorem applyHeader_window {mux : Mux}
    (found : mux.stream header.id = some stream) (alive : stream.reset = false) :
    (applyHeader mux .window header).1 = .ok ↔
      (applyHeader mux .window { header with value := 0 }).1 = .ok ∧
        header.value ≤ uint32Max - stream.sendCredit := by
  have judged (value : Nat) : (applyHeader mux .window { header with value := value }).1 = .ok ↔
        stream.Accepts .window { header with value := value } := by
    rw [← Stream.refuses_eq_false_iff]
    simp only [applyHeader, found, alive]
    cases stream.refuses .window { header with value := value } <;>
      simp [Mux.fail]
  refine (judged header.value).trans ?_
  rw [judged 0]
  constructor
  · intro accepts
    exact ⟨⟨accepts.ack, accepts.acknowledged, accepts.finished,
      Kind.noConfusion, fun _ => Nat.zero_le _⟩, accepts.window rfl⟩
  · rintro ⟨accepts, within⟩
    exact ⟨accepts.ack, accepts.acknowledged, accepts.finished, Kind.noConfusion, fun _ => within⟩

/--
In every run the DATA frames are small and spend no more than the peer has
granted.  The credit of a live stream is the exact difference, and an
increment is refused because of its size exactly when the sum would leave
32 bits.
-/
theorem sendCredit_exact (now : Nat) (calls : List Call) :
    let world := World.run now calls
    let granted (id : Nat) := initialWindow +
      totalFor .window id ((framesOf world.acceptedInput).map Frame.header)
    (∃ frames, encodeFrames frames = world.handed ++ world.mux.unsent ∧
      (∀ frame ∈ frames, frame.payload.length ≤ ringBytes) ∧
      ∀ id, id % 2 = 1 → payloadFor id (framesFor id frames) = world.written id ∧
        (world.written id).length ≤ granted id) ∧
    ∀ id stream, world.mux.stream id = some stream → stream.reset = false →
        stream.sendCredit + (world.written id).length = granted id ∧
        ∀ header, header.id = id → ((applyHeader world.mux .window header).1 = .ok ↔
            (applyHeader world.mux .window { header with value := 0 }).1 = .ok ∧
            granted id + header.value ≤ uint32Max + (world.written id).length) := by
  intro world granted
  obtain ⟨history, traced⟩ : ∃ history, Traced world history :=
    (World.run_reachable now calls).traced
  have accepted : (framesOf world.acceptedInput).map Frame.header = history.accepted world.mux :=
    congrArg (List.map Frame.header) traced.framesOf_acceptedInput
  have legal := traced.legal
  refine ⟨⟨history.log world.mux, legal.wired.log_bytes, traced.frames_small, ?_⟩, ?_⟩
  · intro id odd
    refine ⟨(legal.client.legal id odd).payload, ?_⟩
    dsimp only [granted]
    rw [accepted]
    exact traced.written_le id
  · intro id stream found alive
    rcases traced.books.spent.credit id stream found alive with ⟨balance, range⟩
    dsimp only [granted]
    rw [accepted]
    refine ⟨balance, ?_⟩
    rintro header rfl
    rw [applyHeader_window found alive]
    simp only [word32, uint32Max] at range ⊢
    refine and_congr_right fun _ => ?_
    omega

/-! ## Identifiers -/

/-- The next id, the header buffer and the cursor of the credit grants. -/
def Mux.core (mux : Mux) : Nat × List UInt8 × Bool × Nat :=
  (mux.nextId, mux.header, mux.frameActive, mux.creditCursor)

theorem Mux.queue_core (kind : Kind) (flags id value : Nat) :
    (mux.queue kind flags id value).2.core = mux.core := by
  unfold Mux.queue
  split <;> rfl

theorem yamuxReset_core (id : Nat) : (yamuxReset mux id).2.core = mux.core := by
  have queued := mux.queue_core .window rstFlag id 0
  unfold yamuxReset
  repeat' split
  all_goals first
    | rfl
    | next answer =>
      rw [answer] at queued
      first
        | exact queued
        | rw [Mux.resetState_eq]; exact queued

theorem Mux.resetOverdue_core (slots : List Nat) : (mux.resetOverdue slots).2.core = mux.core := by
  induction slots generalizing mux with
  | nil => rfl
  | cons _ _ ih =>
    unfold Mux.resetOverdue
    split
    · exact ih mux
    · next stream _ =>
      have cleared := yamuxReset_core mux stream.id
      repeat' split
      · next answer =>
        rw [answer] at cleared
        exact (ih _).trans cleared
      · next answer =>
        rw [answer] at cleared
        exact cleared
      · exact ih mux

/-- The calls that open no stream, stage no output and parse no input. -/
def Call.plain : Call → Bool
  | .openStream _ | .write _ _ | .output | .feed _ => false
  | _ => true

theorem World.step_core (plain : call.plain = true) :
    (world.step call).mux.core = world.mux.core := by
  have queued := world.mux.queue_core
  cases call with
  | openStream | write | output | feed => cases plain
  | read =>
    dsimp only [World.step, yamuxRead]
    repeat' split
    all_goals rfl
  | closeWrite id =>
    have queued := queued .window finFlag id 0
    dsimp only [World.step, yamuxCloseWrite]
    repeat' split
    all_goals first
      | rfl
      | next answer => rw [answer] at queued; exact queued
  | reset id => exact yamuxReset_core world.mux id
  | release =>
    dsimp only [World.step, yamuxRelease]
    repeat' split
    all_goals rfl
  | ping opaqueId =>
    have queued := queued .ping synFlag 0 opaqueId.toNat
    dsimp only [World.step, yamuxPing]
    repeat' split
    all_goals first
      | rfl
      | next answer => rw [answer] at queued; exact queued
  | goaway =>
    have queued := queued .goaway 0 0 0
    dsimp only [World.step, yamuxGoaway]
    repeat' split
    all_goals first
      | rfl
      | next answer => rw [answer] at queued; exact queued
  | tick =>
    dsimp only [World.step, yamuxTick]
    repeat' split
    all_goals first
      | rfl
      | exact Mux.resetOverdue_core _ _
  | consumeOutput =>
    dsimp only [World.step, yamuxConsumeOutput, Mux.completeGrant]
    repeat' split
    all_goals rfl

theorem yamuxOutput_nextId : (yamuxOutput mux).2.2.nextId = mux.nextId := by
  rcases yamuxOutput_cases mux with
    same | ⟨_, _, ⟨_, _, _, same⟩ | ⟨_, _, _, _, _, same⟩⟩
  all_goals
    rw [same]
    try rfl

/-- Only opening a stream changes the next id. -/
theorem World.step_nextId (other : ∀ allocated, call ≠ .openStream allocated) :
    (world.step call).mux.nextId = world.mux.nextId := by
  cases call with
  | openStream allocated => exact absurd rfl (other allocated)
  | write id bytes =>
    change (yamuxWrite world.mux id bytes).2.2.nextId = _
    rcases yamuxWrite_cases world.mux id bytes with
      ⟨_, same | ⟨_, same⟩⟩ | ⟨_, stream, _, same⟩ <;> rw [same]
    · exact yamuxOutput_nextId world.mux
    · rfl
  | output => exact yamuxOutput_nextId world.mux
  | feed bytes =>
    change (yamuxFeed world.mux bytes).2.2.nextId = _
    rcases yamuxFeed_steps world.mux bytes with ⟨same, _⟩ | ⟨_, steps⟩
    · rw [same]
    · exact (SameIds.of_edits (.of_feedSteps steps)).nextId
  | _ => exact congrArg Prod.fst (world.step_core rfl)

/-- The id that a call makes `efrp_yamux_open` return. -/
def World.issues (world : World) : Call → List Nat
  | .openStream allocated =>
    if (yamuxOpen world.mux allocated).1 = .ok then
      [(yamuxOpen world.mux allocated).2.1]
    else
      []
  | _ => []

/-- The ids that `efrp_yamux_open` returns in a run. -/
def World.issued (world : World) : List Call → List Nat
  | [] => []
  | call :: rest => world.issues call ++ (world.step call).issued rest

/-- The number of ids that can be issued. -/
abbrev idCount : Nat := 2147483648

/-- The next id after a number of them has been issued. -/
def idAfter (count : Nat) : Nat :=
  if count < idCount then 2 * count + 1 else 0

/-- A call issues the next id or none. -/
theorem World.step_issues (call : Call)
    (bounded : count ≤ idCount) (next : world.mux.nextId = idAfter count) :
    ∃ more, world.issues call = (List.range' count more).map (2 * · + 1) ∧ count + more ≤ idCount ∧
      (world.step call).mux.nextId = idAfter (count + more) := by
  by_cases opens : ∃ allocated, call = .openStream allocated
  · rcases opens with ⟨allocated, rfl⟩
    rcases yamuxOpen_cases world.mux allocated with ⟨refused, same⟩ | ⟨_, available, _, answer⟩
    · exact ⟨0, if_neg refused, bounded, (congrArg Mux.nextId same).trans next⟩
    have room : count < idCount := by
      by_contra full
      exact available (next.trans (if_neg full))
    rw [idAfter, if_pos room] at next
    refine ⟨1, ?_, room, ?_⟩
    · simp [World.issues, answer, next]
    · change (yamuxOpen world.mux allocated).2.2.nextId = _
      rw [answer]
      dsimp only [Mux.opening, idAfter]
      simp only [next, uint32Max, idCount, add32, word32] at room ⊢
      split
      · rw [if_neg (by omega)]
      rw [if_pos (by omega)]
      omega
  · have other : ∀ allocated, call ≠ .openStream allocated :=
      fun allocated same => opens ⟨allocated, same⟩
    refine ⟨0, ?_, bounded, (world.step_nextId other).trans next⟩
    cases call with
    | openStream allocated => exact absurd rfl (other allocated)
    | _ => rfl

theorem World.issued_eq (calls : List Call)
    (bounded : count ≤ idCount) (next : world.mux.nextId = idAfter count) :
    ∃ more, world.issued calls = (List.range' count more).map (2 * · + 1) ∧ count + more ≤ idCount ∧
      (calls.foldl World.step world).mux.nextId = idAfter (count + more) := by
  induction calls generalizing world count with
  | nil => exact ⟨0, rfl, bounded, next⟩
  | cons call _ ih =>
    rcases world.step_issues call bounded next with ⟨first, issues, within, after⟩
    rcases ih (world.step call) within after with ⟨more, issued, limit, last⟩
    refine ⟨first + more, ?_, by omega, ?_⟩
    · rw [World.issued, issues, issued, ← List.map_append, List.range'_append_1]
    · rw [← Nat.add_assoc]
      exact last

theorem World.Reachable.streams_length {world : World} (reachable : world.Reachable) :
    world.mux.streams.length = streamSlots := by
  refine reachable.invariant (fun world => world.mux.streams.length = streamSlots) (fun _ => rfl) ?_
  intro world label next _ _ slots change
  rw [World.record_mux]
  rcases change.ids with ⟨rfl, _⟩ | ⟨id, rfl⟩ | same
  · exact (Slots.replaceFirst_length ..).trans slots
  · exact (Slots.replaceFirst_length ..).trans slots
  have ids := congrArg List.length same.ids
  simp only [Mux.ids, List.length_map] at ids
  exact ids.trans slots

/-- A frame for a stream that neither side has opened, or that opens a stream
wrongly. -/
def Header.Misplaced (header : Header) (issued : List Nat) (accepted : List Header) : Prop :=
  (header.syn = true ∧ (header.id % 2 = 1 ∨ header.id = 0 ∨
        ∃ earlier ∈ accepted, earlier.syn = true ∧ header.id ≤ earlier.id)) ∨
    header.syn = false ∧ ((header.id % 2 = 1 ∧ header.id ∉ issued) ∨ header.id % 2 = 0 ∧
          ∀ earlier ∈ accepted, earlier.syn = true → earlier.id < header.id)

/--
In every run the ids are the odd numbers in order, each issued once, the
table has four slots with an id and a ring each, and the control queue and
the discarded payload stay within their limits.  A frame that is misplaced
fails the mux and changes nothing else.
-/
theorem identifiers_bounded (now : Nat) (calls : List Call) :
    let world := World.run now calls
    let issued := (World.init now).issued calls
    (∃ count ≤ idCount, issued = (List.range count).map (2 * · + 1) ∧
      (count = idCount → ∀ allocated, (yamuxOpen world.mux allocated).1 ≠ .ok)) ∧
    world.mux.streams.length = streamSlots ∧
    Slots.Distinct Stream.id world.mux.streams ∧
    world.mux.controls.used ≤ controlSlots ∧
    world.mux.discardedBytes ≤ discardLimit ∧
    ∀ used mux chunk (kind : Kind), FeedSteps world.mux used mux →
      mux.failure = .ok → (kind = .data ∨ kind = .window) →
      (mux.fillHeader chunk).header.length = headerBytes →
      (Header.decode (mux.fillHeader chunk).header).type = kind.code →
      (Header.decode (mux.fillHeader chunk).header).Misplaced issued
        ((framesOf { world with
          mux := mux
          consumed := world.consumed ++ used }.acceptedInput).map
          Frame.header) →
      startFrame (mux.fillHeader chunk) = (mux.fillHeader chunk).fail .protocolError := by
  intro world issued
  have reachable : world.Reachable := World.run_reachable now calls
  obtain ⟨_, books⟩ := reachable.traced
  rcases (World.init now).issued_eq calls (Nat.zero_le _) rfl with ⟨count, ids, bounded, next⟩
  rw [Nat.zero_add] at bounded next
  refine ⟨⟨count, bounded, ids.trans (by rw [List.range_eq_range']), ?_⟩,
    reachable.streams_length, reachable.table.distinct,
    world.mux.controls.used_le, books.books.tally.discarded, ?_⟩
  · rintro rfl allocated accepted
    rcases yamuxOpen_cases world.mux allocated with ⟨refused, _⟩ | ⟨_, available, _⟩
    · exact refused accepted
    · exact available next
  intro used mux chunk kind steps ready stream complete type misplaced
  obtain ⟨history, traced⟩ := (reachable.trans (Changes.of_feedSteps world steps)).traced
  have tally := traced.books.tally
  rw [show (framesOf _).map Frame.header = history.accepted mux from
    congrArg (List.map Frame.header) traced.framesOf_acceptedInput]
    at misplaced
  have same := SameIds.of_edits (.fillHeader mux chunk)
  have last := ((SameOutput.refl mux).fillHeader chunk).peerLastId
  have next := same.nextId.trans ((SameIds.of_edits (.of_feedSteps steps)).nextId.trans next)
  have range := (Header.decode_inRange complete).id
  unfold startFrame
  dsimp only
  generalize mux.fillHeader chunk = filled at *
  generalize Header.decode filled.header = header at *
  split
  · rfl
  have started : startStream filled kind header = filled.fail .protocolError := by
    unfold startStream
    split
    · rfl
    next formed =>
    have nonzero : header.id ≠ 0 := fun zero => formed (.inl zero)
    have refused : admitStream filled header = filled.fail .protocolError := by
      unfold admitStream
      rcases misplaced with ⟨opening, wrong⟩ | ⟨plain, wrong⟩
      · rw [if_pos opening, if_pos]
        rcases wrong with odd | zero | ⟨earlier, member, syn, late⟩
        · exact .inl odd
        · exact absurd zero nonzero
        rw [last]
        exact .inr (.inl (late.trans (tally.latest earlier member (by omega) syn)))
      · rw [if_neg (by simp [plain]), if_pos]
        rcases wrong with ⟨odd, missing⟩ | ⟨even, above⟩
        · rw [if_pos odd]
          have unissued : count ≤ header.id / 2 := by
            by_contra few
            refine missing ?_
            rw [show issued = _ from ids, List.mem_map]
            exact ⟨header.id / 2, List.mem_range'_1.mpr (by omega), by omega⟩
          rw [next, idAfter, if_pos]
          · omega
          · simp only [idCount] at *
            omega
        · rw [if_neg (by omega), last]
          rcases tally.last ready with none | ⟨earlier, member, syn, last⟩
          · rw [show mux.peerLastId = 0 from none]
            omega
          rw [show mux.peerLastId = earlier.id from last.symm]
          exact above earlier member syn
    rw [refused]
    rfl
  rw [Kind.ofCode?_eq_some_iff.mpr type]
  rcases stream with rfl | rfl <;> exact started

end EspFrp.Yamux

import EspFrp.Yamux.Run

/-!
# The stream table

The four stream slots are a finite map from the ids of live streams to their
streams.  The lemmas of the first section say how each operation updates that
map.  The invariant `Mux.Table` says that no id occupies two slots, that live
ids are odd and have been handed out by `efrp_yamux_open`, and that the next
id is fresh; the loop counter of ids never wraps around to a used one.
-/

namespace EspFrp.Yamux

open Library

/-! ## The table as a map -/

namespace Mux

variable {mux next : Mux} {id : Nat} {stream old new : Stream}

theorem stream_ne_zero (found : mux.stream id = some stream) : id ≠ 0 := by
  intro zero
  rw [Mux.stream, if_pos zero] at found
  cases found

theorem stream_eq_lookup (occupied : id ≠ 0) :
    mux.stream id = Slots.lookup Stream.id id mux.streams :=
  if_neg occupied

theorem stream_id (found : mux.stream id = some stream) : stream.id = id := by
  rw [stream_eq_lookup (stream_ne_zero found)] at found
  exact Slots.key_of_lookup found

theorem stream_mem (found : mux.stream id = some stream) : stream ∈ mux.streams := by
  rw [stream_eq_lookup (stream_ne_zero found)] at found
  exact Slots.mem_of_lookup found

theorem stream_congr (same : next.streams = mux.streams) : next.stream = mux.stream := by
  funext id
  unfold Mux.stream
  rw [same]

/-- Exchanging a slot changes the map at one id only. -/
theorem stream_exchanged (occupied : id ≠ 0)
    (here : Slots.lookup Stream.id id next.streams = changed)
    (elsewhere : ∀ other, other ≠ 0 → other ≠ id → Slots.lookup Stream.id other next.streams =
        Slots.lookup Stream.id other mux.streams) :
    next.stream = Function.update mux.stream id changed := by
  funext other
  by_cases same : other = id
  · rw [same, Function.update_self, stream_eq_lookup occupied, here]
  rw [Function.update_of_ne same]
  by_cases zero : other = 0
  · rw [Mux.stream, Mux.stream, if_pos zero, if_pos zero]
  · rw [stream_eq_lookup zero, stream_eq_lookup zero, elsewhere other zero same]

/-- Writing a stream back changes the map at its id only. -/
theorem stream_setStream (found : mux.stream id = some old) (new : Stream)
    (same : new.id = old.id) :
    (mux.setStream new).stream = Function.update mux.stream id (some new) := by
  obtain rfl : new.id = id := same.trans (stream_id found)
  have occupied := stream_ne_zero found
  rw [stream_eq_lookup occupied] at found
  exact stream_exchanged occupied (Slots.lookup_replaceFirst_new found fun _ _ => id)
    fun _ _ apart => Slots.lookup_replaceFirst_of_ne apart (Ne.symm apart)

theorem stream_setStream_self (found : mux.stream id = some old) (new : Stream)
    (same : new.id = old.id) : (mux.setStream new).stream id = some new := by
  rw [stream_setStream found new same, Function.update_self]

theorem resetState_eq (mux : Mux) (stream : Stream) : mux.resetState stream =
      { mux.setStream stream.cleared with
        frameDiscard := (mux.resetState stream).frameDiscard
        drainStartedMs := (mux.resetState stream).drainStartedMs } := by
  unfold Mux.resetState
  split <;> rfl

theorem resetState_frameDiscard (mux : Mux) (stream : Stream) :
    (mux.resetState stream).frameDiscard = (mux.frameDiscard ||
        (mux.frameActive && mux.frameId == stream.id)) := by
  unfold Mux.resetState
  split
  · next resets => simp [resets.1, resets.2.1]
  · next keeps =>
    by_cases discarded : mux.frameDiscard = true
    · simp [discarded, Mux.setStream]
    have apart : ¬(mux.frameActive = true ∧ mux.frameId = stream.id) :=
      fun both => keeps ⟨both.1, both.2, discarded⟩
    simpa [discarded, Mux.setStream] using apart

theorem stream_resetState (found : mux.stream id = some old)
    (stream : Stream) (same : stream.id = old.id) :
    (mux.resetState stream).stream = Function.update mux.stream id (some stream.cleared) := by
  rw [resetState_eq]
  exact stream_setStream found stream.cleared same

theorem stream_resetState_self (found : mux.stream id = some old) (stream : Stream)
    (same : stream.id = old.id) : (mux.resetState stream).stream id = some stream.cleared := by
  rw [stream_resetState found stream same, Function.update_self]

/-- The first frame of a fresh id takes a free slot. -/
theorem stream_opening (available : mux.nextId ≠ 0)
    (slot : Slots.lookup Stream.id 0 mux.streams = some free)
    (fresh : mux.stream mux.nextId = none) :
    mux.opening.stream = Function.update mux.stream mux.nextId (some (openedStream mux)) := by
  rw [stream_eq_lookup available] at fresh
  exact stream_exchanged available (@Slots.lookup_replaceFirst_new _ _ _ _ (openedStream mux) _ slot
      fun stream member _ => Slots.lookup_eq_none_iff.mp fresh stream member)
    fun _ zero apart => Slots.lookup_replaceFirst_of_ne zero (Ne.symm apart)

theorem stream_releasing (distinct : Slots.Distinct Stream.id mux.streams) (occupied : id ≠ 0) :
    (mux.releasing id).stream = Function.update mux.stream id none := by
  exact stream_exchanged occupied
    (Slots.lookup_replaceFirst_removed distinct occupied (Ne.symm occupied))
    fun _ zero apart => Slots.lookup_replaceFirst_of_ne apart (Ne.symm zero)

end Mux

/-! ## What a transition keeps of the live streams -/

/--
Every stream that is live and not reset after a transition was so before, and
a view of it is unchanged.
-/
def Keeps {View : Type} (view : Stream → View) (mux next : Mux) : Prop :=
  ∀ id stream, next.stream id = some stream → stream.reset = false →
    ∃ old, mux.stream id = some old ∧ old.reset = false ∧ view stream = view old

namespace Keeps

variable {View : Type} {view : Stream → View} {id : Nat}

theorem refl (view : Stream → View) (mux : Mux) : Keeps view mux mux :=
  fun _ stream found alive => ⟨stream, found, alive, rfl⟩

section

variable (keeps : Keeps view base mux)
include keeps

theorem of_streams (same : next.streams = mux.streams) : Keeps view base next := by
  intro id stream found alive
  rw [Mux.stream_congr same] at found
  exact keeps id stream found alive

theorem setStream (found : mux.stream id = some old) (new : Stream)
    (sameId : new.id = old.id) (sameReset : new.reset = old.reset)
    (sameView : view new = view old) : Keeps view base (mux.setStream new) := by
  intro other stream foundNow alive
  rcases update_found (Mux.stream_setStream found new sameId) foundNow with
    ⟨rfl, ⟨⟩⟩ | ⟨here, foundNow⟩
  · rcases keeps other old found (sameReset ▸ alive) with
      ⟨before, foundBefore, aliveBefore, viewBefore⟩
    exact ⟨before, foundBefore, aliveBefore, sameView.trans viewBefore⟩
  · exact keeps other stream foundNow alive

theorem resetState (found : mux.stream id = some old) (stream : Stream)
    (sameId : stream.id = old.id) : Keeps view base (mux.resetState stream) := by
  intro other stream' foundNow alive
  rcases update_found (Mux.stream_resetState found stream sameId) foundNow with
    ⟨rfl, ⟨⟩⟩ | ⟨here, foundNow⟩
  · cases alive
  · exact keeps other stream' foundNow alive

theorem releasing (distinct : Slots.Distinct Stream.id mux.streams)
    (occupied : id ≠ 0) : Keeps view base (mux.releasing id) := by
  intro other stream found alive
  rcases update_found (Mux.stream_releasing distinct occupied) found with ⟨-, ⟨⟩⟩ | ⟨-, found⟩
  exact keeps other stream found alive

end

theorem discards (keeps : Keeps view mux next)
    (discarded : discards mux id = true) : discards next id = true := by
  by_contra kept
  have live := Bool.eq_false_of_not_eq_true kept
  unfold Yamux.discards at live discarded
  cases found : next.stream id with
  | none => rw [found] at live; cases live
  | some stream =>
    rw [found] at live
    rcases keeps id stream found live with ⟨old, foundOld, alive, _⟩
    rw [foundOld] at discarded
    exact absurd (alive.symm.trans discarded) Bool.false_ne_true

theorem since (keeps : Keeps view start next)
    (same : start.streams = mux.streams) : Keeps view mux next := by
  unfold Keeps at keeps ⊢
  rwa [Mux.stream_congr same] at keeps

end Keeps

/-- The end of a frame ends at most the input of its stream. -/
theorem Keeps.endFrame (keeps : Keeps view base mux)
    (blind : ∀ stream value, view { stream with remoteFin := value } = view stream) :
    Keeps view base (endFrame mux) := by
  rcases endFrame_cases mux with ⟨_, ended⟩ | ⟨stream, found, _, _, ended⟩
  · rw [ended]
    exact keeps.of_streams rfl
  · rw [ended]
    exact (keeps.setStream found { stream with remoteFin := true }
      rfl rfl (blind _ _)).of_streams rfl

/-! ## The ids of the table -/

/-- The ids in the slots, with zero for a free slot. -/
def Mux.ids (mux : Mux) : List Nat := mux.streams.map Stream.id

/-- A transition that keeps every slot with its id. -/
structure SameIds (mux next : Mux) : Prop where
  ids : next.ids = mux.ids
  nextId : next.nextId = mux.nextId

namespace SameIds

theorem refl (mux : Mux) : SameIds mux mux := ⟨rfl, rfl⟩

theorem setStream (same : SameIds base mux) (stream : Stream) :
    SameIds base (mux.setStream stream) :=
  ⟨(Slots.map_key_replaceFirst stream mux.streams).trans same.ids, same.nextId⟩

theorem resetState (same : SameIds base mux) (stream : Stream) :
    SameIds base (mux.resetState stream) := by
  rw [Mux.resetState_eq]
  have cleared := same.setStream stream.cleared
  exact ⟨cleared.ids, cleared.nextId⟩

theorem of_edits (edits : Edits mux next) : SameIds mux next := by
  induction edits with
  | refl => exact refl mux
  | tail _ edit same =>
    cases edit with
    | enqueue => exact ⟨same.ids, same.nextId⟩
    | stream => exact same.setStream _
    | parser kept =>
      rw [kept]
      exact ⟨same.ids, same.nextId⟩

end SameIds

/-- What a change does to the ids. -/
theorem Change.ids (change : Change mux label next) :
    (next = mux.opening ∧ mux.nextId ≠ 0) ∨ (∃ id, next = mux.releasing id) ∨ SameIds mux next := by
  have unchanged := SameIds.refl mux
  cases change with
  | openStream _ available => exact .inl ⟨rfl, available⟩
  | release id => exact .inr (.inl ⟨id, rfl⟩)
  | finish =>
    refine .inr (.inr (SameIds.setStream ?_ _))
    exact ⟨rfl, rfl⟩
  | reset _ stream =>
    refine .inr (.inr (SameIds.resetState ?_ stream))
    exact ⟨rfl, rfl⟩
  | stageGrant _ stream =>
    exact .inr (.inr ⟨(unchanged.setStream { stream with returnCredit := 0 }).ids, rfl⟩)
  | stageData _ stream bytes =>
    exact .inr (.inr ⟨(unchanged.setStream
      { stream with
        sendCredit := sub32 stream.sendCredit (mux.stageData stream bytes).1 }).ids, rfl⟩)
  | handOverGrant _ stream =>
    exact .inr (.inr ⟨(unchanged.setStream
      { stream with
        receiveCredit := add32 stream.receiveCredit mux.outputGrantBytes }).ids, rfl⟩)
  | read => exact .inr (.inr (unchanged.setStream _))
  | feed _ _ step => exact .inr (.inr (.of_edits (.of_feedStep step)))
  | _ => exact .inr (.inr ⟨rfl, rfl⟩)

/-! ## The invariant -/

/-- An id that `efrp_yamux_open` has handed out before the next one. -/
structure Opened (nextId id : Nat) : Prop where
  odd : id % 2 = 1
  range : id < word32
  past : nextId = 0 ∨ id < nextId

/-- The ids of the slots are distinct and have been handed out. -/
structure Mux.Table (mux : Mux) : Prop where
  distinct : Slots.Distinct Stream.id mux.streams
  opened : ∀ id ∈ mux.ids, id ≠ 0 → Opened mux.nextId id
  next : mux.nextId ≠ 0 → mux.nextId % 2 = 1 ∧ mux.nextId < word32

namespace Mux.Table

variable {mux next : Mux} {id : Nat} {stream : Stream}

theorem opened_of_stream (table : mux.Table)
    (found : mux.stream id = some stream) : Opened mux.nextId id := by
  have member : stream.id ∈ mux.ids := List.mem_map_of_mem (stream_mem found)
  rw [stream_id found] at member
  exact table.opened id member (stream_ne_zero found)

theorem stream_of_mem (table : mux.Table) (member : stream ∈ mux.streams)
    (live : stream.id ≠ 0) : mux.stream stream.id = some stream := by
  rw [stream_eq_lookup live]
  exact Slots.lookup_of_mem table.distinct member live

/-- The next id is not in the table. -/
theorem fresh (table : mux.Table) : mux.stream mux.nextId = none := by
  cases found : mux.stream mux.nextId with
  | none => rfl
  | some =>
    have past := (table.opened_of_stream found).past
    have nonzero := stream_ne_zero found
    omega

theorem of_same (table : mux.Table) (same : SameIds mux next) : next.Table where
  distinct := by
    have distinct := table.distinct
    rw [Slots.distinct_iff_map] at distinct ⊢
    rw [show next.streams.map Stream.id = mux.streams.map Stream.id from same.ids]
    exact distinct
  opened := by
    intro id member live
    rw [same.ids] at member
    rcases table.opened id member live with ⟨odd, range, past⟩
    exact ⟨odd, range, by rw [same.nextId]; exact past⟩
  next := by
    rw [same.nextId]
    exact table.next

section

variable (table : mux.Table) (available : mux.nextId ≠ 0)
include table available

/-- The id after the next one. -/
theorem opening_nextId : mux.opening.nextId = 0 ∧ mux.nextId = uint32Max ∨
      mux.opening.nextId = mux.nextId + 2 ∧ mux.nextId + 2 < word32 := by
  rcases table.next available with ⟨odd, range⟩
  by_cases last : mux.nextId = uint32Max
  · exact .inl ⟨if_pos last, last⟩
  have within : mux.nextId + 2 < word32 := by
    simp only [word32, uint32Max] at *
    omega
  exact .inr ⟨(if_neg last).trans (add32_of_lt within), within⟩

/-- Every id handed out stays so when the counter advances. -/
theorem opened_opening (opened : Opened mux.nextId id) : Opened mux.opening.nextId id := by
  refine ⟨opened.odd, opened.range, ?_⟩
  have past := opened.past
  have advanced := table.opening_nextId available
  omega

/-- Only the id of the new stream is handed out in addition. -/
theorem opened_of_opening (opened : Opened mux.opening.nextId id)
    (other : id ≠ mux.nextId) : Opened mux.nextId id := by
  rcases table.next available with ⟨odd, range⟩
  rcases opened with ⟨idOdd, idRange, past⟩
  refine ⟨idOdd, idRange, Or.inr ?_⟩
  have advanced := table.opening_nextId available
  simp only [word32, uint32Max] at *
  omega

theorem next_opening : Opened mux.opening.nextId mux.nextId := by
  rcases table.next available with ⟨odd, range⟩
  refine ⟨odd, range, ?_⟩
  have advanced := table.opening_nextId available
  omega

theorem opening : mux.opening.Table where
  distinct := by
    have fresh := table.fresh
    rw [stream_eq_lookup available] at fresh
    exact Slots.distinct_replaceFirst table.distinct (Or.inr (Or.inr fresh))
  opened := by
    intro id member live
    rcases List.mem_map.mp member with ⟨stream, inTable, rfl⟩
    rcases Slots.mem_replaceFirst inTable with rfl | before
    · exact table.next_opening available
    exact table.opened_opening available (table.opened stream.id (List.mem_map_of_mem before) live)
  next := by
    rcases table.next available with ⟨odd, range⟩
    have advanced := table.opening_nextId available
    omega

end

theorem releasing (table : mux.Table) (id : Nat) : (mux.releasing id).Table where
  distinct := Slots.distinct_replaceFirst table.distinct (Or.inl rfl)
  opened := by
    intro other member live
    rcases List.mem_map.mp member with ⟨stream, inTable, rfl⟩
    rcases Slots.mem_replaceFirst inTable with rfl | before
    · exact absurd rfl live
    rcases table.opened stream.id (List.mem_map_of_mem before) live with ⟨odd, range, past⟩
    exact ⟨odd, range, past⟩
  next := table.next

theorem init (now : Nat) : (yamuxInit now).Table where
  distinct := by
    change Slots.Distinct Stream.id (List.replicate streamSlots {})
    rw [Slots.distinct_iff_map]
    decide
  opened := by
    intro id member live
    have zero : id ∈ List.replicate streamSlots 0 := member
    exact absurd (List.eq_of_mem_replicate zero) live
  next := fun _ => by
    change 1 % 2 = 1 ∧ 1 < word32
    decide

/-- A new session has opened no stream. -/
theorem unopened (opened : Opened (yamuxInit now).nextId id) : False := by
  have odd := opened.odd
  have past : (1 : Nat) = 0 ∨ id < 1 := opened.past
  omega

theorem empty {now id : Nat} (found : (yamuxInit now).stream id = some stream) : False :=
  unopened ((init now).opened_of_stream found)

theorem change (table : mux.Table) (change : Change mux label next) : next.Table := by
  rcases change.ids with ⟨rfl, available⟩ | ⟨id, rfl⟩ | same
  · exact table.opening available
  · exact table.releasing id
  · exact table.of_same same

end Mux.Table

/-- The table is sound in every reachable world. -/
theorem World.Reachable.table {world : World} (reachable : world.Reachable) : world.mux.Table := by
  refine reachable.invariant (fun world => world.mux.Table) Mux.Table.init ?_
  intro world label next _ _ table change
  rw [World.record_mux]
  exact table.change change

end EspFrp.Yamux

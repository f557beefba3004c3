import EspFrp.Yamux.Bounds

/-!
# The rotation of credit grants

`efrp_yamux_output` looks for a stream with returned credit from the slot
behind the one it served last.  A stream that waits for its grant keeps its
slot, and each grant for another stream brings the cursor closer to it.
-/

namespace EspFrp.Yamux

open Library

/-! ## The slot of a stream -/

/-- A stream in its slot, or an id whose stream is gone for good. -/
def Mux.Seat (mux : Mux) (slot id : Nat) : Prop :=
  mux.ids[slot]? = some id ∨ Opened mux.nextId id ∧ id ∉ mux.ids

section

variable {mux next : Mux} {slot id : Nat}

theorem Mux.ids_replaceFirst (seated : mux.ids[slot]? = some id) (other : id ≠ wanted) :
    ((Slots.replaceFirst Stream.id wanted new mux.streams).map Stream.id)[slot]? = some id := by
  rw [Mux.ids, List.getElem?_map, Option.map_eq_some_iff] at seated
  rcases seated with ⟨stream, there, rfl⟩
  rw [List.getElem?_map, Slots.getElem?_replaceFirst_of_ne there other]
  rfl

theorem Mux.not_mem_replaceFirst (gone : id ∉ mux.ids) (other : id ≠ new.id) :
    id ∉ (Slots.replaceFirst Stream.id wanted new mux.streams).map Stream.id := by
  intro member
  rcases List.mem_map.mp member with ⟨stream, inTable, rfl⟩
  rcases Slots.mem_replaceFirst inTable with rfl | before
  · exact other rfl
  · exact gone (List.mem_map_of_mem before)

theorem Mux.Table.seat {label : Label} (table : mux.Table) (change : Change mux label next)
    (taken : id ≠ 0) (seat : mux.Seat slot id) : next.Seat slot id := by
  rcases change.ids with ⟨rfl, available⟩ | ⟨gone, rfl⟩ | same
  · rcases seat with seated | ⟨opened, absent⟩
    · exact .inl (Mux.ids_replaceFirst seated taken)
    refine .inr ⟨table.opened_opening available opened, Mux.not_mem_replaceFirst absent ?_⟩
    have past := opened.past
    change id ≠ mux.nextId
    omega
  · rcases seat with seated | ⟨opened, absent⟩
    · by_cases here : id = gone
      · subst here
        refine .inr ⟨table.opened id (List.mem_of_getElem? seated) taken, ?_⟩
        intro member
        rcases List.mem_map.mp member with ⟨stream, inTable, same⟩
        have found := (table.releasing id).stream_of_mem inTable (same.trans_ne taken)
        rw [same, Mux.stream_releasing table.distinct taken, Function.update_self] at found
        cases found
      · exact .inl (Mux.ids_replaceFirst seated here)
    · exact .inr ⟨opened, Mux.not_mem_replaceFirst absent taken⟩
  · rw [Mux.Seat, same.ids, same.nextId]
    exact seat

end

/-- A stream that is there after a call has kept its slot. -/
theorem World.Reachable.seat {world : World} (reachable : world.Reachable)
    (call : Call) {slot id : Nat} (seated : world.mux.ids[slot]? = some id)
    (present : ((world.step call).mux.stream id).isSome) :
    (world.step call).mux.ids[slot]? = some id := by
  have ⟨stream, found⟩ := Option.isSome_iff_exists.mp present
  have taken := Mux.stream_ne_zero found
  have ⟨_, seat⟩ := @Changes.invariant (fun world => world.mux.Table ∧ world.mux.Seat slot id)
    (fun _ ⟨table, seat⟩ change => by
      rw [World.record_mux]
      exact ⟨table.change change, table.seat change taken seat⟩)
    _ _ (.of_step world call) ⟨reachable.table, .inl seated⟩
  refine seat.resolve_right fun ⟨_, absent⟩ => absent ?_
  rw [← Mux.stream_id found]
  exact List.mem_map_of_mem (Mux.stream_mem found)

/-! ## Staged grants -/

/-- A stream for which a grant is due. -/
def Mux.Due (mux : Mux) (id : Nat) : Prop :=
  ∃ stream, mux.stream id = some stream ∧ stream.grantDue = true

/-- The stream for which a transition stages a grant. -/
def stagedGrant (mux next : Mux) : List Nat :=
  if mux.output = [] ∧ next.outputGrantId ≠ 0 then [next.outputGrantId] else []

/-- The streams for which the calls of a run stage grants, in order. -/
def World.grants (world : World) : List Call → List Nat
  | [] => []
  | call :: rest => stagedGrant world.mux (world.step call).mux ++ (world.step call).grants rest

/-- The search stops at a due stream at the latest. -/
theorem Mux.searchGrant_turn {mux : Mux} {offset : Nat} {stream : Stream}
    (member : mux.streams[(mux.creditCursor + offset) % streamSlots]? = some stream)
    (due : stream.grantDue = true) (start count : Nat)
    (reached : start ≤ offset) (within : offset < start + count) :
    ∃ turn first, turn ≤ offset ∧ first.grantDue = true ∧
      mux.streams[(mux.creditCursor + turn) % streamSlots]? = some first ∧
      mux.searchGrant (List.range' start count) =
        mux.stageGrant ((mux.creditCursor + turn) % streamSlots) first := by
  induction count generalizing start with
  | zero => omega
  | succ _ ih =>
    rw [List.range'_succ, Mux.searchGrant]
    have later (passed : start ≠ offset) := ih (start + 1) (by omega) (by omega)
    cases found : mux.streams[(mux.creditCursor + start) % streamSlots]? with
    | none =>
      refine later ?_
      rintro rfl
      cases found.symm.trans member
    | some first =>
      dsimp only
      by_cases granted : first.grantDue = true
      · rw [if_pos granted]
        exact ⟨start, first, reached, granted, found, rfl⟩
      rw [if_neg granted]
      refine later ?_
      rintro rfl
      cases found.symm.trans member
      exact granted due

theorem yamuxOutput_search {mux : Mux} (ready : mux.failure = .ok)
    (free : mux.output = []) (quiet : mux.controls.contents = []) :
    (yamuxOutput mux).2.2 = mux.searchGrant (List.range streamSlots) := by
  rw [yamuxOutput, if_neg (not_not.mpr ready)]
  rw [apply_ite (fun outcome : Result × List UInt8 × Mux => outcome.2.2),
    ite_self, if_pos free, Mux.stageOutput, quiet]

theorem stagedGrant_same (accounts : mux.Accounts) (same : next.outputGrantId = mux.outputGrantId) :
    stagedGrant mux next = [] := by
  refine if_neg ?_
  rintro ⟨free, granted⟩
  exact granted (same.trans (accounts.idle free))

/-- A transition that stages no grant, or one that searches for it. -/
def Turns (mux next : Mux) : Prop :=
  (next.creditCursor = mux.creditCursor ∧ stagedGrant mux next = []) ∨
    mux.output = [] ∧ next = mux.searchGrant (List.range streamSlots)

theorem Turns.of_sameSlot (accounts : mux.Accounts) (same : SameSlot mux next) : Turns mux next :=
  .inl ⟨same.creditCursor, stagedGrant_same accounts same.outputGrantId⟩

theorem Turns.output (accounts : mux.Accounts) : Turns mux (yamuxOutput mux).2.2 := by
  rcases yamuxOutput_cases mux with
    same | ⟨ready, free, ⟨_, _, _, same⟩ | ⟨quiet, _⟩⟩
  · rw [same]
    exact .inl ⟨rfl, stagedGrant_same accounts rfl⟩
  · rw [same]
    exact .inl ⟨rfl, stagedGrant_same accounts rfl⟩
  · exact .inr ⟨free, yamuxOutput_search ready free quiet⟩

theorem Turns.step {world : World} (reachable : world.Reachable)
    (call : Call) : Turns world.mux (world.step call).mux := by
  have accounts := reachable.accounts
  cases call with
  | output => exact .output accounts
  | write id bytes =>
    change Turns world.mux (yamuxWrite world.mux id bytes).2.2
    rcases yamuxWrite_cases world.mux id bytes with
      ⟨_, same | ⟨_, same⟩⟩ | ⟨_, stream, _, same⟩ <;> rw [same]
    · exact .inl ⟨rfl, stagedGrant_same accounts rfl⟩
    · exact .output accounts
    · exact .inl ⟨rfl, stagedGrant_same accounts rfl⟩
  | consumeOutput count =>
    have core : (world.step (.consumeOutput count)).mux.core =
        world.mux.core := world.step_core rfl
    refine .inl ⟨congrArg (·.2.2.2) core, if_neg ?_⟩
    rintro ⟨free, granted⟩
    -- nothing can be taken from an empty slot
    have same : (yamuxConsumeOutput world.mux count).2 = world.mux := by
      unfold yamuxConsumeOutput
      rw [free]
      grind
    exact granted ((congrArg Mux.outputGrantId same).trans (accounts.idle free))
  | _ => exact .of_sameSlot accounts (world.step_sameSlot rfl)

/-! ## Waiting for a grant -/

theorem Mux.Table.seated {mux : Mux} (table : mux.Table) {slot id : Nat} {stream : Stream}
    (seated : mux.ids[slot]? = some id) (found : mux.stream id = some stream) :
    mux.streams[slot]? = some stream := by
  rw [Mux.ids, List.getElem?_map, Option.map_eq_some_iff] at seated
  rcases seated with ⟨other, there, rfl⟩
  rw [there, ← found]
  exact (table.stream_of_mem (List.mem_of_getElem? there) (Mux.stream_ne_zero found)).symm

theorem World.Reachable.seated {world : World} (reachable : world.Reachable)
    {id : Nat} {stream : Stream} (found : world.mux.stream id = some stream) :
    ∃ offset < streamSlots, world.mux.streams[(world.mux.creditCursor + offset) % streamSlots]? =
        some stream := by
  have ⟨slot, there⟩ := List.getElem?_of_mem (Mux.stream_mem found)
  have ⟨inside, _⟩ := List.getElem?_eq_some_iff.mp there
  rw [reachable.streams_length] at inside
  generalize world.mux.creditCursor = cursor
  refine ⟨(slot + 4 - cursor % 4) % 4, Nat.mod_lt _ (by decide), ?_⟩
  have place : (cursor + (slot + 4 - cursor % 4) % 4) % 4 = slot := by
    change slot < 4 at inside
    omega
  rw [place]
  exact there

/-- The number of grants that come first is at most the distance from the
cursor. -/
theorem World.Reachable.grants_le {world : World} (reachable : world.Reachable)
    (more : List Call) {id offset : Nat} (within : offset < streamSlots)
    (seated : world.mux.ids[(world.mux.creditCursor + offset) % streamSlots]? = some id)
    (due : ∀ earlier call, earlier ++ [call] <+: more →
      id ∉ world.grants earlier → (earlier.foldl World.step world).mux.Due id) :
    ((world.grants more).takeWhile (· ≠ id)).length ≤ offset := by
  induction more generalizing world offset with
  | nil => exact Nat.zero_le _
  | cons call rest ih =>
    have waits : world.mux.Due id := due [] call ⟨rest, rfl⟩ nofun
    rw [World.grants]
    -- the calls that follow bring at most the remaining distance
    have remaining {distance : Nat} (short : distance < streamSlots)
        (place : ((world.step call).mux.creditCursor + distance) % streamSlots =
          (world.mux.creditCursor + offset) % streamSlots)
        (other : id ∉ stagedGrant world.mux (world.step call).mux) :
        (((world.step call).grants rest).takeWhile (· ≠ id)).length ≤
          distance := by
      have later (earlier : List Call) (after : Call) (before : earlier ++ [after] <+: rest)
          (none : id ∉ (world.step call).grants earlier) :
          (earlier.foldl World.step (world.step call)).mux.Due id := by
        refine due (call :: earlier) after ?_ ?_
        · exact (List.prefix_cons_inj call).mpr before
        · exact List.not_mem_append other none
      cases rest with
      | nil => exact Nat.zero_le _
      | cons after rest =>
        have ⟨stream, found, _⟩ := later [] after ⟨rest, rfl⟩ nofun
        refine ih (reachable.step call) short ?_ later
        rw [place]
        refine reachable.seat call seated ?_
        exact Option.isSome_iff_exists.mpr ⟨stream, found⟩
    rcases Turns.step reachable call with ⟨cursor, none⟩ | ⟨free, turned⟩
    · rw [none] at remaining ⊢
      exact remaining within (by rw [cursor]) nofun
    have ⟨stream, found, isDue⟩ := waits
    have member := reachable.table.seated seated found
    have ⟨turn, first, bound, firstDue, place, staged⟩ :=
      Mux.searchGrant_turn member isDue 0 streamSlots (Nat.zero_le _) (by omega)
    rw [← List.range_eq_range', ← turned] at staged
    have grant : stagedGrant world.mux (world.step call).mux = [first.id] := by
      rw [staged]
      exact if_pos ⟨free, (Stream.grantDue_iff.mp firstDue).1⟩
    rw [grant] at remaining ⊢
    by_cases here : first.id = id
    · simp [here]
    have closer : turn < offset := by
      refine bound.lt_of_ne ?_
      rintro rfl
      cases place.symm.trans member
      exact here (Mux.stream_id found)
    have rest := @remaining (offset - turn - 1) (by omega) (by
        rw [staged]
        change ((_ % 4 + 1) % 4 + _) % 4 = _ % 4
        omega)
      (by simpa using Ne.symm here)
    rw [List.singleton_append, List.takeWhile_cons_of_pos (by simpa using here), List.length_cons]
    omega

/--
In every run a grant carries the whole credit that its stream has at that
moment, an output call stages one whenever the slot and the control queue
are empty and a stream is due, and a stream that stays due until its own
grant sees at most three grants for other streams first.
-/
theorem grants_rotate (now : Nat) (calls : List Call) (id : Nat) :
    let world := World.run now calls
    (∀ call, id ∈ stagedGrant world.mux (world.step call).mux →
      ∃ stream, world.mux.stream id = some stream ∧ (world.step call).mux.output =
          (Header.make .window 0 id stream.returnCredit).encode) ∧
    (world.mux.failure = .ok → world.mux.output = [] →
      world.mux.controls.contents = [] → world.mux.Due id →
        stagedGrant world.mux (world.step .output).mux ≠ []) ∧
    ∀ more, (∀ earlier call, earlier ++ [call] <+: more → id ∉ world.grants earlier →
          (earlier.foldl World.step world).mux.Due id) →
      ((world.grants more).takeWhile (· ≠ id)).length ≤ 3 := by
  intro world
  have reachable : world.Reachable := World.run_reachable now calls
  have table := reachable.table
  refine ⟨?_, ?_, ?_⟩
  · intro call granted
    rcases Turns.step reachable call with ⟨_, none⟩ | ⟨free, turned⟩
    · rw [none] at granted
      cases granted
    rcases world.mux.searchGrant_cases (List.range streamSlots) with
      none | ⟨slot, stream, member, due, staged⟩
    · rw [turned, none, stagedGrant_same reachable.accounts rfl] at granted
      cases granted
    · rw [turned, staged] at granted ⊢
      have live := (Stream.grantDue_iff.mp due).1
      rw [stagedGrant, if_pos ⟨free, live⟩, List.mem_singleton] at granted
      subst granted
      exact ⟨stream, table.stream_of_mem (List.mem_of_getElem? member) live, rfl⟩
  · rintro ready free quiet ⟨stream, found, due⟩
    have ⟨offset, within, member⟩ := reachable.seated found
    have ⟨_, first, _, firstDue, _, staged⟩ :=
      Mux.searchGrant_turn member due 0 streamSlots (Nat.zero_le _) (by omega)
    rw [← List.range_eq_range', ← yamuxOutput_search ready free quiet] at staged
    change stagedGrant world.mux (yamuxOutput world.mux).2.2 ≠ []
    rw [staged, stagedGrant, if_pos ⟨free, (Stream.grantDue_iff.mp firstDue).1⟩]
    exact List.cons_ne_nil _ _
  · intro more due
    cases more with
    | nil => exact Nat.zero_le _
    | cons call rest =>
      have ⟨stream, found, _⟩ := due [] call ⟨rest, rfl⟩ nofun
      have ⟨offset, within, member⟩ := reachable.seated found
      refine (reachable.grants_le _ within ?_ due).trans (Nat.le_of_lt_succ within)
      rw [Mux.ids, List.getElem?_map, member, ← Mux.stream_id found]
      rfl

end EspFrp.Yamux

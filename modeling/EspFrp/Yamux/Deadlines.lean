import EspFrp.Yamux.Bounds

/-!
# Deadlines

`next_deadline` of `stream_yamux.c` tells the transport when
`efrp_yamux_tick` has something to do.  Both look at the same timers: before
the deadline a tick moves the clock only, and at the deadline it ends the
session or resets a stream.
-/

namespace EspFrp.Yamux

open Library

/-! ## The timers -/

/-- The arguments of the macro `DEADLINE`. -/
structure Timer where
  active : Bool
  start : Nat
  duration : Nat

def Timer.expired (timer : Timer) (now : Nat) : Prop :=
  timer.active = true ∧ timer.duration ≤ now - timer.start

/-- The timers of a stream. -/
def Stream.timers (stream : Stream) : List Timer :=
  let live := stream.id ≠ 0 ∧ ¬stream.reset
  [⟨live ∧ stream.blocked, stream.blockedMs, stallMs⟩,
    ⟨live ∧ ¬stream.acknowledged, stream.openedMs, openTimeoutMs⟩]

/-- The timers of `next_deadline`, in its order. -/
def Mux.timers (mux : Mux) : List Timer :=
  [⟨mux.output ≠ [] ∨ mux.controls.used ≠ 0, mux.outputProgressMs, ioTimeoutMs⟩,
    ⟨mux.header ≠ [] ∨ mux.frameActive, mux.inputProgressMs, ioTimeoutMs⟩,
    ⟨¬mux.frameActive ∧ mux.header ≠ [], mux.headerStartedMs, ioTimeoutMs⟩,
    ⟨mux.frameActive ∧ mux.frameDiscard, mux.drainStartedMs, ioTimeoutMs⟩,
    ⟨mux.pingPending, mux.pingStartedMs, ioTimeoutMs⟩] ++
    mux.streams.flatMap Stream.timers

/-- `UINT64_MAX`, the deadline of a mux without active timers. -/
abbrev noDeadline : Nat := 2 ^ 64 - 1

/-- The macro `DEADLINE`, with the addition of `uint64_t`. -/
def Timer.deadline (timer : Timer) (at_ : Nat) : Nat :=
  let due := (timer.start + timer.duration) % 2 ^ 64
  if timer.active ∧ due < at_ then due else at_

/-- `next_deadline`. -/
def nextDeadline (mux : Mux) : Nat :=
  mux.timers.foldl (fun at_ timer => timer.deadline at_) noDeadline

/-- The timers are those that `efrp_yamux_tick` looks at. -/
theorem Mux.expired_iff (mux : Mux) (now : Nat) : ({ mux with nowMs := now }.timedOut = true ∨
        ∃ stream ∈ mux.streams, stream.overdue now = true) ↔
      ∃ timer ∈ mux.timers, timer.expired now := by
  have streams (stream : Stream) : stream.overdue now = true ↔
      ∃ timer ∈ stream.timers, timer.expired now := by
    simp [Stream.overdue, Stream.timers, Timer.expired]
    tauto
  simp only [Mux.timers, List.mem_append, or_and_right, exists_or, List.mem_flatMap]
  refine or_congr ?_ ?_
  · simp [Mux.timedOut, Timer.expired]
  · constructor
    · rintro ⟨stream, member, overdue⟩
      have ⟨timer, listed, expired⟩ := (streams stream).mp overdue
      exact ⟨timer, ⟨stream, member, listed⟩, expired⟩
    · rintro ⟨timer, ⟨stream, member, listed⟩, expired⟩
      exact ⟨stream, member, (streams stream).mpr ⟨timer, listed, expired⟩⟩

/-- The deadline is the earliest one of the active timers. -/
theorem lt_deadlines (timers : List Timer) (now limit : Nat)
    (bounded : ∀ timer ∈ timers, timer.start + timer.duration < 2 ^ 64) :
    now < timers.foldl (fun at_ timer => timer.deadline at_) limit ↔
      now < limit ∧ ∀ timer ∈ timers, timer.active = true → now < timer.start + timer.duration := by
  induction timers generalizing limit with
  | nil => simp
  | cons timer _ ih =>
    have small := bounded timer List.mem_cons_self
    rw [List.foldl_cons, ih _ fun timer member =>
      bounded timer (List.mem_cons_of_mem _ member), List.forall_mem_cons,
      ← and_assoc]
    refine and_congr ?_ Iff.rfl
    rw [Timer.deadline, Nat.mod_eq_of_lt small]
    split <;> grind

/-! ## Stored times -/

/-- No stored time is later than the clock. -/
structure Mux.Stamped (mux : Mux) : Prop where
  output : mux.outputProgressMs ≤ mux.nowMs
  input : mux.inputProgressMs ≤ mux.nowMs
  header : mux.headerStartedMs ≤ mux.nowMs
  drain : mux.drainStartedMs ≤ mux.nowMs
  ping : mux.pingStartedMs ≤ mux.nowMs
  streams : ∀ stream ∈ mux.streams, stream.openedMs ≤ mux.nowMs ∧ stream.blockedMs ≤ mux.nowMs

namespace Mux.Stamped

variable {mux next : Mux} {id : Nat}

theorem stream (stamped : mux.Stamped) (found : mux.stream id = some old) :
    old.openedMs ≤ mux.nowMs ∧ old.blockedMs ≤ mux.nowMs :=
  stamped.streams old (Mux.stream_mem found)

theorem replaced (stamped : mux.Stamped)
    (times : new.openedMs ≤ mux.nowMs ∧ new.blockedMs ≤ mux.nowMs) :
    ∀ stream ∈ Slots.replaceFirst Stream.id id new mux.streams,
      stream.openedMs ≤ mux.nowMs ∧ stream.blockedMs ≤ mux.nowMs := by
  intro stream member
  rcases Slots.mem_replaceFirst member with rfl | before
  · exact times
  · exact stamped.streams stream before

theorem rewritten (stamped : mux.Stamped) (found : mux.stream id = some old)
    (opened : new.openedMs = old.openedMs) (blocked : new.blockedMs = old.blockedMs) :
    ∀ stream ∈ Slots.replaceFirst Stream.id wanted new mux.streams,
      stream.openedMs ≤ mux.nowMs ∧ stream.blockedMs ≤ mux.nowMs := by
  have times := stamped.stream found
  exact stamped.replaced ⟨opened ▸ times.1, blocked ▸ times.2⟩

theorem queued (stamped : mux.Stamped) : (if mux.controls.used = 0 ∧ mux.output = [] then mux.nowMs
      else mux.outputProgressMs) ≤ mux.nowMs := by
  split
  · exact le_rfl
  · exact stamped.output

theorem of_edits (stamped : mux.Stamped) (edits : Edits mux next) :
    next.Stamped ∧ next.nowMs = mux.nowMs := by
  induction edits with
  | refl => exact ⟨stamped, rfl⟩
  | tail _ edit ih =>
    have ⟨stamped, clock⟩ := ih
    cases edit with
    | enqueue => exact ⟨{ stamped with output := stamped.queued }, clock⟩
    | stream found edit =>
      have times := stamped.stream found
      have later := edit.blockedMs
      exact ⟨{ stamped with
        streams := stamped.replaced ⟨edit.openedMs ▸ times.1, by omega⟩ }, clock⟩
    | parser kept =>
      have ⟨output, input, header, drained, ping, streams⟩ := stamped
      rw [kept]
      refine ⟨⟨output, ?_, ?_, ?_, ping, streams⟩, clock⟩
      all_goals
        dsimp only
        omega

theorem change (stamped : mux.Stamped) (change : Change mux label next) : next.Stamped := by
  have ⟨output, input, header, drain, ping, streams⟩ := stamped
  have queued := stamped.queued
  cases change with
  | openStream =>
    exact ⟨queued, input, header, drain, ping, stamped.replaced ⟨le_rfl, Nat.zero_le _⟩⟩
  | finish _ _ found => exact ⟨queued, input, header, drain, ping, stamped.rewritten found rfl rfl⟩
  | reset _ _ found =>
    exact (stamped.of_edits (.head (.enqueue _) (Edits.resetState found rfl rfl rfl))).1
  | release =>
    exact ⟨output, input, header, drain, ping, stamped.replaced ⟨Nat.zero_le _, Nat.zero_le _⟩⟩
  | ping => exact ⟨queued, input, header, drain, le_rfl, streams⟩
  | goaway => exact ⟨queued, input, header, drain, ping, streams⟩
  | stageGrant _ stream _ _ member =>
    exact ⟨le_rfl, input, header, drain, ping,
      stamped.replaced (streams stream (List.mem_of_getElem? member))⟩
  | stageData id stream bytes found
  | handOverGrant _ _ _ _ found =>
    exact ⟨le_rfl, input, header, drain, ping, stamped.rewritten found rfl rfl⟩
  | handOver | handOverLast | overGrant => exact ⟨le_rfl, input, header, drain, ping, streams⟩
  | read _ _ _ found => exact ⟨output, input, header, drain, ping, stamped.rewritten found rfl rfl⟩
  | clock _ forward =>
    exact ⟨output.trans forward, input.trans forward,
      header.trans forward, drain.trans forward, ping.trans forward,
      fun stream member => (streams stream member).imp (·.trans forward) (·.trans forward)⟩
  | stageControl | expire => exact ⟨output, input, header, drain, ping, streams⟩
  | feed _ _ step => exact (stamped.of_edits (.of_feedStep step)).1

end Mux.Stamped

theorem World.Reachable.stamped {world : World}
    (reachable : world.Reachable) : world.mux.Stamped := by
  refine reachable.invariant (fun world => world.mux.Stamped) ?_ ?_
  · intro now
    refine ⟨Nat.zero_le _, Nat.zero_le _, Nat.zero_le _, Nat.zero_le _, Nat.zero_le _, ?_⟩
    intro stream member
    cases List.eq_of_mem_replicate member
    exact ⟨Nat.zero_le _, Nat.zero_le _⟩
  · intro world label next _ _ stamped change
    rw [World.record_mux]
    exact stamped.change change

/-- No timer starts in the future. -/
theorem Mux.Stamped.timers {mux : Mux} (stamped : mux.Stamped) :
    ∀ timer ∈ mux.timers, timer.start ≤ mux.nowMs ∧ timer.duration ≤ 10000 := by
  have ⟨output, input, header, drain, ping, streams⟩ := stamped
  have ⟨io, stall, unacknowledged⟩ : ioTimeoutMs ≤ 10000 ∧
      stallMs ≤ 10000 ∧ openTimeoutMs ≤ 10000 := by decide
  intro timer member
  simp only [Mux.timers, Stream.timers, List.mem_append, List.mem_cons,
    List.not_mem_nil, or_false, List.mem_flatMap] at member
  rcases member with (rfl | rfl | rfl | rfl | rfl) | ⟨stream, member, rfl | rfl⟩
  · exact ⟨output, io⟩
  · exact ⟨input, io⟩
  · exact ⟨header, io⟩
  · exact ⟨drain, io⟩
  · exact ⟨ping, io⟩
  · exact ⟨(streams stream member).2, stall⟩
  · exact ⟨(streams stream member).1, unacknowledged⟩

theorem Mux.Stamped.lt_nextDeadline {mux : Mux} (stamped : mux.Stamped)
    {now : Nat} (forward : mux.nowMs ≤ now) (bounded : now ≤ 2 ^ 64 - 10001) :
    now < nextDeadline mux ↔ ¬∃ timer ∈ mux.timers, timer.expired now := by
  have starts := stamped.timers
  rw [nextDeadline, lt_deadlines mux.timers now noDeadline fun timer member =>
    by have := starts timer member; omega]
  constructor
  · rintro ⟨_, early⟩ ⟨timer, member, active, expired⟩
    have before := early timer member active
    have started := starts timer member
    omega
  · intro quiet
    have limited : now < noDeadline := by
      unfold noDeadline
      omega
    refine ⟨limited, fun timer member active => ?_⟩
    by_contra due
    have started := starts timer member
    exact quiet ⟨timer, member, active, by omega⟩

/-! ## The loop over the streams -/

/-- A reset stream stays reset. -/
theorem Edits.reset_kept {mux next : Mux} (edits : Edits mux next) {id : Nat}
    (found : mux.stream id = some old) (reset : old.reset = true) :
    ∃ after, next.stream id = some after ∧ after.reset = true := by
  induction edits with
  | refl => exact ⟨old, found, reset⟩
  | tail _ edit ih =>
    have ⟨stream, found, reset⟩ := ih
    cases edit with
    | enqueue => exact ⟨stream, found, reset⟩
    | parser kept =>
      rw [kept]
      exact ⟨stream, found, reset⟩
    | @stream other _ new present edit =>
      rw [Mux.stream_setStream present new edit.id]
      by_cases here : id = other
      · subst here
        rw [Function.update_self]
        cases present.symm.trans found
        exact ⟨new, rfl, edit.reset reset⟩
      · rw [Function.update_of_ne here]
        exact ⟨stream, found, reset⟩

theorem Mux.resetOverdue_none {mux : Mux} (slots : List Nat)
    (none : ∀ stream ∈ mux.streams, stream.overdue mux.nowMs = false) :
    mux.resetOverdue slots = (.ok, mux) := by
  induction slots with
  | nil => rfl
  | cons _ _ ih =>
    unfold Mux.resetOverdue
    split
    · exact ih
    · next stream found =>
      rw [none stream (List.mem_of_getElem? found)]
      exact ih

/-- A stream that a tick has reset. -/
def Resets (mux next : Mux) : Prop :=
  ∃ id stream after, mux.stream id = some stream ∧ stream.reset = false ∧
    next.stream id = some after ∧ after.reset = true

theorem yamuxReset_ok {mux cleared : Mux} {id : Nat}
    (found : mux.stream id = some stream) (outcome : yamuxReset mux id = (.ok, cleared)) :
    ∃ after, cleared.stream id = some after ∧ after.reset = true := by
  unfold yamuxReset at outcome
  split at outcome
  · next failed => exact absurd (congrArg Prod.fst outcome) failed
  rw [found] at outcome
  dsimp only at outcome
  split at outcome
  · next reset =>
    cases outcome
    exact ⟨stream, found, reset⟩
  rcases mux.queue_cases .window rstFlag id 0 with ⟨_, queued⟩ | ⟨_, queued⟩
  · rw [queued] at outcome
    cases outcome
  · rw [queued] at outcome
    cases outcome
    have present : (mux.enqueue (Header.make .window rstFlag id 0)).stream id = some stream := found
    rw [Mux.stream_resetState present stream rfl, Function.update_self]
    exact ⟨stream.cleared, rfl, rfl⟩

theorem Mux.Table.resetOverdue_some {mux : Mux} (table : mux.Table) (slots : List Nat)
    {slot : Nat} {stream : Stream} (listed : slot ∈ slots)
    (found : mux.streams[slot]? = some stream) (overdue : stream.overdue mux.nowMs = true) :
    (mux.resetOverdue slots).2.failure ≠ .ok ∨ Resets mux (mux.resetOverdue slots).2 := by
  induction slots with
  | nil => cases listed
  | cons first rest ih =>
    -- until the first overdue slot the loop changes nothing
    have later (other : slot ≠ first) := ih ((List.mem_cons.mp listed).resolve_left other)
    unfold Mux.resetOverdue
    split
    · next missing =>
      refine later fun same => ?_
      cases same
      cases missing.symm.trans found
    next candidate present =>
    split
    · next due =>
      simp only [Stream.overdue, decide_eq_true_eq] at due
      have known := table.stream_of_mem (List.mem_of_getElem? present) due.1
      split
      · next cleared outcome =>
        obtain ⟨_, foundAfter, reset⟩ := yamuxReset_ok known outcome
        obtain ⟨last, foundLast, reset⟩ := Edits.reset_kept
          (.of_resetOverdue cleared rest) foundAfter reset
        exact .inr ⟨candidate.id, candidate, last, known,
          Bool.eq_false_of_not_eq_true due.2.1, foundLast, reset⟩
      · exact .inl Result.noConfusion
    · next calm =>
      refine later fun same => ?_
      cases same
      cases present.symm.trans found
      exact calm overdue

/-! ## The deadline -/

/--
In every run no stored time is later than the clock.  As long as the mux has
not failed, a tick before `next_deadline` moves the clock only, and a tick at
or after it ends the session or resets a stream; a failed mux answers every
tick with its error and stays as it is.
-/
theorem deadlines_agree (now : Nat) (calls : List Call) :
    let mux := (World.run now calls).mux
    mux.Stamped ∧
    ∀ later, mux.nowMs ≤ later → later ≤ 2 ^ 64 - 10001 →
      if mux.failure = .ok then
        (later < nextDeadline mux → yamuxTick mux later = (.ok, { mux with nowMs := later })) ∧
        (nextDeadline mux ≤ later → (yamuxTick mux later).2.failure ≠ .ok ∨
            Resets mux (yamuxTick mux later).2)
      else
        yamuxTick mux later = (mux.failure, mux) := by
  intro mux
  have reachable := World.run_reachable now calls
  have stamped : mux.Stamped := reachable.stamped
  refine ⟨stamped, ?_⟩
  intro later forward bounded
  split
  · next ready =>
    have tick : yamuxTick mux later =
        if { mux with nowMs := later }.timedOut then
          Mux.fail { mux with nowMs := later } .timeout
        else
          Mux.resetOverdue { mux with nowMs := later } (List.range streamSlots) := by
      rw [yamuxTick, if_neg (not_not.mpr ready), if_neg (Nat.not_lt.mpr forward)]
    have early := stamped.lt_nextDeadline forward bounded
    rw [← Mux.expired_iff, not_or] at early
    constructor
    · intro before
      have ⟨inTime, quiet⟩ := early.mp before
      rw [tick, if_neg inTime]
      apply Mux.resetOverdue_none
      intro stream member
      exact Bool.eq_false_of_not_eq_true fun overdue => quiet ⟨stream, member, overdue⟩
    · intro due
      rw [tick]
      split
      · exact .inl Result.noConfusion
      · next inTime =>
        have ⟨stream, member, overdue⟩ : ∃ stream ∈ mux.streams, stream.overdue later = true := by
          by_contra quiet
          exact absurd (early.mpr ⟨inTime, quiet⟩) (Nat.not_lt.mpr due)
        have ⟨slot, inside, found⟩ := List.getElem_of_mem member
        rw [reachable.streams_length] at inside
        have ⟨distinct, opened, next⟩ := reachable.table
        have table : Mux.Table { mux with nowMs := later } := ⟨distinct, opened, next⟩
        exact table.resetOverdue_some (List.range streamSlots) (List.mem_range.mpr inside)
          (List.getElem?_eq_some_iff.mpr ⟨_, found⟩) overdue
  · next failed => exact if_pos failed

/-- A malformed header fails the mux, whose deadline is five seconds away. -/
theorem failed_tick_early :
    let mux := (World.run 0 [.feed (List.replicate 12 1)]).mux
    mux.nowMs = 0 ∧ nextDeadline mux = 5000 ∧ (yamuxTick mux 0).1 = .protocolError := by
  decide +kernel

end EspFrp.Yamux

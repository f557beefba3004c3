import Mathlib.Logic.Relation

/-!
# Happens-before

A sequence of accesses that several threads make to one block of memory.  Atomic loads may
return the value of any earlier store, or the first value; only a load that acquires what a
store has released orders the accesses of different threads.
-/

namespace EspFrp.Library.Memory

/-- An access to the block: its atomic flags are stored with release, and loaded with acquire
or relaxed.  A load with acquire names the store that it observes. -/
inductive Access (Flag Field : Type) where
  | plain (field : Field) (write : Bool)
  | store (flag : Flag)
  | load (flag : Flag) (observed : Option Nat)
  | relaxed (flag : Flag)
  | free

variable {Thread Flag Field : Type}

/-- What happens at a position of the sequence. -/
def At (events : List (Thread × Access Flag Field)) (position : Nat) (thread : Thread)
    (access : Access Flag Field) : Prop := events[position]? = some (thread, access)

/-- Program order, and the order between a release and an acquire that observes it. -/
inductive Ordered (events : List (Thread × Access Flag Field)) (first second : Nat) : Prop where
  | program {thread earlier later} (follows : first < second)
      (isEarlier : At events first thread earlier) (isLater : At events second thread later)
  | observed {writer reader flag} (follows : first < second)
      (isStore : At events first writer (.store flag))
      (isLoad : At events second reader (.load flag (some first)))

/-- `Before` is the happens-before relation of the sequence. -/
def Before (events : List (Thread × Access Flag Field)) : Nat → Nat → Prop :=
  Relation.TransGen (Ordered events)

variable {events : List (Thread × Access Flag Field)} {first released acquired last position : Nat}
  {thread writer reader : Thread} {access earlier later : Access Flag Field} {flag : Flag}

theorem At.lt (here : At events position thread access) : position < events.length :=
  (List.getElem?_eq_some_iff.mp here).1

theorem at_concat {event : Thread × Access Flag Field} :
    At (events ++ [event]) position thread access ↔
      At events position thread access ∨ position = events.length ∧ event = (thread, access) := by
  rw [At, At]
  by_cases inside : position < events.length
  · rw [List.getElem?_append_left inside]
    exact ⟨.inl, fun given => given.resolve_right fun last => Nat.ne_of_lt inside last.1⟩
  rw [List.getElem?_append_right (Nat.le_of_not_lt inside),
    List.getElem?_eq_none (Nat.le_of_not_lt inside), List.getElem?_singleton]
  by_cases last : position = events.length
  · simp [last]
  · simp [last, show ¬position - events.length = 0 by omega]

/-- What a thread does up to a release happens before what follows the acquire. -/
theorem Before.handover (up : first ≤ released) (observes : released < acquired)
    (follows : acquired < last) (isEarlier : At events first writer earlier)
    (isStore : At events released writer (.store flag))
    (isLoad : At events acquired reader (.load flag (some released)))
    (isLater : At events last reader later) : Before events first last := by
  have across : Before events released last :=
    (Relation.TransGen.single (.observed observes isStore isLoad)).tail
      (.program follows isLoad isLater)
  rcases Nat.eq_or_lt_of_le up with rfl | before
  · exact across
  · exact across.head (.program before isEarlier isStore)

end EspFrp.Library.Memory

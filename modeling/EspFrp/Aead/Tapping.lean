import EspFrp.Aead.Receiving

/-!
# Reading a whole stream

A tap is a reader with the bytes that are still to be fed.  The caller decides
how much is fed and how much plaintext is consumed at a time.  Whatever the
caller decides, the reader delivers what a decoder finds that holds the whole
stream, and fails where the decoder does.
-/

namespace EspFrp.Aead

open Library

variable {State : Type}

/--
A reader, the bytes it has not consumed, the plaintext that is in view, and
the plaintext that has been consumed.
-/
structure Tap (State : Type) where
  endpoint : Endpoint State
  rest : List UInt8
  view : List UInt8 := []
  received : List UInt8 := []

/-- What the caller of a reader does. -/
inductive TapEvent where
  | feed (length : Nat)
  | plaintext
  | consume (length : Nat)
deriving DecidableEq, Repr

namespace Tap

/-- A reader that has just been initialised. -/
def start (key : Block UInt8 32) (state : State) (input : List UInt8) : Tap State where
  endpoint := (Session.start key state).endpoint
  rest := input

/-- One call.  Plaintext is consumed only as far as it is in view. -/
def step (platform : Platform State) (tap : Tap State) : TapEvent → Result × Tap State
  | .feed length =>
    let (result, consumed, endpoint) := tap.endpoint.feed platform (tap.rest.take length)
    (result, { tap with endpoint := endpoint, rest := tap.rest.drop consumed })
  | .plaintext =>
    let (result, bytes, endpoint) := tap.endpoint.plaintext platform
    (result,
      { tap with
        endpoint := endpoint
        view := if result = .ok then bytes else tap.view })
  | .consume length =>
    let count := min length tap.view.length
    if count = 0 then
      (.ok, tap)
    else
      let (result, endpoint) := tap.endpoint.consumePlaintext platform count
      (result,
        { tap with
          endpoint := endpoint
          view := tap.view.drop count
          received := tap.received ++ tap.view.take count })

/-- A sequence of calls. -/
def run (platform : Platform State) (tap : Tap State) (events : List TapEvent) : Tap State :=
  events.foldl (fun tap event => (tap.step platform event).2) tap

theorem consume_rest (platform : Platform State) (tap : Tap State) (length : Nat) :
    (tap.step platform (.consume length)).2.rest = tap.rest := by
  simp only [step]
  split <;> rfl

/-- The reader has failed, or has nothing left to read or to hand out. -/
def Done (tap : Tap State) : Prop :=
  tap.endpoint.reader.readyState ≠ .ok ∨ tap.rest = [] ∧ tap.endpoint.reader.ready = false

/-- How the stream has ended, from what the reader reports. -/
def ending (tap : Tap State) : Ending :=
  if tap.endpoint.reader.readyState ≠ .ok then
    .failed tap.endpoint.reader.readyState
  else if tap.endpoint.finish = .ok then
    .boundary
  else
    .incomplete

end Tap

/-! ## The calls -/

variable {platform : Platform State} {Holds : State → Option (Nat × List UInt8) → Prop} {tap : Tap State}

/-- A tap whose reader is running. -/
structure Running (platform : Platform State) (Holds : State → Option (Nat × List UInt8) → Prop)
    (key : Block UInt8 32) (fed : List UInt8) (tap : Tap State) : Prop where
  tracking : Tracking platform Holds key fed tap.received tap.endpoint
  view : tap.view ≠ [] → tap.endpoint.reader.ready = true ∧
      tap.view.length ≤ tap.endpoint.reader.consumable ∧
      tap.view <+: tap.endpoint.unread platform

/-- A tap whose reader has failed. -/
structure Stopped (platform : Platform State) (key : Block UInt8 32)
    (fed : List UInt8) (tap : Tap State) : Prop where
  halted : Tracking.Halted platform key fed tap.received tap.endpoint
  view : tap.view = []

theorem consumable_consumed (reader : Reader) (length : Nat) :
    (reader.consumed length).consumable = reader.consumable - length := by
  by_cases inMemory : reader.inMemory = true
  · simp only [Reader.consumed, Reader.consumable, inMemory, if_true]
    omega
  simp only [Reader.consumed, Reader.consumable, inMemory, Bool.false_eq_true, if_false]
  split <;> omega

namespace Running

theorem start {state : State} (free : Holds state none) (platform : Platform State)
    (key : Block UInt8 32) (input : List UInt8) :
    Running platform Holds key [] (Tap.start key state input) where
  tracking :=
    { reading := Endpoint.Reading.start platform key state
      records := nofun
      counted := Nat.zero_le _
      available := nofun
      store := free
      delivered := rfl }
  view := fun some => absurd rfl some

variable (running : Running platform Holds key fed tap)
include running

theorem readyState : tap.endpoint.reader.readyState = .ok :=
  Endpoint.readyState_of_framed running.tracking.reading.framed

theorem view_prefix : tap.view <+: tap.endpoint.unread platform := by
  by_cases nothing : tap.view = []
  · rw [nothing]
    exact List.nil_prefix
  · exact (running.view nothing).2.2

/-- Decoding goes through the records that have been accepted. -/
theorem texts_prefix (more : List UInt8) :
    tap.endpoint.texts platform key <+: (decodeStream platform.gcm key (fed ++ more)).1 := by
  have tracking := running.tracking
  by_cases full : tap.endpoint.reader.nonceUsed = 12
  · have fedEq := tracking.received_full full
    rw [fedEq, List.append_assoc, tracking.decode full]
    exact List.prefix_append _ _
  have most := tracking.reading.framed.nonce_le
  rw [Endpoint.texts, tracking.reading.early (by omega)]
  exact List.nil_prefix

theorem received_prefix (more : List UInt8) :
    tap.received ++ tap.view <+: (decodeStream platform.gcm key (fed ++ more)).1.flatten := by
  refine List.IsPrefix.trans ?_ (running.texts_prefix more).flatten
  rw [running.tracking.delivered, List.prefix_append_right_inj]
  exact running.view_prefix

variable (faithful : platform.Faithful Holds)
include faithful

/-- Feeding consumes input up to a ready record or a failure. -/
theorem feed (length : Nat) :
    let outcome := tap.step platform (.feed length)
    ∃ consumed, tap.rest = consumed ++ outcome.2.rest ∧
      (Running platform Holds key (fed ++ consumed) outcome.2 ∧
          (outcome.1 = .ok ∨ outcome.1 = .wouldBlock) ∧
          (tap.rest.length ≤ length → outcome.2.rest = [] ∨
              outcome.2.endpoint.reader.ready = true) ∨
        Stopped platform key (fed ++ consumed) outcome.2 ∧
          outcome.1 = outcome.2.endpoint.reader.readyState) := by
  have framed := running.tracking.reading.framed
  have feeding := Endpoint.feedLoop_cases platform (tap.rest.take length) framed
  obtain ⟨consumed, restEq, ends⟩ := running.tracking.feeding faithful feeding
  have feedEq : tap.endpoint.feed platform (tap.rest.take length) = (_, _, _) :=
    if_neg (by rw [running.readyState]; decide)
  have consumedLength : (tap.rest.take length).length - (tap.endpoint.feedLoop platform
        (tap.rest.take length)).2.1.length = consumed.length := by
    have lengths := congrArg List.length restEq
    rw [List.length_append] at lengths
    omega
  have isPrefix := List.IsPrefix.trans ⟨_, restEq.symm⟩ (List.take_prefix _ _)
  simp only [Tap.step, feedEq, consumedLength]
  refine ⟨consumed, (List.prefix_iff_eq_append.mp isPrefix).symm, ?_⟩
  have ofReady := feeding.of_ready
  rcases ends with ⟨tracking, result⟩ | ⟨halted, result⟩
  · refine .inl ⟨⟨tracking, ?_⟩, ?_, ?_⟩
    · intro some
      obtain ⟨isReady, shows⟩ := running.view some
      rw [ofReady isReady]
      exact ⟨isReady, shows⟩
    · exact result.imp (fun done => done.1) (fun blocked => blocked.1)
    · intro enough
      refine result.imp ?_ (fun blocked => blocked.2)
      rintro ⟨_, allConsumed⟩
      rw [allConsumed, List.append_nil, List.take_of_length_le enough] at restEq
      rw [← restEq, List.drop_length]
  · refine .inr ⟨⟨halted, ?_⟩, result⟩
    by_contra some
    have unchanged := ofReady (running.view some).1
    rw [unchanged] at halted
    exact halted.failed running.readyState

/-- A ready record is shown; otherwise the caller has to wait. -/
theorem plaintext :
    let outcome := tap.step platform .plaintext
    Running platform Holds key fed outcome.2 ∧ (outcome.1 = .ok ∨ outcome.1 = .wouldBlock) ∧
      (tap.endpoint.reader.ready = true → outcome.2.view ≠ []) := by
  cases isReady : tap.endpoint.reader.ready with
  | false =>
    have plaintextEq : tap.endpoint.plaintext platform = (.wouldBlock, [], tap.endpoint) := by
      simp [Endpoint.plaintext, running.readyState, isReady]
    simp only [Tap.step, plaintextEq]
    refine ⟨running, .inr trivial, ?_⟩
    intro ready
    cases ready
  | true =>
    obtain ⟨_, plaintextEq, tracking, stillReady, some⟩ :=
      running.tracking.plaintext isReady faithful
    obtain ⟨_, _, _, _, shows, _⟩ := tracking.shown stillReady
    simp only [Tap.step, plaintextEq, if_true]
    refine ⟨⟨tracking, fun _ => ⟨stillReady, ?_, shows⟩⟩, .inl trivial, fun _ => some⟩
    rw [Tracking.showing_length tracking.reading.framed stillReady]

/-- Plaintext in view is consumed. -/
theorem consume (length : Nat) :
    let outcome := tap.step platform (.consume length)
    Running platform Holds key fed outcome.2 ∧ outcome.1 = .ok ∧ outcome.2.received.length =
        tap.received.length + min length tap.view.length := by
  simp only [Tap.step]
  split
  · rename_i nothing
    exact ⟨running, rfl, by rw [nothing]; rfl⟩
  rename_i positive
  generalize countEq : min length tap.view.length = count at positive ⊢
  obtain ⟨isReady, _, shows⟩ := running.view (by
    rintro isEmpty
    rw [isEmpty, List.length_nil, Nat.min_zero] at countEq
    exact positive countEq.symm)
  obtain ⟨_, consumeEq, tracking, nextReader⟩ :=
    running.tracking.consume isReady faithful (Nat.pos_of_ne_zero positive)
      (show count ≤ tap.endpoint.reader.consumable by omega)
  have taken : tap.view.take count = (tap.endpoint.unread platform).take count := by
    rw [List.prefix_iff_eq_take.mp shows, List.take_take, Nat.min_eq_left (by omega)]
  rw [← taken] at tracking
  simp only [consumeEq]
  refine ⟨⟨tracking, ?_⟩, trivial, ?_⟩
  · intro more
    have moreLength := List.length_pos_iff.mpr more
    rw [List.length_drop] at moreLength
    rcases nextReader with ⟨nextEq, unreadEq⟩ | ⟨_, all⟩
    · obtain ⟨_, _, _, consumedEq⟩ := Endpoint.consumed_exists tap.endpoint.reader count
      refine ⟨?_, ?_, ?_⟩
      · rw [nextEq, consumedEq]
        exact isReady
      · rw [nextEq, consumable_consumed, List.length_drop]
        omega
      · rw [unreadEq]
        exact List.IsPrefix.drop shows count
    · have within := shows.length_le
      omega
  · rw [List.length_append, List.length_take, Nat.min_eq_left (by omega)]

end Running

/-- One call of a running reader. -/
theorem Running.step (running : Running platform Holds key fed tap)
    (faithful : platform.Faithful Holds) (event : TapEvent) :
    let outcome := tap.step platform event
    ∃ fed', fed' ++ outcome.2.rest = fed ++ tap.rest ∧ (Running platform Holds key fed' outcome.2 ∧
          (outcome.1 = .ok ∨ outcome.1 = .wouldBlock) ∨
        Stopped platform key fed' outcome.2 ∧
          outcome.1 = outcome.2.endpoint.reader.readyState) := by
  cases event with
  | feed length =>
    obtain ⟨consumed, restEq, ends⟩ := running.feed faithful length
    refine ⟨fed ++ consumed, by rw [restEq, List.append_assoc], ?_⟩
    exact ends.imp_left fun still => ⟨still.1, still.2.1⟩
  | plaintext =>
    obtain ⟨still, result, _⟩ := running.plaintext faithful
    exact ⟨fed, rfl, .inl ⟨still, result⟩⟩
  | consume length =>
    obtain ⟨still, result, _⟩ := running.consume faithful length
    refine ⟨fed, ?_, .inl ⟨still, .inl result⟩⟩
    rw [Tap.consume_rest]

/-- A reader that has failed stays as it is, whatever the caller does. -/
theorem Stopped.step (stopped : Stopped platform key fed tap) (event : TapEvent) :
    (tap.step platform event).2 = tap ∧ ((tap.step platform event).1 = .ok ∨
        (tap.step platform event).1 = tap.endpoint.reader.readyState) := by
  have failed := stopped.halted.failed
  have nothing := stopped.view
  cases event with
  | feed length =>
    have feedEq : tap.endpoint.feed platform (tap.rest.take length) =
        (tap.endpoint.reader.readyState, 0, tap.endpoint) :=
      if_pos failed
    simp only [Tap.step, feedEq]
    exact ⟨rfl, .inr trivial⟩
  | plaintext =>
    have plaintextEq : tap.endpoint.plaintext platform =
        (tap.endpoint.reader.readyState, [], tap.endpoint) :=
      if_pos failed
    simp only [Tap.step, plaintextEq, if_neg failed]
    exact ⟨trivial, .inr trivial⟩
  | consume length =>
    have none : min length tap.view.length = 0 := by
      rw [nothing]
      exact Nat.min_zero length
    simp only [Tap.step, none, if_true]
    exact ⟨trivial, .inl trivial⟩

/-! ## Runs -/

/-- A tap has kept to the decoder, and its reader is running or has failed. -/
def Kept (platform : Platform State) (Holds : State → Option (Nat × List UInt8) → Prop)
    (key : Block UInt8 32) (input : List UInt8) (tap : Tap State) : Prop :=
  ∃ fed, fed ++ tap.rest = input ∧
    (Running platform Holds key fed tap ∨ Stopped platform key fed tap)

section

variable (kept : Kept platform Holds key input tap)
include kept

/-- One call. -/
theorem Kept.step (faithful : platform.Faithful Holds) (event : TapEvent) :
    let outcome := tap.step platform event
    Kept platform Holds key input outcome.2 ∧ (outcome.1 = .ok ∨ outcome.1 = .wouldBlock ∨
        (decodeStream platform.gcm key input).2 = .failed outcome.1) := by
  intro outcome
  obtain ⟨fed, rfl, running | stopped⟩ := kept
  · obtain ⟨fed', inputEq, ends⟩ := running.step faithful event
    refine ⟨⟨fed', inputEq, ends.imp And.left And.left⟩, ?_⟩
    rcases ends with ⟨_, result⟩ | ⟨stopped, result⟩
    · exact result.imp_right .inl
    obtain ⟨_, _, decoded⟩ := stopped.halted.decoded
    rw [← inputEq, decoded, result]
    exact .inr (.inr rfl)
  · obtain ⟨same, result⟩ := stopped.step event
    rw [same]
    refine ⟨⟨fed, rfl, .inr stopped⟩, result.imp_right fun failed => .inr ?_⟩
    obtain ⟨_, _, decoded⟩ := stopped.halted.decoded
    rw [decoded, failed]

/-- A sequence of calls. -/
theorem Kept.run (faithful : platform.Faithful Holds) (events : List TapEvent) :
    Kept platform Holds key input (tap.run platform events) := by
  induction events generalizing tap with
  | nil => exact kept
  | cons event events ih => exact ih (kept.step faithful event).1

/-- What is delivered are the first bytes that the decoder finds. -/
theorem Kept.received_prefix :
    tap.received ++ tap.view <+: (decodeStream platform.gcm key input).1.flatten := by
  obtain ⟨fed, rfl, running | stopped⟩ := kept
  · exact running.received_prefix tap.rest
  obtain ⟨_, received, decoded⟩ := stopped.halted.decoded
  rw [decoded, received, stopped.view, List.append_nil]

/-- A reader that is done has delivered all that the decoder finds. -/
theorem Kept.done (done : tap.Done) :
    tap.received = (decodeStream platform.gcm key input).1.flatten ∧
      tap.ending = (decodeStream platform.gcm key input).2 := by
  obtain ⟨fed, rfl, running | stopped⟩ := kept
  · obtain ⟨nothing, notReady⟩ := done.resolve_left (not_not.mpr running.readyState)
    obtain ⟨ending, decoded, ends⟩ := running.tracking.ending notReady
    have delivered := running.tracking.delivered
    rw [Endpoint.unread_done notReady, List.append_nil] at delivered
    rw [nothing, List.append_nil, decoded, Tap.ending, if_neg (not_not.mpr running.readyState)]
    refine ⟨delivered.symm, ?_⟩
    rcases ends with ⟨rfl, finishes⟩ | ⟨rfl, finishes⟩ <;>
      rw [finishes] <;> rfl
  · obtain ⟨_, received, decoded⟩ := stopped.halted.decoded
    rw [decoded, Tap.ending, if_pos stopped.halted.failed]
    exact ⟨received.symm, rfl⟩

/-- When a reader may be closed. -/
theorem Kept.finish : tap.endpoint.finish = .ok ↔ tap.endpoint.reader.readyState = .ok ∧
        (tap.endpoint.reader.ready = true ∨ (decodeStream platform.gcm key
            (input.take (input.length - tap.rest.length))).2 = .boundary) := by
  obtain ⟨fed, rfl, running | stopped⟩ := kept
  · have readyState := running.readyState
    rw [List.length_append, Nat.add_sub_cancel, List.take_left]
    cases isReady : tap.endpoint.reader.ready with
    | true =>
      have finishes : tap.endpoint.finish = .ok := by simp [Endpoint.finish, readyState, isReady]
      simp only [finishes, readyState, true_or, and_self]
    | false =>
      obtain ⟨ending, decoded, ends⟩ := running.tracking.ending isReady
      rw [decoded]
      rcases ends with ⟨rfl, finishes⟩ | ⟨rfl, finishes⟩ <;>
        simp [finishes, readyState]
  · have failed := stopped.halted.failed
    rw [Endpoint.finish, if_pos failed]
    exact ⟨fun ok => absurd ok failed, fun ok => absurd ok.1 failed⟩

end

/-- The caller can always bring a reader to its end. -/
theorem Running.drains (running : Running platform Holds key fed tap)
    (faithful : platform.Faithful Holds) : ∃ more, (tap.run platform more).Done := by
  generalize left : (decodeStream platform.gcm key
    (fed ++ tap.rest)).1.flatten.length - tap.received.length = count
  induction count using Nat.strong_induction_on generalizing tap fed with
  | _ count ih =>
    obtain ⟨consumed, restEq, ends⟩ := running.feed faithful tap.rest.length
    generalize firstEq : (tap.step platform (.feed tap.rest.length)).2 =
      first at *
    have run : tap.run platform [.feed tap.rest.length] = first := firstEq
    have received : first.received = tap.received := by
      rw [← firstEq]
      rfl
    rcases ends with ⟨feeding, _, allFed⟩ | ⟨stopped, _⟩
    · cases isReady : first.endpoint.reader.ready with
      | false =>
        refine ⟨[.feed tap.rest.length], .inr ?_⟩
        rw [run]
        refine ⟨(allFed (Nat.le_refl _)).resolve_right ?_, isReady⟩
        rw [isReady]
        decide
      | true =>
        obtain ⟨shown, _, inView⟩ := feeding.plaintext faithful
        generalize secondEq : (first.step platform .plaintext).2 = second at *
        have unchanged : second.received = first.received ∧ second.rest = first.rest := by
          rw [← secondEq]
          exact ⟨rfl, rfl⟩
        obtain ⟨further, _, longer⟩ := shown.consume faithful second.view.length
        have positive := List.length_pos_iff.mpr (inView isReady)
        have thirdRest := second.consume_rest platform second.view.length
        generalize thirdEq : (second.step platform (.consume second.view.length)).2 = third at *
        have inputEq : fed ++ consumed ++ third.rest = fed ++ tap.rest := by
          rw [thirdRest, unchanged.2, restEq, List.append_assoc]
        have most := (Kept.received_prefix ⟨_, inputEq, .inl further⟩).length_le
        rw [List.length_append, longer] at most
        obtain ⟨more, done⟩ := ih _ (by
          rw [← left, ← inputEq, longer, unchanged.1, received]
          rw [unchanged.1, received, ← inputEq] at most
          omega) further rfl
        refine ⟨.feed tap.rest.length :: .plaintext :: .consume second.view.length :: more, ?_⟩
        simp only [Tap.run, List.foldl_cons, firstEq, secondEq, thirdEq]
        exact done
    · refine ⟨[.feed tap.rest.length], .inl ?_⟩
      rw [run]
      exact stopped.halted.failed

/--
The reader keeps to a decoder that holds the whole input, however the input
is cut and the plaintext is consumed.  A call fails only with the decoder's
error; what is delivered are the first bytes that the decoder finds, all of
them once the reader is done, and then it reports the decoder's ending;
`finish` agrees between two records of what has been consumed and while
plaintext is pending; and the reader can always be brought to its end.
-/
theorem stream_decoded (faithful : platform.Faithful Holds)
    (key : Block UInt8 32) {state : State} (free : Holds state none)
    (input : List UInt8) (events : List TapEvent) :
    let plaintexts := (decodeStream platform.gcm key input).1
    let ending := (decodeStream platform.gcm key input).2
    let start := Tap.start key state input
    let tap := start.run platform events
    (∀ before event after, events = before ++ event :: after →
      let result := ((start.run platform before).step platform event).1
      result = .ok ∨ result = .wouldBlock ∨ ending = .failed result) ∧
    tap.received ++ tap.view <+: plaintexts.flatten ∧
    (tap.Done → tap.received = plaintexts.flatten ∧ tap.ending = ending) ∧
    (tap.endpoint.finish = .ok ↔ tap.endpoint.reader.readyState = .ok ∧
        (tap.endpoint.reader.ready = true ∨ (decodeStream platform.gcm key
            (input.take (input.length - tap.rest.length))).2 = .boundary)) ∧
    ∃ more, (tap.run platform more).Done := by
  intro plaintexts ending start tap
  have started : Kept platform Holds key input start :=
    ⟨[], rfl, .inl (Running.start free platform key input)⟩
  have kept := started.run faithful events
  refine ⟨?_, kept.received_prefix, kept.done, kept.finish, ?_⟩
  · intro before event after _
    exact ((started.run faithful before).step faithful event).2
  · obtain ⟨_, _, running | stopped⟩ := kept
    · exact running.drains faithful
    · exact ⟨[], .inl stopped.halted.failed⟩

/-- A record that announces no tag is refused by both. -/
theorem stream_decoded_malformed :
    let platform := memoryPlatform .openssl plainGcm fun _ => .filled 0 32
    let input := List.replicate 16 0
    let tap := (Tap.start (.filled 1 32) none input).run platform [.feed 16]
    tap.ending = .failed .protocolError ∧ (decodeStream platform.gcm (.filled 1 32) input).2 =
        .failed .protocolError := by
  intro platform input tap
  have faithful := memoryPlatform_faithful .openssl plainGcm fun _ => .filled 0 32
  obtain ⟨_, _, ends, _⟩ := stream_decoded faithful (.filled 1 32)
    (Option.map_none _) input [.feed 16]
  have failed : tap.ending = .failed .protocolError := by decide +kernel
  have done : tap.Done := .inl (by decide +kernel)
  exact ⟨failed, (ends done).2.symm.trans failed⟩

end EspFrp.Aead

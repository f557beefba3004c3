import EspFrp.Aead.Authentic
import EspFrp.Aead.Lease
import EspFrp.Aead.Store

/-!
# What the reader hands out

The store may answer every read as it likes, and differently in every pass.
All the same, the plaintext that is handed out belongs to accepted records:
each window comes out of a pass that verified a whole ciphertext, and that
ciphertext is the one of the first pass, because both have the same digest.
-/

namespace EspFrp.Aead

open Library

variable {State : Type} {platform : Platform State}

/-- Two different messages with the same digest. -/
def Collided (hash : List UInt8 → Block UInt8 32) (messages : List (List UInt8)) : Prop :=
  ∃ first ∈ messages, ∃ second ∈ messages,
    first ≠ second ∧ hash first = hash second

/-- The records are genuine, and they are what the stream begins with. -/
structure Accounted (platform : Platform State) (key : Block UInt8 32)
    (streamNonce : Block UInt8 12) (fed : List UInt8)
    (records : List Record) : Prop where
  genuine : GenuineRecords platform key streamNonce records
  stream : records ≠ [] → streamNonce.cells ++ records.flatMap Record.bytes <+: fed

theorem Accounted.append (accounted : Accounted platform key streamNonce fed records)
    (bytes : List UInt8) : Accounted platform key streamNonce (fed ++ bytes) records where
  genuine := accounted.genuine
  stream := fun some => (accounted.stream some).trans (List.prefix_append _ _)

namespace Endpoint

variable {fed bytes : List UInt8} {endpoint next : Endpoint State}

theorem Counted.accounted (counted : Counted platform key endpoint)
    (framed : endpoint.reader.nonceUsed ≤ 12)
    (stream : endpoint.reader.streamNonce.cells.take endpoint.reader.nonceUsed ++
        endpoint.history.records.flatMap Record.bytes <+: fed) :
    Accounted platform key endpoint.reader.streamNonce fed endpoint.history.records where
  genuine := counted.genuine
  stream := by
    intro some
    have full : endpoint.reader.nonceUsed = 12 := by
      by_contra early
      exact some (counted.early (by omega))
    rwa [full, List.take_of_length_le endpoint.reader.streamNonce.cells_length.le] at stream

theorem Reading.accounted (reading : Reading platform key fed endpoint) :
    Accounted platform key endpoint.reader.streamNonce fed endpoint.history.records := by
  refine reading.toCounted.accounted reading.framed.nonce_le ?_
  rw [reading.fed, receivedBytes]
  exact List.prefix_append _ _

/-- The history grows, and a stream nonce that is complete stays. -/
structure Extends (endpoint next : Endpoint State) : Prop where
  hashed : endpoint.history.hashed <+: next.history.hashed
  records : endpoint.history.records <+: next.history.records
  nonce : endpoint.reader.nonceUsed = 12 → next.reader.nonceUsed = 12 ∧
      next.reader.streamNonce = endpoint.reader.streamNonce

theorem Extends.refl (endpoint : Endpoint State) : Extends endpoint endpoint :=
  ⟨List.prefix_rfl, List.prefix_rfl, fun full => ⟨full, rfl⟩⟩

theorem Extends.of_eq (hashed : next.history.hashed = endpoint.history.hashed)
    (records : next.history.records = endpoint.history.records)
    (used : next.reader.nonceUsed = endpoint.reader.nonceUsed)
    (nonce : next.reader.streamNonce = endpoint.reader.streamNonce) : Extends endpoint next :=
  ⟨hashed ▸ List.prefix_rfl, records ▸ List.prefix_rfl, fun full => ⟨used.trans full, nonce⟩⟩

theorem Extends.trans {last : Endpoint State} (first : Extends endpoint next)
    (second : Extends next last) : Extends endpoint last where
  hashed := first.hashed.trans second.hashed
  records := first.records.trans second.records
  nonce := fun full => by
    obtain ⟨nextFull, nextEq⟩ := first.nonce full
    obtain ⟨lastFull, lastEq⟩ := second.nonce nextFull
    exact ⟨lastFull, lastEq.trans nextEq⟩

theorem Rereads.extends (rereads : Rereads endpoint next) : Extends endpoint next where
  hashed := rereads.hashed
  records := rereads.records ▸ List.prefix_rfl
  nonce := fun full => by
    rw [rereads.reader]
    exact ⟨full, rfl⟩

theorem Releasing.extends {result : Result}
    (releasing : Releasing platform endpoint (result, next)) : Extends endpoint next := by
  obtain ⟨⟨_, _, nextEq⟩, recordsEq, _, hashedEq⟩ := releasing.exists_reader
  exact .of_eq hashedEq recordsEq (by rw [nextEq]) (by rw [nextEq])

theorem fail_extends (platform : Platform State) (endpoint : Endpoint State) (error : Result) :
    Extends endpoint (endpoint.fail platform error).2 := by
  obtain ⟨⟨_, _, nextEq⟩, recordsEq, hashedEq⟩ := fail_spec platform endpoint error
  exact .of_eq hashedEq recordsEq (by rw [nextEq]; rfl) (by rw [nextEq]; rfl)

theorem Storing.extends (storing : Storing platform endpoint bytes (.ok, next)) :
    Extends endpoint (next.update (·.addBody bytes.length)) := by
  obtain ⟨_, _, readerEq⟩ := storing.kept_reader
  obtain ⟨_, recordsEq, hashedEq⟩ := storing.ok_frame
  exact .of_eq hashedEq recordsEq (by rw [readerEq]) (by rw [readerEq])

theorem advanced_extends (endpoint : Endpoint State) (nonce : Block UInt8 12) :
    Extends endpoint (endpoint.advanced nonce) :=
  .of_eq rfl rfl rfl rfl

theorem accepted_extends (endpoint : Endpoint State) (verified : List UInt8) :
    Extends endpoint (endpoint.accepted verified) :=
  ⟨List.prefix_rfl, List.prefix_append _ _, fun full => ⟨full, rfl⟩⟩

section

variable (storing : Storing platform endpoint bytes (.ok, next))
  {checkedAt : Endpoint State}
  (checked : (next.update (·.addBody bytes.length)).check platform = (result, verified, checkedAt))
include storing checked

theorem Storing.checked_records : checkedAt.history.records = endpoint.history.records :=
  (check_rereads checked).records.trans storing.ok_frame.2.1

/-- The record is counted after it has been checked. -/
theorem Storing.accepted_extends (nonce : Block UInt8 12) :
    Extends endpoint ((checkedAt.advanced nonce).accepted verified) :=
  storing.extends.trans ((check_rereads checked).extends.trans
    ((advanced_extends _ _).trans (Endpoint.accepted_extends _ _)))

end

theorem FeedStep.extends (step : FeedStep platform endpoint bytes next) :
    Extends endpoint next := by
  cases step with
  | nonce within | nonceComplete incomplete completes =>
    exact ⟨List.prefix_rfl, List.prefix_rfl, fun full => by omega⟩
  | header => exact .of_eq rfl rfl rfl rfl
  | announced _ _ _ announcing =>
    obtain ⟨⟨_, _, readerEq⟩, recordsEq, _, hashedEq⟩ := announcing.ok_frame
    exact .of_eq hashedEq recordsEq (by rw [readerEq]; rfl) (by rw [readerEq]; rfl)
  | body _ _ _ storing => exact storing.extends
  | completed _ _ _ storing completing =>
    cases completing with
    | rejected _ failed fails => exact absurd fails (ok_ne_fail failed)
    | wrapped _ _ fails => exact absurd fails (ok_ne_fail (by decide))
    | @ready _ _ nonce checked =>
      have accepted := storing.accepted_extends checked nonce
      exact ⟨accepted.hashed, accepted.records, accepted.nonce⟩
    | empty checked _ _ finishes =>
      obtain ⟨_, releasing, rfl⟩ := finishRecord_ok finishes.symm
      have kept := (storing.accepted_extends checked _).trans releasing.extends
      exact ⟨kept.hashed, kept.records, kept.nonce⟩

/-- A step fails only after the stream nonce. -/
theorem FeedFailure.afterNonce (failure : FeedFailure platform endpoint bytes outcome)
    (framed : Framed endpoint.reader) : endpoint.reader.nonceUsed = 12 := by
  cases failure with
  | announced afterNonce => exact Nat.le_antisymm framed.nonce_le afterNonce
  | body afterHeader | completed afterHeader => exact framed.announced afterHeader

theorem Cause.extends {before : Endpoint State} {error : Result}
    (cause : Cause platform endpoint before error) : Extends endpoint before := by
  cases cause with
  | oversized | exhausted | refused | unwritten =>
    exact ⟨List.prefix_rfl, List.prefix_rfl, fun full => ⟨full, rfl⟩⟩
  | rejected _ _ _ storing checked => exact storing.extends.trans (check_rereads checked).extends
  | wrapped _ _ _ storing checked =>
    exact storing.extends.trans ((check_rereads checked).extends.trans (advanced_extends _ _))
  | unreleased _ _ _ storing checked _ releasing =>
    exact (storing.accepted_extends checked _).trans releasing.extends

theorem FeedFailure.extends (failure : FeedFailure platform endpoint bytes outcome) :
    Extends endpoint outcome.2 := by
  obtain ⟨_, _, _, cause, failEq⟩ := failure.cause
  rw [failEq]
  exact cause.extends.trans (fail_extends platform _ _)

variable {rest : List UInt8}

theorem Feeding.extends {outcome : Result × List UInt8 × Endpoint State}
    (feeding : Feeding platform endpoint rest outcome) : Extends endpoint outcome.2.2 := by
  induction feeding with
  | done | blocked => exact .refl _
  | step _ step _ ih => exact step.extends.trans ih
  | failed _ failure => exact failure.extends

/-- The records of a reader that has just failed. -/
theorem FeedFailure.accounted (failure : FeedFailure platform endpoint bytes outcome)
    (reading : Reading platform key fed endpoint) (notReady : endpoint.reader.ready = false) :
    Accounted platform key outcome.2.reader.streamNonce (fed ++ bytes)
      outcome.2.history.records := by
  obtain ⟨_, nonceEq⟩ := failure.extends.nonce (failure.afterNonce reading.framed)
  rw [nonceEq]
  have accounted := reading.accounted.append bytes
  have fails {before : Endpoint State} {error : Result} {outcome : Result × Endpoint State}
      (failEq : outcome = before.fail platform error)
      (recordsEq : before.history.records = endpoint.history.records) :
      Accounted platform key endpoint.reader.streamNonce
        (fed ++ bytes) outcome.2.history.records := by
    obtain ⟨_, failedEq, _⟩ := fail_spec platform before error
    rwa [failEq, failedEq, recordsEq]
  cases failure with
  | announced _ _ _ announcing failed =>
    cases announcing with
    | oversized _ failEq | exhausted _ _ failEq | refused _ _ _ failEq => exact fails failEq rfl
    | memory | leased => exact absurd rfl failed
  | body _ _ _ storing failed =>
    cases storing with
    | window | written | tag => exact absurd rfl failed
    | unwritten _ _ _ _ failEq => exact fails failEq rfl
  | completed afterHeader piece completes storing completing failed =>
    cases completing with
    | rejected checked _ failEq => exact fails failEq (storing.checked_records checked)
    | wrapped checked _ failEq =>
      have recordsEq := storing.checked_records checked
      exact fails failEq recordsEq
    | ready => exact absurd rfl failed
    | @empty _ _ nonce _ checked follows _ finishes =>
      rcases finishRecord_cases platform _ with
        ⟨released, releasing, finishEq⟩ | ⟨result, released, releasing, isError, finishEq⟩
      · rw [finishEq] at finishes
        exact absurd (congrArg Prod.fst finishes) failed
      · obtain ⟨counted, received, _⟩ :=
          reading.completedStep notReady afterHeader piece completes storing checked follows
        obtain ⟨full, acceptedNonce⟩ :=
          (storing.accepted_extends checked nonce).nonce (reading.framed.announced afterHeader)
        obtain ⟨_, recordsEq, _, _⟩ := releasing.exists_reader
        obtain ⟨_, failedEq, _⟩ := fail_spec platform released .storageError
        rw [finishes.trans finishEq, failedEq, recordsEq, ← acceptedNonce]
        exact counted.accounted full.le (received ▸ List.prefix_rfl)

/-- The feed loop reads on, or it fails with its records accounted for. -/
theorem Feeding.reading {outcome : Result × List UInt8 × Endpoint State}
    (feeding : Feeding platform endpoint rest outcome)
    (reading : Reading platform key fed endpoint) :
    ∃ consumed, rest = consumed ++ outcome.2.1 ∧
      (Reading platform key (fed ++ consumed) outcome.2.2 ∨ outcome.2.2.reader.readyState ≠ .ok ∧
          Accounted platform key outcome.2.2.reader.streamNonce
            (fed ++ consumed) outcome.2.2.history.records) := by
  induction feeding generalizing fed with
  | @done endpoint | blocked => exact ⟨[], rfl, .inl (by rwa [List.append_nil])⟩
  | @step _ _ bytes _ _ notReady step _ ih =>
    obtain ⟨consumed, restEq, _⟩ := ih (reading.step notReady step)
    refine ⟨bytes ++ consumed, ?_, ?_⟩
    · rw [restEq, List.append_assoc]
    · rwa [← List.append_assoc]
  | @failed _ _ bytes _ _ notReady failure =>
    refine ⟨bytes, rfl, .inr ⟨?_, failure.accounted reading notReady⟩⟩
    obtain ⟨_, _, isError, cause, failEq⟩ := failure.cause
    have failed := fail_failed platform (cause.active reading.framed.active) isError
    rw [← failEq] at failed
    rw [failed.readyState]
    exact failed.failure

theorem fail_readyState (platform : Platform State) (active : endpoint.reader.active = true) :
    (endpoint.fail platform error).2.reader.readyState = (endpoint.fail platform error).1 := by
  obtain ⟨⟨_, _, readerEq⟩, _, _⟩ := fail_spec platform endpoint error
  rw [readerEq, Reader.readyState]
  exact if_pos active

theorem Feeding.result {outcome : Result × List UInt8 × Endpoint State}
    (feeding : Feeding platform endpoint rest outcome) (framed : Framed endpoint.reader) :
    outcome.1 = .ok ∨ outcome.1 = .wouldBlock ∨ outcome.2.2.reader.readyState = outcome.1 := by
  induction feeding with
  | done => exact .inl rfl
  | blocked => exact .inr (.inl rfl)
  | step notReady step _ ih => exact ih (step.framed framed notReady)
  | failed _ failure =>
    obtain ⟨_, _, _, cause, failEq⟩ := failure.cause
    rw [congrArg Prod.fst failEq, congrArg Prod.snd failEq]
    exact .inr (.inr (fail_readyState platform (cause.active framed.active)))

/-! ## Windows -/

/-- What consuming plaintext changes in the reader. -/
theorem consumed_exists (reader : Reader) (length : Nat) : ∃ window windowUsed windowOffset,
      reader.consumed length =
        { reader with
          window := window
          plainOffset := reader.plainOffset + length
          windowUsed := windowUsed
          windowOffset := windowOffset } := by
  unfold Reader.consumed
  split
  · exact ⟨_, _, _, rfl⟩
  · exact ⟨_, _, _, rfl⟩

variable {reader : Reader}

/-- What has been consumed is no longer shown; the rest still is. -/
theorem showing_consumed (framed : Framed reader)
    (isReady : reader.ready = true) (within : length ≤ reader.consumable) :
    (reader.consumed length).showing <+: reader.showing.drop length := by
  obtain ⟨fullHeader, _⟩ := framed.full isReady
  obtain ⟨_, _⟩ := framed.plain isReady
  by_cases inMemory : reader.inMemory = true
  · have small : reader.plainLength ≤ 4096 := by
      rw [(framed.memory fullHeader).1] at inMemory
      exact of_decide_eq_true inMemory
    rw [Reader.consumable, if_pos inMemory] at within
    rw [Reader.consumed, if_pos inMemory, Reader.showing,
      Reader.showing, if_pos inMemory, if_pos inMemory]
    rw [Block.slice_copy_behind, Block.drop_slice, Nat.sub_add_eq]
    · rw [List.length_replicate]
      omega
    · rw [List.length_replicate]
  · rw [Reader.consumable, if_neg inMemory] at within
    rw [Reader.consumed, if_neg inMemory, Reader.showing,
      Reader.showing, if_neg inMemory, if_neg inMemory]
    rw [Bool.not_eq_true] at inMemory
    obtain ⟨_, _, _, _⟩ := framed.window isReady inMemory
    dsimp only
    split
    · simp [Block.slice]
    rw [Block.slice_copy_behind, Block.drop_slice, Nat.sub_add_eq]
    · rw [List.length_replicate]
      omega
    · rw [List.length_replicate]

theorem consumed_extends (endpoint : Endpoint State) (length : Nat) :
    Extends endpoint (endpoint.update (·.consumed length)) := by
  obtain ⟨_, _, _, readerEq⟩ := consumed_exists endpoint.reader length
  refine ⟨List.prefix_rfl, List.prefix_rfl, fun full => ?_⟩
  simp only [update, readerEq]
  exact ⟨full, trivial⟩

theorem finishRecord_extends (platform : Platform State) (endpoint : Endpoint State) :
    Extends endpoint (endpoint.finishRecord platform).2 := by
  rcases finishRecord_cases platform endpoint with
    ⟨released, releasing, finishEq⟩ | ⟨result, released, releasing, _, finishEq⟩
  · rw [finishEq]
    have grows := releasing.extends
    exact ⟨grows.hashed, grows.records, grows.nonce⟩
  · rw [finishEq]
    exact releasing.extends.trans (fail_extends platform _ _)

theorem feed_extends (platform : Platform State) (endpoint : Endpoint State)
    (kept : endpoint.LeaseKept) (bytes : List UInt8) :
    Extends endpoint (endpoint.feed platform bytes).2.2 := by
  unfold feed
  split
  · exact .refl _
  rename_i running
  rw [not_not] at running
  exact (feedLoop_cases platform bytes (kept.framed running)).extends

theorem Handing.extends {outcome : Result × List UInt8 × Endpoint State}
    (handing : Handing platform endpoint outcome) : Extends endpoint outcome.2.2 := by
  cases handing with
  | refused | blocked | shown => exact .refl _
  | rejected _ _ _ _ verified _ fails =>
    obtain ⟨rereads, _⟩ := verify_cases (Nat.min_le_right _ _) verified
    rw [fails]
    exact rereads.extends.trans (fail_extends platform _ _)
  | verified _ _ _ _ verified =>
    obtain ⟨rereads, _⟩ := verify_cases (Nat.min_le_right _ _) verified
    have grows := rereads.extends
    exact ⟨grows.hashed, grows.records, grows.nonce⟩

variable {length : Nat}

theorem Consuming.extends (consuming : Consuming platform endpoint length outcome) :
    Extends endpoint outcome.2 := by
  cases consuming with
  | refused | illegal => exact .refl _
  | consumed => exact consumed_extends endpoint length
  | finished _ _ _ _ _ finishes =>
    rw [finishes]
    exact (consumed_extends endpoint length).trans (finishRecord_extends platform _)

section

variable {outcome : Result × Endpoint State} (closing : Closing platform endpoint outcome)
include closing

/-- After a close, the reader does not run. -/
theorem Closing.stopped : outcome.2.reader.readyState ≠ .ok := by
  cases closing with
  | inactive closed => simp [Reader.readyState, closed]
  | closed => exact (show Result.invalidState ≠ .ok by decide)
  | kept active releasing =>
    obtain ⟨⟨_, _, nextEq⟩, _⟩ := releasing.exists_reader
    simp [update, Reader.readyState, nextEq, unkeyed, active]

theorem Closing.result : outcome.1 = .ok ∨ outcome.2.reader.readyState = outcome.1 := by
  cases closing with
  | inactive | closed => exact .inl rfl
  | kept active releasing =>
    obtain ⟨⟨_, _, nextEq⟩, _⟩ := releasing.exists_reader
    right
    simp [update, Reader.readyState, nextEq, unkeyed, active]

theorem Closing.records : outcome.2.history.records = endpoint.history.records := by
  cases closing with
  | inactive => rfl
  | closed _ releasing | kept _ releasing => exact releasing.exists_reader.2.1

theorem Closing.grows : endpoint.history.hashed <+: outcome.2.history.hashed ∧
      endpoint.history.records <+: outcome.2.history.records := by
  cases closing with
  | inactive => exact ⟨List.prefix_rfl, List.prefix_rfl⟩
  | closed _ releasing | kept _ releasing =>
    exact ⟨releasing.extends.hashed, releasing.extends.records⟩

end

/-- The records do not depend on the window. -/
theorem Counted.of_window (counted : Counted platform key endpoint)
    (readerEq : reader =
      { endpoint.reader with
        window := window
        plainOffset := plainOffset
        windowUsed := windowUsed
        windowOffset := windowOffset }) :
    Counted platform key { endpoint with reader := reader } := by
  subst readerEq
  exact { counted with }

namespace Reading

theorem consumed (reading : Reading platform key fed endpoint)
    (isReady : endpoint.reader.ready = true) (within : length ≤ endpoint.reader.consumable)
    (framed : Framed (endpoint.reader.consumed length)) :
    Reading platform key fed (endpoint.update (·.consumed length)) := by
  have shows := showing_consumed reading.framed isReady within
  obtain ⟨_, _, _, readerEq⟩ := consumed_exists endpoint.reader length
  have stillReady : (endpoint.update (·.consumed length)).reader.ready = true := by
    simp only [update, readerEq]
    exact isReady
  refine
    { reading.toCounted.of_window readerEq with
      framed := framed
      fed := ?_
      collecting := fun _ notReady => by
        rw [stillReady] at notReady
        cases notReady
      showing := fun _ => ?_ }
  · rw [reading.fed, receivedBytes, receivedBytes,
      partialRecord_ready isReady, partialRecord_ready stillReady]
    simp only [update, readerEq]
  · obtain ⟨record, isLast, showing⟩ := reading.showing isReady
    refine ⟨record, isLast, ?_⟩
    have dropped := shows.trans (List.IsPrefix.drop showing.shows length)
    rw [List.drop_drop] at dropped
    change Showing platform { endpoint with reader := endpoint.reader.consumed length } record
    rw [readerEq] at dropped ⊢
    exact
      { header := showing.header, tag := showing.tag
        size := showing.size, sequence := showing.sequence
        nonce := showing.nonce, digest := showing.digest
        shows := dropped }

/-- A record that is used up leaves the reader between two records. -/
theorem usedUp
    (reading : Reading platform key fed endpoint) (isReady : endpoint.reader.ready = true)
    (releasing : Releasing platform (endpoint.update (·.consumed length)) (.ok, released)) :
    Reading platform key fed (released.update Reader.resetRecord) := by
  obtain ⟨active, failure, nonceUsed⟩ := consumed_state endpoint.reader length
  obtain ⟨_, _, _, readerEq⟩ := consumed_exists endpoint.reader length
  have framed := finished_framed (active.trans reading.framed.active)
    (failure.trans reading.framed.running) (nonceUsed.le.trans reading.framed.nonce_le) releasing
  have counted := reading.toCounted.of_window readerEq
  refine finished counted ?_ releasing framed
  have received := reading.fed
  rw [receivedBytes, partialRecord_ready isReady, List.append_nil] at received
  simp only [readerEq]
  exact received

/-- A window of the accepted ciphertext shows the accepted record. -/
theorem filled_same (reading : Reading platform key fed endpoint)
    (isReady : endpoint.reader.ready = true)
    (inStore : endpoint.reader.inMemory = false)
    (isLast : endpoint.history.records.getLast? = some record)
    (showing : Showing platform endpoint record)
    (verified : endpoint.verify platform endpoint.reader.plainOffset
      (windowLength endpoint.reader) (some endpoint.reader.digest) = (.ok, record.verified, next)) :
    Reading platform key fed (next.filled (windowLength endpoint.reader)) := by
  have framed := filled_framed reading.framed isReady verified
  obtain ⟨rereads, verifies⟩ := verify_cases (Nat.min_le_right _ _) verified
  obtain ⟨isVerified, _, digestEq⟩ := verifies rfl
  obtain ⟨digest, isHashed⟩ := showing.digest inStore
  obtain ⟨_, _⟩ := reading.framed.full isReady
  obtain ⟨window, newDigest, passes, read, nextEq⟩ := rereads.exists_reader
  have digestKept : newDigest = endpoint.reader.digest := by
    have kept := digestEq
    rw [nextEq] at kept
    exact kept
  have windowEq : window.slice 0 (windowLength endpoint.reader) =
      ((platform.gcm.decrypt endpoint.reader.key endpoint.reader.recordNonce record.verified).drop
          endpoint.reader.plainOffset).take (windowLength endpoint.reader) := by
    have shown := isVerified.window
    rw [nextEq] at shown
    exact shown
  subst digestKept
  have readerEq : (next.filled (windowLength endpoint.reader)).reader =
        { endpoint.reader with
          window := window
          flashPasses := passes
          flashReadBytes := read
          windowUsed := windowLength endpoint.reader
          windowOffset := 0 } := by
    simp only [Endpoint.filled, update, nextEq]
  have recordsEq : (next.filled (windowLength endpoint.reader)).history.records =
        endpoint.history.records := rereads.records
  have stillReady : (next.filled (windowLength endpoint.reader)).reader.ready =
        true := by
    rw [readerEq]
    exact isReady
  refine
    { keyed := by rw [readerEq]; exact reading.keyed
      records := by rw [readerEq, recordsEq]; exact reading.records
      early := by rw [readerEq, recordsEq]; exact reading.early
      nonce := by rw [readerEq]; exact reading.nonce
      genuine := by rw [readerEq, recordsEq]; exact reading.genuine
      framed := framed
      fed := ?_
      collecting := fun _ notReady => by
        rw [stillReady] at notReady
        cases notReady
      showing := fun _ => ⟨record, recordsEq ▸ isLast, ?_⟩ }
  · rw [reading.fed, receivedBytes, receivedBytes, partialRecord_ready isReady,
      partialRecord_ready stillReady, readerEq, recordsEq]
  · have shown : (next.filled (windowLength endpoint.reader)).reader.showing <+:
        (platform.gcm.decrypt endpoint.reader.key endpoint.reader.recordNonce record.verified).drop
            endpoint.reader.plainOffset := by
      rw [readerEq, Reader.showing, if_neg (by simp [inStore])]
      rw [Nat.sub_zero, windowEq]
      exact List.take_prefix _ _
    refine
      { header := by rw [readerEq]; exact showing.header
        tag := by rw [readerEq]; exact showing.tag
        size := by rw [readerEq]; exact showing.size
        sequence := by
          rw [readerEq, recordsEq]
          exact showing.sequence
        nonce := by rw [readerEq]; exact showing.nonce
        digest := fun _ => ?_
        shows := by rw [readerEq] at shown ⊢; exact shown }
    rw [readerEq]
    exact ⟨digest, rereads.hashed.subset isHashed⟩

/-- A window that has been verified shows the accepted record. -/
theorem filled {ciphertext : List UInt8} (reading : Reading platform key fed endpoint)
    (isReady : endpoint.reader.ready = true)
    (inStore : endpoint.reader.inMemory = false)
    (verified : endpoint.verify platform endpoint.reader.plainOffset
      (windowLength endpoint.reader) (some endpoint.reader.digest) = (.ok, ciphertext, next)) :
    Collided platform.hash next.history.hashed ∨ Reading platform key fed
        (next.filled (windowLength endpoint.reader)) := by
  obtain ⟨record, isLast, showing⟩ := reading.showing isReady
  by_cases same : ciphertext = record.verified
  · subst same
    exact .inr (reading.filled_same isReady inStore isLast showing verified)
  obtain ⟨rereads, verifies⟩ := verify_cases (Nat.min_le_right _ _) verified
  obtain ⟨isVerified, hashedEq, _⟩ := verifies rfl
  obtain ⟨digest, isHashed⟩ := showing.digest inStore
  refine .inl ⟨_, rereads.hashed.subset isHashed, _,
    by rw [hashedEq]; exact List.mem_concat_self, ?_,
    digest.symm.trans (isVerified.expected _ rfl)⟩
  intro equal
  exact same (List.append_cancel_left equal).symm

end Reading

end Endpoint

/-! ## Sessions -/

/-- A reader that has just been initialised. -/
theorem Endpoint.Reading.start (platform : Platform State) (key : Block UInt8 32) (state : State) :
    Reading platform key [] (Session.start key state).endpoint where
  keyed := rfl
  records := rfl
  early := fun _ => rfl
  nonce := nofun
  genuine := fun _ _ found => by cases found
  framed := .between rfl rfl (Nat.zero_le _) rfl rfl rfl rfl ⟨rfl, rfl, rfl, rfl⟩
  fed := rfl
  collecting := nofun
  showing := nofun

/-- What has been handed out belongs to accepted records. -/
def Vouched (platform : Platform State) (key : Block UInt8 32)
    (streamNonce : Block UInt8 12) (records : List Record)
    (exposed : List Exposure) : Prop :=
  ∀ exposure ∈ exposed, ∃ record, records[exposure.sequence]? = some record ∧ exposure.bytes <+:
        (record.plaintext platform key streamNonce exposure.sequence).drop exposure.offset

theorem Vouched.mono (vouched : Vouched platform key streamNonce records exposed)
    (grows : records <+: more) : Vouched platform key streamNonce more exposed := by
  intro exposure isExposed
  obtain ⟨record, found, shows⟩ := vouched exposure isExposed
  obtain ⟨_, rfl⟩ := grows
  obtain ⟨inside, _⟩ := List.getElem?_eq_some_iff.mp found
  exact ⟨record, (List.getElem?_append_left inside).trans found, shows⟩

/--
The situation of a session, as long as no two accepted messages have the same
digest.
-/
def Session.Trusted (platform : Platform State) (key : Block UInt8 32)
    (session : Session State) : Prop :=
  Collided platform.hash session.endpoint.history.hashed ∨ ∃ streamNonce,
      Accounted platform key streamNonce session.fed session.endpoint.history.records ∧
        Vouched platform key streamNonce session.endpoint.history.records session.exposed ∧
        (session.endpoint.reader.readyState = .ok →
          Endpoint.Reading platform key session.fed session.endpoint ∧
            (session.endpoint.reader.nonceUsed = 12 →
              streamNonce = session.endpoint.reader.streamNonce))

namespace Endpoint

variable {fed : List UInt8}

theorem Extends.vouched (grows : Extends endpoint next)
    (reading : Reading platform key fed endpoint)
    (nonceEq : endpoint.reader.nonceUsed = 12 → streamNonce = endpoint.reader.streamNonce)
    (vouched : Vouched platform key streamNonce endpoint.history.records exposed) :
    Vouched platform key next.reader.streamNonce next.history.records exposed := by
  by_cases full : endpoint.reader.nonceUsed = 12
  · rw [(grows.nonce full).2, ← nonceEq full]
    exact vouched.mono grows.records
  have nonceLe := reading.framed.nonce_le
  intro exposure isExposed
  obtain ⟨_, found, _⟩ := vouched exposure isExposed
  rw [reading.early (by omega)] at found
  cases found

/-- What a reader shows belongs to its last record. -/
theorem Reading.exposure (reading : Reading platform key fed endpoint)
    (isReady : endpoint.reader.ready = true) :
    ∃ record, endpoint.history.records[endpoint.reader.recordSequence]? = some record ∧
        endpoint.reader.showing <+: (record.plaintext platform key endpoint.reader.streamNonce
            endpoint.reader.recordSequence).drop
              endpoint.reader.plainOffset := by
  obtain ⟨record, isLast, showing⟩ := reading.showing isReady
  refine ⟨record, ?_, ?_⟩
  · rw [List.getLast?_eq_getElem?, ← showing.sequence, Nat.add_sub_cancel] at isLast
    exact isLast
  · have shows := showing.shows
    rwa [reading.keyed, showing.nonce] at shows

theorem Vouched.snoc
    (vouched : Vouched platform key endpoint.reader.streamNonce endpoint.history.records exposed)
    (reading : Reading platform key fed endpoint) (isReady : endpoint.reader.ready = true) :
    Vouched platform key endpoint.reader.streamNonce endpoint.history.records (exposed ++
        [{ sequence := endpoint.reader.recordSequence
           offset := endpoint.reader.plainOffset
           bytes := endpoint.reader.showing }]) := by
  intro exposure isExposed
  rcases List.mem_append.mp isExposed with old | new
  · exact vouched exposure old
  cases List.mem_singleton.mp new
  exact reading.exposure isReady

end Endpoint

namespace Session

variable {session : Session State}

/-- The accepted messages and records only grow. -/
theorem call_grows (kept : session.endpoint.LeaseKept) (call : ReaderCall) :
    session.endpoint.history.hashed <+: (session.call platform call).2.endpoint.history.hashed ∧
      session.endpoint.history.records <+:
        (session.call platform call).2.endpoint.history.records := by
  cases call with
  | feed bytes =>
    have grows := session.endpoint.feed_extends platform kept bytes
    exact ⟨grows.hashed, grows.records⟩
  | plaintext =>
    have grows := (Endpoint.plaintext_cases platform session.endpoint).extends
    exact ⟨grows.hashed, grows.records⟩
  | consume length =>
    have grows := (Endpoint.consumePlaintext_cases platform session.endpoint length).extends
    exact ⟨grows.hashed, grows.records⟩
  | finish => exact ⟨List.prefix_rfl, List.prefix_rfl⟩
  | close => exact (Endpoint.close_cases platform session.endpoint).grows

namespace Trusted

theorem collided {call : ReaderCall}
    (collision : Collided platform.hash session.endpoint.history.hashed)
    (grows : session.endpoint.history.hashed <+:
      (session.call platform call).2.endpoint.history.hashed) :
    (session.call platform call).2.Trusted platform key := by
  obtain ⟨first, isFirst, second, isSecond, collides⟩ := collision
  exact .inl ⟨first, grows.subset isFirst, second, grows.subset isSecond, collides⟩

theorem of_reading (reading : Endpoint.Reading platform key session.fed session.endpoint)
    (vouched : Vouched platform key session.endpoint.reader.streamNonce
      session.endpoint.history.records session.exposed) :
    session.Trusted platform key :=
  .inr ⟨_, reading.accounted, vouched, fun _ => ⟨reading, fun _ => rfl⟩⟩

theorem of_stopped (stopped : session.endpoint.reader.readyState ≠ .ok)
    (accounted : Accounted platform key streamNonce session.fed session.endpoint.history.records)
    (vouched : Vouched platform key streamNonce session.endpoint.history.records session.exposed) :
    session.Trusted platform key :=
  .inr ⟨streamNonce, accounted, vouched, fun running => absurd running stopped⟩

theorem feed (reading : Endpoint.Reading platform key session.fed session.endpoint)
    (nonceEq : session.endpoint.reader.nonceUsed = 12 →
      streamNonce = session.endpoint.reader.streamNonce)
    (vouched : Vouched platform key streamNonce session.endpoint.history.records session.exposed)
    (bytes : List UInt8) :
    (session.call platform (.feed bytes)).2.Trusted platform key := by
  have running := Endpoint.readyState_of_framed reading.framed
  have feeding := Endpoint.feedLoop_cases platform bytes reading.framed
  have newVouched := feeding.extends.vouched reading nonceEq vouched
  obtain ⟨consumed, bytesEq, outcome⟩ := feeding.reading reading
  simp only [Session.call, Endpoint.feed]
  rw [if_neg (by rw [running]; decide)]
  have consumedEq : bytes.take (bytes.length -
        (session.endpoint.feedLoop platform bytes).2.1.length) =
          consumed := by
    rw [congrArg List.length bytesEq, List.length_append, Nat.add_sub_cancel]
    exact (congrArg _ bytesEq).trans List.take_left
  rw [consumedEq]
  rcases outcome with stillReading | ⟨stopped, accounted⟩
  · exact of_reading stillReading newVouched
  · exact of_stopped stopped accounted newVouched

/-- A failure leaves the records as they are. -/
theorem failed {before : Endpoint State}
    (accounted : Accounted platform key streamNonce session.fed session.endpoint.history.records)
    (vouched : Vouched platform key streamNonce session.endpoint.history.records session.exposed)
    (recordsEq : before.history.records = session.endpoint.history.records)
    (active : before.reader.active = true) (isError : error ≠ .ok) :
    ({ session with endpoint := (before.fail platform error).2 } :
      Session State).Trusted platform key := by
  have failed := Endpoint.fail_failed platform active isError
  obtain ⟨_, failedEq, _⟩ := Endpoint.fail_spec platform before error
  have newAccounted : Accounted platform key streamNonce session.fed
      (before.fail platform error).2.history.records := by
    rwa [failedEq, recordsEq]
  have newVouched : Vouched platform key streamNonce (before.fail platform error).2.history.records
      session.exposed := by
    rwa [failedEq, recordsEq]
  refine of_stopped ?_ newAccounted newVouched
  rw [failed.readyState]
  exact failed.failure

section

variable (reading : Endpoint.Reading platform key session.fed session.endpoint)
  (accounted : Accounted platform key streamNonce session.fed session.endpoint.history.records)
  (nonceEq : session.endpoint.reader.nonceUsed = 12 → streamNonce =
    session.endpoint.reader.streamNonce)
  (vouched : Vouched platform key streamNonce session.endpoint.history.records session.exposed)
include reading accounted nonceEq vouched

theorem plaintext : (session.call platform .plaintext).2.Trusted platform key := by
  have running := Endpoint.readyState_of_framed reading.framed
  have handing := Endpoint.plaintext_cases platform session.endpoint
  have newVouched := handing.extends.vouched reading nonceEq vouched
  simp only [Session.call]
  generalize session.endpoint.plaintext platform = outcome
    at handing newVouched ⊢
  cases handing with
  | refused stopped => exact absurd running stopped
  | blocked => exact of_reading reading newVouched
  | shown _ isReady => exact of_reading reading (Endpoint.Vouched.snoc newVouched reading isReady)
  | @rejected _ _ next _ _ _ _ _ verified isError fails =>
    obtain ⟨rereads, _⟩ := Endpoint.verify_cases (Nat.min_le_right _ _) verified
    rw [fails, if_neg (Endpoint.fail_ne_ok platform next isError)]
    refine failed accounted vouched rereads.records ?_ isError
    rw [rereads.reader]
    exact reading.framed.active
  | @verified _ next _ isReady inStore _ verified =>
    rcases reading.filled isReady inStore verified with
      collision | stillReading
    · exact .inl collision
    · obtain ⟨rereads, _⟩ := Endpoint.verify_cases (Nat.min_le_right _ _) verified
      obtain ⟨_, _, _, _, nextEq⟩ := rereads.exists_reader
      have shown := Endpoint.Vouched.snoc newVouched stillReading (by
          simp only [Endpoint.filled, Endpoint.update, nextEq]
          exact isReady)
      rw [if_pos rfl]
      refine of_reading stillReading ?_
      have sequenceEq : next.reader.recordSequence =
            session.endpoint.reader.recordSequence := by
        rw [nextEq]
      have offsetEq : next.reader.plainOffset =
            session.endpoint.reader.plainOffset := by
        rw [nextEq]
      rw [← sequenceEq, ← offsetEq]
      exact shown

theorem consume (length : Nat) :
    (session.call platform (.consume length)).2.Trusted platform key := by
  have running := Endpoint.readyState_of_framed reading.framed
  have consuming := Endpoint.consumePlaintext_cases platform session.endpoint length
  have newVouched := consuming.extends.vouched reading nonceEq vouched
  simp only [Session.call]
  generalize session.endpoint.consumePlaintext platform length = outcome
    at consuming newVouched ⊢
  cases consuming with
  | refused stopped => exact absurd running stopped
  | illegal => exact of_reading reading newVouched
  | consumed _ isReady positive within more =>
    exact of_reading (reading.consumed isReady within
      (Endpoint.consumed_framed reading.framed isReady positive within more)) newVouched
  | finished _ isReady _ _ _ finishes =>
    obtain ⟨active, _, _⟩ := Endpoint.consumed_state session.endpoint.reader length
    rcases Endpoint.finishRecord_cases platform (session.endpoint.update (·.consumed length)) with
      ⟨released, releasing, finishEq⟩ | ⟨result, released, releasing, _, finishEq⟩
    · rw [finishes, finishEq] at newVouched ⊢
      exact of_reading (reading.usedUp isReady releasing) newVouched
    · obtain ⟨⟨_, _, releasedEq⟩, recordsEq, _, _⟩ := releasing.exists_reader
      rw [finishes, finishEq]
      refine failed accounted vouched recordsEq ?_ (by decide)
      rw [releasedEq]
      exact active.trans reading.framed.active

end

theorem close
    (accounted : Accounted platform key streamNonce session.fed session.endpoint.history.records)
    (vouched : Vouched platform key streamNonce session.endpoint.history.records session.exposed) :
    (session.call platform .close).2.Trusted platform key := by
  have closing := Endpoint.close_cases platform session.endpoint
  have recordsEq := closing.records
  refine of_stopped closing.stopped (recordsEq ▸ accounted) (recordsEq ▸ vouched)

theorem call (trusted : session.Trusted platform key) (kept : session.endpoint.LeaseKept)
    (call : ReaderCall) : (session.call platform call).2.Trusted platform key := by
  rcases trusted with
    collision | ⟨streamNonce, accounted, vouched, running⟩
  · exact collided collision (call_grows kept call).1
  · have trusted : session.Trusted platform key := .inr ⟨streamNonce, accounted, vouched, running⟩
    by_cases isRunning : session.endpoint.reader.readyState = .ok
    · obtain ⟨reading, nonceEq⟩ := running isRunning
      cases call with
      | feed bytes => exact feed reading nonceEq vouched bytes
      | plaintext => exact plaintext reading accounted nonceEq vouched
      | consume length => exact consume reading accounted nonceEq vouched length
      | finish => exact trusted
      | close => exact close accounted vouched
    · by_cases isClose : call = .close
      · rw [isClose]
        exact close accounted vouched
      rw [call_of_failed isRunning isClose]
      exact trusted

end Trusted

theorem trusted (platform : Platform State) (key : Block UInt8 32) (state : State)
    (calls : List ReaderCall) :
    ((Session.start key state).run platform calls).Trusted platform key := by
  refine (run_invariant (fun session => session.endpoint.LeaseKept ∧
      session.Trusted platform key) ?_ ⟨leaseKept platform key state [], ?_⟩ calls).2
  · intro session call ⟨kept, trusted⟩
    exact ⟨LeaseKept.call kept call, trusted.call kept call⟩
  · exact Trusted.of_reading (Endpoint.Reading.start platform key state) nofun

/-! ## Failures -/

/-- A failed or closed reader holds no key and no plaintext. -/
def Stopped (session : Session State) : Prop :=
  Endpoint.Failed session.endpoint.reader ∨ Endpoint.Closed session.endpoint.reader

namespace Stopped

theorem readyState_ne (stopped : session.Stopped) : session.endpoint.reader.readyState ≠ .ok := by
  rcases stopped with failed | closed
  · rw [failed.readyState]
    exact failed.failure
  rw [closed.readyState]
  decide

theorem wiped (stopped : session.Stopped) : session.endpoint.reader.key = .filled 0 32 ∧
      session.endpoint.reader.window = .filled 0 4096 := by
  rcases stopped with failed | closed
  · exact ⟨failed.key, failed.window⟩
  · exact ⟨closed.key, closed.window⟩

theorem of_readyState (kept : session.endpoint.LeaseKept)
    (stopped : session.endpoint.reader.readyState ≠ .ok) : session.Stopped := by
  cases kept.standing with
  | running framed => exact absurd (Endpoint.readyState_of_framed framed) stopped
  | failed failed => exact .inl failed
  | closed closed => exact .inr closed

/-- Nothing is handed out any more. -/
theorem call (stopped : session.Stopped) (kept : session.endpoint.LeaseKept) (call : ReaderCall) :
    (session.call platform call).2.Stopped ∧
      (session.call platform call).2.exposed = session.exposed := by
  by_cases isClose : call = .close
  · subst isClose
    exact ⟨of_readyState (LeaseKept.call kept _)
      (Endpoint.close_cases platform session.endpoint).stopped, rfl⟩
  rw [call_of_failed stopped.readyState_ne isClose]
  exact ⟨stopped, rfl⟩

/-- Without a close, nothing changes at all. -/
theorem run_eq (stopped : session.Stopped) {calls : List ReaderCall}
    (noClose : ReaderCall.close ∉ calls) : session.run platform calls = session := by
  induction calls with
  | nil => rfl
  | cons call _ ih =>
    rw [List.mem_cons, not_or] at noClose
    have unchanged : session.call platform call = _ :=
      call_of_failed stopped.readyState_ne (Ne.symm noClose.1)
    rw [Session.run, List.foldl_cons, unchanged]
    exact ih noClose.2

end Stopped

/-- A call that fails leaves its result behind. -/
theorem call_result (kept : session.endpoint.LeaseKept)
    {call : ReaderCall} (notFinish : call ≠ .finish) :
    (session.call platform call).1 = .ok ∨ (session.call platform call).1 = .wouldBlock ∨
      (session.call platform call).1 = .invalidArgument ∨
      (session.call platform call).2.endpoint.reader.readyState =
        (session.call platform call).1 := by
  by_cases running : session.endpoint.reader.readyState = .ok
  · have framed := kept.framed running
    cases call with
    | feed bytes =>
      have feeding := Endpoint.feedLoop_cases platform bytes framed
      simp only [Session.call, Endpoint.feed]
      rw [if_neg (by rw [running]; decide)]
      rcases feeding.result framed with ok | blocked | failed
      · exact .inl ok
      · exact .inr (.inl blocked)
      · exact .inr (.inr (.inr failed))
    | plaintext =>
      have handing := Endpoint.plaintext_cases platform session.endpoint
      simp only [Session.call]
      generalize session.endpoint.plaintext platform = outcome at handing ⊢
      cases handing with
      | refused stopped => exact absurd running stopped
      | blocked => exact .inr (.inl rfl)
      | shown | verified => exact .inl rfl
      | rejected _ _ _ _ verified _ fails =>
        obtain ⟨rereads, _⟩ := Endpoint.verify_cases (Nat.min_le_right _ _) verified
        rw [fails]
        refine .inr (.inr (.inr (Endpoint.fail_readyState platform ?_)))
        rw [rereads.reader]
        exact framed.active
    | consume length =>
      have consuming := Endpoint.consumePlaintext_cases platform session.endpoint length
      simp only [Session.call]
      generalize session.endpoint.consumePlaintext platform length = outcome at consuming ⊢
      cases consuming with
      | refused stopped => exact absurd running stopped
      | illegal => exact .inr (.inr (.inl rfl))
      | consumed => exact .inl rfl
      | finished _ _ _ _ _ finishes =>
        obtain ⟨active, _, _⟩ := Endpoint.consumed_state session.endpoint.reader length
        rcases Endpoint.finishRecord_cases platform
            (session.endpoint.update (·.consumed length)) with
          ⟨released, releasing, finishEq⟩ | ⟨result, released, releasing, _, finishEq⟩
        · rw [finishes, finishEq]
          exact .inl rfl
        · obtain ⟨⟨_, _, releasedEq⟩, _⟩ := releasing.exists_reader
          rw [finishes, finishEq]
          refine .inr (.inr (.inr (Endpoint.fail_readyState platform ?_)))
          rw [releasedEq]
          exact active.trans framed.active
    | finish => exact absurd rfl notFinish
    | close =>
      rcases (Endpoint.close_cases platform session.endpoint).result with
        ok | failed
      · exact .inl ok
      · exact .inr (.inr (.inr failed))
  · by_cases isClose : call = .close
    · subst isClose
      rcases (Endpoint.close_cases platform session.endpoint).result with
        ok | failed
      · exact .inl ok
      · exact .inr (.inr (.inr failed))
    · rw [call_of_failed running isClose]
      exact .inr (.inr (.inr rfl))

end Session

end EspFrp.Aead

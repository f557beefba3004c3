import EspFrp.Aead.ReaderSteps

/-!
# Runs of the reader

The calls of the reader interface, what each of them can do, and the three
situations a reader can be in: it runs, it has failed, or it is closed.  A
failed reader holds no key and no plaintext, and only a successful close
leaves that situation.
-/

namespace EspFrp.Aead

open Library

variable {State : Type}

variable {endpoint : Endpoint State} {reader : Reader}

namespace Endpoint

/-! ## Handing out plaintext -/

/-- A pass over the record has filled the window. -/
def filled (endpoint : Endpoint State) (length : Nat) :
    Endpoint State :=
  endpoint.update fun reader => { reader with windowUsed := length, windowOffset := 0 }

/-- The length of the next window. -/
def windowLength (reader : Reader) : Nat := min (reader.plainUsed - reader.plainOffset) 4096

/-- The ways in which `efrp_aead_flash_plaintext` ends. -/
inductive Handing (platform : Platform State) (endpoint : Endpoint State) :
    Result × List UInt8 × Endpoint State → Prop
  | refused (stopped : endpoint.reader.readyState ≠ .ok) :
      Handing platform endpoint (endpoint.reader.readyState, [], endpoint)
  | blocked (running : endpoint.reader.readyState = .ok)
      (notReady : endpoint.reader.ready = false) :
      Handing platform endpoint (.wouldBlock, [], endpoint)
  | shown (running : endpoint.reader.readyState = .ok) (isReady : endpoint.reader.ready = true)
      (holds : endpoint.reader.inMemory = true ∨ endpoint.reader.windowUsed ≠ 0) :
      Handing platform endpoint (.ok, endpoint.reader.showing, endpoint)
  | rejected {result : Result} {ciphertext : List UInt8} {next : Endpoint State}
      {outcome : Result × List UInt8 × Endpoint State}
      (running : endpoint.reader.readyState = .ok)
      (isReady : endpoint.reader.ready = true)
      (inStore : endpoint.reader.inMemory = false)
      (empty : endpoint.reader.windowUsed = 0)
      (verified : endpoint.verify platform endpoint.reader.plainOffset
        (windowLength endpoint.reader) (some endpoint.reader.digest) = (result, ciphertext, next))
      (failed : result ≠ .ok)
      (fails : outcome = ((next.fail platform result).1, [], (next.fail platform result).2)) :
      Handing platform endpoint outcome
  | verified {ciphertext : List UInt8} {next : Endpoint State}
      (running : endpoint.reader.readyState = .ok)
      (isReady : endpoint.reader.ready = true)
      (inStore : endpoint.reader.inMemory = false)
      (empty : endpoint.reader.windowUsed = 0)
      (verified : endpoint.verify platform endpoint.reader.plainOffset
        (windowLength endpoint.reader) (some endpoint.reader.digest) = (.ok, ciphertext, next)) :
      Handing platform endpoint (.ok, (next.filled (windowLength endpoint.reader)).reader.showing,
          next.filled (windowLength endpoint.reader))

theorem plaintext_cases (platform : Platform State) (endpoint : Endpoint State) :
    Handing platform endpoint (endpoint.plaintext platform) := by
  unfold plaintext
  dsimp only
  split
  · rename_i stopped
    exact .refused stopped
  rename_i running
  rw [not_not] at running
  split
  · rename_i notReady
    exact .blocked running (by simpa using notReady)
  rename_i isReady
  have ready : endpoint.reader.ready = true := by simpa using isReady
  split
  · rename_i inMemory
    exact .shown running ready (.inl inMemory)
  rename_i inStore
  rw [Bool.not_eq_true] at inStore
  split
  · rename_i empty
    split
    · rename_i failed
      exact .rejected running ready inStore empty rfl failed rfl
    rename_i succeeded
    rw [not_not] at succeeded
    exact .verified running ready inStore empty (Prod.ext succeeded rfl)
  · rename_i nonempty
    exact .shown running ready (.inr nonempty)

/-- The ways in which `efrp_aead_flash_consume_plaintext` ends. -/
inductive Consuming (platform : Platform State) (endpoint : Endpoint State) (length : Nat) :
    Result × Endpoint State → Prop
  | refused (stopped : endpoint.reader.readyState ≠ .ok) :
      Consuming platform endpoint length (endpoint.reader.readyState, endpoint)
  | illegal (running : endpoint.reader.readyState = .ok)
      (notLegal : ¬(endpoint.reader.ready = true ∧ 0 < length ∧
        length ≤ endpoint.reader.consumable)) :
      Consuming platform endpoint length (.invalidArgument, endpoint)
  | consumed (running : endpoint.reader.readyState = .ok) (isReady : endpoint.reader.ready = true)
      (positive : 0 < length)
      (within : length ≤ endpoint.reader.consumable)
      (more : (endpoint.reader.consumed length).plainOffset ≠
        (endpoint.reader.consumed length).plainUsed) :
      Consuming platform endpoint length (.ok, endpoint.update (·.consumed length))
  | finished {outcome : Result × Endpoint State} (running : endpoint.reader.readyState = .ok)
      (isReady : endpoint.reader.ready = true)
      (positive : 0 < length)
      (within : length ≤ endpoint.reader.consumable)
      (last : (endpoint.reader.consumed length).plainOffset =
        (endpoint.reader.consumed length).plainUsed)
      (finishes : outcome = (endpoint.update (·.consumed length)).finishRecord platform) :
      Consuming platform endpoint length outcome

theorem consumePlaintext_cases (platform : Platform State)
    (endpoint : Endpoint State) (length : Nat) :
    Consuming platform endpoint length (endpoint.consumePlaintext platform length) := by
  unfold consumePlaintext
  dsimp only
  split
  · rename_i stopped
    exact .refused stopped
  rename_i running
  rw [not_not] at running
  split
  · rename_i illegal
    refine .illegal running ?_
    rintro ⟨isReady, positive, within⟩
    rcases illegal with notReady | isZero | empty | large
    · rw [isReady] at notReady
      cases notReady
    · omega
    · have noWindow : endpoint.reader.inMemory = false := by simpa using empty.1
      rw [Reader.consumable, if_neg (by simp [noWindow])] at within
      omega
    · omega
  · rename_i legal
    rw [not_or, not_or, not_or] at legal
    obtain ⟨isReady, _, _, _⟩ := legal
    have ready : endpoint.reader.ready = true := by simpa using isReady
    split
    · rename_i last
      exact .finished running ready (by omega) (by omega) last rfl
    rename_i more
    exact .consumed running ready (by omega) (by omega) more

/-! ## Closing -/

/-- What `efrp_aead_flash_reader_close` wipes first. -/
def unkeyed (endpoint : Endpoint State) : Endpoint State :=
  endpoint.update fun reader => { reader with window := .filled 0 4096, key := .filled 0 32 }

/-- The ways in which `efrp_aead_flash_reader_close` ends. -/
inductive Closing (platform : Platform State)
    (endpoint : Endpoint State) : Result × Endpoint State → Prop
  | inactive (closed : endpoint.reader.active = false) : Closing platform endpoint (.ok, endpoint)
  | closed {next : Endpoint State} (active : endpoint.reader.active = true)
      (releasing : Releasing platform endpoint.unkeyed (.ok, next)) :
      Closing platform endpoint (.ok, next.update fun reader => { window := reader.window })
  | kept {result : Result} {next : Endpoint State} (active : endpoint.reader.active = true)
      (releasing : Releasing platform endpoint.unkeyed (result, next))
      (failed : result ≠ .ok) :
      Closing platform endpoint (.storageError, next.update fun reader =>
          { reader with failure := .storageError })

theorem close_cases (platform : Platform State) (endpoint : Endpoint State) :
    Closing platform endpoint (endpoint.close platform) := by
  unfold close
  split
  · rename_i closed
    exact .inactive (by simpa using closed)
  rename_i isActive
  have active : endpoint.reader.active = true := by simpa using isActive
  have releasing := releaseStore_cases platform endpoint.unkeyed
  dsimp only
  split
  · rename_i next releaseEq
    change releaseStore platform endpoint.unkeyed = _ at releaseEq
    rw [releaseEq] at releasing
    exact .closed active releasing
  · rename_i result next failed releaseEq
    change releaseStore platform endpoint.unkeyed = _ at releaseEq
    rw [releaseEq] at releasing
    exact .kept active releasing failed

/-! ## Failed and closed readers -/

/-- A failed reader holds no key and no plaintext. -/
structure Failed (reader : Reader) : Prop where
  active : reader.active = true
  failure : reader.failure ≠ .ok
  key : reader.key = .filled 0 32
  window : reader.window = .filled 0 4096

/-- A closed reader is zero. -/
structure Closed (reader : Reader) : Prop where
  active : reader.active = false
  leased : reader.leased = false
  key : reader.key = .filled 0 32
  window : reader.window = .filled 0 4096

/-- What releasing the store leaves of the reader. -/
theorem Releasing.exists_reader (releasing : Releasing platform endpoint (result, next)) :
    (∃ leased lease, next.reader = { endpoint.reader with leased := leased, lease := lease }) ∧
      next.history.records = endpoint.history.records ∧
      next.history.incoming = endpoint.history.incoming ∧
      next.history.hashed = endpoint.history.hashed := by
  cases releasing with
  | unleased free | cleared held called | kept held called failed =>
    exact ⟨⟨_, _, rfl⟩, rfl, rfl, rfl⟩

/-- What `fail` leaves behind. -/
theorem fail_spec (platform : Platform State) (endpoint : Endpoint State) (error : Result) :
    (∃ leased lease, (endpoint.fail platform error).2.reader =
        { endpoint.reader.wiped with
          leased := leased
          lease := lease
          failure := (endpoint.fail platform error).1 }) ∧
      (endpoint.fail platform error).2.history.records = endpoint.history.records ∧
      (endpoint.fail platform error).2.history.hashed =
        endpoint.history.hashed := by
  obtain ⟨_, _, releasing, failEq⟩ := fail_eq platform endpoint error
  obtain ⟨⟨leased, lease, nextEq⟩, recordsEq, _, hashedEq⟩ := releasing.exists_reader
  rw [failEq]
  refine ⟨⟨leased, lease, ?_⟩, recordsEq, hashedEq⟩
  simp only [update, nextEq]

theorem fail_failed (platform : Platform State) (active : endpoint.reader.active = true)
    (isError : error ≠ .ok) : Failed (endpoint.fail platform error).2.reader := by
  obtain ⟨⟨_, _, readerEq⟩, _, _⟩ := fail_spec platform endpoint error
  have failure := fail_ne_ok platform endpoint isError
  rw [readerEq]
  exact
    { active := active, failure := failure, key := rfl
      window := rfl }

theorem readyState_of_framed (framed : Framed reader) : reader.readyState = .ok := by
  rw [Reader.readyState, if_pos framed.active, framed.running]

theorem Failed.readyState (failed : Failed reader) : reader.readyState = reader.failure := by
  rw [Reader.readyState, if_pos failed.active]

theorem Closed.readyState (closed : Closed reader) : reader.readyState = .invalidState := by
  rw [Reader.readyState, closed.active]
  rfl

/--
The state in which a step of the feed loop calls `fail`.  The record header,
the answer of the store, the verification or the counter are the reason.
-/
inductive Cause (platform : Platform State)
    (endpoint : Endpoint State) : Endpoint State → Result → Prop
  | oversized {bytes : List UInt8} (afterNonce : 12 ≤ endpoint.reader.nonceUsed)
      (incomplete : endpoint.reader.headerUsed < 4)
      (completes : endpoint.reader.headerUsed + bytes.length = 4)
      (illegal : (endpoint.update (·.addHeader bytes)).announcedSize < tagBytes ∨ rxBytes <
            (endpoint.update (·.addHeader bytes)).announcedSize) :
      Cause platform endpoint (endpoint.update (·.addHeader bytes)) .protocolError
  | exhausted {bytes : List UInt8} (afterNonce : 12 ≤ endpoint.reader.nonceUsed)
      (incomplete : endpoint.reader.headerUsed < 4)
      (completes : endpoint.reader.headerUsed + bytes.length = 4)
      (legal : tagBytes ≤ (endpoint.update (·.addHeader bytes)).announcedSize ∧
          (endpoint.update (·.addHeader bytes)).announcedSize ≤ rxBytes)
      (unavailable : recordAvailable endpoint.reader.nonce endpoint.reader.records = false) :
      Cause platform endpoint (endpoint.update (·.addHeader bytes)) .counterExhausted
  | refused {bytes : List UInt8} {result : Result} {lease : Nat} {state : State}
      (incomplete : endpoint.reader.headerUsed < 4)
      (large : 4096 < (endpoint.update (·.addHeader bytes)).announcedSize - tagBytes)
      (begun : platform.begin endpoint.state = (result, lease, state))
      (unleased : result ≠ .ok ∨ lease = 0) :
      Cause platform endpoint (((endpoint.update (·.addHeader bytes)).announced
          (endpoint.update (·.addHeader bytes)).announcedSize).began result lease state)
        .storageError
  | unwritten {bytes : List UInt8} {result : Result} {state : State}
      (afterHeader : 4 ≤ endpoint.reader.headerUsed)
      (piece : Piece endpoint.reader bytes)
      (early : endpoint.reader.bodyUsed < endpoint.reader.plainLength)
      (inStore : endpoint.reader.inMemory = false)
      (called : platform.write endpoint.state endpoint.reader.lease
        endpoint.reader.bodyUsed bytes = (result, state))
      (failed : result ≠ .ok) :
      Cause platform endpoint (endpoint.called
          (.write endpoint.reader.lease endpoint.reader.bodyUsed bytes.length result) state)
        .storageError
  | rejected {bytes verified : List UInt8} {result : Result} {stored next : Endpoint State}
      (afterHeader : 4 ≤ endpoint.reader.headerUsed)
      (piece : Piece endpoint.reader bytes)
      (completes : endpoint.reader.bodyUsed + bytes.length = endpoint.reader.bodyExpected)
      (storing : Storing platform endpoint bytes (.ok, stored))
      (checked : (stored.update (·.addBody bytes.length)).check platform = (result, verified, next))
      (failed : result ≠ .ok) :
      Cause platform endpoint next result
  | wrapped {bytes verified : List UInt8} {nonce : Block UInt8 12} {stored next : Endpoint State}
      (afterHeader : 4 ≤ endpoint.reader.headerUsed)
      (piece : Piece endpoint.reader bytes)
      (completes : endpoint.reader.bodyUsed + bytes.length = endpoint.reader.bodyExpected)
      (storing : Storing platform endpoint bytes (.ok, stored))
      (checked : (stored.update (·.addBody bytes.length)).check platform = (.ok, verified, next))
      (wraps : nextNonce next.reader.nonce = (false, nonce)) :
      Cause platform endpoint (next.advanced nonce) .counterExhausted
  | unreleased {bytes verified : List UInt8} {nonce : Block UInt8 12}
      {stored next released : Endpoint State} {result : Result}
      (afterHeader : 4 ≤ endpoint.reader.headerUsed)
      (piece : Piece endpoint.reader bytes)
      (completes : endpoint.reader.bodyUsed + bytes.length = endpoint.reader.bodyExpected)
      (storing : Storing platform endpoint bytes (.ok, stored))
      (checked : (stored.update (·.addBody bytes.length)).check platform = (.ok, verified, next))
      (isEmpty : next.reader.plainLength = 0)
      (releasing : Releasing platform ((next.advanced nonce).accepted verified) (result, released))
      (failed : result ≠ .ok) :
      Cause platform endpoint released .storageError

theorem FeedFailure.cause (failure : FeedFailure platform endpoint bytes outcome) :
    ∃ before error, error ≠ .ok ∧ Cause platform endpoint before error ∧
      outcome = before.fail platform error := by
  cases failure with
  | announced afterNonce incomplete completes announcing failed =>
    cases announcing with
    | oversized illegal fails =>
      exact ⟨_, _, by decide, .oversized afterNonce incomplete completes illegal, fails⟩
    | exhausted legal unavailable fails =>
      exact ⟨_, _, by decide, .exhausted afterNonce incomplete completes legal unavailable, fails⟩
    | memory | leased => exact absurd rfl failed
    | refused large begun unleased fails =>
      exact ⟨_, _, by decide, .refused incomplete large begun unleased, fails⟩
  | body afterHeader piece _ storing failed =>
    cases storing with
    | window | written | tag => exact absurd rfl failed
    | unwritten early inStore called unwritten fails =>
      exact ⟨_, _, by decide, .unwritten afterHeader piece early inStore called unwritten, fails⟩
  | completed afterHeader piece completes storing completing failed =>
    cases completing with
    | rejected checked isError fails =>
      exact ⟨_, _, isError, .rejected afterHeader piece completes storing checked isError, fails⟩
    | wrapped checked wraps fails =>
      exact ⟨_, _, by decide, .wrapped afterHeader piece completes storing checked wraps, fails⟩
    | ready => exact absurd rfl failed
    | empty checked _ isEmpty finishes =>
      rcases finishRecord_cases platform _ with
        ⟨released, releasing, finishEq⟩ | ⟨result, released, releasing, isError, finishEq⟩
      · rw [finishEq] at finishes
        exact absurd (congrArg Prod.fst finishes) failed
      · exact ⟨_, _, by decide, .unreleased afterHeader piece completes storing checked
            isEmpty releasing isError, finishes.trans finishEq⟩

/-- The reader is active when a step of the feed loop fails. -/
theorem Cause.active (cause : Cause platform endpoint before error)
    (active : endpoint.reader.active = true) : before.reader.active = true := by
  cases cause with
  | oversized | exhausted | refused | unwritten => exact active
  | rejected _ _ _ storing checked =>
    obtain ⟨_, _, _, _, _, checkedEq⟩ := storing.checked_reader checked
    rw [checkedEq]
    exact active
  | wrapped _ _ _ storing checked =>
    obtain ⟨_, _, _, _, _, checkedEq⟩ := storing.checked_reader checked
    simp only [advanced, update, checkedEq]
    exact active
  | unreleased _ _ _ storing checked _ releasing =>
    obtain ⟨_, _, _, _, _, checkedEq⟩ := storing.checked_reader checked
    obtain ⟨⟨_, _, releasedEq⟩, _⟩ := releasing.exists_reader
    rw [releasedEq]
    simp only [accepted, advanced, update, checkedEq]
    exact active

/-! ## Calls -/

/-- A reader runs, has failed, or is closed. -/
inductive Standing (reader : Reader) : Prop
  | running (framed : Framed reader)
  | failed (failed : Failed reader)
  | closed (closed : Closed reader)

theorem Feeding.standing
    (feeding : Feeding platform endpoint rest outcome) (framed : Framed endpoint.reader) :
    Framed outcome.2.2.reader ∨
      (Failed outcome.2.2.reader ∧ outcome.1 = outcome.2.2.reader.failure) := by
  induction feeding with
  | done | blocked => exact .inl framed
  | step notReady step _ ih => exact ih (step.framed framed notReady)
  | failed _ failure =>
    obtain ⟨_, _, isError, cause, failEq⟩ := failure.cause
    right
    rw [congrArg Prod.fst failEq, congrArg Prod.snd failEq]
    exact ⟨fail_failed platform (cause.active framed.active) isError, rfl⟩

/-- A reader with a record to hand out takes nothing. -/
theorem Feeding.of_ready (feeding : Feeding platform endpoint rest outcome)
    (isReady : endpoint.reader.ready = true) : outcome.2.2 = endpoint := by
  cases feeding with
  | done | blocked => rfl
  | step notReady | failed notReady =>
    rw [isReady] at notReady
    cases notReady

/-- A record that is ready has been announced. -/
theorem Framed.full (framed : Framed reader) (isReady : reader.ready = true) :
    reader.headerUsed = 4 ∧ reader.nonceUsed = 12 := by
  have headerLe := framed.header_le
  have fullHeader : reader.headerUsed = 4 := by
    by_contra early
    obtain ⟨notReady, _⟩ := framed.idle (by omega)
    rw [isReady] at notReady
    cases notReady
  exact ⟨fullHeader, framed.announced fullHeader.ge⟩

theorem consumed_framed (framed : Framed reader) (isReady : reader.ready = true)
    (positive : 0 < length) (within : length ≤ reader.consumable)
    (more : (reader.consumed length).plainOffset ≠ (reader.consumed length).plainUsed) :
    Framed (reader.consumed length) := by
  obtain ⟨fullHeader, fullNonce⟩ := framed.full isReady
  obtain ⟨plainUsed, _⟩ := framed.plain isReady
  unfold Reader.consumed at *
  unfold Reader.consumable at within
  split at more
  · rename_i inMemory
    rw [if_pos inMemory] at within ⊢
    dsimp only at more
    exact Framed.showing framed.active framed.running fullNonce
      fullHeader (framed.size fullHeader) (framed.memory fullHeader)
      isReady ⟨plainUsed, by dsimp only; omega⟩
      (fun inStore => by rw [inMemory] at inStore; cases inStore)
  · rename_i inStore
    rw [if_neg inStore] at within ⊢
    dsimp only at more ⊢
    rw [Bool.not_eq_true] at inStore
    obtain ⟨windowLe, _, _, _⟩ := framed.window isReady inStore
    exact Framed.showing framed.active framed.running fullNonce
      fullHeader (framed.size fullHeader) (framed.memory fullHeader)
      isReady ⟨plainUsed, by dsimp only; omega⟩
      (fun _ => by
        dsimp only
        split
        · exact ⟨Nat.zero_le _, fun _ => rfl, nofun, by omega⟩
        · exact ⟨windowLe, by omega, by omega, by omega⟩)

theorem filled_framed
    (framed : Framed endpoint.reader) (isReady : endpoint.reader.ready = true)
    (verified : endpoint.verify platform endpoint.reader.plainOffset
      (windowLength endpoint.reader) (some endpoint.reader.digest) = (.ok, ciphertext, next)) :
    Framed (next.filled (windowLength endpoint.reader)).reader := by
  obtain ⟨fullHeader, fullNonce⟩ := framed.full isReady
  obtain ⟨plainUsed, plainOffset⟩ := framed.plain isReady
  obtain ⟨rereads, _⟩ := verify_cases (Nat.min_le_right _ _) verified
  obtain ⟨_, _, _, _, nextEq⟩ := rereads.exists_reader
  simp only [filled, update, nextEq]
  refine Framed.showing framed.active framed.running fullNonce fullHeader (framed.size fullHeader)
    (framed.memory fullHeader) isReady ⟨plainUsed, plainOffset⟩ (fun _ => ?_)
  simp only [windowLength]
  omega

/-- A record that is used up leaves a reader between two records. -/
theorem finished_framed (active : endpoint.reader.active = true)
    (running : endpoint.reader.failure = .ok) (nonceLe : endpoint.reader.nonceUsed ≤ 12)
    (releasing : Releasing platform endpoint (.ok, next)) :
    Framed (next.update Reader.resetRecord).reader := by
  obtain ⟨⟨_, nextEq⟩, _⟩ := releasing.ok_eq
  simp only [update, nextEq, Reader.resetRecord]
  exact Framed.between active running nonceLe rfl rfl rfl rfl ⟨rfl, rfl, rfl, rfl⟩

end Endpoint

/-- A call of the reader interface. -/
inductive ReaderCall where
  | feed (bytes : List UInt8)
  | plaintext
  | consume (length : Nat)
  | finish
  | close
deriving DecidableEq, Repr

/-- Plaintext that has been handed out: its record, its place, its bytes. -/
structure Exposure where
  sequence : Nat
  offset : Nat
  bytes : List UInt8
deriving DecidableEq, Repr

/--
A reader in use: the endpoint, the bytes it has consumed, and the plaintext
it has handed out.
-/
structure Session (State : Type) where
  endpoint : Endpoint State
  fed : List UInt8 := []
  exposed : List Exposure := []

namespace Session

/-- A reader right after `efrp_aead_flash_reader_init`. -/
def start (key : Block UInt8 32) (state : State) : Session State where
  endpoint := { reader := (({} : Reader).init key).2, state := state }

/-- One call. -/
def call (platform : Platform State) (session : Session State) : ReaderCall → Result × Session State
  | .feed bytes =>
    let (result, consumed, endpoint) := session.endpoint.feed platform bytes
    (result,
      { session with
        endpoint := endpoint
        fed := session.fed ++ bytes.take consumed })
  | .plaintext =>
    let (result, bytes, endpoint) := session.endpoint.plaintext platform
    (result,
      { session with
        endpoint := endpoint
        exposed :=
          if result = .ok then
            session.exposed ++
              [{ sequence := session.endpoint.reader.recordSequence
                 offset := session.endpoint.reader.plainOffset
                 bytes := bytes }]
          else
            session.exposed })
  | .consume length =>
    let (result, endpoint) := session.endpoint.consumePlaintext platform length
    (result, { session with endpoint := endpoint })
  | .finish => (session.endpoint.finish, session)
  | .close =>
    let (result, endpoint) := session.endpoint.close platform
    (result, { session with endpoint := endpoint })

/-- The session after a sequence of calls. -/
def run (platform : Platform State) (session : Session State)
    (calls : List ReaderCall) : Session State :=
  calls.foldl (fun session call => (session.call platform call).2) session

/-- What every call keeps, a run keeps. -/
theorem run_invariant (Holds : Session State → Prop)
    (step : ∀ session call, Holds session → Holds (session.call platform call).2)
    (holds : Holds session) (calls : List ReaderCall) : Holds (session.run platform calls) := by
  induction calls generalizing session with
  | nil => exact holds
  | cons call _ ih => exact ih (step session call holds)

end Session

end EspFrp.Aead

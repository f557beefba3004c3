import EspFrp.Aead.FlashReader
import EspFrp.Aead.Verification

/-!
# What the reader can do

Every call of the reader is described once, by the ways in which it can end.
Feeding is a sequence of steps, each of which consumes a piece of the input;
it stops when the input is used up, when a record is ready, or with a
failure.
-/

namespace EspFrp.Aead.Endpoint

open Library

variable {State : Type}

/-! ## Releasing the store and failing -/

/-- The ways in which `release_store` ends. -/
inductive Releasing (platform : Platform State)
    (endpoint : Endpoint State) : Result × Endpoint State → Prop
  | unleased (free : endpoint.reader.leased = false) : Releasing platform endpoint (.ok, endpoint)
  | cleared {state : State} (held : endpoint.reader.leased = true) (called :
        platform.clear endpoint.state endpoint.reader.lease = (.ok, state)) :
      Releasing platform endpoint (.ok, (endpoint.called (.clear endpoint.reader.lease .ok)
            state).update fun reader => { reader with leased := false, lease := 0 })
  | kept {result : Result} {state : State} (held : endpoint.reader.leased = true) (called :
        platform.clear endpoint.state endpoint.reader.lease = (result, state))
      (failed : result ≠ .ok) :
      Releasing platform endpoint (.storageError,
          endpoint.called (.clear endpoint.reader.lease result) state)

theorem releaseStore_cases (platform : Platform State) (endpoint : Endpoint State) :
    Releasing platform endpoint (endpoint.releaseStore platform) := by
  unfold releaseStore
  split
  · rename_i free
    exact .unleased (by simpa using free)
  rename_i held
  have isHeld : endpoint.reader.leased = true := by simpa using held
  dsimp only
  split
  · rename_i failed
    exact .kept isHeld rfl failed
  rename_i succeeded
  rw [not_not] at succeeded
  rw [succeeded]
  exact .cleared isHeld (Prod.ext succeeded rfl)

variable {endpoint next : Endpoint State}

/-- A released endpoint has no lease and is otherwise the same. -/
theorem Releasing.ok_eq (releasing : Releasing platform endpoint (.ok, next)) : (∃ lease,
      next.reader = { endpoint.reader with leased := false, lease := lease }) ∧
      next.history.records = endpoint.history.records ∧
      next.history.incoming = endpoint.history.incoming ∧
      next.history.hashed = endpoint.history.hashed := by
  cases releasing with
  | unleased free =>
    refine ⟨⟨endpoint.reader.lease, ?_⟩, rfl, rfl, rfl⟩
    rw [← free]
  | cleared => exact ⟨⟨0, rfl⟩, rfl, rfl, rfl⟩

section

variable (platform : Platform State) (endpoint : Endpoint State)

/-- `fail` releases the store of a wiped reader and records the failure. -/
theorem fail_eq (error : Result) : ∃ released next,
      Releasing platform (endpoint.update Reader.wiped) (released, next) ∧
      endpoint.fail platform error = (if released = .ok then error else .storageError,
          next.update fun reader =>
            { reader with
              failure :=
                if released = .ok then error else .storageError }) :=
  ⟨_, _, releaseStore_cases platform (endpoint.update Reader.wiped), rfl⟩

/-- A failure is never reported as success. -/
theorem fail_ne_ok (isError : error ≠ .ok) : (endpoint.fail platform error).1 ≠ .ok := by
  obtain ⟨_, _, _, failEq⟩ := fail_eq platform endpoint error
  rw [failEq]
  dsimp only
  split
  · exact isError
  · decide

theorem ok_ne_fail {platform : Platform State} {endpoint next : Endpoint State}
    (isError : error ≠ .ok) : (.ok, next) ≠ endpoint.fail platform error :=
  fun fails => fail_ne_ok platform endpoint isError (congrArg Prod.fst fails).symm

/-- The ways in which the end of a record ends. -/
theorem finishRecord_cases : (∃ next, Releasing platform endpoint (.ok, next) ∧
      endpoint.finishRecord platform = (.ok, next.update Reader.resetRecord)) ∨
    (∃ result next, Releasing platform endpoint (result, next) ∧ result ≠ .ok ∧
      endpoint.finishRecord platform = next.fail platform .storageError) := by
  have released := releaseStore_cases platform endpoint
  unfold finishRecord
  split
  · rename_i next isReleased
    rw [isReleased] at released
    exact .inl ⟨next, released, rfl⟩
  rename_i result next failed isReleased
  rw [isReleased] at released
  exact .inr ⟨result, next, released, failed, rfl⟩

end

/-- A record that ends without failure is forgotten. -/
theorem finishRecord_ok (finished : endpoint.finishRecord platform = (.ok, next)) :
    ∃ released, Releasing platform endpoint (.ok, released) ∧
      next = released.update Reader.resetRecord := by
  rcases finishRecord_cases platform endpoint with
    ⟨released, releasing, isFinished⟩ | ⟨result, released, _, _, isFinished⟩
  · rw [isFinished] at finished
    cases finished
    exact ⟨released, releasing, rfl⟩
  · rw [isFinished] at finished
    exact absurd (congrArg Prod.fst finished) (fail_ne_ok _ released (by decide))

/-! ## Verification -/

/--
A pass over the record leaves the reader as it is, apart from the window, the
digest and the counters of passes and bytes.
-/
structure Rereads (before after : Endpoint State) : Prop where
  reader : after.reader =
    { before.reader with
      window := after.reader.window
      digest := after.reader.digest
      flashPasses := after.reader.flashPasses
      flashReadBytes := after.reader.flashReadBytes }
  records : after.history.records = before.history.records
  incoming : after.history.incoming = before.history.incoming
  hashed : before.history.hashed <+: after.history.hashed

theorem Rereads.exists_reader (rereads : Rereads before after) :
    ∃ window digest passes bytes, after.reader =
        { before.reader with
          window := window
          digest := digest
          flashPasses := passes
          flashReadBytes := bytes } := ⟨_, _, _, _, rereads.reader⟩

/-- While a pass runs, only the read counter and the calls change. -/
structure Rereading (before after : Endpoint State) : Prop where
  reader : after.reader = { before.reader with flashReadBytes := after.reader.flashReadBytes }
  records : after.history.records = before.history.records
  incoming : after.history.incoming = before.history.incoming
  hashed : after.history.hashed = before.history.hashed

theorem Rereading.refl (endpoint : Endpoint State) : Rereading endpoint endpoint :=
  ⟨rfl, rfl, rfl, rfl⟩

theorem services_keeps_rereading (platform : Platform State) (before : Endpoint State)
    (limit : Nat) : (services platform).Keeps limit (Rereading before) where
  library := fun _ holds => ⟨holds.reader, holds.records, holds.incoming, holds.hashed⟩
  read := by
    intro context offset length holds _ _
    change Rereading before (readStore platform context offset length).2.2
    unfold readStore
    dsimp only
    split
    · refine ⟨?_, holds.records, holds.incoming, holds.hashed⟩
      simp only [update, called]
      rw [holds.reader]
    · exact ⟨holds.reader, holds.records, holds.incoming, holds.hashed⟩

/-- What a pass over the stored record that succeeds has established. -/
structure Verifies (platform : Platform State) (endpoint : Endpoint State) (offset length : Nat)
    (expected : Option (Block UInt8 32)) (ciphertext : List UInt8)
    (next : Endpoint State) : Prop where
  verified : Verified (services platform)
      (storedRecord endpoint.reader offset length expected) ciphertext
      next.reader.window
  hashed : next.history.hashed = endpoint.history.hashed ++
    [(storedRecord endpoint.reader offset length expected).message ciphertext]
  digest : next.reader.digest =
    if expected.isNone then
      platform.hash ((storedRecord endpoint.reader offset length expected).message ciphertext)
    else
      endpoint.reader.digest

theorem verify_spec (platform : Platform State) (endpoint : Endpoint State) (offset : Nat)
    (fits : length ≤ 4096) (expected : Option (Block UInt8 32)) :
    Rereads endpoint (endpoint.verify platform offset length expected).2.2 ∧
      ((endpoint.verify platform offset length expected).1 = .ok →
        Verifies platform endpoint offset length expected
          (endpoint.verify platform offset length expected).2.1
          (endpoint.verify platform offset length expected).2.2) := by
  have reread : Rereading endpoint (cryptoGcmDecryptStore (services platform)
          (storedRecord endpoint.reader offset length expected)
          endpoint.reader.window endpoint).context :=
    (services_keeps_rereading platform endpoint _).cryptoGcmDecryptStore (Rereading.refl endpoint) _
  have verified := fun succeeded =>
    @cryptoGcmDecryptStore_ok _ _ endpoint (storedRecord endpoint.reader offset length expected)
      (services platform) endpoint.reader.window fits succeeded
  unfold verify
  dsimp only
  split
  · rename_i succeeded
    obtain ⟨isVerified, digestEq⟩ := verified succeeded
    refine ⟨⟨?_, reread.records, reread.incoming, ?_⟩, fun _ =>
      { verified := isVerified, hashed := ?_, digest := ?_ }⟩
    · simp only [update]
      rw [reread.reader]
    · simp only [update, reread.hashed]
      exact List.prefix_append _ _
    · simp only [update, reread.hashed]
    · simp only [update, digestEq]
      rw [reread.reader]
      rfl
  · rename_i failed
    refine ⟨⟨?_, reread.records, reread.incoming, reread.hashed ▸ List.prefix_rfl⟩,
      fun succeeded => absurd succeeded failed⟩
    simp only [update]
    rw [reread.reader]

theorem verify_cases (fits : length ≤ 4096)
    (verified : endpoint.verify platform offset length expected = (result, ciphertext, next)) :
    Rereads endpoint next ∧ (result = .ok →
        Verifies platform endpoint offset length expected ciphertext next) := by
  have spec := verify_spec platform endpoint offset fits expected
  rwa [verified] at spec

/-- Decryption in the window transforms the whole ciphertext there. -/
theorem decryptWindow_spec (platform : Platform State) (endpoint : Endpoint State) :
    let ciphertext := endpoint.reader.window.slice 0 endpoint.reader.plainLength
    Rereads endpoint (endpoint.decryptWindow platform).2.2 ∧
      (endpoint.decryptWindow platform).2.1 = ciphertext ∧
      (endpoint.decryptWindow platform).2.2.history.hashed = endpoint.history.hashed ∧
      ((endpoint.decryptWindow platform).1 = .ok → platform.gcm.tag endpoint.reader.key
            endpoint.reader.recordNonce endpoint.reader.aad
            ciphertext = endpoint.reader.tag ∧
          (endpoint.decryptWindow platform).2.2.reader.window = endpoint.reader.window.copy 0
              (platform.gcm.decrypt endpoint.reader.key
                endpoint.reader.recordNonce ciphertext)) := by
  intro ciphertext
  have kept : Rereading endpoint (cryptoGcmDecryptChunks (services platform)
        endpoint.reader.key endpoint.reader.recordNonce
        endpoint.reader.aad endpoint.reader.tag endpoint
        ciphertext).2.2 :=
    (services_keeps_rereading platform endpoint
      0).cryptoGcmDecryptChunks (Rereading.refl endpoint) _ _ _ _ _
  have decrypted : (cryptoGcmDecryptChunks (services platform)
        endpoint.reader.key endpoint.reader.recordNonce
        endpoint.reader.aad endpoint.reader.tag endpoint
        ciphertext).1 = .ok →
      platform.gcm.tag endpoint.reader.key endpoint.reader.recordNonce endpoint.reader.aad
          ciphertext = endpoint.reader.tag ∧
        (cryptoGcmDecryptChunks (services platform) endpoint.reader.key endpoint.reader.recordNonce
          endpoint.reader.aad endpoint.reader.tag endpoint
          ciphertext).2.1 =
          platform.gcm.decrypt endpoint.reader.key
            endpoint.reader.recordNonce ciphertext := by
    unfold cryptoGcmDecryptChunks
    split
    · split <;> nofun
    intro succeeded
    have transformed := transformBuffer_ok (platform.gcm.decrypt_streaming _ _)
      (fun _ => Backend.rejected_ne_ok _) succeeded
    rwa [decide_eq_true_iff] at transformed
  refine ⟨⟨?_, kept.records, kept.incoming, kept.hashed ▸ List.prefix_rfl⟩, rfl, kept.hashed, ?_⟩
  · simp only [decryptWindow, update]
    rw [kept.reader]
  · intro succeeded
    obtain ⟨genuine, plaintextEq⟩ := decrypted succeeded
    refine ⟨genuine, ?_⟩
    simp only [decryptWindow, update]
    rw [plaintextEq, kept.reader]

/-! ## The parts of a record -/

/-- The size that the header of a reader announces. -/
def announcedSize (endpoint : Endpoint State) : Nat :=
  BigEndian.ofBytes endpoint.reader.header.cells

/-- The ways in which the start of a record ends. -/
inductive Announcing (platform : Platform State)
    (endpoint : Endpoint State) : Result × Endpoint State → Prop
  | oversized {outcome : Result × Endpoint State} (illegal : endpoint.announcedSize < tagBytes ∨
        rxBytes < endpoint.announcedSize)
      (fails : outcome = endpoint.fail platform .protocolError) :
      Announcing platform endpoint outcome
  | exhausted {outcome : Result × Endpoint State} (legal : tagBytes ≤ endpoint.announcedSize ∧
        endpoint.announcedSize ≤ rxBytes)
      (unavailable : recordAvailable endpoint.reader.nonce endpoint.reader.records = false)
      (fails : outcome = endpoint.fail platform .counterExhausted) :
      Announcing platform endpoint outcome
  | memory (legal : tagBytes ≤ endpoint.announcedSize ∧ endpoint.announcedSize ≤ rxBytes)
      (available : recordAvailable endpoint.reader.nonce endpoint.reader.records = true)
      (small : endpoint.announcedSize - tagBytes ≤ 4096) :
      Announcing platform endpoint (.ok, endpoint.announced endpoint.announcedSize)
  | refused {result : Result} {lease : Nat} {state : State} {outcome : Result × Endpoint State}
      (large : 4096 < endpoint.announcedSize - tagBytes)
      (begun : platform.begin endpoint.state = (result, lease, state))
      (unleased : result ≠ .ok ∨ lease = 0)
      (fails : outcome = ((endpoint.announced endpoint.announcedSize).began result
          lease state).fail platform .storageError) :
      Announcing platform endpoint outcome
  | leased {lease : Nat} {state : State} (legal : tagBytes ≤ endpoint.announcedSize ∧
        endpoint.announcedSize ≤ rxBytes)
      (available : recordAvailable endpoint.reader.nonce endpoint.reader.records = true)
      (large : 4096 < endpoint.announcedSize - tagBytes)
      (begun : platform.begin endpoint.state = (.ok, lease, state))
      (fresh : lease ≠ 0) :
      Announcing platform endpoint (.ok, ((endpoint.announced endpoint.announcedSize).began .ok
            lease state).update fun reader => { reader with leased := true })

theorem announce_cases (platform : Platform State) (endpoint : Endpoint State) :
    Announcing platform endpoint (endpoint.announce platform) := by
  unfold announce
  dsimp only
  split
  · rename_i illegal
    exact .oversized illegal rfl
  rename_i legal
  have within : tagBytes ≤ endpoint.announcedSize ∧ endpoint.announcedSize ≤ rxBytes := by
    simp only [announcedSize]
    omega
  split
  · rename_i unavailable
    exact .exhausted within (by simpa using unavailable) rfl
  rename_i available
  rw [Bool.not_eq_true', Bool.not_eq_false] at available
  split
  · rename_i small
    exact .memory within available (of_decide_eq_true small)
  rename_i large
  have isLarge : 4096 < endpoint.announcedSize - tagBytes := by
    by_contra small
    exact large (decide_eq_true (Nat.le_of_not_lt small))
  split
  · rename_i unleased
    exact .refused isLarge rfl unleased rfl
  rename_i begun
  rw [not_or, not_not] at begun
  rw [begun.1]
  exact .leased within available isLarge (Prod.ext begun.1 rfl) begun.2

/-- What the start of a record without failure does. -/
theorem Announcing.ok_frame (announcing : Announcing platform endpoint (.ok, next)) :
    (∃ leased lease, next.reader =
        { endpoint.reader.announced endpoint.announcedSize with
          leased := leased
          lease := lease }) ∧
      next.history.records = endpoint.history.records ∧ next.history.incoming = [] ∧
      next.history.hashed = endpoint.history.hashed := by
  cases announcing with
  | oversized _ fails | exhausted _ _ fails | refused _ _ _ fails =>
    exact absurd fails (ok_ne_fail (by decide))
  | memory legal available small | leased legal available large begun fresh =>
    exact ⟨⟨_, _, rfl⟩, rfl, rfl, rfl⟩

/-- The ways in which keeping a piece of the body ends. -/
inductive Storing (platform : Platform State) (endpoint : Endpoint State) (bytes : List UInt8) :
    Result × Endpoint State → Prop
  | window (early : endpoint.reader.bodyUsed < endpoint.reader.plainLength)
      (inMemory : endpoint.reader.inMemory = true) :
      Storing platform endpoint bytes (.ok, (endpoint.received bytes).update (·.addWindow bytes))
  | written {state : State} (early : endpoint.reader.bodyUsed < endpoint.reader.plainLength)
      (inStore : endpoint.reader.inMemory = false)
      (called : platform.write endpoint.state endpoint.reader.lease
        endpoint.reader.bodyUsed bytes = (.ok, state)) :
      Storing platform endpoint bytes (.ok, (endpoint.called
            (.write endpoint.reader.lease endpoint.reader.bodyUsed
              bytes.length .ok) state).received bytes)
  | unwritten {result : Result} {state : State} {outcome : Result × Endpoint State}
      (early : endpoint.reader.bodyUsed < endpoint.reader.plainLength)
      (inStore : endpoint.reader.inMemory = false)
      (called : platform.write endpoint.state endpoint.reader.lease
        endpoint.reader.bodyUsed bytes = (result, state))
      (failed : result ≠ .ok)
      (fails : outcome = (endpoint.called (.write endpoint.reader.lease endpoint.reader.bodyUsed
            bytes.length result) state).fail platform .storageError) :
      Storing platform endpoint bytes outcome
  | tag (late : endpoint.reader.plainLength ≤ endpoint.reader.bodyUsed) :
      Storing platform endpoint bytes (.ok, endpoint.update (·.addTag bytes))

theorem storeBody_cases (platform : Platform State) (endpoint : Endpoint State)
    (bytes : List UInt8) : Storing platform endpoint bytes (endpoint.storeBody platform bytes) := by
  unfold storeBody
  dsimp only
  split
  · rename_i early
    split
    · rename_i inMemory
      exact .window early inMemory
    rename_i inStore
    rw [Bool.not_eq_true] at inStore
    split
    · rename_i failed
      exact .unwritten early inStore rfl failed rfl
    rename_i succeeded
    rw [not_not] at succeeded
    rw [succeeded]
    exact .written early inStore (Prod.ext succeeded rfl)
  · rename_i late
    exact .tag (Nat.le_of_not_lt late)

/-- The ways in which the end of a record body ends. -/
inductive Completing (platform : Platform State)
    (endpoint : Endpoint State) : Result × Endpoint State → Prop
  | rejected {result : Result} {verified : List UInt8}
      {next : Endpoint State} {outcome : Result × Endpoint State}
      (checked : endpoint.check platform = (result, verified, next))
      (failed : result ≠ .ok)
      (fails : outcome = next.fail platform result) :
      Completing platform endpoint outcome
  | wrapped {verified : List UInt8} {next : Endpoint State}
      {nonce : Block UInt8 12} {outcome : Result × Endpoint State}
      (checked : endpoint.check platform = (.ok, verified, next))
      (wraps : nextNonce next.reader.nonce = (false, nonce))
      (fails : outcome = (next.advanced nonce).fail platform .counterExhausted) :
      Completing platform endpoint outcome
  | ready {verified : List UInt8} {next : Endpoint State} {nonce : Block UInt8 12}
      (checked : endpoint.check platform = (.ok, verified, next))
      (follows : nextNonce next.reader.nonce = (true, nonce))
      (nonempty : next.reader.plainLength ≠ 0) :
      Completing platform endpoint (.ok,
          ((next.advanced nonce).accepted verified).update fun reader =>
            { reader with ready := true })
  | empty {verified : List UInt8} {next : Endpoint State}
      {nonce : Block UInt8 12} {outcome : Result × Endpoint State}
      (checked : endpoint.check platform = (.ok, verified, next))
      (follows : nextNonce next.reader.nonce = (true, nonce))
      (isEmpty : next.reader.plainLength = 0)
      (finishes : outcome = ((next.advanced nonce).accepted verified).finishRecord platform) :
      Completing platform endpoint outcome

theorem complete_cases (platform : Platform State) (endpoint : Endpoint State) :
    Completing platform endpoint (endpoint.complete platform) := by
  unfold complete
  dsimp only
  split
  · rename_i failed
    exact .rejected rfl failed rfl
  rename_i succeeded
  rw [not_not] at succeeded
  have checked : endpoint.check platform =
        (.ok, (endpoint.check platform).2.1, (endpoint.check platform).2.2) :=
    Prod.ext succeeded rfl
  split
  · rename_i wraps
    exact .wrapped checked (Prod.ext (by simpa using wraps) rfl) rfl
  rename_i follows
  have advances : nextNonce (endpoint.check platform).2.2.reader.nonce = (true, _) :=
    Prod.ext (by simpa using follows) rfl
  split
  · rename_i nonempty
    exact .ready checked advances nonempty
  rename_i isEmpty
  rw [not_not] at isEmpty
  exact .empty checked advances isEmpty rfl

/-! ## Steps of the feed loop -/

/-- A piece of the body lies in the ciphertext or in the tag. -/
def Piece (reader : Reader) (bytes : List UInt8) : Prop :=
  reader.bodyUsed < reader.plainLength → reader.bodyUsed + bytes.length ≤ reader.plainLength

/-- A step of the feed loop that goes on, with the bytes it consumes. -/
inductive FeedStep (platform : Platform State) : Endpoint State → List UInt8 → Endpoint State → Prop
  | nonce {endpoint : Endpoint State} {bytes : List UInt8}
      (within : endpoint.reader.nonceUsed + bytes.length < 12) :
      FeedStep platform endpoint bytes (endpoint.update (·.addNonce bytes))
  | nonceComplete {endpoint : Endpoint State} {bytes : List UInt8}
      (incomplete : endpoint.reader.nonceUsed < 12)
      (completes : endpoint.reader.nonceUsed + bytes.length = 12) :
      FeedStep platform endpoint bytes ((endpoint.update (·.addNonce bytes)).update fun reader =>
          { reader with nonce := reader.streamNonce })
  | header {endpoint : Endpoint State} {bytes : List UInt8}
      (afterNonce : 12 ≤ endpoint.reader.nonceUsed)
      (within : endpoint.reader.headerUsed + bytes.length < 4) :
      FeedStep platform endpoint bytes (endpoint.update (·.addHeader bytes))
  | announced {endpoint next : Endpoint State} {bytes : List UInt8}
      (afterNonce : 12 ≤ endpoint.reader.nonceUsed)
      (incomplete : endpoint.reader.headerUsed < 4)
      (completes : endpoint.reader.headerUsed + bytes.length = 4)
      (announcing : Announcing platform (endpoint.update (·.addHeader bytes)) (.ok, next)) :
      FeedStep platform endpoint bytes next
  | body {endpoint next : Endpoint State} {bytes : List UInt8}
      (afterHeader : 4 ≤ endpoint.reader.headerUsed)
      (piece : Piece endpoint.reader bytes)
      (within : endpoint.reader.bodyUsed + bytes.length < endpoint.reader.bodyExpected)
      (storing : Storing platform endpoint bytes (.ok, next)) :
      FeedStep platform endpoint bytes (next.update (·.addBody bytes.length))
  | completed {endpoint stored next : Endpoint State} {bytes : List UInt8}
      (afterHeader : 4 ≤ endpoint.reader.headerUsed)
      (piece : Piece endpoint.reader bytes)
      (completes : endpoint.reader.bodyUsed + bytes.length = endpoint.reader.bodyExpected)
      (storing : Storing platform endpoint bytes (.ok, stored))
      (completing : Completing platform (stored.update (·.addBody bytes.length)) (.ok, next)) :
      FeedStep platform endpoint bytes next

/-- A step of the feed loop that fails, with the bytes it consumes. -/
inductive FeedFailure (platform : Platform State) :
    Endpoint State → List UInt8 → Result × Endpoint State → Prop
  | announced {endpoint next : Endpoint State} {bytes : List UInt8} {result : Result}
      (afterNonce : 12 ≤ endpoint.reader.nonceUsed)
      (incomplete : endpoint.reader.headerUsed < 4)
      (completes : endpoint.reader.headerUsed + bytes.length = 4)
      (announcing : Announcing platform (endpoint.update (·.addHeader bytes)) (result, next))
      (failed : result ≠ .ok) :
      FeedFailure platform endpoint bytes (result, next)
  | body {endpoint next : Endpoint State} {bytes : List UInt8} {result : Result}
      (afterHeader : 4 ≤ endpoint.reader.headerUsed)
      (piece : Piece endpoint.reader bytes)
      (within : endpoint.reader.bodyUsed + bytes.length ≤ endpoint.reader.bodyExpected)
      (storing : Storing platform endpoint bytes (result, next))
      (failed : result ≠ .ok) :
      FeedFailure platform endpoint [] (result, next)
  | completed {endpoint stored next : Endpoint State} {bytes : List UInt8} {result : Result}
      (afterHeader : 4 ≤ endpoint.reader.headerUsed)
      (piece : Piece endpoint.reader bytes)
      (completes : endpoint.reader.bodyUsed + bytes.length = endpoint.reader.bodyExpected)
      (storing : Storing platform endpoint bytes (.ok, stored))
      (completing : Completing platform (stored.update (·.addBody bytes.length)) (result, next))
      (failed : result ≠ .ok) :
      FeedFailure platform endpoint bytes (result, next)

/-- The ways in which the feed loop ends. -/
inductive Feeding (platform : Platform State) :
    Endpoint State → List UInt8 → Result × List UInt8 × Endpoint State → Prop
  | done {endpoint : Endpoint State} : Feeding platform endpoint [] (.ok, [], endpoint)
  | blocked {endpoint : Endpoint State} {rest : List UInt8} (isReady : endpoint.reader.ready = true)
      (more : rest ≠ []) :
      Feeding platform endpoint rest (.wouldBlock, rest, endpoint)
  | step {endpoint next : Endpoint State} {bytes rest : List UInt8}
      {outcome : Result × List UInt8 × Endpoint State}
      (notReady : endpoint.reader.ready = false)
      (step : FeedStep platform endpoint bytes next)
      (feeding : Feeding platform next rest outcome) :
      Feeding platform endpoint (bytes ++ rest) outcome
  | failed {endpoint next : Endpoint State} {bytes rest : List UInt8} {result : Result}
      (notReady : endpoint.reader.ready = false)
      (failure : FeedFailure platform endpoint bytes (result, next)) :
      Feeding platform endpoint (bytes ++ rest) (result, rest, next)

/-! ## The frame of a record -/

/-- The bounds that the counters of a reader keep while it runs. -/
structure Framed (reader : Reader) : Prop where
  active : reader.active = true
  running : reader.failure = .ok
  nonce_le : reader.nonceUsed ≤ 12
  header_le : reader.headerUsed ≤ 4
  early : reader.nonceUsed < 12 → reader.headerUsed = 0
  idle : reader.headerUsed < 4 → reader.ready = false ∧ reader.leased = false ∧ reader.bodyUsed = 0
  size : reader.headerUsed = 4 → tagBytes ≤ reader.bodyExpected ∧ reader.bodyExpected ≤ rxBytes
  memory : reader.headerUsed = 4 → reader.inMemory = decide (reader.plainLength ≤ 4096) ∧
      reader.leased = !reader.inMemory
  body : reader.headerUsed = 4 → reader.ready = false → reader.bodyUsed < reader.bodyExpected
  unread : reader.ready = false → reader.plainUsed = 0 ∧ reader.plainOffset = 0 ∧
      reader.windowUsed = 0 ∧ reader.windowOffset = 0
  plain : reader.ready = true → reader.plainUsed = reader.plainLength ∧
      reader.plainOffset < reader.plainUsed
  window : reader.ready = true → reader.inMemory = false → reader.windowUsed ≤ 4096 ∧
      (reader.windowUsed = 0 → reader.windowOffset = 0) ∧
      (reader.windowUsed ≠ 0 → reader.windowOffset < reader.windowUsed) ∧
      reader.plainOffset + (reader.windowUsed - reader.windowOffset) ≤ reader.plainUsed

theorem check_rereads
    (checked : endpoint.check platform = (result, verified, next)) : Rereads endpoint next := by
  have nextEq : next = (endpoint.check platform).2.2 := by rw [checked]
  rw [nextEq]
  unfold check
  split
  · exact (decryptWindow_spec platform endpoint).1
  · exact (verify_spec platform endpoint 0 (Nat.zero_le _) none).1

section

variable {reader : Reader} (active : reader.active = true)
  (running : reader.failure = .ok) (nonce : reader.nonceUsed = 12)
  (header : reader.headerUsed = 4)
  (size : tagBytes ≤ reader.bodyExpected ∧ reader.bodyExpected ≤ rxBytes)
  (memory : reader.inMemory = decide (reader.plainLength ≤ 4096) ∧ reader.leased = !reader.inMemory)
include active running nonce header size memory

/-- A reader that is collecting the body of a record. -/
theorem Framed.collecting (body : reader.bodyUsed < reader.bodyExpected)
    (notReady : reader.ready = false)
    (unread : reader.plainUsed = 0 ∧ reader.plainOffset = 0 ∧
      reader.windowUsed = 0 ∧ reader.windowOffset = 0) :
    Framed reader where
  active := active
  running := running
  nonce_le := Nat.le_of_eq nonce
  header_le := Nat.le_of_eq header
  early := fun early => absurd nonce (Nat.ne_of_lt early)
  idle := fun early => absurd header (Nat.ne_of_lt early)
  size := fun _ => size
  memory := fun _ => memory
  body := fun _ _ => body
  unread := fun _ => unread
  plain := fun isReady => by rw [notReady] at isReady; cases isReady
  window := fun isReady => by rw [notReady] at isReady; cases isReady

/-- A reader with plaintext to hand out. -/
theorem Framed.showing (isReady : reader.ready = true)
    (plain : reader.plainUsed = reader.plainLength ∧
      reader.plainOffset < reader.plainUsed) (window : reader.inMemory = false →
      reader.windowUsed ≤ 4096 ∧ (reader.windowUsed = 0 → reader.windowOffset = 0) ∧
        (reader.windowUsed ≠ 0 → reader.windowOffset < reader.windowUsed) ∧
        reader.plainOffset + (reader.windowUsed - reader.windowOffset) ≤ reader.plainUsed) :
    Framed reader where
  active := active
  running := running
  nonce_le := Nat.le_of_eq nonce
  header_le := Nat.le_of_eq header
  early := fun early => absurd nonce (Nat.ne_of_lt early)
  idle := fun early => absurd header (Nat.ne_of_lt early)
  size := fun _ => size
  memory := fun _ => memory
  body := fun _ notReady => by rw [isReady] at notReady; cases notReady
  unread := fun notReady => by rw [isReady] at notReady; cases notReady
  plain := fun _ => plain
  window := fun _ => window

end

variable {reader : Reader}

/-- A reader between two records. -/
theorem Framed.between
    (active : reader.active = true) (running : reader.failure = .ok)
    (nonce : reader.nonceUsed ≤ 12) (header : reader.headerUsed = 0)
    (notReady : reader.ready = false)
    (unleased : reader.leased = false) (body : reader.bodyUsed = 0)
    (unread : reader.plainUsed = 0 ∧ reader.plainOffset = 0 ∧
      reader.windowUsed = 0 ∧ reader.windowOffset = 0) :
    Framed reader where
  active := active
  running := running
  nonce_le := nonce
  header_le := by omega
  early := fun _ => header
  idle := fun _ => ⟨notReady, unleased, body⟩
  size := fun full => by omega
  memory := fun full => by omega
  body := fun full => by omega
  unread := fun _ => unread
  plain := fun isReady => by rw [notReady] at isReady; cases isReady
  window := fun isReady => by rw [notReady] at isReady; cases isReady

variable {bytes : List UInt8}

/-- What keeping a piece of the body leaves as it is. -/
theorem Storing.ok_frame (storing : Storing platform endpoint bytes (.ok, next)) :
    (∃ window tag, next.reader = { endpoint.reader with window := window, tag := tag }) ∧
      next.history.records = endpoint.history.records ∧
      next.history.hashed = endpoint.history.hashed := by
  cases storing with
  | window early inMemory | written early inStore called | tag late => exact ⟨⟨_, _, rfl⟩, rfl, rfl⟩
  | unwritten _ _ _ _ fails => exact absurd fails (ok_ne_fail (by decide))

/-- The reader after the body of a record has been checked. -/
theorem Storing.checked_reader {stored : Endpoint State} {bytes verified : List UInt8}
    (storing : Storing platform endpoint bytes (.ok, stored))
    (checked : (stored.update (·.addBody bytes.length)).check platform = (result, verified, next)) :
    ∃ window tag digest passes read, next.reader =
        { endpoint.reader with
          bodyUsed := endpoint.reader.bodyUsed + bytes.length
          window := window
          tag := tag
          digest := digest
          flashPasses := passes
          flashReadBytes := read } := by
  obtain ⟨⟨_, tag, storedEq⟩, _, _⟩ := storing.ok_frame
  obtain ⟨window, digest, passes, read, checkedEq⟩ := (check_rereads checked).exists_reader
  refine ⟨window, tag, digest, passes, read, ?_⟩
  rw [checkedEq]
  simp only [update, Reader.addBody, storedEq]

/-- A header is complete only after the stream nonce. -/
theorem Framed.announced (framed : Framed reader)
    (full : 4 ≤ reader.headerUsed) : reader.nonceUsed = 12 := by
  have nonceLe := framed.nonce_le
  by_contra early
  have headerZero := framed.early (by omega)
  omega

/-- The counters of a reader under the steps of the feed loop. -/
theorem FeedStep.framed (step : FeedStep platform endpoint bytes next)
    (framed : Framed endpoint.reader)
    (notReady : endpoint.reader.ready = false) : Framed next.reader := by
  have headerLe := framed.header_le
  have nonceLe := framed.nonce_le
  cases step with
  | nonce within =>
    have headerZero := framed.early (by omega)
    exact
      { framed with
        nonce_le := Nat.le_of_lt within
        early := fun _ => headerZero }
  | nonceComplete incomplete completes =>
    exact
      { framed with
        nonce_le := Nat.le_of_eq completes
        early := fun _ => framed.early incomplete }
  | header afterNonce within =>
    have idle := framed.idle (by omega)
    exact
      { framed with
        header_le := Nat.le_of_lt within
        early := fun early => absurd early (Nat.not_lt.mpr afterNonce)
        idle := fun _ => idle
        size := fun full => absurd full (Nat.ne_of_lt within)
        memory := fun full => absurd full (Nat.ne_of_lt within)
        body := fun full => absurd full (Nat.ne_of_lt within) }
  | announced afterNonce incomplete completes announcing =>
    obtain ⟨_, unleased, bodyZero⟩ := framed.idle incomplete
    have unread := framed.unread notReady
    have headerUsed := completes
    cases announcing with
    | oversized _ fails | exhausted _ _ fails | refused _ _ _ fails =>
      exact absurd fails (ok_ne_fail (by decide))
    | memory legal _ small =>
      have memory : endpoint.reader.leased = !decide ((endpoint.update
              (·.addHeader bytes)).announcedSize - tagBytes ≤ 4096) := by
        rw [unleased, decide_eq_true small]
        rfl
      exact Framed.collecting framed.active framed.running
        (Nat.le_antisymm nonceLe afterNonce) completes legal
        ⟨rfl, memory⟩
        (lt_of_eq_of_lt bodyZero (Nat.lt_of_lt_of_le (by decide) legal.1))
        notReady unread
    | leased legal =>
      have memory : true = !decide ((endpoint.update (·.addHeader bytes)).announcedSize - tagBytes ≤
                4096) := by
        rw [decide_eq_false (by omega)]
        rfl
      exact Framed.collecting framed.active framed.running
        (Nat.le_antisymm nonceLe afterNonce) completes legal
        ⟨rfl, memory⟩
        (lt_of_eq_of_lt bodyZero (Nat.lt_of_lt_of_le (by decide) legal.1))
        notReady unread
  | body afterHeader piece within storing =>
    have afterNonce := framed.announced afterHeader
    have fullHeader := Nat.le_antisymm headerLe afterHeader
    rename_i next
    obtain ⟨⟨_, _, readerEq⟩, _, _⟩ := storing.ok_frame
    change Framed (next.reader.addBody bytes.length)
    rw [readerEq]
    exact Framed.collecting framed.active framed.running afterNonce fullHeader
      (framed.size fullHeader) (framed.memory fullHeader) within notReady (framed.unread notReady)
  | completed afterHeader _ _ storing completing =>
    have afterNonce := framed.announced afterHeader
    have fullHeader := Nat.le_antisymm headerLe afterHeader
    cases completing with
    | rejected _ failed fails => exact absurd fails (ok_ne_fail failed)
    | wrapped _ _ fails => exact absurd fails (ok_ne_fail (by decide))
    | ready checked _ nonempty =>
      obtain ⟨_, _, _, _, _, checkedEq⟩ := storing.checked_reader checked
      have unread := framed.unread notReady
      rw [checkedEq] at nonempty
      simp only [update, accepted, advanced, checkedEq]
      exact Framed.showing framed.active framed.running afterNonce fullHeader
        (framed.size fullHeader) (framed.memory fullHeader) rfl ⟨rfl,
        lt_of_eq_of_lt unread.2.1 (Nat.pos_of_ne_zero nonempty)⟩ (fun _ => by
          rw [unread.2.1, unread.2.2.1, unread.2.2.2]
          exact ⟨Nat.zero_le _, fun _ => rfl, nofun, Nat.zero_le _⟩)
    | empty checked _ _ finishes =>
      obtain ⟨_, _, _, _, _, checkedEq⟩ := storing.checked_reader checked
      obtain ⟨_, releasing, nextEq⟩ := finishRecord_ok finishes.symm
      obtain ⟨⟨_, releasedEq⟩, _⟩ := releasing.ok_eq
      simp only [accepted, advanced, update, checkedEq] at releasedEq
      rw [nextEq]
      simp only [update, releasedEq, Reader.resetRecord]
      exact Framed.between framed.active framed.running nonceLe rfl rfl rfl rfl ⟨rfl, rfl, rfl, rfl⟩

/-! ## The feed loop -/

/--
A part of a turn of the loop leads on: what feeding the rest can end in,
feeding the whole can end in.  The next part starts where `Reached` holds.
-/
def Leads (platform : Platform State) (Reached : Reader → Prop)
    (endpoint : Endpoint State) (rest : List UInt8) :
    Stage State → Prop
  | .proceed next remaining =>
    (∀ outcome, Feeding platform next remaining outcome → Feeding platform endpoint rest outcome) ∧
    Framed next.reader ∧ next.reader.ready = false ∧
    Reached next.reader ∧ remaining.length ≤ rest.length
  | .again next remaining =>
    (∀ outcome, Feeding platform next remaining outcome → Feeding platform endpoint rest outcome) ∧
    Framed next.reader ∧
    (remaining = [] ∨ remaining.length < rest.length)
  | .stop result next remaining => Feeding platform endpoint rest (result, remaining, next)

/-- A step of the loop leads on. -/
theorem FeedStep.feeding {count : Nat} (step : FeedStep platform endpoint (rest.take count) next)
    (notReady : endpoint.reader.ready = false) (outcome : Result × List UInt8 × Endpoint State)
    (feeding : Feeding platform next (rest.drop count) outcome) :
    Feeding platform endpoint rest outcome := by
  have whole := Feeding.step notReady step feeding
  rwa [List.take_append_drop] at whole

theorem FeedFailure.feeding {count : Nat}
    (failure : FeedFailure platform endpoint (rest.take count) (result, next))
    (notReady : endpoint.reader.ready = false) :
    Feeding platform endpoint rest (result, rest.drop count, next) := by
  have whole : Feeding platform endpoint (rest.take count ++ rest.drop count)
      (result, rest.drop count, next) := .failed notReady failure
  rwa [List.take_append_drop] at whole

theorem feedNonce_leads (platform : Platform State) (rest : List UInt8)
    (framed : Framed endpoint.reader) (notReady : endpoint.reader.ready = false) :
    Leads platform (12 ≤ ·.nonceUsed) endpoint rest (endpoint.feedNonce rest) := by
  unfold feedNonce
  split
  · rename_i incomplete
    dsimp only
    generalize countEq : min (12 - endpoint.reader.nonceUsed) rest.length = count
    have takenLength : (rest.take count).length = count := List.length_take_of_le (by omega)
    have nonceUsed : (endpoint.update (·.addNonce (rest.take count))).reader.nonceUsed
          = endpoint.reader.nonceUsed + count := by
      change _ + (rest.take count).length = _
      rw [takenLength]
    rw [nonceUsed]
    split
    · rename_i short
      have step : FeedStep platform endpoint (rest.take count) _ := .nonce (by omega)
      refine ⟨step.feeding notReady, step.framed framed notReady, .inl ?_⟩
      exact List.drop_eq_nil_of_le (by omega)
    · rename_i full
      have step : FeedStep platform endpoint (rest.take count) _ :=
        .nonceComplete incomplete (by omega)
      refine ⟨step.feeding notReady, step.framed framed notReady, notReady, ?_, ?_⟩
      · change 12 ≤ endpoint.reader.nonceUsed + (rest.take count).length
        omega
      · rw [List.length_drop]
        exact Nat.sub_le _ _
  · rename_i full
    exact ⟨fun _ feeding => feeding, framed, notReady, Nat.le_of_not_lt full, Nat.le_refl _⟩

theorem feedHeader_leads (rest : List UInt8) (framed : Framed endpoint.reader)
    (notReady : endpoint.reader.ready = false) (afterNonce : 12 ≤ endpoint.reader.nonceUsed) :
    Leads platform (4 ≤ ·.headerUsed) endpoint rest (endpoint.feedHeader platform rest) := by
  unfold feedHeader
  split
  · rename_i incomplete
    dsimp only
    generalize countEq : min (4 - endpoint.reader.headerUsed) rest.length = count
    have takenLength : (rest.take count).length = count := List.length_take_of_le (by omega)
    have headerUsed : (endpoint.update (·.addHeader (rest.take count))).reader.headerUsed =
          endpoint.reader.headerUsed + count := by
      change _ + (rest.take count).length = _
      rw [takenLength]
    rw [headerUsed]
    split
    · rename_i short
      have step : FeedStep platform endpoint (rest.take count) _ := .header afterNonce (by omega)
      refine ⟨step.feeding notReady, step.framed framed notReady, .inl ?_⟩
      exact List.drop_eq_nil_of_le (by omega)
    · rename_i full
      have announcing := announce_cases platform (endpoint.update (·.addHeader (rest.take count)))
      split
      · rename_i next announceEq
        rw [announceEq] at announcing
        have step : FeedStep platform endpoint (rest.take count) next :=
          .announced afterNonce incomplete (by omega) announcing
        obtain ⟨⟨_, _, nextEq⟩, _⟩ := announcing.ok_frame
        refine ⟨step.feeding notReady, step.framed framed notReady, ?_, ?_, ?_⟩
        · rw [nextEq]
          exact notReady
        · rw [nextEq]
          change 4 ≤ endpoint.reader.headerUsed + (rest.take count).length
          omega
        · rw [List.length_drop]
          exact Nat.sub_le _ _
      · rename_i result next failed announceEq
        rw [announceEq] at announcing
        exact (FeedFailure.announced afterNonce incomplete (by omega)
          announcing failed).feeding notReady
  · rename_i full
    exact ⟨fun _ feeding => feeding, framed, notReady, Nat.le_of_not_lt full, Nat.le_refl _⟩

theorem feedBody_leads (rest : List UInt8) (framed : Framed endpoint.reader)
    (notReady : endpoint.reader.ready = false) (afterHeader : 4 ≤ endpoint.reader.headerUsed) :
    Leads platform (fun _ => False) endpoint rest (endpoint.feedBody platform rest) := by
  have within := framed.body (Nat.le_antisymm framed.header_le afterHeader) notReady
  unfold feedBody
  split
  · rename_i empty
    rw [List.eq_nil_of_length_eq_zero empty]
    exact .done
  rename_i more
  dsimp only
  generalize countEq : (if endpoint.reader.bodyUsed < endpoint.reader.plainLength then
      min (min (endpoint.reader.bodyExpected - endpoint.reader.bodyUsed) rest.length)
        (endpoint.reader.plainLength - endpoint.reader.bodyUsed)
    else
      min (endpoint.reader.bodyExpected - endpoint.reader.bodyUsed) rest.length) = count
  have countLe : count ≤ rest.length ∧ 0 < count ∧ endpoint.reader.bodyUsed + count ≤
        endpoint.reader.bodyExpected := by
    split at countEq <;> omega
  have takenLength := List.length_take_of_le countLe.1
  have piece : Piece endpoint.reader (rest.take count) := by
    intro early
    rw [if_pos early] at countEq
    omega
  have storing := storeBody_cases platform endpoint (rest.take count)
  split
  · rename_i stored storeEq
    rw [storeEq] at storing
    obtain ⟨⟨_, _, storedEq⟩, _, _⟩ := storing.ok_frame
    have bodyUsed : (stored.update (·.addBody count)).reader.bodyUsed =
          endpoint.reader.bodyUsed + count := by
      simp only [update, Reader.addBody, storedEq]
    have bodyExpected : (stored.update (·.addBody count)).reader.bodyExpected =
          endpoint.reader.bodyExpected := by
      simp only [update, Reader.addBody, storedEq]
    rw [bodyUsed, bodyExpected]
    split
    · rename_i short
      have step : FeedStep platform endpoint (rest.take count)
          (stored.update (·.addBody (rest.take count).length)) :=
        .body afterHeader piece (by omega) storing
      rw [takenLength] at step
      refine ⟨step.feeding notReady, step.framed framed notReady, .inr ?_⟩
      rw [List.length_drop]
      omega
    · rename_i full
      have completing := complete_cases platform
        (stored.update (·.addBody (rest.take count).length))
      rw [takenLength] at completing
      split
      · rename_i next completeEq
        rw [completeEq] at completing
        have step : FeedStep platform endpoint (rest.take count)
            next := .completed afterHeader piece (by omega) storing (by rwa [takenLength])
        refine ⟨step.feeding notReady, step.framed framed notReady, .inr ?_⟩
        rw [List.length_drop]
        omega
      · rename_i result next failed completeEq
        rw [completeEq] at completing
        exact (FeedFailure.completed afterHeader piece (by omega)
          storing (by rwa [takenLength]) failed).feeding notReady
  · rename_i result next failed storeEq
    rw [storeEq] at storing
    have whole : Feeding platform endpoint ([] ++ rest) (result, rest, next) :=
      .failed notReady (.body afterHeader piece (by omega) storing failed)
    exact whole

theorem Leads.trans
    (first : ∀ outcome, Feeding platform next remaining outcome →
      Feeding platform endpoint rest outcome)
    (shorter : remaining.length ≤ rest.length)
    (second : Leads platform Reached next remaining stage) :
    Leads platform Reached endpoint rest stage := by
  cases stage with
  | proceed =>
    obtain ⟨leads, framed, notReady, reached, lengthLe⟩ := second
    exact ⟨fun outcome feeding => first _ (leads outcome feeding),
      framed, notReady, reached, lengthLe.trans shorter⟩
  | again =>
    obtain ⟨leads, framed, progress⟩ := second
    exact ⟨fun outcome feeding => first _ (leads outcome feeding),
      framed, progress.imp_right (Nat.lt_of_lt_of_le · shorter)⟩
  | stop => exact first _ second

theorem Leads.of_stopped (leads : Leads platform Reached endpoint rest stage)
    (stopped : ∀ last left, stage = .proceed last left → False) :
    Leads platform Other endpoint rest stage := by
  cases stage with
  | proceed last left => exact (stopped last left rfl).elim
  | again | stop => exact leads

theorem feedOnce_leads (platform : Platform State)
    (framed : Framed endpoint.reader) (more : rest ≠ []) :
    Leads platform (fun _ => False) endpoint rest (endpoint.feedOnce platform rest) := by
  unfold feedOnce
  split
  · rename_i isReady
    exact .blocked isReady more
  rename_i notReady
  rw [Bool.not_eq_true] at notReady
  have nonceLeads := feedNonce_leads platform rest framed notReady
  split
  · rename_i afterNonce nonceRest nonceEq
    rw [nonceEq] at nonceLeads
    obtain ⟨nonceFeeds, nonceFramed, nonceNotReady, nonceDone, nonceLe⟩ := nonceLeads
    refine Leads.trans nonceFeeds nonceLe ?_
    have headerLeads : Leads platform (4 ≤ ·.headerUsed) afterNonce nonceRest
          (afterNonce.feedHeader platform nonceRest) :=
      feedHeader_leads nonceRest nonceFramed nonceNotReady nonceDone
    split
    · rename_i afterHeader headerRest headerEq
      rw [headerEq] at headerLeads
      obtain ⟨headerFeeds, headerFramed, headerNotReady, headerDone, headerLe⟩ := headerLeads
      exact Leads.trans headerFeeds headerLe
        (feedBody_leads headerRest headerFramed headerNotReady headerDone)
    · next stopped => exact headerLeads.of_stopped stopped
  · next stopped => exact nonceLeads.of_stopped stopped

/-- The feed loop of a running reader ends in one of the ways above. -/
theorem feedLoop_cases (platform : Platform State) (rest : List UInt8)
    (framed : Framed endpoint.reader) :
    Feeding platform endpoint rest (endpoint.feedLoop platform rest) := by
  induction length : rest.length using Nat.strong_induction_on generalizing endpoint rest with
  | _ size ih =>
    subst length
    rw [feedLoop]
    split
    · rename_i empty
      rw [List.eq_nil_of_length_eq_zero empty]
      exact .done
    rename_i more
    have nonempty : rest ≠ [] := by
      rintro rfl
      exact more rfl
    have leads := feedOnce_leads platform framed nonempty
    split
    · rename_i next remaining onceEq
      rw [onceEq] at leads
      obtain ⟨_, _, _, impossible, _⟩ := leads
      exact impossible.elim
    · rename_i next remaining onceEq
      rw [onceEq] at leads
      obtain ⟨feeds, nextFramed, progress⟩ := leads
      have shorter : remaining.length < rest.length := by
        rcases progress with rfl | shorter
        · exact Nat.pos_of_ne_zero more
        · exact shorter
      rw [if_pos shorter]
      exact feeds _ (ih _ shorter remaining nextFramed rfl)
    · rename_i result next remaining onceEq
      rw [onceEq] at leads
      exact leads

end EspFrp.Aead.Endpoint

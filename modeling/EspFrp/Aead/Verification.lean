import EspFrp.Aead.Crypto

/-!
# What the back ends guarantee

A verification that succeeds has read one complete ciphertext whose tag is
right, its digest covers that ciphertext, and the window holds the requested
part of the plaintext.  A transformation in place that succeeds has
transformed the whole buffer.  When the library does not fail and the store
reads back a genuine record, both succeed.
-/

namespace EspFrp.Aead

open Library

variable {Context : Type} {capacity : Nat}

variable (transform : List UInt8 → List UInt8) (total : Nat) (onFailure : Status → Result)

/-! ## Verification of a stored record -/

/-- The window of a pass shows what has been decrypted of the ciphertext. -/
structure Pass.Sound (services : Services Context)
    (record : StoredRecord) (pass : Pass Context capacity) : Prop where
  produced_le : pass.produced ≤ pass.ciphertext.length
  length_le : pass.ciphertext.length ≤ record.plainLength
  shows : Shows pass.window record.windowOffset record.windowLength
    ((services.gcm.decrypt record.key record.nonce pass.ciphertext).take pass.produced)

theorem Pass.Sound.start (services : Services Context) (record : StoredRecord) (context : Context)
    (window : Block UInt8 capacity) : (Pass.start context window).Sound services record where
  produced_le := Nat.le_refl 0
  length_le := Nat.zero_le _
  shows := by
    rw [Pass.start, List.take_zero]
    exact Shows.nil _ _ _

variable {context : Context} {services : Services Context}
  {record : StoredRecord} {transfer : Transfer Context}

variable {pass : Pass Context capacity}

theorem Pass.Sound.loop (fits : record.windowLength ≤ capacity)
    (sound : pass.Sound services record) :
    (decryptStoreLoop services record pass).2.Sound services record ∧
      ((decryptStoreLoop services record pass).1 = .ok →
        (decryptStoreLoop services record pass).2.ciphertext.length = record.plainLength) := by
  have streaming := services.gcm.decrypt_streaming record.key record.nonce
  fun_induction decryptStoreLoop services record pass with
  | case1 pass unread taken bytes context readEq ciphertext available
      count next libraryEq accepted ih =>
    have ciphertextLength : ciphertext.length = pass.ciphertext.length + taken := by
      simp only [ciphertext, List.length_append, List.takeD_length]
    have takenLe : taken ≤ record.plainLength - pass.ciphertext.length := Nat.min_le_left _ _
    have producedLe := sound.produced_le
    have countLe := Backend.le_of_accepts accepted (by omega)
    refine ih { produced_le := ?_, length_le := ?_, shows := ?_ }
    · change pass.produced + count ≤ ciphertext.length
      omega
    · change ciphertext.length ≤ record.plainLength
      omega
    · exact streaming.shows_copyWindow sound.shows fits producedLe _ count
  | case2 pass unread | case4 pass unread =>
    exact ⟨⟨sound.produced_le, sound.length_le, sound.shows⟩, nofun⟩
  | case3 _ _ _ _ _ _ _ _ _ _ _ failed =>
    refine ⟨⟨sound.produced_le, sound.length_le, sound.shows⟩, ?_⟩
    intro succeeded
    exact absurd succeeded (Backend.fault_ne_ok _ (fun isSuccess => failed isSuccess))
  | case5 pass =>
    refine ⟨sound, fun _ => ?_⟩
    have lengthLe := sound.length_le
    change pass.ciphertext.length = record.plainLength
    omega

/-- What a verification that succeeds has established. -/
structure Verified (services : Services Context) (record : StoredRecord) (ciphertext : List UInt8)
    (window : Block UInt8 capacity) : Prop where
  length : ciphertext.length = record.plainLength
  tag : services.gcm.tag record.key record.nonce record.aad ciphertext = record.tag
  window : window.slice 0 record.windowLength =
    ((services.gcm.decrypt record.key record.nonce ciphertext).drop
      record.windowOffset).take record.windowLength
  expected : ∀ digest ∈ record.expectedDigest, digest = services.hash (record.message ciphertext)

section

variable {services : Services Context}

theorem Pass.Sound.conclude (fits : record.windowLength ≤ capacity)
    (inside : record.windowOffset + record.windowLength ≤ record.plainLength)
    (sound : pass.Sound services record) (complete : pass.ciphertext.length = record.plainLength)
    (succeeded : (decryptStoreConclude services record pass).1 = .ok) :
    Verified services record (decryptStoreConclude services record pass).2.ciphertext
      (decryptStoreConclude services record pass).2.window := by
  have streaming := services.gcm.decrypt_streaming record.key record.nonce
  have producedLe := sound.produced_le
  revert succeeded
  unfold decryptStoreConclude
  dsimp only
  split
  · rename_i failed
    exact fun succeeded => absurd succeeded (Backend.rejected_ne_ok _ failed)
  rename_i accepted
  rw [not_not, Status.checked_eq_success, decide_eq_true_iff] at accepted
  split
  · nofun
  rename_i counted
  rw [not_not] at counted
  split
  · rename_i failed
    exact fun succeeded => absurd succeeded (Backend.fault_ne_ok _ failed)
  split
  · nofun
  rename_i matching
  intro _
  have shows := streaming.shows_copyWindow sound.shows fits
    producedLe [] (record.plainLength - pass.produced)
  rw [List.append_nil, List.take_of_length_le (by rw [streaming.length]; omega)] at shows
  refine
    { length := complete, tag := accepted.1, window := ?_
      expected := ?_ }
  · rw [counted]
    exact shows.slice_eq (by rw [streaming.length]; omega)
  · intro digest isExpected
    rw [Option.mem_def] at isExpected
    rw [isExpected] at matching
    simpa using matching

variable {window : Block UInt8 capacity}

theorem decryptStorePass_ok (fits : record.windowLength ≤ capacity)
    (inside : record.windowOffset + record.windowLength ≤ record.plainLength)
    (succeeded : (decryptStorePass services record window context).1 = .ok) :
    Verified services record (decryptStorePass services record window context).2.ciphertext
      (decryptStorePass services record window context).2.window := by
  revert succeeded
  unfold decryptStorePass
  dsimp only
  split
  · rename_i failed
    exact fun succeeded => absurd succeeded (Backend.fault_ne_ok _ failed)
  obtain ⟨sound, complete⟩ :=
    (Pass.Sound.start services record (services.library context .setup).2 window).loop fits
  split
  · rename_i pass loopEq
    rw [loopEq] at sound complete
    exact fun succeeded => sound.conclude fits inside (complete rfl) succeeded
  rename_i failed
  exact fun succeeded => (failed _ (Prod.ext succeeded rfl)).elim

theorem Services.cleanup_ok {result : Result}
    (succeeded : (services.cleanup result context).1 = .ok) : result = .ok := by
  revert succeeded
  unfold cleanup
  split
  · exact id
  dsimp only
  split
  · exact id
  · nofun

/-- A verification that succeeds vouches for one complete ciphertext. -/
theorem cryptoGcmDecryptStore_ok (fits : record.windowLength ≤ capacity)
    (succeeded : (cryptoGcmDecryptStore services record window context).result = .ok) :
    Verified services record (cryptoGcmDecryptStore services record window context).ciphertext
        (cryptoGcmDecryptStore services record window context).window ∧
      (cryptoGcmDecryptStore services record window context).digest = services.hash (record.message
            (cryptoGcmDecryptStore services record window context).ciphertext) := by
  revert succeeded
  unfold cryptoGcmDecryptStore
  split
  · nofun
  rename_i legal
  dsimp only
  intro succeeded
  have passed := Services.cleanup_ok succeeded
  rw [if_pos succeeded, if_pos passed]
  exact ⟨decryptStorePass_ok fits (by omega) passed, rfl⟩

end

/-! ## What happens to the context -/

/-- Library calls, and reads below `limit`, keep a property. -/
structure Services.Keeps (services : Services Context) (limit : Nat)
    (Holds : Context → Prop) : Prop where
  library : ∀ {context} call, Holds context → Holds (services.library context call).2
  read : ∀ {context} {offset length : Nat}, Holds context → 0 < length → offset + length ≤ limit →
      Holds (services.read context offset length).2.2

namespace Services.Keeps

variable {services : Services Context} {Holds : Context → Prop}

theorem cleanup (keeps : services.Keeps limit Holds) (result : Result)
    (holds : Holds context) : Holds (services.cleanup result context).2 := by
  unfold Services.cleanup
  split
  · exact holds
  dsimp only
  split <;> exact keeps.library _ holds

theorem read_chunk (keeps : services.Keeps record.plainLength Holds)
    (holds : Holds context) (unread : offset < record.plainLength) :
    Holds (services.read context offset (min (record.plainLength - offset) inputBytes)).2.2 := by
  refine keeps.read holds ?_ ?_ <;>
    simp only [inputBytes] <;> omega

theorem decryptStoreLoop (keeps : services.Keeps record.plainLength Holds)
    (holds : Holds pass.context) : Holds (decryptStoreLoop services record pass).2.context := by
  fun_induction Aead.decryptStoreLoop services record pass with
  | case1 pass unread taken bytes context readEq ciphertext available
      count next libraryEq accepted ih =>
    have readHolds := keeps.read_chunk holds unread
    rw [readEq] at readHolds
    have nextHolds := keeps.library (.update taken available) readHolds
    rw [libraryEq] at nextHolds
    exact ih nextHolds
  | case2 _ unread taken _ _ readEq _ available _ _ libraryEq
  | case3 _ unread taken _ _ readEq _ available _ _ _ _ libraryEq =>
    have readHolds := keeps.read_chunk holds unread
    rw [readEq] at readHolds
    have nextHolds := keeps.library (.update taken available) readHolds
    rwa [libraryEq] at nextHolds
  | case4 _ unread _ _ _ _ _ readEq =>
    have readHolds := keeps.read_chunk holds unread
    rwa [readEq] at readHolds
  | case5 => exact holds

theorem decryptStoreConclude {limit : Nat} (keeps : services.Keeps limit Holds)
    (holds : Holds pass.context) : Holds (decryptStoreConclude services record pass).2.context := by
  have concluded := fun remaining => keeps.library (.conclude remaining) holds
  unfold Aead.decryptStoreConclude
  dsimp only
  split
  · exact concluded _
  split
  · exact concluded _
  split
  · exact keeps.library _ (concluded _)
  · split <;> exact keeps.library _ (concluded _)

theorem decryptStorePass (keeps : services.Keeps record.plainLength Holds)
    (holds : Holds context) (window : Block UInt8 capacity) :
    Holds (decryptStorePass services record window context).2.context := by
  have setup := keeps.library .setup holds
  unfold Aead.decryptStorePass
  dsimp only
  split
  · exact setup
  have looped : Holds (Aead.decryptStoreLoop services record
        (.start (services.library context .setup).2 window)).2.context :=
    keeps.decryptStoreLoop setup
  split
  · rename_i pass loopEq
    rw [loopEq] at looped
    exact keeps.decryptStoreConclude looped
  · exact looped

/-- A verification keeps what its library calls and reads keep. -/
theorem cryptoGcmDecryptStore (keeps : services.Keeps record.plainLength Holds)
    (holds : Holds context) (window : Block UInt8 capacity) :
    Holds (cryptoGcmDecryptStore services record window context).context := by
  unfold Aead.cryptoGcmDecryptStore
  split
  · exact holds
  · exact keeps.cleanup _ (keeps.decryptStorePass holds window)

variable {limit : Nat} (keeps : services.Keeps limit Holds)
include keeps

theorem transformLoop (holds : Holds transfer.context) :
    Holds (transformLoop services transform total transfer).2.context := by
  fun_induction Aead.transformLoop services transform total transfer with
  | case1 _ _ taken _ available _ _ libraryEq _ ih =>
    have nextHolds := keeps.library (.update taken available) holds
    rw [libraryEq] at nextHolds
    exact ih nextHolds
  | case2 transfer unread taken available count next libraryEq
  | case3 _ _ taken available _ _ _ _ libraryEq =>
    have nextHolds := keeps.library (.update taken available) holds
    rwa [libraryEq] at nextHolds
  | case4 => exact holds

/-- A transformation in place keeps what its library calls keep. -/
theorem transformBuffer (genuine : List UInt8 → Bool)
    (holds : Holds context) (buffer : List UInt8) :
    Holds (transformBuffer services transform onFailure genuine context buffer).2.2 := by
  have setup := keeps.library .setup holds
  unfold Aead.transformBuffer
  refine keeps.cleanup _ ?_
  split
  · exact setup
  have looped : Holds (Aead.transformLoop services transform buffer.length
        (.start (services.library context .setup).2 buffer)).2.context :=
    keeps.transformLoop transform _ setup
  split
  · rename_i transfer loopEq
    rw [loopEq] at looped
    unfold transformConclude
    dsimp only
    split
    · exact keeps.library _ looped
    · split <;> exact keeps.library _ looped
  · exact looped

theorem cryptoGcmDecryptChunks (holds : Holds context) (key : Block UInt8 32)
    (nonce : Block UInt8 12) (aad : List UInt8) (tag : Block UInt8 16) (buffer : List UInt8) :
    Holds (cryptoGcmDecryptChunks services key nonce aad tag context buffer).2.2 := by
  unfold Aead.cryptoGcmDecryptChunks
  split
  · split <;> exact holds
  · exact keeps.transformBuffer _ _ _ holds _

end Services.Keeps

/-! ## Transformations in place -/

/--
A transfer of `original` has read a prefix of it and has replaced what it has
produced.
-/
structure Transfer.Sound (transform : List UInt8 → List UInt8)
    (original : List UInt8) (transfer : Transfer Context) : Prop where
  produced_le : transfer.produced ≤ transfer.consumed
  consumed_le : transfer.consumed ≤ original.length
  input_eq : transfer.input = original.take transfer.consumed
  buffer_eq : transfer.buffer = inPlace transform original transfer.input transfer.produced

namespace Transfer.Sound

variable {services : Services Context} {transform : List UInt8 → List UInt8} {original : List UInt8}
  {transfer : Transfer Context}

theorem start (transform : List UInt8 → List UInt8) (context : Context) (original : List UInt8) :
    (Transfer.start context original).Sound transform original where
  produced_le := Nat.le_refl 0
  consumed_le := Nat.zero_le _
  input_eq := (List.take_zero ..).symm
  buffer_eq := (Streaming.inPlace_nil original).symm

theorem input_length (sound : transfer.Sound transform original) :
    transfer.input.length = transfer.consumed := by
  have consumedLe := sound.consumed_le
  rw [sound.input_eq, List.length_take]
  omega

/-- The next piece of the buffer is the next piece of the original. -/
theorem input_append (streaming : Streaming transform)
    (sound : transfer.Sound transform original) (taken : Nat) :
    transfer.input ++ (transfer.buffer.drop transfer.consumed).take taken =
      original.take (transfer.consumed + taken) := by
  have producedLe := sound.produced_le
  rw [sound.buffer_eq, streaming.drop_inPlace (by rw [sound.input_length]; omega)
      producedLe, sound.input_eq, List.take_add]

theorem loop (services : Services Context) (streaming : Streaming transform)
    (sound : transfer.Sound transform original) :
    (transformLoop services transform original.length transfer).2.Sound transform original ∧
      ((transformLoop services transform original.length transfer).1 = .ok →
        (transformLoop services transform original.length
          transfer).2.consumed = original.length) := by
  fun_induction transformLoop services transform original.length transfer with
  | case1 transfer unread taken input available count next libraryEq accepted ih =>
    have takenLe : taken ≤ original.length - transfer.consumed := Backend.updateSize_le _ _
    have producedLe := sound.produced_le
    have countLe := Backend.le_of_accepts accepted (by omega)
    have inputEq := sound.input_append streaming taken
    refine ih
      { produced_le := ?_, consumed_le := ?_, input_eq := inputEq
        buffer_eq := ?_ }
    · change transfer.produced + count ≤ transfer.consumed + taken
      omega
    · change transfer.consumed + taken ≤ original.length
      omega
    · have inputLength : (transfer.input ++ (transfer.buffer.drop transfer.consumed).take
              taken).length = transfer.consumed + taken := by
        rw [sound.input_append streaming, List.length_take]
        omega
      rw [sound.buffer_eq]
      exact streaming.overwrite_inPlace (by rw [sound.input_length]; exact producedLe)
        (by rw [inputLength]; omega)
  | case2 => exact ⟨⟨sound.produced_le, sound.consumed_le, sound.input_eq, sound.buffer_eq⟩, nofun⟩
  | case3 _ _ _ _ _ _ _ failed =>
    refine ⟨⟨sound.produced_le, sound.consumed_le, sound.input_eq, sound.buffer_eq⟩, ?_⟩
    intro succeeded
    exact absurd succeeded (Backend.fault_ne_ok _ (fun isSuccess => failed isSuccess))
  | case4 transfer =>
    refine ⟨sound, fun _ => ?_⟩
    have consumedLe := sound.consumed_le
    change transfer.consumed = original.length
    omega

/-- A transfer that concludes has transformed the whole buffer. -/
theorem conclude (streaming : Streaming transform) (sound : transfer.Sound transform original)
    (complete : transfer.consumed = original.length)
    {onFailure : Status → Result}
    (reported : ∀ status ≠ .success, onFailure status ≠ .ok)
    (succeeded : (transformConclude services transform onFailure genuine
        original.length transfer).1 = .ok) :
    genuine = true ∧ (transformConclude services transform onFailure genuine
        original.length transfer).2.buffer = transform original := by
  have producedLe := sound.produced_le
  revert succeeded
  unfold transformConclude
  dsimp only
  split
  · rename_i failed
    exact fun succeeded => absurd succeeded (reported _ failed)
  rename_i accepted
  rw [not_not, Status.checked_eq_success] at accepted
  split
  · nofun
  rename_i counted
  rw [not_not] at counted
  intro _
  have inputEq : transfer.input = original := by rw [sound.input_eq, complete, List.take_length]
  refine ⟨accepted.1, ?_⟩
  rw [counted, sound.buffer_eq, inputEq]
  exact streaming.overwrite_inPlace_rest (by omega)

end Transfer.Sound

/-- A transformation in place that succeeds transforms the whole buffer. -/
theorem transformBuffer_ok {transform : List UInt8 → List UInt8} (streaming : Streaming transform)
    {onFailure : Status → Result} (reported : ∀ status ≠ .success, onFailure status ≠ .ok)
    {genuine : List UInt8 → Bool} {buffer : List UInt8}
    (succeeded : (transformBuffer services transform onFailure genuine context buffer).1 = .ok) :
    genuine buffer = true ∧ (transformBuffer services transform onFailure genuine context
        buffer).2.1 = transform buffer := by
  revert succeeded
  unfold transformBuffer
  dsimp only
  intro succeeded
  have passed := Services.cleanup_ok succeeded
  revert passed
  split
  · rename_i failed
    exact fun passed => absurd passed (Backend.fault_ne_ok _ failed)
  obtain ⟨sound, complete⟩ :=
    (Transfer.Sound.start transform
      (services.library context .setup).2 buffer).loop services streaming
  split
  · rename_i transfer loopEq
    rw [loopEq] at sound complete
    have inputEq : transfer.input = buffer := by
      rw [sound.input_eq, complete rfl, List.take_length]
    intro passed
    have concluded := sound.conclude streaming (complete rfl) reported passed
    rwa [inputEq] at concluded ⊢
  · rename_i failed
    exact fun passed => (failed _ (Prod.ext passed rfl)).elim

/-! ## Operations that succeed -/

/-- While `Holds`, no library call fails, and every call keeps it. -/
structure Services.Reliable (services : Services Context) (Holds : Context → Prop) : Prop where
  keeps : ∀ {context} call, Holds context → Holds (services.library context call).2
  succeeds : ∀ {context} call, Holds context → (services.library context call).1.status = .success
  update : ∀ {context} {taken available : Nat}, Holds context → taken ≤ available →
      services.backend.accepts taken available
        (services.library context (.update taken available)).1.count = true
  conclude : ∀ {context} {remaining : Nat}, Holds context →
      (services.library context (.conclude remaining)).1.count = remaining

/-- While `Holds`, the store reads back `content`. -/
structure Services.ReadsBack (services : Services Context)
    (Holds : Context → Prop) (content : List UInt8) : Prop where
  keeps : ∀ {context} {offset length : Nat},
    Holds context → 0 < length → offset + length ≤ content.length →
      Holds (services.read context offset length).2.2
  answers : ∀ {context} {offset length : Nat},
    Holds context → 0 < length → offset + length ≤ content.length →
      (services.read context offset length).1 = .ok ∧ (services.read context offset length).2.1 =
          (content.drop offset).take length

/-- Reading the next chunk of the stored bytes. -/
theorem Services.ReadsBack.chunk
    (stored : services.ReadsBack Holds content)
    (holds : Holds context) (follows : before <+: content)
    (unread : before.length < content.length) :
    let taken := min (content.length - before.length) inputBytes
    let answer := services.read context before.length taken
    answer.1 = .ok ∧ Holds answer.2.2 ∧ before ++ answer.2.1.takeD taken 0 <+: content := by
  intro taken answer
  have positive : 0 < taken := by
    simp only [taken, inputBytes]
    omega
  have inside : before.length + taken ≤ content.length := by omega
  obtain ⟨succeeded, bytes⟩ := stored.answers holds positive inside
  refine ⟨succeeded, stored.keeps holds positive inside, ?_⟩
  have bytesLength : ((content.drop before.length).take taken).length = taken := by
    rw [List.length_take, List.length_drop]
    omega
  rw [bytes, List.takeD_eq_take 0 (Nat.le_of_eq bytesLength.symm),
    List.take_take, Nat.min_self, List.prefix_iff_eq_take.mp follows,
    List.length_take, Nat.min_eq_left (by omega), ← List.take_add]
  exact List.take_prefix _ _

theorem Backend.rejected_forged (backend : Backend) :
    backend.rejected .invalidSignature = .authenticationFailed := by
  cases backend <;> rfl

namespace Services.Reliable

variable {services : Services Context} {Holds : Context → Prop}

variable (reliable : services.Reliable Holds)
include reliable

theorem cleanup (result : Result) (holds : Holds context) :
    (services.cleanup result context).1 = result ∧ Holds (services.cleanup result context).2 := by
  unfold Services.cleanup
  split
  · exact ⟨rfl, holds⟩
  dsimp only
  rw [if_pos (reliable.succeeds _ holds)]
  exact ⟨rfl, reliable.keeps _ holds⟩

variable {content : List UInt8}

theorem decryptStoreLoop (stored : services.ReadsBack Holds content)
    (length : content.length = record.plainLength) (holds : Holds pass.context)
    (producedLe : pass.produced ≤ pass.ciphertext.length) (follows : pass.ciphertext <+: content) :
    (decryptStoreLoop services record pass).1 = .ok ∧
      Holds (decryptStoreLoop services record pass).2.context ∧
      (decryptStoreLoop services record pass).2.ciphertext =
        content := by
  fun_induction Aead.decryptStoreLoop services record pass with
  | case1 pass unread taken bytes context readEq ciphertext available
      count next libraryEq accepted ih =>
    obtain ⟨_, readHolds, nextFollows⟩ := stored.chunk holds follows (by omega)
    rw [length, readEq] at readHolds nextFollows
    have nextHolds := reliable.keeps (.update taken available) readHolds
    rw [libraryEq] at nextHolds
    have ciphertextLength : ciphertext.length = pass.ciphertext.length + taken := by
      simp only [ciphertext, List.length_append, List.takeD_length]
    have countLe := Backend.le_of_accepts accepted (by omega)
    refine ih nextHolds ?_ nextFollows
    change pass.produced + count ≤ ciphertext.length
    omega
  | case2 pass _ taken _ _ readEq ciphertext available _ _ libraryEq rejected =>
    obtain ⟨_, readHolds, _⟩ := stored.chunk holds follows (by omega)
    rw [length, readEq] at readHolds
    have ciphertextLength : ciphertext.length = pass.ciphertext.length + taken := by
      simp only [ciphertext, List.length_append, List.takeD_length]
    have accepted := reliable.update readHolds (show taken ≤ available by omega)
    rw [libraryEq] at accepted
    exact absurd accepted rejected
  | case3 _ _ taken _ _ readEq _ available _ _ _ failed libraryEq =>
    obtain ⟨_, readHolds, _⟩ := stored.chunk holds follows (by omega)
    rw [length, readEq] at readHolds
    have succeeded := reliable.succeeds (.update taken available) readHolds
    rw [libraryEq] at succeeded
    exact (failed succeeded).elim
  | case4 _ _ _ _ _ _ failed readEq =>
    obtain ⟨succeeded, _, _⟩ := stored.chunk holds follows (by omega)
    rw [length, readEq] at succeeded
    exact (failed succeeded).elim
  | case5 =>
    have lengthLe := follows.length_le
    exact ⟨rfl, holds, follows.eq_of_length (by omega)⟩

theorem decryptStoreConclude (holds : Holds pass.context)
    (expected : ∀ digest ∈ record.expectedDigest,
      digest = services.hash (record.message pass.ciphertext)) :
    (decryptStoreConclude services record pass).1 =
        (if services.gcm.tag record.key record.nonce record.aad
          pass.ciphertext = record.tag then .ok else .authenticationFailed) ∧
      Holds (decryptStoreConclude services record pass).2.context ∧
      (decryptStoreConclude services record pass).2.ciphertext =
        pass.ciphertext := by
  have concluded := fun remaining => reliable.keeps (.conclude remaining) holds
  have matching : ¬record.expectedDigest.any
        (· ≠ services.hash (record.message pass.ciphertext)) := by
    cases isExpected : record.expectedDigest with
    | none => simp
    | some digest => simp [expected digest isExpected]
  unfold Aead.decryptStoreConclude
  dsimp only
  by_cases genuine : services.gcm.tag record.key record.nonce record.aad
      pass.ciphertext = record.tag
  · rw [if_neg, if_neg, if_neg, if_neg matching, if_pos genuine]
    · exact ⟨rfl, reliable.keeps _ (concluded _), rfl⟩
    · rw [not_not]
      exact reliable.succeeds _ (concluded _)
    · rw [not_not]
      exact reliable.conclude holds
    · rw [not_not, Status.checked_eq_success, decide_eq_true_iff]
      exact ⟨genuine, reliable.succeeds _ holds⟩
  · rw [if_neg genuine, decide_eq_false genuine]
    exact ⟨Backend.rejected_forged _, concluded _, rfl⟩

/-- A record that is read back passes its verification if it is genuine. -/
theorem cryptoGcmDecryptStore (stored : services.ReadsBack Holds content)
    (length : content.length = record.plainLength) (bounded : record.plainLength ≤ maxPlaintext)
    (inside : record.windowOffset + record.windowLength ≤ record.plainLength)
    (expected : ∀ digest ∈ record.expectedDigest, digest = services.hash (record.message content))
    (window : Block UInt8 capacity) (holds : Holds context) :
    (cryptoGcmDecryptStore services record window context).result =
        (if services.gcm.tag record.key record.nonce record.aad content =
          record.tag then .ok else .authenticationFailed) ∧
      Holds (cryptoGcmDecryptStore services record window context).context ∧
      (cryptoGcmDecryptStore services record window context).ciphertext = content := by
  have setup := reliable.keeps .setup holds
  obtain ⟨looped, loopHolds, loopEq⟩ :=
    reliable.decryptStoreLoop stored length (show Holds (Pass.start _ window).context from setup)
      (Nat.le_refl 0) (List.nil_prefix)
  have concluded := reliable.decryptStoreConclude loopHolds (by rw [loopEq]; exact expected)
  have passed : decryptStorePass services record window context =
        Aead.decryptStoreConclude services record (Aead.decryptStoreLoop services record
            (.start (services.library context .setup).2 window)).2 := by
    unfold decryptStorePass
    dsimp only
    rw [if_neg (by rw [not_not]; exact reliable.succeeds _ holds)]
    split
    · rename_i pass isPass
      rw [isPass]
    rename_i failed
    exact (failed _ (Prod.ext looped rfl)).elim
  rw [← passed, loopEq] at concluded
  obtain ⟨succeeded, passHolds, read⟩ := concluded
  unfold Aead.cryptoGcmDecryptStore
  rw [if_neg (by omega)]
  dsimp only
  rw [succeeded]
  exact ⟨(reliable.cleanup _ passHolds).1, (reliable.cleanup _ passHolds).2, read⟩

theorem transformLoop (holds : Holds transfer.context)
    (producedLe : transfer.produced ≤ transfer.consumed) :
    (transformLoop services transform total transfer).1 = .ok ∧
      Holds (transformLoop services transform total transfer).2.context := by
  fun_induction Aead.transformLoop services transform total transfer with
  | case1 transfer unread taken input available count next libraryEq accepted ih =>
    have nextHolds := reliable.keeps (.update taken available) holds
    rw [libraryEq] at nextHolds
    have countLe := Backend.le_of_accepts accepted (by omega)
    refine ih nextHolds ?_
    change transfer.produced + count ≤ transfer.consumed + taken
    omega
  | case2 _ _ taken available _ _ libraryEq rejected =>
    have accepted := reliable.update holds (show taken ≤ available by omega)
    rw [libraryEq] at accepted
    exact absurd accepted rejected
  | case3 _ _ taken available _ _ _ failed libraryEq =>
    have succeeded := reliable.succeeds (.update taken available) holds
    rw [libraryEq] at succeeded
    exact (failed succeeded).elim
  | case4 => exact ⟨rfl, holds⟩

theorem transformConclude (genuine : Bool) (holds : Holds transfer.context) (total : Nat) :
    (transformConclude services transform onFailure genuine total
        transfer).1 = (if genuine then .ok else onFailure .invalidSignature) ∧
      Holds (transformConclude services transform onFailure genuine total transfer).2.context := by
  unfold Aead.transformConclude
  dsimp only
  cases genuine with
  | true =>
    rw [if_neg, if_neg]
    · exact ⟨rfl, reliable.keeps _ holds⟩
    · rw [not_not]
      exact reliable.conclude holds
    · rw [not_not, Status.checked_eq_success]
      exact ⟨rfl, reliable.succeeds _ holds⟩
  | false => exact ⟨rfl, reliable.keeps _ holds⟩

/-- A buffer is transformed if it is genuine. -/
theorem transformBuffer {transform : List UInt8 → List UInt8} (streaming : Streaming transform)
    (onFailure : Status → Result) (genuine : List UInt8 → Bool) (holds : Holds context)
    (buffer : List UInt8) :
    (transformBuffer services transform onFailure genuine context buffer).1 =
        (if genuine buffer then .ok else onFailure .invalidSignature) ∧
      Holds (transformBuffer services transform onFailure genuine context buffer).2.2 := by
  have setup := reliable.keeps .setup holds
  obtain ⟨looped, loopHolds⟩ :=
    reliable.transformLoop transform buffer.length
      (show Holds (Transfer.start _ buffer).context from setup)
      (Nat.le_refl 0)
  obtain ⟨sound, complete⟩ :=
    (Transfer.Sound.start transform
      (services.library context .setup).2 buffer).loop services streaming
  have inputEq := sound.input_eq
  rw [complete looped, List.take_length] at inputEq
  unfold Aead.transformBuffer
  dsimp only
  rw [if_neg (by rw [not_not]; exact reliable.succeeds _ holds)]
  split
  · rename_i transfer loopEq
    rw [loopEq] at inputEq loopHolds
    obtain ⟨ends, concluded⟩ :=
      reliable.transformConclude transform onFailure
        (genuine transfer.input) loopHolds buffer.length
    rw [inputEq] at ends concluded ⊢
    rw [ends]
    exact reliable.cleanup _ concluded
  · rename_i failed
    exact (failed _ (Prod.ext looped rfl)).elim

end Services.Reliable

end EspFrp.Aead

import EspFrp.Aead.Decoding

/-!
# A reader with a faithful store

A reader with a faithful store takes the stream apart as a decoder does that
holds all of it.  It fails where the decoder does, with the same error, and
only after all plaintext ahead of the failure has been consumed.
-/

namespace EspFrp.Aead

open Library

variable {State : Type} {platform : Platform State}
  {Holds : State → Option (Nat × List UInt8) → Prop}

/-! ## Verification with a faithful store -/

namespace Platform.Faithful

theorem reliable (faithful : platform.Faithful Holds) (lease : Nat)
    (held : Option (Nat × List UInt8)) :
    (Endpoint.services platform).Reliable (fun endpoint => endpoint.reader.lease = lease ∧
        Holds endpoint.state held) where
  keeps := fun call holds => ⟨holds.1, (faithful.library call holds.2).2⟩
  succeeds := fun call holds => (faithful.library call holds.2).1
  update := fun holds within => faithful.update holds.2 within
  conclude := fun holds => faithful.conclude holds.2

theorem readsBack (faithful : platform.Faithful Holds) (lease : Nat) (content : List UInt8) :
    (Endpoint.services platform).ReadsBack (fun endpoint => endpoint.reader.lease = lease ∧
        Holds endpoint.state (some (lease, content))) content where
  keeps := by
    rintro endpoint offset length ⟨rfl, holds⟩ _ inside
    obtain ⟨_, readEq, nextHolds⟩ := faithful.read holds inside
    simp only [Endpoint.services, Endpoint.readStore, readEq]
    exact ⟨rfl, nextHolds⟩
  answers := by
    rintro endpoint offset length ⟨rfl, holds⟩ _ inside
    obtain ⟨_, readEq, _⟩ := faithful.read holds inside
    simp only [Endpoint.services, Endpoint.readStore, readEq]
    exact ⟨rfl, rfl⟩

end Platform.Faithful

namespace Endpoint

variable {endpoint : Endpoint State}

/-- A record in the store passes its verification if it is genuine. -/
theorem verify_faithful (faithful : platform.Faithful Holds)
    {content : List UInt8} {offset length : Nat}
    {expected : Option (Block UInt8 32)}
    (holds : Holds endpoint.state (some (endpoint.reader.lease, content)))
    (contentLength : content.length = endpoint.reader.plainLength)
    (bounded : endpoint.reader.plainLength ≤ maxPlaintext)
    (inside : offset + length ≤ endpoint.reader.plainLength)
    (matching : ∀ digest ∈ expected, digest = platform.hash
      ((storedRecord endpoint.reader 0 0 none).message content)) :
    ∃ next, endpoint.verify platform offset length expected =
          (if platform.gcm.tag endpoint.reader.key
              endpoint.reader.recordNonce endpoint.reader.aad content =
                endpoint.reader.tag then .ok else .authenticationFailed,
            content, next) ∧
        Holds next.state (some (endpoint.reader.lease, content)) := by
  have verified :=
    @Services.Reliable.cryptoGcmDecryptStore _ 4096 endpoint
      (storedRecord endpoint.reader offset length expected) _ _
      (faithful.reliable endpoint.reader.lease (some (endpoint.reader.lease, content))) content
      (faithful.readsBack endpoint.reader.lease content)
      contentLength bounded inside matching
      endpoint.reader.window ⟨rfl, holds⟩
  obtain ⟨ends, ⟨_, kept⟩, read⟩ := verified
  unfold verify
  dsimp only
  split
  · next succeeded =>
    rw [succeeded] at ends
    exact ⟨_, Prod.ext ends (Prod.ext read rfl), kept⟩
  · exact ⟨_, Prod.ext ends (Prod.ext read rfl), kept⟩

/-- A record in the window is decrypted if it is genuine. -/
theorem decryptWindow_faithful (faithful : platform.Faithful Holds)
    (holds : Holds endpoint.state held)
    (small : endpoint.reader.plainLength ≤ 4096) :
    let content := endpoint.reader.window.slice 0 endpoint.reader.plainLength
    ∃ next, endpoint.decryptWindow platform = (if platform.gcm.tag endpoint.reader.key
              endpoint.reader.recordNonce endpoint.reader.aad content =
                endpoint.reader.tag then .ok else .authenticationFailed,
            content, next) ∧
        Holds next.state held := by
  intro content
  have length : content.length = _ := endpoint.reader.window.slice_length
    (show 0 + endpoint.reader.plainLength ≤ 4096 by omega)
  have decrypted :=
    @Services.Reliable.transformBuffer _ endpoint _ _
      (faithful.reliable endpoint.reader.lease held) _
      (platform.gcm.decrypt_streaming endpoint.reader.key endpoint.reader.recordNonce)
      platform.backend.rejected
      (fun ciphertext => decide (platform.gcm.tag endpoint.reader.key
        endpoint.reader.recordNonce endpoint.reader.aad ciphertext = endpoint.reader.tag))
      ⟨rfl, holds⟩ content
  obtain ⟨ends, _, kept⟩ := decrypted
  simp only [decide_eq_true_eq, Backend.rejected_forged] at ends
  unfold decryptWindow cryptoGcmDecryptChunks
  dsimp only
  rw [if_neg (by rw [length]; exact Nat.not_lt.mpr small)]
  exact ⟨_, Prod.ext ends rfl, kept⟩

end Endpoint

/-! ## Tracking -/

variable {endpoint : Endpoint State}

/-- What the store holds for a reader. -/
def Endpoint.held (endpoint : Endpoint State) : Option (Nat × List UInt8) :=
  if endpoint.reader.leased then
    some (endpoint.reader.lease,
      if endpoint.reader.ready then
        (endpoint.history.records.getLast?.map Record.verified).getD []
      else
        endpoint.history.incoming)
  else
    none

theorem Endpoint.held_free (free : endpoint.reader.leased = false) : endpoint.held = none := by
  rw [held, free]
  rfl

theorem Endpoint.held_collecting (leased : endpoint.reader.leased = true)
    (notReady : endpoint.reader.ready = false) :
    endpoint.held = some (endpoint.reader.lease, endpoint.history.incoming) := by
  rw [held, leased, notReady]
  rfl

/-- A faithful store releases the lease of a finished record. -/
theorem Endpoint.finishRecord_succeeds (faithful : platform.Faithful Holds)
    {content : List UInt8} (holds : Holds endpoint.state
      (if endpoint.reader.leased then some (endpoint.reader.lease, content)
      else none)) :
    ∃ released, Releasing platform endpoint (.ok, released) ∧ endpoint.finishRecord platform =
        (.ok, released.update Reader.resetRecord) ∧
      released.reader.leased = false ∧ Holds released.state none := by
  rcases finishRecord_cases platform endpoint with
    ⟨released, releasing, finishEq⟩ | ⟨result, released, releasing, failed, finishEq⟩
  · refine ⟨released, releasing, finishEq, ?_⟩
    cases releasing with
    | unleased free =>
      rw [free] at holds
      exact ⟨free, holds⟩
    | cleared leased called =>
      rw [leased] at holds
      obtain ⟨_, clears, kept⟩ := faithful.clear holds
      rw [called] at clears
      cases clears
      exact ⟨rfl, kept⟩
  · cases releasing with
    | unleased | cleared => exact absurd rfl failed
    | kept leased called isError =>
      rw [leased] at holds
      obtain ⟨_, clears, _⟩ := faithful.clear holds
      rw [called] at clears
      exact absurd (congrArg Prod.fst clears) isError

/-- The plaintext of the current record that has not been consumed. -/
def Endpoint.unread (platform : Platform State) (endpoint : Endpoint State) : List UInt8 :=
  if endpoint.reader.ready then
    ((endpoint.history.records.getLast?.map fun record =>
      platform.gcm.decrypt endpoint.reader.key endpoint.reader.recordNonce
        record.verified).getD []).drop endpoint.reader.plainOffset
  else
    []

theorem Endpoint.unread_done (notReady : endpoint.reader.ready = false) :
    endpoint.unread platform = [] := by
  rw [unread, notReady]
  rfl

/-- The plaintexts of the records that have been accepted. -/
def Endpoint.texts (platform : Platform State) (key : Block UInt8 32)
    (endpoint : Endpoint State) : List (List UInt8) :=
  Aead.texts platform key endpoint.reader.streamNonce 0 endpoint.history.records

/-- A running reader, what it has been fed, and what has been consumed. -/
structure Tracking (platform : Platform State) (Holds : State → Option (Nat × List UInt8) → Prop)
    (key : Block UInt8 32) (fed received : List UInt8)
    (endpoint : Endpoint State) : Prop where
  reading : Endpoint.Reading platform key fed endpoint
  records : ∀ record ∈ endpoint.history.records,
    record.verified = record.received ∧ record.received.length ≤ maxPlaintext
  counted : endpoint.reader.records ≤ maxRecords
  available : endpoint.reader.headerUsed = 4 → endpoint.reader.ready = false →
    recordAvailable endpoint.reader.nonce endpoint.reader.records = true
  store : Holds endpoint.state endpoint.held
  delivered : (endpoint.texts platform key).flatten = received ++ endpoint.unread platform

namespace Tracking

section

variable (tracking : Tracking platform Holds key fed received endpoint)
include tracking

/-- Decoding goes through the records that have been accepted. -/
theorem decode (full : endpoint.reader.nonceUsed = 12) (rest : List UInt8) :
    decodeStream platform.gcm key (endpoint.reader.streamNonce.cells ++
        endpoint.history.records.flatMap Record.bytes ++ rest) =
      Prod.map (endpoint.texts platform key ++ ·) id
        (decodeRecords platform.gcm key endpoint.reader.streamNonce
          endpoint.reader.records rest) := by
  have reading := tracking.reading
  have counted := tracking.counted
  have inside := (reading.nonce full).2
  rw [List.append_assoc, decodeStream_nonce, decodeRecords_append, Nat.zero_add, ← reading.records]
  · rfl
  · intro place record found
    obtain ⟨same, small⟩ := tracking.records record (List.mem_of_getElem? found)
    have earlier := (List.getElem?_eq_some_iff.mp found).1
    rw [← reading.records] at earlier
    rw [Nat.zero_add]
    exact ⟨reading.genuine place record found, same, small, by omega, by omega⟩

theorem received_full (full : endpoint.reader.nonceUsed = 12) :
    fed = endpoint.reader.streamNonce.cells ++ endpoint.history.records.flatMap Record.bytes ++
        endpoint.partialRecord := by
  have received := tracking.reading.fed
  rwa [Endpoint.receivedBytes, full, List.take_of_length_le (Block.cells_length _).le] at received

theorem spare (full : endpoint.reader.nonceUsed = 12) :
    recordAvailable endpoint.reader.nonce endpoint.reader.records =
      decide (Spare endpoint.reader.streamNonce endpoint.reader.records) := by
  obtain ⟨nonceEq, inside⟩ := tracking.reading.nonce full
  rw [nonceEq, recordAvailable_nonceAt _ _ _ inside]
  rfl

end

/-! ## Records that are complete -/

/-- A record with its whole body. -/
structure Whole (key : Block UInt8 32) (fed : List UInt8)
    (endpoint whole : Endpoint State) : Prop where
  fed : fed = endpoint.reader.streamNonce.cells ++ endpoint.history.records.flatMap Record.bytes ++
      (whole.reader.header.cells ++ (whole.history.incoming ++ whole.reader.tag.cells))
  keyed : whole.reader.key = key
  nonce : whole.reader.recordNonce = nonceAt endpoint.reader.streamNonce endpoint.reader.records
  aad : whole.reader.aad = endpoint.reader.streamNonce.cells ++ whole.reader.header.cells
  length : whole.history.incoming.length = whole.reader.plainLength
  header : BigEndian.ofBytes whole.reader.header.cells = whole.reader.plainLength + tagBytes
  small : whole.reader.plainLength ≤ maxPlaintext

section

variable (tracking : Tracking platform Holds key fed received endpoint)
  (notReady : endpoint.reader.ready = false)
  (afterHeader : 4 ≤ endpoint.reader.headerUsed)
include tracking notReady afterHeader

theorem whole (piece : Endpoint.Piece endpoint.reader bytes)
    (completes : endpoint.reader.bodyUsed + bytes.length = endpoint.reader.bodyExpected)
    (storing : Endpoint.Storing platform endpoint bytes (.ok, next)) :
    Whole key (fed ++ bytes) endpoint (next.update (·.addBody bytes.length)) := by
  have framed := tracking.reading.framed
  have fullNonce := framed.announced afterHeader
  obtain ⟨least, most⟩ := framed.size (Nat.le_antisymm framed.header_le afterHeader)
  obtain ⟨wholeReady, received, collecting, recordsEq, _⟩ :=
    tracking.reading.bodyStep notReady afterHeader piece completes.le storing
  obtain ⟨_, tag, wholeEq⟩ := storing.kept_reader
  have size := collecting.size
  have incoming := collecting.incoming
  generalize next.update (·.addBody bytes.length) = whole at *
  have used : whole.reader.bodyUsed = endpoint.reader.bodyExpected := by
    rw [wholeEq]
    exact completes
  have expected : whole.reader.bodyExpected =
      endpoint.reader.bodyExpected := by
    rw [wholeEq]
  have plainLength : whole.reader.plainLength + tagBytes =
      endpoint.reader.bodyExpected := by
    rw [Reader.plainLength, expected, Nat.sub_add_cancel least]
  have nonceEq : whole.reader.streamNonce = endpoint.reader.streamNonce := by rw [wholeEq]
  simp only [tagBytes] at plainLength
  simp only [rxBytes] at most
  refine ⟨?_, ?_, ?_, ?_, by omega, (size.symm.trans expected).trans plainLength.symm, ?_⟩
  · have tagFull : whole.reader.bodyUsed - whole.reader.plainLength = 16 := by omega
    have nonceFull : whole.reader.nonceUsed = 12 := by
      rw [wholeEq]
      exact fullNonce
    rw [received, Endpoint.receivedBytes, Endpoint.partialRecord_body
      wholeReady (by rw [wholeEq]; exact afterHeader), tagFull, nonceFull,
      recordsEq, nonceEq, List.take_of_length_le (Block.cells_length _).le,
      List.take_of_length_le (Block.cells_length _).le, List.append_assoc whole.reader.header.cells]
  · rw [wholeEq]
    exact tracking.reading.keyed
  · rw [collecting.nonce, wholeEq]
    exact (tracking.reading.nonce fullNonce).1
  · rw [Reader.aad, nonceEq]
  · simp only [maxPlaintext]
    omega

/-- A lease is held exactly for a record in the store. -/
theorem held_eq : endpoint.held =
      if endpoint.reader.inMemory then none
      else some (endpoint.reader.lease, endpoint.history.incoming) := by
  have framed := tracking.reading.framed
  have leased := (framed.memory (Nat.le_antisymm framed.header_le afterHeader)).2
  rw [Endpoint.held, leased, notReady]
  cases endpoint.reader.inMemory <;> rfl

variable (faithful : platform.Faithful Holds) (piece : Endpoint.Piece endpoint.reader bytes)
include faithful piece

/-- The store accepts the next piece of ciphertext. -/
theorem writes (early : endpoint.reader.bodyUsed < endpoint.reader.plainLength)
    (inStore : endpoint.reader.inMemory = false) :
    ∃ state, platform.write endpoint.state endpoint.reader.lease
          endpoint.reader.bodyUsed bytes = (.ok, state) ∧
        Holds state (some (endpoint.reader.lease, endpoint.history.incoming ++ bytes)) := by
  have framed := tracking.reading.framed
  have fullHeader := Nat.le_antisymm framed.header_le afterHeader
  have holds := tracking.store
  have incoming := (tracking.reading.collecting fullHeader notReady).incoming
  have used : endpoint.history.incoming.length =
      endpoint.reader.bodyUsed := by
    omega
  have size := (framed.size fullHeader).2
  have fits := piece early
  rw [tracking.held_eq notReady afterHeader, inStore] at holds
  rw [← used] at fits ⊢
  refine faithful.write bytes holds (Nat.le_trans fits ?_)
  simp only [rxBytes] at size
  simp only [Reader.plainLength, tagBytes, maxPlaintext]
  omega

/-- The store holds what has arrived. -/
theorem stored (storing : Endpoint.Storing platform endpoint bytes (.ok, next)) :
    let whole := next.update (·.addBody bytes.length)
    whole.held = (if whole.reader.inMemory then none
        else some (whole.reader.lease, whole.history.incoming)) ∧
      Holds whole.state whole.held := by
  intro whole
  have framed := tracking.reading.framed
  have leased := (framed.memory (Nat.le_antisymm framed.header_le afterHeader)).2
  obtain ⟨_, _, wholeEq⟩ := storing.kept_reader
  have heldEq : whole.held =
      if endpoint.reader.inMemory then none
      else some (endpoint.reader.lease, whole.history.incoming) := by
    rw [Endpoint.held, wholeEq]
    rw [leased, notReady]
    cases endpoint.reader.inMemory <;> rfl
  rw [wholeEq]
  refine ⟨heldEq, ?_⟩
  have holds := tracking.store
  rw [tracking.held_eq notReady afterHeader] at holds
  rw [heldEq]
  cases storing with
  | window _ inMemory =>
    rw [if_pos inMemory] at holds ⊢
    exact holds
  | written early inStore called =>
    obtain ⟨_, written, written_holds⟩ :=
      tracking.writes notReady afterHeader faithful piece early inStore
    rw [called] at written
    cases written
    rw [if_neg (by simp [inStore])]
    exact written_holds
  | unwritten _ _ _ _ fails => exact absurd fails (Endpoint.ok_ne_fail (by decide))
  | tag => exact holds

/-- A body that is complete passes its verification if it is genuine. -/
theorem checks (completes : endpoint.reader.bodyUsed + bytes.length = endpoint.reader.bodyExpected)
    (storing : Endpoint.Storing platform endpoint bytes (.ok, next)) :
    let whole := next.update (·.addBody bytes.length)
    ∃ checked, whole.check platform = (if platform.gcm.tag key
              (nonceAt endpoint.reader.streamNonce endpoint.reader.records)
              (endpoint.reader.streamNonce.cells ++
                whole.reader.header.cells) whole.history.incoming =
              whole.reader.tag then .ok else .authenticationFailed,
            whole.history.incoming, checked) ∧
        Holds checked.state whole.held := by
  intro whole
  obtain ⟨_, keyed, nonceEq, aadEq, length, _, small⟩ :=
    tracking.whole notReady afterHeader piece completes storing
  obtain ⟨heldEq, holds⟩ := tracking.stored notReady afterHeader faithful piece storing
  rw [heldEq] at holds ⊢
  rw [← aadEq, ← nonceEq, ← keyed, Endpoint.check]
  split
  · next inMemory =>
    have framed := tracking.reading.framed
    obtain ⟨_, _, collecting, _, _⟩ := tracking.reading.bodyStep notReady
      afterHeader piece completes.le storing
    have sliced := collecting.window inMemory
    obtain ⟨_, _, wholeEq⟩ := storing.kept_reader
    have fits : whole.reader.plainLength ≤ 4096 := by
      have memory := (framed.memory (Nat.le_antisymm framed.header_le afterHeader)).1
      rw [wholeEq] at inMemory ⊢
      exact of_decide_eq_true (memory.symm.trans inMemory)
    rw [if_pos inMemory] at holds
    have decrypted := Endpoint.decryptWindow_faithful faithful holds fits
    rwa [← length, sliced] at decrypted
  · next inStore =>
    rw [if_neg inStore] at holds
    exact Endpoint.verify_faithful faithful holds length small (Nat.zero_le _) nofun

end

/-! ## Feeding -/

/-- A faithful store leaves an error as it is. -/
theorem fail_faithful (faithful : platform.Faithful Holds) (error : Result)
    (holds : endpoint.reader.leased = true → ∃ content, Holds endpoint.state
        (some (endpoint.reader.lease, content))) :
    (endpoint.fail platform error).1 = error := by
  obtain ⟨_, _, releasing, failEq⟩ := Endpoint.fail_eq platform endpoint error
  rw [failEq]
  cases releasing with
  | unleased | cleared => rfl
  | kept held called failed =>
    obtain ⟨_, leased⟩ := holds held
    obtain ⟨_, clears, _⟩ := faithful.clear leased
    exact absurd (congrArg Prod.fst (called.symm.trans clears)) failed

section

variable (tracking : Tracking platform Holds key fed received endpoint)
  (faithful : platform.Faithful Holds)
  (notReady : endpoint.reader.ready = false)
include tracking faithful notReady

/-- The reader accepts a record as it was received. -/
theorem accepts (afterHeader : 4 ≤ endpoint.reader.headerUsed)
    (piece : Endpoint.Piece endpoint.reader bytes)
    (completes : endpoint.reader.bodyUsed + bytes.length =
      endpoint.reader.bodyExpected) {stored : Endpoint State}
    (storing : Endpoint.Storing platform endpoint bytes (.ok, stored)) (checked : (stored.update (·.addBody bytes.length)).check platform =
        (.ok, verified, next)) (nonce : Block UInt8 12) :
    let accepted := (next.advanced nonce).accepted verified
    (∀ record ∈ accepted.history.records, record.verified = record.received ∧
          record.received.length ≤ maxPlaintext) ∧
      accepted.reader.records ≤ maxRecords ∧
      Holds accepted.state (if accepted.reader.leased then
          some (accepted.reader.lease, verified)
        else none) ∧
      accepted.texts platform key = endpoint.texts platform key ++
        [platform.gcm.decrypt accepted.reader.key accepted.reader.recordNonce verified] ∧
      accepted.reader.plainOffset = 0 ∧
      verified.length = next.reader.plainLength := by
  intro accepted
  have framed := tracking.reading.framed
  have fullHeader := Nat.le_antisymm framed.header_le afterHeader
  have spare := of_decide_eq_true ((tracking.spare (framed.announced afterHeader)).symm.trans
      (tracking.available fullHeader notReady))
  obtain ⟨_, checks, kept⟩ := tracking.checks notReady afterHeader faithful piece completes storing
  have rest := (Prod.mk.inj (checked.symm.trans checks)).2
  obtain ⟨rfl, rfl⟩ := Prod.mk.inj rest
  have rereads := Endpoint.check_rereads checked
  obtain ⟨⟨_, _, _, readerEq⟩, recordsEq⟩ := Endpoint.accepted_reader rereads
  obtain ⟨_, keyed, recordNonce, _, length, _, small⟩ :=
    tracking.whole notReady afterHeader piece completes storing
  obtain ⟨_, _, wholeEq⟩ := storing.kept_reader
  have earlier : (stored.update (·.addBody bytes.length)).history.records =
      endpoint.history.records := storing.ok_frame.2.1
  rw [earlier] at recordsEq
  refine ⟨?_, ?_, ?_, ?_, ?_, ?_⟩
  · rw [recordsEq]
    intro record member
    rcases List.mem_append.mp member with old | new
    · exact tracking.records record old
    rw [List.mem_singleton.mp new]
    exact ⟨rfl, length.trans_le small⟩
  · rw [readerEq, wholeEq]
    exact spare.1
  · rw [Endpoint.held, wholeEq, notReady] at kept
    rw [readerEq, wholeEq]
    exact kept
  · have nonceEq : accepted.reader.streamNonce =
        endpoint.reader.streamNonce := by
      rw [readerEq, wholeEq]
    have keyEq := (congrArg Reader.key readerEq).trans keyed
    have recordNonceEq := (congrArg Reader.recordNonce readerEq).trans recordNonce
    rw [Endpoint.texts, recordsEq, nonceEq, texts, List.mapIdx_append,
      keyEq, recordNonceEq, tracking.reading.records]
    simp [Endpoint.texts, texts, Record.plaintext]
  · rw [readerEq, wholeEq]
    exact (framed.unread notReady).2.1
  · rw [rereads.reader]
    exact length

/-- The reader fails where the decoder does, with the same error. -/
theorem failure {outcome : Result × Endpoint State}
    (failure : Endpoint.FeedFailure platform endpoint bytes outcome) (more : List UInt8) :
    decodeStream platform.gcm key (fed ++ bytes ++ more) =
      (endpoint.texts platform key, .failed outcome.1) := by
  have framed := tracking.reading.framed
  have decoded (full : endpoint.reader.nonceUsed = 12) {rest : List UInt8} {error : Result}
      (fails : decodeRecords platform.gcm key endpoint.reader.streamNonce
        endpoint.reader.records rest = ([], .failed error)) :
      decodeStream platform.gcm key (endpoint.reader.streamNonce.cells ++
          endpoint.history.records.flatMap Record.bytes ++ rest) =
        (endpoint.texts platform key, .failed error) := by
    rw [tracking.decode full, fails]
    simp [Prod.map]
  cases failure with
  | announced afterNonce incomplete completes announcing failed =>
    have full := Nat.le_antisymm framed.nonce_le afterNonce
    have free := (framed.idle incomplete).2.1
    have ends (error : Result) : ((endpoint.update (·.addHeader bytes)).fail platform error).1 =
          error :=
      fail_faithful faithful error fun held => absurd (free.symm.trans held) Bool.false_ne_true
    rw [tracking.received_full full, Endpoint.partialRecord_header notReady
      incomplete, List.append_assoc _ _ bytes,
      ← endpoint.reader.header.copy_full completes, List.append_assoc _ _ more]
    refine decoded full ?_
    rw [decodeRecords_header]
    cases announcing with
    | oversized illegal fails =>
      refine (if_pos illegal).trans ?_
      rw [congrArg Prod.fst fails, ends]
    | exhausted legal unavailable fails =>
      have exhausted := (tracking.spare full).symm.trans unavailable
      refine (if_neg (not_or.mpr ⟨legal.1.not_gt, legal.2.not_gt⟩)).trans ?_
      rw [if_pos (of_decide_eq_false exhausted), congrArg Prod.fst fails, ends]
    | memory | leased => exact absurd rfl failed
    | refused _ begun unleased =>
      have holds := tracking.store
      rw [Endpoint.held_free free] at holds
      obtain ⟨_, _, begins, fresh, _⟩ := faithful.begin holds
      cases begun.symm.trans begins
      exact (unleased.elim (fun failed => failed rfl) fresh).elim
  | body afterHeader piece _ storing failed =>
    cases storing with
    | window | written | tag => exact absurd rfl failed
    | unwritten early inStore called unwritten =>
      obtain ⟨_, written, _⟩ := tracking.writes notReady afterHeader faithful piece early inStore
      exact absurd (congrArg Prod.fst (called.symm.trans written)) unwritten
  | completed afterHeader piece completes storing completing failed =>
    have full := framed.announced afterHeader
    have fullHeader := Nat.le_antisymm framed.header_le afterHeader
    have spare := of_decide_eq_true ((tracking.spare full).symm.trans
      (tracking.available fullHeader notReady))
    obtain ⟨_, checks, holds⟩ := tracking.checks notReady afterHeader
      faithful piece completes storing
    cases completing with
    | rejected checked isError fails =>
      have rereads := Endpoint.check_rereads checked
      obtain ⟨resultEq, rest⟩ := Prod.mk.inj (checked.symm.trans checks)
      cases (Prod.mk.inj rest).2
      obtain ⟨shape, _, _, _, length, header, small⟩ :=
        tracking.whole notReady afterHeader piece completes storing
      have forged := mt (fun genuine => resultEq.trans (if_pos genuine)) isError
      rw [if_neg forged] at resultEq
      have ends := fail_faithful faithful .authenticationFailed (fun leased => by
          rw [rereads.reader] at leased ⊢
          rw [Endpoint.held, if_pos leased] at holds
          exact ⟨_, holds⟩)
      rw [congrArg Prod.fst fails, resultEq, ends, shape, List.append_assoc]
      refine decoded full ?_
      simp only [maxPlaintext] at small
      rw [List.append_assoc, List.append_assoc, decodeRecords_header]
      simp only [header, Nat.add_sub_cancel, List.take_left' length, List.drop_left' length,
        List.length_append, length, List.take_left' (Block.cells_length _), Block.cells_length]
      simp only [tagBytes, rxBytes]
      rw [if_neg (by omega), if_neg (not_not.mpr spare), if_neg (by omega),
        if_pos fun same => forged (Block.ext same)]
    | wrapped checked wraps =>
      obtain ⟨_, _, _, _, _, readerEq⟩ := storing.checked_reader checked
      rw [readerEq] at wraps
      rw [(tracking.reading.nonce full).1, nextNonce_nonceAt spare.2] at wraps
      cases wraps
    | ready => exact absurd rfl failed
    | empty checked _ _ finishes =>
      obtain ⟨_, _, finished, _, _⟩ := Endpoint.finishRecord_succeeds faithful
        (tracking.accepts faithful notReady afterHeader piece completes storing checked _).2.2.1
      exact absurd (congrArg Prod.fst (finishes.trans finished)) failed

omit faithful in
/-- What is not complete changes nothing in what has been consumed. -/
theorem keep (reading : Endpoint.Reading platform key (fed ++ bytes) next)
    (records : next.history.records = endpoint.history.records)
    (count : next.reader.records = endpoint.reader.records)
    (nonce : next.reader.streamNonce = endpoint.reader.streamNonce ∨ endpoint.history.records = [])
    (still : next.reader.ready = false)
    (available : next.reader.headerUsed = 4 →
      recordAvailable next.reader.nonce next.reader.records = true)
    (store : Holds next.state next.held) :
    Tracking platform Holds key (fed ++ bytes) received next where
  reading := reading
  records := by
    rw [records]
    exact tracking.records
  counted := count.trans_le tracking.counted
  available := fun full _ => available full
  store := store
  delivered := by
    have same : next.texts platform key = endpoint.texts platform key := by
      rw [Endpoint.texts, Endpoint.texts, records]
      rcases nonce with same | none
      · rw [same]
      rw [none]
      rfl
    rw [same, tracking.delivered, Endpoint.unread_done notReady, Endpoint.unread_done still]

/-- A step of the feed loop. -/
theorem step (step : Endpoint.FeedStep platform endpoint bytes next) :
    Tracking platform Holds key (fed ++ bytes) received next := by
  have reading := tracking.reading.step notReady step
  have framed := tracking.reading.framed
  have store := tracking.store
  have delivered := tracking.delivered
  rw [Endpoint.unread_done notReady, List.append_nil] at delivered
  cases step with
  | nonce within =>
    have early : endpoint.reader.nonceUsed < 12 := by omega
    refine tracking.keep notReady reading rfl rfl
      (.inr (tracking.reading.early early)) notReady ?_ store
    intro full
    cases (framed.early early).symm.trans full
  | nonceComplete early =>
    refine tracking.keep notReady reading rfl rfl
      (.inr (tracking.reading.early early)) notReady ?_ store
    intro full
    cases (framed.early early).symm.trans full
  | header _ within =>
    exact tracking.keep notReady reading rfl rfl (.inl rfl) notReady
      (fun full => absurd full within.ne) store
  | announced _ incomplete _ announcing =>
    have free := (framed.idle incomplete).2.1
    rw [Endpoint.held_free free] at store
    cases announcing with
    | oversized _ fails | exhausted _ _ fails | refused _ _ _ fails =>
      exact absurd fails (Endpoint.ok_ne_fail (by decide))
    | memory _ available =>
      refine tracking.keep notReady reading rfl rfl (.inl rfl) notReady (fun _ => available) ?_
      refine (Endpoint.held_free ?_).symm ▸ store
      exact free
    | leased _ available _ begun =>
      obtain ⟨_, _, begins, _, kept⟩ := faithful.begin store
      cases begun.symm.trans begins
      refine tracking.keep notReady reading rfl rfl (.inl rfl) notReady (fun _ => available) ?_
      refine (Endpoint.held_collecting ?_ ?_).symm ▸ kept
      · rfl
      · exact notReady
  | body afterHeader piece _ storing =>
    obtain ⟨_, _, readerEq⟩ := storing.kept_reader
    have available := tracking.available (Nat.le_antisymm framed.header_le afterHeader) notReady
    refine tracking.keep notReady reading storing.ok_frame.2.1 ?_ (.inl ?_) ?_ (fun _ => ?_)
      (tracking.stored notReady afterHeader faithful piece storing).2
    · rw [readerEq]
    · rw [readerEq]
    · rw [readerEq]
      exact notReady
    · rw [readerEq]
      exact available
  | completed afterHeader piece completes storing completing =>
    cases completing with
    | rejected _ failed fails => exact absurd fails (Endpoint.ok_ne_fail failed)
    | wrapped _ _ fails => exact absurd fails (Endpoint.ok_ne_fail (by decide))
    | @ready _ _ nonce checked =>
      obtain ⟨records, counted, holds, textsEq, offset, _⟩ :=
        tracking.accepts faithful notReady afterHeader piece completes storing checked nonce
      refine ⟨reading, records, counted, fun _ isReady => ?_, ?_, ?_⟩
      · cases isReady
      · simp only [Endpoint.held, Endpoint.update, if_true, Endpoint.accepted, List.getLast?_concat]
        exact holds
      · refine (congrArg List.flatten textsEq).trans ?_
        rw [List.flatten_append, delivered]
        simp only [Endpoint.unread, Endpoint.update, if_true, offset, List.drop_zero]
        simp [Endpoint.accepted]
    | @empty verified checkedAt nonce _ checked _ isEmpty finishes =>
      obtain ⟨records, counted, holds, textsEq, _, length⟩ :=
        tracking.accepts faithful notReady afterHeader piece completes storing checked nonce
      obtain ⟨released, releasing, finished, free, kept⟩ :=
        Endpoint.finishRecord_succeeds faithful holds
      obtain ⟨⟨_, _, readerEq⟩, recordsEq, _, _⟩ := releasing.exists_reader
      cases finishes.trans finished
      have sameTexts : (released.update Reader.resetRecord).texts platform key =
            ((checkedAt.advanced nonce).accepted verified).texts platform
              key := by
        simp only [Endpoint.texts, Endpoint.update, Reader.resetRecord, readerEq, recordsEq]
      have nothing (key nonce) : platform.gcm.decrypt key nonce verified = [] :=
        List.length_eq_zero_iff.mp (((platform.gcm.decrypt_streaming key nonce).length _).trans
            (length.trans isEmpty))
      refine ⟨reading, ?_, ?_, fun full => ?_, ?_, ?_⟩
      · simp only [Endpoint.update, recordsEq]
        exact records
      · simp only [Endpoint.update, Reader.resetRecord, readerEq]
        exact counted
      · cases full
      · refine (Endpoint.held_free ?_).symm ▸ kept
        exact free
      · rw [sameTexts, textsEq, List.flatten_append, delivered, nothing]
        rfl

end

/-- A reader that has failed as the decoder does. -/
structure Halted (platform : Platform State) (key : Block UInt8 32)
    (fed received : List UInt8) (endpoint : Endpoint State) : Prop where
  failed : endpoint.reader.readyState ≠ .ok
  decoded : ∃ plaintexts : List (List UInt8), plaintexts.flatten = received ∧ ∀ more,
      decodeStream platform.gcm key (fed ++ more) = (plaintexts, .failed endpoint.reader.readyState)

section

variable (tracking : Tracking platform Holds key fed received endpoint)
include tracking

/-- The reader reads up to a ready record, or fails as the decoder does. -/
theorem feeding (faithful : platform.Faithful Holds)
    (feeding : Endpoint.Feeding platform endpoint rest outcome) :
    ∃ consumed, rest = consumed ++ outcome.2.1 ∧
      (Tracking platform Holds key (fed ++ consumed) received outcome.2.2 ∧
          (outcome.1 = .ok ∧ outcome.2.1 = [] ∨
            outcome.1 = .wouldBlock ∧ outcome.2.2.reader.ready = true) ∨
        Halted platform key (fed ++ consumed) received outcome.2.2 ∧
          outcome.1 = outcome.2.2.reader.readyState) := by
  induction feeding generalizing fed with
  | done =>
    rw [← List.append_nil fed] at tracking
    exact ⟨[], rfl, .inl ⟨tracking, .inl ⟨rfl, rfl⟩⟩⟩
  | blocked isReady =>
    rw [← List.append_nil fed] at tracking
    exact ⟨[], rfl, .inl ⟨tracking, .inr ⟨rfl, isReady⟩⟩⟩
  | @step _ _ bytes _ _ notReady step _ ih =>
    obtain ⟨consumed, restEq, ends⟩ := ih (tracking.step faithful notReady step)
    rw [List.append_assoc] at ends
    exact ⟨bytes ++ consumed, by rw [restEq, List.append_assoc], ends⟩
  | @failed endpoint _ bytes _ _ notReady failure =>
    refine ⟨bytes, rfl, .inr ?_⟩
    have fails := tracking.failure faithful notReady failure
    have delivered := tracking.delivered
    rw [Endpoint.unread_done notReady, List.append_nil] at delivered
    obtain ⟨before, error, isError, cause, failEq⟩ := failure.cause
    have stays : (before.fail platform error).2.reader.readyState = _ :=
      Endpoint.fail_readyState platform (cause.active tracking.reading.framed.active)
    rw [← failEq] at stays
    refine ⟨⟨?_, _, delivered, ?_⟩, stays.symm⟩
    · rw [stays, failEq]
      exact Endpoint.fail_ne_ok _ _ isError
    · rw [stays]
      exact fails

/-- Between two calls, a reader knows how the stream ends so far. -/
theorem ending (notReady : endpoint.reader.ready = false) : ∃ ending,
      decodeStream platform.gcm key fed = (endpoint.texts platform key, ending) ∧
        (ending = .boundary ∧ endpoint.finish = .ok ∨
          ending = .incomplete ∧ endpoint.finish = .truncated) := by
  have framed := tracking.reading.framed
  have running := Endpoint.readyState_of_framed framed
  have finishes : endpoint.finish =
      if (endpoint.reader.nonceUsed ≠ 0 ∧ endpoint.reader.nonceUsed ≠ 12) ∨
          endpoint.reader.headerUsed ≠ 0 ∨ endpoint.reader.bodyUsed ≠ 0 then
        .truncated else .ok := by
    rw [Endpoint.finish, if_neg (not_not.mpr running), notReady]
    rfl
  rw [finishes]
  by_cases full : endpoint.reader.nonceUsed = 12
  · have decoded (ending : Ending) (rest : decodeRecords platform.gcm key
        endpoint.reader.streamNonce endpoint.reader.records endpoint.partialRecord = ([], ending)) :
        decodeStream platform.gcm key fed = (endpoint.texts platform key, ending) := by
      rw [tracking.received_full full, tracking.decode full, rest]
      simp [Prod.map]
    by_cases incomplete : endpoint.reader.headerUsed < 4
    · have started := Endpoint.partialRecord_header notReady incomplete
      have length : endpoint.partialRecord.length =
          endpoint.reader.headerUsed := by
        rw [started, List.length_take, Block.cells_length]
        omega
      have body := (framed.idle incomplete).2.2
      by_cases none : endpoint.reader.headerUsed = 0
      · refine ⟨_, decoded .boundary ?_, .inl ⟨rfl, if_neg (by omega)⟩⟩
        rw [decodeRecords, if_pos (List.length_eq_zero_iff.mp (length.trans none))]
      refine ⟨_, decoded .incomplete ?_, .inr ⟨rfl, if_pos (by omega)⟩⟩
      rw [decodeRecords, if_neg (List.ne_nil_of_length_pos (by omega)), if_pos (by omega)]
    · have fullHeader : endpoint.reader.headerUsed = 4 := by
        have most := framed.header_le
        omega
      refine ⟨_, decoded .incomplete ?_, .inr ⟨rfl, if_pos (by omega)⟩⟩
      have collecting := tracking.reading.collecting fullHeader notReady
      have incoming := collecting.incoming
      have unfinished := framed.body fullHeader notReady
      obtain ⟨least, most⟩ := framed.size fullHeader
      have plainLength : endpoint.reader.plainLength + tagBytes =
          endpoint.reader.bodyExpected := Nat.sub_add_cancel least
      rw [Endpoint.partialRecord_body notReady fullHeader.ge,
        List.append_assoc, decodeRecords_header, ← collecting.size,
        if_neg (not_or.mpr ⟨least.not_gt, most.not_gt⟩),
        if_neg (not_not.mpr (of_decide_eq_true ((tracking.spare full).symm.trans
          (tracking.available fullHeader notReady)))), if_pos]
      simp only [List.length_append, List.length_take, Block.cells_length]
      omega
  · have most := framed.nonce_le
    have early : endpoint.reader.nonceUsed < 12 := by omega
    have header := framed.early early
    have body := (framed.idle (by omega)).2.2
    have none := tracking.reading.early early
    have received := tracking.reading.fed
    rw [Endpoint.receivedBytes, none, Endpoint.partialRecord_header notReady
      (by omega), header, List.flatMap_nil, List.append_nil, List.take_zero,
      List.append_nil] at received
    have length : fed.length = endpoint.reader.nonceUsed := by
      rw [received, List.length_take, Block.cells_length]
      omega
    rw [Endpoint.texts, none, decodeStream]
    by_cases nothing : endpoint.reader.nonceUsed = 0
    · rw [if_pos (List.length_eq_zero_iff.mp (length.trans nothing))]
      exact ⟨_, rfl, .inl ⟨rfl, if_neg (by omega)⟩⟩
    rw [if_neg (List.ne_nil_of_length_pos (by omega)), dif_pos (by omega)]
    exact ⟨_, rfl, .inr ⟨rfl, if_pos (by omega)⟩⟩

end

/-! ## Plaintext -/

/-- The bytes in the window are those that can be consumed. -/
theorem showing_length (framed : Endpoint.Framed reader)
    (isReady : reader.ready = true) : reader.showing.length = reader.consumable := by
  obtain ⟨fullHeader, _⟩ := framed.full isReady
  obtain ⟨_, _⟩ := framed.plain isReady
  rw [Reader.showing, Reader.consumable]
  split
  · rename_i inMemory
    refine Block.slice_length _ ?_
    have small := (framed.memory fullHeader).1
    rw [inMemory] at small
    have isSmall := of_decide_eq_true small.symm
    omega
  · rename_i inStore
    refine Block.slice_length _ ?_
    have window := framed.window isReady (by simpa using inStore)
    omega

section

variable (tracking : Tracking platform Holds key fed received endpoint)
  (isReady : endpoint.reader.ready = true)
include tracking isReady

/-- The record that is handed out. -/
theorem shown : ∃ record, endpoint.history.records.getLast? = some record ∧
      Endpoint.Showing platform endpoint record ∧
      record.Genuine platform key endpoint.reader.streamNonce endpoint.reader.recordSequence ∧
      endpoint.reader.showing <+: endpoint.unread platform ∧
      (endpoint.unread platform).length =
        endpoint.reader.plainUsed - endpoint.reader.plainOffset := by
  have reading := tracking.reading
  obtain ⟨record, isLast, showing⟩ := reading.showing isReady
  have found := isLast
  rw [List.getLast?_eq_getElem?, ← showing.sequence, Nat.add_sub_cancel] at found
  have genuine := reading.genuine _ _ found
  have unread : endpoint.unread platform = _ := if_pos isReady
  rw [isLast] at unread
  refine ⟨record, isLast, showing, genuine, ?_, ?_⟩
  · rw [unread]
    exact showing.shows
  · rw [unread, (reading.framed.plain isReady).1, ← showing.size,
      ← genuine.length, List.length_drop]
    exact congrArg (· - _) ((platform.gcm.decrypt_streaming _ _).length _)

variable (faithful : platform.Faithful Holds)
include faithful

/-- The next window passes its verification. -/
theorem reverifies (inStore : endpoint.reader.inMemory = false)
    {record : Record} (isLast : endpoint.history.records.getLast? = some record)
    (showing : Endpoint.Showing platform endpoint record)
    (genuine : record.Genuine platform key endpoint.reader.streamNonce
      endpoint.reader.recordSequence) :
    ∃ next, endpoint.verify platform endpoint.reader.plainOffset
          (Endpoint.windowLength endpoint.reader)
          (some endpoint.reader.digest) =
        (.ok, record.verified, next) ∧
      Holds next.state (some (endpoint.reader.lease, record.verified)) := by
  have reading := tracking.reading
  have framed := reading.framed
  obtain ⟨fullHeader, _⟩ := framed.full isReady
  obtain ⟨_, _⟩ := framed.plain isReady
  have holds := tracking.store
  have leased := (framed.memory fullHeader).2
  rw [inStore] at leased
  rw [Endpoint.held, leased, isReady, isLast] at holds
  have verified := @Endpoint.verify_faithful _ platform _ endpoint faithful record.verified
    endpoint.reader.plainOffset (Endpoint.windowLength endpoint.reader)
    (some endpoint.reader.digest) holds (genuine.length.trans showing.size) (by
      have size := (framed.size fullHeader).2
      simp only [rxBytes] at size
      simp only [Reader.plainLength, tagBytes, maxPlaintext]
      omega)
    (by
      simp only [Endpoint.windowLength]
      omega)
    (fun digest isDigest => by
      cases isDigest
      exact (showing.digest inStore).1)
  rwa [if_pos] at verified
  rw [reading.keyed, showing.nonce, Reader.aad, showing.header, showing.tag]
  exact genuine.tag

/-- A reader with a ready record hands out some of it. -/
theorem plaintext : ∃ next, endpoint.plaintext platform = (.ok, next.reader.showing, next) ∧
        Tracking platform Holds key fed received next ∧
        next.reader.ready = true ∧ next.reader.showing ≠ [] := by
  have reading := tracking.reading
  have framed := reading.framed
  have running := Endpoint.readyState_of_framed framed
  obtain ⟨fullHeader, _⟩ := framed.full isReady
  obtain ⟨_, _⟩ := framed.plain isReady
  obtain ⟨_, isLast, showing, genuine, _, _⟩ := tracking.shown isReady
  have handing := Endpoint.plaintext_cases platform endpoint
  generalize endpoint.plaintext platform = outcome at handing ⊢
  cases handing with
  | refused stopped => exact absurd running stopped
  | blocked _ notReady =>
    rw [isReady] at notReady
    cases notReady
  | shown _ _ holds =>
    refine ⟨endpoint, rfl, tracking, isReady, ?_⟩
    apply List.ne_nil_of_length_pos
    rw [showing_length framed isReady, Reader.consumable]
    split
    · omega
    rename_i inStore
    have window := framed.window isReady (by simpa using inStore)
    have used := holds.resolve_left inStore
    omega
  | rejected _ _ inStore _ verified failed =>
    obtain ⟨_, succeeds, _⟩ := tracking.reverifies isReady faithful inStore isLast showing genuine
    rw [verified] at succeeds
    exact absurd (congrArg Prod.fst succeeds) failed
  | @verified _ next _ _ inStore _ verified =>
    obtain ⟨_, succeeds, holds⟩ := tracking.reverifies isReady faithful
      inStore isLast showing genuine
    rw [verified] at succeeds
    cases succeeds
    have filled := reading.filled_same isReady inStore isLast showing verified
    obtain ⟨rereads, _⟩ := Endpoint.verify_cases (Nat.min_le_right _ _) verified
    obtain ⟨_, _, _, _, nextEq⟩ := rereads.exists_reader
    have leased := (framed.memory fullHeader).2
    rw [inStore] at leased
    have readerEq : (next.filled (Endpoint.windowLength endpoint.reader)).reader =
          { next.reader with
            windowUsed := Endpoint.windowLength endpoint.reader
            windowOffset := 0 } := rfl
    rw [nextEq] at readerEq
    have recordsEq : (next.filled (Endpoint.windowLength endpoint.reader)).history.records =
          endpoint.history.records := rereads.records
    have kept : Holds (next.filled (Endpoint.windowLength endpoint.reader)).state _ := holds
    generalize next.filled (Endpoint.windowLength endpoint.reader) = last
      at *
    have stillReady : last.reader.ready = true := by
      rw [readerEq]
      exact isReady
    refine ⟨_, rfl, ⟨filled, ?_, ?_, ?_, ?_, ?_⟩, stillReady, ?_⟩
    · rw [recordsEq]
      exact tracking.records
    · rw [readerEq]
      exact tracking.counted
    · intro _ notReady
      cases stillReady.symm.trans notReady
    · rw [Endpoint.held, stillReady, recordsEq, isLast, readerEq]
      rw [leased]
      exact kept
    · rw [Endpoint.texts, Endpoint.unread, recordsEq, readerEq]
      exact tracking.delivered
    · apply List.ne_nil_of_length_pos
      rw [showing_length filled.framed stillReady, readerEq,
        Reader.consumable, if_neg (by simp [inStore])]
      simp only [Endpoint.windowLength]
      omega

/-- Plaintext that has been handed out can be consumed. -/
theorem consume (positive : 0 < length) (within : length ≤ endpoint.reader.consumable) :
    ∃ next, endpoint.consumePlaintext platform length = (.ok, next) ∧
        Tracking platform Holds key fed (received ++ (endpoint.unread platform).take length) next ∧
        (next.reader = endpoint.reader.consumed length ∧
            next.unread platform = (endpoint.unread platform).drop length ∨
          next.reader.ready = false ∧ (endpoint.unread platform).length = length) := by
  have reading := tracking.reading
  have framed := reading.framed
  have running := Endpoint.readyState_of_framed framed
  have delivered := tracking.delivered
  have consuming := Endpoint.consumePlaintext_cases platform endpoint length
  obtain ⟨_, _, _, consumedEq⟩ := Endpoint.consumed_exists endpoint.reader length
  generalize endpoint.consumePlaintext platform length = outcome at consuming ⊢
  have held : (endpoint.update (·.consumed length)).held =
      endpoint.held := by
    simp only [Endpoint.held, Endpoint.update, consumedEq]
  have holds : Holds (endpoint.update (·.consumed length)).state
      (endpoint.update (·.consumed length)).held := by
    rw [held]
    exact tracking.store
  cases consuming with
  | refused stopped => exact absurd running stopped
  | illegal _ notLegal => exact absurd ⟨isReady, positive, within⟩ notLegal
  | consumed _ _ _ _ more =>
    have unread : (endpoint.update (·.consumed length)).unread platform =
        (endpoint.unread platform).drop length := by
      simp only [Endpoint.unread, Endpoint.update, consumedEq, isReady, if_true, List.drop_drop]
    refine ⟨_, rfl, ⟨reading.consumed isReady within
      (Endpoint.consumed_framed framed isReady positive within more),
      tracking.records, ?_, ?_, holds, ?_⟩, .inl ⟨rfl, unread⟩⟩
    · simp only [Endpoint.update, consumedEq]
      exact tracking.counted
    · intro _ notReady
      simp only [Endpoint.update, consumedEq] at notReady
      cases isReady.symm.trans notReady
    · rw [unread, List.append_assoc, List.take_append_drop, ← delivered]
      simp only [Endpoint.texts, Endpoint.update, consumedEq]
  | finished _ _ _ _ last finishes =>
    obtain ⟨_, releasing, finishEq, free, kept⟩ := Endpoint.finishRecord_succeeds faithful holds
    obtain ⟨⟨_, _, releasedEq⟩, recordsEq, _, _⟩ := releasing.exists_reader
    obtain ⟨_, _, _, _, _, unread⟩ := tracking.shown isReady
    rw [consumedEq] at last
    have all : (endpoint.unread platform).length = length := by
      have last : endpoint.reader.plainOffset + length =
          endpoint.reader.plainUsed := last
      omega
    refine ⟨_, finishes.trans finishEq, ⟨reading.usedUp isReady releasing, ?_, ?_, ?_, ?_, ?_⟩,
      .inr ⟨rfl, all⟩⟩
    · simp only [Endpoint.update, recordsEq]
      exact tracking.records
    · simp only [Endpoint.update, Reader.resetRecord, releasedEq, consumedEq]
      exact tracking.counted
    · intro full
      cases full
    · refine (Endpoint.held_free ?_).symm ▸ kept
      exact free
    · rw [List.take_of_length_le all.le, ← delivered, Endpoint.unread_done rfl, List.append_nil]
      simp only [Endpoint.texts, Endpoint.update, Reader.resetRecord,
        releasedEq, recordsEq, consumedEq]

end

end Tracking

end EspFrp.Aead

import EspFrp.Aead.ReaderRun
import Mathlib.Data.List.Infix

/-!
# Authenticity of the plaintext

The reader takes the byte stream apart as it was sent: the stream nonce, then
records of a header, a ciphertext and a tag.  Every record it has accepted
was verified as a whole, under the key of the reader, the nonce of its place
in the stream and its own header; and what the window shows of the current
record is its plaintext, whatever the store answers later.
-/

namespace EspFrp.Aead

open Library

variable {State : Type} {platform : Platform State}

/-! ## Genuine records -/

/--
The record was verified as a whole, under the nonce of its place in the
stream.  A record that stays in memory is verified as it was received.
-/
structure Record.Genuine (platform : Platform State)
    (key : Block UInt8 32) (streamNonce : Block UInt8 12) (index : Nat)
    (record : Record) : Prop where
  tag : platform.gcm.tag key (nonceAt streamNonce index)
    (streamNonce.cells ++ record.header.cells) record.verified = record.tag
  length : record.verified.length = record.received.length
  header : BigEndian.ofBytes record.header.cells = record.received.length + tagBytes
  memory : record.received.length ≤ 4096 → record.verified = record.received

/-- The plaintext of the record at a place in the stream. -/
def Record.plaintext (platform : Platform State) (key : Block UInt8 32)
    (streamNonce : Block UInt8 12) (index : Nat) (record : Record) :
    List UInt8 := platform.gcm.decrypt key (nonceAt streamNonce index) record.verified

/-- Every record of the list is genuine at its place. -/
def GenuineRecords (platform : Platform State) (key : Block UInt8 32)
    (streamNonce : Block UInt8 12) (records : List Record) : Prop :=
  ∀ (index : Nat) (record : Record), records[index]? = some record →
    record.Genuine platform key streamNonce index

theorem GenuineRecords.snoc (genuine : GenuineRecords platform key streamNonce records)
    (last : record.Genuine platform key streamNonce records.length) :
    GenuineRecords platform key streamNonce (records ++ [record]) := by
  intro index other found
  by_cases old : index < records.length
  · rw [List.getElem?_append_left old] at found
    exact genuine index other found
  rw [List.getElem?_append_right (Nat.le_of_not_lt old)] at found
  have isLast : index - records.length = 0 := by
    by_contra behind
    rw [List.getElem?_eq_none (by
      rw [List.length_singleton]
      omega)] at found
    cases found
  rw [isLast, List.getElem?_cons_zero] at found
  cases found
  have indexEq : index = records.length := by omega
  rw [indexEq]
  exact last

/-! ## The nonce of the next record -/

theorem nextNonce_follows (inside : BigEndian.ofBytes streamNonce.cells + index < nonceSpace)
    (follows : nextNonce (nonceAt streamNonce index) = (true, nonce)) :
    nonce = nonceAt streamNonce (index + 1) ∧ BigEndian.ofBytes streamNonce.cells + (index + 1) <
        nonceSpace := by
  have stops := (Counter.ofBytes_increment (nonceAt streamNonce index).cells).1
  have stopped : (nextNonce (nonceAt streamNonce index)).1 = true := by rw [follows]
  have fits : BigEndian.ofBytes streamNonce.cells + index + 1 < nonceSpace := by
    change (Counter.increment _).1 = true at stopped
    rw [stops, decide_eq_true_iff, Block.cells_length] at stopped
    rw [nonceAt, BigEndian.ofBytes_toBytes_of_lt inside] at stopped
    exact stopped
  rw [nextNonce_nonceAt fits] at follows
  cases follows
  exact ⟨rfl, fits⟩

variable {endpoint next : Endpoint State}

namespace Endpoint

/-! ## Reading the stream -/

/-- What the reader has received of the record it is working on. -/
def partialRecord (endpoint : Endpoint State) : List UInt8 :=
  if endpoint.reader.ready then
    []
  else if endpoint.reader.headerUsed < 4 then
    endpoint.reader.header.cells.take endpoint.reader.headerUsed
  else
    endpoint.reader.header.cells ++ endpoint.history.incoming ++ endpoint.reader.tag.cells.take
        (endpoint.reader.bodyUsed - endpoint.reader.plainLength)

theorem partialRecord_ready (isReady : endpoint.reader.ready = true) :
    endpoint.partialRecord = [] :=
  if_pos isReady

theorem partialRecord_header (notReady : endpoint.reader.ready = false)
    (incomplete : endpoint.reader.headerUsed < 4) :
    endpoint.partialRecord = endpoint.reader.header.cells.take endpoint.reader.headerUsed := by
  rw [partialRecord, if_neg (by rw [notReady]; decide), if_pos incomplete]

theorem partialRecord_body (notReady : endpoint.reader.ready = false)
    (full : 4 ≤ endpoint.reader.headerUsed) :
    endpoint.partialRecord = endpoint.reader.header.cells ++ endpoint.history.incoming ++
        endpoint.reader.tag.cells.take
          (endpoint.reader.bodyUsed - endpoint.reader.plainLength) := by
  rw [partialRecord, if_neg (by rw [notReady]; decide), if_neg (Nat.not_lt.mpr full)]

/-- What the reader has received so far. -/
def receivedBytes (endpoint : Endpoint State) : List UInt8 :=
  endpoint.reader.streamNonce.cells.take endpoint.reader.nonceUsed ++
    endpoint.history.records.flatMap Record.bytes ++
    endpoint.partialRecord

/-- The record that the reader is collecting. -/
structure Collecting (endpoint : Endpoint State) : Prop where
  size : endpoint.reader.bodyExpected = BigEndian.ofBytes endpoint.reader.header.cells
  sequence : endpoint.reader.recordSequence = endpoint.reader.records
  nonce : endpoint.reader.recordNonce = endpoint.reader.nonce
  incoming : endpoint.history.incoming.length =
    min endpoint.reader.bodyUsed endpoint.reader.plainLength
  window : endpoint.reader.inMemory = true →
    endpoint.reader.window.slice 0 endpoint.history.incoming.length = endpoint.history.incoming

/-- The record that the reader is handing out. -/
structure Showing (platform : Platform State)
    (endpoint : Endpoint State) (record : Record) : Prop where
  header : endpoint.reader.header = record.header
  tag : endpoint.reader.tag = record.tag
  size : record.received.length = endpoint.reader.plainLength
  sequence : endpoint.reader.recordSequence + 1 = endpoint.history.records.length
  nonce : endpoint.reader.recordNonce =
    nonceAt endpoint.reader.streamNonce endpoint.reader.recordSequence
  digest : endpoint.reader.inMemory = false → endpoint.reader.digest = platform.hash
          ((storedRecord endpoint.reader 0 0 none).message record.verified) ∧
      (storedRecord endpoint.reader 0 0 none).message record.verified ∈ endpoint.history.hashed
  shows : endpoint.reader.showing <+: (platform.gcm.decrypt endpoint.reader.key
      endpoint.reader.recordNonce record.verified).drop endpoint.reader.plainOffset

/-- The records that a reader has accepted, and its next nonce. -/
structure Counted (platform : Platform State) (key : Block UInt8 32)
    (endpoint : Endpoint State) : Prop where
  keyed : endpoint.reader.key = key
  records : endpoint.reader.records = endpoint.history.records.length
  early : endpoint.reader.nonceUsed < 12 → endpoint.history.records = []
  nonce : endpoint.reader.nonceUsed = 12 → endpoint.reader.nonce =
        nonceAt endpoint.reader.streamNonce endpoint.reader.records ∧
      BigEndian.ofBytes endpoint.reader.streamNonce.cells + endpoint.reader.records < nonceSpace
  genuine : GenuineRecords platform key endpoint.reader.streamNonce endpoint.history.records

/-- A running reader, and the stream that it has read. -/
structure Reading (platform : Platform State) (key : Block UInt8 32)
    (fed : List UInt8) (endpoint : Endpoint State) : Prop
    extends Counted platform key endpoint where
  framed : Framed endpoint.reader
  fed : fed = endpoint.receivedBytes
  collecting : endpoint.reader.headerUsed = 4 → endpoint.reader.ready = false → Collecting endpoint
  showing : endpoint.reader.ready = true →
    ∃ record, endpoint.history.records.getLast? = some record ∧ Showing platform endpoint record

variable {bytes : List UInt8}

/-- The reader after a piece of the body has been kept. -/
theorem Storing.kept_reader (storing : Storing platform endpoint bytes (.ok, next)) :
    ∃ window tag, (next.update (·.addBody bytes.length)).reader =
        { endpoint.reader with
          window := window
          tag := tag
          bodyUsed := endpoint.reader.bodyUsed + bytes.length } := by
  obtain ⟨⟨window, tag, nextEq⟩, _, _⟩ := storing.ok_frame
  refine ⟨window, tag, ?_⟩
  simp only [update, Reader.addBody, nextEq]

variable {key : Block UInt8 32}

theorem Storing.counted (storing : Storing platform endpoint bytes (.ok, next))
    (counted : Counted platform key endpoint) :
    Counted platform key (next.update (·.addBody bytes.length)) := by
  obtain ⟨_, _, readerEq⟩ := storing.kept_reader
  have recordsEq : (next.update (·.addBody bytes.length)).history.records =
        endpoint.history.records := storing.ok_frame.2.1
  exact
    { keyed := by rw [readerEq]; exact counted.keyed
      records := by rw [readerEq, recordsEq]; exact counted.records
      early := by rw [readerEq, recordsEq]; exact counted.early
      nonce := by rw [readerEq]; exact counted.nonce
      genuine := by rw [readerEq, recordsEq]; exact counted.genuine }

namespace Reading

variable {fed bytes : List UInt8}

variable (reading : Reading platform key fed endpoint) (notReady : endpoint.reader.ready = false)
include reading notReady

variable {reader : Reader}

theorem nonceStep (incomplete : endpoint.reader.nonceUsed < 12)
    (within : endpoint.reader.nonceUsed + bytes.length ≤ 12)
    (readerEq : reader = { endpoint.reader.addNonce bytes with nonce := reader.nonce })
    (nonceEq : endpoint.reader.nonceUsed + bytes.length = 12 → reader.nonce = reader.streamNonce)
    (framed : Framed reader) :
    Reading platform key (fed ++ bytes) { endpoint with reader := reader } := by
  have noRecords := reading.early incomplete
  have headerZero := reading.framed.early incomplete
  have noCount : endpoint.reader.records = 0 := by
    rw [reading.records, noRecords]
    rfl
  have taken := endpoint.reader.streamNonce.take_copy within
  refine
    { framed := framed, keyed := ?_, fed := ?_, records := ?_
      early := fun _ => noRecords, nonce := ?_, genuine := ?_
      collecting := ?_, showing := ?_ }
  · rw [readerEq]
    exact reading.keyed
  · rw [readerEq]
    exact reading.records
  · intro full
    have readerRecords : reader.records = 0 := by
      rw [readerEq]
      exact noCount
    have isFull : endpoint.reader.nonceUsed + bytes.length = 12 := by
      rw [readerEq] at full
      exact full
    have inside := BigEndian.ofBytes_lt reader.streamNonce.cells
    rw [Block.cells_length] at inside
    rw [readerRecords, nonceAt_zero]
    exact ⟨nonceEq isFull, inside⟩
  · rw [noRecords]
    intro index record found
    simp at found
  · rw [reading.fed]
    simp only [receivedBytes, partialRecord, noRecords]
    rw [readerEq]
    simp only [Reader.addNonce, notReady, headerZero, taken]
    simp
  · intro full
    rw [readerEq] at full
    simp [Reader.addNonce, headerZero] at full
  · intro isReady
    rw [readerEq] at isReady
    simp [Reader.addNonce, notReady] at isReady

theorem headerStep (within : endpoint.reader.headerUsed + bytes.length < 4)
    (framed : Framed (endpoint.reader.addHeader bytes)) :
    Reading platform key (fed ++ bytes) (endpoint.update (·.addHeader bytes)) := by
  have taken := endpoint.reader.header.take_copy (Nat.le_of_lt within)
  refine
    { reading with
      framed := framed, fed := ?_, collecting := ?_, showing := ?_ }
  · have after : (endpoint.update (·.addHeader bytes)).partialRecord = _ :=
      partialRecord_header notReady within
    rw [reading.fed, receivedBytes, receivedBytes, after,
      partialRecord_header notReady (by omega), List.append_assoc]
    exact congrArg _ taken.symm
  · intro full
    exact absurd full (Nat.ne_of_lt within)
  · intro isReady
    exact absurd isReady (by simp [update, Reader.addHeader, notReady])

/-- A header that completes the record header announces a record. -/
theorem announcedStep (incomplete : endpoint.reader.headerUsed < 4)
    (completes : endpoint.reader.headerUsed + bytes.length = 4) (readerEq : reader =
      { (endpoint.reader.addHeader bytes).announced
          (endpoint.update (·.addHeader bytes)).announcedSize with
        leased := leased
        lease := lease }) (framed : Framed reader)
    (readerNext : next.reader = reader)
    (records : next.history.records = endpoint.history.records)
    (incoming : next.history.incoming = []) :
    Reading platform key (fed ++ bytes) next := by
  have full := endpoint.reader.header.copy_full completes
  have bodyZero := (reading.framed.idle incomplete).2.2
  subst readerEq
  refine
    { framed := by rw [readerNext]; exact framed
      keyed := by rw [readerNext]; exact reading.keyed
      fed := ?_
      records := by rw [readerNext, records]; exact reading.records
      early := by rw [readerNext, records]; exact reading.early
      nonce := by rw [readerNext]; exact reading.nonce
      genuine := by rw [readerNext, records]; exact reading.genuine
      collecting := fun _ _ => ?_
      showing := ?_ }
  · rw [reading.fed, receivedBytes, receivedBytes, partialRecord_header notReady incomplete,
      partialRecord_body (by rw [readerNext]; exact notReady)
        (by rw [readerNext]; exact completes.ge), incoming, records,
      readerNext, List.append_nil, List.append_assoc]
    simp only [Reader.announced, Reader.addHeader, bodyZero,
      Nat.zero_sub, List.take_zero, List.append_nil, full]
  · refine
      { size := by rw [readerNext]; rfl
        sequence := by rw [readerNext]; rfl
        nonce := by rw [readerNext]; rfl
        incoming := ?_
        window := ?_ }
    · rw [incoming, readerNext]
      simp [Reader.announced, Reader.addHeader, bodyZero]
    · intro _
      rw [incoming]
      simp [Block.slice]
  · intro isReady
    rw [readerNext] at isReady
    exact absurd isReady (by simp [Reader.announced, Reader.addHeader, notReady])

/-- A piece of ciphertext or tag that does not complete the record. -/
theorem bodyStep (afterHeader : 4 ≤ endpoint.reader.headerUsed)
    (piece : Piece endpoint.reader bytes)
    (within : endpoint.reader.bodyUsed + bytes.length ≤ endpoint.reader.bodyExpected)
    (storing : Storing platform endpoint bytes (.ok, next)) :
    let stored := next.update (·.addBody bytes.length)
    stored.reader.ready = false ∧ fed ++ bytes = stored.receivedBytes ∧ Collecting stored ∧
      stored.history.records = endpoint.history.records ∧
      stored.history.hashed = endpoint.history.hashed := by
  intro stored
  have fullHeader := Nat.le_antisymm reading.framed.header_le afterHeader
  have collecting := reading.collecting fullHeader notReady
  have incomingLength := collecting.incoming
  have before := partialRecord_body notReady afterHeader
  have plainLength : endpoint.reader.plainLength + tagBytes =
      endpoint.reader.bodyExpected := Nat.sub_add_cancel (reading.framed.size fullHeader).1
  have small (inMemory : endpoint.reader.inMemory = true) : endpoint.reader.plainLength ≤ 4096 := by
    rw [(reading.framed.memory fullHeader).1] at inMemory
    exact of_decide_eq_true inMemory
  have ciphertext (early : endpoint.reader.bodyUsed < endpoint.reader.plainLength) : fed ++ bytes =
          endpoint.reader.streamNonce.cells.take endpoint.reader.nonceUsed ++
            endpoint.history.records.flatMap Record.bytes ++
            (endpoint.reader.header.cells ++ (endpoint.history.incoming ++ bytes) ++
              endpoint.reader.tag.cells.take (endpoint.reader.bodyUsed + bytes.length -
                  endpoint.reader.plainLength)) ∧
        (endpoint.history.incoming ++ bytes).length = min (endpoint.reader.bodyUsed + bytes.length)
            endpoint.reader.plainLength := by
    have fits := piece early
    refine ⟨?_, ?_⟩
    · rw [reading.fed, receivedBytes, before, Nat.sub_eq_zero_of_le (Nat.le_of_lt early),
        Nat.sub_eq_zero_of_le fits]
      simp only [List.take_zero, List.append_nil, List.append_assoc]
    · rw [List.length_append, incomingLength]
      omega
  cases storing with
  | window early inMemory =>
    have after : stored.partialRecord = _ := partialRecord_body notReady afterHeader
    obtain ⟨received, incoming⟩ := ciphertext early
    refine ⟨notReady, ?_, ?_, rfl, rfl⟩
    · rw [receivedBytes, after]
      exact received
    · refine { collecting with incoming := incoming, window := ?_ }
      intro _
      have used : endpoint.history.incoming.length =
            endpoint.reader.bodyUsed := by
        omega
      have fits : endpoint.reader.bodyUsed + bytes.length ≤ 4096 :=
        Nat.le_trans (piece early) (small inMemory)
      have before := collecting.window inMemory
      have taken := endpoint.reader.window.take_copy fits
      rw [Block.slice, List.drop_zero, used] at before
      rw [before] at taken
      change ((endpoint.reader.window.copy endpoint.reader.bodyUsed bytes).cells.drop 0).take
          (endpoint.history.incoming ++ bytes).length = _
      rw [List.drop_zero, List.length_append, used]
      exact taken
  | written early inStore =>
    have after : stored.partialRecord = _ := partialRecord_body notReady afterHeader
    obtain ⟨received, incoming⟩ := ciphertext early
    refine ⟨notReady, ?_, ?_, rfl, rfl⟩
    · rw [receivedBytes, after]
      exact received
    · refine { collecting with incoming := incoming, window := ?_ }
      intro inMemory
      change endpoint.reader.inMemory = true at inMemory
      rw [inStore] at inMemory
      cases inMemory
  | unwritten _ _ _ _ fails => exact absurd fails (ok_ne_fail (by decide))
  | tag =>
    have after : stored.partialRecord = _ := partialRecord_body notReady afterHeader
    refine ⟨notReady, ?_, ?_, rfl, rfl⟩
    · have room : endpoint.reader.bodyUsed - endpoint.reader.plainLength + bytes.length ≤ 16 := by
        simp only [tagBytes] at plainLength
        omega
      have taken := endpoint.reader.tag.take_copy room
      have moved : endpoint.reader.bodyUsed + bytes.length - endpoint.reader.plainLength =
            endpoint.reader.bodyUsed - endpoint.reader.plainLength +
              bytes.length := by
        omega
      rw [receivedBytes, after, reading.fed, receivedBytes, before]
      change _ = _ ++ _ ++ (_ ++ _ ++ (endpoint.reader.tag.copy _ bytes).cells.take
          (endpoint.reader.bodyUsed + bytes.length - endpoint.reader.plainLength))
      rw [moved, taken]
      simp only [List.append_assoc]
      rfl
    · refine { collecting with incoming := ?_ }
      change endpoint.history.incoming.length = min (endpoint.reader.bodyUsed + bytes.length)
          endpoint.reader.plainLength
      omega

end Reading

/-! ## Complete records -/

/-- What the verification of a complete record has established. -/
structure Checked (platform : Platform State) (endpoint : Endpoint State) (verified : List UInt8)
    (next : Endpoint State) : Prop where
  tag : platform.gcm.tag endpoint.reader.key
    endpoint.reader.recordNonce endpoint.reader.aad verified = endpoint.reader.tag
  length : verified.length = endpoint.reader.plainLength
  memory : endpoint.reader.inMemory = true →
    verified = endpoint.reader.window.slice 0 endpoint.reader.plainLength ∧ next.reader.window =
        endpoint.reader.window.copy 0 (platform.gcm.decrypt endpoint.reader.key
            endpoint.reader.recordNonce verified)
  store : endpoint.reader.inMemory = false → next.reader.digest = platform.hash
          ((storedRecord endpoint.reader 0 0 none).message verified) ∧
      (storedRecord endpoint.reader 0 0 none).message verified ∈ next.history.hashed

theorem check_ok (small : endpoint.reader.inMemory = true → endpoint.reader.plainLength ≤ 4096)
    (checked : endpoint.check platform = (.ok, verified, next)) :
    Checked platform endpoint verified next := by
  unfold check at checked
  split at checked
  · rename_i inMemory
    obtain ⟨_, verifiedEq, _, decrypted⟩ := decryptWindow_spec platform endpoint
    rw [checked] at verifiedEq decrypted
    obtain ⟨genuine, windowEq⟩ := decrypted rfl
    have isVerified : verified = _ := verifiedEq
    rw [isVerified]
    exact
      { tag := genuine
        length := endpoint.reader.window.slice_length (by rw [Nat.zero_add]; exact small inMemory)
        memory := fun _ => ⟨rfl, windowEq⟩
        store := fun inStore => by
          rw [inMemory] at inStore
          cases inStore }
  · rename_i inStore
    obtain ⟨_, verifies⟩ := verify_cases (Nat.zero_le _) checked
    obtain ⟨isVerified, hashed, digest⟩ := verifies rfl
    exact
      { tag := isVerified.tag
        length := isVerified.length
        memory := fun inMemory => absurd inMemory inStore
        store := fun _ => ⟨digest, by rw [hashed]; simp⟩ }

/-- The reader after a record has been accepted. -/
theorem accepted_reader (rereads : Rereads whole next) :
    (∃ passes read flashRecords, ((next.advanced nonce).accepted verified).reader =
        { whole.reader with
          window := next.reader.window
          digest := next.reader.digest
          flashPasses := passes
          flashReadBytes := read
          flashRecords := flashRecords
          nonce := nonce
          records := whole.reader.records + 1
          plainUsed := whole.reader.plainLength }) ∧
      ((next.advanced nonce).accepted verified).history.records = whole.history.records ++
          [{ header := whole.reader.header
             received := whole.history.incoming
             tag := whole.reader.tag
             verified := verified }] := by
  obtain ⟨_, _, _, _, nextEq⟩ := rereads.exists_reader
  simp only [accepted, advanced, update, nextEq, rereads.records, rereads.incoming]
  exact ⟨⟨_, _, _, rfl⟩, trivial⟩

variable {nonce : Block UInt8 12}

/-- A complete record that has been verified joins the accepted ones. -/
theorem Collecting.accept {whole : Endpoint State} (collecting : Collecting whole)
    (counted : Counted platform key whole)
    (notReady : whole.reader.ready = false)
    (fullNonce : whole.reader.nonceUsed = 12)
    (fullHeader : 4 ≤ whole.reader.headerUsed)
    (complete : whole.reader.bodyUsed = whole.reader.bodyExpected)
    (size : tagBytes ≤ whole.reader.bodyExpected)
    (memory : whole.reader.inMemory =
      decide (whole.reader.plainLength ≤ 4096))
    (unread : whole.reader.plainOffset = 0 ∧
      whole.reader.windowUsed = 0 ∧ whole.reader.windowOffset = 0)
    (checked : whole.check platform = (.ok, verified, next))
    (follows : nextNonce next.reader.nonce = (true, nonce)) :
    let accepted := (next.advanced nonce).accepted verified
    Counted platform key accepted ∧ whole.receivedBytes =
        accepted.reader.streamNonce.cells.take accepted.reader.nonceUsed ++
          accepted.history.records.flatMap Record.bytes ∧
      ∃ record, accepted.history.records.getLast? = some record ∧
        Showing platform accepted record := by
  intro accepted
  have rereads := check_rereads checked
  have facts := check_ok (fun inMemory => of_decide_eq_true (memory.symm.trans inMemory)) checked
  have plainLength : whole.reader.plainLength + tagBytes = whole.reader.bodyExpected :=
    Nat.sub_add_cancel size
  have incoming : whole.history.incoming.length = whole.reader.plainLength := by
    rw [collecting.incoming, complete]
    omega
  obtain ⟨nonceEq, inside⟩ := counted.nonce fullNonce
  have nextNonceEq : next.reader.nonce = whole.reader.nonce := by rw [rereads.reader]
  rw [nextNonceEq, nonceEq] at follows
  obtain ⟨newNonce, newInside⟩ := nextNonce_follows inside follows
  obtain ⟨⟨_, _, _, readerEq⟩, recordsEq⟩ := accepted_reader rereads
  have partialEq := partialRecord_body notReady fullHeader
  refine ⟨?_, ?_, ?_⟩
  · refine
      { keyed := by rw [readerEq]; exact counted.keyed
        records := ?_
        early := ?_
        nonce := ?_
        genuine := ?_ }
    · rw [readerEq, recordsEq, List.length_append, counted.records]
      rfl
    · intro early
      rw [readerEq] at early
      exact absurd fullNonce (Nat.ne_of_lt early)
    · intro _
      rw [readerEq]
      exact ⟨newNonce, newInside⟩
    · rw [readerEq, recordsEq]
      refine counted.genuine.snoc ?_
      refine
        { tag := ?_
          length := facts.length.trans incoming.symm
          header := ?_
          memory := ?_ }
      · have genuine := facts.tag
        rw [collecting.nonce, nonceEq, counted.keyed, counted.records] at genuine
        exact genuine
      · rw [← collecting.size, incoming]
        exact plainLength.symm
      · intro small
        have inMemory : whole.reader.inMemory = true := by
          rw [memory, ← incoming]
          exact decide_eq_true small
        rw [(facts.memory inMemory).1, ← incoming]
        exact collecting.window inMemory
  · have tagFull : whole.reader.bodyUsed - whole.reader.plainLength = 16 := by
      simp only [tagBytes] at plainLength
      omega
    rw [receivedBytes, partialEq, tagFull, List.take_of_length_le whole.reader.tag.cells_length.le,
      recordsEq, readerEq, List.flatMap_append, List.append_assoc, List.flatMap_singleton]
    rfl
  · refine ⟨_, by rw [recordsEq, List.getLast?_concat], ?_⟩
    refine
      { header := by rw [readerEq]
        tag := by rw [readerEq]
        size := by rw [readerEq]; exact incoming
        sequence := ?_
        nonce := ?_
        digest := ?_
        shows := ?_ }
    · rw [readerEq, recordsEq, List.length_append]
      rw [collecting.sequence, counted.records]
      rfl
    · rw [readerEq]
      rw [collecting.nonce, nonceEq, collecting.sequence]
    · intro inStore
      rw [readerEq] at inStore ⊢
      exact facts.store inStore
    · obtain ⟨plainOffset, windowUsed, windowOffset⟩ := unread
      rw [readerEq]
      simp only [Reader.showing, plainOffset, windowUsed, windowOffset]
      split
      · rename_i inMemory
        have streaming := platform.gcm.decrypt_streaming whole.reader.key whole.reader.recordNonce
        have small := of_decide_eq_true (memory.symm.trans inMemory)
        have length : (platform.gcm.decrypt whole.reader.key
              whole.reader.recordNonce verified).length =
              whole.reader.plainLength := by
          rw [streaming.length, facts.length]
        have shown := whole.reader.window.slice_copy
          (show 0 + (platform.gcm.decrypt whole.reader.key
            whole.reader.recordNonce verified).length ≤ 4096 by omega)
        rw [length] at shown
        rw [(facts.memory inMemory).2, Nat.sub_zero, shown, List.drop_zero]
      · exact List.nil_prefix

namespace Reading

variable {fed bytes : List UInt8}

/-- The reader between two records. -/
theorem finished (counted : Counted platform key endpoint) (received : fed =
      endpoint.reader.streamNonce.cells.take endpoint.reader.nonceUsed ++
        endpoint.history.records.flatMap Record.bytes)
    (releasing : Releasing platform endpoint (.ok, next))
    (framed : Framed (next.update Reader.resetRecord).reader) :
    Reading platform key fed (next.update Reader.resetRecord) := by
  obtain ⟨⟨leased, lease, nextEq⟩, recordsEq, _, _⟩ := releasing.exists_reader
  have readerEq : (next.update Reader.resetRecord).reader =
      { endpoint.reader.resetRecord with
        leased := leased
        lease := lease } := by
    simp only [update, nextEq, Reader.resetRecord]
  have historyEq : (next.update Reader.resetRecord).history.records =
      endpoint.history.records := recordsEq
  refine
    { keyed := by rw [readerEq]; exact counted.keyed
      records := by rw [readerEq, historyEq]; exact counted.records
      early := by rw [readerEq, historyEq]; exact counted.early
      nonce := by rw [readerEq]; exact counted.nonce
      genuine := by rw [readerEq, historyEq]; exact counted.genuine
      framed := framed
      fed := ?_
      collecting := fun full => by rw [readerEq] at full; cases full
      showing := fun isReady => by
        rw [readerEq] at isReady
        cases isReady }
  rw [receivedBytes, partialRecord_header (by rw [readerEq]; rfl)
    (by rw [readerEq]; exact Nat.zero_lt_succ 3), historyEq, readerEq]
  simp only [Reader.resetRecord, List.take_zero, List.append_nil]
  exact received

/-- A piece of the body that completes a record. -/
theorem completedStep (reading : Reading platform key fed endpoint)
    (notReady : endpoint.reader.ready = false)
    (afterHeader : 4 ≤ endpoint.reader.headerUsed)
    (piece : Piece endpoint.reader bytes)
    (completes : endpoint.reader.bodyUsed + bytes.length = endpoint.reader.bodyExpected)
    (storing : Storing platform endpoint bytes (.ok, stored)) (checked : (stored.update (·.addBody bytes.length)).check platform =
        (.ok, verified, next))
    (follows : nextNonce next.reader.nonce = (true, nonce)) :
    let accepted := (next.advanced nonce).accepted verified
    Counted platform key accepted ∧ fed ++ bytes =
        accepted.reader.streamNonce.cells.take accepted.reader.nonceUsed ++
          accepted.history.records.flatMap Record.bytes ∧
      ∃ record, accepted.history.records.getLast? = some record ∧
        Showing platform accepted record := by
  have fullHeader := Nat.le_antisymm reading.framed.header_le afterHeader
  have fullNonce := reading.framed.announced afterHeader
  obtain ⟨wholeReady, received, collecting, _, _⟩ :=
    reading.bodyStep notReady afterHeader piece completes.le storing
  obtain ⟨_, _, wholeEq⟩ := storing.kept_reader
  obtain ⟨_, unread⟩ := reading.framed.unread notReady
  have counted := storing.counted reading.toCounted
  rw [received]
  exact collecting.accept counted wholeReady (by rw [wholeEq]; exact fullNonce)
    (by rw [wholeEq]; exact afterHeader)
    (by rw [wholeEq]; exact completes)
    (by rw [wholeEq]; exact (reading.framed.size fullHeader).1)
    (by rw [wholeEq]; exact (reading.framed.memory fullHeader).1)
    (by rw [wholeEq]; exact unread) checked follows

/-- The steps of the feed loop read the stream. -/
theorem step (reading : Reading platform key fed endpoint)
    (notReady : endpoint.reader.ready = false) (step : FeedStep platform endpoint bytes next) :
    Reading platform key (fed ++ bytes) next := by
  have framed := step.framed reading.framed notReady
  cases step with
  | nonce within =>
    exact reading.nonceStep notReady (by omega) (Nat.le_of_lt within)
      rfl (fun completes => by omega) framed
  | nonceComplete incomplete completes =>
    exact reading.nonceStep notReady incomplete (Nat.le_of_eq completes) rfl (fun _ => rfl) framed
  | header _ within => exact reading.headerStep notReady within framed
  | announced _ incomplete completes announcing =>
    obtain ⟨⟨_, _, readerEq⟩, recordsEq, incomingEq, _⟩ := announcing.ok_frame
    exact reading.announcedStep notReady incomplete completes
      readerEq framed rfl recordsEq incomingEq
  | body afterHeader piece within storing =>
    obtain ⟨stillCollecting, received, collecting, _, _⟩ :=
      reading.bodyStep notReady afterHeader piece (Nat.le_of_lt within) storing
    exact
      { storing.counted reading.toCounted with
        framed := framed
        fed := received
        collecting := fun _ _ => collecting
        showing := fun isReady => by
          rw [stillCollecting] at isReady
          cases isReady }
  | completed afterHeader piece completes storing completing =>
    cases completing with
    | rejected _ failed fails => exact absurd fails (ok_ne_fail failed)
    | wrapped _ _ fails => exact absurd fails (ok_ne_fail (by decide))
    | ready checked follows =>
      obtain ⟨counted, received, showing⟩ :=
        reading.completedStep notReady afterHeader piece completes storing checked follows
      exact
        { counted with
          framed := framed
          fed := by
            rw [receivedBytes, partialRecord_ready rfl, List.append_nil]
            exact received
          collecting := fun _ isReady => nomatch isReady
          showing := fun _ => by
            obtain ⟨record, isLast, shows⟩ := showing
            exact ⟨record, isLast, { shows with }⟩ }
    | empty checked follows _ finishes =>
      obtain ⟨counted, received, _⟩ :=
        reading.completedStep notReady afterHeader piece completes storing checked follows
      obtain ⟨_, releasing, rfl⟩ := finishRecord_ok finishes.symm
      exact finished counted received releasing framed

end Reading

end Endpoint

end EspFrp.Aead

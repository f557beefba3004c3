import EspFrp.Aead.Verification
import EspFrp.Aead.Writer
import EspFrp.Aead.FlashReader

/-!
# The stream of a writer

The bytes that a writer hands out are the stream nonce and, for every write
that it has accepted, one record.
-/

namespace EspFrp.Aead

open Library

variable {Context : Type}

/-- The record that carries `plaintext` at a place in the stream. -/
def wireRecord (gcm : Gcm) (key : Block UInt8 32) (streamNonce : Block UInt8 12) (index : Nat)
    (plaintext : List UInt8) : Record :=
  let header : Block UInt8 4 :=
    { cells := BigEndian.toBytes 4 (plaintext.length + tagBytes)
      cells_length := BigEndian.toBytes_length _ _ }
  let ciphertext := gcm.encrypt key (nonceAt streamNonce index) plaintext
  { header := header
    received := ciphertext
    tag := gcm.tag key (nonceAt streamNonce index) (streamNonce.cells ++ header.cells) ciphertext
    verified := ciphertext }

/-- The records that carry the plaintexts, in order. -/
def wireRecords (gcm : Gcm) (key : Block UInt8 32)
    (streamNonce : Block UInt8 12) (plaintexts : List (List UInt8)) :
    List Record := plaintexts.mapIdx (wireRecord gcm key streamNonce)

/-- The stream that carries the plaintexts. -/
def wireStream (gcm : Gcm) (key : Block UInt8 32)
    (streamNonce : Block UInt8 12) (plaintexts : List (List UInt8)) :
    List UInt8 :=
  if plaintexts = [] then
    []
  else
    streamNonce.cells ++ (wireRecords gcm key streamNonce plaintexts).flatMap Record.bytes

/-- Another record follows, behind the stream nonce. -/
theorem wireStream_snoc (gcm : Gcm) (key : Block UInt8 32) (streamNonce : Block UInt8 12)
    (plaintexts : List (List UInt8)) (plaintext : List UInt8) :
    wireStream gcm key streamNonce (plaintexts ++ [plaintext]) =
      wireStream gcm key streamNonce plaintexts ++
        ((if plaintexts = [] then streamNonce.cells else []) ++
          (wireRecord gcm key streamNonce plaintexts.length plaintext).bytes) := by
  simp only [wireStream, wireRecords, List.mapIdx_append]
  by_cases first : plaintexts = []
  · subst first
    simp
  · simp [first]

/-- A record can be written after `records` others. -/
def Spare (streamNonce : Block UInt8 12) (records : Nat) : Prop :=
  records < maxRecords ∧ BigEndian.ofBytes streamNonce.cells + records + 1 < nonceSpace

instance (streamNonce : Block UInt8 12) (records : Nat) : Decidable (Spare streamNonce records) :=
  inferInstanceAs (Decidable (_ ∧ _))

/-- The plaintexts of a stream that stays within its limits. -/
structure Sendable (streamNonce : Block UInt8 12) (plaintexts : List (List UInt8)) : Prop where
  inside : BigEndian.ofBytes streamNonce.cells + plaintexts.length < nonceSpace
  counted : plaintexts.length ≤ maxRecords
  sizes : ∀ plaintext ∈ plaintexts, plaintext ≠ [] ∧ plaintext.length ≤ maxPlaintext

theorem Sendable.spare (sendable : Sendable streamNonce plaintexts)
    (earlier : index < plaintexts.length) : Spare streamNonce index := by
  have inside := sendable.inside
  have counted := sendable.counted
  exact ⟨by omega, by omega⟩

/-! ## Assembling a record -/

namespace Writer

/-- The stream nonce in front of the first record. -/
def lead (writer : Writer capacity) : List UInt8 :=
  if writer.nonceSent then [] else writer.streamNonce.cells

theorem assemble_slices (writer : Writer capacity)
    (prefixEq : prefixLength = writer.lead.length)
    (fits : prefixLength + 4 + plaintext.length ≤ capacity) :
    let header := BigEndian.toBytes 4 (plaintext.length + tagBytes)
    let storage := writer.assemble prefixLength plaintext
    storage.cells.take (prefixLength + 4) = writer.lead ++ header ∧
      storage.slice prefixLength 4 = header ∧
      storage.slice (prefixLength + 4) plaintext.length =
        plaintext := by
  intro header storage
  have headerLength : header.length = 4 := BigEndian.toBytes_length _ _
  have started : storage.cells.take (prefixLength + 4) = writer.lead ++ header := by
    simp only [storage, assemble]
    rw [Block.take_copy_ahead _ _ (Nat.le_refl _)]
    have copied := Block.take_copy (if prefixLength ≠ 0 then
        writer.storage.copy 0 writer.streamNonce.cells
      else writer.storage)
      (show prefixLength + header.length ≤ capacity by omega)
    rw [headerLength] at copied
    rw [copied]
    congr 1
    rw [lead] at prefixEq ⊢
    split at prefixEq
    · rename_i sent
      rw [prefixEq, if_pos sent, List.length_nil, List.take_zero]
    rename_i unsent
    rw [Block.cells_length] at prefixEq
    have nonceCopied := writer.storage.take_copy
      (show 0 + writer.streamNonce.cells.length ≤ capacity by
        rw [Block.cells_length]
        omega)
    rw [Block.cells_length, List.take_zero, List.nil_append] at nonceCopied
    rw [prefixEq, if_neg unsent, if_pos (by decide)]
    exact nonceCopied
  refine ⟨started, ?_, ?_⟩
  · have dropped := congrArg (List.drop prefixLength) started
    rw [List.drop_take, Nat.add_sub_cancel_left, prefixEq, List.drop_left] at dropped
    rw [Block.slice, prefixEq]
    exact dropped
  · exact Block.slice_copy _ fits

end Writer

/-- A record in the storage: what is ahead of it, ciphertext and tag. -/
theorem storage_slice (storage : Block UInt8 capacity)
    (started : storage.cells.take start.length = start)
    (fits : start.length + ciphertext.length + 16 ≤ capacity) (tag : Block UInt8 16) :
    ((storage.copy start.length ciphertext).copy
        (start.length + ciphertext.length) tag.cells).slice 0
          (start.length + ciphertext.length + 16) =
      start ++ ciphertext ++ tag.cells := by
  have tagCopied := Block.take_copy (storage.copy start.length ciphertext)
    (show start.length + ciphertext.length + tag.cells.length ≤ capacity by
      rw [Block.cells_length]
      exact fits)
  have copied := storage.take_copy (show start.length + ciphertext.length ≤ capacity by omega)
  rw [Block.cells_length, copied, started] at tagCopied
  rw [Block.slice, List.drop_zero]
  exact tagCopied

/-- Encryption with a reliable library. -/
theorem Services.Reliable.cryptoGcm (reliable : services.Reliable Holds) (holds : Holds context)
    (key : Block UInt8 32) (nonce : Block UInt8 12) (aad : List UInt8)
    (fits : buffer.length ≤ maxPlaintext) :
    ∃ next, Holds next ∧ cryptoGcm services key nonce aad context buffer =
        (.ok, services.gcm.encrypt key nonce buffer, services.gcm.tag key nonce aad
            (services.gcm.encrypt key nonce buffer), next) := by
  have streaming := services.gcm.encrypt_streaming key nonce
  obtain ⟨succeeded, kept⟩ := reliable.transformBuffer streaming
    services.backend.fault (fun _ => true) holds buffer
  rw [if_pos rfl] at succeeded
  obtain ⟨_, encrypted⟩ := transformBuffer_ok streaming (fun _ => Backend.fault_ne_ok _) succeeded
  refine ⟨_, kept, ?_⟩
  rw [Aead.cryptoGcm, if_neg (Nat.not_lt.mpr fits)]
  dsimp only
  rw [succeeded, encrypted]

/-! ## Writing -/

/--
A writer whose accepted plaintexts are `plaintexts`, and that has handed out
`drained`.
-/
structure Sending (gcm : Gcm) (key : Block UInt8 32)
    (streamNonce : Block UInt8 12) (plaintexts : List (List UInt8))
    (drained : List UInt8) (writer : Writer capacity) : Prop
    extends Sendable streamNonce plaintexts where
  active : writer.active = true
  running : writer.failure = .ok
  keyed : writer.key = key
  streamed : writer.streamNonce = streamNonce
  records : writer.records = plaintexts.length
  nonce : writer.nonce = nonceAt streamNonce plaintexts.length
  nonceSent : writer.nonceSent = decide (plaintexts ≠ [])
  used_le : writer.outputUsed ≤ capacity
  offset_le : writer.outputOffset ≤ writer.outputUsed
  unfinished : writer.outputUsed ≠ 0 → writer.outputOffset ≠ writer.outputUsed
  stream : wireStream gcm key streamNonce plaintexts = drained ++ writer.pending

namespace Sending

variable {writer : Writer capacity}

theorem ready (sending : Sending gcm key streamNonce plaintexts drained writer) :
    writer.ready = .ok := by
  rw [Writer.ready, if_pos sending.active, sending.running]

theorem pending_idle (idle : writer.outputUsed = 0) : writer.pending = [] := by
  rw [Writer.pending, idle, Nat.zero_sub, Block.slice, List.take_zero]

/-- A writer without output accepts the next plaintext. -/
theorem write (reliable : services.Reliable Holds)
    (sending : Sending services.gcm key streamNonce plaintexts drained writer)
    (large : 33 ≤ capacity) (small : capacity ≤ txMaxBytes) (holds : Holds context)
    (idle : writer.outputUsed = 0) (some : bytes ≠ [])
    (spare : Spare streamNonce plaintexts.length) :
    ∃ next following, writer.write services context bytes =
          (.ok, min bytes.length (capacity - 32), next, following) ∧
        Holds following ∧
        Sending services.gcm key streamNonce
          (plaintexts ++ [bytes.take (capacity - 32)]) drained next := by
  have positive := List.length_pos_iff.mpr some
  have available : recordAvailable writer.nonce writer.records = true := by
    rw [sending.nonce, sending.records, recordAvailable_nonceAt _ _ _ sending.inside]
    exact decide_eq_true spare
  generalize chunkEq : bytes.take (min bytes.length (capacity - 32)) = chunk
  have chunkLength : chunk.length = min bytes.length (capacity - 32) := by
    rw [← chunkEq, List.length_take]
    omega
  have chunkTake : bytes.take (capacity - 32) = chunk := by
    rw [← chunkEq, Nat.min_comm, ← List.take_take, List.take_length]
  have prefixEq : (if writer.nonceSent then 0 else 12) = writer.lead.length := by
    rw [Writer.lead]
    split
    · rfl
    · exact (Block.cells_length _).symm
  have leadLe : writer.lead.length ≤ 12 := by
    rw [← prefixEq]
    split <;> omega
  have room : writer.lead.length + 4 + chunk.length + 16 ≤ capacity := by omega
  obtain ⟨started, header, body⟩ :=
    writer.assemble_slices rfl (show writer.lead.length + 4 + chunk.length ≤ capacity by omega)
  obtain ⟨following, kept, encrypted⟩ :=
    reliable.cryptoGcm holds writer.key writer.nonce (writer.streamNonce.cells ++
        BigEndian.toBytes 4 (chunk.length + tagBytes))
      (show chunk.length ≤ maxPlaintext by
        simp only [maxPlaintext]
        simp only [txMaxBytes] at small
        omega)
  have nextEq : nextNonce writer.nonce = (true, nonceAt streamNonce (plaintexts.length + 1)) := by
    rw [sending.nonce, nextNonce_nonceAt spare.2]
  unfold Writer.write
  rw [if_neg (by rw [sending.ready]; decide), if_neg (by omega),
    if_neg (by rw [not_not]; exact idle),
    if_neg (by rw [available]; decide)]
  simp only [chunkEq, prefixEq, header]
  rw [← chunkLength, body]
  simp only [encrypted, nextEq]
  refine ⟨_, following, rfl, kept, ?_⟩
  have offsetZero : writer.outputOffset = 0 := by
    have offsetLe := sending.offset_le
    omega
  have nonceFirst : writer.lead =
      if plaintexts = [] then streamNonce.cells else [] := by
    rw [Writer.lead, sending.nonceSent, sending.streamed]
    by_cases first : plaintexts = [] <;> simp [first]
  have ciphertextLength : (services.gcm.encrypt writer.key writer.nonce chunk).length =
        chunk.length := (services.gcm.encrypt_streaming _ _).length chunk
  have drainedEq := sending.stream
  rw [pending_idle idle, List.append_nil] at drainedEq
  refine
    { sending with
      inside := ?_, counted := ?_, sizes := ?_
      records := ?_, nonce := ?_, nonceSent := ?_
      used_le := ?_, offset_le := ?_, unfinished := ?_, stream := ?_ }
  · rw [List.length_append]
    exact spare.2
  · rw [List.length_append]
    exact spare.1
  · intro plaintext member
    rcases List.mem_append.mp member with old | new
    · exact sending.sizes plaintext old
    rw [List.mem_singleton.mp new, chunkTake]
    refine ⟨?_, ?_⟩
    · apply List.ne_nil_of_length_pos
      omega
    · simp only [txMaxBytes] at small
      simp only [maxPlaintext]
      omega
  · rw [List.length_append, sending.records]
    rfl
  · rw [List.length_append]
    rfl
  · simp
  · omega
  · simp only [offsetZero]
    omega
  · intro _
    simp only [offsetZero, tagBytes]
    omega
  · rw [wireStream_snoc, drainedEq, chunkTake, ← nonceFirst]
    congr 1
    have startLength : (writer.lead ++ BigEndian.toBytes 4
          (chunk.length + tagBytes)).length = writer.lead.length + 4 := by
      rw [List.length_append, BigEndian.toBytes_length]
    have sliced := storage_slice (writer.assemble writer.lead.length chunk)
      (by rw [startLength]; exact started)
      (show _ + (services.gcm.encrypt writer.key writer.nonce chunk).length + 16 ≤ capacity by
        rw [startLength, ciphertextLength]
        exact room)
    rw [startLength, ciphertextLength] at sliced
    simp only [Writer.pending, offsetZero, Nat.sub_zero]
    refine Eq.trans ?_ (sliced _).symm
    rw [sending.nonce, sending.keyed, sending.streamed]
    simp only [Record.bytes, wireRecord, List.append_assoc]

/-- A part of the output leaves the writer. -/
theorem consumeOutput (sending : Sending gcm key streamNonce plaintexts drained writer)
    (within : length ≤ writer.pending.length) :
    ∃ next, writer.consumeOutput length = (.ok, next) ∧ Sending gcm key streamNonce plaintexts
        (drained ++ writer.pending.take length) next ∧
      next.pending.length = writer.pending.length - length := by
  have usedLe := sending.used_le
  have offsetLe := sending.offset_le
  have pendingLength : writer.pending.length = writer.outputUsed - writer.outputOffset :=
    Block.slice_length _ (by omega)
  have pendingEq : (writer.storage.copy writer.outputOffset
        (List.replicate length 0)).slice (writer.outputOffset + length)
          (writer.outputUsed - (writer.outputOffset + length)) =
        writer.pending.drop length := by
    rw [Writer.pending, Block.slice_copy_behind, Block.drop_slice, Nat.sub_add_eq]
    · rw [List.length_replicate]
      omega
    · rw [List.length_replicate]
  have stream : wireStream gcm key streamNonce plaintexts = drained ++ writer.pending.take length ++
        writer.pending.drop length := by
    rw [List.append_assoc, List.take_append_drop]
    exact sending.stream
  unfold Writer.consumeOutput
  rw [if_neg (by rw [sending.ready]; decide), if_neg (by omega)]
  dsimp only
  split
  · rename_i finished
    have nothingLeft : writer.pending.drop length = [] := List.drop_of_length_le (by omega)
    rw [nothingLeft, List.append_nil] at stream
    refine ⟨_, rfl, ?_, ?_⟩
    · exact
        { sending with
          used_le := Nat.zero_le _
          offset_le := Nat.le_refl _
          unfinished := fun used => absurd rfl used
          stream := stream.trans ((List.append_nil _).symm.trans
            (congrArg _ (pending_idle rfl).symm)) }
    · rw [pending_idle rfl, List.length_nil]
      omega
  · rename_i unfinished
    refine ⟨_, rfl, ?_, ?_⟩
    · exact
        { sending with
          offset_le := by dsimp only; omega
          unfinished := fun _ => unfinished
          stream := by rw [stream]; exact congrArg _ pendingEq.symm }
    · refine (congrArg List.length pendingEq).trans ?_
      rw [List.length_drop]

theorem output (sending : Sending gcm key streamNonce plaintexts drained writer) :
    (writer.outputUsed = 0 ∧ writer.output = (.wouldBlock, [])) ∨
      (writer.pending ≠ [] ∧ writer.output = (.ok, writer.pending)) := by
  have usedLe := sending.used_le
  have offsetLe := sending.offset_le
  unfold Writer.output
  rw [if_neg (by rw [sending.ready]; decide)]
  split
  · rename_i idle
    exact .inl ⟨idle, rfl⟩
  rename_i busy
  have unfinished := sending.unfinished busy
  refine .inr ⟨?_, rfl⟩
  apply List.ne_nil_of_length_pos
  rw [Writer.pending, Block.slice_length _ (by omega)]
  omega

end Sending

end EspFrp.Aead

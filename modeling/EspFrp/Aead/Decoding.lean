import EspFrp.Aead.Exposure
import EspFrp.Aead.Sending

/-!
# The records of a stream

What a stream means to someone who holds all of it: the plaintexts of its
records up to the first one that is wrong, and how it ends.
-/

namespace EspFrp.Aead

open Library

/-- A stream ends between two records, inside of one, or with an error. -/
inductive Ending where
  | boundary
  | incomplete
  | failed (error : Result)
deriving DecidableEq, Repr

/-- The plaintexts of the records that follow `index` others. -/
def decodeRecords (gcm : Gcm) (key : Block UInt8 32)
    (streamNonce : Block UInt8 12) (index : Nat) (rest : List UInt8) :
    List (List UInt8) × Ending :=
  let header := rest.take 4
  let body := rest.drop 4
  let size := BigEndian.ofBytes header
  let ciphertext := body.take (size - tagBytes)
  let nonce := nonceAt streamNonce index
  if rest = [] then
    ([], .boundary)
  else if rest.length < 4 then
    ([], .incomplete)
  else if size < tagBytes ∨ rxBytes < size then
    ([], .failed .protocolError)
  else if ¬Spare streamNonce index then
    ([], .failed .counterExhausted)
  else if body.length < size then
    ([], .incomplete)
  else if (gcm.tag key nonce (streamNonce.cells ++ header) ciphertext).cells ≠
      (body.drop (size - tagBytes)).take tagBytes then
    ([], .failed .authenticationFailed)
  else
    let (plaintexts, ending) := decodeRecords gcm key streamNonce (index + 1) (body.drop size)
    (gcm.decrypt key nonce ciphertext :: plaintexts, ending)
termination_by rest.length
decreasing_by
  rw [List.length_drop, List.length_drop]
  omega

/-- The plaintexts of a stream: a nonce of 12 bytes, and the records. -/
def decodeStream (gcm : Gcm) (key : Block UInt8 32) (input : List UInt8) :
    List (List UInt8) × Ending :=
  if input = [] then
    ([], .boundary)
  else if short : input.length < 12 then
    ([], .incomplete)
  else
    decodeRecords gcm key ⟨input.take 12, List.length_take_of_le (Nat.le_of_not_lt short)⟩ 0
      (input.drop 12)

variable {State : Type} {platform : Platform State} {key : Block UInt8 32}
  {streamNonce : Block UInt8 12}

theorem decodeRecords_header (gcm : Gcm) (key : Block UInt8 32)
    (streamNonce : Block UInt8 12) (index : Nat) (header : Block UInt8 4)
    (body : List UInt8) :
    let size := BigEndian.ofBytes header.cells
    let ciphertext := body.take (size - tagBytes)
    let nonce := nonceAt streamNonce index
    decodeRecords gcm key streamNonce index (header.cells ++ body) =
      if size < tagBytes ∨ rxBytes < size then
        ([], .failed .protocolError)
      else if ¬Spare streamNonce index then
        ([], .failed .counterExhausted)
      else if body.length < size then
        ([], .incomplete)
      else if (gcm.tag key nonce (streamNonce.cells ++ header.cells)
          ciphertext).cells ≠ (body.drop (size - tagBytes)).take tagBytes then
        ([], .failed .authenticationFailed)
      else
        Prod.map (gcm.decrypt key nonce ciphertext :: ·) id
          (decodeRecords gcm key streamNonce (index + 1) (body.drop size)) := by
  have four := header.cells_length
  intro size ciphertext nonce
  rw [decodeRecords, if_neg, if_neg, List.take_left' four, List.drop_left' four]
  · rfl
  · rw [List.length_append]
    omega
  · exact List.ne_nil_of_length_pos (by rw [List.length_append]; omega)

/-! ## Records that are sound -/

/-- A record that the decoder accepts at its place. -/
structure Record.Sound (platform : Platform State) (key : Block UInt8 32)
    (streamNonce : Block UInt8 12) (index : Nat) (record : Record) : Prop
    extends record.Genuine platform key streamNonce index where
  same : record.verified = record.received
  small : record.received.length ≤ maxPlaintext
  spare : Spare streamNonce index

theorem Record.Sound.decode {record : Record} (sound : record.Sound platform key streamNonce index)
    (rest : List UInt8) :
    decodeRecords platform.gcm key streamNonce index (record.bytes ++ rest) =
      Prod.map (record.plaintext platform key streamNonce index :: ·) id
        (decodeRecords platform.gcm key streamNonce (index + 1) rest) := by
  have small := sound.small
  have tagLength := record.tag.cells_length
  have tag := sound.tag
  rw [sound.same] at tag
  rw [Record.bytes, List.append_assoc, List.append_assoc, decodeRecords_header]
  simp only [sound.header, Nat.add_sub_cancel, List.take_left,
    List.drop_left, List.take_left' tagLength, tag]
  simp only [maxPlaintext] at small
  simp only [tagBytes, rxBytes]
  rw [if_neg (by omega), if_neg (not_not.mpr sound.spare), if_neg, if_neg (not_not.mpr rfl),
    ← List.drop_drop, List.drop_left, List.drop_left' tagLength,
    Record.plaintext, sound.same]
  simp only [List.length_append, tagLength]
  omega

/-- The plaintexts of records that follow `index` others. -/
def texts (platform : Platform State) (key : Block UInt8 32)
    (streamNonce : Block UInt8 12) (index : Nat) (records : List Record) :
    List (List UInt8) :=
  records.mapIdx fun place record => record.plaintext platform key streamNonce (index + place)

/-- Decoding goes through sound records to what follows them. -/
theorem decodeRecords_append {records : List Record}
    (sound : ∀ place (record : Record), records[place]? = some record →
      record.Sound platform key streamNonce (index + place))
    (rest : List UInt8) :
    decodeRecords platform.gcm key streamNonce index (records.flatMap Record.bytes ++ rest) =
      Prod.map (texts platform key streamNonce index records ++ ·) id
        (decodeRecords platform.gcm key streamNonce (index + records.length) rest) := by
  induction records generalizing index with
  | nil => rfl
  | cons record records ih =>
    have others : ∀ place (record : Record), records[place]? = some record →
        record.Sound platform key streamNonce (index + 1 + place) := by
      intro place record found
      rw [Nat.add_assoc, Nat.add_comm 1]
      exact sound (place + 1) record found
    have first : record.Sound platform key streamNonce index := sound 0 record rfl
    rw [List.flatMap_cons, List.append_assoc, first.decode, ih others, List.length_cons, texts,
      texts, List.mapIdx_cons, Nat.add_assoc, Nat.add_comm 1]
    simp [Prod.map, Nat.add_assoc, Nat.add_comm 1]

theorem decodeStream_nonce (gcm : Gcm) (key : Block UInt8 32)
    (streamNonce : Block UInt8 12) (rest : List UInt8) :
    decodeStream gcm key (streamNonce.cells ++ rest) =
      decodeRecords gcm key streamNonce 0 rest := by
  have twelve := streamNonce.cells_length
  rw [decodeStream, if_neg, dif_neg]
  · simp only [List.take_left' twelve, List.drop_left' twelve]
  · rw [List.length_append]
    omega
  · exact List.ne_nil_of_length_pos (by rw [List.length_append]; omega)

/-! ## The stream of a writer -/

theorem wireRecord_sound (sendable : Sendable streamNonce plaintexts)
    (found : plaintexts[index]? = some plaintext) :
    (wireRecord platform.gcm key streamNonce index plaintext).Sound platform key streamNonce index ∧
      (wireRecord platform.gcm key streamNonce index plaintext).plaintext
        platform key streamNonce index = plaintext := by
  have small := (sendable.sizes plaintext (List.mem_of_getElem? found)).2
  have length : (wireRecord platform.gcm key streamNonce index
      plaintext).received.length = plaintext.length :=
    (platform.gcm.encrypt_streaming _ _).length plaintext
  refine ⟨⟨⟨rfl, rfl, ?_, fun _ => rfl⟩, rfl, by rwa [length],
    sendable.spare (List.getElem?_eq_some_iff.mp found).1⟩,
    platform.gcm.decrypt_encrypt _ _ _⟩
  rw [length]
  refine BigEndian.ofBytes_toBytes_of_lt ?_
  simp only [maxPlaintext] at small
  simp only [tagBytes]
  omega

/-- The stream of a writer carries its plaintexts. -/
theorem decode_wireStream (platform : Platform State) (key : Block UInt8 32)
    (sendable : Sendable streamNonce plaintexts) :
    decodeStream platform.gcm key (wireStream platform.gcm key streamNonce plaintexts) =
      (plaintexts, .boundary) := by
  rw [wireStream]
  split
  · next none =>
    rw [none]
    rfl
  have decoded := @decodeRecords_append _ platform key streamNonce 0
    (wireRecords platform.gcm key streamNonce plaintexts) (fun place record found => by
      rw [wireRecords, List.getElem?_mapIdx, Option.map_eq_some_iff] at found
      obtain ⟨plaintext, isText, rfl⟩ := found
      rw [Nat.zero_add]
      exact (wireRecord_sound sendable isText).1) []
  have last : decodeRecords platform.gcm key streamNonce
      (0 + (wireRecords platform.gcm key streamNonce plaintexts).length) [] = ([], .boundary) := by
    rw [decodeRecords, if_pos rfl]
  have same : texts platform key streamNonce 0
      (wireRecords platform.gcm key streamNonce plaintexts) = plaintexts := by
    apply List.ext_getElem?
    intro place
    rw [texts, List.getElem?_mapIdx, wireRecords, List.getElem?_mapIdx, Option.map_map]
    cases found : plaintexts[place]? with
    | none => rfl
    | some plaintext =>
      simp only [Option.map_some, Function.comp, Nat.zero_add]
      rw [(wireRecord_sound sendable found).2]
  rw [decodeStream_nonce, ← List.append_nil (List.flatMap _ _), decoded, last, same]
  simp [Prod.map]

end EspFrp.Aead

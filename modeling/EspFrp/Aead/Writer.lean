import EspFrp.Aead.Crypto

/-!
# The record writer

`efrp_aead_writer_t` of `aead.c`.  A record is assembled and encrypted in the
storage of the writer, and handed out from there in pieces.
-/

namespace EspFrp.Aead

open Library

variable {Context : Type} {capacity : Nat}

/-- `EFRP_AEAD_TX_MAX_BYTES`. -/
abbrev txMaxBytes : Nat := 65568

/-- `efrp_aead_writer_t` with its storage. -/
structure Writer (capacity : Nat) where
  active : Bool := false
  key : Block UInt8 32 := .filled 0 32
  streamNonce : Block UInt8 12 := .filled 0 12
  nonce : Block UInt8 12 := .filled 0 12
  storage : Block UInt8 capacity := .filled 0 capacity
  outputUsed : Nat := 0
  outputOffset : Nat := 0
  records : Nat := 0
  nonceSent : Bool := false
  failure : Result := .ok

namespace Writer

/-- `writer_ready`. -/
def ready (writer : Writer capacity) : Result :=
  if writer.active then writer.failure else .invalidState

/-- `writer_fail`. -/
def fail (writer : Writer capacity) (error : Result) : Result × Writer capacity :=
  (error,
    { writer with
      storage := .filled 0 capacity
      key := .filled 0 32
      outputOffset := 0
      outputUsed := 0
      failure := error })

/-- `efrp_aead_writer_init`, given the answer of `efrp_crypto_random`. -/
def init (writer : Writer capacity) (key : Block UInt8 32)
    (random : Result × Block UInt8 12) : Result × Writer capacity :=
  if capacity < 33 ∨ txMaxBytes < capacity then
    (.invalidArgument, writer)
  else if writer.active then
    (.invalidState, writer)
  else
    let writer : Writer capacity := { active := true, key := key, streamNonce := random.2 }
    if random.1 ≠ .ok then
      writer.fail random.1
    else
      (.ok, { writer with nonce := writer.streamNonce })

/-- The storage after the record header and the plaintext are in place. -/
def assemble (writer : Writer capacity) (prefixLength : Nat)
    (plaintext : List UInt8) : Block UInt8 capacity :=
  let storage :=
    if prefixLength ≠ 0 then
      writer.storage.copy 0 writer.streamNonce.cells
    else
      writer.storage
  let storage := storage.copy prefixLength (BigEndian.toBytes 4 (plaintext.length + tagBytes))
  storage.copy (prefixLength + 4) plaintext

/-- `efrp_aead_write`; the number is the plaintext it has accepted. -/
def write (services : Services Context) (writer : Writer capacity)
    (context : Context) (bytes : List UInt8) :
    Result × Nat × Writer capacity × Context :=
  if writer.ready ≠ .ok then
    (writer.ready, 0, writer, context)
  else if bytes.length = 0 then
    (.ok, 0, writer, context)
  else if writer.outputUsed ≠ 0 then
    (.wouldBlock, 0, writer, context)
  else if !recordAvailable writer.nonce writer.records then
    let (result, writer) := writer.fail .counterExhausted
    (result, 0, writer, context)
  else
    let length := min bytes.length (capacity - 32)
    let prefixLength := if writer.nonceSent then 0 else 12
    let storage := writer.assemble prefixLength (bytes.take length)
    let aad := writer.streamNonce.cells ++ storage.slice prefixLength 4
    let (result, buffer, tag, context) :=
      cryptoGcm services writer.key writer.nonce aad context
        (storage.slice (prefixLength + 4) length)
    let storage := (storage.copy (prefixLength + 4) buffer).copy
      (prefixLength + 4 + length) tag.cells
    let writer := { writer with storage := storage }
    if result ≠ .ok then
      let (result, writer) := writer.fail result
      (result, 0, writer, context)
    else
      let (stopped, nonce) := nextNonce writer.nonce
      let writer := { writer with nonce := nonce }
      if !stopped then
        let (result, writer) := writer.fail .counterExhausted
        (result, 0, writer, context)
      else
        (.ok, length,
          { writer with
            records := writer.records + 1
            nonceSent := true
            outputUsed := prefixLength + 4 + length + tagBytes },
          context)

/-- The bytes that are still to be handed out. -/
def pending (writer : Writer capacity) : List UInt8 :=
  writer.storage.slice writer.outputOffset (writer.outputUsed - writer.outputOffset)

/-- `efrp_aead_output`. -/
def output (writer : Writer capacity) : Result × List UInt8 :=
  if writer.ready ≠ .ok then
    (writer.ready, [])
  else if writer.outputUsed = 0 then
    (.wouldBlock, [])
  else
    (.ok, writer.pending)

/-- `efrp_aead_consume_output`. -/
def consumeOutput (writer : Writer capacity) (length : Nat) : Result × Writer capacity :=
  if writer.ready ≠ .ok then
    (writer.ready, writer)
  else if writer.outputUsed - writer.outputOffset < length then
    (.invalidArgument, writer)
  else
    let writer :=
      { writer with
        storage := writer.storage.copy writer.outputOffset (List.replicate length 0)
        outputOffset := writer.outputOffset + length }
    if writer.outputOffset = writer.outputUsed then
      (.ok, { writer with outputOffset := 0, outputUsed := 0 })
    else
      (.ok, writer)

end Writer

end EspFrp.Aead

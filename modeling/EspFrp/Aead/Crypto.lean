import Mathlib.Data.List.TakeDrop
import EspFrp.Types
import EspFrp.Library.Counter
import EspFrp.Library.Streaming

/-!
# The cryptographic back ends

`crypto_openssl.c` and `crypto_psa.c` as far as the record layer uses them:
encryption and decryption in place, and the complete verification of a record
that is read back from a store.

AES-256-GCM and SHA-256 are parameters.  Every call into the library may fail
and, with PSA, an update may hold back a part of its output; both are answers
of an oracle.  Consecutive library calls that end a function in the same way
when they fail are one question to the oracle.
-/

namespace EspFrp.Aead

open Library

variable (streamNonce : Block UInt8 12) (backend : Backend)

/-! ## Nonces -/

/-- `EFRP_AEAD_MAX_RECORDS`. -/
abbrev maxRecords : Nat := 4294967296

/-- The number of nonces. -/
abbrev nonceSpace : Nat := 79228162514264337593543950336

/-- `increment` of `aead.c` and `next_nonce` of `aead_flash.c`. -/
def nextNonce (nonce : Block UInt8 12) : Bool × Block UInt8 12 :=
  ((Counter.increment nonce.cells).1,
    { cells := (Counter.increment nonce.cells).2
      cells_length := by simp })

/-- `available` of `aead.c` and `record_available` of `aead_flash.c`. -/
def recordAvailable (nonce : Block UInt8 12) (records : Nat) : Bool :=
  decide (records < maxRecords) && !Counter.exhausted nonce.cells

/-- The nonce of record number `index` of a stream. -/
def nonceAt (streamNonce : Block UInt8 12) (index : Nat) : Block UInt8 12 where
  cells := BigEndian.toBytes 12 (BigEndian.ofBytes streamNonce.cells + index)
  cells_length := BigEndian.toBytes_length _ _

@[simp]
theorem nonceAt_zero : nonceAt streamNonce 0 = streamNonce := by
  rw [Block.ext_iff]
  exact BigEndian.toBytes_ofBytes_of_length streamNonce.cells_length

theorem nextNonce_nonceAt {streamNonce : Block UInt8 12} {index : Nat}
    (fits : BigEndian.ofBytes streamNonce.cells + index + 1 < nonceSpace) :
    nextNonce (nonceAt streamNonce index) = (true, nonceAt streamNonce (index + 1)) := by
  have incremented := Counter.increment_toBytes (show _ < 256 ^ 12 from fits)
  unfold nextNonce nonceAt
  refine Prod.ext ?_ (Block.ext ?_)
  · dsimp only
    rw [incremented]
  · dsimp only
    rw [incremented, Nat.add_assoc]

/-- A record is available below both limits. -/
theorem recordAvailable_nonceAt (index records : Nat)
    (fits : BigEndian.ofBytes streamNonce.cells + index < nonceSpace) :
    recordAvailable (nonceAt streamNonce index) records =
      decide (records < maxRecords ∧ BigEndian.ofBytes streamNonce.cells + index + 1 <
          nonceSpace) := by
  rw [recordAvailable, Counter.exhausted_eq, nonceAt, BigEndian.toBytes_length,
    BigEndian.ofBytes_toBytes_of_lt fits, Bool.decide_and, ← decide_not]
  congr 1
  rw [decide_eq_decide]
  simp only [nonceSpace] at *
  omega

/-! ## The library -/

/-- `EFRP_AEAD_TAG_BYTES`. -/
abbrev tagBytes : Nat := 16

/-- `EFRP_AEAD_MAX_PLAINTEXT`. -/
abbrev maxPlaintext : Nat := 65536

/-- `EFRP_AEAD_RX_CHUNK_BYTES`. -/
abbrev rxChunkBytes : Nat := 4096

/-- The size of the `input` work buffers. -/
abbrev inputBytes : Nat := 512

/-- AES-256-GCM: counter mode in both directions, and the tag. -/
structure Gcm where
  encrypt : Block UInt8 32 → Block UInt8 12 → List UInt8 → List UInt8
  decrypt : Block UInt8 32 → Block UInt8 12 → List UInt8 → List UInt8
  tag : Block UInt8 32 → Block UInt8 12 → List UInt8 → List UInt8 → Block UInt8 16
  encrypt_streaming : ∀ key nonce, Streaming (encrypt key nonce)
  decrypt_streaming : ∀ key nonce, Streaming (decrypt key nonce)
  decrypt_encrypt : ∀ key nonce plaintext,
    decrypt key nonce (encrypt key nonce plaintext) = plaintext

/-- How a library call ends. -/
inductive Status where
  | success
  | invalidSignature
  | failed
deriving DecidableEq, Repr

/-- The status of the last call: the library rejects a tag that is wrong. -/
def Status.checked (status : Status) (genuine : Bool) : Status :=
  if genuine then status else .invalidSignature

theorem Status.checked_eq_success {status : Status} :
    status.checked genuine = .success ↔ genuine = true ∧ status = .success := by
  cases genuine <;> simp [checked]

/-- The library calls of one operation on a record. -/
inductive LibraryCall where
  | setup
  | update (taken available : Nat)
  | conclude (remaining : Nat)
  | digest
  | cleanup
deriving DecidableEq, Repr

/-- The answer to a library call, with the number of bytes it outputs. -/
structure Answer where
  status : Status
  count : Nat
deriving DecidableEq, Repr

/-- The library that the record layer is built with. -/
inductive Backend where
  | openssl
  | psa
deriving DecidableEq, Repr

namespace Backend

/-- `outcome` of `crypto_psa.c`. -/
def outcome : Status → Result
  | .success => .ok
  | .invalidSignature => .authenticationFailed
  | .failed => .cryptoError

/-- The result of an operation in which a library call has failed. -/
def fault : Backend → Status → Result
  | .openssl, _ => .cryptoError
  | .psa, status => outcome status

/-- The result of a decryption whose last library call has failed. -/
def rejected : Backend → Status → Result
  | .openssl, _ => .authenticationFailed
  | .psa, status => outcome status

/-- The number of bytes of the next update of a transformation in place. -/
def updateSize : Backend → Nat → Nat
  | .openssl, remaining => remaining
  | .psa, remaining => min remaining inputBytes

/-- The check of the number of bytes that an update has output. -/
def accepts : Backend → (taken available count : Nat) → Bool
  | .openssl, taken, _, count => decide (count = taken)
  | .psa, _, available, count => decide (count ≤ available)

theorem updateSize_pos (positive : 0 < remaining) : 0 < backend.updateSize remaining := by
  cases backend with
  | openssl => exact positive
  | psa =>
    simp only [updateSize, inputBytes]
    omega

theorem updateSize_le (remaining : Nat) : backend.updateSize remaining ≤ remaining := by
  cases backend with
  | openssl => exact Nat.le_refl _
  | psa => exact Nat.min_le_left _ _

theorem le_of_accepts {backend : Backend}
    (accepted : backend.accepts taken available count = true) (within : taken ≤ available) :
    count ≤ available := by
  cases backend with
  | openssl =>
    rw [accepts, decide_eq_true_iff] at accepted
    omega
  | psa =>
    rw [accepts, decide_eq_true_iff] at accepted
    exact accepted

theorem fault_ne_ok (failed : status ≠ .success) : backend.fault status ≠ .ok := by
  cases backend <;> cases status <;> first | decide | contradiction

theorem rejected_ne_ok (failed : status ≠ .success) : backend.rejected status ≠ .ok := by
  cases backend <;> cases status <;> first | decide | contradiction

end Backend

/--
What an operation runs on: the primitives, the oracle of the library, and the
callback that reads the store.
-/
structure Services (Context : Type) where
  backend : Backend
  gcm : Gcm
  hash : List UInt8 → Block UInt8 32
  library : Context → LibraryCall → Answer × Context
  read : Context → (offset length : Nat) → Result × List UInt8 × Context

variable {Context : Type} {capacity : Nat}

/--
The end of an operation.  `crypto_psa.c` aborts its operations and destroys
its key, and a failure of that replaces every result.
-/
def Services.cleanup (services : Services Context) (result : Result)
    (context : Context) : Result × Context :=
  match services.backend with
  | .openssl => (result, context)
  | .psa =>
    let (answer, context) := services.library context .cleanup
    if answer.status = .success then
      (result, context)
    else
      (.cryptoError, context)

/-! ## Transformations in place -/

/-- A transformation in place under way. -/
structure Transfer (Context : Type) where
  context : Context
  input : List UInt8
  consumed : Nat
  produced : Nat
  buffer : List UInt8

/--
The update loops of `efrp_crypto_gcm` and `efrp_crypto_gcm_decrypt_chunks`.
OpenSSL makes one update of the whole buffer, PSA updates of 512 bytes.
-/
def transformLoop (services : Services Context) (transform : List UInt8 → List UInt8) (total : Nat)
    (transfer : Transfer Context) : Result × Transfer Context :=
  if transfer.consumed < total then
    let taken := services.backend.updateSize (total - transfer.consumed)
    let input := transfer.input ++ (transfer.buffer.drop transfer.consumed).take taken
    let available := transfer.consumed + taken - transfer.produced
    match services.library transfer.context (.update taken available) with
    | (⟨.success, count⟩, context) =>
      if services.backend.accepts taken available count then
        transformLoop services transform total
          { context := context
            input := input
            consumed := transfer.consumed + taken
            produced := transfer.produced + count
            buffer := overwrite transfer.buffer transfer.produced
              (produce transform input transfer.produced count) }
      else
        (.cryptoError, { transfer with context := context })
    | (⟨status, _⟩, context) =>
      (services.backend.fault status, { transfer with context := context })
  else
    (.ok, transfer)
termination_by total - transfer.consumed
decreasing_by
  have positive := services.backend.updateSize_pos (show 0 < total - transfer.consumed by omega)
  omega

/--
The last call of a transformation in place.  It must output exactly what has
been held back.
-/
def transformConclude (services : Services Context)
    (transform : List UInt8 → List UInt8) (onFailure : Status → Result)
    (genuine : Bool) (total : Nat) (transfer : Transfer Context) :
    Result × Transfer Context :=
  let remaining := total - transfer.produced
  let (answer, context) := services.library transfer.context (.conclude remaining)
  let status := answer.status.checked genuine
  if status ≠ .success then
    (onFailure status, { transfer with context := context })
  else if answer.count ≠ remaining then
    (.cryptoError, { transfer with context := context })
  else
    (.ok,
      { transfer with
        context := context
        buffer := overwrite transfer.buffer transfer.produced
          (produce transform transfer.input transfer.produced answer.count) })

/-- A buffer before any library call. -/
def Transfer.start (context : Context) (buffer : List UInt8) : Transfer Context where
  context := context
  input := []
  consumed := 0
  produced := 0
  buffer := buffer

/--
A transformation of a whole buffer in place.  `genuine` decides about the
last call from what has been read.
-/
def transformBuffer (services : Services Context)
    (transform : List UInt8 → List UInt8) (onFailure : Status → Result)
    (genuine : List UInt8 → Bool) (context : Context)
    (buffer : List UInt8) : Result × List UInt8 × Context :=
  let (answer, context) := services.library context .setup
  let (result, transfer) :=
    if answer.status ≠ .success then
      (services.backend.fault answer.status, .start context buffer)
    else
      match transformLoop services transform buffer.length (.start context buffer) with
      | (.ok, transfer) =>
        transformConclude services transform onFailure
          (genuine transfer.input) buffer.length transfer
      | failure => failure
  let (result, context) := services.cleanup result transfer.context
  (result, transfer.buffer, context)

/--
`efrp_crypto_gcm` with `encrypt`: the buffer is encrypted in place and the tag
is returned.
-/
def cryptoGcm (services : Services Context)
    (key : Block UInt8 32) (nonce : Block UInt8 12) (aad : List UInt8)
    (context : Context) (buffer : List UInt8) :
    Result × List UInt8 × Block UInt8 16 × Context :=
  if maxPlaintext < buffer.length then
    (.invalidArgument, buffer, .filled 0 16, context)
  else
    let (result, buffer, context) :=
      transformBuffer services (services.gcm.encrypt key nonce)
        services.backend.fault (fun _ => true) context buffer
    (result, buffer, services.gcm.tag key nonce aad buffer, context)

/--
`efrp_crypto_gcm_decrypt_chunks` for the one chunk that the reader passes, or
for none when the buffer is empty, and without `words_only`.
-/
def cryptoGcmDecryptChunks (services : Services Context)
    (key : Block UInt8 32) (nonce : Block UInt8 12) (aad : List UInt8)
    (tag : Block UInt8 16) (context : Context) (buffer : List UInt8) :
    Result × List UInt8 × Context :=
  if rxChunkBytes < buffer.length then
    match services.backend with
    | .openssl => (.cryptoError, buffer, context)
    | .psa => (.invalidArgument, buffer, context)
  else
    transformBuffer services (services.gcm.decrypt key nonce) services.backend.rejected
      (fun ciphertext => decide (services.gcm.tag key nonce aad ciphertext = tag))
      context buffer

/-! ## Verification of a stored record -/

/-- The fixed arguments of `efrp_crypto_gcm_decrypt_store`. -/
structure StoredRecord where
  key : Block UInt8 32
  nonce : Block UInt8 12
  aad : List UInt8
  sequence : Nat
  plainLength : Nat
  tag : Block UInt8 16
  windowOffset : Nat
  windowLength : Nat
  expectedDigest : Option (Block UInt8 32)

/-- The bytes that the digest of a record covers. -/
def StoredRecord.message (record : StoredRecord) (ciphertext : List UInt8) : List UInt8 :=
  record.aad ++ record.nonce.cells ++
    BigEndian.toBytes 8 record.sequence ++ record.tag.cells ++ ciphertext

/-- A verification under way, with the ciphertext read so far. -/
structure Pass (Context : Type) (capacity : Nat) where
  context : Context
  ciphertext : List UInt8
  produced : Nat
  window : Block UInt8 capacity

/-- A verification that has not read anything. -/
def Pass.start (context : Context) (window : Block UInt8 capacity) : Pass Context capacity where
  context := context
  ciphertext := []
  produced := 0
  window := window

/-- The loop of `efrp_crypto_gcm_decrypt_store` over the stored bytes. -/
def decryptStoreLoop (services : Services Context)
    (record : StoredRecord) (pass : Pass Context capacity) :
    Result × Pass Context capacity :=
  if pass.ciphertext.length < record.plainLength then
    let taken := min (record.plainLength - pass.ciphertext.length) inputBytes
    match services.read pass.context pass.ciphertext.length taken with
    | (.ok, bytes, context) =>
      let ciphertext := pass.ciphertext ++ bytes.takeD taken 0
      let available := ciphertext.length - pass.produced
      match services.library context (.update taken available) with
      | (⟨.success, count⟩, context) =>
        if services.backend.accepts taken available count then
          decryptStoreLoop services record
            { context := context
              ciphertext := ciphertext
              produced := pass.produced + count
              window := copyWindow pass.window record.windowOffset record.windowLength pass.produced
                (produce (services.gcm.decrypt record.key record.nonce)
                  ciphertext pass.produced count) }
        else
          (.cryptoError, { pass with context := context })
      | (⟨status, _⟩, context) => (services.backend.fault status, { pass with context := context })
    | (_, _, context) => (.storageError, { pass with context := context })
  else
    (.ok, pass)
termination_by record.plainLength - pass.ciphertext.length
decreasing_by
  simp only [List.length_append, List.takeD_length, inputBytes]
  omega

/-- The checks of `efrp_crypto_gcm_decrypt_store` after its loop. -/
def decryptStoreConclude (services : Services Context)
    (record : StoredRecord) (pass : Pass Context capacity) :
    Result × Pass Context capacity :=
  let remaining := record.plainLength - pass.produced
  let (answer, context) := services.library pass.context (.conclude remaining)
  let status := answer.status.checked (services.gcm.tag record.key record.nonce record.aad
      pass.ciphertext = record.tag)
  if status ≠ .success then
    (services.backend.rejected status, { pass with context := context })
  else if answer.count ≠ remaining then
    (.cryptoError, { pass with context := context })
  else
    let window := copyWindow pass.window record.windowOffset record.windowLength pass.produced
      (produce (services.gcm.decrypt record.key record.nonce)
        pass.ciphertext pass.produced answer.count)
    let (answer, context) := services.library context .digest
    let pass := { pass with context := context, window := window }
    if answer.status ≠ .success then
      (services.backend.fault answer.status, pass)
    else if record.expectedDigest.any (· ≠ services.hash (record.message pass.ciphertext)) then
      (.storageError, pass)
    else
      (.ok, pass)

/-- What `efrp_crypto_gcm_decrypt_store` leaves behind. -/
structure Verification (Context : Type) (capacity : Nat) where
  result : Result
  digest : Block UInt8 32
  ciphertext : List UInt8
  window : Block UInt8 capacity
  context : Context

/-- The whole pass from the setup of the library to the last check. -/
def decryptStorePass (services : Services Context)
    (record : StoredRecord) (window : Block UInt8 capacity)
    (context : Context) : Result × Pass Context capacity :=
  let (answer, context) := services.library context .setup
  if answer.status ≠ .success then
    (services.backend.fault answer.status, .start context window)
  else
    match decryptStoreLoop services record (.start context window) with
    | (.ok, pass) => decryptStoreConclude services record pass
    | failure => failure

/--
`efrp_crypto_gcm_decrypt_store`.  The window is wiped unless the whole pass
succeeds.
-/
def cryptoGcmDecryptStore (services : Services Context)
    (record : StoredRecord) (window : Block UInt8 capacity)
    (context : Context) : Verification Context capacity :=
  if maxPlaintext < record.plainLength ∨ record.plainLength < record.windowOffset ∨
      record.plainLength - record.windowOffset < record.windowLength then
    { result := .invalidArgument
      digest := .filled 0 32
      ciphertext := []
      window := window
      context := context }
  else
    let (passed, pass) := decryptStorePass services record window context
    let (result, context) := services.cleanup passed pass.context
    { result := result
      digest :=
        if passed = .ok then
          services.hash (record.message pass.ciphertext)
        else
          .filled 0 32
      ciphertext := pass.ciphertext
      window :=
        if result = .ok then
          pass.window
        else
          pass.window.copy 0 (List.replicate record.windowLength 0)
      context := context }

end EspFrp.Aead

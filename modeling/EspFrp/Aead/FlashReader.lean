import EspFrp.Aead.Crypto

/-!
# The flash-backed record reader

`efrp_aead_flash_reader_t` of `aead_flash.c`.  A record of at most 4096
plaintext bytes is decrypted in the window of the reader.  The ciphertext of
a larger one goes to a leased scratch store, and the whole of it is verified
again for every window of plaintext that is handed out.

The reader runs on a platform: the callbacks of the store and the library,
both acting on one state.  An endpoint is a reader with that state and with a
history that no function reads: the calls made to the store, the messages
whose digest was accepted, the ciphertext received for the current record,
and the records that have been accepted.
-/

namespace EspFrp.Aead

open Library

/-- `EFRP_AEAD_RX_BYTES`. -/
abbrev rxBytes : Nat := 65552

/--
`efrp_aead_flash_store_t` and the library.  A lease is a number, and what a
read leaves in its buffer is a list that is cut or padded to the length of
the buffer.
-/
structure Platform (State : Type) where
  backend : Backend
  gcm : Gcm
  hash : List UInt8 → Block UInt8 32
  library : State → LibraryCall → Answer × State
  begin : State → Result × Nat × State
  write : State → (lease offset : Nat) → List UInt8 → Result × State
  read : State → (lease offset length : Nat) → Result × List UInt8 × State
  clear : State → (lease : Nat) → Result × State

/-- `efrp_aead_flash_reader_t` with its window. -/
structure Reader where
  key : Block UInt8 32 := .filled 0 32
  streamNonce : Block UInt8 12 := .filled 0 12
  nonce : Block UInt8 12 := .filled 0 12
  recordNonce : Block UInt8 12 := .filled 0 12
  header : Block UInt8 4 := .filled 0 4
  tag : Block UInt8 16 := .filled 0 16
  digest : Block UInt8 32 := .filled 0 32
  window : Block UInt8 4096 := .filled 0 4096
  lease : Nat := 0
  records : Nat := 0
  recordSequence : Nat := 0
  flashRecords : Nat := 0
  flashPasses : Nat := 0
  flashReadBytes : Nat := 0
  nonceUsed : Nat := 0
  headerUsed : Nat := 0
  bodyUsed : Nat := 0
  bodyExpected : Nat := 0
  plainUsed : Nat := 0
  plainOffset : Nat := 0
  windowUsed : Nat := 0
  windowOffset : Nat := 0
  active : Bool := false
  leased : Bool := false
  ready : Bool := false
  inMemory : Bool := false
  failure : Result := .ok

/-- The function `ready`. -/
def Reader.readyState (reader : Reader) : Result :=
  if reader.active then reader.failure else .invalidState

/-- The length of the ciphertext of the current record. -/
def Reader.plainLength (reader : Reader) : Nat := reader.bodyExpected - tagBytes

/-- The additional data of the current record. -/
def Reader.aad (reader : Reader) : List UInt8 := reader.streamNonce.cells ++ reader.header.cells

/-- The plaintext that the window holds and that is not consumed. -/
def Reader.showing (reader : Reader) : List UInt8 :=
  if reader.inMemory then
    reader.window.slice reader.plainOffset (reader.plainUsed - reader.plainOffset)
  else
    reader.window.slice reader.windowOffset (reader.windowUsed - reader.windowOffset)

/-- `efrp_aead_flash_reader_init`. -/
def Reader.init (reader : Reader) (key : Block UInt8 32) : Result × Reader :=
  if reader.active then
    (.invalidState, reader)
  else
    (.ok, { active := true, key := key })

/-- Bytes of the stream nonce have arrived. -/
def Reader.addNonce (reader : Reader) (bytes : List UInt8) : Reader :=
  { reader with
    streamNonce := reader.streamNonce.copy reader.nonceUsed bytes
    nonceUsed := reader.nonceUsed + bytes.length }

/-- Bytes of a record header have arrived. -/
def Reader.addHeader (reader : Reader) (bytes : List UInt8) : Reader :=
  { reader with
    header := reader.header.copy reader.headerUsed bytes
    headerUsed := reader.headerUsed + bytes.length }

/-- A header announces a record of this size. -/
def Reader.announced (reader : Reader) (size : Nat) : Reader :=
  { reader with
    bodyExpected := size
    recordSequence := reader.records
    inMemory := decide (size - tagBytes ≤ 4096)
    recordNonce := reader.nonce }

/-- Ciphertext has arrived for the window. -/
def Reader.addWindow (reader : Reader) (bytes : List UInt8) : Reader :=
  { reader with
    window := reader.window.copy reader.bodyUsed bytes }

/-- Bytes of the tag have arrived. -/
def Reader.addTag (reader : Reader) (bytes : List UInt8) : Reader :=
  { reader with
    tag := reader.tag.copy (reader.bodyUsed - reader.plainLength) bytes }

/-- A part of the body has been kept. -/
def Reader.addBody (reader : Reader) (count : Nat) : Reader :=
  { reader with bodyUsed := reader.bodyUsed + count }

/-- Plaintext has been consumed, and is wiped from the window. -/
def Reader.consumed (reader : Reader) (length : Nat) : Reader :=
  if reader.inMemory then
    { reader with
      window := reader.window.copy reader.plainOffset (List.replicate length 0)
      plainOffset := reader.plainOffset + length }
  else
    let used := reader.windowOffset + length
    { reader with
      window := reader.window.copy reader.windowOffset (List.replicate length 0)
      plainOffset := reader.plainOffset + length
      windowOffset := if used = reader.windowUsed then 0 else used
      windowUsed :=
        if used = reader.windowUsed then 0 else reader.windowUsed }

/-- The number of bytes that can be consumed. -/
def Reader.consumable (reader : Reader) : Nat :=
  if reader.inMemory then
    reader.plainUsed - reader.plainOffset
  else
    reader.windowUsed - reader.windowOffset

/-- `reset_record`. -/
def Reader.resetRecord (reader : Reader) : Reader :=
  { reader with
    header := .filled 0 4
    recordNonce := .filled 0 12
    tag := .filled 0 16
    digest := .filled 0 32
    headerUsed := 0
    bodyUsed := 0
    bodyExpected := 0
    plainUsed := 0
    plainOffset := 0
    windowUsed := 0
    windowOffset := 0
    recordSequence := 0
    ready := false
    inMemory := false }

/-- What `fail` wipes before it releases the store. -/
def Reader.wiped (reader : Reader) : Reader :=
  { reader with
    window := .filled 0 4096
    key := .filled 0 32
    ready := false
    plainUsed := 0
    plainOffset := 0
    windowUsed := 0
    windowOffset := 0 }

/-! ## Endpoints -/

/--
A call to the store with its result.  `begin` carries the length of the
ciphertext that it is made for, and the lease that it returns.
-/
inductive StoreCall where
  | begin (length : Nat) (result : Result) (lease : Nat)
  | write (lease offset length : Nat) (result : Result)
  | read (lease offset length : Nat) (result : Result)
  | clear (lease : Nat) (result : Result)
deriving DecidableEq, Repr

/--
A record that the reader has accepted: its header, ciphertext and tag as they
were received, and the ciphertext that has been verified.
-/
structure Record where
  header : Block UInt8 4
  received : List UInt8
  tag : Block UInt8 16
  verified : List UInt8

/-- The bytes of a record on the wire. -/
def Record.bytes (record : Record) : List UInt8 :=
  record.header.cells ++ record.received ++ record.tag.cells

/-- What has happened to an endpoint. -/
structure History where
  calls : List StoreCall := []
  hashed : List (List UInt8) := []
  incoming : List UInt8 := []
  records : List Record := []

/-- A reader on its platform. -/
structure Endpoint (State : Type) where
  reader : Reader
  state : State
  history : History := {}

variable {State : Type}

namespace Endpoint

/-- Change the reader. -/
def update (endpoint : Endpoint State) (change : Reader → Reader) :
    Endpoint State :=
  { endpoint with reader := change endpoint.reader }

/-- The platform has acted, and a call to the store was made. -/
def called (endpoint : Endpoint State) (call : StoreCall) (state : State) : Endpoint State :=
  { endpoint with
    state := state
    history :=
      { endpoint.history with
        calls := endpoint.history.calls ++ [call] } }

/-- A call into the library. -/
def library (platform : Platform State) (endpoint : Endpoint State)
    (call : LibraryCall) : Answer × Endpoint State :=
  let (answer, state) := platform.library endpoint.state call
  (answer, { endpoint with state := state })

/-- `read_store`. -/
def readStore (platform : Platform State) (endpoint : Endpoint State)
    (offset length : Nat) : Result × List UInt8 × Endpoint State :=
  let reader := endpoint.reader
  let (result, bytes, state) := platform.read endpoint.state reader.lease offset length
  let endpoint := endpoint.called (.read reader.lease offset length result) state
  if result = .ok then
    (result, bytes, endpoint.update fun reader =>
      { reader with flashReadBytes := reader.flashReadBytes + length })
  else
    (result, bytes, endpoint)

/-- The library and the store, as the reader gives them to a pass. -/
def services (platform : Platform State) : Services (Endpoint State) where
  backend := platform.backend
  gcm := platform.gcm
  hash := platform.hash
  library := library platform
  read := readStore platform

/-- `release_store`. -/
def releaseStore (platform : Platform State)
    (endpoint : Endpoint State) : Result × Endpoint State :=
  if !endpoint.reader.leased then
    (.ok, endpoint)
  else
    let lease := endpoint.reader.lease
    let (result, state) := platform.clear endpoint.state lease
    let endpoint := endpoint.called (.clear lease result) state
    if result ≠ .ok then
      (.storageError, endpoint)
    else
      (.ok, endpoint.update fun reader => { reader with leased := false, lease := 0 })

/-- `fail`. -/
def fail (platform : Platform State) (endpoint : Endpoint State)
    (error : Result) : Result × Endpoint State :=
  let endpoint := endpoint.update Reader.wiped
  let (released, endpoint) := endpoint.releaseStore platform
  let failure := if released = .ok then error else .storageError
  (failure, endpoint.update fun reader => { reader with failure := failure })

/-! ## Verification -/

/-- The arguments of a pass over the stored ciphertext. -/
def storedRecord (reader : Reader) (offset length : Nat)
    (expected : Option (Block UInt8 32)) : StoredRecord where
  key := reader.key
  nonce := reader.recordNonce
  aad := reader.aad
  sequence := reader.recordSequence
  plainLength := reader.plainLength
  tag := reader.tag
  windowOffset := offset
  windowLength := length
  expectedDigest := expected

/--
`verify`.  The list is the ciphertext that has been read; the message whose
digest was accepted enters the history.
-/
def verify (platform : Platform State) (endpoint : Endpoint State)
    (offset length : Nat) (expected : Option (Block UInt8 32)) :
    Result × List UInt8 × Endpoint State :=
  let record := storedRecord endpoint.reader offset length expected
  let verification :=
    cryptoGcmDecryptStore (services platform) record endpoint.reader.window endpoint
  let endpoint := verification.context.update fun reader =>
    { reader with window := verification.window }
  if verification.result = .ok then
    let endpoint := endpoint.update fun reader =>
      { reader with
        digest :=
          if expected.isNone then verification.digest
          else reader.digest
        flashPasses := reader.flashPasses + 1 }
    (.ok, verification.ciphertext,
      { endpoint with
        history :=
          { endpoint.history with
            hashed := endpoint.history.hashed ++ [record.message verification.ciphertext] } })
  else
    (verification.result, verification.ciphertext, endpoint)

/--
The decryption of a record in the window.  The list is the ciphertext that
was there.
-/
def decryptWindow (platform : Platform State) (endpoint : Endpoint State) :
    Result × List UInt8 × Endpoint State :=
  let reader := endpoint.reader
  let ciphertext := reader.window.slice 0 reader.plainLength
  let (result, plaintext, endpoint) :=
    cryptoGcmDecryptChunks (services platform) reader.key
      reader.recordNonce reader.aad reader.tag endpoint ciphertext
  (result, ciphertext, endpoint.update fun reader =>
    { reader with window := reader.window.copy 0 plaintext })

/-! ## Feeding -/

/-- What a part of the loop of `efrp_aead_flash_feed` does next. -/
inductive Stage (State : Type) where
  | proceed (endpoint : Endpoint State) (rest : List UInt8)
  | again (endpoint : Endpoint State) (rest : List UInt8)
  | stop (result : Result) (endpoint : Endpoint State) (rest : List UInt8)

/-- The part of the loop that collects the stream nonce. -/
def feedNonce (endpoint : Endpoint State) (rest : List UInt8) :
    Stage State :=
  if endpoint.reader.nonceUsed < 12 then
    let count := min (12 - endpoint.reader.nonceUsed) rest.length
    let endpoint := endpoint.update (·.addNonce (rest.take count))
    if endpoint.reader.nonceUsed ≠ 12 then
      .again endpoint (rest.drop count)
    else
      .proceed (endpoint.update fun reader => { reader with nonce := reader.streamNonce })
        (rest.drop count)
  else
    .proceed endpoint rest

/-- A new record is expected. -/
def announced (endpoint : Endpoint State) (size : Nat) :
    Endpoint State :=
  { endpoint with
    reader := endpoint.reader.announced size
    history := { endpoint.history with incoming := [] } }

/-- `begin` has answered. -/
def began (endpoint : Endpoint State) (result : Result) (lease : Nat)
    (state : State) : Endpoint State :=
  (endpoint.called (.begin endpoint.reader.plainLength result lease)
    state).update fun reader => { reader with lease := lease }

/-- The start of a record whose header is complete. -/
def announce (platform : Platform State) (endpoint : Endpoint State) : Result × Endpoint State :=
  let size := BigEndian.ofBytes endpoint.reader.header.cells
  if size < tagBytes ∨ rxBytes < size then
    endpoint.fail platform .protocolError
  else if !recordAvailable endpoint.reader.nonce endpoint.reader.records then
    endpoint.fail platform .counterExhausted
  else
    let endpoint := endpoint.announced size
    if endpoint.reader.inMemory then
      (.ok, endpoint)
    else
      let (result, lease, state) := platform.begin endpoint.state
      let endpoint := endpoint.began result lease state
      if result ≠ .ok ∨ lease = 0 then
        endpoint.fail platform .storageError
      else
        (.ok, endpoint.update fun reader => { reader with leased := true })

/-- The part of the loop that collects a record header. -/
def feedHeader (platform : Platform State) (endpoint : Endpoint State)
    (rest : List UInt8) : Stage State :=
  if endpoint.reader.headerUsed < 4 then
    let count := min (4 - endpoint.reader.headerUsed) rest.length
    let endpoint := endpoint.update (·.addHeader (rest.take count))
    if endpoint.reader.headerUsed ≠ 4 then
      .again endpoint (rest.drop count)
    else
      match endpoint.announce platform with
      | (.ok, endpoint) => .proceed endpoint (rest.drop count)
      | (result, endpoint) => .stop result endpoint (rest.drop count)
  else
    .proceed endpoint rest

/-- A piece of ciphertext has arrived. -/
def received (endpoint : Endpoint State) (bytes : List UInt8) :
    Endpoint State :=
  { endpoint with
    history :=
      { endpoint.history with
        incoming := endpoint.history.incoming ++ bytes } }

/-- Keep a piece of the body: ciphertext in the window or the store, tag. -/
def storeBody (platform : Platform State) (endpoint : Endpoint State)
    (bytes : List UInt8) : Result × Endpoint State :=
  let reader := endpoint.reader
  if reader.bodyUsed < reader.plainLength then
    if reader.inMemory then
      (.ok, (endpoint.received bytes).update (·.addWindow bytes))
    else
      let (result, state) := platform.write endpoint.state reader.lease reader.bodyUsed bytes
      let endpoint :=
        endpoint.called (.write reader.lease reader.bodyUsed bytes.length result) state
      if result ≠ .ok then
        endpoint.fail platform .storageError
      else
        (.ok, endpoint.received bytes)
  else
    (.ok, endpoint.update (·.addTag bytes))

/-- The end of a record that is used up. -/
def finishRecord (platform : Platform State)
    (endpoint : Endpoint State) : Result × Endpoint State :=
  match endpoint.releaseStore platform with
  | (.ok, endpoint) => (.ok, endpoint.update Reader.resetRecord)
  | (_, endpoint) => endpoint.fail platform .storageError

/-- The current record counts as accepted. -/
def accepted (endpoint : Endpoint State) (verified : List UInt8) :
    Endpoint State :=
  { endpoint with
    reader :=
      { endpoint.reader with
        records := endpoint.reader.records + 1
        plainUsed := endpoint.reader.plainLength }
    history :=
      { endpoint.history with
        records := endpoint.history.records ++
          [{ header := endpoint.reader.header
             received := endpoint.history.incoming
             tag := endpoint.reader.tag
             verified := verified }] } }

/-- The nonce of the next record is known. -/
def advanced (endpoint : Endpoint State) (nonce : Block UInt8 12) :
    Endpoint State :=
  endpoint.update fun reader =>
    { reader with
      flashRecords :=
        if reader.inMemory then reader.flashRecords
        else reader.flashRecords + 1
      nonce := nonce }

/-- The verification of a record whose body is complete. -/
def check (platform : Platform State) (endpoint : Endpoint State) :
    Result × List UInt8 × Endpoint State :=
  if endpoint.reader.inMemory then
    endpoint.decryptWindow platform
  else
    endpoint.verify platform 0 0 none

/-- The end of a record whose body is complete. -/
def complete (platform : Platform State) (endpoint : Endpoint State) : Result × Endpoint State :=
  let (result, verified, endpoint) := endpoint.check platform
  if result ≠ .ok then
    endpoint.fail platform result
  else
    let (stopped, nonce) := nextNonce endpoint.reader.nonce
    let endpoint := endpoint.advanced nonce
    if !stopped then
      endpoint.fail platform .counterExhausted
    else
      let endpoint := endpoint.accepted verified
      if endpoint.reader.plainLength ≠ 0 then
        (.ok, endpoint.update fun reader => { reader with ready := true })
      else
        endpoint.finishRecord platform

/-- The part of the loop that collects ciphertext and tag. -/
def feedBody (platform : Platform State) (endpoint : Endpoint State)
    (rest : List UInt8) : Stage State :=
  if rest.length = 0 then
    .stop .ok endpoint rest
  else
    let reader := endpoint.reader
    let available := min (reader.bodyExpected - reader.bodyUsed) rest.length
    let count :=
      if reader.bodyUsed < reader.plainLength then
        min available (reader.plainLength - reader.bodyUsed)
      else
        available
    match endpoint.storeBody platform (rest.take count) with
    | (.ok, endpoint) =>
      let endpoint := endpoint.update (·.addBody count)
      if endpoint.reader.bodyUsed ≠ endpoint.reader.bodyExpected then
        .again endpoint (rest.drop count)
      else
        match endpoint.complete platform with
        | (.ok, endpoint) => .again endpoint (rest.drop count)
        | (result, endpoint) => .stop result endpoint (rest.drop count)
    | (result, endpoint) => .stop result endpoint rest

/-- One turn of the loop of `efrp_aead_flash_feed`. -/
def feedOnce (platform : Platform State) (endpoint : Endpoint State)
    (rest : List UInt8) : Stage State :=
  if endpoint.reader.ready then
    .stop .wouldBlock endpoint rest
  else
    match endpoint.feedNonce rest with
    | .proceed endpoint rest =>
      match endpoint.feedHeader platform rest with
      | .proceed endpoint rest => endpoint.feedBody platform rest
      | stage => stage
    | stage => stage

/--
The loop of `efrp_aead_flash_feed`.  Every turn that goes on has consumed
something; a turn that has not would repeat for ever.
-/
def feedLoop (platform : Platform State) (endpoint : Endpoint State)
    (rest : List UInt8) : Result × List UInt8 × Endpoint State :=
  if rest.length = 0 then
    (.ok, rest, endpoint)
  else
    match endpoint.feedOnce platform rest with
    | .proceed next remaining | .again next remaining =>
      if remaining.length < rest.length then
        feedLoop platform next remaining
      else
        (.ok, remaining, next)
    | .stop result next remaining => (result, remaining, next)
termination_by rest.length

/-- `efrp_aead_flash_feed`; the number is the bytes it has consumed. -/
def feed (platform : Platform State) (endpoint : Endpoint State)
    (bytes : List UInt8) : Result × Nat × Endpoint State :=
  if endpoint.reader.readyState ≠ .ok then
    (endpoint.reader.readyState, 0, endpoint)
  else
    let (result, rest, endpoint) := endpoint.feedLoop platform bytes
    (result, bytes.length - rest.length, endpoint)

/-! ## Plaintext -/

/-- `efrp_aead_flash_plaintext`. -/
def plaintext (platform : Platform State) (endpoint : Endpoint State) :
    Result × List UInt8 × Endpoint State :=
  let reader := endpoint.reader
  if reader.readyState ≠ .ok then
    (reader.readyState, [], endpoint)
  else if !reader.ready then
    (.wouldBlock, [], endpoint)
  else if reader.inMemory then
    (.ok, reader.showing, endpoint)
  else if reader.windowUsed = 0 then
    let length := min (reader.plainUsed - reader.plainOffset) 4096
    let (result, _, endpoint) :=
      endpoint.verify platform reader.plainOffset length (some reader.digest)
    if result ≠ .ok then
      let (result, endpoint) := endpoint.fail platform result
      (result, [], endpoint)
    else
      let endpoint := endpoint.update fun reader =>
        { reader with windowUsed := length, windowOffset := 0 }
      (.ok, endpoint.reader.showing, endpoint)
  else
    (.ok, reader.showing, endpoint)

/-- `efrp_aead_flash_consume_plaintext`. -/
def consumePlaintext (platform : Platform State) (endpoint : Endpoint State) (length : Nat) :
    Result × Endpoint State :=
  let reader := endpoint.reader
  if reader.readyState ≠ .ok then
    (reader.readyState, endpoint)
  else if !reader.ready ∨ length = 0 ∨ (!reader.inMemory ∧ reader.windowUsed = 0) ∨
      reader.consumable < length then
    (.invalidArgument, endpoint)
  else
    let endpoint := endpoint.update (·.consumed length)
    if endpoint.reader.plainOffset = endpoint.reader.plainUsed then
      endpoint.finishRecord platform
    else
      (.ok, endpoint)

/-- `efrp_aead_flash_finish`. -/
def finish (endpoint : Endpoint State) : Result :=
  let reader := endpoint.reader
  if reader.readyState ≠ .ok then
    reader.readyState
  else if reader.ready then
    .ok
  else if (reader.nonceUsed ≠ 0 ∧ reader.nonceUsed ≠ 12) ∨
      reader.headerUsed ≠ 0 ∨ reader.bodyUsed ≠ 0 then
    .truncated
  else
    .ok

/-- `efrp_aead_flash_reader_close`. -/
def close (platform : Platform State) (endpoint : Endpoint State) : Result × Endpoint State :=
  if !endpoint.reader.active then
    (.ok, endpoint)
  else
    let endpoint := endpoint.update fun reader =>
      { reader with
        window := .filled 0 4096
        key := .filled 0 32 }
    match endpoint.releaseStore platform with
    | (.ok, endpoint) => (.ok, endpoint.update fun reader => { window := reader.window })
    | (_, endpoint) =>
      (.storageError, endpoint.update fun reader => { reader with failure := .storageError })

end Endpoint

end EspFrp.Aead

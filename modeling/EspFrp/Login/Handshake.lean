import EspFrp.Binding.Proof
import EspFrp.Json.Document
import EspFrp.Work.Set

/-!
# The login

`handshake.c`: the client sends its hello and its login in one piece, and
accepts one server hello and one login response.
-/

namespace EspFrp.Login

open Library Streams

/-- `EFRP_HANDSHAKE_RX_BYTES`. -/
abbrev rxBytes : Nat := 4096

/-- `EFRP_HANDSHAKE_TX_BYTES`. -/
abbrev txBytes : Nat := 4096

/-- `EFRP_RUN_ID_BYTES`. -/
abbrev runIdBytes : Nat := 65

/-- `EFRP_HANDSHAKE_TIMEOUT_MS`. -/
abbrev timeoutMs : Nat := 10000

/-- The hash and the key derivation; a call that fails says why. -/
structure Crypto where
  hashing : Binding.Hashing
  hkdf : List UInt8 → Binding.Identifier → Binding.Direction → Except Result Binding.Identifier
  hashing_terminal : ∀ spans error, hashing.hash spans = .error error → error.Terminal
  hkdf_terminal : ∀ token salt direction error,
    hkdf token salt direction = .error error → error.Terminal

/-! ## Base64 -/

/-- `base64`. -/
def base64 : List UInt8 :=
  Json.ascii "ABCDEFGHIJKLMNOPQRSTUVWXYZabcdefghijklmnopqrstuvwxyz0123456789+/"

/-- The value of a letter. -/
def base64Value (letter : UInt8) : Option Nat := base64.findIdx? (· = letter)

/-- `random_valid`: the canonical encoding of 32 bytes. -/
def randomValid (encoded : List UInt8) : Bool :=
  encoded.length == 44 && encoded.getD 43 0 == 0x3d &&
    ((encoded.take 43).all fun letter => (base64Value letter).isSome) &&
    ((base64Value (encoded.getD 42 0)).getD 0 % 4 == 0)

/-- The three bytes of a group of four letters. -/
def decodeGroup (letters : List UInt8) : List UInt8 :=
  BigEndian.toBytes 3 (letters.foldl (fun value letter =>
      value * 64 + (base64Value letter).getD 0) 0)

/-- `decode_control_id`. -/
def decodeControlId (encoded : List UInt8) : Option Binding.Identifier :=
  if randomValid encoded then
    let bytes :=
      ((List.range 11).flatMap fun group => decodeGroup ((encoded.drop (4 * group)).take 4)).take 32
    if Binding.nonzero bytes then
      if sized : bytes.length = 32 then some ⟨bytes, sized⟩ else none
    else
      none
  else
    none

/-! ## State -/

/-- `efrp_handshake_state_t`. -/
inductive State where
  | send
  | hello
  | login
  | done
  | taken
  | failed
deriving DecidableEq, Repr

/-- `efrp_handshake_t`; `output` is the part of its buffer in use. -/
structure Handshake where
  active : Bool := false
  state : State := .send
  token : List UInt8 := []
  clientHello : List UInt8 := []
  output : List UInt8 := []
  outputOffset : Nat := 0
  frames : Wire.Reader := { capacity := rxBytes }
  keys : Option Binding.Keys := none
  runId : List UInt8 := []
  controlId : Option Binding.Identifier := none
  deadline : Nat := 0
  lastNow : Nat := 0
  udpBinary : Bool := false
  xtcpBinding : Bool := false
  failure : Result := .ok

/-- The part of `efrp_handshake_config_t` that the state depends on. -/
structure Config where
  token : List UInt8
  unixSeconds : Int
  stringsValid : Bool
  udpBinary : Bool := false
  quic : Bool := false
  xtcpBinding : Bool := false
deriving DecidableEq, Repr

/-- The texts of the hello and of the login. -/
structure Messages (Sys : Type) where
  hello : Sys → Config → Except Work.EncodeError (List UInt8) × Sys
  login : Sys → Config → Except Work.EncodeError (List UInt8) × Sys

variable {Sys : Type}

namespace Handshake

/-- `ready`. -/
def ready (handshake : Handshake) : Result :=
  if handshake.active then handshake.failure else .invalidState

/-- `clear_secret`. -/
def clearSecret (handshake : Handshake) : Handshake :=
  { handshake with
    keys := none
    token := []
    output := []
    outputOffset := 0
    clientHello := []
    controlId := none }

/-- `fail`. -/
def fail (handshake : Handshake) (result : Result) : Result × Handshake :=
  (result,
    { handshake.clearSecret with
      runId := []
      failure := result
      state := .failed })

/-- The output: the magic, the hello and the login. -/
def opening (hello login : List UInt8) : Except Result (List UInt8) := do
  let first ← Wire.header .clientHello hello.length
  let second ← Wire.messageFrame 1 login
  if txBytes < Wire.magic.length + first.length + hello.length + second.length then
    .error .capacityExceeded
  else
    .ok (Wire.magic ++ first ++ hello ++ second)

/-- `efrp_handshake_init` on a fresh object. -/
def init (messages : Messages Sys) (config : Config) (now : Nat)
    (sys : Sys) : Result × Handshake × Sys :=
  if config.token = [] ∨ Binding.maxTokenBytes < config.token.length ∨
      config.unixSeconds ≤ 0 ∨ timeMax - timeoutMs < now ∨
      !config.stringsValid then
    (.invalidArgument, {}, sys)
  else
    let handshake : Handshake :=
      { active := true
        deadline := now + timeoutMs
        lastNow := now
        token := config.token
        udpBinary := config.udpBinary
        xtcpBinding := config.xtcpBinding }
    let (hello, sys) := messages.hello sys config
    let (login, sys) := messages.login sys config
    match hello.mapError Work.EncodeError.result, login.mapError Work.EncodeError.result with
    | .ok hello, .ok login =>
      match opening hello login with
      | .ok output => (.ok, { handshake with clientHello := hello, output := output }, sys)
      | .error error => ((handshake.fail error).1, (handshake.fail error).2, sys)
    | .error error, _ | _, .error error => ((handshake.fail error).1, (handshake.fail error).2, sys)

/-! ## The answers of the server -/

/-- The selections of a server hello. -/
def selects (handshake : Handshake) (root : Option Json.Value) : Result :=
  let selected := Json.field root (Json.ascii "selected")
  let message := Json.field selected (Json.ascii "message")
  let crypto := Json.field selected (Json.ascii "crypto")
  if !Json.shape selected (["message", "crypto"].map Json.ascii) ∨
      !Json.shape message (["codec", "udpPacketCodec"].map Json.ascii) ∨
      !Json.shape crypto (["algorithm", "serverRandom"].map Json.ascii) then
    .protocolError
  else if Json.equals message (Json.ascii "codec") (Json.ascii "json") &&
      Json.equals message (Json.ascii "udpPacketCodec")
        (if handshake.udpBinary then Json.ascii "binary-v1" else []) &&
      Json.equals crypto (Json.ascii "algorithm") (Json.ascii "aes-256-gcm") &&
      ((Json.text crypto (Json.ascii "serverRandom")).map randomValid).getD false then
    .ok
  else
    .negotiationFailed

/-- `accept_hello`. -/
def acceptHello (parse : Json.Parser) (crypto : Crypto)
    (handshake : Handshake) (payload : List UInt8) :
    Result × Handshake :=
  let root := parse payload
  match Json.shape root (["selected", "error"].map Json.ascii),
      Json.text root (Json.ascii "error") with
  | true, some [] =>
    match handshake.selects root with
    | .ok =>
      match Binding.derive crypto.hashing crypto.hkdf handshake.token
          handshake.clientHello payload with
      | .ok keys =>
        (.ok,
          { handshake with
            keys := some keys
            token := []
            clientHello := []
            state := .login })
      | .error error => (error, handshake)
    | error => (error, handshake)
  | true, some _ => (.negotiationFailed, handshake)
  | _, _ => (.protocolError, handshake)

/-- The fields of a login response. -/
def loginFields (handshake : Handshake) : List (List UInt8) :=
  (["version", "run_id", "error", "xtcp_control_id"].take
    (if handshake.xtcpBinding then 4 else 3)).map Json.ascii

/-- The control identity of a login response, where one is required. -/
def readControlId (handshake : Handshake) (root : Option Json.Value) :
    Option (Option Binding.Identifier) :=
  if handshake.xtcpBinding then
    ((Json.text root (Json.ascii "xtcp_control_id")).bind decodeControlId).map some
  else
    some handshake.controlId

/-- `accept_login`. -/
def acceptLogin (parse : Json.Parser) (handshake : Handshake)
    (payload : List UInt8) : Result × Handshake :=
  if payload.length < 2 ∨ payload.getD 0 0 ≠ 0 ∨ payload.getD 1 0 ≠ 2 then
    (.protocolError, handshake)
  else
    let root := parse (payload.drop 2)
    match Json.shape root handshake.loginFields, Json.text root (Json.ascii "error"),
        Json.text root (Json.ascii "run_id"),
        Json.text root (Json.ascii "version") with
    | true, some error, some runId, some _ =>
      if error ≠ [] then
        (.loginRejected, handshake)
      else if runId = [] ∨ runIdBytes ≤ runId.length then
        (.protocolError, handshake)
      else
        match handshake.readControlId root with
        | none => (.protocolError, handshake)
        | some controlId =>
          (.ok,
            { handshake with
              controlId := controlId
              runId := runId
              state := .done })
    | _, _, _, _ => (.protocolError, handshake)

/-- `accept_frame`. -/
def acceptFrame (parse : Json.Parser) (crypto : Crypto) :
    Wire.Handler Handshake :=
  fun handshake kind payload =>
    let (result, handshake) :=
      match handshake.state, kind with
      | .hello, .serverHello => handshake.acceptHello parse crypto payload
      | .login, .message => handshake.acceptLogin parse payload
      | _, _ => (.protocolError, handshake)
    if result = .ok then
      (true, handshake)
    else
      (false, { handshake with failure := result })

/-! ## Operations -/

/-- `efrp_handshake_output`. -/
def handshakeOutput (handshake : Handshake) : Result × List UInt8 :=
  if handshake.ready ≠ .ok then
    (handshake.ready, [])
  else if handshake.state ≠ .send then
    (.wouldBlock, [])
  else
    (.ok, handshake.output.drop handshake.outputOffset)

/-- `efrp_handshake_consume_output`. -/
def consumeOutput (handshake : Handshake) (length : Nat) : Result × Handshake :=
  if handshake.ready ≠ .ok then
    (handshake.ready, handshake)
  else if handshake.state ≠ .send then
    (.invalidState, handshake)
  else if handshake.output.length - handshake.outputOffset < length then
    (.invalidArgument, handshake)
  else
    let offset := handshake.outputOffset + length
    if offset = handshake.output.length then
      (.ok, { handshake with output := [], outputOffset := 0, state := .hello })
    else
      (.ok, { handshake with outputOffset := offset })

/-- The loop of `efrp_handshake_feed`; every turn takes a byte. -/
def feedLoop (parse : Json.Parser) (crypto : Crypto) :
    Nat → Handshake → List UInt8 → Nat → Result × Nat × Handshake
  | 0, handshake, _, used => (.ok, used, handshake)
  | fuel + 1, handshake, bytes, used =>
    if bytes = [] then
      (.ok, used, handshake)
    else
      let (result, count, frames, handshake) :=
        handshake.frames.feedOne (acceptFrame parse crypto) handshake bytes
      let handshake := { handshake with frames := frames }
      if result ≠ .ok then
        let error :=
          if handshake.failure ≠ .ok then handshake.failure else result
        (error, used + count, (handshake.fail error).2)
      else if handshake.state = .done then
        (.ok, used + count, handshake)
      else
        feedLoop parse crypto fuel handshake (bytes.drop count) (used + count)

/-- `efrp_handshake_feed`. -/
def feed (parse : Json.Parser) (crypto : Crypto) (handshake : Handshake)
    (bytes : List UInt8) : Result × Nat × Handshake :=
  if handshake.ready ≠ .ok then
    (handshake.ready, 0, handshake)
  else
    match handshake.state with
    | .send | .done => (.wouldBlock, 0, handshake)
    | .hello | .login => feedLoop parse crypto bytes.length handshake bytes 0
    | _ => (.invalidState, 0, handshake)

/-- `efrp_handshake_tick`. -/
def tick (handshake : Handshake) (now : Nat) : Result × Handshake :=
  if handshake.ready ≠ .ok then
    (handshake.ready, handshake)
  else if now < handshake.lastNow then
    (.invalidArgument, handshake)
  else
    let handshake := { handshake with lastNow := now }
    if handshake.state ≠ .done ∧ handshake.state ≠ .taken ∧ handshake.deadline ≤ now then
      handshake.fail .timeout
    else
      (.ok, handshake)

/-- `efrp_handshake_finish`. -/
def finish (handshake : Handshake) : Result × Handshake :=
  if handshake.ready ≠ .ok then
    (handshake.ready, handshake)
  else if handshake.state = .done ∨ handshake.state = .taken then
    (.ok, handshake)
  else
    handshake.fail .truncated

/-- `efrp_handshake_xtcp_control_id`. -/
def xtcpControlId (handshake : Handshake) : Except Result Binding.Identifier :=
  if handshake.ready ≠ .ok then
    .error handshake.ready
  else if handshake.state ≠ .done ∨ !handshake.xtcpBinding then
    .error .invalidState
  else
    .ok (handshake.controlId.getD (.filled 0 32))

/-- `efrp_handshake_take_result`. -/
def takeResult (handshake : Handshake) :
    Except Result (Option Binding.Keys × List UInt8) × Handshake :=
  if handshake.ready ≠ .ok then
    (.error handshake.ready, handshake)
  else if handshake.state ≠ .done then
    (.error .invalidState, handshake)
  else
    (.ok (handshake.keys, handshake.runId),
      { handshake.clearSecret with runId := [], state := .taken })

end Handshake

end EspFrp.Login

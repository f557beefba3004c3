import EspFrp.Binding.Proof
import EspFrp.Work.Set

/-!
# The XTCP controller

`xtcp.c`: a provider is admitted by the server to a rendezvous, a visitor
starts one for a local connection; both signal through the control session,
punch a path, connect to each other, prove to each other that they hold the
manifest of the server, and only then carry business streams.

The NAT traversal, the identities and the connection between the peers are
one state machine with arbitrary answers.  The lists `encoded`,
`transactions`, `released`, `verified` and `readied` of a controller are
recorded for the statements only.
-/

namespace EspFrp.Xtcp

open Binding Local Streams Work

/-- `EFRP_XTCP_SIGNAL_MAX_BYTES`. -/
abbrev signalMaxBytes : Nat := 4096

/-- The time within which a peer connection must be proven. -/
abbrev peerMs : Nat := 10000

/-! ## State -/

/-- `efrp_xtcp_phase_t`. -/
inductive Phase where
  | idle
  | discovering
  | signaling
  | punching
  | handshaking
  | proving
  | ready
  | draining
  | stopped
deriving DecidableEq, Repr

/-- What two peers agree on when they prove a connection. -/
structure Evidence where
  exporter : Identifier
  digest : Except Result Identifier
  received : List UInt8 := []

/-- `efrp_xtcp_work_admission_t`; `attempts` counts what it has started. -/
structure Admission where
  stream : Nat
  reader : Wire.Reader := { capacity := 4096 }
  output : List UInt8 := []
  outputOffset : Nat := 0
  deadline : Nat := 0
  started : Bool := false
  sidReceived : Bool := false
  begun : Bool := false
  closing : Bool := false
  sid : List UInt8 := []
  error : Result := .ok
  attempts : Nat := 0
deriving DecidableEq, Repr

/-- The manifest of an attempt that has not been answered. -/
def emptyManifest : Manifest where
  proxyName := []
  sid := .filled 0 32
  providerControl := .filled 0 32
  visitorControl := .filled 0 32
  providerNonce := .filled 0 32
  visitorNonce := .filled 0 32
  providerSpki := .filled 0 32
  visitorSpki := .filled 0 32
  issuedAt := 0
  expiresAt := 0

/--
`efrp_xtcp_attempt_t`.  The NAT object and the peer connection are present or
not, and `remoteProof` is the part of its buffer in use.
-/
structure Attempt where
  nat : Bool := false
  peer : Bool := false
  manifest : Manifest := emptyManifest
  nonce : Identifier := .filled 0 32
  spki : Identifier := .filled 0 32
  exporter : Identifier := .filled 0 32
  localProof : List UInt8 := []
  remoteProof : List UInt8 := []
  transactionId : List UInt8 := []
  sid : List UInt8 := []
  proofStream : Option Nat := none
  proofWritten : Nat := 0
  deadline : Nat := 0
  remoteVerified : Bool := false
  localFin : Bool := false

/-- `efrp_xtcp_t`. -/
structure Controller where
  role : Role
  proxyName : List UInt8 := []
  secretKey : List UInt8 := []
  localIpv4 : List UInt8 := []
  localPort : Nat := 0
  controlId : Identifier := .filled 0 32
  phase : Phase := .idle
  error : Result := .ok
  attempts : Nat := 0
  established : Nat := 0
  failed : Nat := 0
  rejected : Nat := 0
  work : Work.Set := {}
  admission : Option Admission := none
  attempt : Option Attempt := none
  listener : Option Listener := none
  socket : Option Connect := none
  output : List UInt8 := []
  outputOffset : Nat := 0
  reportSid : List UInt8 := []
  reportSuccess : Bool := false
  reportPending : Bool := false
  pendingRequests : Nat := 0
  authenticated : Bool := false
  started : Bool := false
  cancelled : Bool := false
  encoded : List (List UInt8) := []
  transactions : List (List UInt8) := []
  released : List Evidence := []
  verified : List Evidence := []
  readied : List Evidence := []

/-- `efrp_xtcp_signal_request_t`, without the addresses. -/
structure Request where
  role : Role
  transactionId : List UInt8
  proxyName : List UInt8
  sid : Option (List UInt8)
  secret : List UInt8
  controlId : Identifier
  nonce : Identifier
  spki : Identifier
  seconds : Int

/-- `efrp_xtcp_signal_response_t`, without what only the NAT object reads. -/
structure Response where
  rejected : Bool
  transactionId : List UInt8
  sid : List UInt8 := []
  manifest : List UInt8 := []
  certificate : List UInt8 := []
deriving DecidableEq, Repr

/-- The state of the NAT object, as far as it is told apart. -/
inductive NatState where
  | mapped
  | punched
  | other
deriving DecidableEq, Repr

/-- The calls on identities, on the NAT object and on the connection. -/
structure Rendezvous (Peer : Type) where
  random : Peer → Option Identifier × Peer
  createIdentity : Peer → Result × Peer
  certificate : Peer → Result × Identifier
  checkCertificate : Peer → (certificate : List UInt8) → (pin : Identifier) → Result
  timeTrusted : Peer → Bool
  createNat : Peer → (now : Nat) → Result × Peer
  stepNat : Peer → (now : Nat) → Result × Peer
  natStatus : Peer → Result × NatState
  startDetect : Peer → (sid : List UInt8) → Response → (now : Nat) → Result × Peer
  handoff : Peer → (digest pin : Identifier) → (now : Nat) → Result × Peer
  cancelNat : Peer → Peer
  destroyNat : Peer → Result × Peer
  exporter : Peer → Except Result Identifier

/-- `xtcp_codec.c`: the texts that are printed, and the answer. -/
structure Signals (Sys : Type) where
  request : Sys → Request → Except EncodeError (List UInt8) × Sys
  report : Sys → (sid : List UInt8) → (success : Bool) → Except EncodeError (List UInt8) × Sys
  response : Wire.Kind → List UInt8 → Option Response

/-- What a controller runs on. -/
structure Platform (Net Sys Peer : Type) where
  control : Transport Net
  business : Work.Platform Peer Sys
  rendezvous : Rendezvous Peer
  signals : Signals Sys
  hashing : Hashing

/-- The states of everything outside the client. -/
structure World (Net Sys Peer : Type) where
  net : Net
  sys : Sys
  peer : Peer

variable {Net Sys Peer : Type}

namespace Controller

/-! ## Ending an attempt -/

/-- `report`. -/
def report (xtcp : Controller) (sid : List UInt8) (success : Bool) : Controller :=
  if sid = [] then
    xtcp
  else if xtcp.reportPending then
    { xtcp with rejected := xtcp.rejected + 1 }
  else
    { xtcp with
      reportSid := sid
      reportSuccess := success
      reportPending := true }

/-- The peer connection and the NAT object are cancelled. -/
def cancelPeer (platform : Platform Net Sys Peer) (attempt : Option Attempt) (peer : Peer) : Peer :=
  match attempt with
  | none => peer
  | some attempt =>
    let peer :=
      if attempt.peer then platform.business.transport.cancel peer
      else peer
    if attempt.nat then platform.rendezvous.cancelNat peer else peer

/-- The local connection that waits for the peer is cancelled. -/
def cancelSocket (os : Os Sys) (socket : Option Connect) (sys : Sys) : Option Connect × Sys :=
  match socket with
  | none => (none, sys)
  | some connect =>
    let (_, connect, sys) := connect.cancel os sys
    (some connect, sys)

/-- `fail_attempt`. -/
def failAttempt (platform : Platform Net Sys Peer) (xtcp : Controller)
    (result : Result) (world : World Net Sys Peer) :
    Controller × World Net Sys Peer :=
  if xtcp.phase = .draining then
    (xtcp, world)
  else
    let xtcp :=
      { xtcp with
        error := result
        phase := .draining
        failed := xtcp.failed + 1 }
    let xtcp :=
      match xtcp.attempt with
      | none => xtcp
      | some attempt => xtcp.report attempt.sid false
    let (_, work, sys) :=
      xtcp.work.cancel platform.business.os platform.business.datagrams world.sys
    let peer := cancelPeer platform xtcp.attempt world.peer
    let (socket, sys) := cancelSocket platform.business.os xtcp.socket sys
    ({ xtcp with work := work, socket := socket }, { world with sys := sys, peer := peer })

/-- The peer connection of an attempt is destroyed. -/
def destroyPeer (platform : Platform Net Sys Peer) (attempt : Attempt)
    (peer : Peer) : Bool × Attempt × Peer :=
  if attempt.peer then
    match platform.business.transport.destroy peer with
    | (.ok, peer) => (true, { attempt with peer := false }, peer)
    | (_, peer) => (false, attempt, peer)
  else
    (true, attempt, peer)

/-- The NAT object of an attempt is destroyed. -/
def destroyNat (platform : Platform Net Sys Peer) (attempt : Attempt)
    (peer : Peer) : Bool × Attempt × Peer :=
  if attempt.nat then
    match platform.rendezvous.destroyNat peer with
    | (.ok, peer) => (true, { attempt with nat := false }, peer)
    | (_, peer) => (false, attempt, peer)
  else
    (true, attempt, peer)

/-- The attempt itself is freed; false means to wait. -/
def freeAttempt (platform : Platform Net Sys Peer) (attempt : Option Attempt) (peer : Peer) :
    Bool × Option Attempt × Peer :=
  match attempt with
  | none => (true, none, peer)
  | some attempt =>
    match destroyPeer platform attempt peer with
    | (false, attempt, peer) => (false, some attempt, peer)
    | (true, attempt, peer) =>
      match destroyNat platform attempt peer with
      | (false, attempt, peer) => (false, some attempt, peer)
      | (true, _, peer) => (true, none, peer)

/-- `drain_attempt`. -/
def drainAttempt (platform : Platform Net Sys Peer) (xtcp : Controller)
    (now : Nat) (world : World Net Sys Peer) :
    Result × Controller × World Net Sys Peer :=
  let peer :=
    if xtcp.attempt.any (·.peer) then
      (platform.business.transport.step world.peer now).2
    else
      world.peer
  let (done, work, sys) :=
    xtcp.work.cancel platform.business.os platform.business.datagrams world.sys
  let xtcp := { xtcp with work := work }
  if !done then
    (.wouldBlock, xtcp, { world with sys := sys, peer := peer })
  else
    let (destroyed, socket, sys) := Connect.destroy platform.business.os xtcp.socket sys
    let xtcp := { xtcp with socket := socket }
    if destroyed ≠ .ok then
      (.wouldBlock, xtcp, { world with sys := sys, peer := peer })
    else
      let (freed, attempt, peer) := freeAttempt platform xtcp.attempt peer
      let xtcp := { xtcp with attempt := attempt }
      let world := { world with sys := sys, peer := peer }
      if freed then
        (.ok,
          { xtcp with
            phase := if xtcp.cancelled then .stopped else .idle }, world)
      else
        (.wouldBlock, xtcp, world)

/-! ## Beginning an attempt -/

/-- A digit of `hex_encode`. -/
def hexDigit (value : Nat) : UInt8 :=
  UInt8.ofNat (if value < 10 then 0x30 + value else 0x57 + value)

/-- `hex_encode`. -/
def hexEncode (bytes : List UInt8) : List UInt8 :=
  bytes.flatMap fun byte => [hexDigit (byte.toNat / 16), hexDigit (byte.toNat % 16)]

/-- What an attempt is made from: two random values and an identity. -/
def prepare (rendezvous : Rendezvous Peer) (now : Nat) (peer : Peer) : Result × Attempt × Peer :=
  match rendezvous.random peer with
  | (none, peer) => (.cryptoError, {}, peer)
  | (some nonce, peer) =>
    match rendezvous.random peer with
    | (none, peer) => (.cryptoError, { nonce := nonce }, peer)
    | (some transaction, peer) =>
      let attempt : Attempt :=
        { nonce := nonce
          transactionId := hexEncode transaction.cells }
      match rendezvous.createIdentity peer with
      | (.ok, peer) =>
        match rendezvous.createNat peer now with
        | (.ok, peer) => (.ok, { attempt with nat := true }, peer)
        | (error, peer) => (error, attempt, peer)
      | (error, peer) => (error, attempt, peer)

/-- `begin_attempt`; a visitor has no session identifier yet. -/
def beginAttempt (platform : Platform Net Sys Peer) (xtcp : Controller)
    (sid : List UInt8) (now : Nat) (world : World Net Sys Peer) :
    Result × Controller × World Net Sys Peer :=
  if xtcp.attempt.isSome ∨ xtcp.phase ≠ .idle ∨ xtcp.output ≠ [] ∨ xtcp.reportPending then
    (.wouldBlock, xtcp, world)
  else
    match platform.business.os.allocate world.sys with
    | (false, sys) => (.noMemory, xtcp, { world with sys := sys })
    | (true, sys) =>
      let (result, attempt, peer) := prepare platform.rendezvous now world.peer
      let world := { world with sys := sys, peer := peer }
      let xtcp :=
        { xtcp with
          attempt := some { attempt with sid := sid }
          attempts := xtcp.attempts + 1
          error := .ok
          phase := .discovering }
      if result = .ok then
        (.ok, xtcp, world)
      else
        let (xtcp, world) := xtcp.failAttempt platform result world
        (.ok, xtcp, world)

/-! ## Signalling -/

/-- A frame is placed into the output. -/
def emit (xtcp : Controller) (frame : List UInt8) : Controller :=
  { xtcp with
    output := frame
    outputOffset := 0
    encoded := xtcp.encoded ++ [frame] }

/-- `frame` of the codec: a message that fits the output. -/
def frame (type : UInt8) (text : Except EncodeError (List UInt8)) : Except Result (List UInt8) :=
  match text with
  | .error error => .error error.result
  | .ok text =>
    if signalMaxBytes < text.length + 10 then
      .error .capacityExceeded
    else
      Wire.messageFrame type text

/-- `allocate_output`. -/
def allocateOutput (os : Os Sys) (xtcp : Controller) (sys : Sys) : Result × Sys :=
  if xtcp.output ≠ [] then
    (.wouldBlock, sys)
  else
    match os.allocate sys with
    | (true, sys) => (.ok, sys)
    | (false, sys) => (.noMemory, sys)

/-- The type of the request of a role. -/
def requestType : Role → UInt8
  | .provider => 21
  | .visitor => 20

/-- `signal_request`. -/
def signalRequest (platform : Platform Net Sys Peer) (xtcp : Controller)
    (attempt : Attempt) (seconds : Int) (world : World Net Sys Peer) :
    Result × Controller × World Net Sys Peer :=
  match xtcp.allocateOutput platform.business.os world.sys with
  | (.ok, sys) =>
    match platform.rendezvous.certificate world.peer with
    | (.ok, spki) =>
      let attempt := { attempt with spki := spki }
      let xtcp := { xtcp with attempt := some attempt }
      let (text, sys) :=
        platform.signals.request sys
          { role := xtcp.role
            transactionId := attempt.transactionId
            proxyName := xtcp.proxyName
            sid :=
              if xtcp.role = .provider then some attempt.sid else none
            secret := xtcp.secretKey
            controlId := xtcp.controlId
            nonce := attempt.nonce
            spki := spki
            seconds := seconds }
      let world := { world with sys := sys }
      match frame (requestType xtcp.role) text with
      | .error error => (error, xtcp, world)
      | .ok bytes =>
        (.ok,
          { xtcp.emit bytes with
            phase := .signaling
            transactions := xtcp.transactions ++ [attempt.transactionId] }, world)
    | (error, _) => (error, xtcp, { world with sys := sys })
  | (error, sys) => (error, xtcp, { world with sys := sys })

/-- The part of `efrp_xtcp_output` that turns a report into a frame. -/
def emitReport (platform : Platform Net Sys Peer) (xtcp : Controller)
    (sys : Sys) : Result × Controller × Sys :=
  if xtcp.output = [] ∧ xtcp.reportPending then
    match xtcp.allocateOutput platform.business.os sys with
    | (.ok, sys) =>
      let (text, sys) := platform.signals.report sys xtcp.reportSid xtcp.reportSuccess
      match frame 24 text with
      | .error error => (error, xtcp, sys)
      | .ok bytes =>
        (.ok,
          { xtcp.emit bytes with
            reportPending := false
            reportSid := [] }, sys)
    | (error, sys) => (error, xtcp, sys)
  else
    (.ok, xtcp, sys)

/-- `efrp_xtcp_output`. -/
def xtcpOutput (platform : Platform Net Sys Peer) (xtcp : Controller)
    (sys : Sys) : Result × List UInt8 × Controller × Sys :=
  if xtcp.cancelled then
    (.cancelled, [], xtcp, sys)
  else
    match xtcp.emitReport platform sys with
    | (.ok, xtcp, sys) =>
      if xtcp.output = [] then
        (.wouldBlock, [], xtcp, sys)
      else
        (.ok, xtcp.output.drop xtcp.outputOffset, xtcp, sys)
    | (error, xtcp, sys) => (error, [], xtcp, sys)

/-- `efrp_xtcp_consume_output`. -/
def consumeOutput (xtcp : Controller) (length : Nat) : Result × Controller :=
  if length = 0 ∨ xtcp.output.length - xtcp.outputOffset < length then
    (.invalidArgument, xtcp)
  else
    let offset := xtcp.outputOffset + length
    if offset = xtcp.output.length then
      (.ok, { xtcp with output := [], outputOffset := 0 })
    else
      (.ok, { xtcp with outputOffset := offset })

/-- `efrp_xtcp_binding_check_local`. -/
def checkLocal (manifest : Manifest) (role : Role) (control nonce spki : Identifier) : Result :=
  if shape manifest ≠ .ok then
    shape manifest
  else
    match role with
    | .provider =>
      if control = manifest.providerControl ∧ nonce = manifest.providerNonce ∧
          spki = manifest.providerSpki then
        .ok
      else
        .authenticationFailed
    | .visitor =>
      if control = manifest.visitorControl ∧ nonce = manifest.visitorNonce ∧
          spki = manifest.visitorSpki then
        .ok
      else
        .authenticationFailed

/-- The pin of the certificate of a role. -/
def pin (manifest : Manifest) : Role → Identifier
  | .provider => manifest.providerSpki
  | .visitor => manifest.visitorSpki

/-- The answer is for this proxy and for the session it names. -/
def answers (xtcp : Controller) (attempt : Attempt) (response : Response)
    (manifest : Manifest) : Bool :=
  manifest.proxyName == xtcp.proxyName && response.sid == hexEncode manifest.sid.cells &&
    (attempt.sid == [] || attempt.sid == response.sid)

/-- The checks of `efrp_xtcp_response` on an answer to this attempt. -/
def judgeResponse (platform : Platform Net Sys Peer) (xtcp : Controller)
    (attempt : Attempt) (response : Response) (now : Nat) (seconds : Int)
    (peer : Peer) : Result × Attempt × Peer :=
  if response.rejected then
    (.workRejected, attempt, peer)
  else if !platform.rendezvous.timeTrusted peer then
    (.timeUntrusted, attempt, peer)
  else
    match decode response.manifest (UInt64.ofInt seconds) with
    | .error error => (error, attempt, peer)
    | .ok manifest =>
      let attempt := { attempt with manifest := manifest }
      if !xtcp.answers attempt response manifest then
        (.authenticationFailed, attempt, peer)
      else
        match checkLocal manifest xtcp.role xtcp.controlId attempt.nonce attempt.spki with
        | .ok =>
          match platform.rendezvous.checkCertificate peer
              response.certificate (pin manifest xtcp.role.peer) with
          | .ok =>
            let attempt := { attempt with sid := response.sid }
            let (result, peer) := platform.rendezvous.startDetect peer attempt.sid response now
            (result, attempt, peer)
          | error => (error, attempt, peer)
        | error => (error, attempt, peer)

/-- `efrp_xtcp_response`. -/
def response (platform : Platform Net Sys Peer) (xtcp : Controller)
    (kind : Wire.Kind) (payload : List UInt8) (now : Nat) (seconds : Int)
    (world : World Net Sys Peer) : Result × Controller × World Net Sys Peer :=
  match xtcp.attempt, xtcp.phase with
  | some attempt, .signaling =>
    match platform.signals.response kind payload with
    | none => (.protocolError, xtcp, world)
    | some response =>
      if seconds ≤ 0 ∨ response.transactionId ≠ attempt.transactionId then
        (.protocolError, xtcp, world)
      else
        let (result, attempt, peer) :=
          xtcp.judgeResponse platform attempt response now seconds world.peer
        let xtcp := { xtcp with attempt := some attempt }
        let world := { world with peer := peer }
        if result = .ok then
          (.ok, { xtcp with phase := .punching }, world)
        else
          let (xtcp, world) := xtcp.failAttempt platform result world
          (.ok, xtcp, world)
  | _, _ => (.protocolError, xtcp, world)

/-! ## Admission -/

/-- `hex32`. -/
def hex32 (text : List UInt8) : Bool :=
  text.length == 64 && text.all fun letter =>
      (0x30 ≤ letter && letter ≤ 0x39) || (0x61 ≤ letter && letter ≤ 0x66)

/-- `efrp_xtcp_codec_work_sid`. -/
def workSid (parse : Json.Parser) (kind : Wire.Kind) (payload : List UInt8) : Option (List UInt8) :=
  if kind ≠ .message ∨ payload.length < 2 ∨ payload.getD 0 0 ≠ 0 ∨ payload.getD 1 0 ≠ 23 then
    none
  else
    let root := parse (payload.drop 2)
    match Json.text root (Json.ascii "sid") with
    | some sid =>
      if Json.shape root [Json.ascii "sid"] && hex32 sid then some sid
      else none
    | none => none

/-- The answer of the server to the work request of an admission. -/
def judgeAdmission (root : Option Json.Value) (proxyName : List UInt8) :
    Result :=
  match Json.text root (Json.ascii "error"), Json.text root (Json.ascii "src_addr"),
      Json.text root (Json.ascii "dst_addr") with
  | some error, some source, some target =>
    if Json.shape root Scene.startFields &&
        decide (source.length ≤ 128) && decide (target.length ≤ 128) &&
        Json.equals root (Json.ascii "proxy_name") proxyName &&
        Json.portValue root (Json.ascii "src_port") &&
        Json.portValue root (Json.ascii "dst_port") then
      if error = [] then .ok else .workRejected
    else
      .protocolError
  | _, _, _ => .protocolError

/-- `admit_frame`. -/
def admitFrame (parse : Json.Parser) (proxyName : List UInt8) :
    Wire.Handler Admission :=
  fun admission kind payload =>
    let refused := { admission with error := .protocolError }
    if admission.started then
      if admission.sidReceived then
        (false, refused)
      else
        match workSid parse kind payload with
        | some sid =>
          (true,
            { admission with
              error := .ok
              sid := sid
              sidReceived := true })
        | none => (false, { refused with sid := [] })
    else if kind ≠ .message ∨ payload.length < 2 ∨ payload.getD 0 0 ≠ 0 ∨ payload.getD 1 0 ≠ 8 then
      (false, refused)
    else
      let result := judgeAdmission (parse (payload.drop 2)) proxyName
      (decide (result = .ok),
        { admission with
          error := result
          started := decide (result = .ok) })

/-- `open_admission`. -/
def openAdmission (platform : Platform Net Sys Peer) (xtcp : Controller)
    (now : Nat) (seconds : Int) (runId token : List UInt8)
    (world : World Net Sys Peer) :
    Result × Controller × World Net Sys Peer :=
  if xtcp.pendingRequests = 0 ∨ xtcp.admission.isSome then
    (.ok, xtcp, world)
  else
    match platform.business.os.allocate world.sys with
    | (false, sys) => (.noMemory, xtcp, { world with sys := sys })
    | (true, sys) =>
      match platform.control.openStream world.net with
      | (.ok, stream, net) =>
        let xtcp := { xtcp with pendingRequests := xtcp.pendingRequests - 1 }
        let (text, sys) := platform.business.messages.newWork sys runId token seconds
        let world := { world with net := net, sys := sys }
        match text with
        | .error error =>
          (error.result,
            { xtcp with
              admission := some
                { stream := stream
                  closing := true
                  error := error.result } }, world)
        | .ok text =>
          match Wire.messageFrame 6 text with
          | .error error => (error, { xtcp with admission := some { stream := stream } }, world)
          | .ok frame =>
            (.ok,
              { xtcp with
                admission := some
                  { stream := stream
                    output := Wire.magic ++ frame
                    deadline := now + responseMs } }, world)
      | (.wouldBlock, _, net) => (.ok, xtcp, { world with net := net, sys := sys })
      | (error, _, net) => (error, xtcp, { world with net := net, sys := sys })

/-- An admission that has ended gives its stream back. -/
def closeAdmission (platform : Platform Net Sys Peer) (xtcp : Controller)
    (admission : Admission) (world : World Net Sys Peer) :
    Result × Controller × World Net Sys Peer :=
  match platform.control.reset world.net admission.stream with
  | (.ok, net) =>
    match platform.control.release net admission.stream with
    | (.ok, net) => (.ok, { xtcp with admission := none }, { world with net := net })
    | (.wouldBlock, net) => (.ok, xtcp, { world with net := net })
    | (error, net) => (error, xtcp, { world with net := net })
  | (.wouldBlock, net) => (.ok, xtcp, { world with net := net })
  | (error, net) => (error, xtcp, { world with net := net })

/-- The work request of an admission is written. -/
def writeAdmission (platform : Platform Net Sys Peer) (xtcp : Controller)
    (admission : Admission) (world : World Net Sys Peer) :
    Result × Controller × World Net Sys Peer :=
  match platform.control.streamWrite world.net (some admission.stream)
      (admission.output.drop admission.outputOffset) with
  | (.ok, used, net) =>
    let offset := admission.outputOffset + used
    let admission :=
      if offset = admission.output.length then
        { admission with output := [], outputOffset := 0 }
      else
        { admission with outputOffset := offset }
    (.ok, { xtcp with admission := some admission }, { world with net := net })
  | (.wouldBlock, _, net) => (.ok, xtcp, { world with net := net })
  | (_, _, net) =>
    (.ok, { xtcp with admission := some { admission with closing := true } },
      { world with net := net })

/-- An admission ends without an attempt. -/
def rejectAdmission (xtcp : Controller) (admission : Admission) : Controller :=
  { xtcp with
    admission := some { admission with closing := true }
    rejected := xtcp.rejected + 1 }

/-- The server has ended the stream of an admission. -/
def endAdmission (platform : Platform Net Sys Peer) (xtcp : Controller)
    (admission : Admission) (now : Nat) (world : World Net Sys Peer) :
    Result × Controller × World Net Sys Peer :=
  let result := admission.reader.finish
  if result = .ok ∧ admission.sidReceived then
    if xtcp.attempt.isNone ∧ xtcp.phase = .idle ∧ xtcp.output = [] ∧ !xtcp.reportPending then
      let xtcp :=
        { xtcp with
          admission := some
            { admission with
              closing := true
              attempts := admission.attempts + 1 } }
      xtcp.beginAttempt platform admission.sid now world
    else
      (.ok, (xtcp.report admission.sid false).rejectAdmission admission, world)
  else
    (result, xtcp.rejectAdmission admission, world)

/-- The frames of an admission are read. -/
def readAdmission (platform : Platform Net Sys Peer) (xtcp : Controller)
    (admission : Admission) (now : Nat) (world : World Net Sys Peer) :
    Result × Controller × World Net Sys Peer :=
  match platform.control.streamRead world.net (some admission.stream) 1024 with
  | (.wouldBlock, _, net) => (.ok, xtcp, { world with net := net })
  | (.eof, _, net) => xtcp.endAdmission platform admission now { world with net := net }
  | (.ok, bytes, net) =>
    let admission :=
      if admission.begun then admission
      else
        { admission with begun := true, deadline := now + responseMs }
    let (result, _, reader, admission) :=
      admission.reader.feed (admitFrame platform.business.parse xtcp.proxyName) admission bytes
    let admission := { admission with reader := reader }
    (.ok,
      if result = .ok then { xtcp with admission := some admission }
      else xtcp.rejectAdmission admission, { world with net := net })
  | (_, _, net) => (.ok, xtcp.rejectAdmission admission, { world with net := net })

/-- `step_admission`. -/
def stepAdmission (platform : Platform Net Sys Peer) (xtcp : Controller)
    (now : Nat) (world : World Net Sys Peer) :
    Result × Controller × World Net Sys Peer :=
  match xtcp.admission with
  | none => (.ok, xtcp, world)
  | some admission =>
    if admission.closing then
      xtcp.closeAdmission platform admission world
    else if (admission.output ≠ [] ∨ admission.begun) ∧ admission.deadline ≤ now then
      (.ok, xtcp.rejectAdmission { admission with error := .timeout }, world)
    else if admission.outputOffset < admission.output.length then
      xtcp.writeAdmission platform admission world
    else
      xtcp.readAdmission platform admission now world

/-! ## Proving the connection -/

/-- The evidence of an attempt. -/
def evidence (platform : Platform Net Sys Peer) (attempt : Attempt) : Evidence where
  exporter := attempt.exporter
  digest := hash platform.hashing attempt.manifest
  received := attempt.remoteProof

/-- An attempt within its controller, while a proof step changes both. -/
def setAttempt (xtcp : Controller) (attempt : Attempt) : Controller :=
  { xtcp with attempt := some attempt }

/-- The stream of the proofs is opened or accepted. -/
def openProof (platform : Platform Net Sys Peer) (xtcp : Controller)
    (attempt : Attempt) (peer : Peer) :
    Option Result × Attempt × Peer :=
  match attempt.proofStream with
  | some _ => (none, attempt, peer)
  | none =>
    let transport := platform.business.transport
    let (result, stream, peer) :=
      if xtcp.role = .visitor then transport.openStream peer
      else transport.accept peer
    match result with
    | .ok =>
      let attempt := { attempt with proofStream := some stream }
      if stream = 0 then (none, attempt, peer)
      else (some .authenticationFailed, attempt, peer)
    | .wouldBlock => (some .ok, attempt, peer)
    | error => (some error, attempt, peer)

/-- The proof of the peer is read up to its end, and checked there. -/
def readProof (platform : Platform Net Sys Peer) (xtcp : Controller)
    (attempt : Attempt) (peer : Peer) :
    Option Result × Controller × Attempt × Peer :=
  if attempt.remoteVerified then
    (none, xtcp, attempt, peer)
  else
    match platform.business.transport.streamRead peer attempt.proofStream
        (proofBytes + 1 - attempt.remoteProof.length) with
    | (.ok, bytes, peer) =>
      let attempt := { attempt with remoteProof := attempt.remoteProof ++ bytes }
      (if proofBytes < attempt.remoteProof.length then
        some .authenticationFailed
      else
        none, xtcp, attempt, peer)
    | (.eof, _, peer) =>
      match verifyProof platform.hashing attempt.manifest xtcp.role.peer
          attempt.exporter attempt.remoteProof with
      | .ok =>
        (none,
          { xtcp with
            verified := xtcp.verified ++ [evidence platform attempt] },
          { attempt with remoteVerified := true }, peer)
      | error => (some error, xtcp, attempt, peer)
    | (.wouldBlock, _, peer) => (none, xtcp, attempt, peer)
    | (error, _, peer) => (some error, xtcp, attempt, peer)

/-- The own proof is written; a provider waits for the visitor. -/
def writeProof (platform : Platform Net Sys Peer) (xtcp : Controller)
    (attempt : Attempt) (peer : Peer) :
    Option Result × Controller × Attempt × Peer :=
  if xtcp.role = .visitor ∨ attempt.remoteVerified then
    if attempt.proofWritten < proofBytes then
      match platform.business.transport.streamWrite peer attempt.proofStream
          (attempt.localProof.drop attempt.proofWritten) with
      | (.ok, written, peer) =>
        (none,
          { xtcp with
            released := xtcp.released ++ [evidence platform attempt] },
          { attempt with proofWritten := attempt.proofWritten + written },
          peer)
      | (.wouldBlock, _, peer) => (none, xtcp, attempt, peer)
      | (error, _, peer) => (some error, xtcp, attempt, peer)
    else if attempt.localFin then
      (none, xtcp, attempt, peer)
    else
      match Transport.onStream platform.business.transport.closeWrite peer attempt.proofStream with
      | (.ok, peer) => (none, xtcp, { attempt with localFin := true }, peer)
      | (.wouldBlock, peer) => (none, xtcp, attempt, peer)
      | (error, peer) => (some error, xtcp, attempt, peer)
  else
    (none, xtcp, attempt, peer)

/-- Both proofs have been exchanged. -/
def finishProof (platform : Platform Net Sys Peer) (xtcp : Controller)
    (attempt : Attempt) (peer : Peer) : Result × Controller × Peer :=
  if attempt.remoteVerified ∧ attempt.localFin then
    match Transport.onStream platform.business.transport.release peer attempt.proofStream with
    | (.ok, peer) =>
      let xtcp :=
        { xtcp.setAttempt
            { attempt with
              proofStream := none
              exporter := .filled 0 32
              localProof := List.replicate attempt.localProof.length 0
              remoteProof := List.replicate attempt.remoteProof.length 0 } with
          phase := .ready
          established := xtcp.established + 1
          readied := xtcp.readied ++ [evidence platform attempt] }
      (.ok, xtcp.report attempt.sid true, peer)
    | (.wouldBlock, peer) => (.ok, xtcp.setAttempt attempt, peer)
    | (error, peer) => (error, xtcp.setAttempt attempt, peer)
  else
    (.ok, xtcp.setAttempt attempt, peer)

/-- `proof_step`. -/
def proofStep (platform : Platform Net Sys Peer) (xtcp : Controller)
    (attempt : Attempt) (now : Nat) (peer : Peer) :
    Result × Controller × Peer :=
  if attempt.deadline ≤ now then
    (.timeout, xtcp, peer)
  else
    match xtcp.openProof platform attempt peer with
    | (some result, attempt, peer) => (result, xtcp.setAttempt attempt, peer)
    | (none, attempt, peer) =>
      match xtcp.readProof platform attempt peer with
      | (some result, xtcp, attempt, peer) => (result, xtcp.setAttempt attempt, peer)
      | (none, xtcp, attempt, peer) =>
        match xtcp.writeProof platform attempt peer with
        | (some result, xtcp, attempt, peer) => (result, xtcp.setAttempt attempt, peer)
        | (none, xtcp, attempt, peer) => xtcp.finishProof platform attempt peer

/-! ## Advancing an attempt -/

/-- The path is punched, and the connection is created on it. -/
def handOver (platform : Platform Net Sys Peer) (xtcp : Controller)
    (attempt : Attempt) (now : Nat) (seconds : Int) (peer : Peer) :
    Result × Controller × Peer :=
  match validate attempt.manifest (UInt64.ofInt seconds) with
  | .ok =>
    match hash platform.hashing attempt.manifest with
    | .error error => (error, xtcp, peer)
    | .ok digest =>
      match platform.rendezvous.handoff peer digest (pin attempt.manifest xtcp.role.peer) now with
      | (.ok, peer) =>
        (.ok,
          { xtcp.setAttempt
              { attempt with
                peer := true
                deadline := now + peerMs } with
            phase := .handshaking }, peer)
      | (error, peer) => (error, xtcp, peer)
  | error => (error, xtcp, peer)

/-- The connection is open, and its exporter gives the own proof. -/
def beginProof (platform : Platform Net Sys Peer) (xtcp : Controller)
    (attempt : Attempt) (peer : Peer) : Result × Controller :=
  match platform.rendezvous.exporter peer with
  | .error error => (error, xtcp)
  | .ok exporter =>
    match makeProof platform.hashing attempt.manifest xtcp.role exporter with
    | .error error => (error, xtcp)
    | .ok localProof =>
      (.ok,
        { xtcp.setAttempt
            { attempt with
              exporter := exporter
              localProof := localProof } with
          phase := .proving })

/-- The local connection of a visitor becomes a business stream. -/
def adoptLocal (platform : Platform Net Sys Peer) (xtcp : Controller)
    (now : Nat) (sys : Sys) : Result × Controller × Sys :=
  match xtcp.socket with
  | none => (.ok, xtcp, sys)
  | some connect =>
    match xtcp.work.peerAdopt platform.business.os connect now sys with
    | (.ok, work, sys) => (.ok, { xtcp with work := work, socket := none }, sys)
    | (error, work, sys) => (error, { xtcp with work := work }, sys)

/-- Business streams, which exist only on a proven connection. -/
def stepBusiness (platform : Platform Net Sys Peer) (xtcp : Controller)
    (now : Nat) (world : World Net Sys Peer) :
    Result × Controller × World Net Sys Peer :=
  let (adopted, xtcp, sys) := xtcp.adoptLocal platform now world.sys
  if adopted = .ok ∨ adopted = .wouldBlock then
    let (result, work, peer, sys) := xtcp.work.peerStep platform.business now world.peer sys
    (result, { xtcp with work := work }, { world with sys := sys, peer := peer })
  else
    (adopted, xtcp, { world with sys := sys })

/-- The part of `step_attempt` on a connection between the peers. -/
def stepPeer (platform : Platform Net Sys Peer) (xtcp : Controller)
    (attempt : Attempt) (now : Nat) (world : World Net Sys Peer) :
    Result × Controller × World Net Sys Peer :=
  let (stepped, peer) := platform.business.transport.step world.peer now
  let world := { world with peer := peer }
  if stepped ≠ .ok ∧ stepped ≠ .wouldBlock then
    (stepped, xtcp, world)
  else
    match platform.business.transport.status peer with
    | (.ok, status) =>
      if xtcp.phase = .handshaking then
        if attempt.deadline ≤ now then
          (.timeout, xtcp, world)
        else if !status.isOpen then
          (.ok, xtcp, world)
        else
          match xtcp.beginProof platform attempt peer with
          | (.ok, xtcp) =>
            match xtcp.attempt with
            | none => (.ok, xtcp, world)
            | some attempt =>
              let (result, xtcp, peer) := xtcp.proofStep platform attempt now peer
              (result, xtcp, { world with peer := peer })
          | (error, xtcp) => (error, xtcp, world)
      else if xtcp.phase = .proving then
        let (result, xtcp, peer) := xtcp.proofStep platform attempt now peer
        (result, xtcp, { world with peer := peer })
      else if xtcp.phase = .ready then
        xtcp.stepBusiness platform now world
      else
        (.ok, xtcp, world)
    | (error, _) => (error, xtcp, world)

/-- `step_attempt`. -/
def stepAttempt (platform : Platform Net Sys Peer) (xtcp : Controller)
    (now : Nat) (seconds : Int) (world : World Net Sys Peer) :
    Result × Controller × World Net Sys Peer :=
  match xtcp.attempt with
  | none => (.ok, xtcp, world)
  | some attempt =>
    match xtcp.phase with
    | .discovering | .signaling | .punching =>
      let (stepped, peer) := platform.rendezvous.stepNat world.peer now
      let world := { world with peer := peer }
      if stepped ≠ .ok ∧ stepped ≠ .wouldBlock then
        (stepped, xtcp, world)
      else
        match platform.rendezvous.natStatus peer with
        | (.ok, state) =>
          if state = .mapped ∧ xtcp.phase = .discovering then
            xtcp.signalRequest platform attempt seconds world
          else if state ≠ .punched then
            (.ok, xtcp, world)
          else
            match xtcp.handOver platform attempt now seconds peer with
            | (.ok, xtcp, peer) =>
              match xtcp.attempt with
              | none => (.ok, xtcp, { world with peer := peer })
              | some attempt => xtcp.stepPeer platform attempt now { world with peer := peer }
            | (error, xtcp, peer) => (error, xtcp, { world with peer := peer })
        | (error, _) => (error, xtcp, world)
    | _ => xtcp.stepPeer platform attempt now world

/-! ## The controller -/

/-- `efrp_xtcp_set_control_id`. -/
def setControlId (xtcp : Controller) (controlId : Identifier) : Result × Controller :=
  if nonzero controlId.cells = false then
    (.invalidArgument, xtcp)
  else if xtcp.authenticated ∨ xtcp.cancelled then
    (.invalidState, xtcp)
  else
    (.ok, { xtcp with controlId := controlId, authenticated := true })

/-- `efrp_xtcp_start`. -/
def start (os : Os Sys) (xtcp : Controller) (sys : Sys) : Result × Controller × Sys :=
  if !xtcp.authenticated ∨ xtcp.started ∨ xtcp.cancelled then
    (.invalidState, xtcp, sys)
  else if xtcp.role = .visitor then
    let (result, listener, sys) := Listener.create os xtcp.localIpv4 xtcp.localPort sys
    (result, { xtcp with listener := listener, started := decide (result = .ok) }, sys)
  else
    (.ok, { xtcp with started := true }, sys)

/-- `efrp_xtcp_request`. -/
def request (xtcp : Controller) : Controller :=
  if xtcp.role ≠ .provider ∨ xtcp.pendingRequests ≠ 0 ∨ xtcp.admission.isSome then
    { xtcp with rejected := xtcp.rejected + 1 }
  else
    { xtcp with pendingRequests := 1 }

/-- An attempt for the local connection of a visitor. -/
def attemptLocal (platform : Platform Net Sys Peer) (xtcp : Controller)
    (now : Nat) (world : World Net Sys Peer) :
    Controller × World Net Sys Peer :=
  if xtcp.socket.isSome ∧ xtcp.phase = .idle then
    let (result, xtcp, world) := xtcp.beginAttempt platform [] now world
    if result = .ok ∨ result = .wouldBlock then
      (xtcp, world)
    else
      xtcp.failAttempt platform result world
  else
    (xtcp, world)

/-- The listener of a visitor is asked for a connection. -/
def acceptLocal (platform : Platform Net Sys Peer) (xtcp : Controller)
    (now : Nat) (world : World Net Sys Peer) :
    Result × Controller × World Net Sys Peer :=
  if xtcp.role = .visitor ∧ xtcp.socket = none ∧ (xtcp.phase = .idle ∨ xtcp.phase = .ready) ∧
      (xtcp.work.all.countP fun stream => stream.phase.busy || stream.phase == .closing) < 2 then
    match xtcp.listener with
    | none => (.invalidState, xtcp, world)
    | some listener =>
      match listener.ready platform.business.os world.sys with
      | (.ok, listener, sys) =>
        match listener.accept platform.business.os now sys with
        | (.ok connect, listener, sys) =>
          let (xtcp, world) :=
            attemptLocal platform
              { xtcp with
                listener := some listener
                socket := some connect } now
              { world with sys := sys }
          (.ok, xtcp, world)
        | (.error .wouldBlock, listener, sys) =>
          (.ok, { xtcp with listener := some listener }, { world with sys := sys })
        | (.error error, listener, sys) =>
          (error, { xtcp with listener := some listener }, { world with sys := sys })
      | (.wouldBlock, listener, sys) =>
        (.ok, { xtcp with listener := some listener }, { world with sys := sys })
      | (error, listener, sys) =>
        (error, { xtcp with listener := some listener }, { world with sys := sys })
  else
    (.ok, xtcp, world)

/-- The attempt is advanced, and ends with whatever error it meets. -/
def advanceAttempt (platform : Platform Net Sys Peer) (xtcp : Controller)
    (now : Nat) (seconds : Int) (world : World Net Sys Peer) :
    Controller × World Net Sys Peer :=
  let (result, xtcp, world) := xtcp.stepAttempt platform now seconds world
  if result = .ok ∨ result = .wouldBlock then
    (xtcp, world)
  else
    xtcp.failAttempt platform result world

/-- `efrp_xtcp_step`. -/
def step (platform : Platform Net Sys Peer) (xtcp : Controller) (now : Nat)
    (seconds : Int) (runId token : List UInt8)
    (world : World Net Sys Peer) : Result × Controller × World Net Sys Peer :=
  if token = [] ∨ seconds ≤ 0 ∨ timeMax - 60000 < now then
    (.invalidArgument, xtcp, world)
  else if xtcp.cancelled then
    let (_, xtcp, world) := xtcp.drainAttempt platform now world
    (.cancelled, xtcp, world)
  else if !xtcp.authenticated ∨ !xtcp.started then
    (.invalidState, xtcp, world)
  else if xtcp.phase = .draining then
    let (_, xtcp, world) := xtcp.drainAttempt platform now world
    (.ok, xtcp, world)
  else
    match xtcp.openAdmission platform now seconds runId token world with
    | (.ok, xtcp, world) =>
      match xtcp.stepAdmission platform now world with
      | (.ok, xtcp, world) =>
        match xtcp.acceptLocal platform now world with
        | (.ok, xtcp, world) =>
          let (xtcp, world) := xtcp.attemptLocal platform now world
          let (xtcp, world) := xtcp.advanceAttempt platform now seconds world
          (.ok, xtcp, world)
        | (error, xtcp, world) => (error, xtcp, world)
      | (error, xtcp, world) => (error, xtcp, world)
    | (error, xtcp, world) => (error, xtcp, world)

/-- `efrp_xtcp_cancel`. -/
def cancel (platform : Platform Net Sys Peer) (xtcp : Controller) (now : Nat)
    (world : World Net Sys Peer) : Result × Controller × World Net Sys Peer :=
  let (xtcp, world) :=
    if xtcp.cancelled then
      (xtcp, world)
    else
      ({ xtcp with
          cancelled := true
          phase := .draining
          error := .cancelled
          secretKey := []
          controlId := .filled 0 32
          output := []
          outputOffset := 0
          pendingRequests := 0
          reportPending := false
          reportSid := []
          admission := xtcp.admission.map fun admission =>
            { admission with
              output := List.replicate admission.output.length 0 } },
        { world with
          peer := cancelPeer platform xtcp.attempt world.peer })
  match Listener.destroy platform.business.os xtcp.listener world.sys with
  | (.ok, listener, sys) =>
    drainAttempt platform { xtcp with listener := listener } now { world with sys := sys }
  | (_, listener, sys) =>
    (.wouldBlock, { xtcp with listener := listener }, { world with sys := sys })

/-- `efrp_xtcp_destroy`: the controller is kept when it must be retried. -/
def destroy (platform : Platform Net Sys Peer) (xtcp : Controller) (now : Nat)
    (world : World Net Sys Peer) :
    Result × Option Controller × World Net Sys Peer :=
  match xtcp.cancel platform now world with
  | (.ok, _, world) => (.ok, none, world)
  | (error, xtcp, world) => (error, some xtcp, world)

end Controller

end EspFrp.Xtcp

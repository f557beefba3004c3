import EspFrp.Login.Handshake
import EspFrp.Xtcp.Controller

/-!
# The control session

`session.c`: the login, the registration of a proxy, the heartbeat, and the
messages that drive work streams and XTCP attempts, on one stream of a
transport.

The record layer is an interface with two directions.  The `history` of a
session, the plaintext it has `sent` and the frames it has `begun` are
recorded for the statements only, as are the frames of a controller that is
gone and whether input came `early`.
-/

namespace EspFrp.Control

open Binding Login Streams

/-- `EFRP_SESSION_HEARTBEAT_MS`. -/
abbrev heartbeatMs : Nat := 15000

/-- The size of `control_rx` and `control_tx`. -/
abbrev controlBytes : Nat := 1024

/-! ## The record layer -/

/-- The reader of encrypted records. -/
structure Inbound (Rx : Type) where
  init : Rx → (key : Identifier) → Result × Rx
  plaintext : Rx → Result × List UInt8 × Rx
  consume : Rx → (length : Nat) → Result × Rx
  feed : Rx → List UInt8 → Result × Nat × Rx
  finish : Rx → Result
  close : Rx → Result × Rx
  init_settled : ∀ rx key, (init rx key).1 ≠ .wouldBlock
  consume_settled : ∀ rx length, (consume rx length).1 ≠ .wouldBlock
  finish_settled : ∀ rx, finish rx ≠ .wouldBlock

/-- The writer of encrypted records. -/
structure Outbound (Tx : Type) where
  init : Tx → (key : Identifier) → Result × Tx
  write : Tx → List UInt8 → Result × Nat × Tx
  output : Tx → Result × List UInt8
  consumeOutput : Tx → (length : Nat) → Result × Tx
  destroy : Tx → Tx
  init_settled : ∀ tx key, (init tx key).1 ≠ .wouldBlock
  consumeOutput_settled : ∀ tx length, (consumeOutput tx length).1 ≠ .wouldBlock
  write_le : ∀ tx bytes, (write tx bytes).2.1 ≤ bytes.length

/-! ## State -/

/-- `efrp_session_phase_t`. -/
inductive Phase where
  | authenticating
  | registering
  | registered
  | failed
  | stopped
deriving DecidableEq, Repr

/-- What a session is created for. -/
inductive Kind where
  | provider
  | visitor
  | xtcpProvider
  | xtcpVisitor
deriving DecidableEq, Repr

/-- `visitor_role`. -/
def Kind.visiting : Kind → Bool
  | .visitor | .xtcpVisitor => true
  | _ => false

/-- The sessions with an XTCP controller. -/
def Kind.xtcp : Kind → Bool
  | .xtcpProvider | .xtcpVisitor => true
  | _ => false

/-- What happens in a session. -/
inductive Event where
  | loggedIn
  | proxyQueued (frame : List UInt8)
  | pingQueued (frame : List UInt8)
  | registered (address : List UInt8)
  | workRequested
  | answered
  | serviceStarted
  | pong
  | refused (payload : List UInt8)
  | ended (result : Result)
deriving DecidableEq, Repr

/-- `efrp_session_t`; a buffer is the list of its bytes in use. -/
structure Session (Rx Tx : Type) where
  kind : Kind
  optionalAddress : Bool := false
  proxyName : List UInt8 := []
  stream : Option Nat := none
  xtcp : Option Xtcp.Controller := none
  work : Work.Set := {}
  handshake : Handshake := {}
  rx : Rx
  tx : Tx
  frames : Wire.Reader := { capacity := Json.maxBytes }
  phase : Phase := .authenticating
  result : Result := .ok
  pongs : Nat := 0
  runId : List UInt8 := []
  remoteAddress : List UInt8 := []
  controlRx : List UInt8 := []
  controlOffset : Nat := 0
  controlTx : List UInt8 := []
  txOffset : Nat := 0
  token : List UInt8 := []
  now : Nat := 0
  unixSeconds : Int := 0
  registrationDeadline : Nat := 0
  pingDeadline : Nat := 0
  nextPing : Nat := 0
  frameError : Result := .ok
  proxyQueued : Bool := false
  pingPending : Bool := false
  transportEof : Bool := false
  controlReady : Bool := false
  otherCleared : Bool := false
  history : List Event := []
  sent : List UInt8 := []
  begun : List (List UInt8) := []
  retired : List (List UInt8) := []
  early : Bool := false

/-- What a session runs on. -/
structure Platform (Net Sys Peer Rx Tx : Type) where
  work : Work.Platform Net Sys
  peer : Transport Peer
  rendezvous : Xtcp.Rendezvous Peer
  signals : Xtcp.Signals Sys
  crypto : Crypto
  login : Login.Messages Sys
  newProxy : Sys → Except Work.EncodeError (List UInt8) × Sys
  ping : Sys → (token : List UInt8) → (seconds : Int) → Except Work.EncodeError (List UInt8) × Sys
  inbound : Inbound Rx
  outbound : Outbound Tx
  status_settled : ∀ net, (work.transport.status net).1 ≠ .wouldBlock
  info_settled : ∀ net id, (work.transport.info net id).1 ≠ .wouldBlock

variable {Net Sys Peer Rx Tx : Type}

/-- The platform of the controller: the same one, with the peer transport. -/
def Platform.xtcp (platform : Platform Net Sys Peer Rx Tx) : Xtcp.Platform Net Sys Peer where
  control := platform.work.transport
  business :=
    { transport := platform.peer
      os := platform.work.os
      datagrams := platform.work.datagrams
      codec := platform.work.codec
      parse := platform.work.parse
      messages := platform.work.messages }
  rendezvous := platform.rendezvous
  signals := platform.signals
  hashing := platform.crypto.hashing

/-- The configuration of a session, which has passed its validation. -/
structure Config where
  kind : Kind
  login : Login.Config
  proxyName : List UInt8 := []
  secretKey : List UInt8 := []
  localIpv4 : List UInt8 := []
  localPort : Nat := 0
  udp : Bool := false
  udpPacketSize : Nat := 0
  optionalAddress : Bool := false

/-- `efrp_work_init`, `efrp_work_visit_init` and `efrp_work_peer_init`. -/
def Config.workSet (config : Config) : Work.Set :=
  match config.kind with
  | .visitor =>
    { group :=
        { proxyName := config.proxyName
          visitor := some
            { secretKey := config.secretKey
              bindIpv4 := config.localIpv4
              bindPort := config.localPort } } }
  | .xtcpVisitor => {}
  | .provider | .xtcpProvider =>
    { group :=
        { address := config.localIpv4
          port := config.localPort
          proxyName := config.proxyName
          udp := config.udp
          udpPacketSize := config.udpPacketSize } }

/-- `efrp_xtcp_create`. -/
def Config.controller (config : Config) : Option Xtcp.Controller :=
  let create (role : Role) (group : Work.Group) : Xtcp.Controller :=
    { role := role
      proxyName := config.proxyName
      secretKey := config.secretKey
      localIpv4 := config.localIpv4
      localPort := config.localPort
      work := { group := group } }
  match config.kind with
  | .xtcpProvider =>
    some (create .provider
      { peerRole := some .provider
        address := config.localIpv4
        port := config.localPort })
  | .xtcpVisitor => some (create .visitor { peerRole := some .visitor })
  | _ => none

namespace Session

/-- A session with the world around it. -/
abbrev Running (Net Sys Peer Rx Tx : Type) : Type := Session Rx Tx × Xtcp.World Net Sys Peer

/-- Record an event. -/
def note (session : Session Rx Tx) (event : Event) : Session Rx Tx :=
  { session with history := session.history ++ [event] }

/-- `create_session` after its checks. -/
def create (platform : Platform Net Sys Peer Rx Tx) (config : Config)
    (rx : Rx) (tx : Tx) (now : Nat) (world : Xtcp.World Net Sys Peer) :
    Except Result (Session Rx Tx) × Xtcp.World Net Sys Peer :=
  let (queried, status) := platform.work.transport.status world.net
  if queried ≠ .ok ∨ !status.isOpen ∨ status.result ≠ .ok then
    (.error .invalidState, world)
  else
    let login :=
      { config.login with
        quic := status.quic
        udpBinary := config.kind == .provider && config.udp
        xtcpBinding := config.kind.xtcp }
    match Handshake.init platform.login login now world.sys with
    | (.ok, handshake, sys) =>
      match platform.work.transport.openStream world.net with
      | (.ok, stream, net) =>
        (.ok
          { kind := config.kind
            optionalAddress := config.optionalAddress
            proxyName :=
              if config.kind = .visitor then [] else config.proxyName
            stream := some stream
            xtcp := config.controller
            work := config.workSet
            handshake := handshake
            rx := rx
            tx := tx
            token := login.token
            now := now }, { world with net := net, sys := sys })
      | (error, _, net) => (.error error, { world with net := net, sys := sys })
    | (error, _, sys) => (.error error, { world with sys := sys })

/-! ## Ending -/

/-- `clear`, with the part that is done only once. -/
def clearOther (platform : Platform Net Sys Peer Rx Tx)
    (session : Session Rx Tx) (sys : Sys) : Session Rx Tx × Sys :=
  if session.otherCleared then
    (session, sys)
  else
    let (_, work, sys) := session.work.cancel platform.work.os platform.work.datagrams sys
    ({ session with
        work := work
        handshake := {}
        tx := platform.outbound.destroy session.tx
        remoteAddress := []
        token := []
        controlRx := []
        controlOffset := 0
        controlTx := []
        txOffset := 0
        pingPending := false
        otherCleared := true }, sys)

/-- `clear`. -/
def clear (platform : Platform Net Sys Peer Rx Tx) :
    Running Net Sys Peer Rx Tx → Result × Running Net Sys Peer Rx Tx
  | (session, world) =>
    let (stored, rx) := platform.inbound.close session.rx
    let session := { session with rx := rx }
    let (xtcp, world) :=
      match session.xtcp with
      | none => (none, world)
      | some xtcp =>
        let (_, xtcp, world) := xtcp.cancel platform.xtcp session.now world
        (some xtcp, world)
    let (session, sys) := session.clearOther platform world.sys
    let world := { world with sys := sys }
    match xtcp with
    | none => (stored, { session with xtcp := none }, world)
    | some xtcp =>
      let (destroyed, kept, world) := xtcp.destroy platform.xtcp session.now world
      let session :=
        { session with
          xtcp := kept
          retired :=
            if kept.isNone then xtcp.encoded else session.retired }
      if destroyed ≠ .ok then
        (destroyed, session, world)
      else
        (stored, session, world)

/-- `fail`. -/
def fail (platform : Platform Net Sys Peer Rx Tx) (result : Result) :
    Running Net Sys Peer Rx Tx → Result × Running Net Sys Peer Rx Tx
  | (session, world) =>
    if session.result ≠ .ok then
      let (_, work, sys) := session.work.cancel platform.work.os platform.work.datagrams world.sys
      (session.result, { session with work := work }, { world with sys := sys })
    else
      let session :=
        { session.note (.ended result) with
          result := result
          phase := if result = .cancelled then .stopped else .failed }
      let world := { world with net := platform.work.transport.cancel world.net }
      let (cleanup, session, world) := clear platform (session, world)
      let session :=
        if cleanup ≠ .ok ∧ cleanup ≠ .wouldBlock then
          { session with result := cleanup }
        else
          session
      (session.result, session, world)

/-! ## Messages of the server -/

/-- The answer to the registration of the proxy. -/
def acceptRegistration (platform : Platform Net Sys Peer Rx Tx) (root : Option Json.Value) :
    Running Net Sys Peer Rx Tx → Result × Running Net Sys Peer Rx Tx
  | (session, world) =>
    match Json.text root (Json.ascii "error"), Json.text root (Json.ascii "remote_addr") with
    | some error, some address =>
      if !Json.shape root (["proxy_name", "remote_addr", "error"].map Json.ascii) ∨
          !Json.equals root (Json.ascii "proxy_name") session.proxyName then
        (.protocolError, session, world)
      else if error ≠ [] then
        (.proxyRejected, session, world)
      else if address = [] ∧ !session.optionalAddress then
        (.protocolError, session, world)
      else
        let (allocated, sys) :=
          if address = [] then (true, world.sys)
          else platform.work.os.allocate world.sys
        let world := { world with sys := sys }
        if allocated then
          (.ok,
            { session.note (.registered address) with
              remoteAddress := address
              phase := .registered
              nextPing := session.now }, world)
        else
          (.noMemory, session, world)
    | _, _ => (.protocolError, session, world)

/-- The first Pong starts the listener or the controller. -/
def startService (platform : Platform Net Sys Peer Rx Tx) :
    Running Net Sys Peer Rx Tx → Result × Running Net Sys Peer Rx Tx
  | (session, world) =>
    if session.pongs ≠ 0 then
      (.ok, session, world)
    else if session.kind = .visitor then
      match session.work.visitStart platform.work.os world.sys with
      | (.ok, work, sys) =>
        (.ok, { session.note .serviceStarted with work := work }, { world with sys := sys })
      | (error, work, sys) => (error, { session with work := work }, { world with sys := sys })
    else
      match session.xtcp with
      | none => (.ok, session, world)
      | some xtcp =>
        match xtcp.start platform.work.os world.sys with
        | (.ok, xtcp, sys) =>
          (.ok, { session.note .serviceStarted with xtcp := some xtcp }, { world with sys := sys })
        | (error, xtcp, sys) =>
          (error, { session with xtcp := some xtcp }, { world with sys := sys })

/-- The answer to a heartbeat. -/
def acceptPong (platform : Platform Net Sys Peer Rx Tx) (root : Option Json.Value) :
    Running Net Sys Peer Rx Tx → Result × Running Net Sys Peer Rx Tx
  | (session, world) =>
    match Json.text root (Json.ascii "error") with
    | some error =>
      if !Json.shape root [Json.ascii "error"] then
        (.protocolError, session, world)
      else if error ≠ [] then
        (.authenticationFailed, session, world)
      else
        match startService platform (session, world) with
        | (.ok, session, world) =>
          (.ok,
            { session.note .pong with
              pingPending := false
              pongs := session.pongs + 1 }, world)
        | (error, running) => (error, running)
    | none => (.protocolError, session, world)

/-- A request for a work stream. -/
def acceptWork (root : Option Json.Value) :
    Running Net Sys Peer Rx Tx → Result × Running Net Sys Peer Rx Tx
  | (session, world) =>
    if !Json.shape root [] then
      (.protocolError, session, world)
    else
      let session := session.note .workRequested
      match session.xtcp with
      | some xtcp => (.ok, { session with xtcp := some xtcp.request }, world)
      | none => (.ok, { session with work := session.work.request }, world)

/-- An answer to the signalling of an attempt. -/
def acceptSignal (platform : Platform Net Sys Peer Rx Tx)
    (xtcp : Xtcp.Controller) (frame : Wire.Kind)
    (payload : List UInt8) :
    Running Net Sys Peer Rx Tx → Result × Running Net Sys Peer Rx Tx
  | (session, world) =>
    match xtcp.response platform.xtcp frame payload session.now session.unixSeconds world with
    | (.ok, xtcp, world) => (.ok, { session.note .answered with xtcp := some xtcp }, world)
    | (error, xtcp, world) => (error, { session with xtcp := some xtcp }, world)

/-- The branches of `accept_control` by type, phase and role. -/
def dispatch (platform : Platform Net Sys Peer Rx Tx) (payload : List UInt8) :
    Running Net Sys Peer Rx Tx → Result × Running Net Sys Peer Rx Tx
  | (session, world) =>
    let type := payload.getD 1 0
    let root := platform.work.parse (payload.drop 2)
    if type = 4 ∧ session.phase = .registering ∧ session.proxyQueued then
      acceptRegistration platform root (session, world)
    else if type = 12 ∧ session.phase = .registered ∧ session.pingPending then
      acceptPong platform root (session, world)
    else if type = 7 ∧ !session.kind.visiting ∧
        (session.phase = .registering ∨ session.phase = .registered) then
      acceptWork root (session, world)
    else
      (.protocolError, session, world)

/-- The message is judged, and the error is kept for the session. -/
def judge (platform : Platform Net Sys Peer Rx Tx) (frame : Wire.Kind) (payload : List UInt8) :
    Running Net Sys Peer Rx Tx → Result × Running Net Sys Peer Rx Tx
  | (session, world) =>
    if frame ≠ .message ∨ payload.length < 2 ∨ payload.getD 0 0 ≠ 0 then
      (.protocolError, session, world)
    else
      match session.xtcp with
      | some xtcp =>
        if payload.getD 1 0 = 22 ∧ session.phase = .registered then
          acceptSignal platform xtcp frame payload (session, world)
        else
          dispatch platform payload (session, world)
      | none => dispatch platform payload (session, world)

/-- `accept_control`. -/
def acceptControl (platform : Platform Net Sys Peer Rx Tx) :
    Wire.Handler (Running Net Sys Peer Rx Tx) :=
  fun running frame payload =>
    let (result, session, world) := judge platform frame payload running
    let session := { session with frameError := result }
    if result = .ok then
      (true, session, world)
    else
      (false, session.note (.refused payload), world)

/-! ## Input -/

/-- The control identity of the login goes to the controller. -/
def adoptControlId (session : Session Rx Tx) : Result × Session Rx Tx :=
  match session.xtcp with
  | none => (.ok, session)
  | some xtcp =>
    match session.handshake.xtcpControlId with
    | .error error => (error, session)
    | .ok controlId =>
      let (result, xtcp) := xtcp.setControlId controlId
      (result, { session with xtcp := some xtcp })

/-- The record layer starts with the keys of the login. -/
def startRecords (platform : Platform Net Sys Peer Rx Tx)
    (session : Session Rx Tx) (keys : Option Keys) :
    Result × Session Rx Tx :=
  let key (choose : Keys → Identifier) : Identifier := (keys.map choose).getD (.filled 0 32)
  let (result, rx) := platform.inbound.init session.rx (key Keys.serverToClient)
  let session := { session with rx := rx }
  if result ≠ .ok then
    (result, session)
  else
    let (result, tx) := platform.outbound.init session.tx (key Keys.clientToServer)
    (result, { session with tx := tx })

/-- `finish_login`. -/
def finishLogin (platform : Platform Net Sys Peer Rx Tx)
    (session : Session Rx Tx) : Result × Session Rx Tx :=
  match session.adoptControlId with
  | (.ok, session) =>
    match session.handshake.takeResult with
    | (.error error, handshake) => (error, { session with handshake := handshake })
    | (.ok (keys, runId), _) =>
      let session :=
        { session with
          runId := runId
          handshake := {}
          controlReady := true }
      match session.startRecords platform keys with
      | (.ok, session) =>
        let session := session.note .loggedIn
        (.ok,
          if session.kind.visiting then
            { session with
              frames := { capacity := Json.maxBytes }
              phase := .registered
              nextPing := session.now }
          else
            { session with
              frames := { capacity := Json.maxBytes }
              phase := .registering
              registrationDeadline := session.now + Work.responseMs })
      | (error, session) => (error, session)
  | (error, session) => (error, session)

/-- `control_finish`. -/
def controlFinish (platform : Platform Net Sys Peer Rx Tx)
    (session : Session Rx Tx) : Result × Session Rx Tx :=
  if session.phase = .authenticating then
    let (result, handshake) := session.handshake.finish
    (if result = .ok then .sessionClosed else result, { session with handshake := handshake })
  else
    let result := platform.inbound.finish session.rx
    let result := if result = .ok then session.frames.finish else result
    (if result = .ok then .sessionClosed else result, session)

/-- Frames are taken from the plaintext of the record layer. -/
def takePlaintext (platform : Platform Net Sys Peer Rx Tx) (plain : List UInt8) :
    Running Net Sys Peer Rx Tx → Result × Running Net Sys Peer Rx Tx
  | (session, world) =>
    let (result, used, frames, session, world) :=
      session.frames.feed (acceptControl platform) (session, world) plain
    let session := { session with frames := frames }
    if result ≠ .ok then
      (if session.frameError ≠ .ok then session.frameError else result, session, world)
    else
      let (result, rx) := platform.inbound.consume session.rx used
      (result, { session with rx := rx }, world)

/-- The bytes of the buffer that were used are forgotten in the end. -/
def advance (session : Session Rx Tx) (used : Nat) : Session Rx Tx :=
  let offset := session.controlOffset + used
  if offset = session.controlRx.length then
    { session with controlRx := [], controlOffset := 0 }
  else
    { session with controlOffset := offset }

/-- Stream bytes go to the login or to the record layer. -/
def takeBytes (platform : Platform Net Sys Peer Rx Tx)
    (session : Session Rx Tx) : Result × Session Rx Tx :=
  let bytes := session.controlRx.drop session.controlOffset
  if session.phase = .authenticating then
    let early := session.early || decide (session.handshake.state = .send)
    let (result, used, handshake) :=
      session.handshake.feed platform.work.parse platform.crypto bytes
    let session := { session with handshake := handshake, early := early }
    if result ≠ .ok then
      (result, session)
    else if handshake.state = .done then
      match finishLogin platform session with
      | (.ok, session) => (.ok, session.advance used)
      | (error, session) => (error, session)
    else
      (.ok, session.advance used)
  else
    let (result, used, rx) := platform.inbound.feed session.rx bytes
    let session := { session with rx := rx }
    if result ≠ .ok ∧ result ≠ .wouldBlock then
      (result, session)
    else
      (.ok, session.advance used)

/-- The stream of the session is read when the buffer is empty. -/
def readControl (platform : Platform Net Sys Peer Rx Tx) :
    Running Net Sys Peer Rx Tx → Result × Running Net Sys Peer Rx Tx
  | (session, world) =>
    let taken (session : Session Rx Tx) (world : Xtcp.World Net Sys Peer) :=
      let (result, session) := session.takeBytes platform
      (result, session, world)
    if session.controlRx ≠ [] then
      taken session world
    else
      match platform.work.transport.streamRead world.net session.stream controlBytes with
      | (.ok, bytes, net) =>
        taken { session with controlRx := bytes, controlOffset := 0 } { world with net := net }
      | (.eof, _, net) =>
        let (result, session) := session.controlFinish platform
        (result, session, { world with net := net })
      | (.wouldBlock, _, net) => (.ok, session, { world with net := net })
      | (error, _, net) => (error, session, { world with net := net })

/-- `control_input`. -/
def controlInput (platform : Platform Net Sys Peer Rx Tx) :
    Running Net Sys Peer Rx Tx → Result × Running Net Sys Peer Rx Tx
  | (session, world) =>
    if session.phase = .authenticating then
      readControl platform (session, world)
    else
      let (result, plain, rx) := platform.inbound.plaintext session.rx
      let session := { session with rx := rx }
      match result with
      | .ok => takePlaintext platform plain (session, world)
      | .wouldBlock => readControl platform (session, world)
      | error => (error, session, world)

/-! ## Output -/

/-- The registration of the proxy is queued. -/
def queueProxy (platform : Platform Net Sys Peer Rx Tx) :
    Running Net Sys Peer Rx Tx → Result × Running Net Sys Peer Rx Tx
  | (session, world) =>
    let (text, sys) := platform.newProxy world.sys
    let world := { world with sys := sys }
    match text.mapError Work.EncodeError.result >>= fun text => Wire.messageFrame 3 text with
    | .error error => (error, session, world)
    | .ok frame =>
      if controlBytes < frame.length + 5 then
        (.capacityExceeded, session, world)
      else
        (.ok,
          { session.note (.proxyQueued frame) with
            controlTx := frame
            txOffset := 0
            proxyQueued := true }, world)

/-- A heartbeat is queued. -/
def queuePing (platform : Platform Net Sys Peer Rx Tx) (seconds : Int) :
    Running Net Sys Peer Rx Tx → Result × Running Net Sys Peer Rx Tx
  | (session, world) =>
    let (text, sys) := platform.ping world.sys session.token seconds
    let world := { world with sys := sys }
    match text.mapError Work.EncodeError.result >>= fun text => Wire.messageFrame 11 text with
    | .error error => (error, session, world)
    | .ok frame =>
      if controlBytes ≤ frame.length then
        (.capacityExceeded, session, world)
      else
        (.ok,
          { session.note (.pingQueued frame) with
            controlTx := frame
            txOffset := 0
            pingPending := true
            pingDeadline := session.now + Work.responseMs
            nextPing := session.now + heartbeatMs }, world)

/-- The next control message, when one is due. -/
def queueDue (platform : Platform Net Sys Peer Rx Tx) (seconds : Int) :
    Running Net Sys Peer Rx Tx → Result × Running Net Sys Peer Rx Tx
  | (session, world) =>
    if session.phase = .registering ∧ !session.proxyQueued then
      queueProxy platform (session, world)
    else if session.phase = .registered ∧ !session.pingPending ∧ session.nextPing ≤ session.now then
      queuePing platform seconds (session, world)
    else
      (.ok, session, world)

/-- The output of the controller, which only a registered session asks. -/
def xtcpOutput (platform : Platform Net Sys Peer Rx Tx) : Running Net Sys Peer Rx Tx →
      Result × List UInt8 × Running Net Sys Peer Rx Tx
  | (session, world) =>
    match session.xtcp, session.phase with
    | some xtcp, .registered =>
      let (result, bytes, xtcp, sys) := xtcp.xtcpOutput platform.xtcp world.sys
      (result, bytes, { session with xtcp := some xtcp }, { world with sys := sys })
    | _, _ => (.wouldBlock, [], session, world)

/-- `prepare_control`. -/
def prepareControl (platform : Platform Net Sys Peer Rx Tx) (seconds : Int) :
    Running Net Sys Peer Rx Tx → Result × Running Net Sys Peer Rx Tx
  | (session, world) =>
    if session.controlTx ≠ [] ∨ session.phase = .authenticating then
      (.ok, session, world)
    else
      match xtcpOutput platform (session, world) with
      | (.wouldBlock, _, running) => queueDue platform seconds running
      | (result, _, running) => (result, running)

/-- The login is written to the stream. -/
def writeLogin (platform : Platform Net Sys Peer Rx Tx) :
    Running Net Sys Peer Rx Tx → Result × Running Net Sys Peer Rx Tx
  | (session, world) =>
    match session.handshake.handshakeOutput with
    | (.ok, bytes) =>
      match platform.work.transport.streamWrite world.net session.stream bytes with
      | (.ok, used, net) =>
        let (result, handshake) := session.handshake.consumeOutput used
        (result, { session with handshake := handshake }, { world with net := net })
      | (.wouldBlock, _, net) => (.ok, session, { world with net := net })
      | (error, _, net) => (error, session, { world with net := net })
    | (.wouldBlock, _) => (.ok, session, world)
    | (error, _) => (error, session, world)

/-- Plaintext that the writer has accepted, of the frame it belongs to. -/
def accepted (session : Session Rx Tx) (frame : List UInt8)
    (offset : Nat) (bytes : List UInt8) : Session Rx Tx :=
  { session with
    sent := session.sent ++ bytes
    begun :=
      if offset = 0 ∧ bytes ≠ [] then session.begun ++ [frame]
      else session.begun }

/-- A part of the queued control message goes to the writer. -/
def sealControl (platform : Platform Net Sys Peer Rx Tx)
    (session : Session Rx Tx) : Result × Session Rx Tx :=
  let bytes := session.controlTx.drop session.txOffset
  match platform.outbound.write session.tx bytes with
  | (.ok, used, tx) =>
    let session :=
      { session.accepted session.controlTx session.txOffset (bytes.take used) with
        tx := tx }
    let offset := session.txOffset + used
    (.ok,
      if offset = session.controlTx.length then
        { session with controlTx := [], txOffset := 0 }
      else
        { session with txOffset := offset })
  | (.wouldBlock, _, tx) => (.ok, { session with tx := tx })
  | (error, _, tx) => (error, { session with tx := tx })

/-- A part of the frame of the controller goes to the writer. -/
def sealXtcp (platform : Platform Net Sys Peer Rx Tx) (xtcp : Xtcp.Controller) (bytes : List UInt8)
    (session : Session Rx Tx) : Result × Session Rx Tx :=
  let bytes := bytes.take controlBytes
  match platform.outbound.write session.tx bytes with
  | (.ok, used, tx) =>
    let session :=
      { session.accepted xtcp.output xtcp.outputOffset (bytes.take used) with
        tx := tx }
    let (result, xtcp) := xtcp.consumeOutput used
    (result, { session with xtcp := some xtcp })
  | (.wouldBlock, _, tx) => (.ok, { session with tx := tx })
  | (error, _, tx) => (error, { session with tx := tx })

/-- The writer is free for the next plaintext. -/
def sealNext (platform : Platform Net Sys Peer Rx Tx) :
    Running Net Sys Peer Rx Tx → Result × Running Net Sys Peer Rx Tx
  | (session, world) =>
    if session.controlTx ≠ [] then
      let (result, session) := session.sealControl platform
      (result, session, world)
    else
      match xtcpOutput platform (session, world) with
      | (.ok, bytes, session, world) =>
        match session.xtcp with
        | none => (.ok, session, world)
        | some xtcp =>
          let (result, session) := session.sealXtcp platform xtcp bytes
          (result, session, world)
      | (.wouldBlock, _, running) => (.ok, running)
      | (error, _, running) => (error, running)

/-- `control_output`. -/
def controlOutput (platform : Platform Net Sys Peer Rx Tx) :
    Running Net Sys Peer Rx Tx → Result × Running Net Sys Peer Rx Tx
  | (session, world) =>
    if session.phase = .authenticating then
      writeLogin platform (session, world)
    else
      match platform.outbound.output session.tx with
      | (.ok, bytes) =>
        match platform.work.transport.streamWrite world.net session.stream bytes with
        | (.ok, used, net) =>
          let (result, tx) := platform.outbound.consumeOutput session.tx used
          (result, { session with tx := tx }, { world with net := net })
        | (.wouldBlock, _, net) => (.ok, session, { world with net := net })
        | (error, _, net) => (error, session, { world with net := net })
      | (.wouldBlock, _) => sealNext platform (session, world)
      | (error, _) => (error, session, world)

/-! ## The step -/

/-- The business of the session is stepped. -/
def stepService (platform : Platform Net Sys Peer Rx Tx) (now : Nat) (seconds : Int) :
    Running Net Sys Peer Rx Tx → Result × Running Net Sys Peer Rx Tx
  | (session, world) =>
    if session.phase = .authenticating then
      (.ok, session, world)
    else
      match session.xtcp with
      | some xtcp =>
        if session.pongs = 0 then
          (.ok, session, world)
        else
          let (result, xtcp, world) :=
            xtcp.step platform.xtcp now seconds session.runId session.token world
          (result, { session with xtcp := some xtcp }, world)
      | none =>
        if session.kind = .visitor then
          if session.pongs = 0 then
            (.ok, session, world)
          else
            let (result, work, net, sys) :=
              session.work.visitStep platform.work now session.runId seconds world.net world.sys
            (result, { session with work := work }, { world with net := net, sys := sys })
        else
          let (result, work, net, sys) :=
            session.work.workStep platform.work now session.runId
              session.token seconds world.net world.sys
          (result, { session with work := work }, { world with net := net, sys := sys })

/-- The transport is stepped, and may have ended. -/
def stepTransport (platform : Platform Net Sys Peer Rx Tx) (now : Nat) :
    Running Net Sys Peer Rx Tx → Result × Running Net Sys Peer Rx Tx
  | (session, world) =>
    match platform.work.transport.step world.net now with
    | (.eof, net) => (.ok, { session with transportEof := true }, { world with net := net })
    | (.ok, net) | (.wouldBlock, net) => (.ok, session, { world with net := net })
    | (error, net) => (error, session, { world with net := net })

/-- The stages of a step, each of which may end the session. -/
def follow (platform : Platform Net Sys Peer Rx Tx) :
    List (Running Net Sys Peer Rx Tx → Result × Running Net Sys Peer Rx Tx) →
    Running Net Sys Peer Rx Tx → Result × Running Net Sys Peer Rx Tx
  | [], running => (.ok, running)
  | stage :: rest, running =>
    match stage running with
    | (.ok, running) => follow platform rest running
    | (error, running) => fail platform error running

/-- A stage that is left out once the transport has ended. -/
def whileOpen (stage : Running Net Sys Peer Rx Tx → Result × Running Net Sys Peer Rx Tx) :
    Running Net Sys Peer Rx Tx → Result × Running Net Sys Peer Rx Tx
  | (session, world) =>
    if session.transportEof then (.ok, session, world)
    else stage (session, world)

/-- `efrp_transport_status` answers for the transport. -/
def checkStatus (platform : Platform Net Sys Peer Rx Tx) :
    Running Net Sys Peer Rx Tx → Result × Running Net Sys Peer Rx Tx
  | (session, world) => ((platform.work.transport.status world.net).1, session, world)

/-- The deadlines of the login, the registration and the heartbeat. -/
def checkDeadlines (now : Nat) : Running Net Sys Peer Rx Tx → Result × Running Net Sys Peer Rx Tx
  | (session, world) =>
    let (result, handshake) :=
      if session.phase = .authenticating then
        session.handshake.tick now
      else
        (.ok, session.handshake)
    let session := { session with handshake := handshake }
    if result ≠ .ok then
      (result, session, world)
    else if session.phase = .registering ∧ session.registrationDeadline ≤ now then
      (.timeout, session, world)
    else if session.pingPending ∧ session.pingDeadline ≤ now then
      (.timeout, session, world)
    else
      (.ok, session, world)

/-- `check_eof`. -/
def checkEof (platform : Platform Net Sys Peer Rx Tx) :
    Running Net Sys Peer Rx Tx → Result × Running Net Sys Peer Rx Tx
  | (session, world) =>
    if !session.transportEof ∨ session.controlRx ≠ [] then
      (.ok, session, world)
    else
      match platform.work.transport.streamInfo world.net session.stream with
      | (.ok, info) =>
        if info.readableBytes ≠ 0 then
          (.ok, session, world)
        else
          let (result, rx) :=
            if session.phase = .authenticating then
              (.wouldBlock, session.rx)
            else
              ((platform.inbound.plaintext session.rx).1,
                (platform.inbound.plaintext session.rx).2.2)
          let session := { session with rx := rx }
          match result with
          | .ok => (.ok, session, world)
          | .wouldBlock =>
            match platform.work.transport.finish world.net with
            | .ok =>
              let (result, session) := session.controlFinish platform
              (result, session, world)
            | .wouldBlock => (.ok, session, world)
            | error => (error, session, world)
          | error => (error, session, world)
      | (error, _) => (error, session, world)

/-- One turn of the loop of `efrp_session_step`. -/
def turn (platform : Platform Net Sys Peer Rx Tx) (now : Nat) (seconds : Int) :
    List (Running Net Sys Peer Rx Tx → Result × Running Net Sys Peer Rx Tx) :=
  [controlInput platform, whileOpen (prepareControl platform seconds),
    whileOpen (controlOutput platform),
    whileOpen (stepService platform now seconds),
    whileOpen (stepTransport platform now)]

/-- The stages of `efrp_session_step`. -/
def stages (platform : Platform Net Sys Peer Rx Tx) (now : Nat) (seconds : Int) :
    List (Running Net Sys Peer Rx Tx → Result × Running Net Sys Peer Rx Tx) :=
  [stepTransport platform now, checkStatus platform, checkDeadlines now] ++
    (List.replicate 8 (turn platform now seconds)).flatten ++
    [checkEof platform]

/-- `efrp_session_step`. -/
def step (platform : Platform Net Sys Peer Rx Tx) (now : Nat) (seconds : Int) :
    Running Net Sys Peer Rx Tx → Result × Running Net Sys Peer Rx Tx
  | (session, world) =>
    if session.result ≠ .ok then
      fail platform session.result (session, world)
    else if now < session.now ∨ timeMax - Work.idleMs < now ∨ seconds ≤ 0 then
      (.invalidArgument, session, world)
    else
      follow platform (stages platform now seconds)
        ({ session with now := now, unixSeconds := seconds }, world)

/-- `efrp_session_cancel`. -/
def cancel (platform : Platform Net Sys Peer Rx Tx) :
    Running Net Sys Peer Rx Tx → Result × Running Net Sys Peer Rx Tx := fail platform .cancelled

/-- `efrp_session_drain`. -/
def drain (platform : Platform Net Sys Peer Rx Tx) (now : Nat) :
    Running Net Sys Peer Rx Tx → Running Net Sys Peer Rx Tx
  | (session, world) =>
    if session.result = .ok ∨ now < session.now then
      (session, world)
    else
      match session.xtcp with
      | none => ({ session with now := now }, world)
      | some xtcp =>
        let (_, xtcp, world) := xtcp.cancel platform.xtcp now world
        ({ session with now := now, xtcp := some xtcp }, world)

/-- `efrp_session_destroy`: the session is freed when the answer is `ok`. -/
def destroy (platform : Platform Net Sys Peer Rx Tx) (running : Running Net Sys Peer Rx Tx) :
    Result × Running Net Sys Peer Rx Tx :=
  let (_, session, world) := cancel platform running
  let (idle, work, sys) := session.work.cancel platform.work.os platform.work.datagrams world.sys
  let running := ({ session with work := work }, { world with sys := sys })
  if idle then
    clear platform running
  else
    (.wouldBlock, running)

/-! ## Runs -/

/-- What the owner of a session does. -/
inductive Move where
  | step (now : Nat) (seconds : Int)
  | cancel
  | drain (now : Nat)
  | destroy
deriving DecidableEq, Repr

/-- One move. -/
def move (platform : Platform Net Sys Peer Rx Tx) (running : Running Net Sys Peer Rx Tx) :
    Move → Running Net Sys Peer Rx Tx
  | .step now seconds => (step platform now seconds running).2
  | .cancel => (cancel platform running).2
  | .drain now => drain platform now running
  | .destroy => (destroy platform running).2

/-- A run of moves. -/
def run (platform : Platform Net Sys Peer Rx Tx)
    (running : Running Net Sys Peer Rx Tx) (moves : List Move) :
    Running Net Sys Peer Rx Tx := moves.foldl (move platform) running

end Session

end EspFrp.Control

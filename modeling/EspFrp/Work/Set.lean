import EspFrp.Binding.Proof
import EspFrp.Json.Document
import EspFrp.Work.Udp

/-!
# Work streams

`work.c`: the streams that carry business connections of a provider, of an
STCP visitor or of an XTCP peer.  A stream sends a request for admission,
waits for the answer, and is then relayed to a local socket until both
directions have ended.

The function of the source that handles one stream is a sequence of blocks
on a scene: the stream, the fields that its set shares, and the transport
and operating system it acts on.  The `traffic` of a stream and the streams
`finished` are recorded for the statements only.
-/

namespace EspFrp.Work

open Local Streams

/-- `EFRP_SESSION_RESPONSE_MS`. -/
abbrev responseMs : Nat := 10000

/-- `EFRP_WORK_IDLE_MS`. -/
abbrev idleMs : Nat := 60000

/-- `EFRP_WORK_CLEANUP_MS`. -/
abbrev cleanupMs : Nat := 5000

/-- The size of each transfer buffer. -/
abbrev bufferBytes : Nat := 1024

/-! ## State -/

/-- `efrp_work_phase_t`; a free slot holds no stream. -/
inductive Phase where
  | sending
  | waiting
  | connecting
  | active
  | closing
  | peerOpening
deriving DecidableEq, Repr

/-- The phases in which the shared parser belongs to the stream. -/
def Phase.admitting : Phase → Bool
  | .sending | .waiting => true
  | _ => false

/-- The phases that count as active. -/
def Phase.busy : Phase → Bool
  | .connecting | .active | .peerOpening => true
  | _ => false

/-- What has passed through a stream. -/
structure Traffic where
  request : List UInt8 := []
  written : List UInt8 := []
  received : List UInt8 := []
  admission : List UInt8 := []
  toLocal : List UInt8 := []
  fromLocal : List UInt8 := []
  shutdownAsked : Bool := false
  finAsked : Bool := false
deriving DecidableEq, Repr

/--
`efrp_work_stream_t`.  Each transfer buffer is the list of the bytes in use,
of which the first `offset` have been passed on.
-/
structure Stream where
  phase : Phase
  streamId : Option Nat := none
  socket : Option Connect := none
  udp : Option Udp := none
  reader : Wire.Reader := { capacity := 0 }
  incoming : List UInt8 := []
  incomingOffset : Nat := 0
  outgoing : List UInt8 := []
  outgoingOffset : Nat := 0
  deadline : Nat := 0
  lastActivity : Nat := 0
  incomingProgress : Nat := 0
  outgoingProgress : Nat := 0
  finProgress : Nat := 0
  result : Result := .ok
  started : Bool := false
  partialHeader : Bool := false
  remoteEof : Bool := false
  localEof : Bool := false
  localFin : Bool := false
  streamFin : Bool := false
  traffic : Traffic := {}
deriving DecidableEq, Repr

/-- `efrp_visit_work_t`. -/
structure Visit where
  listener : Option Listener := none
  secretKey : List UInt8 := []
  bindIpv4 : List UInt8 := []
  bindPort : Nat := 0
  started : Bool := false
deriving DecidableEq, Repr

/-- The slot that a step begins with at first. -/
def firstSlot : Fin 3 := 0

/-- The fields of `efrp_work_set_t` that its streams share. -/
structure Group where
  handshakeJson : Bool := false
  status : Status := {}
  cursor : Fin 3 := firstSlot
  address : List UInt8 := []
  port : Nat := 0
  udp : Bool := false
  udpPacketSize : Nat := 0
  proxyName : List UInt8 := []
  visitor : Option Visit := none
  peerRole : Option Binding.Role := none
  finished : List Stream := []
deriving DecidableEq, Repr

/-- `efrp_work_set_t`. -/
structure Set where
  group : Group := {}
  streams : Fin 3 → Option Stream := fun _ => none

/-- Why a request could not be encoded. -/
inductive EncodeError where
  | invalidArgument
  | cryptoError
  | noMemory
  | capacityExceeded
  | protocolError
deriving DecidableEq, Repr

/-- The result code of an encoding error. -/
def EncodeError.result : EncodeError → Result
  | .invalidArgument => .invalidArgument
  | .cryptoError => .cryptoError
  | .noMemory => .noMemory
  | .capacityExceeded => .capacityExceeded
  | .protocolError => .protocolError

/-- The texts of the requests, which the JSON library prints. -/
structure Messages (Sys : Type) where
  newWork : Sys → (runId token : List UInt8) → (seconds : Int) →
    Except EncodeError (List UInt8) × Sys
  newVisitor : Sys → (runId target secret : List UInt8) →
    (seconds : Int) → Except EncodeError (List UInt8) × Sys
  newWork_le : ∀ {sys runId token seconds text next},
    newWork sys runId token seconds = (.ok text, next) → text.length ≤ 1006
  newVisitor_le : ∀ {sys runId target secret seconds text next},
    newVisitor sys runId target secret seconds = (.ok text, next) → text.length ≤ 1006

/-- What the work streams run on. -/
structure Platform (Net Sys : Type) where
  transport : Transport Net
  os : Os Sys
  datagrams : Datagrams Sys
  codec : Codec
  parse : Json.Parser
  messages : Messages Sys

/-- One stream with everything its handling can change. -/
structure Scene (Net Sys : Type) where
  group : Group
  stream : Stream
  net : Net
  sys : Sys
  replacing : Bool := false

variable {Net Sys : Type}

/-! ## Closing -/

/-- `close_work`. -/
def closeWork (group : Group) (stream : Stream) (reason : Result) : Group × Stream :=
  if stream.phase = .closing then
    (group, stream)
  else
    let group :=
      if stream.phase.admitting then
        { group with handshakeJson := false }
      else
        group
    let group :=
      if reason = .ok then
        group
      else
        { group with
          status :=
            { group.status with
              failed := group.status.failed + 1
              lastError := reason } }
    (group,
      { stream with
        phase := .closing
        result := reason
        reader :=
          if stream.phase.admitting then { capacity := 0 }
          else stream.reader
        incoming := []
        incomingOffset := 0
        outgoing := []
        outgoingOffset := 0 })

namespace Scene

/-- Change the stream. -/
def update (scene : Scene Net Sys) (change : Stream → Stream) :
    Scene Net Sys :=
  { scene with stream := change scene.stream }

/-- Close the stream, which ends its handling. -/
def close (scene : Scene Net Sys) (reason : Result) : Bool × Scene Net Sys :=
  let (group, stream) := closeWork scene.group scene.stream reason
  (false, { scene with group := group, stream := stream })

/-- A sequence of blocks, each of which may end the handling. -/
def follow (scene : Scene Net Sys) :
    List (Scene Net Sys → Bool × Scene Net Sys) → Bool × Scene Net Sys
  | [] => (true, scene)
  | block :: rest =>
    match block scene with
    | (true, scene) => follow scene rest
    | (false, scene) => (false, scene)

/-- The status of the set changes. -/
def count (scene : Scene Net Sys) (change : Status → Status) :
    Scene Net Sys :=
  { scene with
    group := { scene.group with status := change scene.group.status } }

/-! ## Admission -/

/-- The answer to a request: the payload of `StartWorkConn`. -/
def startFields : List (List UInt8) :=
  ["proxy_name", "src_addr", "dst_addr", "src_port", "dst_port", "error"].map Json.ascii

/-- The checks of `start_work` on a document. -/
def judgeStart (root : Option Json.Value) (proxyName : List UInt8) :
    Result :=
  match Json.text root (Json.ascii "error"), Json.text root (Json.ascii "src_addr"),
      Json.text root (Json.ascii "dst_addr") with
  | some error, some source, some target =>
    if !Json.shape root startFields ∨ 128 < source.length ∨ 128 < target.length ∨
        !Json.portValue root (Json.ascii "src_port") ∨
        !Json.portValue root (Json.ascii "dst_port") then
      .protocolError
    else if error ≠ [] then
      .workRejected
    else if !Json.equals root (Json.ascii "proxy_name") proxyName then
      .protocolError
    else
      .ok
  | _, _, _ => .protocolError

/-- `start_work`; the state is what it writes to the stream. -/
def startWork (parse : Json.Parser) (proxyName : List UInt8) : Wire.Handler (Bool × Result) :=
  fun state kind payload =>
    if kind ≠ .message ∨ payload.length < 2 ∨ payload.getD 0 0 ≠ 0 ∨ payload.getD 1 0 ≠ 8 then
      (false, state.1, .protocolError)
    else
      let result := judgeStart (parse (payload.drop 2)) proxyName
      (decide (result = .ok), state.1 || decide (result = .ok), result)

/-- `efrp_stcp_visitor_accept_response`. -/
def acceptResponse (parse : Json.Parser) (target : List UInt8)
    (kind : Wire.Kind) (payload : List UInt8) : Result :=
  if target = [] ∨ 128 < target.length ∨ !Json.utf8 target then
    .invalidArgument
  else if kind ≠ .message ∨ payload.length < 2 ∨
      Json.maxBytes < payload.length - 2 ∨ payload.getD 0 0 ≠ 0 ∨
      payload.getD 1 0 ≠ 10 then
    .protocolError
  else
    let root := parse (payload.drop 2)
    match Json.text root (Json.ascii "error") with
    | some error =>
      if Json.shape root (["proxy_name", "error"].map Json.ascii) &&
          Json.equals root (Json.ascii "proxy_name") target then
        if error = [] then .ok else .workRejected
      else
        .protocolError
    | none => .protocolError

/-- `start_visitor`. -/
def startVisitor (parse : Json.Parser) (target : List UInt8) : Wire.Handler (Bool × Result) :=
  fun _ kind payload =>
    let result := acceptResponse parse target kind payload
    (decide (result = .ok), decide (result = .ok), result)

/-- The handler that admits a stream of the set. -/
def admission (platform : Platform Net Sys) (group : Group) : Wire.Handler (Bool × Result) :=
  if group.visitor.isSome then
    startVisitor platform.parse group.proxyName
  else
    startWork platform.parse group.proxyName

/-- A visitor opens its stream when it has one to open. -/
def openVisitor (platform : Platform Net Sys) (now : Nat)
    (scene : Scene Net Sys) : Bool × Scene Net Sys :=
  if scene.group.visitor.isSome ∧ scene.stream.streamId = none then
    if scene.stream.deadline ≤ now then
      scene.close .timeout
    else
      match platform.transport.openStream scene.net with
      | (.ok, id, net) =>
        (true,
          { scene with
            net := net
            stream := { scene.stream with streamId := some id } })
      | (.wouldBlock, _, net) => (false, { scene with net := net })
      | (error, _, net) => { scene with net := net }.close error
  else
    (true, scene)

/-- The stream has taken a part of the request. -/
def requestTaken (stream : Stream) (used : Nat) : Stream :=
  { stream with
    outgoingOffset := stream.outgoingOffset + used
    traffic :=
      { stream.traffic with
        written := stream.traffic.written ++
          (stream.outgoing.drop stream.outgoingOffset).take used } }

/-- The request is written. -/
def sendRequest (platform : Platform Net Sys) (now : Nat)
    (scene : Scene Net Sys) : Bool × Scene Net Sys :=
  if scene.stream.phase = .sending then
    if scene.stream.deadline ≤ now then
      scene.close .timeout
    else
      match platform.transport.streamWrite scene.net scene.stream.streamId
          (scene.stream.outgoing.drop scene.stream.outgoingOffset) with
      | (.ok, used, net) =>
        let stream := requestTaken scene.stream used
        if stream.outgoingOffset < stream.outgoing.length then
          (false, { scene with net := net, stream := stream })
        else
          (true,
            { scene with
              net := net
              stream :=
                { stream with
                  outgoing := []
                  outgoingOffset := 0
                  phase := .waiting } })
      | (.wouldBlock, _, net) => (false, { scene with net := net })
      | (error, _, net) => { scene with net := net }.close error
  else
    (true, scene)

/-- A frame that has begun must be complete in time. -/
def awaitFrame (now : Nat) (scene : Scene Net Sys) : Bool × Scene Net Sys :=
  if (scene.group.visitor.isSome ∨ scene.stream.partialHeader) ∧ scene.stream.deadline ≤ now then
    scene.close .timeout
  else
    (true, scene)

/-- The shared parser buffer is allocated for the first input. -/
def claimParser (platform : Platform Net Sys) (scene : Scene Net Sys) : Bool × Scene Net Sys :=
  if scene.group.handshakeJson then
    (true, scene)
  else
    match platform.os.allocate scene.sys with
    | (false, sys) => { scene with sys := sys }.close .noMemory
    | (true, sys) =>
      (true,
        { scene with
          sys := sys
          group := { scene.group with handshakeJson := true }
          stream :=
            { scene.stream with
              reader := { capacity := Json.maxBytes } } })

/-- The first input starts the deadline of the frame of a provider. -/
def beginFrame (now : Nat) (scene : Scene Net Sys) : Scene Net Sys :=
  if scene.stream.partialHeader then
    scene
  else
    scene.update fun stream =>
      { stream with
        partialHeader := true
        deadline :=
          if scene.group.visitor.isSome then stream.deadline
          else now + responseMs }

/-- The parser takes at most one frame and leaves what follows it. -/
def parseFrame (platform : Platform Net Sys) (bytes : List UInt8)
    (scene : Scene Net Sys) : Bool × Scene Net Sys :=
  let stream := scene.stream
  match stream.reader.feedOne (admission platform scene.group)
      (stream.started, stream.result) bytes with
  | (result, used, reader, started, outcome) =>
    let scene := scene.update fun stream =>
      { stream with
        reader := reader
        started := started
        result := outcome
        incoming := bytes
        incomingOffset := used
        traffic :=
          { stream.traffic with
            admission := stream.traffic.admission ++ bytes.take used } }
    if result ≠ .ok then
      scene.close (if outcome ≠ .ok then outcome else result)
    else if !started then
      (false, scene.update fun stream => { stream with incoming := [], incomingOffset := 0 })
    else
      (true,
        { scene with
          group := { scene.group with handshakeJson := false }
          stream := { scene.stream with reader := { capacity := 0 } } })

/-- The answer is read and parsed. -/
def readAnswer (platform : Platform Net Sys) (now : Nat)
    (scene : Scene Net Sys) : Bool × Scene Net Sys :=
  match platform.transport.streamRead scene.net scene.stream.streamId bufferBytes with
  | (.ok, bytes, net) =>
    let scene := { scene with net := net }.update fun stream =>
      { stream with
        traffic :=
          { stream.traffic with
            received := stream.traffic.received ++ bytes } }
    match scene.claimParser platform with
    | (false, scene) => (false, scene)
    | (true, scene) => (scene.beginFrame now).parseFrame platform bytes
  | (.wouldBlock, _, net) => (false, { scene with net := net })
  | (.eof, _, net) => { scene with net := net }.close .truncated
  | (error, _, net) => { scene with net := net }.close error

/-- The admitted stream begins; `load` counts the sockets of the others. -/
def beginRelay (platform : Platform Net Sys) (load now : Nat)
    (scene : Scene Net Sys) : Bool × Scene Net Sys :=
  if scene.group.visitor.isSome then
    (true, scene.update fun stream =>
        { stream with
          phase := .active
          lastActivity := now
          incomingProgress := now
          outgoingProgress := now })
  else if scene.group.udp then
    (true,
      { scene with
        replacing := true
        stream :=
          { scene.stream with
            phase := .connecting
            deadline := now + responseMs
            lastActivity := now } })
  else if 2 ≤ load then
    scene.close .capacityExceeded
  else
    match Connect.createIpv4 platform.os scene.group.address scene.group.port now scene.sys with
    | (.error error, sys) => { scene with sys := sys }.close error
    | (.ok connect, sys) =>
      (true,
        { scene with
          sys := sys
          stream :=
            { scene.stream with
              socket := some connect
              phase := .connecting
              lastActivity := now
              incomingProgress := now } })

/-- `handshake_work`. -/
def handshakeWork (platform : Platform Net Sys) (load now : Nat)
    (scene : Scene Net Sys) : Scene Net Sys :=
  (scene.follow [openVisitor platform now, sendRequest platform now, awaitFrame now,
      readAnswer platform now, beginRelay platform load now]).2

/-! ## Relaying -/

/-- The local connection is established. -/
def stepConnect (platform : Platform Net Sys) (now : Nat)
    (scene : Scene Net Sys) : Bool × Scene Net Sys :=
  if scene.stream.phase = .connecting then
    match scene.stream.socket with
    | none => scene.close .invalidArgument
    | some connect =>
      let (result, connect, sys) := connect.step platform.os now scene.sys
      let scene :=
        { scene with
          sys := sys
          stream := { scene.stream with socket := some connect } }
      match result with
      | .ok =>
        (true, scene.update fun stream => { stream with phase := .active, lastActivity := now })
      | .wouldBlock => (false, scene)
      | error => scene.close error
  else
    (true, scene)

/-- A direction that makes no progress ends the stream. -/
def checkStall (now : Nat) (scene : Scene Net Sys) : Bool × Scene Net Sys :=
  let stream := scene.stream
  if idleMs ≤ now - stream.lastActivity then
    scene.close .timeout
  else if stream.incomingOffset < stream.incoming.length ∧
      ioStallMs ≤ now - stream.incomingProgress then
    scene.close .timeout
  else if stream.outgoingOffset < stream.outgoing.length ∧
      ioStallMs ≤ now - stream.outgoingProgress then
    scene.close .timeout
  else
    (true, scene)

/-- The incoming buffer is filled from the stream. -/
def readStream (platform : Platform Net Sys) (now : Nat)
    (scene : Scene Net Sys) : Bool × Scene Net Sys :=
  if scene.stream.incomingOffset < scene.stream.incoming.length then
    (true, scene)
  else
    let scene := scene.update fun stream => { stream with incoming := [], incomingOffset := 0 }
    if scene.stream.remoteEof then
      (true, scene)
    else
      match platform.transport.streamRead scene.net scene.stream.streamId bufferBytes with
      | (.eof, _, net) =>
        (true, { scene with net := net }.update fun stream =>
            { stream with remoteEof := true, finProgress := now })
      | (.ok, bytes, net) =>
        (true, { scene with net := net }.update fun stream =>
            { stream with
              incoming := bytes
              incomingProgress := now
              traffic :=
                { stream.traffic with
                  received := stream.traffic.received ++ bytes } })
      | (.wouldBlock, _, net) => (true, { scene with net := net })
      | (error, _, net) => { scene with net := net }.close error

/-- The local socket takes from the incoming buffer. -/
def sendLocal (platform : Platform Net Sys) (now : Nat)
    (scene : Scene Net Sys) : Bool × Scene Net Sys :=
  let stream := scene.stream
  if stream.incomingOffset < stream.incoming.length then
    match stream.socket with
    | none => scene.close .invalidArgument
    | some connect =>
      let bytes := stream.incoming.drop stream.incomingOffset
      let (result, count, connect, sys) := connect.send platform.os bytes scene.sys
      let scene :=
        { scene with
          sys := sys
          stream := { stream with socket := some connect } }
      match result with
      | .ok =>
        (true, (scene.count fun status =>
            { status with localSent := status.localSent + count }).update
            fun stream =>
              { stream with
                incomingOffset := stream.incomingOffset + count
                incomingProgress := now
                lastActivity := now
                traffic :=
                  { stream.traffic with
                    toLocal := stream.traffic.toLocal ++ bytes.take count } })
      | .wouldBlock => (true, scene)
      | error => scene.close error
  else
    (true, scene)

/-- The end of the stream is passed to the local socket. -/
def shutdownLocal (platform : Platform Net Sys) (now : Nat)
    (scene : Scene Net Sys) : Bool × Scene Net Sys :=
  if scene.stream.remoteEof ∧ !scene.stream.localFin then
    match scene.stream.socket with
    | none => scene.close .invalidArgument
    | some connect =>
      let (result, connect, sys) := connect.closeWrite platform.os scene.sys
      let scene :=
        { scene with
          sys := sys
          stream :=
            { scene.stream with
              socket := some connect
              traffic := { scene.stream.traffic with shutdownAsked := true } } }
      match result with
      | .ok => (true, scene.update fun stream => { stream with localFin := true })
      | .wouldBlock =>
        if ioStallMs ≤ now - scene.stream.finProgress then
          scene.close .timeout
        else
          (true, scene)
      | error => scene.close error
  else
    (true, scene)

/-- The outgoing buffer is filled from the local socket. -/
def recvLocal (platform : Platform Net Sys) (now : Nat)
    (scene : Scene Net Sys) : Bool × Scene Net Sys :=
  if scene.stream.outgoingOffset < scene.stream.outgoing.length then
    (true, scene)
  else
    let scene := scene.update fun stream => { stream with outgoing := [], outgoingOffset := 0 }
    if scene.stream.localEof then
      (true, scene)
    else
      match scene.stream.socket with
      | none => scene.close .invalidArgument
      | some connect =>
        let (result, bytes, connect, sys) := connect.recv platform.os bufferBytes scene.sys
        let scene :=
          { scene with
            sys := sys
            stream := { scene.stream with socket := some connect } }
        match result with
        | .eof => (true, scene.update fun stream => { stream with localEof := true })
        | .ok =>
          (true, (scene.count fun status =>
              { status with
                localReceived := status.localReceived + bytes.length }).update
              fun stream =>
                { stream with
                  outgoing := bytes
                  outgoingProgress := now
                  lastActivity := now
                  traffic :=
                    { stream.traffic with
                      fromLocal := stream.traffic.fromLocal ++ bytes } })
        | .wouldBlock => (true, scene)
        | error => scene.close error

/-- The stream takes from the outgoing buffer. -/
def writeStream (platform : Platform Net Sys) (now : Nat)
    (scene : Scene Net Sys) : Bool × Scene Net Sys :=
  let stream := scene.stream
  if stream.outgoingOffset < stream.outgoing.length then
    let bytes := stream.outgoing.drop stream.outgoingOffset
    match platform.transport.streamWrite scene.net stream.streamId bytes with
    | (.ok, count, net) =>
      (true, { scene with net := net }.update fun stream =>
          { stream with
            outgoingOffset := stream.outgoingOffset + count
            outgoingProgress := now
            lastActivity := now
            traffic :=
              { stream.traffic with
                written := stream.traffic.written ++ bytes.take count } })
    | (.wouldBlock, _, net) => (true, { scene with net := net })
    | (error, _, net) => { scene with net := net }.close error
  else
    (true, scene)

/-- The end of the local data is passed to the stream. -/
def finStream (platform : Platform Net Sys) (scene : Scene Net Sys) : Bool × Scene Net Sys :=
  if scene.stream.localEof ∧ !scene.stream.streamFin then
    let (result, net) :=
      Transport.onStream platform.transport.closeWrite scene.net scene.stream.streamId
    let scene := { scene with net := net }.update fun stream =>
      { stream with
        traffic := { stream.traffic with finAsked := true } }
    match result with
    | .ok => (true, scene.update fun stream => { stream with streamFin := true })
    | .wouldBlock => (true, scene)
    | error => scene.close error
  else
    (true, scene)

/-- Both directions have ended. -/
def conclude (now : Nat) (scene : Scene Net Sys) : Bool × Scene Net Sys :=
  let stream := scene.stream
  if stream.remoteEof ∧ stream.localFin ∧ stream.localEof ∧ stream.streamFin then
    (scene.update fun stream => { stream with deadline := now + cleanupMs }).close .ok
  else
    (true, scene)

/-- `forward_work`. -/
def forwardWork (platform : Platform Net Sys) (now : Nat) (scene : Scene Net Sys) : Scene Net Sys :=
  (scene.follow [stepConnect platform now, checkStall now, readStream platform now,
      sendLocal platform now, shutdownLocal platform now,
      recvLocal platform now, writeStream platform now,
      finStream platform, conclude now]).2

/-! ## Datagrams -/

/-- The datagram state of a stream that has replaced the older ones. -/
def startUdp (platform : Platform Net Sys) (othersClosing : Bool)
    (now : Nat) (scene : Scene Net Sys) : Bool × Scene Net Sys :=
  if scene.stream.phase = .connecting then
    if othersClosing then
      if scene.stream.deadline ≤ now then
        scene.close .timeout
      else
        (false, scene)
    else
      match Udp.create platform.os scene.group.udpPacketSize now scene.sys with
      | (none, sys) => { scene with sys := sys }.close .noMemory
      | (some udp, sys) =>
        (true,
          { scene with
            sys := sys
            stream := { scene.stream with udp := some udp, phase := .active } })
  else
    (true, scene)

/-- The datagram state after a change, with the counters. -/
def setUdp (scene : Scene Net Sys) (udp : Udp) (status : Status) :
    Scene Net Sys :=
  { scene with
    group := { scene.group with status := status }
    stream := { scene.stream with udp := some udp } }

/-- A datagram that is waiting is delivered, or dropped in the end. -/
def deliverPending (platform : Platform Net Sys) (udp : Udp) (now : Nat)
    (scene : Scene Net Sys) : Bool × Scene Net Sys × Udp :=
  if udp.pending then
    let (result, udp, status, sys) :=
      udp.deliver platform.datagrams scene.group.status now scene.sys
    let scene := { scene with sys := sys }.setUdp udp status
    if result = .wouldBlock ∧ now - udp.incomingAt < ioStallMs then
      (false, scene, udp)
    else
      let status :=
        if result = .ok then status
        else
          { status with
            udpDroppedDatagrams := status.udpDroppedDatagrams + 1 }
      let udp := { udp with pending := false, incoming := [], packet := {} }
      (true, scene.setUdp udp status, udp)
  else
    (true, scene, udp)

/-- The incoming buffer of a datagram stream is filled. -/
def readUdp (platform : Platform Net Sys) (udp : Udp)
    (scene : Scene Net Sys) : Bool × Scene Net Sys :=
  if scene.stream.incomingOffset < scene.stream.incoming.length then
    (true, scene)
  else
    let scene := scene.update fun stream => { stream with incoming := [], incomingOffset := 0 }
    match platform.transport.streamRead scene.net scene.stream.streamId bufferBytes with
    | (.eof, _, net) =>
      { scene with net := net }.close (if udp.header ≠ [] then .truncated else .streamReset)
    | (.ok, bytes, net) =>
      (true, { scene with net := net }.update fun stream => { stream with incoming := bytes })
    | (.wouldBlock, _, net) => (true, { scene with net := net })
    | (error, _, net) => { scene with net := net }.close error

/-- The datagram parser takes from the incoming buffer. -/
def feedUdp (platform : Platform Net Sys) (udp : Udp) (now : Nat)
    (scene : Scene Net Sys) : Bool × Scene Net Sys × Udp :=
  let stream := scene.stream
  if stream.incomingOffset < stream.incoming.length then
    let (result, used, udp, status) :=
      udp.feed platform.codec scene.group.udpPacketSize
        scene.group.status (stream.incoming.drop stream.incomingOffset) now
    let scene := (scene.setUdp udp status).update fun stream =>
      { stream with incomingOffset := stream.incomingOffset + used }
    if result = .ok then
      (true, scene, udp)
    else
      ((scene.close result).1, (scene.close result).2, udp)
  else
    (true, scene, udp)

/-- `forward_udp` once the datagram state exists. -/
def pumpUdp (platform : Platform Net Sys) (udp : Udp) (now : Nat)
    (scene : Scene Net Sys) : Scene Net Sys :=
  let (remotes, status, sys) :=
    Udp.expire platform.datagrams now udp.remotes scene.group.status scene.sys
  let udp := { udp with remotes := remotes }
  let scene := { scene with sys := sys }.setUdp udp status
  match scene.deliverPending platform udp now with
  | (false, scene, _) => scene
  | (true, scene, udp) =>
    if udp.header ≠ [] ∧ ioStallMs ≤ now - udp.incomingAt then
      (scene.close .timeout).2
    else
      match scene.readUdp platform udp with
      | (false, scene) => scene
      | (true, scene) =>
        match scene.feedUdp platform udp now with
        | (false, scene, _) => scene
        | (true, scene, udp) =>
          let (result, udp, status, net, sys) :=
            udp.output platform.codec platform.datagrams
              platform.transport scene.group.udpPacketSize
              scene.group.status scene.stream.streamId now
              scene.net scene.sys
          let scene := { scene with net := net, sys := sys }.setUdp udp status
          if result = .ok then scene else (scene.close result).2

/-- `forward_udp`. -/
def forwardUdp (platform : Platform Net Sys) (othersClosing : Bool)
    (now : Nat) (scene : Scene Net Sys) : Scene Net Sys :=
  match scene.startUdp platform othersClosing now with
  | (false, scene) => scene
  | (true, scene) =>
    match scene.stream.udp with
    | none => scene
    | some udp => scene.pumpUdp platform udp now

/-! ## Cleaning up -/

/-- The stream part of `cleanup_work`; `some` ends the whole step. -/
def releaseStream (platform : Platform Net Sys) (scene : Scene Net Sys) :
    Option Result × Scene Net Sys :=
  match scene.stream.streamId with
  | none => (none, scene)
  | some id =>
    let (result, net) :=
      if scene.stream.result = .ok then (.ok, scene.net)
      else platform.transport.reset scene.net id
    match result with
    | .ok =>
      match platform.transport.release net id with
      | (.ok, net) =>
        (none,
          { scene with
            net := net
            stream := { scene.stream with streamId := none } })
      | (.wouldBlock, net) => (none, { scene with net := net })
      | (error, net) => (some error, { scene with net := net })
    | .wouldBlock => (none, { scene with net := net })
    | error => (some error, { scene with net := net })

/-- The stream fails while it is being cleaned up. -/
def failLate (scene : Scene Net Sys) (reason : Result) :
    Scene Net Sys :=
  (scene.count fun status =>
    { status with failed := status.failed + 1, lastError := reason }).update
    fun stream => { stream with result := reason }

/-- A connection that ended normally is finished; false means to wait. -/
def finishLocal (platform : Platform Net Sys) (now : Nat)
    (connect : Connect) (scene : Scene Net Sys) :
    Bool × Scene Net Sys :=
  if scene.stream.result = .ok then
    let (result, connect, sys) := connect.finish platform.os scene.sys
    let scene :=
      { scene with
        sys := sys
        stream := { scene.stream with socket := some connect } }
    match result with
    | .ok => (true, scene)
    | .wouldBlock =>
      if now < scene.stream.deadline then
        (false, scene)
      else
        let (_, connect, sys) := connect.cancel platform.os scene.sys
        (true,
          { scene.failLate .timeout with
            sys := sys
            stream :=
              { (scene.failLate .timeout).stream with
                socket := some connect } })
    | error => (true, scene.failLate error)
  else
    (true, scene)

/-- The socket part of `cleanup_work`; false means to wait. -/
def releaseSocket (platform : Platform Net Sys) (now : Nat)
    (scene : Scene Net Sys) : Bool × Scene Net Sys :=
  match scene.stream.socket with
  | none => (true, scene)
  | some connect =>
    match scene.finishLocal platform now connect with
    | (false, scene) => (false, scene)
    | (true, scene) =>
      let (result, socket, sys) := Connect.destroy platform.os scene.stream.socket scene.sys
      (decide (result ≠ .wouldBlock),
        { scene with
          sys := sys
          stream := { scene.stream with socket := socket } })

/-- `cleanup_work`; the flag says whether the slot is free. -/
def cleanupWork (platform : Platform Net Sys) (now : Nat)
    (scene : Scene Net Sys) : Result × Bool × Scene Net Sys :=
  match scene.releaseStream platform with
  | (some error, scene) => (error, false, scene)
  | (none, scene) =>
    match scene.releaseSocket platform now with
    | (false, scene) => (.ok, false, scene)
    | (true, scene) =>
      let (udp, sys) := Udp.cleanup platform.datagrams scene.stream.udp scene.sys
      let scene :=
        { scene with
          sys := sys
          stream := { scene.stream with udp := udp } }
      if udp.isSome ∨ scene.stream.streamId.isSome then
        (.ok, false, scene)
      else if scene.stream.result = .ok then
        (.ok, true,
          { scene with
            group :=
              { scene.group with
                status :=
                  { scene.group.status with
                    completed := scene.group.status.completed + 1 }
                finished := scene.group.finished ++ [scene.stream] } })
      else
        (.ok, true, scene)

/-! ## One slot -/

/-- A peer stream is opened when the transport allows it. -/
def openPeer (platform : Platform Net Sys) (now : Nat) (scene : Scene Net Sys) : Scene Net Sys :=
  if scene.stream.phase = .peerOpening then
    if scene.stream.deadline ≤ now then
      (scene.close .timeout).2
    else
      match platform.transport.openStream scene.net with
      | (.ok, id, net) =>
        let scene :=
          { scene with
            net := net
            stream := { scene.stream with streamId := some id } }
        if id < 4 ∨ id % 4 ≠ 0 then
          (scene.close .protocolError).2
        else
          scene.update fun stream => { stream with phase := .active, lastActivity := now }
      | (.wouldBlock, _, net) => { scene with net := net }
      | (error, _, net) => ({ scene with net := net }.close error).2
  else
    scene

/-- A stream that the peer has reset is closed. -/
def observe (platform : Platform Net Sys) (scene : Scene Net Sys) : Result × Scene Net Sys :=
  match scene.stream.streamId with
  | none => (.ok, scene)
  | some id =>
    if scene.stream.phase = .closing then
      (.ok, scene)
    else
      match platform.transport.info scene.net id with
      | (.ok, info) =>
        (.ok,
          if info.reset then (scene.close .streamReset).2 else scene)
      | (error, _) => (error, scene)

end Scene

/-! ## The set -/

namespace Set

/-- The streams of the other slots. -/
def others (set : Set) (slot : Fin 3) : List Stream :=
  ((List.finRange 3).filter (· ≠ slot)).filterMap set.streams

/-- All streams. -/
def all (set : Set) : List Stream := (List.finRange 3).filterMap set.streams

/-- The sockets of the other slots that count against the limit. -/
def load (set : Set) (slot : Fin 3) : Nat :=
  (set.others slot).countP fun stream =>
    stream.phase.busy || (stream.phase == .closing && stream.socket.isSome)

/-- A stream with the shared part of its set. -/
def scene (set : Set) (stream : Stream) (net : Net) (sys : Sys) :
    Scene Net Sys :=
  { group := set.group, stream := stream, net := net, sys := sys }

/-- The result of handling a slot. -/
def store (set : Set) (slot : Fin 3) (group : Group) (stream : Option Stream) : Set :=
  { group := group
    streams := Function.update set.streams slot stream }

/-- A new datagram stream closes the older ones. -/
def replaceOthers (set : Set) (slot : Fin 3) : Set :=
  (List.finRange 3).foldl (fun set other =>
    match set.streams other with
    | none => set
    | some stream =>
      if other ≠ slot ∧ (stream.phase = .active ∨ stream.phase = .connecting) then
        let (group, stream) := closeWork set.group stream .streamReset
        set.store other group (some stream)
      else
        set) set

/-- The admission of the stream of a slot. -/
def admitSlot (platform : Platform Net Sys) (set : Set) (slot : Fin 3)
    (now : Nat) (scene : Scene Net Sys) : Set × Scene Net Sys :=
  if scene.stream.phase.admitting then
    let scene := scene.handshakeWork platform (set.load slot) now
    let set := set.store slot scene.group (some scene.stream)
    if scene.replacing then
      let set := set.replaceOthers slot
      (set, { scene with group := set.group })
    else
      (set, scene)
  else
    (set, scene)

/-- The relaying of the stream of a slot. -/
def forwardSlot (platform : Platform Net Sys) (set : Set) (slot : Fin 3)
    (now : Nat) (scene : Scene Net Sys) : Scene Net Sys :=
  if scene.stream.phase = .connecting ∨ scene.stream.phase = .active then
    if scene.group.udp then
      scene.forwardUdp platform ((set.others slot).any fun stream => stream.phase == .closing) now
    else
      scene.forwardWork platform now
  else
    scene

/-- The body of the loop of `step_streams`. -/
def stepSlot (platform : Platform Net Sys) (set : Set) (slot : Fin 3)
    (now : Nat) (net : Net) (sys : Sys) : Result × Set × Net × Sys :=
  match set.streams slot with
  | none => (.ok, set, net, sys)
  | some stream =>
    let scene := (set.scene stream net sys).openPeer platform now
    match scene.observe platform with
    | (.ok, scene) =>
      let (set, scene) := set.admitSlot platform slot now scene
      let scene := set.forwardSlot platform slot now scene
      if scene.stream.phase = .closing then
        let (result, free, scene) := scene.cleanupWork platform now
        (result, set.store slot scene.group (if free then none else some scene.stream),
          scene.net, scene.sys)
      else
        (.ok, set.store slot scene.group (some scene.stream), scene.net, scene.sys)
    | (error, scene) =>
      (error, set.store slot scene.group (some scene.stream), scene.net, scene.sys)

/-- The loop of `step_streams`. -/
def stepSlots (platform : Platform Net Sys) (now : Nat) :
    List (Fin 3) → Set → Net → Sys → Result × Set × Net × Sys
  | [], set, net, sys => (.ok, set, net, sys)
  | slot :: rest, set, net, sys =>
    match set.stepSlot platform slot now net sys with
    | (.ok, set, net, sys) => stepSlots platform now rest set net sys
    | (error, set, net, sys) => (error, set, net, sys)

/-- `step_streams`. -/
def stepStreams (platform : Platform Net Sys) (set : Set) (now : Nat)
    (net : Net) (sys : Sys) : Result × Set × Net × Sys :=
  let cursor := set.group.cursor
  match set.stepSlots platform now [cursor, cursor + 1, cursor + 2] net sys with
  | (.ok, set, net, sys) =>
    (.ok, { set with group := { set.group with cursor := cursor + 1 } }, net, sys)
  | (error, set, net, sys) => (error, set, net, sys)

/-- The first free slot. -/
def freeSlot (set : Set) : Option (Fin 3) :=
  (List.finRange 3).find? fun slot => (set.streams slot).isNone

/-- `efrp_work_request`. -/
def request (set : Set) : Set :=
  let status := set.group.status
  let status := { status with requests := status.requests + 1 }
  let status :=
    if set.group.visitor.isSome ∨ set.group.peerRole.isSome ∨ status.pending = 3 then
      { status with rejectedRequests := status.rejectedRequests + 1 }
    else
      { status with pending := status.pending + 1 }
  { set with group := { set.group with status := status } }

/-- A stream that is about to send the given request. -/
def requesting (socket : Option Connect) (id : Option Nat)
    (request : List UInt8) (now : Nat) : Stream :=
  { phase := .sending
    streamId := id
    socket := socket
    deadline := now + responseMs
    outgoing := request
    traffic := { request := request } }

/-- A stream enters its slot, closed if its request is not encoded. -/
def begin (set : Set) (slot : Fin 3) (status : Status)
    (socket : Option Connect) (id : Option Nat) (now : Nat) (type : UInt8)
    (text : Except EncodeError (List UInt8)) : Set :=
  let group := { set.group with status := status }
  match text.mapError EncodeError.result >>= fun text => Wire.messageFrame type text with
  | .ok frame => set.store slot group (some (requesting socket id (Wire.magic ++ frame) now))
  | .error error =>
    let (group, stream) := closeWork group (requesting socket id [] now) error
    set.store slot group (some stream)

/-- `efrp_work_step` as far as it opens a stream. -/
def openWork (platform : Platform Net Sys) (set : Set) (now : Nat)
    (runId token : List UInt8) (seconds : Int) (net : Net) (sys : Sys) :
    Result × Set × Net × Sys :=
  if set.group.status.pending = 0 ∨ set.all.any fun stream => stream.phase.admitting then
    (.ok, set, net, sys)
  else
    match set.freeSlot with
    | none => (.ok, set, net, sys)
    | some slot =>
      match platform.os.allocate sys with
      | (false, sys) => (.noMemory, set, net, sys)
      | (true, sys) =>
        match platform.transport.openStream net with
        | (.ok, id, net) =>
          let (text, sys) := platform.messages.newWork sys runId token seconds
          (.ok, set.begin slot
              { set.group.status with
                pending := set.group.status.pending - 1 }
              none (some id) now 6 text, net, sys)
        | (.wouldBlock, _, net) => (.ok, set, net, sys)
        | (error, _, net) => (error, set, net, sys)

/-- `efrp_work_step`. -/
def workStep (platform : Platform Net Sys) (set : Set) (now : Nat)
    (runId token : List UInt8) (seconds : Int) (net : Net) (sys : Sys) :
    Result × Set × Net × Sys :=
  if set.group.visitor.isSome ∨ set.group.peerRole.isSome then
    (.invalidState, set, net, sys)
  else
    match set.openWork platform now runId token seconds net sys with
    | (.ok, set, net, sys) => set.stepStreams platform now net sys
    | (error, set, net, sys) => (error, set, net, sys)

/-! ## The visitor -/

/-- `efrp_work_visit_start`. -/
def visitStart (os : Os Sys) (set : Set) (sys : Sys) : Result × Set × Sys :=
  match set.group.visitor with
  | none => (.invalidState, set, sys)
  | some visit =>
    if visit.started ∨ visit.listener.isSome then
      (.invalidState, set, sys)
    else
      let (result, listener, sys) := Listener.create os visit.bindIpv4 visit.bindPort sys
      let visit :=
        { visit with
          listener := listener
          started := decide (result = .ok) }
      (result, { set with group := { set.group with visitor := some visit } }, sys)

/-- The listener of the visitor changes. -/
def setListener (set : Set) (visit : Visit) (listener : Listener) : Set :=
  { set with
    group :=
      { set.group with
        visitor := some { visit with listener := some listener } } }

/-- A local connection is accepted into a free slot. -/
def acceptVisit (platform : Platform Net Sys) (set : Set) (visit : Visit)
    (listener : Listener) (slot : Fin 3) (now : Nat)
    (runId : List UInt8) (seconds : Int) (sys : Sys) :
    Result × Set × Sys :=
  match platform.os.allocate sys with
  | (false, sys) => (.noMemory, set, sys)
  | (true, sys) =>
    let (accepted, listener, sys) := listener.accept platform.os now sys
    let set := set.setListener visit listener
    let status := set.group.status
    match accepted with
    | .error .wouldBlock => (.ok, set, sys)
    | .error error =>
      (.ok,
        { set with
          group :=
            { set.group with
              status :=
                { status with
                  failed := status.failed + 1
                  lastError := error } } }, sys)
    | .ok connect =>
      let (text, sys) :=
        platform.messages.newVisitor sys runId set.group.proxyName visit.secretKey seconds
      (.ok, set.begin slot { status with requests := status.requests + 1 }
          (some connect) none now 9 text, sys)

/-- `efrp_work_visit_step` as far as it accepts a connection. -/
def openVisit (platform : Platform Net Sys) (set : Set) (visit : Visit)
    (listener : Listener) (now : Nat) (runId : List UInt8)
    (seconds : Int) (sys : Sys) : Result × Set × Sys :=
  let sockets := (if listener.acceptedFd.isSome then 1 else 0) + set.all.length
  let admitting := set.all.any fun stream => stream.phase.admitting
  let (ready, listener, sys) := listener.ready platform.os sys
  let set := set.setListener visit listener
  match ready, set.freeSlot with
  | .ok, some slot =>
    if !admitting ∧ sockets < 2 then
      set.acceptVisit platform visit listener slot now runId seconds sys
    else
      (.ok, set, sys)
  | .ok, none => (.ok, set, sys)
  | .wouldBlock, _ => (.ok, set, sys)
  | error, _ => (error, set, sys)

/-- `efrp_work_visit_step`. -/
def visitStep (platform : Platform Net Sys) (set : Set) (now : Nat)
    (runId : List UInt8) (seconds : Int) (net : Net) (sys : Sys) :
    Result × Set × Net × Sys :=
  match set.group.visitor, set.group.peerRole with
  | some visit, none =>
    match visit.started, visit.listener with
    | true, some listener =>
      match set.openVisit platform visit listener now runId seconds sys with
      | (.ok, set, sys) => set.stepStreams platform now net sys
      | (error, set, sys) => (error, set, net, sys)
    | _, _ => (.invalidState, set, net, sys)
  | _, _ => (.invalidState, set, net, sys)

/-! ## The peer -/

/-- `efrp_work_peer_adopt`; the socket stays with the caller on an error. -/
def peerAdopt (os : Os Sys) (set : Set) (connect : Connect) (now : Nat)
    (sys : Sys) : Result × Set × Sys :=
  if timeMax - responseMs < now then
    (.invalidArgument, set, sys)
  else if set.group.peerRole ≠ some .visitor then
    (.invalidState, set, sys)
  else if connect.state ≠ .opened ∨ connect.result ≠ .ok then
    (.invalidState, set, sys)
  else
    match set.freeSlot with
    | none => (.capacityExceeded, set, sys)
    | some slot =>
      if 2 ≤ set.all.length then
        (.capacityExceeded, set, sys)
      else
        match os.allocate sys with
        | (false, sys) => (.noMemory, set, sys)
        | (true, sys) =>
          let stream : Stream :=
            { phase := .peerOpening
              socket := some connect
              deadline := now + responseMs
              lastActivity := now
              incomingProgress := now
              outgoingProgress := now }
          let status := set.group.status
          (.ok, set.store slot
              { set.group with
                status := { status with requests := status.requests + 1 } }
              (some stream), sys)

/-- A stream of the visitor is accepted by the provider. -/
def acceptPeer (platform : Platform Net Sys) (set : Set) (slot : Fin 3)
    (now : Nat) (net : Net) (sys : Sys) : Result × Set × Net × Sys :=
  match platform.os.allocate sys with
  | (false, sys) => (.noMemory, set, net, sys)
  | (true, sys) =>
    match platform.transport.accept net with
    | (.wouldBlock, _, net) => (.ok, set, net, sys)
    | (.ok, id, net) =>
      let status := set.group.status
      let group :=
        { set.group with
          status := { status with requests := status.requests + 1 } }
      let stream : Stream :=
        { phase := .connecting
          streamId := some id
          deadline := now + responseMs
          lastActivity := now
          incomingProgress := now
          outgoingProgress := now }
      let (connect, sys) :=
        if id < 4 ∨ id % 4 ≠ 0 then (.error .protocolError, sys)
        else
          Connect.createIpv4 platform.os group.address group.port now sys
      match connect with
      | .ok connect =>
        (.ok, set.store slot group (some { stream with socket := some connect }), net, sys)
      | .error error =>
        let (group, stream) := closeWork group stream error
        (.ok, set.store slot group (some stream), net, sys)
    | (error, _, net) => (error, set, net, sys)

/-- `efrp_work_peer_step`. -/
def peerStep (platform : Platform Net Sys) (set : Set) (now : Nat)
    (net : Net) (sys : Sys) : Result × Set × Net × Sys :=
  if timeMax - idleMs < now then
    (.invalidArgument, set, net, sys)
  else
    let (result, status) := platform.transport.status net
    if set.group.peerRole = none ∨ result ≠ .ok ∨ !status.quic ∨
        !status.isOpen ∨ status.result ≠ .ok then
      (.invalidState, set, net, sys)
    else
      match set.group.peerRole, set.freeSlot with
      | some .provider, some slot =>
        if set.all.length < 2 then
          match set.acceptPeer platform slot now net sys with
          | (.ok, set, net, sys) => set.stepStreams platform now net sys
          | (error, set, net, sys) => (error, set, net, sys)
        else
          set.stepStreams platform now net sys
      | _, _ => set.stepStreams platform now net sys

/-! ## Cancelling -/

/-- One slot of `efrp_work_cancel`. -/
def cancelSlot (os : Os Sys) (datagrams : Datagrams Sys)
    (stream : Stream) (sys : Sys) : Option Stream × Sys :=
  let (udp, sys) := Udp.cleanup datagrams stream.udp sys
  let (result, socket, sys) :=
    if udp.isSome then (.ok, stream.socket, sys)
    else Connect.destroy os stream.socket sys
  if udp.isSome ∨ result = .wouldBlock then
    (some
      { stream with
        udp := udp
        socket := socket
        phase := .closing
        incoming := List.replicate stream.incoming.length 0
        outgoing := List.replicate stream.outgoing.length 0 }, sys)
  else
    (none, sys)

/-- The slots of `efrp_work_cancel`. -/
def cancelSlots (os : Os Sys) (datagrams : Datagrams Sys) : List (Fin 3) → Set → Sys → Set × Sys
  | [], set, sys => (set, sys)
  | slot :: rest, set, sys =>
    match set.streams slot with
    | none => cancelSlots os datagrams rest set sys
    | some stream =>
      let (kept, sys) := cancelSlot os datagrams stream sys
      cancelSlots os datagrams rest (set.store slot set.group kept) sys

/-- The listener part of `efrp_work_cancel`. -/
def cancelListener (os : Os Sys) (visitor : Option Visit) (sys : Sys) : Option Visit × Sys :=
  match visitor with
  | none => (none, sys)
  | some visit =>
    let (_, listener, sys) := Listener.destroy os visit.listener sys
    (some { visit with started := false, listener := listener }, sys)

/-- `efrp_work_cancel`. -/
def cancel (os : Os Sys) (datagrams : Datagrams Sys) (set : Set) (sys : Sys) : Bool × Set × Sys :=
  let (visitor, sys) := cancelListener os set.group.visitor sys
  let set :=
    { set with
      group :=
        { set.group with
          status := { set.group.status with pending := 0 }
          visitor := visitor
          handshakeJson := false } }
  let (set, sys) := cancelSlots os datagrams (List.finRange 3) set sys
  let done := set.all.isEmpty && visitor.all fun visit => visit.listener.isNone
  if done then
    (true, { set with group := { set.group with visitor := none } }, sys)
  else
    (false, set, sys)

end Set

end EspFrp.Work

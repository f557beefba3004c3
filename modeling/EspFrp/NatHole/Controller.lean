import EspFrp.Binding.Proof

/-!
# The rendezvous controller of the server

`nathole/controller.go`.  Controls register themselves, a control that offers
a proxy owns its configuration, and a visitor opens a session with the owner
of the configuration.  Every function that takes the lock is one transition.
A handler of a visitor holds its session across several transitions: it
offers the session to the owner, waits for the message of the owner, answers
both and removes the session in the end.

A map is the list of its values, each with its key, and a reference numbers
the objects of a kind.  The lists `closed` and `done` record the channels
that were closed, and `sent` the answers.
-/

namespace EspFrp.NatHole

open Binding

/-! ## Objects -/

/-- What `NatHoleVisitor` and `NatHoleClient` have in common. -/
structure Notice where
  transactionId : List UInt8
  proxyName : List UInt8
  timestamp : Int64
  controlId : List UInt8
  nonce : List UInt8
  spki : List UInt8
  certificate : List UInt8
  signalProof : List UInt8
  mappedAddrs : List (List UInt8) := []
  assistedAddrs : List (List UInt8) := []
deriving DecidableEq

/-- `NatHoleVisitor`. -/
structure Visitor extends Notice where
  preCheck : Bool := false
  protocol : List UInt8
deriving DecidableEq

/-- `NatHoleClient`. -/
structure Client extends Notice where
  sid : List UInt8
deriving DecidableEq

/-- `NatHoleResp`, without what the peers are advised to try. -/
structure Response where
  transactionId : List UInt8
  sid : List UInt8 := []
  error : List UInt8 := []
  manifest : List UInt8 := []
  certificate : List UInt8 := []
deriving DecidableEq

/-- `ClientCfg`. -/
structure ClientCfg where
  ref : Nat
  name : List UInt8
  sk : List UInt8
  allowUsers : List (List UInt8)
  ownerControl : Identifier
deriving DecidableEq

/--
The part of `Session` that is fixed when it is opened, with the configuration
that its handler holds.
-/
structure Session where
  ref : Nat
  sid : List UInt8
  visitorMsg : Visitor
  visitorTransporter : Nat
  visitorControl : Identifier
  providerControl : Identifier
  clientCfg : ClientCfg
deriving DecidableEq

/-- Where the handler of a visitor stands. -/
inductive Phase where
  | offering
  | waiting
  | checking
  | analysing
  | sending (visitorSent clientSent : Bool)
  | lingering
  | leaving
  | returned
  | panicked
deriving DecidableEq

/-- The handler of a visitor, with the part of its session that changes. -/
structure Handler where
  session : Session
  clientMsg : Option (Client × Nat) := none
  notified : Bool := false
  responses : Option (Response × Response) := none
  phase : Phase := .offering
deriving DecidableEq

/-- An answer, the transport it is sent on and the session it is part of. -/
structure Sent where
  transporter : Nat
  response : Response
  issuer : Option (Nat × Role) := none
deriving DecidableEq

/-- `Controller`. -/
structure Controller where
  controls : List Identifier := []
  clientCfgs : List ClientCfg := []
  sessions : List Session := []
  handlers : Nat → Option Handler := fun _ => none
  cfgCount : Nat := 0
  sessionCount : Nat := 0
  closed : List Nat := []
  done : List Nat := []
  sent : List Sent := []

/-- The digest, and the checks that answer with the text of an error. -/
structure Services where
  sha256 : List UInt8 → Identifier
  validateCertificate : Role → (certificate spki : List UInt8) → Option (List UInt8)
  classifyNatFeature : (addresses localAddresses : List (List UInt8)) → Option (List UInt8)

/-- The bytes of an ASCII literal. -/
def ascii (literal : String) : List UInt8 :=
  literal.toList.map fun letter => UInt8.ofNat letter.toNat

/-- `ErrBinding`. -/
def errBinding : List UInt8 := ascii "XTCP candidate binding rejected"

/-- The text of an error about a proxy that is not offered. -/
def missing (proxyName : List UInt8) : List UInt8 :=
  ascii "xtcp server for [" ++ proxyName ++ ascii "] doesn't exist"

/-- The text of an error about a user that is not allowed. -/
def notAllowed (user proxyName : List UInt8) : List UInt8 :=
  ascii "xtcp visitor user [" ++ user ++ ascii "] not allowed for [" ++ proxyName ++ ascii "]"

/-- `xtcpbinding.ID`. -/
def identifier? (bytes : List UInt8) : Option Identifier :=
  if length : bytes.length = 32 then
    if nonzero bytes then some ⟨bytes, length⟩ else none
  else
    none

/-- `SignalProof` of a message under the secret of a proxy. -/
def signalProof (services : Services) (sk : List UInt8) (role : Role)
    (notice : Notice) : Option (List UInt8) :=
  match identifier? notice.controlId, identifier? notice.nonce, identifier? notice.spki with
  | some control, some nonce, some spki =>
    Server.signalProof services.sha256 sk
      { role, proxy := notice.proxyName, control, nonce, spki,
        timestamp := notice.timestamp }
  | _, _, _ => none

/-- The clocks are more than five seconds apart. -/
def stale (now timestamp : Int64) : Bool := 5 < now - timestamp || 5 < timestamp - now

/-- `slices.Contains` of the user, or of everyone. -/
def allowed (cfg : ClientCfg) (user : List UInt8) : Bool :=
  cfg.allowUsers.contains user || cfg.allowUsers.contains (ascii "*")

/-- A digit of `hex.EncodeToString`. -/
def hexDigit (value : Nat) : UInt8 :=
  UInt8.ofNat (if value < 10 then 0x30 + value else 0x57 + value)

/-- `hex.EncodeToString`. -/
def hexEncode (bytes : List UInt8) : List UInt8 :=
  bytes.flatMap fun byte => [hexDigit (byte.toNat / 16), hexDigit (byte.toNat % 16)]

/-- The value of a digit. -/
def hexValue (digit : UInt8) : Option Nat :=
  if 0x30 ≤ digit ∧ digit ≤ 0x39 then some (digit.toNat - 0x30)
  else if 0x61 ≤ digit ∧ digit ≤ 0x66 then some (digit.toNat - 0x57)
  else if 0x41 ≤ digit ∧ digit ≤ 0x46 then some (digit.toNat - 0x37)
  else none

/-- `hex.DecodeString`. -/
def hexDecode : List UInt8 → Option (List UInt8)
  | [] => some []
  | [_] => none
  | high :: low :: rest => do
      let high ← hexValue high
      let low ← hexValue low
      let bytes ← hexDecode rest
      return UInt8.ofNat (16 * high + low) :: bytes

/-- `GenNatHoleResponse` without a session. -/
def genNatHoleResponse (transactionId error : List UInt8) : Response := { transactionId, error }

/-- The manifest of a session. -/
def manifestOf (session : Session) (client : Client) (sid : Identifier)
    (now : UInt64) : Manifest where
  proxyName := session.visitorMsg.proxyName
  sid := sid
  providerControl := session.providerControl
  visitorControl := session.visitorControl
  providerNonce := copyField client.nonce 0
  visitorNonce := copyField session.visitorMsg.nonce 0
  providerSpki := copyField client.spki 0
  visitorSpki := copyField session.visitorMsg.spki 0
  issuedAt := now
  expiresAt := now + 60

/-- `analysis`: the answers to the visitor and to the owner, or an error. -/
def analysis (services : Services) (session : Session) (client : Client)
    (now : UInt64) : Except (List UInt8) (Response × Response) :=
  let visitor := session.visitorMsg
  match services.classifyNatFeature client.mappedAddrs client.assistedAddrs with
  | some error => .error (ascii "classify client nat feature error: " ++ error)
  | none =>
  match services.classifyNatFeature visitor.mappedAddrs visitor.assistedAddrs with
  | some error => .error (ascii "classify visitor nat feature error: " ++ error)
  | none =>
  match hexDecode session.sid with
  | none => .error errBinding
  | some bytes =>
  if bytes.length ≠ 32 then
    .error errBinding
  else
    match Server.encode (manifestOf session client (copyField bytes 0) now) with
    | none => .error errBinding
    | some manifest =>
      .ok ({ transactionId := visitor.transactionId
             sid := session.sid
             manifest := manifest
             certificate := client.certificate },
           { transactionId := client.transactionId
             sid := session.sid
             manifest := manifest
             certificate := visitor.certificate })

namespace Controller

/-! ## Tables -/

/-- The configuration of a proxy. -/
def clientCfg (controller : Controller) (name : List UInt8) :
    Option ClientCfg := controller.clientCfgs.find? fun cfg => cfg.name = name

/-- Configurations leave the table, and their channels are closed. -/
def deleteCfgs (controller : Controller) (leaves : ClientCfg → Bool) :
    Controller :=
  { controller with
    clientCfgs := controller.clientCfgs.filter fun cfg => !leaves cfg
    closed := controller.closed ++ (controller.clientCfgs.filter leaves).map ClientCfg.ref }

/-- Sessions leave the table, and their channels are closed. -/
def deleteSessions (controller : Controller) (leaves : Session → Bool) :
    Controller :=
  { controller with
    sessions := controller.sessions.filter fun session => !leaves session
    done := controller.done ++ (controller.sessions.filter leaves).map Session.ref }

/-- `Send`. -/
def send (controller : Controller) (transporter : Nat)
    (response : Response) (issuer : Option (Nat × Role)) : Controller :=
  { controller with
    sent := controller.sent ++ [{ transporter, response, issuer }] }

/-! ## Controls and proxies -/

/-- `RegisterControl`. -/
def registerControl (controller : Controller) (controlId : List UInt8) :
    Controller :=
  match identifier? controlId with
  | none => controller
  | some id =>
    if id ∈ controller.controls then
      controller
    else
      { controller with controls := id :: controller.controls }

/-- `ListenClient`. -/
def listenClient (controller : Controller) (name sk : List UInt8)
    (allowUsers : List (List UInt8)) (ownerControlId : List UInt8) :
    Controller :=
  match identifier? ownerControlId with
  | none => controller
  | some owner =>
    if owner ∉ controller.controls ∨ (controller.clientCfg name).isSome then
      controller
    else
      { controller with
        clientCfgs :=
          { ref := controller.cfgCount, name, sk, allowUsers,
            ownerControl := owner } :: controller.clientCfgs
        cfgCount := controller.cfgCount + 1 }

/-- `CloseClient`. -/
def closeClient (controller : Controller) (name ownerControlId : List UInt8) : Controller :=
  match controller.clientCfg name with
  | none => controller
  | some cfg =>
    if ownerControlId ≠ cfg.ownerControl.cells then
      controller
    else
      (controller.deleteCfgs fun cfg => cfg.name = name).deleteSessions
        fun session => session.visitorMsg.proxyName = name &&
          session.providerControl = cfg.ownerControl

/-- `CloseControl`. -/
def closeControl (controller : Controller) (controlId : List UInt8) :
    Controller :=
  match identifier? controlId with
  | none => controller
  | some id =>
    let controller :=
      { controller with
        controls := controller.controls.filter fun other => other ≠ id }
    (controller.deleteCfgs fun cfg =>
        cfg.ownerControl.cells = controlId).deleteSessions fun session =>
      session.providerControl.cells = controlId || session.visitorControl.cells = controlId

/-! ## Messages -/

/-- What `HandleVisitor` checks while it holds the lock. -/
def admission (services : Services) (controller : Controller)
    (visitor : Visitor) (user : List UInt8) (caller : Identifier)
    (now : Int64) : Except (List UInt8) ClientCfg :=
  if caller ∉ controller.controls then
    .error errBinding
  else
    match controller.clientCfg visitor.proxyName with
    | none => .error (missing visitor.proxyName)
    | some cfg =>
      if !allowed cfg user then
        .error (notAllowed user visitor.proxyName)
      else if visitor.protocol ≠ ascii "quic" ∨ stale now visitor.timestamp ∨
          visitor.controlId ≠ caller.cells then
        .error errBinding
      else if signalProof services cfg.sk .visitor visitor.toNotice ≠ some visitor.signalProof then
        .error errBinding
      else
        match services.validateCertificate .visitor visitor.certificate visitor.spki with
        | some error => .error error
        | none => .ok cfg

/-- The answer to a visitor that only asks whether it would be let in. -/
def preCheck (controller : Controller) (visitor : Visitor)
    (user : List UInt8) (caller : Identifier) : List UInt8 :=
  if caller ∉ controller.controls then
    ascii "closed control"
  else
    match controller.clientCfg visitor.proxyName with
    | none => missing visitor.proxyName
    | some cfg =>
      if !allowed cfg user then notAllowed user visitor.proxyName else []

/-- A session enters the table and its handler begins. -/
def openSession (controller : Controller) (visitor : Visitor)
    (transporter : Nat) (caller id : Identifier) (cfg : ClientCfg) :
    Controller :=
  let session : Session :=
    { ref := controller.sessionCount
      sid := hexEncode id.cells
      visitorMsg := visitor
      visitorTransporter := transporter
      visitorControl := caller
      providerControl := cfg.ownerControl
      clientCfg := cfg }
  { controller with
    sessions := session :: controller.sessions.filter fun other => other.sid ≠ session.sid
    sessionCount := controller.sessionCount + 1
    handlers := Function.update controller.handlers controller.sessionCount (some { session }) }

/--
`HandleVisitor` up to the end of its first lock; `entropy` is what `GenSid`
reads.
-/
def handleVisitor (services : Services) (controller : Controller)
    (visitor : Visitor) (transporter : Nat)
    (user callerControlId : List UInt8) (entropy : Option Identifier)
    (now : Int64) : Controller :=
  let reply (error : List UInt8) : Controller :=
    controller.send transporter (genNatHoleResponse visitor.transactionId error) none
  match identifier? callerControlId with
  | none => reply (ascii "candidate authenticated control required")
  | some caller =>
    if visitor.preCheck then
      reply (controller.preCheck visitor user caller)
    else
      match entropy with
      | none => reply (ascii "SID entropy failure")
      | some id =>
        match controller.admission services visitor user caller now with
        | .error error => reply error
        | .ok cfg => controller.openSession visitor transporter caller id cfg

/-- What `HandleClient` checks before it accepts the message of an owner. -/
def accepts (services : Services) (controller : Controller)
    (client : Client) (caller : Identifier) (session : Session)
    (now : Int64) : Bool :=
  match controller.clientCfg client.proxyName with
  | none => false
  | some cfg =>
    decide (client.proxyName = session.visitorMsg.proxyName) &&
      decide (caller = session.providerControl) &&
      decide (client.controlId = caller.cells) &&
      decide (cfg.ownerControl = session.providerControl) &&
      !stale now client.timestamp &&
      decide (signalProof services cfg.sk .provider client.toNotice = some client.signalProof) &&
      (services.validateCertificate .provider client.certificate client.spki).isNone

/-- `HandleClient`. -/
def handleClient (services : Services) (controller : Controller)
    (client : Client) (transporter : Nat)
    (callerControlId : List UInt8) (now : Int64) : Controller :=
  match identifier? callerControlId with
  | none => controller
  | some caller =>
    if caller ∉ controller.controls then
      controller
    else
      match controller.sessions.find? fun session => session.sid = client.sid with
      | none => controller
      | some session =>
        match controller.handlers session.ref with
        | none => controller
        | some handler =>
          if handler.clientMsg.isNone && controller.accepts services client caller session now then
            { controller with
              handlers := Function.update controller.handlers session.ref
                (some { handler with
                  clientMsg := some (client, transporter)
                  notified := true }) }
          else
            controller

/-! ## The handler of a visitor -/

/-- What a handler does next. -/
inductive Move where
  | offered
  | notice
  | stopped
  | timeout
  | proceed
  | analyse (now : UInt64)
  | respond (role : Role)
  | leave
deriving DecidableEq

/-- A channel that ends the session is closed. -/
def ended (controller : Controller) (session : Session) : Bool :=
  controller.done.contains session.ref || controller.closed.contains session.clientCfg.ref

/-- The answers of a handler, with the error of an analysis that failed. -/
def responsesOf (services : Services) (session : Session)
    (client : Client) (now : UInt64) : Response × Response :=
  match analysis services session client now with
  | .ok responses => responses
  | .error error =>
    (genNatHoleResponse session.visitorMsg.transactionId error,
      genNatHoleResponse client.transactionId error)

/-- A move that changes the handler only; others are not possible. -/
def advance (services : Services) (controller : Controller)
    (handler : Handler) : Move → Option Handler
  | .offered =>
    if handler.phase = .offering then
      some { handler with phase := .waiting }
    else none
  | .notice =>
    if handler.phase = .waiting ∧ handler.notified then
      some { handler with phase := .checking, notified := false }
    else none
  | .stopped =>
    if (handler.phase = .offering ∨ handler.phase = .waiting ∨
        handler.phase = .checking ∨ handler.phase = .lingering) ∧
        controller.ended handler.session then
      some { handler with phase := .leaving }
    else none
  | .timeout =>
    if handler.phase = .waiting ∨ handler.phase = .lingering then
      some { handler with phase := .leaving }
    else none
  | .proceed =>
    if handler.phase = .checking ∧ controller.ended handler.session = false then
      some { handler with phase := .analysing }
    else none
  | .analyse now =>
    if handler.phase = .analysing then
      match handler.clientMsg with
      | none => some { handler with phase := .panicked }
      | some (client, _) =>
        some { handler with
          responses := some (responsesOf services handler.session client now)
          phase := .sending false false }
    else none
  | .respond role =>
    match handler.phase, role with
    | .sending false clientSent, .visitor =>
      some { handler with
        phase :=
          if clientSent then .lingering else .sending true false }
    | .sending visitorSent false, .provider =>
      some { handler with
        phase :=
          if visitorSent then .lingering else .sending false true }
    | _, _ => none
  | .leave =>
    if handler.phase = .leaving then
      some { handler with phase := .returned }
    else none

/-- The answer that a handler sends to a role. -/
def answer (handler : Handler) : Role → Option (Nat × Response)
  | .visitor =>
    handler.responses.map fun responses => (handler.session.visitorTransporter, responses.1)
  | .provider =>
    match handler.responses, handler.clientMsg with
    | some responses, some (_, transporter) => some (transporter, responses.2)
    | _, _ => none

/-- What a move does besides. -/
def effect (controller : Controller) (handler : Handler) (ref : Nat) : Move → Controller
  | .respond role =>
    match answer handler role with
    | some (transporter, response) => controller.send transporter response (some (ref, role))
    | none => controller
  | .leave => controller.deleteSessions fun session => session.ref = ref
  | _ => controller

/-- A move of the handler of a session. -/
def move (services : Services) (controller : Controller) (ref : Nat) (action : Move) : Controller :=
  match controller.handlers ref with
  | none => controller
  | some handler =>
    match controller.advance services handler action with
    | none => controller
    | some next =>
      let controller := controller.effect handler ref action
      { controller with
        handlers := Function.update controller.handlers ref (some next) }

/-! ## Runs -/

/-- A section of the code that runs without another in between. -/
inductive Event where
  | registerControl (controlId : List UInt8)
  | listenClient (name sk : List UInt8) (allowUsers : List (List UInt8))
      (ownerControlId : List UInt8)
  | closeClient (name ownerControlId : List UInt8)
  | closeControl (controlId : List UInt8)
  | handleVisitor (visitor : Visitor) (transporter : Nat)
      (user callerControlId : List UInt8) (entropy : Option Identifier)
      (now : Int64)
  | handleClient (client : Client) (transporter : Nat) (callerControlId : List UInt8) (now : Int64)
  | move (ref : Nat) (action : Move)
deriving DecidableEq

/-- The controller after an event. -/
def after (services : Services) (controller : Controller) : Event → Controller
  | .registerControl controlId => controller.registerControl controlId
  | .listenClient name sk allowUsers ownerControlId =>
    controller.listenClient name sk allowUsers ownerControlId
  | .closeClient name ownerControlId => controller.closeClient name ownerControlId
  | .closeControl controlId => controller.closeControl controlId
  | .handleVisitor visitor transporter user callerControlId entropy now =>
    controller.handleVisitor services visitor transporter user callerControlId entropy now
  | .handleClient client transporter callerControlId now =>
    controller.handleClient services client transporter callerControlId now
  | .move ref action => controller.move services ref action

/-- The controller after a run. -/
def run (services : Services) (controller : Controller) (events : List Event) : Controller :=
  events.foldl (after services) controller

end Controller

end EspFrp.NatHole

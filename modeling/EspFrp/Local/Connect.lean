import EspFrp.Transport.Stream

/-!
# Local sockets

`connect.c` and `tcp_listener.c` over the calls of the operating system.
The answer of every call is a step of an arbitrary state machine.  The number
of the last system error, which is only reported, is left out.
-/

namespace EspFrp.Local

open Streams

/-! ## The operating system -/

/-- The values of `errno` that the code tells apart. -/
inductive Errno where
  | again
  | interrupted
  | noMemory
  | inProgress
  | other (code : Nat)
deriving DecidableEq, Repr

/-- `transient` of `connect.c`. -/
def Errno.transient : Errno → Bool
  | .again | .interrupted => true
  | _ => false

/-- `transient` of `tcp_listener.c`, and its equivalents in `connect.c`. -/
def Errno.retryable (error : Errno) : Bool := error.transient || error == .noMemory

/-- The system calls, the allocator, the resolver and the build options. -/
structure Os (Sys : Type) where
  boundedLinger : Bool
  retryClose : Bool
  fdSetSize : Nat
  allocate : Sys → Bool × Sys
  resolve : Sys → Result × List UInt8 × Sys
  stopResolving : Sys → Result × Sys
  socket : Sys → Except Errno Nat × Sys
  configure : Sys → (fd : Nat) → Except Errno Unit × Sys
  connect : Sys → (fd : Nat) → Except Errno Unit × Sys
  writable : Sys → (fd : Nat) → Except Errno Bool × Sys
  pendingError : Sys → (fd : Nat) → Bool × Sys
  send : Sys → (fd : Nat) → List UInt8 → Except Errno Nat × Sys
  recv : Sys → (fd capacity : Nat) → Except Errno (List UInt8) × Sys
  setLinger : Sys → (fd : Nat) → Except Errno Unit × Sys
  shutdown : Sys → (fd : Nat) → Except Errno Unit × Sys
  close : Sys → (fd : Nat) → Except Errno Unit × Sys
  listen : Sys → (fd : Nat) → Except Errno Unit × Sys
  readable : Sys → (fd : Nat) → Except Errno Bool × Sys
  accept : Sys → (fd : Nat) → Except Errno Nat × Sys
  hasPeer : Sys → (fd : Nat) → Bool × Sys
  send_le : ∀ {sys fd bytes count next},
    send sys fd bytes = (.ok count, next) → count ≤ bytes.length
  recv_le : ∀ {sys fd capacity bytes next},
    recv sys fd capacity = (.ok bytes, next) → bytes.length ≤ capacity

variable {Sys : Type}

/-! ## Connections -/

/-- `EFRP_CONNECT_TCP_MS`. -/
abbrev tcpMs : Nat := 10000

/-- `efrp_connect_state_t`. -/
inductive State where
  | resolving
  | connecting
  | opened
  | draining
  | closed
deriving DecidableEq, Repr

/-- `efrp_connect_t`. -/
structure Connect where
  state : State
  result : Result := .ok
  resolving : Bool := false
  fd : Option Nat := none
  lastNow : Nat := 0
  deadline : Nat := 0
  writeClosed : Bool := false
  readEof : Bool := false
  gracefulLinger : Bool := false
deriving DecidableEq, Repr

namespace Connect

/-- The resolver part of `drain`. -/
def drainResolver (os : Os Sys) (connect : Connect) (sys : Sys) : Bool × Connect × Sys :=
  if connect.resolving then
    match os.stopResolving sys with
    | (.ok, sys) => (true, { connect with resolving := false }, sys)
    | (_, sys) => (false, connect, sys)
  else
    (true, connect, sys)

/-- A connection that failed is closed abortively. -/
def drainLinger (os : Os Sys) (connect : Connect) (fd : Nat) (sys : Sys) : Bool × Connect × Sys :=
  if connect.result ≠ .ok ∧ connect.gracefulLinger then
    match os.setLinger sys fd with
    | (.ok _, sys) => (true, { connect with gracefulLinger := false }, sys)
    | (.error error, sys) => (!(os.boundedLinger && error.retryable), connect, sys)
  else
    (true, connect, sys)

/-- The socket part of `drain`. -/
def drainSocket (os : Os Sys) (connect : Connect) (sys : Sys) : Bool × Connect × Sys :=
  match connect.fd with
  | none => (true, connect, sys)
  | some fd =>
    match drainLinger os connect fd sys with
    | (false, connect, sys) => (false, connect, sys)
    | (true, connect, sys) =>
      match os.close sys fd with
      | (.ok _, sys) => (true, { connect with fd := none }, sys)
      | (.error _, sys) =>
        if os.boundedLinger then
          (false, connect, sys)
        else
          (true, { connect with fd := none }, sys)

/-- `drain`. -/
def drain (os : Os Sys) (connect : Connect) (sys : Sys) : Result × Connect × Sys :=
  match drainResolver os connect sys with
  | (false, connect, sys) => (.wouldBlock, connect, sys)
  | (true, connect, sys) =>
    match drainSocket os connect sys with
    | (false, connect, sys) => (.wouldBlock, connect, sys)
    | (true, connect, sys) => (connect.result, { connect with state := .closed }, sys)

/-- `stop`. -/
def stop (os : Os Sys) (connect : Connect) (result : Result) (sys : Sys) : Result × Connect × Sys :=
  drain os { connect with result := result, state := .draining } sys

/-- `start_tcp`. -/
def startTcp (os : Os Sys) (connect : Connect) (now : Nat) (sys : Sys) : Result × Connect × Sys :=
  match os.socket sys with
  | (.error _, sys) => connect.stop os .networkError sys
  | (.ok fd, sys) =>
    let connect := { connect with fd := some fd }
    match os.configure sys fd with
    | (.error _, sys) => connect.stop os .networkError sys
    | (.ok _, sys) =>
      let connect := { connect with state := .connecting, deadline := now + tcpMs }
      match os.connect sys fd with
      | (.ok _, sys) => (.ok, { connect with state := .opened }, sys)
      | (.error error, sys) =>
        if error = .inProgress ∨ error = .interrupted then
          (.wouldBlock, connect, sys)
        else
          connect.stop os .networkError sys

/-- `efrp_connect_create_ipv4`. -/
def createIpv4 (os : Os Sys) (address : List UInt8) (port now : Nat)
    (sys : Sys) : Except Result Connect × Sys :=
  if address.getD 0 0 = 0 ∨ 224 ≤ (address.getD 0 0).toNat ∨ port = 0 ∨ timeMax - tcpMs < now then
    (.error .invalidArgument, sys)
  else
    match os.allocate sys with
    | (false, sys) => (.error .noMemory, sys)
    | (true, sys) =>
      (.ok
        { state := .connecting
          lastNow := now
          deadline := now + tcpMs }, sys)

/-- `efrp_connect_adopt_fd`. -/
def adoptFd (os : Os Sys) (fd now : Nat) (sys : Sys) : Except Result Connect × Sys :=
  if timeMax - tcpMs < now then
    (.error .invalidArgument, sys)
  else
    match os.hasPeer sys fd with
    | (false, sys) => (.error .invalidArgument, sys)
    | (true, sys) =>
      match os.allocate sys with
      | (false, sys) => (.error .noMemory, sys)
      | (true, sys) =>
        match os.configure sys fd with
        | (.error _, sys) => (.error .networkError, sys)
        | (.ok _, sys) => (.ok { state := .opened, fd := some fd, lastNow := now }, sys)

/-- The resolver has answered, or not. -/
def stepResolver (os : Os Sys) (connect : Connect) (now : Nat)
    (sys : Sys) : Result × Connect × Sys :=
  match os.resolve sys with
  | (.wouldBlock, _, sys) => (.wouldBlock, connect, sys)
  | (.ok, _, sys) =>
    match os.stopResolving sys with
    | (.ok, sys) => startTcp os { connect with resolving := false } now sys
    | (_, sys) => connect.stop os .dnsError sys
  | (result, _, sys) => connect.stop os result sys

/-- A connection attempt is pending on a descriptor. -/
def stepSocket (os : Os Sys) (connect : Connect) (fd : Nat) (sys : Sys) : Result × Connect × Sys :=
  if os.fdSetSize ≤ fd then
    connect.stop os .capacityExceeded sys
  else
    match os.writable sys fd with
    | (.error error, sys) =>
      if error.transient then
        (.wouldBlock, connect, sys)
      else
        connect.stop os .networkError sys
    | (.ok false, sys) => (.wouldBlock, connect, sys)
    | (.ok true, sys) =>
      match os.pendingError sys fd with
      | (true, sys) => connect.stop os .networkError sys
      | (false, sys) => (.ok, { connect with state := .opened }, sys)

/-- `efrp_connect_step`. -/
def step (os : Os Sys) (connect : Connect) (now : Nat) (sys : Sys) : Result × Connect × Sys :=
  match connect.state with
  | .closed => (connect.result, connect, sys)
  | .draining => connect.drain os sys
  | state =>
    if now < connect.lastNow ∨ timeMax - tcpMs < now then
      (.invalidArgument, connect, sys)
    else
      let connect := { connect with lastNow := now }
      if state = .opened then
        (.ok, connect, sys)
      else if connect.deadline ≤ now then
        connect.stop os .timeout sys
      else if state = .resolving then
        connect.stepResolver os now sys
      else
        match connect.fd with
        | none => connect.startTcp os now sys
        | some fd => connect.stepSocket os fd sys

/-- `efrp_connect_send`; the number is what the socket has taken. -/
def send (os : Os Sys) (connect : Connect) (bytes : List UInt8)
    (sys : Sys) : Result × Nat × Connect × Sys :=
  if bytes = [] then
    (.invalidArgument, 0, connect, sys)
  else if connect.state ≠ .opened ∨ connect.writeClosed then
    (.invalidState, 0, connect, sys)
  else
    match os.send sys (connect.fd.getD 0) bytes with
    | (.ok (count + 1), sys) => (.ok, count + 1, connect, sys)
    | (.error error, sys) =>
      if error.transient then
        (.wouldBlock, 0, connect, sys)
      else
        let (_, connect, sys) := connect.stop os .networkError sys
        (.networkError, 0, connect, sys)
    | (.ok 0, sys) =>
      let (_, connect, sys) := connect.stop os .networkError sys
      (.networkError, 0, connect, sys)

/-- `efrp_connect_recv`. -/
def recv (os : Os Sys) (connect : Connect) (capacity : Nat)
    (sys : Sys) : Result × List UInt8 × Connect × Sys :=
  if connect.state ≠ .opened then
    (.invalidState, [], connect, sys)
  else
    match os.recv sys (connect.fd.getD 0) capacity with
    | (.ok [], sys) => (.eof, [], { connect with readEof := true }, sys)
    | (.ok bytes, sys) => (.ok, bytes, connect, sys)
    | (.error error, sys) =>
      if error.transient then
        (.wouldBlock, [], connect, sys)
      else
        let (_, connect, sys) := connect.stop os .networkError sys
        (.networkError, [], connect, sys)

/-- The half-close of `efrp_connect_close_write`. -/
def shutdownWrite (os : Os Sys) (connect : Connect) (sys : Sys) : Result × Connect × Sys :=
  match os.shutdown sys (connect.fd.getD 0) with
  | (.ok _, sys) => (.ok, { connect with writeClosed := true }, sys)
  | (.error error, sys) =>
    if error.retryable then
      (.wouldBlock, connect, sys)
    else
      let (_, connect, sys) := connect.stop os .networkError sys
      (.networkError, connect, sys)

/-- `efrp_connect_close_write`. -/
def closeWrite (os : Os Sys) (connect : Connect) (sys : Sys) : Result × Connect × Sys :=
  if connect.state ≠ .opened then
    (.invalidState, connect, sys)
  else if connect.writeClosed then
    (.ok, connect, sys)
  else if connect.gracefulLinger then
    connect.shutdownWrite os sys
  else
    match os.setLinger sys (connect.fd.getD 0) with
    | (.ok _, sys) => shutdownWrite os { connect with gracefulLinger := true } sys
    | (.error error, sys) =>
      if error.retryable then
        (.wouldBlock, connect, sys)
      else
        connect.stop os .networkError sys

/-- `efrp_connect_finish`. -/
def finish (os : Os Sys) (connect : Connect) (sys : Sys) : Result × Connect × Sys :=
  match connect.state with
  | .closed => (connect.result, connect, sys)
  | .draining => connect.drain os sys
  | state =>
    if state ≠ .opened ∨ !connect.writeClosed ∨ !connect.readEof then
      (.invalidState, connect, sys)
    else
      connect.stop os .ok sys

/-- `efrp_connect_cancel`. -/
def cancel (os : Os Sys) (connect : Connect) (sys : Sys) : Result × Connect × Sys :=
  match connect.state with
  | .closed => (connect.result, connect, sys)
  | .draining =>
    if connect.result = .ok then
      connect.stop os .cancelled sys
    else
      connect.drain os sys
  | _ => connect.stop os .cancelled sys

/-- `efrp_connect_destroy`: the connection is kept when it must be retried. -/
def destroy (os : Os Sys) (connect : Option Connect) (sys : Sys) : Result × Option Connect × Sys :=
  match connect with
  | none => (.ok, none, sys)
  | some connect =>
    let (_, connect, sys) := connect.cancel os sys
    if connect.state = .closed then
      (.ok, none, sys)
    else
      (.wouldBlock, some connect, sys)

end Connect

/-! ## Listeners -/

/-- `efrp_tcp_listener_t`. -/
structure Listener where
  fd : Option Nat := none
  acceptedFd : Option Nat := none
  listening : Bool := false
deriving DecidableEq, Repr

/-- `close_fd`. -/
def closeFd (os : Os Sys) (fd : Option Nat) (accepted : Bool)
    (sys : Sys) : Result × Option Nat × Sys :=
  match fd with
  | none => (.ok, none, sys)
  | some fd =>
    let (configured, sys) :=
      if accepted then os.setLinger sys fd else (.ok (), sys)
    match configured, os.retryClose with
    | .error error, true =>
      if error.retryable then
        (.wouldBlock, some fd, sys)
      else
        match os.close sys fd with
        | (.error _, sys) => (.wouldBlock, some fd, sys)
        | (.ok _, sys) => (.ok, none, sys)
    | _, retry =>
      match os.close sys fd with
      | (.error _, sys) =>
        if retry then (.wouldBlock, some fd, sys) else (.ok, none, sys)
      | (.ok _, sys) => (.ok, none, sys)

namespace Listener

/-- `efrp_tcp_listener_destroy`. -/
def destroy (os : Os Sys) (listener : Option Listener) (sys : Sys) :
    Result × Option Listener × Sys :=
  match listener with
  | none => (.ok, none, sys)
  | some listener =>
    let (first, acceptedFd, sys) := closeFd os listener.acceptedFd true sys
    let (second, fd, sys) := closeFd os listener.fd false sys
    if first ≠ .ok ∨ second ≠ .ok then
      (.wouldBlock, some { fd := fd, acceptedFd := acceptedFd, listening := false }, sys)
    else
      (.ok, none, sys)

/--
`efrp_tcp_listener_create`.  The calls that prepare the socket, up to
`listen`, are one question.
-/
def create (os : Os Sys) (address : List UInt8) (port : Nat)
    (sys : Sys) : Result × Option Listener × Sys :=
  if address.getD 0 0 = 0 ∨ 224 ≤ (address.getD 0 0).toNat ∨ port = 0 then
    (.invalidArgument, none, sys)
  else
    match os.allocate sys with
    | (false, sys) => (.noMemory, none, sys)
    | (true, sys) =>
      match os.socket sys with
      | (.error _, sys) => (.networkError, none, sys)
      | (.ok fd, sys) =>
        match os.listen sys fd with
        | (.ok _, sys) => (.ok, some { fd := some fd, listening := true }, sys)
        | (.error _, sys) =>
          let (_, listener, sys) := destroy os (some { fd := some fd }) sys
          (.networkError, listener, sys)

/-- `efrp_tcp_listener_ready`. -/
def ready (os : Os Sys) (listener : Listener) (sys : Sys) : Result × Listener × Sys :=
  if !listener.listening then
    (.invalidState, listener, sys)
  else
    match closeFd os listener.acceptedFd true sys with
    | (.ok, acceptedFd, sys) =>
      let listener := { listener with acceptedFd := acceptedFd }
      match os.readable sys (listener.fd.getD 0) with
      | (.error error, sys) =>
        (if error.retryable then .wouldBlock else .networkError, listener, sys)
      | (.ok true, sys) => (.ok, listener, sys)
      | (.ok false, sys) => (.wouldBlock, listener, sys)
    | (_, acceptedFd, sys) => (.wouldBlock, { listener with acceptedFd := acceptedFd }, sys)

/-- `efrp_tcp_listener_accept`. -/
def accept (os : Os Sys) (listener : Listener) (now : Nat) (sys : Sys) :
    Except Result Connect × Listener × Sys :=
  if !listener.listening ∨ listener.acceptedFd.isSome then
    (.error .invalidState, listener, sys)
  else
    match os.accept sys (listener.fd.getD 0) with
    | (.error error, sys) =>
      (.error (if error.retryable then .wouldBlock else .networkError), listener, sys)
    | (.ok fd, sys) =>
      match Connect.adoptFd os fd now sys with
      | (.ok connect, sys) => (.ok connect, listener, sys)
      | (.error error, sys) =>
        let (_, acceptedFd, sys) := closeFd os (some fd) true sys
        (.error error, { listener with acceptedFd := acceptedFd }, sys)

end Listener

end EspFrp.Local

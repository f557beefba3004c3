import EspFrp.Control.Endings

/-!
# Bytes that arrive before the local connection

The bytes behind the answer that admits a stream of a provider wait for the
local connection.  They are offered to it in the step in which it is
established, unless they have waited too long by then: the time to connect
counts as a stall.
-/

namespace EspFrp.Work

open Local

variable {Net Sys : Type}

/-- What a step of `forward_work` finds besides the stream. -/
structure Turn (Net Sys : Type) where
  now : Nat
  group : Group
  net : Net
  sys : Sys

namespace Turn

variable (platform : Platform Net Sys)

def scene (turn : Turn Net Sys) (stream : Stream) : Scene Net Sys :=
  { group := turn.group, stream := stream, net := turn.net, sys := turn.sys }

/-- A turn in which the local connection is not established. -/
def wait (stream : Stream) (turn : Turn Net Sys) : Stream :=
  match stream.phase, stream.socket with
  | .connecting, some connect =>
    if (connect.step platform.os turn.now turn.sys).1 = .wouldBlock then
      ((turn.scene stream).forwardWork platform turn.now).stream
    else
      stream
  | _, _ => stream

/-- The scene once the local connection is established. -/
def connected (turn : Turn Net Sys) (stream : Stream) (connect : Connect)
    (sys : Sys) : Scene Net Sys :=
  { turn.scene stream with
    sys := sys
    stream :=
      { stream with
        socket := some connect
        phase := .active
        lastActivity := turn.now } }

/-- The blocks of `forward_work` from the first offer on. -/
def offer (now : Nat) (scene : Scene Net Sys) : Scene Net Sys :=
  (scene.follow [Scene.sendLocal platform now,
    Scene.shutdownLocal platform now, Scene.recvLocal platform now,
    Scene.writeStream platform now, Scene.finStream platform,
    Scene.conclude now]).2

/-- A turn in which nothing is established changes the socket only. -/
theorem wait_keeps (turn : Turn Net Sys) (stream : Stream) :
    ∃ socket, wait platform stream turn = { stream with socket := socket } ∧
      (stream.socket.isSome → socket.isSome) := by
  unfold wait
  split
  · next connect phase found =>
    split
    · next blocked =>
      refine ⟨some (connect.step platform.os turn.now turn.sys).2.1, ?_, fun _ => rfl⟩
      simp only [Scene.forwardWork, Scene.follow, Scene.stepConnect,
        scene, phase, found, blocked, if_true]
    · exact ⟨_, rfl, id⟩
  · exact ⟨_, rfl, id⟩

theorem waits_keep (turns : List (Turn Net Sys)) (stream : Stream) :
    ∃ socket, turns.foldl (wait platform) stream = { stream with socket := socket } ∧
      (stream.socket.isSome → socket.isSome) := by
  induction turns generalizing stream with
  | nil => exact ⟨_, rfl, id⟩
  | cons turn _ ih =>
    have ⟨first, same, found⟩ := wait_keeps platform turn stream
    have ⟨last, final, kept⟩ := ih (wait platform stream turn)
    refine ⟨last, ?_, ?_⟩
    · rw [List.foldl_cons, final, same]
    · intro present
      rw [same] at kept
      exact kept (found present)

/-- An admitted stream of a provider waits for its connection from now on. -/
theorem beginRelay_connecting {scene : Scene Net Sys} {load now : Nat}
    (provider : scene.group.visitor = none) (tcp : scene.group.udp = false)
    (connecting : (scene.beginRelay platform load now).2.stream.phase = .connecting) :
    (scene.beginRelay platform load now).2.stream.incomingProgress = now ∧
      (scene.beginRelay platform load now).2.stream.socket.isSome := by
  have closes (scene : Scene Net Sys) (reason : Result) :
      (scene.close reason).2.stream.phase ≠ .connecting := by
    dsimp only [Scene.close, closeWork]
    split
    · simp_all
    · exact Phase.noConfusion
  dsimp only [Scene.beginRelay] at connecting ⊢
  simp only [provider, tcp, Option.isSome_none, Bool.false_eq_true, if_false] at connecting ⊢
  revert connecting
  repeat' split
  all_goals
    intro connecting
    first
      | exact absurd connecting (closes _ _)
      | exact ⟨rfl, rfl⟩

/-- The step in which the local connection is established. -/
theorem forwardWork_established {turn : Turn Net Sys} {stream : Stream} {socket connect : Connect}
    {sys : Sys} (phase : stream.phase = .connecting) (found : stream.socket = some socket)
    (early : stream.incomingOffset < stream.incoming.length)
    (established : socket.step platform.os turn.now turn.sys = (.ok, connect, sys)) :
    (turn.scene stream).forwardWork platform turn.now =
      if ioStallMs ≤ turn.now - stream.incomingProgress ∨
          stream.outgoingOffset < stream.outgoing.length ∧
            ioStallMs ≤ turn.now - stream.outgoingProgress then
        ((turn.connected stream connect sys).close .timeout).2
      else
        offer platform turn.now (turn.connected stream connect sys) := by
  have step : (turn.scene stream).stepConnect platform turn.now =
      (true, turn.connected stream connect sys) := by
    simp only [Scene.stepConnect, scene, phase, found, established, if_true]
    rfl
  have full : (turn.connected stream connect sys).readStream platform
      turn.now = (true, turn.connected stream connect sys) :=
    if_pos early
  split
  all_goals
    rw [Scene.forwardWork, Scene.follow, step]
    dsimp only
    rw [Scene.follow]
  · next stalled =>
    have check : (turn.connected stream connect sys).checkStall turn.now =
        (turn.connected stream connect sys).close .timeout := by
      rcases stalled with stalled | stalled <;>
        simp [Scene.checkStall, connected, early, stalled]
    rw [check]
    rfl
  · next fresh =>
    have check : (turn.connected stream connect sys).checkStall turn.now =
        (true, turn.connected stream connect sys) := by
      rw [not_or] at fresh
      simp [Scene.checkStall, connected, fresh]
    rw [check]
    dsimp only
    rw [Scene.follow, full]
    rfl

/--
The bytes that arrive with the answer are kept until the local connection is
established.  In that step the stream is closed unoffered if they have waited
for a stall since the admission; otherwise they are offered, unless the
output of the stream itself stalls.
-/
theorem early_bytes_offered (scene : Scene Net Sys) (load now : Nat)
    (waits : List (Turn Net Sys)) (last : Turn Net Sys) :
    let begun := (scene.beginRelay platform load now).2.stream
    let pending := waits.foldl (wait platform) begun
    scene.group.visitor = none → scene.group.udp = false →
    begun.phase = .connecting →
    begun.incomingOffset < begun.incoming.length →
      ∃ socket, pending = { begun with socket := some socket } ∧
      ∀ connect sys, socket.step platform.os last.now last.sys = (.ok, connect, sys) →
        (last.scene pending).forwardWork platform last.now =
          if ioStallMs ≤ last.now - now ∨ pending.outgoingOffset < pending.outgoing.length ∧
                ioStallMs ≤ last.now - pending.outgoingProgress then
            ((last.connected pending connect sys).close .timeout).2
          else
            offer platform last.now (last.connected pending connect sys) := by
  intro begun pending provider tcp connecting early
  have ⟨progress, present⟩ := beginRelay_connecting platform provider tcp connecting
  have ⟨socket, same, found⟩ := waits_keep platform waits begun
  have ⟨socket, found⟩ := Option.isSome_iff_exists.mp (found present)
  subst found
  refine ⟨socket, same, ?_⟩
  intro connect sys established
  have sameProgress : pending.incomingProgress = now :=
    (congrArg Stream.incomingProgress same).trans progress
  rw [← sameProgress]
  apply forwardWork_established platform _ _ _ established
  all_goals
    dsimp only [pending]
    rw [same]
  · exact connecting
  · exact early

/-- A platform on which a local connection is never established at once, and
on which an offer leaves a trace. -/
def slow : Platform Control.Wires Control.Machine :=
  { Control.sample.work with
    os :=
      { Control.plainOs with
        connect := fun machine _ => (.error .inProgress, machine)
        send := fun machine _ _ => (.error .again, { machine with alive := false })
        send_le := nofun } }

/-- A scene on that platform. -/
def slowTurn (now : Nat) : Turn Control.Wires Control.Machine where
  now := now
  group := { address := [127, 0, 0, 1], port := 1 }
  net := { control := [], work := [.ok (Control.sampleFrame 16 [0, 8] ++ [7])] }
  sys := {}

/-- The byte behind the answer, for which the local socket is ready after
two and a half seconds, is dropped without an offer. -/
theorem early_byte_dropped :
    let asked := Set.requesting none (some 1) [1] 0
    let begun := ((slowTurn 0).scene asked).handshakeWork slow 0 0
    let pending := wait slow begun.stream (slowTurn 0)
    let final := ((slowTurn 2500).scene pending).forwardWork slow 2500
    begun.stream.phase = .connecting ∧
    begun.stream.incoming.drop begun.stream.incomingOffset = [7] ∧
    pending.phase = .connecting ∧
    (pending.socket.map fun socket => (socket.step slow.os 2500 {}).1) = some .ok ∧
    final.stream.phase = .closing ∧ final.stream.result = .timeout ∧
    final.sys.alive = true := by
  decide +kernel

end Turn

end EspFrp.Work

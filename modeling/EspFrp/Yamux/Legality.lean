import EspFrp.Yamux.Emission

/-!
# The output is legal

The log of every run obeys the wire format: the frames of a client stream
start with its SYN, carry exactly what has been written, and stop at a reset;
streams that the peer opens are answered by one reset each.
-/

namespace EspFrp.Yamux

/-! ## Peer streams -/

/-- Peer streams are refused once, and nothing else is sent for them. -/
structure PeerLog (peerLastId : Nat) (log : List Frame) (accepted : List Header) : Prop where
  emitted : ∀ id, id ≠ 0 → id % 2 = 0 → framesFor id log = [] ∨ framesFor id log = [refusal id]
  future : ∀ id, id ≠ 0 → id % 2 = 0 → peerLastId < id → framesFor id log = []
  answered : ∀ header ∈ accepted, header.id ≠ 0 → header.id % 2 = 0 →
    header.syn = true → framesFor header.id log = [refusal header.id]

namespace PeerLog

/-- Frames of the session and of client streams do not matter here. -/
theorem append (peer : PeerLog peerLastId log accepted)
    (own : ∀ frame ∈ new, frame.header.id = 0 ∨ frame.header.id % 2 = 1) :
    PeerLog peerLastId (log ++ new) accepted := by
  have apart (id : Nat) (nonzero : id ≠ 0) (even : id % 2 = 0) :
      framesFor id (log ++ new) = framesFor id log := by
    have none : framesFor id new = [] := by
      refine framesFor_foreign fun frame member same => ?_
      have kind := own frame member
      omega
    rw [framesFor_append, none, List.append_nil]
  refine ⟨?_, ?_, ?_⟩
  · intro id nonzero even
    rw [apart id nonzero even]
    exact peer.emitted id nonzero even
  · intro id nonzero even
    rw [apart id nonzero even]
    exact peer.future id nonzero even
  · intro header member nonzero even
    rw [apart header.id nonzero even]
    exact peer.answered header member nonzero even

/-- A header that opens no stream. -/
theorem accept (peer : PeerLog peerLastId log accepted) {more : List Header}
    (plain : ∀ header ∈ more, header.id ≠ 0 → header.syn = false) :
    PeerLog peerLastId log (accepted ++ more) := by
  refine ⟨peer.emitted, peer.future, ?_⟩
  intro header member nonzero even opening
  rcases List.mem_append.mp member with old | added
  · exact peer.answered header old nonzero even opening
  rw [plain header added nonzero] at opening
  cases opening

/-- The refusal of a stream with a higher id than all before. -/
theorem refuse (peer : PeerLog peerLastId log accepted) {more : List Header} {id : Nat}
    (nonzero : id ≠ 0) (even : id % 2 = 0) (increasing : peerLastId < id)
    (named : ∀ header ∈ more, header.id = id) :
    PeerLog id (log ++ [refusal id]) (accepted ++ more) := by
  have before := peer.future id nonzero even increasing
  have own : framesFor id (log ++ [refusal id]) = [refusal id] := by
    rw [framesFor_append, before, framesFor_singleton]
    exact if_pos rfl
  have apart (other : Nat) (ne : other ≠ id) :
      framesFor other (log ++ [refusal id]) = framesFor other log := by
    have different : (refusal id).header.id ≠ other := ne.symm
    rw [framesFor_append, framesFor_singleton, if_neg different, List.append_nil]
  refine ⟨?_, ?_, ?_⟩
  · intro other otherNonzero otherEven
    by_cases same : other = id
    · rw [same, own]
      exact Or.inr rfl
    rw [apart other same]
    exact peer.emitted other otherNonzero otherEven
  · intro other otherNonzero otherEven later
    rw [apart other (by omega)]
    exact peer.future other otherNonzero otherEven (by omega)
  · intro header member headerNonzero headerEven opening
    rcases List.mem_append.mp member with old | added
    · have answered := peer.answered header old headerNonzero headerEven opening
      have ne : header.id ≠ id := by
        intro same
        rw [same, before] at answered
        cases answered
      rw [apart header.id ne]
      exact answered
    · rw [named header added, own]

theorem answers (peer : PeerLog mux.peerLastId log accepted)
    {more : List Header} (answers : Answers mux next more new) :
    PeerLog next.peerLastId (log ++ new) (accepted ++ more) := by
  cases answers with
  | nothing same plain =>
    rw [same.peerLastId, List.append_nil]
    exact peer.accept plain
  | reply _ id _ _ _ _ _ peerLastId =>
    rw [peerLastId]
    refine (peer.accept ?_).append ?_
    · intro other member nonzero
      rw [List.mem_singleton.mp member] at nonzero
      exact absurd id nonzero
    · intro frame member
      rw [List.mem_singleton.mp member]
      exact Or.inl rfl
  | refuse _ nonzero even _ increasing named _ _ _ _ peerLastId =>
    rw [peerLastId]
    exact peer.refuse nonzero even increasing named

end PeerLog

/-! ## The streams under the parser -/

/-- A view of a stream that sees none of its input side. -/
structure OutputView {View : Type} (view : Stream → View) : Prop where
  receive : ∀ stream kind header, view (Stream.receive stream kind header) = view stream
  ring : ∀ stream value, view { stream with ring := value } = view stream
  remoteFin : ∀ stream value, view { stream with remoteFin := value } = view stream
  blocked : ∀ stream flag since,
    view { stream with blocked := flag, blockedMs := since } = view stream

section

variable {View : Type} {view : Stream → View} (blind : OutputView view)
include blind

theorem Takes.keeps (takes : Takes mux chunk next) : Keeps view mux next := by
  cases takes with
  | discard => exact (Keeps.refl view mux).of_streams rfl
  | store stream _ found =>
    exact ((Keeps.refl view mux).setStream found
      { stream with ring := stream.ring.write chunk } rfl rfl
      (blind.ring _ _)).of_streams rfl

theorem Parse.keeps (parse : Parse mux done body chunk next done' body') : Keeps view mux next := by
  have unchanged := Keeps.refl view mux
  have afterFill {next : Mux} (keeps : Keeps view (mux.fillHeader chunk) next) :
      Keeps view mux next := keeps.since (mux.fillHeader_streams chunk)
  cases parse with
  | fill chunk => exact unchanged.of_streams (mux.fillHeader_streams chunk)
  | stall _ _ _ _ stalled =>
    exact afterFill (stalled.keeps fun kind stream => blind.receive stream kind _)
  | session _ _ _ _ session => exact afterFill ((Keeps.refl view _).of_streams session.streams)
  | enter _ _ _ _ enters =>
    exact afterFill (enters.keeps fun kind stream => blind.receive stream kind _)
  | enterLast _ _ _ _ enters =>
    exact afterFill ((enters.keeps fun kind stream => blind.receive stream kind _).endFrame
      blind.remoteFin)
  | take _ _ _ takes => exact takes.keeps blind
  | takeLast _ _ _ takes => exact (takes.keeps blind).endFrame blind.remoteFin
  | exhaust | lose => exact unchanged.of_streams rfl
  | block stream _ found =>
    exact unchanged.setStream found { stream with blocked := true, blockedMs := mux.nowMs } rfl
      rfl (blind.blocked _ _ _)

end

theorem Stream.localFin_outputView : OutputView Stream.localFin :=
  ⟨fun _ _ _ => rfl, fun _ _ => rfl, fun _ _ => rfl, fun _ _ _ => rfl⟩

/-! ## Every run -/

/-- The log is what has been handed over and what is left. -/
theorem Wired.log_bytes {handed : List UInt8} {history : History}
    (wired : Wired mux handed history.sent history.staged) :
    encodeFrames (history.log mux) = handed ++ mux.unsent := by
  unfold History.log Mux.unsent
  rw [encodeFrames_append, encodeFrames_append, ← wired.output,
    wired.handed, List.append_assoc, ← List.append_assoc (mux.output.take _), List.take_append_drop]

/-- The parser adds well-formed frames for no client stream. -/
theorem Answers.sound (answers : Answers mux next accepted new) :
    Emission mux [] next new ∧ (∀ frame ∈ new, frame.WellFormed) ∧
      ∀ frame ∈ new, frame.header.id % 2 = 0 := by
  cases answers with
  | nothing same => exact ⟨.none same.output same.outputOffset same.controls, nofun, nofun⟩
  | reply _ _ range room output outputOffset controls =>
    refine ⟨.queue _ room output outputOffset controls, ?_, ?_⟩
    · intro frame member
      rw [List.mem_singleton.mp member]
      exact Header.make_wellFormed (by decide) (by decide) range
        ⟨fun _ => Or.inl rfl, fun _ => rfl⟩ rfl
    · intro frame member
      rw [List.mem_singleton.mp member]
      rfl
  | refuse _ nonzero even range _ _ room output outputOffset controls =>
    refine ⟨.queue _ room output outputOffset controls, ?_, ?_⟩
    · intro frame member
      rw [List.mem_singleton.mp member]
      refine Header.make_wellFormed (by decide) range (by decide)
        ⟨fun zero => absurd zero nonzero, ?_⟩ rfl
      rintro (other | other) <;> cases other
    · intro frame member
      rw [List.mem_singleton.mp member]
      exact even

theorem Answers.output (answers : Answers mux next accepted new) : next.output = mux.output := by
  cases answers with
  | nothing same => exact same.output
  | reply header id range room output
  | refuse _ _ _ _ _ _ _ output => exact output

/-- The whole log obeys the wire format. -/
structure Legal (world : World) (history : History) : Prop where
  wired : Wired world.mux world.handed history.sent history.staged
  client : ClientLog world.mux (history.log world.mux) world.written
  peer : PeerLog world.mux.peerLastId (history.log world.mux) (history.accepted world.mux)

namespace Legal

theorem log_init (now : Nat) : History.log {} (World.init now).mux = [] := by
  simp [History.log, Mux.queued, World.init, yamuxInit]

theorem init (now : Nat) : Legal (World.init now) {} where
  wired := by
    refine ⟨rfl, rfl, Or.inl ⟨rfl, rfl⟩, Nat.zero_le _, ?_⟩
    intro frame member
    have none : frame ∈ History.log {} (World.init now).mux := member
    rw [log_init] at none
    cases none
  client := by
    rw [log_init]
    exact ⟨fun _ _ _ => ⟨rfl, rfl⟩, fun _ opened => (Mux.Table.unopened opened).elim,
      fun id _ => .nil id, fun _ _ found => (Mux.Table.empty found).elim,
      fun _ _ found => (Mux.Table.empty found).elim⟩
  peer := by
    rw [log_init]
    exact ⟨fun _ _ _ => Or.inl rfl, fun _ _ _ _ => rfl, nofun⟩

theorem call (legal : Legal world history) (table : world.mux.Table)
    (accounts : world.mux.Accounts)
    (change : Change world.mux label next) (quiet : label.isFed = false) :
    Legal (world.record label next) (history.called world.mux next) := by
  rcases change.produces quiet table accounts with ⟨new, produces⟩
  rcases legal.wired.emission produces.emission produces.wellFormed with ⟨wired, log⟩
  have same := change.sameInput quiet
  refine ⟨?_, ?_, ?_⟩
  · rw [World.record_mux, World.record_handed]
    exact wired
  · have written := funext (world.record_written label next)
    rw [World.record_mux, log, written]
    exact legal.client.step table produces.client
  · rw [World.record_mux, log, history.called_accepted same, same.peerLastId]
    exact legal.peer.append produces.own

theorem feed (legal : Legal world history) (table : world.mux.Table)
    (parsed : Parsed world.mux world.consumed history.done history.body)
    (parse : Parse world.mux history.done history.body chunk next done body)
    (sameIds : SameIds world.mux next) :
    Legal (world.record (.fed chunk) next) { history with done := done, body := body } := by
  rcases parse.acceptance parsed with ⟨more, acceptance, accepted⟩
  rcases acceptance.answers with ⟨new, answers⟩
  rcases answers.sound with ⟨emission, wellFormed, foreign⟩
  have unchanged := legal.wired.called_same answers.output
  rcases legal.wired.emission emission wellFormed with ⟨wired, log⟩
  rw [unchanged] at wired log
  refine ⟨?_, ?_, ?_⟩
  · rw [World.record_mux, World.record_handed]
    exact wired
  · have log' : History.log { history with done := done, body := body } next =
          history.log world.mux ++ new := log
    rw [World.record_mux, log']
    exact legal.client.keep table (parse.keeps Stream.localFin_outputView) sameIds.nextId foreign
  · have log' : History.log { history with done := done, body := body } next =
          history.log world.mux ++ new := log
    have accepted' : History.accepted { history with done := done, body := body }
            next =
          history.accepted world.mux ++ more := accepted
    rw [World.record_mux, log', accepted']
    exact legal.peer.answers answers

end Legal

theorem Traced.legal {world : World} (traced : Traced world history) : Legal world history := by
  induction traced with
  | init now => exact .init now
  | call earlier _ change quiet ih =>
    exact ih.call earlier.reachable.table earlier.reachable.accounts change quiet
  | feed earlier _ parse step ih =>
    exact ih.feed earlier.reachable.table earlier.parsed parse (.of_edits (.of_feedStep step))

/-- The input without a header that `start_frame` has not accepted. -/
def World.acceptedInput (world : World) : List UInt8 :=
  if world.mux.frameActive then
    world.consumed
  else
    world.consumed.take (world.consumed.length - world.mux.header.length)

theorem Traced.framesOf_acceptedInput {world : World} (traced : Traced world history) :
    framesOf world.acceptedInput = history.done ++ world.mux.current history.body := by
  have parsed := traced.parsed
  unfold World.acceptedInput
  cases active : world.mux.frameActive with
  | true =>
    have none : world.mux.pending = [] := if_neg fun waiting => by simp [active] at waiting
    rw [if_pos rfl, parsed.framesOf_consumed, none, List.append_nil]
  | false =>
    have bytes : world.consumed.take (world.consumed.length - world.mux.header.length) =
          encodeFrames history.done := by
      rw [parsed.consumed, parsed.idle active, List.append_nil,
        List.length_append, Nat.add_sub_cancel]
      exact List.take_left
    rw [if_neg Bool.false_ne_true, bytes, framesOf_encodeFrames parsed.valid,
      Mux.current_idle _ active, List.append_nil]

/--
In every run the bytes handed over, continued by the bytes that are staged or
queued, are a sequence of well-formed frames.  The frames of every client
stream are legal and carry what has been written.  For a peer stream there is
at most one frame, its refusal, and there is one when its SYN has been
accepted.
-/
theorem output_legal (now : Nat) (calls : List Call) (world : World)
    (reached : World.run now calls = world) :
    ∃ frames, encodeFrames frames = world.handed ++ world.mux.unsent ∧
      (∀ frame ∈ frames, frame.WellFormed) ∧
      (∀ id, id % 2 = 1 → ClientLegal id (framesFor id frames) (world.written id)) ∧
      ∀ id, id ≠ 0 → id % 2 = 0 → (framesFor id frames = [] ∨ framesFor id frames =
            [⟨Header.make .window rstFlag id 0, []⟩]) ∧
        ((∃ frame ∈ framesOf world.acceptedInput, frame.header.id = id ∧ frame.header.syn = true) →
          framesFor id frames = [⟨Header.make .window rstFlag id 0, []⟩]) := by
  have reachable : world.Reachable := by
    rw [← reached]
    exact World.run_reachable now calls
  rcases reachable.traced with ⟨history, traced⟩
  have legal := traced.legal
  refine ⟨history.log world.mux, legal.wired.log_bytes,
    legal.wired.wellFormed, legal.client.legal, ?_⟩
  · intro id nonzero even
    refine ⟨legal.peer.emitted id nonzero even, ?_⟩
    rintro ⟨frame, member, rfl, opening⟩
    rw [traced.framesOf_acceptedInput] at member
    exact legal.peer.answered frame.header (List.mem_map_of_mem member) nonzero even opening

/-- A run in which the peer opens a stream of its own. -/
def refusedPeerCalls : List Call :=
  [.openStream true, .output, .consumeOutput 12, .write 1 [7, 8, 9],
    .consumeOutput 5, .closeWrite 1,
    .feed (Header.make .window synFlag 2 0).encode]

theorem output_legal_refusedPeer : ∃ frames, encodeFrames frames =
          (World.run 0 refusedPeerCalls).handed ++ (World.run 0 refusedPeerCalls).mux.unsent ∧
        framesFor 2 frames = [⟨Header.make .window rstFlag 2 0, []⟩] ∧
        payloadFor 1 (framesFor 1 frames) = [7, 8, 9] := by
  rcases output_legal 0 refusedPeerCalls _ rfl with ⟨frames, encoded, _, client, peer⟩
  refine ⟨frames, encoded, (peer 2 (by decide) (by decide)).2 ?_, ?_⟩
  · decide +kernel
  · rw [(client 1 (by decide)).payload]
    decide +kernel

end EspFrp.Yamux

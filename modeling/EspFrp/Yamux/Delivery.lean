import EspFrp.Yamux.Trace

/-!
# Delivery to the application

The payload bytes of the DATA frames that have been consumed for a live
stream are the bytes that the application has read followed by the bytes in
the ring, and the end of the stream is reported exactly when a frame with FIN
is complete and nothing is left to read.  Frames of other streams, a full
ring and a full control queue only ever postpone this.
-/

namespace EspFrp.Yamux

open Library

/-! ## Frames that wait -/

/--
An active frame has payload left, and a complete header waits only for a free
control slot.
-/
structure Settled (mux : Mux) : Prop where
  rest : mux.frameActive = true → mux.frameRemaining ≠ 0
  postponed : mux.failure = .ok → mux.frameActive = false →
    mux.header.length = headerBytes → (Header.decode mux.header).id % 2 = 0

variable {mux : Mux}

theorem Stalled.settled (stalled : Stalled mux (Header.decode mux.header) outcome)
    (ready : outcome.2.failure = .ok) : (Header.decode outcome.2.header).id % 2 = 0 := by
  cases stalled with
  | postponed _ even => exact even
  | violated | closed | rejected | excessive => cases ready

theorem Settled.parse (settled : Settled mux)
    (parse : Parse mux done body chunk next done' body') : Settled next := by
  cases parse with
  | fill chunk idle fits incomplete =>
    have active := (mux.fillHeader_frameActive chunk).trans idle
    refine ⟨by rw [active]; exact nofun, ?_⟩
    intro _ _ length
    rw [Mux.fillHeader_header_of_le fits, List.length_append] at length
    exact absurd length incomplete
  | stall chunk _ idle _ stalled =>
    have active := stalled.frameActive.trans ((mux.fillHeader_frameActive chunk).trans idle)
    refine ⟨by rw [active]; exact nofun, ?_⟩
    intro ready _ _
    rw [← Mux.fillHeader_header_of_le (by omega)] at stalled
    exact stalled.settled ready
  | session chunk _ idle _ session =>
    have active := session.frameActive.trans ((mux.fillHeader_frameActive chunk).trans idle)
    refine ⟨by rw [active]; exact nofun, ?_⟩
    intro _ _ length
    rw [session.header] at length
    cases length
  | enter _ _ _ _ enters more =>
    refine ⟨fun _ => more, ?_⟩
    rw [enters.receives.frameActive]
    exact nofun
  | enterLast | takeLast => exact ⟨nofun, nofun⟩
  | take _ _ active takes more =>
    refine ⟨fun _ => more, ?_⟩
    rw [takes.advances.frameActive, active]
    exact nofun
  | exhaust | lose => exact ⟨settled.rest, nofun⟩
  | block => exact ⟨settled.rest, settled.postponed⟩

theorem Traced.settled (traced : Traced world history) : Settled world.mux := by
  induction traced with
  | init => exact ⟨nofun, nofun⟩
  | call _ ready change quiet ih =>
    rw [World.record_mux]
    have same := change.sameInput quiet
    refine ⟨?_, fun _ => ?_⟩
    · rw [same.frameActive, same.frameRemaining]
      exact ih.rest
    · rw [same.frameActive, same.header]
      exact ih.postponed ready
  | feed _ _ parse _ ih => exact ih.parse parse

/-! ## The invariant -/

/-- The part of a stream that the application reads. -/
def Stream.inbox (stream : Stream) : Ring UInt8 ringBytes × Bool := (stream.ring, stream.remoteFin)

/-- What has been received is what has been read and what is stored. -/
structure Delivered (mux : Mux) (readBytes : Nat → List UInt8)
    (done : List Frame) (body : List UInt8) : Prop where
  stored : ∀ id stream, mux.stream id = some stream → stream.reset = false →
      payloadFor id (done ++ mux.current body) = readBytes id ++ stream.ring.contents
  finished : ∀ id stream, mux.stream id = some stream → stream.reset = false →
      (stream.remoteFin = true ↔ ∃ frame ∈ done, frame.header.id = id ∧ frame.header.fin = true)
  unopened : ∀ id, id % 2 = 1 → ¬Opened mux.nextId id →
    readBytes id = [] ∧ ∀ frame ∈ done ++ mux.current body, frame.header.id ≠ id
  dropping : mux.frameActive = true → mux.frameDiscard = true → discards mux mux.frameId = true
  returned : ∀ id, readBytes id <+: payloadFor id (done ++ mux.current body)

theorem Mux.current_congr (body : List UInt8)
    (same : SameInput mux next) : next.current body = mux.current body := by
  unfold Mux.current
  rw [same.frameActive, same.header]

theorem Mux.current_idle (body : List UInt8) (idle : mux.frameActive = false) :
    mux.current body = [] := by
  unfold Mux.current
  rw [idle]
  rfl

theorem Mux.current_active (body : List UInt8) (active : mux.frameActive = true) :
    mux.current body = [⟨Header.decode mux.header, body⟩] := by
  unfold Mux.current
  rw [active]
  rfl

/-- A frame without payload brings no bytes. -/
@[simp]
theorem Frame.dataFor_empty (id : Nat) (header : Header) : Frame.dataFor id ⟨header, []⟩ = [] := by
  simp [Frame.dataFor]

namespace Delivered

/-- A transition that keeps the rings and the payload received so far. -/
theorem moved (delivered : Delivered mux readBytes done body) (nextId : next.nextId = mux.nextId)
    (keeps : Keeps Stream.inbox mux next)
    (payload : ∀ id, payloadFor id (done ++ next.current later) =
      payloadFor id (done ++ mux.current body))
    (opened : ∀ frame ∈ next.current later, frame.header.id % 2 = 1 →
      Opened mux.nextId frame.header.id)
    (dropping : next.frameActive = true → next.frameDiscard = true →
      discards next next.frameId = true) :
    Delivered next readBytes done later where
  stored := by
    intro id stream found alive
    rcases keeps id stream found alive with ⟨old, foundOld, aliveOld, view⟩
    rw [payload, delivered.stored id old foundOld aliveOld,
      show stream.ring = old.ring from congrArg Prod.fst view]
  finished := by
    intro id stream found alive
    rcases keeps id stream found alive with ⟨old, foundOld, aliveOld, view⟩
    rw [show stream.remoteFin = old.remoteFin from congrArg Prod.snd view]
    exact delivered.finished id old foundOld aliveOld
  unopened := by
    intro id odd fresh
    rw [nextId] at fresh
    have unopened := delivered.unopened id odd fresh
    refine ⟨unopened.1, ?_⟩
    intro frame member
    rcases List.mem_append.mp member with old | new
    · exact unopened.2 frame (List.mem_append_left _ old)
    rintro rfl
    exact fresh (opened frame new odd)
  dropping := dropping
  returned := fun id => payload id ▸ delivered.returned id

section

variable (delivered : Delivered mux readBytes done body)
  (same : SameInput mux next) (nextId : next.nextId = mux.nextId)
include delivered same nextId

/-- A transition that leaves the input side and the rings alone. -/
theorem keep (keeps : Keeps Stream.inbox mux next)
    (dropping : mux.frameActive = true → next.frameDiscard = true →
      mux.frameDiscard = false → discards next mux.frameId = true) :
    Delivered next readBytes done body := by
  have current := Mux.current_congr body same
  refine delivered.moved nextId keeps (fun _ => by rw [current]) ?_ ?_
  · intro frame member odd
    by_contra fresh
    rw [current] at member
    exact (delivered.unopened _ odd fresh).2 frame (List.mem_append_right _ member) rfl
  · rw [same.frameActive, same.frameId]
    intro active discard
    cases before : mux.frameDiscard with
    | true => exact keeps.discards (delivered.dropping active before)
    | false => exact dropping active discard before

/-- A transition that does not change what is discarded either. -/
theorem keepFrame (discard : next.frameDiscard = mux.frameDiscard)
    (keeps : Keeps Stream.inbox mux next) : Delivered next readBytes done body := by
  refine delivered.keep same nextId keeps ?_
  intro _ after before
  rw [discard, before] at after
  cases after

theorem congr (discard : next.frameDiscard = mux.frameDiscard)
    (streams : next.streams = mux.streams) : Delivered next readBytes done body :=
  delivered.keepFrame same nextId discard ((Keeps.refl Stream.inbox mux).of_streams streams)

end

/-! ### The calls -/

section

variable (delivered : Delivered mux readBytes done body) (table : mux.Table)
include delivered table

theorem opening (parsed : Parsed mux consumed done body)
    (available : mux.nextId ≠ 0) (slot : Slots.lookup Stream.id 0 mux.streams = some free) :
    Delivered mux.opening readBytes done body := by
  have streams := Mux.stream_opening available slot table.fresh
  have unopened := delivered.unopened mux.nextId (table.next available).1 (fun opened => by
      have past := opened.past
      omega)
  have noFrame (id : Nat) (frames : List Frame) (absent : ∀ frame ∈ frames, frame.header.id ≠ id) :
      payloadFor id frames = [] := by
    unfold payloadFor
    rw [List.flatMap_eq_nil_iff]
    intro frame member
    unfold Frame.dataFor
    rw [if_neg fun match' => absent frame member match'.2]
  refine ⟨?_, ?_, ?_, ?_, delivered.returned⟩
  · intro id stream found alive
    rcases update_found streams found with ⟨here, ⟨⟩⟩ | ⟨here, found⟩
    · rw [here, unopened.1]
      exact noFrame _ _ unopened.2
    · exact delivered.stored id stream found alive
  · intro id stream found alive
    rcases update_found streams found with ⟨here, ⟨⟩⟩ | ⟨here, found⟩
    · refine ⟨nofun, ?_⟩
      rintro ⟨frame, member, sameId, _⟩
      exact absurd (sameId.trans here) (unopened.2 frame (List.mem_append_left _ member))
    · exact delivered.finished id stream found alive
  · intro id odd fresh
    exact delivered.unopened id odd fun opened => fresh (table.opened_opening available opened)
  · intro active discard
    have apart : mux.frameId ≠ mux.nextId := by
      rw [parsed.frameId active]
      refine unopened.2 ⟨Header.decode mux.header, body⟩ (List.mem_append_right _ ?_)
      rw [@Mux.current_active mux body active]
      exact List.mem_singleton_self _
    have unchanged : mux.opening.stream mux.frameId = mux.stream mux.frameId := by
      rw [streams, Function.update_of_ne apart]
    exact (discards_congr unchanged).trans (delivered.dropping active discard)

theorem reading {id capacity : Nat}
    (found : mux.stream id = some stream) (alive : stream.reset = false) :
    Delivered (mux.setStream (stream.reading capacity)) (Function.update readBytes id
        (readBytes id ++ stream.ring.front capacity)) done body := by
  have streams := Mux.stream_setStream found (stream.reading capacity) rfl
  have total := delivered.stored id stream found alive
  have split : readBytes id ++ stream.ring.contents =
        (readBytes id ++ stream.ring.front capacity) ++
          (stream.reading capacity).ring.contents := by
    rw [List.append_assoc]
    exact congrArg _ (stream.ring.front_append_contents_drop capacity).symm
  refine ⟨?_, ?_, ?_, ?_, ?_⟩
  · intro other stream' foundNow aliveNow
    rcases update_found streams foundNow with ⟨rfl, ⟨⟩⟩ | ⟨here, foundNow⟩
    · rw [Function.update_self]
      exact total.trans split
    rw [Function.update_of_ne here]
    exact delivered.stored other stream' foundNow aliveNow
  · intro other stream' foundNow aliveNow
    rcases update_found streams foundNow with ⟨rfl, ⟨⟩⟩ | ⟨here, foundNow⟩
    · exact delivered.finished other stream found alive
    · exact delivered.finished other stream' foundNow aliveNow
  · intro other odd fresh
    have here : other ≠ id := by
      rintro rfl
      exact fresh (table.opened_of_stream found)
    rw [Function.update_of_ne here]
    exact delivered.unopened other odd fresh
  · intro active discard
    have gone := delivered.dropping active discard
    exact ((Keeps.refl (fun _ => ()) mux).setStream found
      (stream.reading capacity) rfl rfl rfl).discards gone
  · intro other
    by_cases here : other = id
    · subst here
      rw [Function.update_self]
      exact ⟨_, (total.trans split).symm⟩
    rw [Function.update_of_ne here]
    exact delivered.returned other

/-- A call other than input. -/
theorem call (parsed : Parsed mux consumed done body) (same : SameInput mux next)
    (effect : CallEffect Stream.inbox mux label next) :
    Delivered next (match label with
        | .read id bytes => Function.update readBytes id (readBytes id ++ bytes)
        | _ => readBytes) done body := by
  cases effect with
  | opened _ available slot => exact delivered.opening table parsed available slot
  | read _ _ _ found alive => exact delivered.reading table found alive
  | kept unread keeps nextId dropped =>
    have kept := delivered.keep same nextId keeps dropped
    cases label with
    | read id bytes => exact absurd rfl (unread id bytes)
    | _ => exact kept

end

/-! ### The parser -/

section

variable (delivered : Delivered mux readBytes done body) (idle : mux.frameActive = false)
include delivered idle

/-- A header without its frame started brings nothing. -/
theorem waiting (stillIdle : next.frameActive = false) (nextId : next.nextId = mux.nextId)
    (keeps : Keeps Stream.inbox mux next) : Delivered next readBytes done body := by
  have before := Mux.current_idle body idle
  have after := Mux.current_idle body stillIdle
  refine delivered.moved nextId keeps (fun _ => by rw [before, after]) ?_ ?_
  · intro frame member
    rw [after] at member
    cases member
  · intro active
    cases stillIdle.symm.trans active

/-- A session frame belongs to no stream. -/
theorem dispatched (session : header.id = 0) :
    Delivered mux readBytes (done ++ [⟨header, []⟩]) [] := by
  have before := Mux.current_idle body idle
  have after := Mux.current_idle [] idle
  refine ⟨?_, ?_, ?_, delivered.dropping, ?_⟩
  · intro id stream found alive
    have stored := delivered.stored id stream found alive
    rw [before, List.append_nil] at stored
    simpa [after] using stored
  · intro id stream found alive
    rw [delivered.finished id stream found alive]
    constructor
    · rintro ⟨frame, member, rest⟩
      exact ⟨frame, List.mem_append_left _ member, rest⟩
    · rintro ⟨frame, member, sameId, final⟩
      rcases List.mem_append.mp member with old | new
      · exact ⟨frame, old, sameId, final⟩
      rw [List.mem_singleton.mp new] at sameId
      exact absurd (sameId.symm.trans session) (Mux.stream_ne_zero found)
  · intro id odd fresh
    have unopened := delivered.unopened id odd fresh
    rw [before, List.append_nil] at unopened
    refine ⟨unopened.1, ?_⟩
    intro frame member
    rw [after, List.append_nil] at member
    rcases List.mem_append.mp member with old | new
    · exact unopened.2 frame old
    rw [List.mem_singleton.mp new]
    change header.id ≠ id
    omega
  · intro id
    have returned := delivered.returned id
    rw [before, List.append_nil] at returned
    simpa [after] using returned

/-- The header of a stream frame is applied and the frame entered. -/
theorem entered (nextId : next.nextId = mux.nextId)
    (active : next.frameActive = true) (keeps : Keeps Stream.inbox mux next)
    (opened : (Header.decode next.header).id % 2 = 1 →
      Opened mux.nextId (Header.decode next.header).id)
    (dropping : next.frameDiscard = true → discards next next.frameId = true) :
    Delivered next readBytes done [] := by
  have before := Mux.current_idle body idle
  have after := Mux.current_active [] active
  refine delivered.moved nextId keeps (fun _ => by simp [before, after]) ?_ fun _ => dropping
  intro frame member odd
  rw [after] at member
  rw [List.mem_singleton.mp member] at odd ⊢
  exact opened odd

end

/-- The active frame is complete. -/
theorem ended (delivered : Delivered mux readBytes done body)
    (parsed : Parsed mux consumed done body) (active : mux.frameActive = true) :
    Delivered (endFrame mux) readBytes (done ++ [⟨Header.decode mux.header, body⟩]) [] := by
  have before := Mux.current_active body active
  have after := Mux.current_idle [] (endFrame_frameActive mux)
  have frameId := parsed.frameId active
  have frameFlags := parsed.frameFlags active
  have sameIds := SameIds.of_edits (.endFrame mux)
  have inserted (id : Nat) (final : Bool) : (∃ frame ∈ done ++ [⟨Header.decode mux.header, body⟩],
          frame.header.id = id ∧ frame.header.fin = final) ↔
        (∃ frame ∈ done, frame.header.id = id ∧ frame.header.fin = final) ∨
        (mux.frameId = id ∧ mux.frameFlags.testBit 2 = final) := by
    simp [List.mem_append, or_and_right, exists_or, frameId, frameFlags, Header.fin]
  refine ⟨?_, ?_, ?_, nofun, ?_⟩
  · intro id stream found alive
    rcases (Keeps.refl Stream.ring mux).endFrame (fun _ _ => rfl) id stream found alive with
      ⟨old, foundOld, aliveOld, sameRing⟩
    have stored := delivered.stored id old foundOld aliveOld
    rw [before] at stored
    rw [after, List.append_nil, stored, sameRing]
  · intro id stream found alive
    rw [inserted]
    rcases endFrame_cases mux with ⟨quiet, unchanged⟩ | ⟨last, foundLast, aliveLast, final, changed⟩
    · rw [unchanged] at found
      rw [delivered.finished id stream found alive]
      refine ⟨Or.inl, ?_⟩
      rintro (old | ⟨rfl, final⟩)
      · exact old
      · rcases quiet with discarded | plain
        · have gone : discards mux mux.frameId = stream.reset := discards_of_found found
          rw [discarded, alive] at gone
          cases gone
        rw [plain] at final
        cases final
    · rw [changed] at found
      have streams := Mux.stream_setStream foundLast { last with remoteFin := true } rfl
      rcases update_found streams found with ⟨rfl, ⟨⟩⟩ | ⟨here, foundNow⟩
      · exact ⟨fun _ => Or.inr ⟨rfl, final⟩, fun _ => rfl⟩
      rw [delivered.finished id stream foundNow alive]
      refine ⟨Or.inl, ?_⟩
      rintro (old | ⟨rfl, _⟩)
      · exact old
      · exact absurd rfl here
  · intro id odd fresh
    rw [sameIds.nextId] at fresh
    have unopened := delivered.unopened id odd fresh
    rw [before] at unopened
    rw [after, List.append_nil]
    exact unopened
  · intro id
    have returned := delivered.returned id
    rw [before] at returned
    rw [after, List.append_nil]
    exact returned

/-- A chunk of payload extends the last frame. -/
theorem dataFor_append (id : Nat) (body : List UInt8)
    (data : header.type = Kind.data.code ∨ chunk = []) :
    Frame.dataFor id ⟨header, body ++ chunk⟩ = Frame.dataFor id ⟨header, body⟩ ++
        if header.id = id then chunk else [] := by
  rcases data with data | rfl
  · by_cases same : header.id = id <;>
      simp [Frame.dataFor, data, same]
  · simp

variable (delivered : Delivered mux readBytes done body)
include delivered

theorem taken (parsed : Parsed mux consumed done body) (active : mux.frameActive = true)
    (takes : Takes mux chunk next) : Delivered next readBytes done (body ++ chunk) := by
  have advances := takes.advances
  have nowActive := advances.frameActive.trans active
  have before := Mux.current_active body active
  have after := Mux.current_active (body ++ chunk) nowActive
  rw [advances.header] at after
  have frameId := parsed.frameId active
  have data : (Header.decode mux.header).type = Kind.data.code ∨ chunk = [] := by
    by_contra neither
    rcases not_or.mp neither with ⟨noData, nonempty⟩
    have remaining := parsed.remaining active
    rw [Header.payloadLength, if_neg noData] at remaining
    have within := advances.within
    exact nonempty (List.length_eq_zero_iff.mp (by omega))
  have grown (id : Nat) : payloadFor id (done ++ next.current (body ++ chunk)) =
        payloadFor id (done ++ mux.current body) ++
          if mux.frameId = id then chunk else [] := by
    rw [after, before, payloadFor_append, payloadFor_append, payloadFor_singleton,
      payloadFor_singleton, dataFor_append id body data, frameId, List.append_assoc]
  have unopened (id : Nat) (odd : id % 2 = 1) (fresh : ¬Opened mux.nextId id) : readBytes id = [] ∧
        ∀ frame ∈ done ++ next.current (body ++ chunk), frame.header.id ≠ id := by
    have absent := delivered.unopened id odd fresh
    refine ⟨absent.1, ?_⟩
    intro frame member
    rw [after] at member
    rcases List.mem_append.mp member with old | new
    · exact absent.2 frame (List.mem_append_left _ old)
    rw [List.mem_singleton.mp new]
    refine absent.2 ⟨Header.decode mux.header, body⟩ (List.mem_append_right _ ?_)
    rw [before]
    exact List.mem_singleton_self _
  have returned (id : Nat) : readBytes id <+:
        payloadFor id (done ++ next.current (body ++ chunk)) := by
    rw [grown]
    exact (delivered.returned id).trans (List.prefix_append _ _)
  cases takes with
  | discard discarded =>
    have gone := delivered.dropping active discarded
    refine ⟨?_, delivered.finished, unopened, delivered.dropping, returned⟩
    intro id stream found alive
    have apart : mux.frameId ≠ id := by
      rintro rfl
      have same : discards mux mux.frameId = stream.reset := discards_of_found found
      rw [gone, alive] at same
      cases same
    rw [grown, if_neg apart, List.append_nil]
    exact delivered.stored id stream found alive
  | store stream kept found _ room =>
    have streams := Mux.stream_setStream found { stream with ring := stream.ring.write chunk } rfl
    refine ⟨?_, ?_, unopened, ?_, returned⟩
    · intro id stream' foundNow alive
      rw [grown]
      rcases update_found streams foundNow with ⟨rfl, ⟨⟩⟩ | ⟨here, foundNow⟩
      · rw [if_pos rfl, delivered.stored _ stream found alive, Ring.contents_write,
          List.take_of_length_le room, List.append_assoc]
      rw [if_neg (Ne.symm here), List.append_nil]
      exact delivered.stored id stream' foundNow alive
    · intro id stream' foundNow alive
      rcases update_found streams foundNow with ⟨rfl, ⟨⟩⟩ | ⟨here, foundNow⟩
      · exact delivered.finished _ stream found alive
      · exact delivered.finished id stream' foundNow alive
    · intro _ discard
      have dropped : mux.frameDiscard = true := discard
      rw [kept] at dropped
      cases dropped

theorem fillHeader (idle : mux.frameActive = false) (chunk : List UInt8) :
    Delivered (mux.fillHeader chunk) readBytes done body :=
  delivered.waiting idle ((mux.fillHeader_frameActive chunk).trans idle)
    (SameIds.of_edits (.fillHeader mux chunk)).nextId
    ((Keeps.refl Stream.inbox mux).of_streams (mux.fillHeader_streams chunk))

/-- A stream frame begins. -/
theorem enters (parsed : Parsed mux consumed done body) (idle : mux.frameActive = false)
    (complete : mux.header.length + chunk.length = headerBytes)
    (enters : Enters (mux.fillHeader chunk) (Header.decode (mux.header ++ chunk)) next) :
    Delivered next readBytes done [] := by
  rcases parsed.enters idle complete enters with ⟨_, header⟩
  have length : (mux.header ++ chunk).length = headerBytes := by
    rw [List.length_append]
    exact complete
  refine (delivered.fillHeader idle chunk).entered ((mux.fillHeader_frameActive chunk).trans idle)
    enters.nextId enters.receives.frameActive (enters.keeps fun _ _ => rfl) ?_ ?_
  · rw [header]
    exact enters.opened (Header.decode_inRange length)
  · rw [← enters.discard]
    exact fun discard => discard

/-- The parser delivers. -/
theorem parse (parsed : Parsed mux consumed done body)
    (parse : Parse mux done body chunk next done' body') :
    Delivered next readBytes done' body' := by
  cases parse with
  | fill chunk idle => exact delivered.fillHeader idle chunk
  | stall chunk _ idle _ stalled =>
    have stillIdle := (mux.fillHeader_frameActive chunk).trans idle
    exact (delivered.fillHeader idle chunk).waiting stillIdle (stalled.frameActive.trans stillIdle)
      stalled.nextId (stalled.keeps fun _ _ => rfl)
  | session chunk _ idle _ session =>
    have stillIdle := (mux.fillHeader_frameActive chunk).trans idle
    have nowIdle := session.frameActive.trans stillIdle
    have cleared := (delivered.fillHeader idle chunk).waiting stillIdle nowIdle session.nextId
      ((Keeps.refl Stream.inbox _).of_streams session.streams)
    exact cleared.dispatched nowIdle session.id
  | enter _ _ idle complete enters => exact delivered.enters parsed idle complete enters
  | enterLast _ _ idle complete enters =>
    rcases parsed.enters idle complete enters with ⟨parsedNext, header⟩
    rw [← header]
    exact (delivered.enters parsed idle complete enters).ended
      parsedNext enters.receives.frameActive
  | take _ _ active takes => exact delivered.taken parsed active takes
  | takeLast _ _ active takes =>
    have advances := takes.advances
    rw [← advances.header]
    exact (delivered.taken parsed active takes).ended (parsed.taken active advances)
      (advances.frameActive.trans active)
  | exhaust | lose => exact delivered.congr ⟨rfl, rfl, rfl, rfl, rfl, rfl, rfl⟩ rfl rfl rfl
  | block stream _ found =>
    exact delivered.keepFrame ⟨rfl, rfl, rfl, rfl, rfl, rfl, rfl⟩ rfl rfl
      ((Keeps.refl Stream.inbox mux).setStream found
        { stream with blocked := true, blockedMs := mux.nowMs }
        rfl rfl rfl)

end Delivered

/-! ## Every run -/

theorem Stream.inbox_inputView : InputView Stream.inbox :=
  ⟨fun _ _ => rfl, fun _ _ => rfl, fun _ _ => rfl, fun _ _ => rfl⟩

variable {history : History} {world : World}

theorem Traced.delivered (traced : Traced world history) :
    Delivered world.mux world.readBytes history.done history.body := by
  induction traced with
  | init now =>
    exact ⟨fun _ _ found => (Mux.Table.empty found).elim,
      fun _ _ found => (Mux.Table.empty found).elim, fun _ _ _ => ⟨rfl, nofun⟩, nofun,
      fun _ => List.nil_prefix⟩
  | @call _ _ label _ earlier _ change quiet ih =>
    rw [World.record_mux]
    have after := ih.call earlier.reachable.table earlier.parsed (change.sameInput quiet)
      (change.callEffect Stream.inbox_inputView earlier.reachable.table quiet)
    cases label <;> exact after
  | feed earlier _ parse _ ih => exact ih.parse earlier.parsed parse

/-- When `efrp_yamux_read` reports the end of a stream. -/
theorem yamuxRead_eof_iff {id capacity : Nat} {stream : Stream} (ready : mux.failure = .ok)
    (found : mux.stream id = some stream) (alive : stream.reset = false) (positive : 0 < capacity) :
    (yamuxRead mux id capacity).1 = .eof ↔ stream.ring.contents = [] ∧ stream.remoteFin = true := by
  unfold yamuxRead
  rw [if_neg (Nat.pos_iff_ne_zero.mp positive), if_neg (not_not.mpr ready), found]
  dsimp only
  rw [if_neg (by rw [alive]; exact Bool.false_ne_true), Ring.contents_eq_nil_iff]
  by_cases drained : stream.ring.used = 0
  · rw [if_pos drained]
    cases stream.remoteFin <;> simp [drained]
  rw [if_neg drained]
  simp [drained]

/-- A frame with FIN counts once its whole payload has been consumed. -/
theorem Traced.fin_consumed_iff (traced : Traced world history) (ready : world.mux.failure = .ok)
    {id : Nat} (odd : id % 2 = 1) :
    (∃ frame ∈ framesOf world.consumed, frame.Complete ∧ frame.header.id = id ∧
          frame.header.fin = true) ↔
      ∃ frame ∈ history.done, frame.header.id = id ∧ frame.header.fin = true := by
  have parsed := traced.parsed
  have settled := traced.settled
  rw [parsed.framesOf_consumed]
  constructor
  · rintro ⟨frame, member, complete, sameId, final⟩
    rcases List.mem_append.mp member with old | later
    · exact ⟨frame, old, sameId, final⟩
    rcases List.mem_append.mp later with current | pending
    · unfold Mux.current at current
      split at current
      · next active =>
        rw [List.mem_singleton.mp current] at complete
        have remaining := parsed.remaining active
        have rest := settled.rest active
        have whole : history.body.length = (Header.decode world.mux.header).payloadLength :=
          complete
        omega
      · cases current
    · unfold Mux.pending at pending
      split at pending
      · next waiting =>
        rw [List.mem_singleton.mp pending] at sameId
        have even := settled.postponed ready waiting.1 waiting.2
        have same : (Header.decode world.mux.header).id = id := sameId
        omega
      · cases pending
  · rintro ⟨frame, member, sameId, final⟩
    exact ⟨frame, List.mem_append_left _ member, (parsed.valid frame member).2, sameId, final⟩

/--
In every run, for every id the bytes read are a prefix of the payloads
received.  For a live stream that is not reset, the rest is what the ring
holds, and a read reports the end exactly when a frame with FIN has been
consumed with its whole payload and every byte has been read.
-/
theorem delivery_exact (now : Nat) (calls : List Call) (world : World)
    (reached : World.run now calls = world) :
    (∀ id, world.readBytes id <+: payloadFor id (framesOf world.consumed)) ∧
      (world.mux.failure = .ok → ∀ id stream, world.mux.stream id = some stream →
          stream.reset = false → payloadFor id (framesOf world.consumed) =
                world.readBytes id ++ stream.ring.contents ∧
              ∀ capacity, 0 < capacity → ((yamuxRead world.mux id capacity).1 = .eof ↔
                  (∃ frame ∈ framesOf world.consumed, frame.Complete ∧ frame.header.id = id ∧
                      frame.header.fin = true) ∧
                  world.readBytes id = payloadFor id (framesOf world.consumed))) := by
  have reachable : world.Reachable := by
    rw [← reached]
    exact World.run_reachable now calls
  rcases reachable.traced with ⟨history, traced⟩
  have delivered := traced.delivered
  have parsed := traced.parsed
  have pendingData (id : Nat) : payloadFor id world.mux.pending = [] := by
    unfold Mux.pending
    split
    · simp
    · rfl
  have received (id : Nat) : payloadFor id (framesOf world.consumed) =
        payloadFor id (history.done ++ world.mux.current history.body) := by
    rw [parsed.framesOf_consumed, ← List.append_assoc,
      payloadFor_append, pendingData, List.append_nil]
  refine ⟨fun id => ?_, ?_⟩
  · rw [received]
    exact delivered.returned id
  · intro ready id stream found alive
    have stored := delivered.stored id stream found alive
    rw [received]
    refine ⟨stored, ?_⟩
    intro capacity positive
    have odd := (reachable.table.opened_of_stream found).odd
    rw [yamuxRead_eof_iff ready found alive positive, traced.fin_consumed_iff ready odd,
      ← delivered.finished id stream found alive, stored, and_comm]
    refine and_congr_right fun _ => ?_
    rw [List.self_eq_append_right]

/-- A run in which the peer finishes a stream after three bytes. -/
def finishedCalls : List Call :=
  [.openStream true, .output, .consumeOutput 12, .feed ((Header.make .data 6 1 3).encode ++ [1, 2]),
    .feed [3], .read 1 2, .read 1 2]

theorem delivery_exact_finished : (yamuxRead (World.run 0 finishedCalls).mux 1 5).1 = .eof ∧
      (World.run 0 finishedCalls).readBytes 1 =
        payloadFor 1 (framesOf (World.run 0 finishedCalls).consumed) := by
  have live : ((World.run 0 finishedCalls).mux.stream 1).isSome := by decide +kernel
  have exact := (delivery_exact 0 finishedCalls _ rfl).2
    (by decide +kernel) 1 _ (Option.some_get live).symm
    (by revert live; decide +kernel)
  have ended : (yamuxRead (World.run 0 finishedCalls).mux 1 5).1 = .eof := by decide +kernel
  exact ⟨ended, ((exact.2 5 (by decide)).mp ended).2⟩

end EspFrp.Yamux

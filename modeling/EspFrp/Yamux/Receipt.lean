import EspFrp.Yamux.Legality

/-!
# What a transition does to the books

The ledger of a stream is the part of it that the peer accounts for as well:
the two credits and the acknowledgement.  The parser changes the ledger of a
live stream by the header it accepts and by nothing else, and a call changes
it by opening a stream, by accepting bytes, or by handing over a grant.
`Receipts` and `Booking` say so; the invariants of the books are derived from
them.
-/

namespace EspFrp.Yamux

open Library

/-! ## The checks on a live stream -/

/-- A header that passes the checks of `start_frame` on a live stream. -/
structure Stream.Accepts (stream : Stream) (kind : Kind) (header : Header) : Prop where
  ack : header.ack = true → stream.acknowledged = false
  acknowledged : stream.acknowledged = false → header.ack = true ∨ header.rst = true
  finished : stream.remoteFin = true → header.rst = false → kind ≠ .data ∧ header.fin = false
  data : kind = .data → header.value ≤ stream.receiveCredit
  window : kind = .window → header.value ≤ uint32Max - stream.sendCredit

variable {kind : Kind} {mux : Mux} {stream : Stream}

theorem Stream.refuses_eq_false_iff :
    stream.refuses kind header = false ↔ stream.Accepts kind header := by
  unfold Stream.refuses
  rw [decide_eq_false_iff_not]
  constructor
  · intro passes
    rcases not_or.mp passes with ⟨ack, passes⟩
    rcases not_or.mp passes with ⟨acknowledged, passes⟩
    rcases not_or.mp passes with ⟨finished, passes⟩
    rcases not_or.mp passes with ⟨data, window⟩
    refine ⟨?_, ?_, ?_, ?_, ?_⟩
    · intro acks
      exact Bool.eq_false_of_not_eq_true fun known => ack ⟨acks, known⟩
    · intro unknown
      by_contra neither
      exact acknowledged ⟨by rw [unknown]; exact Bool.false_ne_true, neither⟩
    · intro closed noReset
      have further : ¬(kind = .data ∨ header.fin = true) := fun more =>
        finished ⟨closed, by rw [noReset]; exact Bool.false_ne_true, more⟩
      rcases not_or.mp further with ⟨noData, noFin⟩
      exact ⟨noData, Bool.eq_false_of_not_eq_true noFin⟩
    · intro isData
      exact Nat.le_of_not_lt fun surplus => data ⟨isData, surplus⟩
    · intro isWindow
      exact Nat.le_of_not_lt fun surplus => window ⟨isWindow, surplus⟩
  · rintro accepts (⟨acks, known⟩ | ⟨unknown, neither⟩ |
      ⟨closed, noReset, further⟩ | ⟨isData, surplus⟩ | ⟨isWindow, surplus⟩)
    · exact absurd ((accepts.ack acks).symm.trans known) Bool.false_ne_true
    · exact neither (accepts.acknowledged (Bool.eq_false_of_not_eq_true unknown))
    · rcases accepts.finished closed (Bool.eq_false_of_not_eq_true noReset) with ⟨noData, noFin⟩
      rcases further with isData | isFin
      · exact noData isData
      · exact absurd (noFin.symm.trans isFin) Bool.false_ne_true
    · exact absurd (accepts.data isData) (Nat.not_le.mpr surplus)
    · exact absurd (accepts.window isWindow) (Nat.not_le.mpr surplus)

theorem Kind.code_inj : kind.code = other.code ↔ kind = other := by
  cases kind <;> cases other <;> decide

/-- What a stream frame announces for its own stream. -/
theorem StreamHeader.valueFor (wellFormed : StreamHeader kind header) (other : Kind) :
    header.valueFor other header.id =
      if kind = other then header.value else 0 := by
  unfold Header.valueFor
  rw [wellFormed.type]
  simp only [Kind.code_inj, and_true]

/-! ## The streams under an accepted header -/

/-- The part of a stream that the peer accounts for as well. -/
def Stream.ledger (stream : Stream) : Nat × Nat × Bool :=
  (stream.receiveCredit, stream.sendCredit, stream.acknowledged)

theorem Stream.ledger_eq_iff {other : Stream} : stream.ledger = other.ledger ↔
      stream.receiveCredit = other.receiveCredit ∧ stream.sendCredit = other.sendCredit ∧
        stream.acknowledged = other.acknowledged := by
  simp [Stream.ledger]

/-- What the accepted headers have done to one live stream. -/
inductive Receipt (id : Nat) (old stream : Stream) : List Header → Prop where
  | untouched {accepted : List Header} (apart : ∀ header ∈ accepted, header.id ≠ id)
      (same : stream.ledger = old.ledger) :
      Receipt id old stream accepted
  | received (kind : Kind) (header : Header) (named : header.id = id)
      (wellFormed : StreamHeader kind header)
      (accepted : old.refuses kind header = false)
      (noReset : header.rst = false)
      (same : stream.ledger = (old.receive kind header).ledger) :
      Receipt id old stream [header]

/-- What the accepted headers have done to every live stream. -/
def Receipts (mux next : Mux) (accepted : List Header) : Prop :=
  ∀ id stream, next.stream id = some stream → stream.reset = false →
    ∃ old, mux.stream id = some old ∧ old.reset = false ∧ Receipt id old stream accepted

namespace Receipts

theorem of_keeps (keeps : Keeps Stream.ledger mux next) (apart : ∀ header ∈ accepted, ∀ id stream,
      next.stream id = some stream → stream.reset = false → header.id ≠ id) :
    Receipts mux next accepted := by
  intro id stream found alive
  rcases keeps id stream found alive with ⟨old, foundOld, aliveOld, same⟩
  exact ⟨old, foundOld, aliveOld,
    .untouched (fun header member => apart header member id stream found alive) same⟩

theorem trans (receipts : Receipts mux middle accepted) (keeps : Keeps Stream.ledger middle next) :
    Receipts mux next accepted := by
  intro id stream found alive
  rcases keeps id stream found alive with ⟨between, foundBetween, aliveBetween, same⟩
  rcases receipts id between foundBetween aliveBetween with ⟨old, foundOld, aliveOld, receipt⟩
  refine ⟨old, foundOld, aliveOld, ?_⟩
  cases receipt with
  | untouched apart earlier => exact .untouched apart (same.trans earlier)
  | received kind header named wellFormed accepted noReset earlier =>
    exact .received kind header named wellFormed accepted noReset (same.trans earlier)

theorem since (receipts : Receipts middle next accepted) (same : middle.streams = mux.streams) :
    Receipts mux next accepted := by
  unfold Receipts at receipts ⊢
  rwa [Mux.stream_congr same] at receipts

theorem of_filled (receipts : Receipts (mux.fillHeader chunk) next accepted) :
    Receipts mux next accepted :=
  receipts.since (mux.fillHeader_streams chunk)

theorem of_applied (wellFormed : StreamHeader kind header)
    (application : Applied mux kind header next) : Receipts mux next [header] := by
  intro id stream found alive
  cases application with
  | ignored discarded =>
    refine ⟨stream, found, alive, .untouched ?_ rfl⟩
    intro other member same
    rw [List.mem_singleton.mp member] at same
    rw [same, discards_of_found found, alive] at discarded
    cases discarded
  | received old foundOld aliveOld accepted noReset =>
    rcases update_found (Mux.stream_setStream foundOld (old.receive kind header) rfl) found with
      ⟨rfl, ⟨⟩⟩ | ⟨here, found⟩
    · exact ⟨old, foundOld, aliveOld, .received kind header rfl wellFormed accepted noReset rfl⟩
    refine ⟨stream, found, alive, .untouched ?_ rfl⟩
    intro other member same
    rw [List.mem_singleton.mp member] at same
    exact here same.symm
  | aborted old foundOld =>
    rcases update_found (Mux.stream_resetState foundOld (old.receive kind header) rfl) found with
      ⟨rfl, ⟨⟩⟩ | ⟨here, found⟩
    · cases alive
    refine ⟨stream, found, alive, .untouched ?_ rfl⟩
    intro other member same
    rw [List.mem_singleton.mp member] at same
    exact here same.symm

/-- A header whose stream is gone afterwards has touched no live stream. -/
theorem of_excessive (application : Applied mux kind header next)
    (discarded : discards next header.id = true) : Keeps Stream.ledger mux next := by
  cases application with
  | ignored => exact Keeps.refl _ _
  | received old foundOld aliveOld =>
    have foundNow : (mux.setStream (old.receive kind header)).stream header.id =
          some (old.receive kind header) := by
      rw [Mux.stream_setStream foundOld (old.receive kind header) rfl, Function.update_self]
    rw [discards_of_found foundNow] at discarded
    exact absurd (aliveOld.symm.trans discarded) Bool.false_ne_true
  | aborted _ foundOld =>
    exact (Keeps.refl _ _).resetState foundOld _ rfl

theorem of_stalled (stalled : Stalled mux header outcome) : Receipts mux outcome.2 [] := by
  have unchanged := Keeps.refl Stream.ledger mux
  refine of_keeps ?_ nofun
  cases stalled with
  | rejected _ _ _ _ admission => exact unchanged.of_streams admission.streams
  | excessive _ _ _ _ admission application discarded =>
    exact ((of_excessive application discarded).of_streams rfl).since admission.streams
  | _ => exact unchanged.of_streams rfl

theorem of_enters (enters : Enters mux header next) : Receipts mux next [header] := by
  cases enters with
  | intro _ _ _ wellFormed admission application =>
    exact (of_applied wellFormed application).since admission.streams

end Receipts

/-- The parser changes the books of a live stream by its headers only. -/
theorem Acceptance.receipts
    (acceptance : Acceptance mux accepted next) : Receipts mux next accepted := by
  have unchanged := Keeps.refl Stream.ledger mux
  induction acceptance with
  | filled chunk => exact .of_keeps (unchanged.of_streams (mux.fillHeader_streams chunk)) nofun
  | stalled _ _ _ _ stalled => exact (Receipts.of_stalled stalled).of_filled
  | session _ _ _ _ session =>
    have keeps := (Keeps.refl Stream.ledger _).of_streams session.streams
    refine Receipts.of_filled (.of_keeps keeps ?_)
    intro other member id stream found _ same
    rw [List.mem_singleton.mp member, session.id] at same
    exact Mux.stream_ne_zero found same.symm
  | entered _ _ _ _ enters => exact (Receipts.of_enters enters).of_filled
  | taken chunk _ takes =>
    refine .of_keeps ?_ nofun
    cases takes with
    | discard => exact unchanged.of_streams rfl
    | store stream _ found =>
      exact (unchanged.setStream found { stream with ring := stream.ring.write chunk } rfl rfl
        rfl).of_streams rfl
  | blocked stream found =>
    exact .of_keeps (unchanged.setStream found
      { stream with blocked := true, blockedMs := mux.nowMs } rfl
      rfl rfl) nofun
  | failed => exact .of_keeps (unchanged.of_streams rfl) nofun
  | ended _ ih => exact ih.trans ((Keeps.refl _ _).endFrame fun _ _ => rfl)

/-! ## The streams under a call -/

/-- What a call does to the books and to the output slot. -/
inductive Booking (mux : Mux) : Label → Mux → Prop where
  | opened (free : Stream) (available : mux.nextId ≠ 0)
      (slot : Slots.lookup Stream.id 0 mux.streams = some free) :
      Booking mux .silent mux.opening
  | kept {label : Label} {next : Mux} (unwritten : ∀ id, label.writtenTo id = [])
      (output : next.output = mux.output)
      (grantFor : next.grantFor = mux.grantFor)
      (queue : ∀ header ∈ next.controls.contents, header ∈ mux.controls.contents ∨
          (header.id ≠ 0 → header.value = 0))
      (keeps : Keeps Stream.ledger mux next) :
      Booking mux label next
  | control (control : Header) (rest : List Header) (free : mux.output = [])
      (queued : mux.controls.contents = control :: rest) :
      Booking mux .silent
        { mux with
          output := control.encode
          controls := mux.controls.drop 1 }
  | grant (slot : Nat) (stream : Stream) (free : mux.output = [])
      (found : mux.stream stream.id = some stream)
      (alive : stream.reset = false)
      (wellFormed : Frame.WellFormed ⟨Header.make .window 0 stream.id stream.returnCredit, []⟩) :
      Booking mux .silent (mux.stageGrant slot stream)
  | data (id : Nat) (stream : Stream) (bytes : List UInt8) (free : mux.output = [])
      (found : mux.stream id = some stream)
      (alive : stream.reset = false)
      (wellFormed : Frame.WellFormed ⟨Header.make .data 0 id (mux.stageData stream bytes).1,
          bytes.take (mux.stageData stream bytes).1⟩) :
      Booking mux (.wrote id (bytes.take (mux.stageData stream bytes).1))
        (mux.stageData stream bytes).2
  | handed {label : Label} {next : Mux} (unwritten : ∀ id, label.writtenTo id = [])
      (busy : mux.output ≠ [])
      (output : next.output = [])
      (grantId : next.outputGrantId = 0)
      (controls : next.controls = mux.controls)
      (credit : ∀ id stream, next.stream id = some stream → stream.reset = false →
          ∃ old, mux.stream id = some old ∧ old.reset = false ∧ stream.ledger =
              { old with
                receiveCredit := old.receiveCredit + mux.grantFor id }.ledger) :
      Booking mux label next

theorem mem_contents_write {controls : Ring Header controlSlots}
    (member : other ∈ (controls.write [header]).contents)
    (value : header.id ≠ 0 → header.value = 0) :
    other ∈ controls.contents ∨ (other.id ≠ 0 → other.value = 0) := by
  rw [Ring.contents_write] at member
  rcases List.mem_append.mp member with old | new
  · exact Or.inl old
  rw [List.mem_singleton.mp (List.mem_of_mem_take new)]
  exact Or.inr value

theorem Mux.grantFor_congr {next : Mux} (grantId : next.outputGrantId = mux.outputGrantId)
    (grantBytes : next.outputGrantBytes = mux.outputGrantBytes) : next.grantFor = mux.grantFor := by
  funext id
  unfold Mux.grantFor
  rw [grantId, grantBytes]

theorem Mux.grantFor_idle (idle : mux.outputGrantId = 0) {id : Nat}
    (nonzero : id ≠ 0) : mux.grantFor id = 0 :=
  if_neg fun same => nonzero (same.symm.trans idle)

/-- A stream that is not live does not claim the grant of the slot. -/
theorem Mux.grantFor_unclaimed (unclaimed : discards mux mux.outputGrantId = true) {id : Nat}
    (found : mux.stream id = some stream) (alive : stream.reset = false) : mux.grantFor id = 0 := by
  refine if_neg ?_
  rintro rfl
  rw [discards_of_found found, alive] at unclaimed
  cases unclaimed

namespace Booking

theorem handOverLast (positive : 0 < count) (last : mux.outputOffset + count = mux.output.length)
    (unclaimed : discards mux mux.outputGrantId = true) :
    Booking mux (.handed (mux.nextOutput count)) (mux.handing count).clearOutput := by
  refine .handed (fun _ => rfl) ?_ rfl rfl rfl ?_
  · rintro free
    rw [free, List.length_nil] at last
    omega
  · intro id stream found alive
    have none := mux.grantFor_unclaimed unclaimed found alive
    refine ⟨stream, found, alive, ?_⟩
    rw [none]
    rfl

theorem handOverGrant (accounts : mux.Accounts) (positive : 0 < count)
    (last : mux.outputOffset + count = mux.output.length)
    (found : mux.stream mux.outputGrantId = some stream) (alive : stream.reset = false) :
    Booking mux (.handed (mux.nextOutput count)) ((mux.handing count).setStream
        { stream with
          receiveCredit := add32 stream.receiveCredit mux.outputGrantBytes }).clearOutput := by
  have sameId := Mux.stream_id found
  have streams := Mux.stream_setStream found
    { stream with
      receiveCredit := add32 stream.receiveCredit mux.outputGrantBytes } rfl
  have balanced := accounts.balanced _ stream found alive
  have grant : mux.grantFor stream.id = mux.outputGrantBytes := if_pos sameId.symm
  have exact32 : add32 stream.receiveCredit mux.outputGrantBytes =
      stream.receiveCredit + mux.outputGrantBytes := by
    refine add32_of_lt ?_
    unfold Mux.balance at balanced
    simp only [word32, initialWindow] at *
    omega
  refine .handed (fun _ => rfl) ?_ rfl rfl rfl ?_
  · rintro free
    rw [free, List.length_nil] at last
    omega
  · intro id other foundNow aliveNow
    rcases update_found streams foundNow with ⟨here, ⟨⟩⟩ | ⟨here, foundNow⟩
    · rw [here]
      refine ⟨stream, found, alive, ?_⟩
      have own : mux.grantFor mux.outputGrantId =
          mux.outputGrantBytes :=
        if_pos rfl
      rw [own, exact32]
    · have none : mux.grantFor id = 0 := if_neg (Ne.symm here)
      refine ⟨other, foundNow, aliveNow, ?_⟩
      rw [none]
      rfl

end Booking

/-- Every call is booked in one of these ways. -/
theorem Change.booking {next : Mux} (table : mux.Table) (accounts : mux.Accounts)
    (change : Change mux label next) (quiet : label.isFed = false) : Booking mux label next := by
  have unchanged := Keeps.refl Stream.ledger mux
  have same : ∀ header ∈ mux.controls.contents,
      header ∈ mux.controls.contents ∨ (header.id ≠ 0 → header.value = 0) :=
    fun _ member => Or.inl member
  cases change with
  | openStream free available slot => exact .opened free available slot
  | finish _ stream found =>
    exact .kept (fun _ => rfl) rfl rfl (fun _ member => mem_contents_write member fun _ => rfl)
      ((unchanged.setStream found { stream with localFin := true } rfl rfl rfl).of_streams rfl)
  | reset id stream found =>
    have queued := unchanged.of_streams rfl
    have keeps := queued.resetState found stream rfl
    rw [Mux.resetState_eq] at keeps ⊢
    exact .kept (fun _ => rfl) rfl rfl
      (fun _ member => mem_contents_write member fun _ => rfl) keeps
  | release _ _ found =>
    exact .kept (fun _ => rfl) rfl rfl same
      (unchanged.releasing table.distinct (Mux.stream_ne_zero found))
  | ping =>
    exact .kept (fun _ => rfl) rfl rfl (fun _ member => mem_contents_write member
        fun nonzero => absurd rfl nonzero)
      (unchanged.of_streams rfl)
  | goaway =>
    exact .kept (fun _ => rfl) rfl rfl (fun _ member => mem_contents_write member fun _ => rfl)
      (unchanged.of_streams rfl)
  | stageControl control rest free queued => exact .control control rest free queued
  | stageGrant slot stream free _ member due =>
    have conditions := Stream.grantDue_iff.mp due
    have found := table.stream_of_mem (List.mem_of_getElem? member) conditions.1
    exact .grant slot stream free found conditions.2.1
      (Produces.stream_wellFormed table found (by decide)
        (accounts.returnCredit_lt found conditions.2.1) (Or.inr rfl)
        rfl)
  | stageData id stream bytes found alive _ _ _ free =>
    exact .data id stream bytes free found alive (Produces.stream_wellFormed table found (by decide)
        (mux.stageData_lt stream bytes) (Or.inl rfl)
        (mux.stageData_length stream bytes))
  | handOverLast _ positive last unclaimed => exact .handOverLast positive last unclaimed
  | handOverGrant _ _ positive last found alive =>
    exact .handOverGrant accounts positive last found alive
  | overGrant _ _ found alive excessive =>
    exact absurd excessive (Nat.not_lt.mpr (accounts.grant_le found alive))
  | read _ capacity stream found =>
    exact .kept (fun _ => rfl) rfl rfl same
      (unchanged.setStream found (stream.reading capacity) rfl rfl rfl)
  | feed => cases quiet
  | _ => exact .kept (fun _ => rfl) rfl rfl same (unchanged.of_streams rfl)

end EspFrp.Yamux

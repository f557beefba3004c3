import EspFrp.Yamux.Receipt

/-!
# The books of the two directions

What the mux stores about a stream is compared with the frames that have
crossed the wire.  The receive credit of a live stream is the initial window
and the grants handed over, less the payload that the peer has announced; the
send credit is the initial window and the increments of the peer, less what
has been written; a stream is acknowledged when a header with ACK has been
accepted for it.  The PING requests in the log are those answered and the
pending one, and the last peer stream is the last one whose SYN has been
accepted.
-/

namespace EspFrp.Yamux

open Library

/-! ## The credit of the peer -/

/-- The grants on the wire and the receive credit of the live streams. -/
structure Granted (mux : Mux) (history : History) (accepted : List Header) : Prop where
  slot : ∀ id, id ≠ 0 → totalFor .window id (history.staged.map Frame.header) = mux.grantFor id
  queue : ∀ header ∈ mux.controls.contents, header.id ≠ 0 → header.value = 0
  credit : ∀ id stream, mux.stream id = some stream → stream.reset = false →
      stream.receiveCredit + totalFor .data id accepted =
        initialWindow + totalFor .window id (history.sent.map Frame.header)
  covered : ∀ id, id ≠ 0 → totalFor .window id (history.sent.map Frame.header) + mux.grantFor id ≤
      totalFor .data id accepted

namespace Granted

theorem init (now : Nat) : Granted (yamuxInit now) {} [] where
  slot := fun id nonzero => (Mux.grantFor_idle rfl nonzero).symm
  queue := by
    intro header member
    simp [yamuxInit] at member
  credit := fun _ _ found => (Mux.Table.empty found).elim
  covered := fun id nonzero => by
    rw [Mux.grantFor_idle rfl nonzero]
    exact Nat.le_refl 0

variable (granted : Granted mux history accepted)
include granted

/-- A new stream has the initial window. -/
theorem opening (table : mux.Table) (available : mux.nextId ≠ 0)
    (slot : Slots.lookup Stream.id 0 mux.streams = some free)
    (unsent : ∀ frame ∈ history.sent, frame.header.id ≠ mux.nextId)
    (unnamed : ∀ header ∈ accepted, header.id ≠ mux.nextId) :
    Granted mux.opening history accepted where
  slot := granted.slot
  queue := by
    intro header member
    rcases mem_contents_write member fun _ => rfl with old | zero
    · exact granted.queue header old
    · exact zero
  credit := by
    intro id stream found alive
    rcases update_found (Mux.stream_opening available slot table.fresh) found with
      ⟨here, ⟨⟩⟩ | ⟨here, found⟩
    · rw [here, totalFor_foreign unnamed, totalFor_foreign]
      · rfl
      · intro header member
        rcases List.mem_map.mp member with ⟨frame, inSent, rfl⟩
        exact unsent frame inSent
    · exact granted.credit id stream found alive
  covered := granted.covered

/-- A change of neither the output slot nor the credit. -/
theorem keep (grantFor : next.grantFor = mux.grantFor) (queue : ∀ header ∈ next.controls.contents,
      header ∈ mux.controls.contents ∨ (header.id ≠ 0 → header.value = 0))
    (keeps : Keeps Stream.ledger mux next) :
    Granted next history accepted where
  slot := by rw [grantFor]; exact granted.slot
  queue := by
    intro header member
    rcases queue header member with old | zero
    · exact granted.queue header old
    · exact zero
  credit := by
    intro id stream found alive
    rcases keeps id stream found alive with ⟨old, foundOld, aliveOld, same⟩
    rw [(Stream.ledger_eq_iff.mp same).1]
    exact granted.credit id old foundOld aliveOld
  covered := by rw [grantFor]; exact granted.covered

/-- A frame in the free output slot that grants nothing. -/
theorem stage (accounts : mux.Accounts) (free : mux.output = [])
    (grantFor : next.grantFor = mux.grantFor)
    (queue : ∀ header ∈ next.controls.contents, header ∈ mux.controls.contents)
    (nothing : ∀ id, id ≠ 0 → frame.header.valueFor .window id = 0)
    (credit : Keeps Stream.receiveCredit mux next) :
    Granted next { history with staged := [frame] } accepted where
  slot := by
    intro id nonzero
    rw [grantFor, Mux.grantFor_idle (accounts.idle free) nonzero]
    exact (totalFor_singleton _ _ _).trans (nothing id nonzero)
  queue := fun header member => granted.queue header (queue header member)
  credit := by
    intro id stream found alive
    rcases credit id stream found alive with ⟨old, foundOld, aliveOld, same⟩
    rw [same]
    exact granted.credit id old foundOld aliveOld
  covered := by rw [grantFor]; exact granted.covered

/-- Returned credit moves into the output slot. -/
theorem stageGrant (accounts : mux.Accounts) {slot : Nat}
    (found : mux.stream stream.id = some stream) (alive : stream.reset = false) :
    Granted (mux.stageGrant slot stream)
      { history with
        staged := [⟨Header.make .window 0 stream.id stream.returnCredit, []⟩] }
      accepted where
  slot := by
    intro id nonzero
    change totalFor .window id [Header.make .window 0 stream.id stream.returnCredit] =
        if stream.id = id then stream.returnCredit else 0
    simp [Header.valueFor, Header.make]
  queue := granted.queue
  credit := by
    intro id other foundNow aliveNow
    have keeps := (Keeps.refl Stream.receiveCredit mux).setStream found
      { stream with returnCredit := 0 } rfl rfl rfl
    rcases keeps id other foundNow aliveNow with ⟨old, foundOld, aliveOld, same⟩
    rw [same]
    exact granted.credit id old foundOld aliveOld
  covered := by
    intro id nonzero
    have covered := granted.covered id nonzero
    change totalFor .window id (history.sent.map Frame.header) +
      (if stream.id = id then stream.returnCredit else 0) ≤ _
    by_cases here : stream.id = id
    · rw [if_pos here]
      subst here
      have credit := granted.credit _ stream found alive
      have balanced := accounts.balanced _ stream found alive
      unfold Mux.balance at balanced
      omega
    · rw [if_neg here]
      omega

/-- The frame in the output slot has been handed over completely. -/
theorem handOver (grantId : next.outputGrantId = 0) (controls : next.controls = mux.controls)
    (credit : ∀ id stream, next.stream id = some stream → stream.reset = false →
        ∃ old, mux.stream id = some old ∧ old.reset = false ∧ stream.ledger =
            { old with
              receiveCredit := old.receiveCredit + mux.grantFor id }.ledger) :
    Granted next
      { history with
        sent := history.sent ++ history.staged
        staged := [] }
      accepted where
  slot := fun id nonzero => (Mux.grantFor_idle grantId nonzero).symm
  queue := by rw [controls]; exact granted.queue
  credit := by
    intro id stream found alive
    rcases credit id stream found alive with ⟨old, foundOld, aliveOld, same⟩
    have before := granted.credit id old foundOld aliveOld
    have slot := granted.slot id (Mux.stream_ne_zero foundOld)
    rw [List.map_append, totalFor_append, (Stream.ledger_eq_iff.mp same).1, slot]
    dsimp only
    omega
  covered := by
    intro id nonzero
    have covered := granted.covered id nonzero
    have slot := granted.slot id nonzero
    rw [Mux.grantFor_idle grantId nonzero, List.map_append, totalFor_append, slot]
    exact covered

theorem call (table : mux.Table) (accounts : mux.Accounts)
    (wired : Wired mux handed history.sent history.staged)
    (unsent : mux.nextId ≠ 0 → ∀ frame ∈ history.sent, frame.header.id ≠ mux.nextId)
    (unnamed : mux.nextId ≠ 0 → ∀ header ∈ accepted, header.id ≠ mux.nextId)
    (booking : Booking mux label next) : Granted next (history.called mux next) accepted := by
  have unchanged := Keeps.refl Stream.receiveCredit mux
  cases booking with
  | opened _ available slot =>
    have same : history.called mux mux.opening = history := wired.called_same rfl
    rw [same]
    exact granted.opening table available slot (unsent available) (unnamed available)
  | kept _ output grantFor queue keeps =>
    rw [wired.called_same output]
    exact granted.keep grantFor queue keeps
  | control control _ free queued =>
    have member : control ∈ mux.controls.contents := by
      rw [queued]
      exact List.mem_cons_self
    have framed : control.frame.WellFormed :=
      wired.wellFormed _ (List.mem_append_right _
        (List.mem_append_right _ (List.mem_map_of_mem member)))
    rw [Wired.called_stage free (List.append_nil _).symm framed]
    refine granted.stage accounts free rfl ?_ ?_ (unchanged.of_streams rfl)
    · intro header staged
      have dropped := staged
      rw [Ring.contents_drop] at dropped
      exact List.mem_of_mem_drop dropped
    · intro id nonzero
      unfold Header.valueFor
      split
      · next same => exact granted.queue control member (same.2 ▸ nonzero)
      · rfl
  | grant _ _ free found alive framed =>
    rw [Wired.called_stage free (List.append_nil _).symm framed]
    exact granted.stageGrant accounts found alive
  | data _ stream bytes free found _ framed =>
    have sameId := Mux.stream_id found
    rw [Wired.called_stage free (by rw [← sameId]; rfl) framed]
    refine granted.stage accounts free rfl (fun _ member => member) ?_ ((unchanged.setStream found
        { stream with
          sendCredit := sub32 stream.sendCredit (mux.stageData stream bytes).1 }
        rfl rfl rfl).of_streams rfl)
    intro other _
    exact if_neg fun same => by cases same.1
  | handed _ busy output grantId controls credit =>
    rw [Wired.called_clear busy output]
    exact granted.handOver grantId controls credit

/-- The parser announces payload and uses up credit. -/
theorem accept (accounts : mux.Accounts)
    (grantFor : next.grantFor = mux.grantFor)
    (queue : ∀ header ∈ next.controls.contents, header ∈ mux.controls.contents ∨
        (header.id ≠ 0 → header.value = 0)) (receipts : Receipts mux next more) (sent : history'.sent = history.sent)
    (staged : history'.staged = history.staged) :
    Granted next history' (accepted ++ more) where
  slot := by rw [grantFor, staged]; exact granted.slot
  queue := by
    intro header member
    rcases queue header member with old | zero
    · exact granted.queue header old
    · exact zero
  credit := by
    intro id stream found alive
    rcases receipts id stream found alive with ⟨old, foundOld, aliveOld, receipt⟩
    have before := granted.credit id old foundOld aliveOld
    rw [totalFor_append, sent]
    cases receipt with
    | untouched apart same =>
      rw [totalFor_foreign apart, (Stream.ledger_eq_iff.mp same).1]
      exact before
    | received kind header named wellFormed passes _ same =>
      have accepts := Stream.refuses_eq_false_iff.mp passes
      have window := accounts.receiveCredit_le foundOld aliveOld
      subst named
      rw [totalFor_singleton, wellFormed.valueFor, (Stream.ledger_eq_iff.mp same).1]
      change (if kind = .data then
        sub32 old.receiveCredit header.value
        else old.receiveCredit) + _ = _
      by_cases isData : kind = .data
      · have within := accepts.data isData
        rw [if_pos isData, if_pos isData, sub32_of_le within]
        · omega
        · simp only [word32, initialWindow] at *
          omega
      · rw [if_neg isData, if_neg isData]
        exact before
  covered := by
    intro id nonzero
    have covered := granted.covered id nonzero
    rw [grantFor, totalFor_append, sent]
    omega

end Granted

/-! ## The credit of the client -/

/-- The increments of the peer and the send side of the live streams. -/
structure Spent (mux : Mux) (written : Nat → List UInt8) (accepted : List Header) : Prop where
  credit : ∀ id stream, mux.stream id = some stream → stream.reset = false →
      stream.sendCredit + (written id).length = initialWindow + totalFor .window id accepted ∧
        stream.sendCredit < word32
  acknowledged : ∀ id stream, mux.stream id = some stream →
    stream.reset = false → stream.acknowledged = true →
      ∃ header ∈ accepted, header.id = id ∧ header.ack = true
  unacknowledged : ∀ id stream, mux.stream id = some stream →
    stream.reset = false → stream.acknowledged = false → ∀ header ∈ accepted, header.id ≠ id

namespace Spent

theorem init (now : Nat) : Spent (yamuxInit now) (fun _ => []) [] :=
  ⟨fun _ _ found => (Mux.Table.empty found).elim, fun _ _ found => (Mux.Table.empty found).elim,
    fun _ _ found => (Mux.Table.empty found).elim⟩

variable (spent : Spent mux written accepted)
include spent

/-- Nothing but the ledger of a live stream matters. -/
theorem keep (keeps : ∀ id stream, next.stream id = some stream → stream.reset = false →
        ∃ old, mux.stream id = some old ∧ old.reset = false ∧ stream.sendCredit = old.sendCredit ∧
          stream.acknowledged = old.acknowledged) :
    Spent next written accepted := by
  refine ⟨?_, ?_, ?_⟩
  all_goals
    intro id stream found alive
    rcases keeps id stream found alive with ⟨old, foundOld, aliveOld, sendCredit, acknowledged⟩
  · rw [sendCredit]
    exact spent.credit id old foundOld aliveOld
  · rw [acknowledged]
    exact spent.acknowledged id old foundOld aliveOld
  · rw [acknowledged]
    exact spent.unacknowledged id old foundOld aliveOld

theorem opening (table : mux.Table) (available : mux.nextId ≠ 0)
    (slot : Slots.lookup Stream.id 0 mux.streams = some free)
    (unwritten : written mux.nextId = []) (unnamed : ∀ header ∈ accepted, header.id ≠ mux.nextId) :
    Spent mux.opening written accepted := by
  have streams := Mux.stream_opening available slot table.fresh
  refine ⟨?_, ?_, ?_⟩
  all_goals
    intro id stream found alive
    rw [streams] at found
    by_cases here : id = mux.nextId
  · rw [here, Function.update_self] at found
    cases found
    rw [here, unwritten, totalFor_foreign unnamed]
    exact ⟨rfl, (by decide : initialWindow < word32)⟩
  · rw [Function.update_of_ne here] at found
    exact spent.credit id stream found alive
  · rw [here, Function.update_self] at found
    cases found
    exact nofun
  · rw [Function.update_of_ne here] at found
    exact spent.acknowledged id stream found alive
  · rw [here]
    exact fun _ => unnamed
  · rw [Function.update_of_ne here] at found
    exact spent.unacknowledged id stream found alive

/-- Accepted bytes use up send credit. -/
theorem write {id : Nat}
    (found : mux.stream id = some stream) (alive : stream.reset = false)
    (within : bytes.length ≤ stream.sendCredit) (streams : next.stream =
      Function.update mux.stream id (some
          { stream with
            sendCredit := sub32 stream.sendCredit bytes.length })) :
    Spent next (fun other => written other ++ (Label.wrote id bytes).writtenTo other)
      accepted := by
  rcases spent.credit id stream found alive with ⟨balance, range⟩
  refine ⟨?_, ?_, ?_⟩
  all_goals
    intro other stream' foundNow aliveNow
    rw [streams] at foundNow
    by_cases here : other = id
  · subst here
    rw [Function.update_self] at foundNow
    cases foundNow
    rw [sub32_of_le within range, List.length_append]
    simp only [Label.writtenTo, if_true]
    omega
  · rw [Function.update_of_ne here] at foundNow
    simp only [Label.writtenTo, if_neg (Ne.symm here), List.append_nil]
    exact spent.credit other stream' foundNow aliveNow
  · subst here
    rw [Function.update_self] at foundNow
    cases foundNow
    exact spent.acknowledged other stream found alive
  · rw [Function.update_of_ne here] at foundNow
    exact spent.acknowledged other stream' foundNow aliveNow
  · subst here
    rw [Function.update_self] at foundNow
    cases foundNow
    exact spent.unacknowledged other stream found alive
  · rw [Function.update_of_ne here] at foundNow
    exact spent.unacknowledged other stream' foundNow aliveNow

theorem call (table : mux.Table) (unwritten : mux.nextId ≠ 0 → written mux.nextId = [])
    (unnamed : mux.nextId ≠ 0 → ∀ header ∈ accepted, header.id ≠ mux.nextId)
    (booking : Booking mux label next) :
    Spent next (fun id => written id ++ label.writtenTo id) accepted := by
  have silent (quiet : ∀ id, label.writtenTo id = []) :
      (fun id => written id ++ label.writtenTo id) = written := by
    funext id
    rw [quiet id, List.append_nil]
  have unchanged := Keeps.refl Stream.ledger mux
  have ledger (keeps : Keeps Stream.ledger mux next) :
      Spent next written accepted := by
    refine spent.keep ?_
    intro id stream found alive
    rcases keeps id stream found alive with ⟨old, foundOld, aliveOld, same⟩
    exact ⟨old, foundOld, aliveOld, (Stream.ledger_eq_iff.mp same).2⟩
  cases booking with
  | opened _ available slot =>
    rw [silent fun _ => rfl]
    exact spent.opening table available slot (unwritten available) (unnamed available)
  | kept quiet _ _ _ keeps =>
    rw [silent quiet]
    exact ledger keeps
  | control =>
    rw [silent fun _ => rfl]
    exact ledger (unchanged.of_streams rfl)
  | grant _ stream _ found =>
    rw [silent fun _ => rfl]
    exact ledger ((unchanged.setStream found
      { stream with returnCredit := 0 } rfl rfl rfl).of_streams rfl)
  | data _ stream bytes _ found alive =>
    have count := mux.stageData_length stream bytes
    refine spent.write found alive ?_ ?_
    · rw [count]
      exact mux.stageData_le_sendCredit stream bytes
    · rw [count]
      exact Mux.stream_setStream found
        { stream with
          sendCredit := sub32 stream.sendCredit (mux.stageData stream bytes).1 } rfl
  | handed quiet _ _ _ _ credit =>
    rw [silent quiet]
    refine spent.keep ?_
    intro id stream found alive
    rcases credit id stream found alive with ⟨old, foundOld, aliveOld, same⟩
    exact ⟨old, foundOld, aliveOld, (Stream.ledger_eq_iff.mp same).2⟩

/-- The parser adds the increments and the acknowledgement. -/
theorem accept (receipts : Receipts mux next more) : Spent next written (accepted ++ more) := by
  refine ⟨?_, ?_, ?_⟩
  all_goals
    intro id stream found alive
    rcases receipts id stream found alive with ⟨old, foundOld, aliveOld, receipt⟩
  · rcases spent.credit id old foundOld aliveOld with ⟨balance, range⟩
    rw [totalFor_append]
    cases receipt with
    | untouched apart same =>
      rw [totalFor_foreign apart, (Stream.ledger_eq_iff.mp same).2.1]
      exact ⟨balance, range⟩
    | received kind header named wellFormed passes _ same =>
      have accepts := Stream.refuses_eq_false_iff.mp passes
      subst named
      rw [totalFor_singleton, wellFormed.valueFor, (Stream.ledger_eq_iff.mp same).2.1]
      change (if kind = .data then old.sendCredit
          else add32 old.sendCredit header.value) + _ = _ ∧
        (if kind = .data then old.sendCredit
          else add32 old.sendCredit header.value) < word32
      rcases wellFormed.stream with rfl | rfl
      · exact ⟨balance, range⟩
      have within := accepts.window rfl
      have sum : add32 old.sendCredit header.value = old.sendCredit + header.value := by
        refine add32_of_lt ?_
        simp only [word32, uint32Max] at *
        omega
      rw [if_neg Kind.noConfusion, if_pos rfl, sum]
      simp only [word32, uint32Max] at *
      omega
  · intro known
    cases receipt with
    | untouched _ same =>
      rw [(Stream.ledger_eq_iff.mp same).2.2] at known
      rcases spent.acknowledged id old foundOld aliveOld known with ⟨header, member, facts⟩
      exact ⟨header, List.mem_append_left _ member, facts⟩
    | received _ header named _ _ _ same =>
      rw [(Stream.ledger_eq_iff.mp same).2.2] at known
      have either := Bool.or_eq_true_iff.mp known
      rcases either with before | now
      · rcases spent.acknowledged id old foundOld aliveOld before with ⟨earlier, member, facts⟩
        exact ⟨earlier, List.mem_append_left _ member, facts⟩
      · exact ⟨header, List.mem_append_right _ (List.mem_singleton_self _), named, now⟩
  · intro unknown
    cases receipt with
    | untouched apart same =>
      rw [(Stream.ledger_eq_iff.mp same).2.2] at unknown
      intro header member
      rcases List.mem_append.mp member with old' | new
      · exact spent.unacknowledged id old foundOld aliveOld unknown header old'
      · exact apart header new
    | received _ header _ _ passes noReset same =>
      have accepts := Stream.refuses_eq_false_iff.mp passes
      rw [(Stream.ledger_eq_iff.mp same).2.2] at unknown
      have neither := Bool.or_eq_false_iff.mp unknown
      rcases accepts.acknowledged neither.1 with acks | resets
      · rw [neither.2] at acks
        cases acks
      rw [noReset] at resets
      cases resets

end Spent

/-! ## The session -/

/-- The grant, the discarded payload and the pending PING are as before. -/
structure Undisturbed (mux next : Mux) : Prop where
  grantId : next.outputGrantId = mux.outputGrantId
  grantBytes : next.outputGrantBytes = mux.outputGrantBytes
  discardedBytes : next.discardedBytes = mux.discardedBytes
  pingPending : next.pingPending = mux.pingPending
  pingId : next.pingId = mux.pingId

namespace Undisturbed

theorem refl (mux : Mux) : Undisturbed mux mux := ⟨rfl, rfl, rfl, rfl, rfl⟩

theorem resetState (same : Undisturbed base mux) (stream : Stream) :
    Undisturbed base (mux.resetState stream) := by
  rw [Mux.resetState_eq]
  exact ⟨same.grantId, same.grantBytes, same.discardedBytes, same.pingPending, same.pingId⟩

theorem fillHeader (same : Undisturbed base mux) (chunk : List UInt8) :
    Undisturbed base (mux.fillHeader chunk) := by
  unfold Mux.fillHeader
  dsimp only
  split
  · exact same
  · exact ⟨same.grantId, same.grantBytes, same.discardedBytes, same.pingPending, same.pingId⟩

theorem endFrame (same : Undisturbed base mux) : Undisturbed base (endFrame mux) := by
  rcases endFrame_cases mux with ⟨_, ended⟩ | ⟨stream, _, _, _, ended⟩ <;>
  · rw [ended]
    exact ⟨same.grantId, same.grantBytes, same.discardedBytes, same.pingPending, same.pingId⟩

theorem admitted (same : Undisturbed base mux)
    (admission : Admitted mux header next) : Undisturbed base next := by
  cases admission <;>
    exact ⟨same.grantId, same.grantBytes, same.discardedBytes, same.pingPending, same.pingId⟩

theorem applied (same : Undisturbed base mux)
    (application : Applied mux kind header next) : Undisturbed base next := by
  cases application with
  | ignored => exact same
  | received =>
    exact ⟨same.grantId, same.grantBytes, same.discardedBytes, same.pingPending, same.pingId⟩
  | aborted => exact same.resetState _

theorem stalled (same : Undisturbed base mux)
    (stalled : Stalled mux header outcome) : Undisturbed base outcome.2 := by
  cases stalled with
  | rejected _ admitted _ _ admission =>
    have after := same.admitted admission
    exact ⟨after.grantId, after.grantBytes, after.discardedBytes, after.pingPending, after.pingId⟩
  | excessive _ admitted applied _ admission application =>
    have after := (same.admitted admission).applied application
    exact ⟨after.grantId, after.grantBytes, after.discardedBytes, after.pingPending, after.pingId⟩
  | _ => exact ⟨same.grantId, same.grantBytes, same.discardedBytes, same.pingPending, same.pingId⟩

theorem enters (same : Undisturbed base mux)
    (enters : Enters mux header next) : Undisturbed base next := by
  cases enters with
  | intro _ admitted applied _ admission application =>
    have after := (same.admitted admission).applied application
    exact ⟨after.grantId, after.grantBytes, after.discardedBytes, after.pingPending, after.pingId⟩

theorem pendingPings (same : Undisturbed mux next) (value : Nat) :
    next.pendingPings value = mux.pendingPings value := by
  unfold Mux.pendingPings
  rw [same.pingPending, same.pingId]

end Undisturbed

namespace Acceptance

variable (acceptance : Acceptance mux accepted next)
include acceptance

theorem grantFor : next.grantFor = mux.grantFor := by
  have unchanged := Undisturbed.refl mux
  have of_same {next : Mux} (same : Undisturbed mux next) : next.grantFor = mux.grantFor :=
    Mux.grantFor_congr same.grantId same.grantBytes
  induction acceptance with
  | filled chunk => exact of_same (unchanged.fillHeader chunk)
  | stalled chunk _ _ _ stalled => exact of_same ((unchanged.fillHeader chunk).stalled stalled)
  | session chunk _ _ _ session =>
    have same := unchanged.fillHeader chunk
    cases session <;>
      exact Mux.grantFor_congr same.grantId same.grantBytes
  | entered chunk _ _ _ enters => exact of_same ((unchanged.fillHeader chunk).enters enters)
  | taken _ _ takes => cases takes <;> rfl
  | blocked | failed => rfl
  | @ended _ next _ ih =>
    have same := (Undisturbed.refl next).endFrame
    exact (Mux.grantFor_congr same.grantId same.grantBytes).trans ih

/-- The payload dropped so far stays within its limit. -/
theorem discardedBytes_le (bounded : mux.discardedBytes ≤ discardLimit) :
    next.discardedBytes ≤ discardLimit := by
  have unchanged := Undisturbed.refl mux
  induction acceptance with
  | filled chunk =>
    rw [(unchanged.fillHeader chunk).discardedBytes]
    exact bounded
  | stalled chunk _ _ _ stalled =>
    rw [((unchanged.fillHeader chunk).stalled stalled).discardedBytes]
    exact bounded
  | session chunk _ _ _ session =>
    have same := (unchanged.fillHeader chunk).discardedBytes
    cases session <;> exact same.trans_le bounded
  | entered chunk _ _ _ enters =>
    rw [((unchanged.fillHeader chunk).enters enters).discardedBytes]
    exact bounded
  | taken chunk _ takes =>
    cases takes with
    | discard _ _ room =>
      rw [sub32_of_le bounded (by decide)] at room
      change add32 mux.discardedBytes chunk.length ≤ discardLimit
      rw [add32_of_lt]
      · omega
      · have small : discardLimit < word32 := by decide
        omega
    | store => exact bounded
  | blocked | failed => exact bounded
  | ended _ ih =>
    rw [(Undisturbed.refl _).endFrame.discardedBytes]
    exact ih

/-- A reply to a PING settles the pending one. -/
theorem pings (value : Nat) :
    countPings ackFlag value accepted + next.pendingPings value = mux.pendingPings value := by
  have unchanged := Undisturbed.refl mux
  have of_same {next : Mux} (same : Undisturbed mux next) :
      countPings ackFlag value [] + next.pendingPings value =
        mux.pendingPings value := (Nat.zero_add _).trans (same.pendingPings value)
  induction acceptance with
  | filled chunk => exact of_same (unchanged.fillHeader chunk)
  | stalled chunk _ _ _ stalled => exact of_same ((unchanged.fillHeader chunk).stalled stalled)
  | session chunk header _ _ session =>
    have same := (unchanged.fillHeader chunk).pendingPings value
    rw [countPings_singleton]
    cases session with
    | pinged _ _ request =>
      have other : header.flags ≠ ackFlag := by
        rw [request]
        decide
      rw [if_neg fun both => other both.2.1, Nat.zero_add]
      exact same
    | ponged type _ reply pending expected =>
      rw [← same]
      unfold Mux.pendingPings
      simp [type, reply, pending, expected]
    | departed type =>
      have other : header.type ≠ Kind.ping.code := by
        rw [type]
        decide
      rw [if_neg fun both => other both.1, Nat.zero_add]
      exact same
  | entered chunk header _ _ enters =>
    have other : header.type ≠ Kind.ping.code := by
      cases enters with
      | intro _ _ _ wellFormed =>
        rw [wellFormed.type]
        rcases wellFormed.stream with rfl | rfl <;> decide
    rw [countPings_singleton, if_neg fun both => other both.1, Nat.zero_add]
    exact ((unchanged.fillHeader chunk).enters enters).pendingPings value
  | taken _ _ takes => cases takes <;> exact Nat.zero_add _
  | blocked | failed => exact Nat.zero_add _
  | ended _ ih =>
    rw [(Undisturbed.refl _).endFrame.pendingPings]
    exact ih

/-- The last peer stream changes to the one that a header opens. -/
theorem peerLastId (ready : next.failure = .ok) : next.peerLastId = mux.peerLastId ∨
      ∃ header ∈ accepted, header.syn = true ∧ header.id = next.peerLastId := by
  have filled (chunk : List UInt8) := ((SameOutput.refl mux).fillHeader chunk).peerLastId
  induction acceptance with
  | filled chunk => exact Or.inl (filled chunk)
  | stalled chunk _ _ _ stalled =>
    cases stalled with
    | postponed => exact Or.inl (filled chunk)
    | violated | closed | rejected | excessive => cases ready
  | session chunk _ _ _ session => cases session <;> exact Or.inl (filled chunk)
  | entered chunk header _ _ enters =>
    cases enters with
    | intro _ admitted applied _ admission application =>
      have same := (SameOutput.refl admitted).applied application
      cases admission with
      | peerOpened opening =>
        exact Or.inr ⟨header, List.mem_singleton_self _, opening, same.peerLastId.symm⟩
      | known => exact Or.inl (same.peerLastId.trans (filled chunk))
  | taken _ _ takes => cases takes <;> exact Or.inl rfl
  | blocked => exact Or.inl rfl
  | failed _ fatal => exact absurd ready fatal
  | ended _ ih =>
    rw [(SameOutput.refl _).endFrame.peerLastId]
    rw [endFrame_failure] at ready
    exact ih ready

end Acceptance

/-- The PING requests and the peer streams of a run. -/
structure Tally (mux : Mux) (log : List Frame) (accepted : List Header) : Prop where
  pings : ∀ value, countPings synFlag value (log.map Frame.header) =
      countPings ackFlag value accepted + mux.pendingPings value
  last : mux.failure = .ok → mux.peerLastId = 0 ∨
    ∃ header ∈ accepted, header.syn = true ∧ header.id = mux.peerLastId
  latest : ∀ header ∈ accepted, header.id ≠ 0 → header.syn = true → header.id ≤ mux.peerLastId
  discarded : mux.discardedBytes ≤ discardLimit

namespace Tally

theorem init (now : Nat) : Tally (yamuxInit now) [] [] :=
  ⟨fun _ => rfl, fun _ => Or.inl rfl, nofun, Nat.zero_le _⟩

theorem call (tally : Tally mux log accepted) (ready : mux.failure = .ok)
    (same : SameInput mux next) (produces : Produces mux label next new) :
    Tally next (log ++ new) accepted where
  pings := by
    intro value
    have before := tally.pings value
    have added := produces.pings value
    rw [List.map_append, countPings_append, before]
    omega
  last := by
    rw [same.peerLastId]
    exact fun _ => tally.last ready
  latest := by
    rw [same.peerLastId]
    exact tally.latest
  discarded := by
    rw [same.discardedBytes]
    exact tally.discarded

theorem accept (tally : Tally mux log accepted) (ready : mux.failure = .ok)
    (acceptance : Acceptance mux more next) (answers : Answers mux next more new) :
    Tally next (log ++ new) (accepted ++ more) where
  pings := by
    intro value
    have before := tally.pings value
    have settled := acceptance.pings value
    have silent : countPings synFlag value (new.map Frame.header) = 0 := by cases answers <;> rfl
    rw [List.map_append, countPings_append, countPings_append, before, silent]
    omega
  last := by
    intro nextReady
    rcases acceptance.peerLastId nextReady with
      same | ⟨header, member, opening, last⟩
    · rw [same]
      refine (tally.last ready).imp_right ?_
      rintro ⟨header, member, facts⟩
      exact ⟨header, List.mem_append_left _ member, facts⟩
    · exact Or.inr ⟨header, List.mem_append_right _ member, opening, last⟩
  latest := by
    intro header member nonzero opening
    rcases List.mem_append.mp member with old | added
    · have before := tally.latest header old nonzero opening
      cases answers with
      | nothing same => rw [same.peerLastId]; exact before
      | reply _ _ _ _ _ _ _ peerLastId =>
        rw [peerLastId]
        exact before
      | refuse => omega
    · cases answers with
      | nothing _ plain =>
        rw [plain header added nonzero] at opening
        cases opening
      | reply _ id =>
        rw [List.mem_singleton.mp added] at nonzero
        exact absurd id nonzero
      | refuse _ _ _ _ _ named _ _ _ _ peerLastId => rw [named header added, peerLastId]
  discarded := acceptance.discardedBytes_le tally.discarded

end Tally

/-! ## Every run -/

/-- All books of a run. -/
structure Books (world : World) (history : History) : Prop where
  granted : Granted world.mux history (history.accepted world.mux)
  spent : Spent world.mux world.written (history.accepted world.mux)
  tally : Tally world.mux (history.log world.mux) (history.accepted world.mux)

/-- The next id occurs in no frame. -/
theorem Traced.fresh (traced : Traced world history) (available : world.mux.nextId ≠ 0) :
    (∀ frame ∈ history.sent, frame.header.id ≠ world.mux.nextId) ∧
      (∀ header ∈ history.accepted world.mux, header.id ≠ world.mux.nextId) ∧
      world.written world.mux.nextId = [] := by
  have odd := (traced.reachable.table.next available).1
  have unopened : ¬Opened world.mux.nextId world.mux.nextId := by
    intro opened
    have past := opened.past
    omega
  have client := traced.legal.client.unopened _ odd unopened
  have delivered := traced.delivered.unopened _ odd unopened
  refine ⟨?_, ?_, client.2⟩
  · intro frame member same
    have inLog : frame ∈ framesFor world.mux.nextId (history.log world.mux) :=
      List.mem_filter.mpr ⟨List.mem_append_left _ member, decide_eq_true same⟩
    rw [client.1] at inLog
    cases inLog
  · intro header member
    rcases List.mem_map.mp member with ⟨frame, inFrames, rfl⟩
    exact delivered.2 frame inFrames

theorem Books.call (books : Books world history) (traced : Traced world history)
    (ready : world.mux.failure = .ok)
    (change : Change world.mux label next) (quiet : label.isFed = false) :
    Books (world.record label next) (history.called world.mux next) := by
  have table := traced.reachable.table
  have accounts := traced.reachable.accounts
  have wired := traced.legal.wired
  have same := change.sameInput quiet
  have booking := change.booking table accounts quiet
  rcases change.produces quiet table accounts with ⟨new, produces⟩
  have log := (wired.emission produces.emission produces.wellFormed).2
  have written := funext (world.record_written label next)
  refine ⟨?_, ?_, ?_⟩
  · rw [World.record_mux, history.called_accepted same]
    exact books.granted.call table accounts wired (fun available => (traced.fresh available).1)
      (fun available => (traced.fresh available).2.1) booking
  · rw [World.record_mux, history.called_accepted same, written]
    exact books.spent.call table (fun available => (traced.fresh available).2.2)
      (fun available => (traced.fresh available).2.1) booking
  · rw [World.record_mux, history.called_accepted same, log]
    exact books.tally.call ready same produces

/-- The parser queues nothing that grants credit. -/
theorem Answers.queue (answers : Answers mux next accepted new) :
    ∀ header ∈ next.controls.contents,
      header ∈ mux.controls.contents ∨ (header.id ≠ 0 → header.value = 0) := by
  intro header member
  cases answers with
  | nothing same =>
    rw [same.controls] at member
    exact Or.inl member
  | reply _ _ _ _ _ _ controls =>
    rw [controls] at member
    exact mem_contents_write member fun nonzero => absurd rfl nonzero
  | refuse _ _ _ _ _ _ _ _ _ controls =>
    rw [controls] at member
    exact mem_contents_write member fun _ => rfl

theorem Books.feed (books : Books world history) (traced : Traced world history)
    (ready : world.mux.failure = .ok)
    (parse : Parse world.mux history.done history.body chunk next done body) :
    Books (world.record (.fed chunk) next) { history with done := done, body := body } := by
  rcases parse.acceptance traced.parsed with ⟨more, acceptance, accepted⟩
  rcases acceptance.answers with ⟨new, answers⟩
  rcases answers.sound with ⟨emission, wellFormed, _⟩
  have wired := traced.legal.wired
  have log := (wired.emission emission wellFormed).2
  rw [wired.called_same answers.output] at log
  have log' : History.log { history with done := done, body := body } next =
        history.log world.mux ++ new := log
  have accepted' : History.accepted { history with done := done, body := body }
          next =
        history.accepted world.mux ++ more := accepted
  have receipts := acceptance.receipts
  refine ⟨?_, ?_, ?_⟩
  · rw [World.record_mux, accepted']
    exact books.granted.accept traced.reachable.accounts
      acceptance.grantFor answers.queue receipts rfl rfl
  · rw [World.record_mux, accepted']
    exact books.spent.accept receipts
  · rw [World.record_mux, accepted', log']
    exact books.tally.accept ready acceptance answers

/-- The books are in order in every run. -/
theorem Traced.books (traced : Traced world history) : Books world history := by
  induction traced with
  | init now =>
    refine ⟨.init now, .init now, ?_⟩
    rw [Legal.log_init]
    exact .init now
  | call earlier ready change quiet ih => exact ih.call earlier ready change quiet
  | feed earlier ready parse _ ih => exact ih.feed earlier ready parse

end EspFrp.Yamux

import EspFrp.Aead.ReaderRun

/-!
# Lease discipline

The calls that the reader makes to its store, whatever the store and the
library answer.  A lease is requested only while none is held; writes and
reads use the held lease and stay inside the ciphertext it was requested for;
and a lease is cleared at most once.  A lease that outlives its record blocks
the reader until it is closed.
-/

namespace EspFrp.Aead

open Library

variable {State : Type} {platform : Platform State}

/-! ## Discipline of a sequence of calls -/

/-- A lease that is held, and the length of the ciphertext it is for. -/
structure Holding where
  lease : Nat
  length : Nat
deriving DecidableEq, Repr

namespace StoreCall

/-- The call is allowed to a holder of this lease. -/
def permitted : StoreCall → Option Holding → Prop
  | .begin .., none => True
  | .write lease offset length _, some holding =>
    lease = holding.lease ∧ offset + length ≤ holding.length
  | .read lease offset length _, some holding =>
    lease = holding.lease ∧ offset + length ≤ holding.length
  | .clear lease _, some holding => lease = holding.lease
  | _, _ => False

/-- The call obtains a lease. -/
def obtains : StoreCall → Bool
  | .begin _ result lease => decide (result = .ok ∧ lease ≠ 0)
  | _ => false

/-- The call clears a lease. -/
def clears : StoreCall → Bool
  | .clear _ result => decide (result = .ok)
  | _ => false

/-- What is held after the call. -/
def holdingAfter (holding : Option Holding) : StoreCall → Option Holding
  | .begin length result lease =>
    if result = .ok ∧ lease ≠ 0 then some ⟨lease, length⟩ else holding
  | .clear _ result => if result = .ok then none else holding
  | _ => holding

end StoreCall

/-- What is held after a sequence of calls. -/
def holdingAfter (calls : List StoreCall) : Option Holding :=
  calls.foldl StoreCall.holdingAfter none

/-- Every call is allowed by what the calls before it have obtained. -/
def Disciplined (calls : List StoreCall) : Prop :=
  ∀ before call after, calls = before ++ call :: after → call.permitted (holdingAfter before)

theorem holdingAfter_snoc (calls : List StoreCall) (call : StoreCall) :
    holdingAfter (calls ++ [call]) = call.holdingAfter (holdingAfter calls) := by
  rw [holdingAfter, List.foldl_append]
  rfl

theorem Disciplined.snoc (disciplined : Disciplined calls)
    (permitted : call.permitted (holdingAfter calls)) : Disciplined (calls ++ [call]) := by
  intro before other after split
  rcases List.eq_nil_or_concat after with rfl | ⟨after', last, rfl⟩
  · obtain ⟨rfl, isLast⟩ := List.append_inj' split rfl
    cases isLast
    exact permitted
  rw [List.concat_eq_append, ← List.cons_append, ← List.append_assoc] at split
  obtain ⟨isInit, _⟩ := List.append_inj' split rfl
  exact disciplined before other after' isInit

theorem Disciplined.init (disciplined : Disciplined (calls ++ [call])) : Disciplined calls := by
  rintro before other after rfl
  refine disciplined before other (after ++ [call]) ?_
  rw [List.append_assoc, List.cons_append]

theorem Disciplined.last (disciplined : Disciplined (calls ++ [call])) :
    call.permitted (holdingAfter calls) := disciplined calls call [] rfl

/-- Every lease but a held one has been cleared exactly once. -/
theorem Disciplined.count {calls : List StoreCall} (disciplined : Disciplined calls) :
    calls.countP StoreCall.obtains =
      calls.countP StoreCall.clears + (holdingAfter calls).toList.length := by
  induction calls using List.reverseRecOn with
  | nil => rfl
  | append_singleton calls call ih =>
    have before := ih disciplined.init
    have permitted := disciplined.last
    rw [List.countP_append, List.countP_append, holdingAfter_snoc,
      List.countP_singleton, List.countP_singleton, before]
    generalize holdingAfter calls = holding at permitted ⊢
    cases holding with
    | none =>
      cases call with
      | begin _ result lease =>
        by_cases obtained : result = .ok ∧ lease ≠ 0 <;>
          simp [StoreCall.obtains, StoreCall.clears, StoreCall.holdingAfter, obtained]
      | write | read | clear => exact permitted.elim
    | some =>
      cases call with
      | begin => exact permitted.elim
      | write | read => simp [StoreCall.obtains, StoreCall.clears, StoreCall.holdingAfter]
      | clear _ result =>
        by_cases cleared : result = .ok <;>
          simp [StoreCall.obtains, StoreCall.clears, StoreCall.holdingAfter, cleared]

/-! ## What the reader believes about its lease -/

namespace Endpoint

/-- The reader knows what it holds, and has kept the discipline. -/
structure Leasing (endpoint : Endpoint State) : Prop where
  disciplined : Disciplined endpoint.history.calls
  holding : holdingAfter endpoint.history.calls =
    if endpoint.reader.leased then
      some ⟨endpoint.reader.lease, endpoint.reader.plainLength⟩
    else
      none

namespace Leasing

variable {endpoint next : Endpoint State}

variable (leasing : Leasing endpoint)
include leasing

/-- Leases and calls are all that counts. -/
theorem of_eq (calls : next.history.calls = endpoint.history.calls)
    (leased : next.reader.leased = endpoint.reader.leased)
    (lease : endpoint.reader.leased = true → next.reader.lease = endpoint.reader.lease ∧
        next.reader.plainLength = endpoint.reader.plainLength) :
    Leasing next where
  disciplined := by
    rw [calls]
    exact leasing.disciplined
  holding := by
    rw [calls, leasing.holding, leased]
    split
    · rename_i held
      rw [(lease held).1, (lease held).2]
    · rfl

/-- A write or a read of the record under its lease. -/
theorem access (held : endpoint.reader.leased = true)
    (inside : offset + length ≤ endpoint.reader.plainLength) (result : Result)
    (state : State) (isAccess :
      call = .write endpoint.reader.lease offset length result ∨
        call = .read endpoint.reader.lease offset length result) :
    Leasing (endpoint.called call state) := by
  have holding := leasing.holding
  rw [if_pos held] at holding
  have permitted : call.permitted (holdingAfter endpoint.history.calls) := by
    rw [holding]
    rcases isAccess with rfl | rfl <;> exact ⟨rfl, inside⟩
  refine ⟨leasing.disciplined.snoc permitted, ?_⟩
  change holdingAfter (endpoint.history.calls ++ [call]) = _
  rw [holdingAfter_snoc]
  rcases isAccess with rfl | rfl <;> exact leasing.holding

theorem release (releasing : Releasing platform endpoint (result, next)) :
    Leasing next ∧ (result = .ok → next.reader.leased = false) := by
  cases releasing with
  | unleased free => exact ⟨leasing, fun _ => free⟩
  | cleared held called =>
    have holding := leasing.holding
    rw [if_pos held] at holding
    refine ⟨⟨leasing.disciplined.snoc ?_, ?_⟩, fun _ => rfl⟩
    · rw [holding]
      rfl
    · simp only [update, Endpoint.called]
      rw [holdingAfter_snoc]
      rfl
  | kept held called failed =>
    have holding := leasing.holding
    rw [if_pos held] at holding
    refine ⟨⟨leasing.disciplined.snoc ?_, ?_⟩, ?_⟩
    · rw [holding]
      rfl
    · simp only [Endpoint.called]
      rw [holdingAfter_snoc, StoreCall.holdingAfter, if_neg failed]
      exact leasing.holding
    · intro success
      cases success

/-- A failed reader either holds no lease or reports a storage error. -/
theorem fail (error : Result) : Leasing (endpoint.fail platform error).2 ∧
      ((endpoint.fail platform error).2.reader.leased = true →
        (endpoint.fail platform error).1 = .storageError) := by
  obtain ⟨_, _, releasing, failEq⟩ := fail_eq platform endpoint error
  have wiped : Leasing (endpoint.update Reader.wiped) := leasing.of_eq rfl rfl (fun _ => ⟨rfl, rfl⟩)
  obtain ⟨nextLeasing, unleased⟩ := wiped.release releasing
  rw [failEq]
  refine ⟨nextLeasing.of_eq rfl rfl (fun _ => ⟨rfl, rfl⟩), ?_⟩
  intro held
  split
  · rename_i succeeded
    rw [update] at held
    rw [unleased succeeded] at held
    cases held
  · rfl

/-- An answered `begin`. -/
theorem begin (free : endpoint.reader.leased = false) (result : Result)
    (lease : Nat) (state : State) :
    ((result ≠ .ok ∨ lease = 0) → Leasing (endpoint.began result lease state)) ∧
    (result = .ok → lease ≠ 0 → Leasing ((endpoint.began result lease state).update fun reader =>
        { reader with leased := true })) := by
  have holding := leasing.holding
  rw [if_neg (by simp [free])] at holding
  have permitted : (StoreCall.begin endpoint.reader.plainLength result
        lease).permitted (holdingAfter endpoint.history.calls) := by
    rw [holding]
    trivial
  have disciplined := leasing.disciplined.snoc permitted
  refine ⟨fun unleased => ⟨disciplined, ?_⟩, fun succeeded fresh => ⟨disciplined, ?_⟩⟩
  · simp only [began, update, Endpoint.called]
    rw [holdingAfter_snoc, StoreCall.holdingAfter, if_neg (by tauto), holding]
    exact (if_neg (by simp [free])).symm
  · simp only [began, update, Endpoint.called]
    rw [holdingAfter_snoc, StoreCall.holdingAfter, if_pos ⟨succeeded, fresh⟩]
    rfl

/-- A pass over the record reads inside its ciphertext. -/
theorem verify (held : endpoint.reader.leased = true)
    (verified : endpoint.verify platform offset length expected = (result, ciphertext, next)) :
    Leasing next := by
  have keeps : (services platform).Keeps
        (storedRecord endpoint.reader offset length expected).plainLength
        (fun context => Leasing context ∧ Rereading endpoint context) :=
    { library := fun call holds =>
        ⟨holds.1.of_eq rfl rfl (fun _ => ⟨rfl, rfl⟩),
          (services_keeps_rereading platform endpoint 0).library call holds.2⟩
      read := by
        rintro context start count ⟨isLeasing, same⟩ positive inside
        refine ⟨?_, (services_keeps_rereading platform endpoint _).read same positive inside⟩
        have contextEq := same.reader
        have stillHeld : context.reader.leased = true := by
          rw [contextEq]
          exact held
        have stillInside : start + count ≤ context.reader.plainLength := by
          rw [contextEq]
          exact inside
        have accessed := fun result state =>
          isLeasing.access stillHeld stillInside result state (.inr rfl)
        change Leasing (readStore platform context start count).2.2
        unfold readStore
        dsimp only
        split
        · exact (accessed _ _).of_eq rfl rfl (fun _ => ⟨rfl, rfl⟩)
        · exact accessed _ _ }
  have passed : Leasing (cryptoGcmDecryptStore (services platform)
        (storedRecord endpoint.reader offset length expected)
        endpoint.reader.window endpoint).context :=
    (keeps.cryptoGcmDecryptStore ⟨leasing, Rereading.refl endpoint⟩ _).1
  have nextEq :
      next = (endpoint.verify platform offset length expected).2.2 := by
    rw [verified]
  rw [nextEq]
  unfold Endpoint.verify
  dsimp only
  split <;> exact passed.of_eq rfl rfl (fun _ => ⟨rfl, rfl⟩)

/-- Decryption in the window does not touch the store. -/
theorem decryptWindow : Leasing (endpoint.decryptWindow platform).2.2 := by
  have keeps : (services platform).Keeps 0 Leasing :=
    { library := fun _ holds => holds.of_eq rfl rfl (fun _ => ⟨rfl, rfl⟩)
      read := by
        intro context start count _ positive inside
        omega }
  exact (keeps.cryptoGcmDecryptChunks leasing _ _ _ _ _).of_eq rfl rfl (fun _ => ⟨rfl, rfl⟩)

theorem check (memory : endpoint.reader.leased = !endpoint.reader.inMemory) :
    Leasing (endpoint.check platform).2.2 := by
  unfold Endpoint.check
  split
  · exact leasing.decryptWindow
  rename_i inStore
  rw [Bool.not_eq_true] at inStore
  exact leasing.verify (by rw [memory, inStore]; rfl) rfl

/-- Keeping a piece of the body. -/
theorem store (memory : endpoint.reader.leased = !endpoint.reader.inMemory)
    (piece : Piece endpoint.reader bytes)
    (storing : Storing platform endpoint bytes (.ok, next)) : Leasing next := by
  cases storing with
  | window early inMemory | tag late => exact leasing.of_eq rfl rfl (fun _ => ⟨rfl, rfl⟩)
  | written early inStore =>
    exact (leasing.access (by rw [memory, inStore]; rfl)
      (piece early) _ endpoint.state (.inl rfl)).of_eq rfl rfl (fun _ => ⟨rfl, rfl⟩)
  | unwritten _ _ _ _ fails => exact absurd fails (ok_ne_fail (by decide))

/-- The end of a record that is used up. -/
theorem finishRecord : Leasing (endpoint.finishRecord platform).2 := by
  rcases finishRecord_cases platform endpoint with
    ⟨released, releasing, finishEq⟩ | ⟨result, released, releasing, _, finishEq⟩
  · obtain ⟨isLeasing, unleased⟩ := leasing.release releasing
    rw [finishEq]
    have free := unleased rfl
    exact isLeasing.of_eq rfl rfl (fun held => by rw [free] at held; cases held)
  · rw [finishEq]
    exact ((leasing.release releasing).1.fail _).1

/-- The check of a body that has just become complete. -/
theorem checked (framed : Framed endpoint.reader)
    (afterHeader : 4 ≤ endpoint.reader.headerUsed)
    (piece : Piece endpoint.reader bytes)
    (storing : Storing platform endpoint bytes (.ok, stored)) (isChecked :
      (stored.update (·.addBody bytes.length)).check platform =
        (result, verified, next)) : Leasing next := by
  have memory := (framed.memory (Nat.le_antisymm framed.header_le afterHeader)).2
  obtain ⟨⟨_, _, storedEq⟩, _⟩ := storing.ok_frame
  have storedLeasing : Leasing (stored.update (·.addBody bytes.length)) :=
    (leasing.store memory piece storing).of_eq rfl rfl (fun _ => ⟨rfl, rfl⟩)
  have storedMemory : (stored.update (·.addBody bytes.length)).reader.leased =
        !(stored.update (·.addBody bytes.length)).reader.inMemory := by
    simp only [update, Reader.addBody, storedEq]
    exact memory
  have checkedLeasing : Leasing (Endpoint.check platform
        (stored.update (·.addBody bytes.length))).2.2 := storedLeasing.check storedMemory
  rwa [isChecked] at checkedLeasing

/-- A record without a lease is announced. -/
theorem announced (free : endpoint.reader.leased = false) (bytes : List UInt8) :
    Leasing ((endpoint.update (·.addHeader bytes)).announced
      (endpoint.update (·.addHeader bytes)).announcedSize) :=
  leasing.of_eq rfl rfl (fun held => by rw [free] at held; cases held)

/-- A record has been accepted. -/
theorem accepted (nonce : Block UInt8 12) (verified : List UInt8) :
    Leasing ((endpoint.advanced nonce).accepted verified) :=
  leasing.of_eq rfl rfl (fun _ => ⟨rfl, rfl⟩)

theorem step (framed : Framed endpoint.reader)
    (feedStep : FeedStep platform endpoint bytes next) : Leasing next := by
  cases feedStep with
  | nonce | nonceComplete | header => exact leasing.of_eq rfl rfl (fun _ => ⟨rfl, rfl⟩)
  | announced _ incomplete _ announcing =>
    obtain ⟨_, free, _⟩ := framed.idle incomplete
    have announcedLeasing := leasing.announced free bytes
    cases announcing with
    | oversized _ fails | exhausted _ _ fails | refused _ _ _ fails =>
      exact absurd fails (ok_ne_fail (by decide))
    | memory => exact announcedLeasing
    | leased _ _ _ _ fresh => exact (announcedLeasing.begin free _ _ _).2 rfl fresh
  | body afterHeader piece _ storing =>
    have memory := (framed.memory (Nat.le_antisymm framed.header_le afterHeader)).2
    exact (leasing.store memory piece storing).of_eq rfl rfl (fun _ => ⟨rfl, rfl⟩)
  | completed afterHeader piece _ storing completing =>
    cases completing with
    | rejected _ failed fails => exact absurd fails (ok_ne_fail failed)
    | wrapped _ _ fails => exact absurd fails (ok_ne_fail (by decide))
    | ready isChecked =>
      exact (leasing.checked framed afterHeader piece storing
        isChecked).of_eq rfl rfl (fun _ => ⟨rfl, rfl⟩)
    | empty isChecked _ _ finishes =>
      have checkedLeasing := leasing.checked framed afterHeader piece storing isChecked
      have nextEq : next = _ := congrArg Prod.snd finishes
      rw [nextEq]
      exact (checkedLeasing.accepted _ _).finishRecord

theorem cause (framed : Framed endpoint.reader)
    (isCause : Cause platform endpoint next error) : Leasing next := by
  cases isCause with
  | oversized | exhausted => exact leasing.of_eq rfl rfl (fun _ => ⟨rfl, rfl⟩)
  | refused incomplete _ _ unleased =>
    obtain ⟨_, free, _⟩ := framed.idle incomplete
    exact ((leasing.announced free _).begin free _ _ _).1 unleased
  | unwritten afterHeader piece early inStore =>
    have memory := (framed.memory (Nat.le_antisymm framed.header_le afterHeader)).2
    exact leasing.access (by rw [memory, inStore]; rfl) (piece early) _ _ (.inl rfl)
  | rejected afterHeader piece _ storing isChecked =>
    exact leasing.checked framed afterHeader piece storing isChecked
  | wrapped afterHeader piece _ storing isChecked =>
    exact (leasing.checked framed afterHeader piece storing
      isChecked).of_eq rfl rfl (fun _ => ⟨rfl, rfl⟩)
  | unreleased afterHeader piece _ storing isChecked _ releasing =>
    have checkedLeasing := leasing.checked framed afterHeader piece storing isChecked
    exact ((checkedLeasing.accepted _ _).release releasing).1

/-- The lease over a whole call of the feed loop. -/
theorem feeding
    (framed : Framed endpoint.reader) (isFeeding : Feeding platform endpoint rest outcome) :
    Leasing outcome.2.2 ∧ (outcome.2.2.reader.leased = true → outcome.2.2.reader.failure = .ok ∨
          outcome.2.2.reader.failure = .storageError) := by
  induction isFeeding with
  | done | blocked => exact ⟨leasing, fun _ => .inl framed.running⟩
  | step notReady step _ ih => exact ih (leasing.step framed step) (step.framed framed notReady)
  | failed _ failure =>
    obtain ⟨_, error, _, isCause, failEq⟩ := failure.cause
    have causeLeasing := leasing.cause framed isCause
    rw [congrArg Prod.snd failEq]
    exact ⟨(causeLeasing.fail error).1, fun held => .inr ((causeLeasing.fail error).2 held)⟩

end Leasing

/-! ## Every call keeps the discipline -/

theorem consumed_lease (reader : Reader) (length : Nat) :
    (reader.consumed length).leased = reader.leased ∧
      (reader.consumed length).lease = reader.lease ∧
      (reader.consumed length).plainLength = reader.plainLength := by
  unfold Reader.consumed
  split <;> exact ⟨rfl, rfl, rfl⟩

theorem consumed_state (reader : Reader) (length : Nat) :
    (reader.consumed length).active = reader.active ∧
      (reader.consumed length).failure = reader.failure ∧
      (reader.consumed length).nonceUsed = reader.nonceUsed := by
  unfold Reader.consumed
  split <;> exact ⟨rfl, rfl, rfl⟩

/--
The discipline is kept, and a lease is held only by a running reader or by
one that reports a storage error.
-/
structure LeaseKept (endpoint : Endpoint State) : Prop where
  leasing : Leasing endpoint
  standing : Standing endpoint.reader
  reported : endpoint.reader.leased = true →
    endpoint.reader.failure = .ok ∨ endpoint.reader.failure = .storageError

namespace LeaseKept

variable {endpoint : Endpoint State}

theorem framed (kept : LeaseKept endpoint) (running : endpoint.reader.readyState = .ok) :
    Framed endpoint.reader := by
  cases kept.standing with
  | running framed => exact framed
  | failed failed =>
    rw [failed.readyState] at running
    exact absurd running failed.failure
  | closed closed =>
    rw [closed.readyState] at running
    cases running

theorem of_fail (leasing : Leasing before) (active : before.reader.active = true)
    (isError : error ≠ .ok) : LeaseKept (before.fail platform error).2 where
  leasing := (leasing.fail error).1
  standing := .failed (fail_failed platform active isError)
  reported := fun held => .inr ((leasing.fail error).2 held)

variable (kept : LeaseKept endpoint)
include kept

theorem feed (bytes : List UInt8) : LeaseKept (endpoint.feed platform bytes).2.2 := by
  unfold Endpoint.feed
  split
  · exact kept
  rename_i running
  rw [not_not] at running
  have framed := kept.framed running
  have feeding := feedLoop_cases platform bytes framed
  obtain ⟨leasing, reported⟩ := kept.leasing.feeding framed feeding
  exact
    { leasing := leasing
      standing := by
        rcases feeding.standing framed with next | next
        · exact .running next
        · exact .failed next.1
      reported := reported }

theorem plaintext : LeaseKept (endpoint.plaintext platform).2.2 := by
  have handing := plaintext_cases platform endpoint
  generalize endpoint.plaintext platform = outcome at handing ⊢
  cases handing with
  | refused | blocked | shown => exact kept
  | rejected running isReady inStore _ verified failed fails =>
    have framed := kept.framed running
    have held := (framed.memory (framed.full isReady).1).2
    rw [inStore] at held
    have leasing := kept.leasing.verify held verified
    obtain ⟨rereads, _⟩ := verify_cases (Nat.min_le_right _ _) verified
    rw [congrArg (·.2.2) fails]
    refine of_fail leasing ?_ failed
    rw [rereads.reader]
    exact framed.active
  | verified running isReady inStore _ verified =>
    have framed := kept.framed running
    have held := (framed.memory (framed.full isReady).1).2
    rw [inStore] at held
    have leasing := kept.leasing.verify held verified
    have nextFramed := filled_framed framed isReady verified
    exact
      { leasing := leasing.of_eq rfl rfl (fun _ => ⟨rfl, rfl⟩)
        standing := .running nextFramed
        reported := fun _ => .inl nextFramed.running }

theorem consumePlaintext (length : Nat) :
    LeaseKept (endpoint.consumePlaintext platform length).2 := by
  have consuming := consumePlaintext_cases platform endpoint length
  generalize endpoint.consumePlaintext platform length = outcome at consuming ⊢
  have consumedLeasing : Leasing (endpoint.update (·.consumed length)) :=
    kept.leasing.of_eq rfl (consumed_lease _ _).1 (fun _ => (consumed_lease _ _).2)
  cases consuming with
  | refused | illegal => exact kept
  | consumed running isReady positive within more =>
    have nextFramed := consumed_framed (kept.framed running) isReady positive within more
    exact
      { leasing := consumedLeasing
        standing := .running nextFramed
        reported := fun _ => .inl nextFramed.running }
  | finished running _ _ _ _ finishes =>
    have framed := kept.framed running
    obtain ⟨active, failure, nonceUsed⟩ := consumed_state endpoint.reader length
    rcases finishRecord_cases platform (endpoint.update (·.consumed length)) with
      ⟨released, releasing, finishEq⟩ | ⟨result, released, releasing, _, finishEq⟩
    · have nextFramed := finished_framed (active.trans framed.active) (failure.trans framed.running)
        (nonceUsed.le.trans framed.nonce_le) releasing
      rw [finishes, finishEq]
      have leasing : Leasing (Endpoint.finishRecord platform
            (endpoint.update (·.consumed length))).2 := consumedLeasing.finishRecord
      rw [finishEq] at leasing
      exact
        { leasing := leasing
          standing := .running nextFramed
          reported := fun _ => .inl nextFramed.running }
    · obtain ⟨⟨_, _, releasedEq⟩, _⟩ := releasing.exists_reader
      rw [finishes, finishEq]
      refine of_fail (consumedLeasing.release releasing).1 ?_ (by decide)
      rw [releasedEq]
      exact active.trans framed.active

theorem close : LeaseKept (endpoint.close platform).2 ∧ ((endpoint.close platform).1 = .ok →
        (endpoint.close platform).2.reader.leased = false) ∧
      ((endpoint.close platform).1 ≠ .ok → (endpoint.close platform).1 = .storageError ∧
          (endpoint.close platform).2.reader.leased = true ∧
          (endpoint.close platform).2.reader.failure = .storageError) := by
  have unkeyed : Leasing endpoint.unkeyed := kept.leasing.of_eq rfl rfl (fun _ => ⟨rfl, rfl⟩)
  have closing := close_cases platform endpoint
  generalize endpoint.close platform = outcome at closing ⊢
  cases closing with
  | inactive isClosed =>
    refine ⟨kept, fun _ => ?_, fun failed => absurd rfl failed⟩
    cases kept.standing with
    | running framed =>
      rw [framed.active] at isClosed
      cases isClosed
    | failed failed =>
      rw [failed.active] at isClosed
      cases isClosed
    | closed closed => exact closed.leased
  | closed _ releasing =>
    obtain ⟨leasing, unleased⟩ := unkeyed.release releasing
    obtain ⟨⟨_, _, nextEq⟩, _⟩ := releasing.exists_reader
    have free := unleased rfl
    refine ⟨⟨leasing.of_eq rfl free.symm ?_, .closed ?_, ?_⟩,
      fun _ => rfl, fun failed => absurd rfl failed⟩
    · intro held
      rw [free] at held
      cases held
    · refine ⟨rfl, rfl, rfl, ?_⟩
      simp only [update, nextEq]
      rfl
    · intro held
      cases held
  | kept active releasing failed =>
    obtain ⟨leasing, _⟩ := unkeyed.release releasing
    cases releasing with
    | unleased | cleared => exact absurd rfl failed
    | kept held =>
      refine ⟨⟨leasing.of_eq rfl rfl (fun _ => ⟨rfl, rfl⟩),
        .failed ⟨active, by simp [update], rfl, rfl⟩,
        fun _ => .inr rfl⟩, ?_, fun _ => ⟨rfl, held, rfl⟩⟩
      intro success
      cases success

end LeaseKept

end Endpoint

variable {session : Session State}

theorem Session.LeaseKept.call (kept : session.endpoint.LeaseKept)
    (call : ReaderCall) : (session.call platform call).2.endpoint.LeaseKept := by
  cases call with
  | feed bytes => exact kept.feed bytes
  | plaintext => exact kept.plaintext
  | consume length => exact kept.consumePlaintext length
  | finish => exact kept
  | close => exact kept.close.1

theorem Session.leaseKept (platform : Platform State)
    (key : Block UInt8 32) (state : State) (calls : List ReaderCall) :
    ((Session.start key state).run platform calls).endpoint.LeaseKept := by
  refine Session.run_invariant (fun session => session.endpoint.LeaseKept)
    (fun _ call kept => LeaseKept.call kept call) ?_ calls
  exact
    { leasing :=
        ⟨fun _ _ _ split => (List.cons_ne_nil _ _
          (List.append_eq_nil_iff.mp split.symm).2).elim, rfl⟩
      standing := .running (.between rfl rfl (Nat.zero_le _) rfl rfl rfl rfl ⟨rfl, rfl, rfl, rfl⟩)
      reported := nofun }

/-- A reader that has failed answers every call but a close with that. -/
theorem Session.call_of_failed (failed : session.endpoint.reader.readyState ≠ .ok)
    {call : ReaderCall} (notClose : call ≠ .close) :
    session.call platform call = (session.endpoint.reader.readyState, session) := by
  cases call with
  | feed => simp [Session.call, Endpoint.feed, failed]
  | plaintext => simp [Session.call, Endpoint.plaintext, failed]
  | consume => simp [Session.call, Endpoint.consumePlaintext, failed]
  | finish => simp [Session.call, Endpoint.finish, failed]
  | close => exact absurd rfl notClose

/--
The lease discipline of the reader, for every store and library and every
sequence of calls.  The calls to the store keep the discipline; every lease
has been cleared exactly once unless it is held; a held lease belongs to the
record that the reader is working on, or the reader has failed with a storage
error, and then answers every call with it until a close succeeds; and a
close succeeds only if no lease is held.
-/
theorem lease_discipline (platform : Platform State)
    (key : Block UInt8 32) (state : State) (calls : List ReaderCall) :
    let session := (Session.start key state).run platform calls
    let reader := session.endpoint.reader
    let storeCalls := session.endpoint.history.calls
    let closed := session.call platform .close
    Disciplined storeCalls ∧ holdingAfter storeCalls =
        (if reader.leased then some ⟨reader.lease, reader.plainLength⟩
        else none) ∧
      storeCalls.countP StoreCall.obtains =
        storeCalls.countP StoreCall.clears + (if reader.leased then 1 else 0) ∧
      (reader.leased = true → (reader.failure = .ok ∧ reader.headerUsed = 4) ∨
          (reader.failure = .storageError ∧ ∀ call ≠ .close,
              session.call platform call = (.storageError, session))) ∧
      (closed.1 = .ok → closed.2.endpoint.reader.leased = false ∧
          holdingAfter closed.2.endpoint.history.calls = none) ∧
      (closed.1 ≠ .ok → closed.1 = .storageError ∧ closed.2.endpoint.reader.leased = true ∧
          closed.2.endpoint.reader.failure = .storageError) := by
  intro session reader storeCalls closed
  have kept := Session.leaseKept platform key state calls
  obtain ⟨closedKept, closedOk, closedFailed⟩ := @Endpoint.LeaseKept.close _ platform _ kept
  refine ⟨kept.leasing.disciplined, kept.leasing.holding, ?_, ?_, ?_, closedFailed⟩
  · rw [kept.leasing.disciplined.count, kept.leasing.holding]
    congr 1
    split <;> rfl
  · intro held
    cases kept.standing with
    | running framed =>
      refine .inl ⟨framed.running, ?_⟩
      by_contra early
      have headerLe : reader.headerUsed ≤ 4 := framed.header_le
      obtain ⟨_, free, _⟩ := framed.idle (show reader.headerUsed < 4 by omega)
      rw [held] at free
      cases free
    | failed failed =>
      have reported := (kept.reported held).resolve_left failed.failure
      have stopped := failed.readyState.trans reported
      refine .inr ⟨reported, fun call notClose => ?_⟩
      rw [Session.call_of_failed (by rw [stopped]; decide) notClose, stopped]
    | closed isClosed =>
      rw [isClosed.leased] at held
      cases held
  · intro succeeded
    have free := closedOk succeeded
    exact ⟨free, closedKept.leasing.holding.trans (if_neg (by simp [free]))⟩

end EspFrp.Aead

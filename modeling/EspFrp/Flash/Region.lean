import EspFrp.Flash.Provider

/-!
# What the region holds at each step of a call

The invariant of the scratch store has two parts.  `Kept` is about the
leases and holds at every instruction of every call; `Sound` is about the
bytes of the region and is suspended while the call that holds the guard
erases or programs them.  `Working` says what holds in place of `Sound` at
each phase, and none of it reads the quarantine flag, which other tasks may
set at any time.
-/

namespace EspFrp.Flash

/-- The lease that a call has issued. -/
def Return.issued? (done : Return) : Option Nat :=
  match done.call with
  | .begin _ =>
    if done.answer.result = .ok then some done.answer.lease else none
  | _ => none

/-- The leases that have been issued. -/
def issued (returns : List Return) : List Nat := returns.filterMap Return.issued?

/-- The byte has been written at the address under the lease. -/
def Written (returns : List Return) (lease address : Nat) (byte : UInt8) : Prop :=
  ∃ done ∈ returns, ∃ offset bytes given, done.call = .write lease offset bytes given ∧
      done.answer.result = .ok ∧ offset ≤ address ∧ bytes[address - offset]? = some byte

/-- The byte is erased or has been written under the lease. -/
def Owned (returns : List Return) (lease address : Nat) (byte : UInt8) : Prop :=
  byte = 255 ∨ Written returns lease address byte

/-- What a read returns is owned by its lease. -/
def Disclosed (returns : List Return) (lease offset length : Nat) (bytes : List UInt8) : Prop :=
  bytes.length = length ∧ ∀ index byte, bytes[index]? = some byte →
      Owned returns lease (offset + index) byte

/-- Every read that has succeeded was owned by its lease when it did. -/
def Isolated (returns : List Return) : Prop :=
  ∀ before done after, returns = before ++ done :: after → ∀ lease offset length given,
      done.call = .read lease offset length given → done.answer.result = .ok →
          Disclosed before lease offset length done.answer.bytes

/-- What the leases satisfy at every instruction. -/
structure Kept (provider : Provider) (returns : List Return) : Prop where
  idle : provider.state = .idle → provider.activeLease = 0
  leased : provider.state = .leased →
      provider.activeLease = provider.nextLease ∧ provider.activeLease ≠ 0
  bounded : provider.nextLease ≤ leaseMax
  issued_le : ∀ lease ∈ issued returns, 0 < lease ∧ lease ≤ provider.nextLease
  issued_nodup : (issued returns).Nodup
  isolated : Isolated returns

/-- What the region satisfies between two calls. -/
def Sound (provider : Provider) (returns : List Return) : Prop :=
  provider.state = .leased → (issued returns).getLast? = some provider.activeLease ∧
      ∀ address < storeBytes, Owned returns provider.activeLease address (provider.flash address)

/-- The region up to `offset` is erased. -/
def Erased (provider : Provider) (offset : Nat) : Prop :=
  ∀ address < offset, provider.flash address = 255

/-- `begin` or `recover` erases the region. -/
structure Scrubbing (provider : Provider) (returns : List Return) (call : Call) (issue : Bool)
    (offset : Nat) : Prop where
  kept : Kept provider returns
  call_eq : call = if issue then .begin true else .recover
  state_eq : provider.state = if issue then .idle else .unrecovered
  inactive : provider.activeLease = 0
  next_lt : issue = true → provider.nextLease < leaseMax
  erased : Erased provider offset

/-- A lease that no call has returned yet, on an erased region. -/
structure Fresh (provider : Provider) (returns : List Return) : Prop where
  state_eq : provider.state = .leased
  erased : Erased provider storeBytes
  issued_lt : ∀ lease ∈ issued returns, lease < provider.nextLease

/-- A write has stored `done` bytes of its range so far. -/
structure Rewriting (provider : Provider) (returns : List Return) (lease offset : Nat)
    (bytes : List UInt8)
    (done : Nat) : Prop where
  state_eq : provider.state = .leased
  lease_eq : lease = provider.activeLease
  last : (issued returns).getLast? = some provider.activeLease
  around : ∀ address < storeBytes, (address < offset ∨ offset + bytes.length ≤ address) →
        Owned returns provider.activeLease address (provider.flash address)
  stored : ∀ index < done, bytes[index]? = some (provider.flash (offset + index))

/-- What a call that is about to return has achieved. -/
inductive Outcome (provider : Provider) (returns : List Return) : Call → Answer → Prop where
  | failed {call answer} (failure : answer.result ≠ .ok) (sound : Sound provider returns) :
      Outcome provider returns call answer
  | recovered {answer} (success : answer.result = .ok) (sound : Sound provider returns) :
      Outcome provider returns .recover answer
  | cleared {lease answer} (success : answer.result = .ok) (sound : Sound provider returns) :
      Outcome provider returns (.clear lease) answer
  | issued {given answer} (success : answer.result = .ok) (fresh : Fresh provider returns)
      (lease_eq : answer.lease = provider.nextLease) :
      Outcome provider returns (.begin given) answer
  | written {lease offset bytes given answer} (success : answer.result = .ok)
      (rewriting : Rewriting provider returns lease offset bytes bytes.length) :
      Outcome provider returns (.write lease offset bytes given) answer
  | fetched {lease offset length given answer} (success : answer.result = .ok)
      (sound : Sound provider returns)
      (disclosed : Disclosed returns lease offset length answer.bytes) :
      Outcome provider returns (.read lease offset length given) answer

/-- What holds while a call holds the guard. -/
inductive Working (provider : Provider) (returns : List Return) : Call → Phase → Prop where
  | entered {call} (kept : Kept provider returns) (sound : Sound provider returns) :
      Working provider returns call (.entered call)
  | polling {call issue offset touched} (scrubbing : Scrubbing provider returns call issue offset) :
      Working provider returns call (.polling issue offset touched)
  | erasing {call issue offset touched} (scrubbing : Scrubbing provider returns call issue offset) :
      Working provider returns call (.erasing issue offset touched)
  | issuing {given} (kept : Kept provider returns) (fresh : Fresh provider returns) :
      Working provider returns (.begin given) .issuing
  | programming {lease offset bytes given} (kept : Kept provider returns)
      (sound : Sound provider returns)
      (state_eq : provider.state = .leased)
      (lease_eq : lease = provider.activeLease) :
      Working provider returns (.write lease offset bytes given) (.programming offset bytes)
  | verifying {lease offset bytes given done} (kept : Kept provider returns)
      (rewriting : Rewriting provider returns lease offset bytes done) :
      Working provider returns (.write lease offset bytes given) (.verifying offset bytes done)
  | fetching {lease offset length given} (kept : Kept provider returns)
      (sound : Sound provider returns)
      (valid : validRange offset length = true)
      (state_eq : provider.state = .leased)
      (lease_eq : lease = provider.activeLease) :
      Working provider returns (.read lease offset length given) (.fetching offset length)
  | revoking {lease} (kept : Kept provider returns) (sound : Sound provider returns) :
      Working provider returns (.clear lease) .revoking
  | leaving {call answer} (kept : Kept provider returns)
      (outcome : Outcome provider returns call answer) :
      Working provider returns call (.leaving answer)
  | releasing {call answer} (kept : Kept provider returns)
      (outcome : Outcome provider returns call answer) :
      Working provider returns call (.releasing answer)

/-! ## The region is only trusted while it is leased -/

section

variable {provider : Provider} {returns : List Return}

theorem Sound.of_state (unleased : provider.state ≠ .leased) : Sound provider returns :=
  fun leased => (unleased leased).elim

variable {flash : Nat → UInt8}

theorem Kept.of_state {state : StoreState} {lease : Nat} {flag : Bool}
    (kept : Kept provider returns) (unleased : state ≠ .leased)
    (inactive : state = .idle → lease = 0) :
    Kept ⟨state, lease, provider.nextLease, flag, flash⟩ returns :=
  ⟨inactive, fun leased => (unleased leased).elim, kept.bounded,
    kept.issued_le, kept.issued_nodup, kept.isolated⟩

theorem Kept.quarantine (kept : Kept provider returns) : Kept provider.quarantine returns :=
  kept.of_state nofun nofun

theorem Sound.quarantine : Sound provider.quarantine returns := Sound.of_state nofun

theorem Kept.absorb (kept : Kept provider returns) : Kept provider.absorb returns := by
  unfold Provider.absorb
  split
  · exact kept.of_state nofun nofun
  · exact kept

theorem Sound.absorb (sound : Sound provider returns) : Sound provider.absorb returns := by
  unfold Provider.absorb
  split
  · exact Sound.of_state nofun
  · exact sound

theorem Kept.of_flash (kept : Kept provider returns) :
    Kept { provider with flash := flash } returns :=
  ⟨kept.idle, kept.leased, kept.bounded, kept.issued_le, kept.issued_nodup, kept.isolated⟩

end

/-! ## The phases -/

variable {environment : Environment} {returns : List Return}
  {bytes : List UInt8} {lease offset : Nat}

namespace Working

variable {provider : Provider} {returns : List Return} {call : Call}

theorem refused (kept : Kept provider returns) (sound : Sound provider returns)
    (failure : answer.result ≠ .ok) : Working provider returns call (.leaving answer) :=
  .leaving kept (.failed failure sound)

theorem quarantined (kept : Kept provider returns) :
    Working provider.quarantine returns call (.leaving { result := .storageError }) :=
  refused kept.quarantine Sound.quarantine nofun

theorem check (kept : Kept provider returns) (sound : Sound provider returns) :
    Working (provider.check call).1 returns call (provider.check call).2 := by
  cases call with
  | recover =>
    dsimp only [Provider.check]
    split
    · exact refused kept sound nofun
    exact .polling
      { kept := kept.of_state nofun nofun
        call_eq := rfl
        state_eq := rfl
        inactive := rfl
        next_lt := nofun
        erased := nofun }
  | begin given =>
    dsimp only [Provider.check]
    split
    · exact refused kept sound nofun
    rename_i given_true
    split
    · exact refused kept sound nofun
    rename_i idle
    simp only [ne_eq, not_or, not_not] at idle
    have given_true : given = true := by simpa using given_true
    subst given_true
    exact .polling
      { kept := kept
        call_eq := rfl
        state_eq := idle.1
        inactive := kept.idle idle.1
        next_lt := fun _ => Nat.lt_of_le_of_ne kept.bounded idle.2
        erased := nofun }
  | write =>
    dsimp only [Provider.check]
    split
    · exact refused kept sound nofun
    split
    · rename_i holds
      simp only [Provider.holds, Bool.and_eq_true, decide_eq_true_eq] at holds
      exact .programming kept sound holds.1.1 holds.2
    · exact refused kept sound nofun
  | read =>
    dsimp only [Provider.check]
    split
    · exact refused kept sound nofun
    rename_i valid
    split
    · rename_i holds
      simp only [Provider.holds, Bool.and_eq_true, decide_eq_true_eq] at holds
      simp only [Bool.or_eq_true, Bool.not_eq_true', not_or, Bool.not_eq_false] at valid
      exact .fetching kept sound valid.2 holds.1.1 holds.2
    · exact refused kept sound nofun
  | clear =>
    dsimp only [Provider.check]
    split
    · exact refused kept sound nofun
    · exact .revoking kept sound

theorem eraseFailed {issue touched : Bool}
    (scrubbing : Scrubbing provider returns call issue offset) :
    Working (provider.eraseFailed issue touched).1 returns call
      (provider.eraseFailed issue touched).2 := by
  unfold Provider.eraseFailed
  split
  · refine refused scrubbing.kept (Sound.of_state ?_) nofun
    rw [scrubbing.state_eq]
    cases issue <;> simp
  · exact quarantined scrubbing.kept

theorem eraseDone {issue : Bool} (scrubbing : Scrubbing provider returns call issue offset)
    (erased : Erased provider storeBytes) :
    Working (provider.eraseDone issue).1 returns call (provider.eraseDone issue).2 := by
  have kept := scrubbing.kept
  cases issue with
  | false =>
    rw [scrubbing.call_eq]
    exact .leaving (kept.of_state nofun fun _ => scrubbing.inactive)
      (.recovered rfl (Sound.of_state nofun))
  | true =>
    have next_lt := scrubbing.next_lt rfl
    rw [scrubbing.call_eq]
    refine .issuing ⟨nofun, fun _ => ⟨rfl, Nat.succ_ne_zero _⟩, next_lt, ?_, kept.issued_nodup,
      kept.isolated⟩ ⟨rfl, erased, ?_⟩
    · intro lease member
      have bound := kept.issued_le lease member
      exact ⟨bound.1, Nat.le_succ_of_le bound.2⟩
    · intro lease member
      exact Nat.lt_succ_of_le (kept.issued_le lease member).2

end Working

variable {provider : Provider}

theorem Erased.sector (erased : Erased provider offset) (flashOk : environment.flashOk = true) :
    Erased (provider.eraseSector offset environment) (offset + eraseBytes) := by
  intro address bound
  by_cases below : address < offset
  · rw [← erased address below]
    exact if_neg fun inside => by omega
  simp only [Provider.eraseSector, flashOk, if_true]
  rw [if_pos ⟨by omega, bound⟩]

theorem Scrubbing.of_flash {call : Call} {issue : Bool} {next : Nat}
    {flash : Nat → UInt8} (scrubbing : Scrubbing provider returns call issue offset)
    (erased : Erased { provider with flash := flash } next) :
    Scrubbing { provider with flash := flash } returns call issue
      next :=
  { kept := scrubbing.kept.of_flash
    call_eq := scrubbing.call_eq
    state_eq := scrubbing.state_eq
    inactive := scrubbing.inactive
    next_lt := scrubbing.next_lt
    erased := erased }

/-! ## A read and a write -/

theorem Provider.length_fetch (provider : Provider) (offset length : Nat) :
    (provider.fetch offset length).length = length := by
  simp [Provider.fetch]

section

variable {provider : Provider}

theorem Provider.fetch_getElem? (bound : index < length) :
    (provider.fetch offset length)[index]? = some (provider.flash (offset + index)) := by
  simp [Provider.fetch, bound]

theorem Sound.disclosed {length : Nat} (sound : Sound provider returns)
    (leased : provider.state = .leased) (valid : validRange offset length = true) :
    Disclosed returns provider.activeLease offset length (provider.fetch offset length) := by
  refine ⟨provider.length_fetch offset length, ?_⟩
  intro index byte found
  have bound : index < length := by
    have bound := (List.getElem?_eq_some_iff.mp found).1
    rwa [provider.length_fetch] at bound
  rw [Provider.fetch_getElem? bound] at found
  cases found
  simp only [validRange, Bool.and_eq_true, decide_eq_true_eq] at valid
  exact (sound leased).2 _ (by omega)

theorem Sound.rewriting (sound : Sound provider returns) (leased : provider.state = .leased) :
    Rewriting (provider.program offset bytes.length environment)
      returns provider.activeLease offset bytes 0 := by
  refine ⟨leased, rfl, (sound leased).1, ?_, nofun⟩
  intro address bound outside
  have same : (provider.program offset bytes.length environment).flash
          address = provider.flash address :=
    if_neg fun inside => by omega
  rw [same]
  exact (sound leased).2 address bound

theorem Rewriting.verified {done count : Nat}
    (rewriting : Rewriting provider returns lease offset bytes done)
    (same : provider.fetch (offset + done) count = (bytes.drop done).take count) :
    Rewriting provider returns lease offset bytes (done + count) := by
  refine { rewriting with stored := ?_ }
  intro index bound
  by_cases earlier : index < done
  · exact rewriting.stored index earlier
  have found := congrArg (fun read => read[index - done]?) same
  rw [Provider.fetch_getElem? (by omega),
    List.getElem?_take_of_lt (by omega), List.getElem?_drop] at found
  rw [show index = done + (index - done) by omega, ← found]
  congr 2
  omega

theorem Provider.absorb_requested (requested : provider.quarantineRequested = true) :
    provider.absorb =
      { provider with
        state := .quarantined
        quarantineRequested := false } :=
  if_pos requested

/-- What a step leads to, unless the call returns. -/
def Proceeds (returns : List Return) (call : Call) : Provider × (Phase ⊕ Answer) → Prop
  | (provider, .inl next) => Working provider returns call next
  | (_, .inr _) => True

/-- A step keeps the invariant of the call that holds the guard. -/
theorem Working.advance {call : Call} {phase : Phase}
    (working : Working provider returns call phase) :
    Proceeds returns call (provider.advance environment phase) := by
  cases working with
  | entered kept sound => exact check kept.absorb sound.absorb
  | polling scrubbing =>
    dsimp only [Provider.advance]
    split
    · exact eraseFailed scrubbing
    · exact .erasing scrubbing
  | @erasing _ _ _ _ scrubbing =>
    dsimp only [Provider.advance]
    split
    · exact eraseFailed scrubbing
    split
    · rename_i success
      simp only [Bool.and_eq_true] at success
      have erased := scrubbing.erased.sector success.2
      split
      · exact .polling (scrubbing.of_flash erased)
      refine eraseDone (scrubbing.of_flash erased) ?_
      intro address bound
      exact erased address (by omega)
    · exact eraseFailed (@Scrubbing.of_flash _ _ _ _ _ 0 _ scrubbing nofun)
  | issuing kept fresh =>
    dsimp only [Provider.advance]
    split
    · exact .releasing (kept.of_state nofun nofun) (.failed nofun (Sound.of_state nofun))
    · exact .releasing kept (.issued rfl fresh (kept.leased fresh.state_eq).1)
  | programming kept sound state_eq lease_eq =>
    subst lease_eq
    dsimp only [Provider.advance]
    split
    · exact quarantined kept
    split
    · exact .verifying kept.of_flash (sound.rewriting state_eq)
    · exact quarantined kept.of_flash
  | verifying kept rewriting =>
    dsimp only [Provider.advance, Provider.concluded]
    split
    · rename_i same
      simp only [Bool.and_eq_true, decide_eq_true_eq] at same
      have verified := rewriting.verified same.2
      split
      · exact .verifying kept verified
      rename_i complete
      split
      · refine .leaving kept (.written rfl ?_)
        exact { verified with
          stored := fun index bound => verified.stored index (by omega) }
      · exact quarantined kept
    · exact quarantined kept
  | fetching kept sound valid state_eq lease_eq =>
    subst lease_eq
    dsimp only [Provider.advance, Provider.concluded]
    split
    · exact .leaving kept (.fetched rfl sound (sound.disclosed state_eq valid))
    · exact quarantined kept
  | revoking kept =>
    dsimp only [Provider.advance]
    split
    · rename_i requested
      refine .releasing kept.absorb (.failed nofun (Sound.of_state ?_))
      rw [Provider.absorb_requested requested]
      exact nofun
    · exact .releasing (kept.of_state nofun fun _ => rfl) (.cleared rfl (Sound.of_state nofun))
  | leaving kept outcome =>
    refine .releasing kept.absorb ?_
    split
    · rename_i requested
      refine .failed nofun (Sound.of_state ?_)
      rw [Provider.absorb_requested requested]
      exact nofun
    · rename_i requested
      rw [Provider.absorb, if_neg requested]
      exact outcome
  | releasing => trivial

end

/-! ## Other tasks -/

/-- Only a `begin` that succeeds issues a lease. -/
theorem issued_append (quiet : ∀ given, done.call = .begin given → done.answer.result ≠ .ok) :
    issued (returns ++ [done]) = issued returns := by
  have absent : done.issued? = none := by
    unfold Return.issued?
    split
    · rename_i given call_eq
      exact if_neg (quiet given call_eq)
    · rfl
  simp [issued, absent]

theorem Owned.append
    (owned : Owned returns lease address byte) : Owned (returns ++ more) lease address byte := by
  rcases owned with erased | ⟨done, member, written⟩
  · exact .inl erased
  · exact .inr ⟨done, List.mem_append_left _ member, written⟩

theorem Disclosed.append (disclosed : Disclosed returns lease offset length bytes) :
    Disclosed (returns ++ more) lease offset length bytes :=
  ⟨disclosed.1, fun index byte found => (disclosed.2 index byte found).append⟩

theorem Isolated.append (isolated : Isolated returns) (disclosed :
      ∀ lease offset length given, done.call = .read lease offset length given →
          done.answer.result = .ok → Disclosed returns lease offset length done.answer.bytes) :
    Isolated (returns ++ [done]) := by
  intro before next after split
  rcases List.eq_nil_or_concat after with rfl | ⟨rest, last, rfl⟩
  · obtain ⟨rfl, same⟩ := List.append_inj_left' split rfl
      |> fun left => And.intro left (List.append_inj_right' split rfl)
    cases same
    exact disclosed
  · rw [List.concat_eq_append, ← List.cons_append, ← List.append_assoc] at split
    exact isolated before next rest (List.append_inj_left' split rfl)

section Appending

variable {provider : Provider} {returns : List Return} {call : Call}
variable {done : Return} {flag : Bool}

section

variable (quiet : ∀ given, done.call = .begin given → done.answer.result ≠ .ok)
include quiet

theorem Kept.append (kept : Kept provider returns) (disclosed : ∀ lease offset length given,
        done.call = .read lease offset length given → done.answer.result = .ok →
            Disclosed returns lease offset length done.answer.bytes) :
    Kept { provider with quarantineRequested := flag } (returns ++ [done]) where
  idle := kept.idle
  leased := kept.leased
  bounded := kept.bounded
  issued_le := by
    rw [issued_append quiet]
    exact kept.issued_le
  issued_nodup := by
    rw [issued_append quiet]
    exact kept.issued_nodup
  isolated := kept.isolated.append disclosed

theorem Sound.append (sound : Sound provider returns) :
    Sound { provider with quarantineRequested := flag } (returns ++ [done]) := by
  intro leased
  rw [issued_append quiet]
  exact ⟨(sound leased).1, fun address bound => ((sound leased).2 address bound).append⟩

end

variable (failure : done.answer.result ≠ .ok)
include failure

theorem Kept.disturbed (kept : Kept provider returns) :
    Kept { provider with quarantineRequested := flag } (returns ++ [done]) :=
  kept.append (fun _ _ => failure) fun _ _ _ _ _ success => (failure success).elim

theorem Sound.disturbed (sound : Sound provider returns) :
    Sound { provider with quarantineRequested := flag } (returns ++ [done]) :=
  sound.append fun _ _ => failure

theorem Scrubbing.disturbed (scrubbing : Scrubbing provider returns call issue offset) :
    Scrubbing { provider with quarantineRequested := flag } (returns ++ [done]) call issue offset :=
  { scrubbing with kept := scrubbing.kept.disturbed failure }

theorem Fresh.disturbed (fresh : Fresh provider returns) :
    Fresh { provider with quarantineRequested := flag } (returns ++ [done]) :=
  { fresh with
    issued_lt := by
      rw [issued_append fun _ _ => failure]
      exact fresh.issued_lt }

theorem Rewriting.disturbed (rewriting : Rewriting provider returns lease offset bytes count) :
    Rewriting { provider with quarantineRequested := flag }
      (returns ++ [done]) lease offset bytes count :=
  { rewriting with
    last := by
      rw [issued_append fun _ _ => failure]
      exact rewriting.last
    around := fun address bound outside => (rewriting.around address bound outside).append }

theorem Outcome.disturbed (outcome : Outcome provider returns call answer) :
    Outcome { provider with quarantineRequested := flag } (returns ++ [done]) call answer := by
  cases outcome with
  | failed own sound => exact .failed own (sound.disturbed failure)
  | recovered success sound => exact .recovered success (sound.disturbed failure)
  | cleared success sound => exact .cleared success (sound.disturbed failure)
  | issued success fresh lease_eq => exact .issued success (fresh.disturbed failure) lease_eq
  | written success rewriting => exact .written success (rewriting.disturbed failure)
  | fetched success sound disclosed =>
    exact .fetched success (sound.disturbed failure) disclosed.append

/--
A call that fails without the guard and a request for quarantine do not matter
to the call that holds the guard.
-/
theorem Working.disturbed (working : Working provider returns call phase) :
    Working { provider with quarantineRequested := flag } (returns ++ [done]) call phase := by
  cases working with
  | entered kept sound => exact .entered (kept.disturbed failure) (sound.disturbed failure)
  | polling scrubbing => exact .polling (scrubbing.disturbed failure)
  | erasing scrubbing => exact .erasing (scrubbing.disturbed failure)
  | issuing kept fresh => exact .issuing (kept.disturbed failure) (fresh.disturbed failure)
  | programming kept sound state_eq lease_eq =>
    exact .programming (kept.disturbed failure) (sound.disturbed failure) state_eq lease_eq
  | verifying kept rewriting =>
    exact .verifying (kept.disturbed failure) (rewriting.disturbed failure)
  | fetching kept sound valid state_eq lease_eq =>
    exact .fetching (kept.disturbed failure) (sound.disturbed failure) valid state_eq lease_eq
  | revoking kept sound => exact .revoking (kept.disturbed failure) (sound.disturbed failure)
  | leaving kept outcome => exact .leaving (kept.disturbed failure) (outcome.disturbed failure)
  | releasing kept outcome => exact .releasing (kept.disturbed failure) (outcome.disturbed failure)

end Appending

/-! ## The call returns -/

section Returning

variable {provider : Provider} {returns : List Return} {done : Return}

theorem issued_append_begin (call_eq : done.call = .begin given)
    (success : done.answer.result = .ok) :
    issued (returns ++ [done]) = issued returns ++ [done.answer.lease] := by
  simp [issued, Return.issued?, call_eq, success]

section

variable {given : Bool} (kept : Kept provider returns)
  (fresh : Fresh provider returns) (call_eq : done.call = .begin given)
  (success : done.answer.result = .ok)
  (lease_eq : done.answer.lease = provider.nextLease)
include kept fresh call_eq success lease_eq

theorem Kept.issue : Kept provider (returns ++ [done]) where
  idle := kept.idle
  leased := kept.leased
  bounded := kept.bounded
  issued_le := by
    rw [issued_append_begin call_eq success, lease_eq]
    intro lease member
    rcases List.mem_append.mp member with earlier | last
    · exact kept.issued_le lease earlier
    have active := kept.leased fresh.state_eq
    rw [List.mem_singleton.mp last]
    omega
  issued_nodup := by
    rw [issued_append_begin call_eq success, lease_eq]
    refine List.nodup_append.mpr ⟨kept.issued_nodup, by simp, ?_⟩
    intro lease earlier last member
    rw [List.mem_singleton.mp member]
    exact Nat.ne_of_lt (fresh.issued_lt lease earlier)
  isolated :=
    kept.isolated.append fun _ _ _ _ read => by
      rw [call_eq] at read
      cases read

theorem Fresh.sound : Sound provider (returns ++ [done]) := by
  intro leased
  rw [issued_append_begin call_eq success, lease_eq, (kept.leased leased).1]
  exact ⟨List.getLast?_concat, fun address bound => .inl (fresh.erased address bound)⟩

end

theorem Rewriting.sound {given : Bool}
    (rewriting : Rewriting provider returns lease offset bytes bytes.length)
    (call_eq : done.call = .write lease offset bytes given) (success : done.answer.result = .ok) :
    Sound provider (returns ++ [done]) := by
  intro leased
  refine ⟨?_, ?_⟩
  · rw [issued_append (by rw [call_eq]; exact nofun)]
    exact rewriting.last
  · intro address bound
    by_cases outside : address < offset ∨ offset + bytes.length ≤ address
    · exact (rewriting.around address bound outside).append
    have stored := rewriting.stored (address - offset) (by omega)
    rw [show offset + (address - offset) = address by omega] at stored
    refine .inr ⟨done, List.mem_append_right _ (.head _), offset,
      bytes, given, ?_, success, by omega, stored⟩
    rw [call_eq, rewriting.lease_eq]

/-- Once the call has returned, the region is sound again. -/
theorem Outcome.returned
    (kept : Kept provider returns) (outcome : Outcome provider returns call answer) :
    Kept provider (returns ++ [⟨call, since, answer⟩]) ∧
      Sound provider (returns ++ [⟨call, since, answer⟩]) := by
  cases outcome with
  | failed failure sound => exact ⟨kept.disturbed failure, sound.disturbed failure⟩
  | recovered success sound | cleared success sound =>
    exact ⟨kept.append nofun nofun, sound.append nofun⟩
  | issued success fresh lease_eq =>
    exact ⟨kept.issue fresh rfl success lease_eq, fresh.sound kept rfl success lease_eq⟩
  | written success rewriting => exact ⟨kept.append nofun nofun, rewriting.sound rfl success⟩
  | fetched _ sound disclosed =>
    refine ⟨kept.append nofun ?_, sound.append nofun⟩
    intro lease offset length given same _
    cases same
    exact disclosed

end Returning

end EspFrp.Flash

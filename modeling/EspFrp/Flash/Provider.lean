import EspFrp.Types
import Mathlib.Logic.Function.Basic

/-!
# The scratch store of the IDF

`efrp_idf_flash_store_t` of `idf_flash_store.c`, used by any number of tasks.
A call runs in steps: each step makes one access to the guard, to the
quarantine flag or to the flash, together with the plain code up to the next
such access.  What `with_owner` and the partition do is left to an
environment; of the flash it is only assumed that an erase that succeeds sets
every byte to `0xff`, that a write clears bits and sets none, and that a read
that succeeds returns what is there.
-/

namespace EspFrp.Flash

/-- `EFRP_IDF_FLASH_STORE_BYTES`. -/
abbrev storeBytes : Nat := 65536

/-- `EFRP_IDF_FLASH_ERASE_BYTES`. -/
abbrev eraseBytes : Nat := 4096

/-- `VERIFY_BYTES`. -/
abbrev verifyBytes : Nat := 256

/-- `UINT64_MAX`. -/
abbrev leaseMax : Nat := 0xffffffffffffffff

/-- `efrp_idf_flash_store_state_t`. -/
inductive StoreState where
  | unrecovered
  | idle
  | leased
  | quarantined
deriving DecidableEq, Repr

/-- `efrp_idf_flash_store_t` without its guard, and the partition. -/
structure Provider where
  state : StoreState := .unrecovered
  activeLease : Nat := 0
  nextLease : Nat := 0
  quarantineRequested : Bool := false
  flash : Nat → UInt8

/--
A call.  `given` says whether the pointer argument of the call is not null.
-/
inductive Call where
  | recover
  | begin (given : Bool)
  | write (lease offset : Nat) (bytes : List UInt8) (given : Bool)
  | read (lease offset length : Nat) (given : Bool)
  | clear (lease : Nat)
deriving DecidableEq, Repr

/-- What a call returns. -/
structure Answer where
  result : Result
  lease : Nat := 0
  bytes : List UInt8 := []
deriving DecidableEq, Repr

/--
What `with_owner` and the partition do in one step: whether the operation is
called at all and whether it is called again, whether the flash and the owner
report success, and the bytes that a failure leaves behind or that a write
keeps.
-/
structure Environment where
  called : Bool
  again : Bool
  flashOk : Bool
  ownerOk : Bool
  content : Nat → UInt8

/-- Where a call stands that holds the guard. -/
inductive Phase where
  | entered (call : Call)
  | polling (issue : Bool) (offset : Nat) (touched : Bool)
  | erasing (issue : Bool) (offset : Nat) (touched : Bool)
  | issuing
  | programming (offset : Nat) (bytes : List UInt8)
  | verifying (offset : Nat) (bytes : List UInt8) (done : Nat)
  | fetching (offset length : Nat)
  | revoking
  | leaving (answer : Answer)
  | releasing (answer : Answer)

/-- `valid_range`. -/
def validRange (offset length : Nat) : Bool :=
  0 < length && offset < storeBytes && length ≤ storeBytes - offset

namespace Provider

/-- The bytes of the partition from `offset` on. -/
def fetch (provider : Provider) (offset length : Nat) : List UInt8 :=
  (List.range length).map fun index => provider.flash (offset + index)

/-- The exchange of the quarantine flag in `enter` and `leave`. -/
def absorb (provider : Provider) : Provider :=
  if provider.quarantineRequested then
    { provider with
      state := .quarantined
      quarantineRequested := false }
  else
    provider

/-- The region is no longer trusted. -/
def quarantine (provider : Provider) : Provider := { provider with state := .quarantined }

/-- `esp_partition_erase_range` of one sector. -/
def eraseSector (provider : Provider) (offset : Nat) (environment : Environment) : Provider :=
  { provider with
    flash := fun address =>
      if offset ≤ address ∧ address < offset + eraseBytes then
        if environment.flashOk then 255 else environment.content address
      else
        provider.flash address }

/-- `esp_partition_write`. -/
def program (provider : Provider) (offset length : Nat) (environment : Environment) : Provider :=
  { provider with
    flash := fun address =>
      if offset ≤ address ∧ address < offset + length then
        provider.flash address &&& environment.content address
      else
        provider.flash address }

/-- The lease may be used for reads and writes. -/
def holds (provider : Provider) (lease : Nat) : Bool :=
  provider.state = .leased && lease ≠ 0 && lease = provider.activeLease

/-- What a call does once it has entered. -/
def check (provider : Provider) : Call → Provider × Phase
  | .recover =>
    if provider.activeLease ≠ 0 then
      (provider, .leaving { result := .storageError })
    else
      ({ provider with state := .unrecovered, activeLease := 0 }, .polling false 0 false)
  | .begin given =>
    if !given then
      (provider, .leaving { result := .invalidArgument })
    else if provider.state ≠ .idle ∨ provider.nextLease = leaseMax then
      (provider, .leaving { result := .storageError })
    else
      (provider, .polling true 0 false)
  | .write lease offset bytes given =>
    if !given || !validRange offset bytes.length then
      (provider, .leaving { result := .invalidArgument })
    else if provider.holds lease then
      (provider, .programming offset bytes)
    else
      (provider, .leaving { result := .storageError })
  | .read lease offset length given =>
    if !given || !validRange offset length then
      (provider, .leaving { result := .invalidArgument })
    else if provider.holds lease then
      (provider, .fetching offset length)
    else
      (provider, .leaving { result := .storageError })
  | .clear lease =>
    if lease = 0 ∨ lease ≠ provider.activeLease ∨
        (provider.state ≠ .leased ∧ provider.state ≠ .quarantined) then
      (provider, .leaving { result := .storageError })
    else
      (provider, .revoking)

/-- `erase_scratch` has failed in `begin` or in `recover`. -/
def eraseFailed (provider : Provider) (issue touched : Bool) : Provider × Phase :=
  (if issue && !touched then provider else provider.quarantine,
    .leaving { result := .storageError })

/-- `erase_scratch` has succeeded in `begin` or in `recover`. -/
def eraseDone (provider : Provider) (issue : Bool) : Provider × Phase :=
  if issue then
    ({ provider with
        nextLease := provider.nextLease + 1
        activeLease := provider.nextLease + 1
        state := .leased }, .issuing)
  else
    ({ provider with state := .idle }, .leaving { result := .ok })

/-- The end of `write_bytes` and `read_bytes`. -/
def concluded (provider : Provider) (exact : Bool) (answer : Answer) : Provider × Phase :=
  if exact then
    (provider, .leaving answer)
  else
    (provider.quarantine, .leaving { result := .storageError })

/-- One step of a call that holds the guard. -/
def advance (provider : Provider) (environment : Environment) : Phase → Provider × (Phase ⊕ Answer)
  | .entered call =>
    let (provider, phase) := provider.absorb.check call
    (provider, .inl phase)
  | .polling issue offset touched =>
    if provider.quarantineRequested then
      let (provider, phase) := provider.eraseFailed issue touched
      (provider, .inl phase)
    else
      (provider, .inl (.erasing issue offset touched))
  | .erasing issue offset touched =>
    let (provider, phase) :=
      if !environment.called then
        provider.eraseFailed issue (touched || environment.ownerOk)
      else
        let provider := provider.eraseSector offset environment
        if environment.ownerOk && !environment.again && environment.flashOk then
          if offset + eraseBytes < storeBytes then
            (provider, .polling issue (offset + eraseBytes) true)
          else
            provider.eraseDone issue
        else
          provider.eraseFailed issue true
    (provider, .inl phase)
  | .issuing =>
    if provider.quarantineRequested then
      ({ provider with
          quarantineRequested := false
          activeLease := 0
          state := .quarantined },
        .inl (.releasing { result := .storageError }))
    else
      (provider, .inl (.releasing { result := .ok, lease := provider.activeLease }))
  | .programming offset bytes =>
    if !environment.called then
      (provider.quarantine, .inl (.leaving { result := .storageError }))
    else
      let provider := provider.program offset bytes.length environment
      if environment.flashOk then
        (provider, .inl (.verifying offset bytes 0))
      else
        (provider.quarantine, .inl (.leaving { result := .storageError }))
  | .verifying offset bytes done =>
    let count := min (bytes.length - done) verifyBytes
    let (provider, phase) :=
      if environment.flashOk && decide (provider.fetch (offset + done) count =
            (bytes.drop done).take count) then
        if done + count < bytes.length then
          (provider, .verifying offset bytes (done + count))
        else
          provider.concluded (environment.ownerOk && !environment.again) { result := .ok }
      else
        provider.concluded false { result := .storageError }
    (provider, .inl phase)
  | .fetching offset length =>
    let (provider, phase) := provider.concluded (environment.called && environment.flashOk &&
        environment.ownerOk && !environment.again)
      { result := .ok, bytes := provider.fetch offset length }
    (provider, .inl phase)
  | .revoking =>
    if provider.quarantineRequested then
      (provider.absorb, .inl (.releasing { result := .storageError }))
    else
      ({ provider with activeLease := 0, state := .idle }, .inl (.releasing { result := .ok }))
  | .leaving answer =>
    (provider.absorb, .inl (.releasing (if provider.quarantineRequested then
          { answer with result := .storageError }
        else
          answer)))
  | .releasing answer => (provider, .inr answer)

end Provider

/-! ## Tasks -/

/-- Where a call stands. -/
inductive Stage where
  | entering
  | requesting
  | inside (phase : Phase)

/-- A call under way, and when it started. -/
structure Pending where
  call : Call
  since : Nat
  stage : Stage

/-- A call that has returned. -/
structure Return where
  call : Call
  since : Nat
  answer : Answer

/--
The provider with the tasks that use it.  The guard carries the task that has
set it; the clock and the list of returns are there for the statements only.
-/
structure System (Task : Type) where
  provider : Provider
  guard : Option Task := none
  tasks : Task → Option Pending := fun _ => none
  clock : Nat := 0
  returns : List Return := []

/-- A task makes a step; an idle task makes a call. -/
structure Move (Task : Type) where
  task : Task
  call : Call
  environment : Environment

namespace System

variable {Task : Type}

/-- The provider after `efrp_idf_flash_store_bind`. -/
def start (flash : Nat → UInt8) : System Task where
  provider := { flash := flash }

variable [DecidableEq Task]

/-- The task goes on with its call. -/
def proceed (system : System Task) (task : Task) (pending : Pending)
    (stage : Stage) : System Task :=
  { system with
    tasks := Function.update system.tasks task (some { pending with stage := stage }) }

/-- The call of the task returns. -/
def finish (system : System Task) (task : Task) (pending : Pending)
    (answer : Answer) : System Task :=
  { system with
    tasks := Function.update system.tasks task none
    returns := system.returns ++
      [{ call := pending.call
         since := pending.since
         answer := answer }] }

/-- One step of a call. -/
def advance (system : System Task) (task : Task) (pending : Pending)
    (environment : Environment) : System Task :=
  match pending.stage with
  | .entering =>
    if system.guard.isNone then
      { system.proceed task pending (.inside (.entered pending.call))
          with guard := some task }
    else
      match pending.call with
      | .clear _ => system.proceed task pending .requesting
      | _ => system.finish task pending { result := .storageError }
  | .requesting =>
    { system.finish task pending { result := .storageError } with
      provider := { system.provider with quarantineRequested := true } }
  | .inside phase =>
    match system.provider.advance environment phase with
    | (provider, .inl phase) =>
      { system.proceed task pending (.inside phase) with
        provider := provider }
    | (provider, .inr answer) =>
      { system.finish task pending answer with
        provider := provider
        guard := none }

/-- One step of a task. -/
def step (system : System Task) (move : Move Task) : System Task :=
  let next :=
    match system.tasks move.task with
    | none =>
      { system with
        tasks := Function.update system.tasks move.task (some
            { call := move.call
              since := system.clock
              stage := .entering }) }
    | some pending => system.advance move.task pending move.environment
  { next with clock := system.clock + 1 }

/-- The tasks take turns in any order. -/
def run (system : System Task) (moves : List (Move Task)) :
    System Task := moves.foldl step system

end System

end EspFrp.Flash

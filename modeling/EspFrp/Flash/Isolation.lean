import EspFrp.Flash.Region
import EspFrp.Library.Slots

/-!
# Isolation of the scratch store

Any number of tasks call the provider, and their steps interleave in any
order.  The guard gives one call at a time the right to work, the other calls
fail at once, and a `clear` among them leaves a request for quarantine that
the next exchange of the flag finds.
-/

namespace EspFrp.Flash

open Library

variable {Task : Type}

/-! ## The guard -/

variable {returns : List Return} {provider : Provider}

theorem Working.kept (working : Working provider returns call phase) : Kept provider returns := by
  cases working with
  | polling scrubbing | erasing scrubbing => exact scrubbing.kept
  | _ => assumption

theorem Working.outcome (working : Working provider returns call (.releasing answer)) :
    Outcome provider returns call answer := by
  cases working with
  | releasing _ outcome => exact outcome

/-- Only the task that has set the guard works on the provider. -/
structure Guarded (system : System Task) : Prop where
  dated : ∀ task pending, system.tasks task = some pending → pending.since < system.clock
  returns_dated : ∀ done ∈ system.returns, done.since < system.clock
  outside : ∀ task pending, system.tasks task = some pending →
      system.guard ≠ some task → ∀ phase, pending.stage ≠ .inside phase
  held : ∀ task, system.guard = some task → ∃ pending phase, system.tasks task = some pending ∧
        pending.stage = .inside phase ∧ Working system.provider system.returns pending.call phase
  free : system.guard = none →
      Kept system.provider system.returns ∧ Sound system.provider system.returns

namespace Guarded

variable {system : System Task}

theorem kept (guarded : Guarded system) : Kept system.provider system.returns := by
  cases holder : system.guard with
  | none => exact (guarded.free holder).1
  | some task =>
    obtain ⟨_, _, _, _, working⟩ := guarded.held task holder
    exact working.kept

theorem start (flash : Nat → UInt8) : Guarded (System.start flash : System Task) where
  dated := nofun
  returns_dated := nofun
  outside := nofun
  held := nofun
  free _ :=
    ⟨⟨nofun, nofun, Nat.zero_le _, nofun, List.nodup_nil, fun before done after split =>
          (List.append_ne_nil_of_right_ne_nil before
            (List.cons_ne_nil done after) split.symm).elim⟩,
      Sound.of_state nofun⟩

variable {task : Task}
  (guarded : Guarded system) (found : system.tasks task = some pending)
  (inside : pending.stage = .inside phase)
include guarded found inside

/-- The task that is inside holds the guard. -/
theorem guard_eq : system.guard = some task := by
  by_contra other
  exact guarded.outside task pending found other phase inside

theorem working : Working system.provider system.returns pending.call phase := by
  obtain ⟨_, _, same, stage, working⟩ := guarded.held task (guarded.guard_eq found inside)
  rw [found] at same
  cases same
  rw [inside] at stage
  cases stage
  exact working

end Guarded

variable [DecidableEq Task]

/-! ## What a step can do -/

/-- The task does not work on the provider. -/
def Outside (tasks : Task → Option Pending) (task : Task) : Prop :=
  ∀ pending phase, tasks task = some pending → pending.stage ≠ .inside phase

/-- What a step of a task does to the system. -/
inductive Stepping (system : System Task) : System Task → Prop where
  | started {task call} (outside : Outside system.tasks task) : Stepping system
        { system with
          tasks := Function.update system.tasks task (some
              { call := call
                since := system.clock
                stage := .entering })
          clock := system.clock + 1 }
  | taken {task pending} (found : system.tasks task = some pending)
      (outside : Outside system.tasks task) (unlocked : system.guard = none) :
      Stepping system
        { system.proceed task pending (.inside (.entered pending.call)) with
          guard := some task
          clock := system.clock + 1 }
  | contended {task pending} (found : system.tasks task = some pending)
      (outside : Outside system.tasks task) :
      Stepping system
        { system.proceed task pending .requesting with
          clock := system.clock + 1 }
  | refused {task pending flag} (found : system.tasks task = some pending)
      (outside : Outside system.tasks task)
      (keeps : system.provider.quarantineRequested = true → flag = true) :
      Stepping system
        { system.finish task pending { result := .storageError } with
          provider := { system.provider with quarantineRequested := flag }
          clock := system.clock + 1 }
  | advanced {task pending phase next environment provider}
      (found : system.tasks task = some pending)
      (inside : pending.stage = .inside phase)
      (continues : system.provider.advance environment phase = (provider, .inl next)) :
      Stepping system
        { system.proceed task pending (.inside next) with
          provider := provider
          clock := system.clock + 1 }
  | released {task pending answer} (found : system.tasks task = some pending)
      (inside : pending.stage = .inside (.releasing answer)) :
      Stepping system
        { system.finish task pending answer with
          guard := none
          clock := system.clock + 1 }

variable {call : Call} {environment : Environment} {next : System Task} {task : Task}

theorem Provider.advance_returns
    (returned : provider.advance environment phase = (final, .inr answer)) :
    phase = .releasing answer ∧ final = provider := by
  cases phase with
  | releasing =>
    cases returned
    exact ⟨rfl, rfl⟩
  | _ =>
    have later := congrArg Prod.snd returned
    dsimp only [Provider.advance] at later
    first
    | exact (Sum.inl_ne_inr later).elim
    | split at later
      · exact (Sum.inl_ne_inr later).elim
      · first
        | exact (Sum.inl_ne_inr later).elim
        | split at later
          · exact (Sum.inl_ne_inr later).elim
          · exact (Sum.inl_ne_inr later).elim

theorem System.step_stepping (system : System Task) (move : Move Task) :
    Stepping system (system.step move) := by
  unfold System.step
  cases found : system.tasks move.task with
  | none =>
    refine .started ?_
    intro pending phase present
    rw [found] at present
    cases present
  | some pending =>
    have outside (not : ∀ phase, pending.stage ≠ .inside phase) :
        Outside system.tasks move.task := by
      intro other phase present
      rw [found] at present
      cases present
      exact not phase
    dsimp only [System.advance]
    cases stage : pending.stage with
    | entering =>
      have waits := outside (by rw [stage]; exact nofun)
      dsimp only
      split
      · rename_i unlocked
        exact .taken found waits (Option.isNone_iff_eq_none.mp unlocked)
      split
      · exact .contended found waits
      · exact .refused found waits id
    | requesting => exact .refused found (outside (by rw [stage]; exact nofun)) fun _ => rfl
    | inside phase =>
      dsimp only
      cases advanced : system.provider.advance move.environment phase with
      | mk provider outcome =>
        cases outcome with
        | inl next => exact .advanced found stage advanced
        | inr =>
          obtain ⟨rfl, rfl⟩ := Provider.advance_returns advanced
          exact .released found stage

/-- What holds of every task after one of them has changed. -/
theorem forall_update {tasks : Task → Option Pending} {value : Option Pending}
    {holds : Task → Pending → Prop} (own : ∀ pending, value = some pending → holds task pending)
    (others : ∀ other pending, other ≠ task → tasks other = some pending → holds other pending) :
    ∀ other pending, Function.update tasks task value other = some pending →
        holds other pending := by
  intro other pending found
  rcases update_found rfl found with ⟨rfl, same⟩ | ⟨differs, earlier⟩
  · exact own pending same
  · exact others other pending differs earlier

namespace Guarded

theorem finish_dated (guarded : Guarded system) (found : system.tasks task = some pending) :
    ∀ done ∈ (system.finish task pending answer).returns, done.since < system.clock + 1 := by
  intro done member
  rcases List.mem_append.mp member with earlier | last
  · exact Nat.lt_succ_of_lt (guarded.returns_dated done earlier)
  rw [List.mem_singleton.mp last]
  exact Nat.lt_succ_of_lt (guarded.dated task pending found)

/-- A task that is outside may change without the holder of the guard. -/
theorem held_update (guarded : Guarded system) (outside : Outside system.tasks task) :
    ∀ holder, system.guard = some holder → ∃ pending phase,
        Function.update system.tasks task value holder = some pending ∧
          pending.stage = .inside phase ∧
            Working system.provider system.returns pending.call phase := by
  intro holder held
  obtain ⟨pending, phase, found, inside, working⟩ := guarded.held holder held
  refine ⟨pending, phase, ?_, inside, working⟩
  refine (Function.update_of_ne ?_ _ _).trans found
  rintro rfl
  exact outside pending phase found inside

theorem step (guarded : Guarded system) (stepping : Stepping system next) : Guarded next := by
  have returns_dated : ∀ done ∈ system.returns, done.since < system.clock + 1 :=
    fun done member => Nat.lt_succ_of_lt (guarded.returns_dated done member)
  have dated {task : Task} {value : Option Pending} (own : ∀ pending, value = some pending →
        pending.since < system.clock + 1) :
      ∀ other pending, Function.update system.tasks task value other = some pending →
          pending.since < system.clock + 1 :=
    forall_update own fun other pending _ found =>
      Nat.lt_succ_of_lt (guarded.dated other pending found)
  have recent {task : Task} {pending : Pending} {stage : Stage}
      (found : system.tasks task = some pending) :
      ∀ other, some { pending with stage := stage } = some other →
        other.since < system.clock + 1 := by
    intro other same
    cases same
    exact Nat.lt_succ_of_lt (guarded.dated task pending found)
  -- a task that is not the holder stays outside
  have others {task : Task} {guard : Option Task} (same : ∀ other ≠ task, guard ≠ some other →
        system.guard ≠ some other) :
      ∀ other pending, other ≠ task → system.tasks other = some pending →
        guard ≠ some other → ∀ phase, pending.stage ≠ .inside phase :=
    fun other pending differs found unheld =>
      guarded.outside other pending found (same other differs unheld)
  cases stepping with
  | started outside =>
    refine
      { dated := dated ?_
        returns_dated := returns_dated
        outside := forall_update ?_ (others fun _ _ => id)
        held := guarded.held_update outside
        free := guarded.free }
    · intro pending same
      cases same
      exact Nat.lt_succ_self _
    · intro pending same _
      cases same
      exact nofun
  | taken found _ unlocked =>
    refine
      { dated := dated (recent found)
        returns_dated := returns_dated
        outside := forall_update (fun _ _ unheld => (unheld rfl).elim)
          (others fun _ _ _ => by rw [unlocked]; exact nofun)
        held := ?_
        free := nofun }
    intro holder held
    cases held
    obtain ⟨kept, sound⟩ := guarded.free unlocked
    exact ⟨_, _, Function.update_self .., rfl, .entered kept sound⟩
  | contended found outside =>
    refine
      { dated := dated (recent found)
        returns_dated := returns_dated
        outside := forall_update ?_ (others fun _ _ => id)
        held := guarded.held_update outside
        free := guarded.free }
    intro pending same _
    cases same
    exact nofun
  | refused found outside =>
    refine
      { dated := dated nofun
        returns_dated := guarded.finish_dated found
        outside := forall_update nofun (others fun _ _ => id)
        held := ?_
        free := ?_ }
    · intro holder held
      obtain ⟨pending, phase, present, inside, working⟩ := guarded.held_update outside holder held
      refine ⟨pending, phase, present, inside, working.disturbed ?_⟩
      exact nofun
    · intro unlocked
      obtain ⟨kept, sound⟩ := guarded.free unlocked
      exact ⟨kept.disturbed nofun, sound.disturbed nofun⟩
  | @advanced task _ _ _ environment _ found inside continues =>
    have guard_eq := guarded.guard_eq found inside
    have working := @Working.advance environment _ _ _ _ (guarded.working found inside)
    rw [continues] at working
    refine
      { dated := dated (recent found)
        returns_dated := returns_dated
        outside := forall_update (fun _ _ unheld => (unheld guard_eq).elim) (others fun _ _ => id)
        held := ?_
        free := ?_ }
    · intro holder held
      have same : holder = task := Option.some.inj (held.symm.trans guard_eq)
      subst same
      exact ⟨_, _, Function.update_self .., rfl, working⟩
    · intro unlocked
      have locked := guard_eq.symm.trans unlocked
      cases locked
  | released found inside =>
    have guard_eq := guarded.guard_eq found inside
    refine
      { dated := dated nofun
        returns_dated := guarded.finish_dated found
        outside := forall_update nofun (others ?_)
        held := nofun
        free := ?_ }
    · intro other differs _ same
      exact differs (Option.some.inj (same.symm.trans guard_eq))
    · intro unlocked
      have working := guarded.working found inside
      exact working.outcome.returned working.kept

theorem run (guarded : Guarded system) (moves : List (Move Task)) : Guarded (system.run moves) := by
  induction moves generalizing system with
  | nil => exact guarded
  | cons move _ later => exact later (guarded.step (system.step_stepping move))

end Guarded

/-! ## Calls that cannot succeed -/

/-- The call has not passed the checks that follow its entry. -/
def Stage.Harmless : Stage → Prop
  | .entering => True
  | .requesting => True
  | .inside (.entered _) => True
  | .inside (.leaving answer) => answer.result ≠ .ok
  | .inside (.releasing answer) => answer.result ≠ .ok
  | .inside _ => False

/-- None of the calls that start at `moment` or later succeeds. -/
structure Confined (bars : Call → Prop) (moment : Nat) (system : System Task) : Prop where
  pending : ∀ task pending, system.tasks task = some pending →
      moment ≤ pending.since → bars pending.call → pending.stage.Harmless
  returned : ∀ done ∈ system.returns, moment ≤ done.since → bars done.call →
      done.answer.result ≠ .ok

omit [DecidableEq Task] in
theorem Guarded.confined (guarded : Guarded system) (bars : Call → Prop) :
    Confined bars system.clock system where
  pending task pending found later :=
    (Nat.not_le_of_lt (guarded.dated task pending found) later).elim
  returned done member later := (Nat.not_le_of_lt (guarded.returns_dated done member) later).elim

/-- The checks after the entry refuse the call. -/
def Refuses (provider : Provider) (call : Call) : Prop :=
  ∃ answer, (provider.absorb.check call).2 = .leaving answer ∧ answer.result ≠ .ok

theorem Stage.Harmless.advance {next : Phase} (harmless : (Stage.inside phase).Harmless)
    (refuses : ∀ call, phase = .entered call → Refuses provider call)
    (continues : provider.advance environment phase = (final, .inl next)) :
    (Stage.inside next).Harmless := by
  cases phase with
  | entered call =>
    obtain ⟨_, refused, failure⟩ := refuses call rfl
    have next_eq : (provider.absorb.check call).2 = next :=
      Sum.inl.inj (congrArg Prod.snd continues)
    rw [← next_eq, refused]
    exact failure
  | leaving =>
    cases continues
    unfold Stage.Harmless
    dsimp only
    split
    · exact nofun
    · exact harmless
  | releasing => cases continues
  | _ => exact harmless.elim

theorem Working.entered_call {inner : Call}
    (working : Working provider returns call (.entered inner)) : inner = call := by
  cases working with
  | entered => rfl

theorem Confined.step
    (confined : Confined bars moment system) (guarded : Guarded system)
    (refuses : ∀ task pending, system.tasks task = some pending →
        pending.stage = .inside (.entered pending.call) →
          bars pending.call → Refuses system.provider pending.call)
    (stepping : Stepping system next) : Confined bars moment next := by
  have pending {task : Task} {value : Option Pending}
      (own : ∀ pending, value = some pending → moment ≤ pending.since →
        bars pending.call → pending.stage.Harmless) :
      ∀ other pending, Function.update system.tasks task value other = some pending →
          moment ≤ pending.since → bars pending.call →
            pending.stage.Harmless :=
    forall_update own fun other pending _ => confined.pending other pending
  cases stepping with
  | started | taken _ _ _ | contended _ _ =>
    refine ⟨pending ?_, confined.returned⟩
    intro waiting same _ _
    cases same
    trivial
  | refused =>
    refine ⟨pending nofun, ?_⟩
    intro done member
    rcases List.mem_append.mp member with earlier | last
    · exact confined.returned done earlier
    rw [List.mem_singleton.mp last]
    exact fun _ _ => nofun
  | @advanced task working _ _ _ _ found inside continues =>
    refine ⟨pending ?_, confined.returned⟩
    intro waiting same recent barred
    cases same
    have harmless := confined.pending task working found recent barred
    rw [inside] at harmless
    refine harmless.advance ?_ continues
    intro call phase_eq
    subst phase_eq
    obtain rfl := (guarded.working found inside).entered_call
    exact refuses task working found inside barred
  | @released task working _ found inside =>
    refine ⟨pending nofun, ?_⟩
    intro done member recent barred
    rcases List.mem_append.mp member with earlier | last
    · exact confined.returned done earlier recent barred
    rw [List.mem_singleton.mp last] at recent barred ⊢
    have harmless := confined.pending task working found recent barred
    rw [inside] at harmless
    exact harmless

/-! ## Stale leases -/

/-- The lease that the call is made under. -/
def Call.lease? : Call → Option Nat
  | .recover => none
  | .begin _ => none
  | .write lease _ _ _ => some lease
  | .read lease _ _ _ => some lease
  | .clear lease => some lease

/-- The lease is null, or it has been issued and is no longer active. -/
def Stale (provider : Provider) (lease : Nat) : Prop :=
  lease = 0 ∨ lease ≤ provider.nextLease ∧ lease ≠ provider.activeLease

theorem Stale.refuses (stale : Stale provider lease)
    (lease_eq : call.lease? = some lease) : Refuses provider call := by
  have same : provider.absorb.activeLease = provider.activeLease := by
    unfold Provider.absorb
    split <;> rfl
  have unusable : provider.absorb.holds lease = false := by
    unfold Provider.holds
    rw [same]
    rcases stale with null | ⟨-, other⟩
    · simp [null]
    · simp [other]
  cases call with
  | recover | begin given => cases lease_eq
  | write own offset bytes given | read own offset length given =>
    cases lease_eq
    unfold Refuses
    dsimp only [Provider.check]
    split
    · exact ⟨_, rfl, nofun⟩
    rw [if_neg (by simp [unusable])]
    exact ⟨_, rfl, nofun⟩
  | clear =>
    cases lease_eq
    unfold Refuses
    dsimp only [Provider.check]
    rw [if_pos]
    · exact ⟨_, rfl, nofun⟩
    · rw [same]
      rcases stale with null | ⟨-, other⟩
      · exact .inl null
      · exact .inr (.inl other)

/-- A step may revoke the active lease or issue the next one. -/
theorem Provider.advance_leases (provider : Provider) (environment : Environment) (phase : Phase) :
    let final := (provider.advance environment phase).1
    final.nextLease = provider.nextLease ∧
        (final.activeLease = provider.activeLease ∨ final.activeLease = 0) ∨
      final.nextLease = provider.nextLease + 1 ∧ final.activeLease = provider.nextLease + 1 := by
  have absorbed : provider.absorb.nextLease = provider.nextLease ∧
        provider.absorb.activeLease = provider.activeLease := by
    unfold Provider.absorb
    split <;> exact ⟨rfl, rfl⟩
  cases phase with
  | entered call =>
    refine .inl ?_
    cases call <;> dsimp only [Provider.advance, Provider.check] <;>
      split <;> (try split) <;> simp [absorbed]
  | leaving => exact .inl ⟨absorbed.1, .inl absorbed.2⟩
  | revoking =>
    refine .inl ?_
    dsimp only [Provider.advance]
    split
    · exact ⟨absorbed.1, .inl absorbed.2⟩
    · exact ⟨rfl, .inr rfl⟩
  | erasing =>
    dsimp only [Provider.advance, Provider.eraseFailed, Provider.eraseDone]
    split
    · split <;> exact .inl ⟨rfl, .inl rfl⟩
    split
    · split
      · exact .inl ⟨rfl, .inl rfl⟩
      split
      · exact .inr ⟨rfl, rfl⟩
      · exact .inl ⟨rfl, .inl rfl⟩
    · split <;> exact .inl ⟨rfl, .inl rfl⟩
  | _ =>
    refine .inl ?_
    dsimp only [Provider.advance, Provider.eraseFailed, Provider.concluded]
    repeat' split
    all_goals first
      | exact ⟨rfl, .inl rfl⟩
      | exact ⟨rfl, .inr rfl⟩

theorem Stale.step (stale : Stale system.provider lease)
    (stepping : Stepping system next) : Stale next.provider lease := by
  cases stepping with
  | @advanced _ _ phase _ environment _ _ _ continues =>
    have leases := system.provider.advance_leases environment phase
    rw [continues] at leases
    dsimp only [Stale, System.proceed] at *
    omega
  | _ => exact stale

theorem Confined.stale (moves : List (Move Task))
    (guarded : Guarded system) (stale : Stale system.provider lease)
    (confined : Confined (fun call => call.lease? = some lease) moment system) :
    Confined (fun call => call.lease? = some lease) moment (system.run moves) := by
  induction moves generalizing system with
  | nil => exact confined
  | cons move _ later =>
    have stepping := system.step_stepping move
    refine later (guarded.step stepping) (stale.step stepping) (confined.step guarded ?_ stepping)
    exact fun _ _ _ _ own => stale.refuses own

/-! ## Quarantine -/

/-- A call that uses the region. -/
def Call.Uses : Call → Prop
  | .begin _ => True
  | .write _ _ _ _ => True
  | .read _ _ _ _ => True
  | _ => False

/-- A call that ends a quarantine if it succeeds. -/
def Call.Revives : Call → Prop
  | .recover => True
  | .clear _ => True
  | _ => False

/-- A call that is about to end a quarantine. -/
def Reviving (call : Call) (phase : Phase) : Prop :=
  call.Revives ∧ ∃ answer : Answer, answer.result = .ok ∧
      (phase = .leaving answer ∨ phase = .releasing answer)

/-- The region is or will be found in quarantine. -/
def Provider.Barred (provider : Provider) : Prop :=
  provider.quarantineRequested = true ∨
    provider.state = .quarantined ∨ provider.state = .unrecovered

section

variable {provider : Provider}

theorem Provider.Barred.absorb (barred : provider.Barred) :
    provider.absorb.state = .quarantined ∨ provider.absorb.state = .unrecovered := by
  unfold Provider.absorb
  split
  · exact .inl rfl
  rename_i unset
  rcases barred with requested | state
  · exact (unset requested).elim
  · exact state

theorem Provider.Barred.refuses (barred : provider.Barred) (uses : call.Uses) :
    Refuses provider call := by
  have state := barred.absorb
  have unusable : ∀ lease, provider.absorb.holds lease = false := by
    intro lease
    unfold Provider.holds
    rcases state with state | state <;> simp [state]
  have working : provider.absorb.state ≠ .idle := by
    rcases state with state | state <;> simp [state]
  unfold Refuses
  cases call with
  | recover | clear lease => exact uses.elim
  | begin =>
    dsimp only [Provider.check]
    split
    · exact ⟨_, rfl, nofun⟩
    rw [if_pos (.inl working)]
    exact ⟨_, rfl, nofun⟩
  | write lease offset bytes given | read lease offset length given =>
    dsimp only [Provider.check]
    split
    · exact ⟨_, rfl, nofun⟩
    rw [if_neg (by simp [unusable])]
    exact ⟨_, rfl, nofun⟩

theorem Provider.Barred.of_state
    (state : provider.state = .quarantined ∨ provider.state = .unrecovered) : provider.Barred :=
  .inr state

theorem Provider.Barred.check (barred : provider.Barred) (call : Call) :
    (provider.absorb.check call).1.Barred := by
  have kept : provider.absorb.Barred := .of_state barred.absorb
  cases call <;> dsimp only [Provider.check] <;> split
  case recover.isFalse => exact .inr (.inr rfl)
  all_goals first
    | exact kept
    | (split <;> exact kept)

theorem Provider.Barred.requested (barred : provider.Barred)
    (state : provider.state = .idle ∨ provider.state = .leased) :
    provider.quarantineRequested = true := by
  rcases barred with requested | quarantined | unrecovered
  · exact requested
  · rw [quarantined] at state
    simp at state
  rw [unrecovered] at state
  simp at state

theorem Provider.Barred.eraseFailed (barred : provider.Barred) :
    (provider.eraseFailed issue touched).1.Barred := by
  dsimp only [Provider.eraseFailed]
  split
  · exact barred
  · exact .inr (.inl rfl)

theorem Provider.Barred.concluded (barred : provider.Barred) :
    (provider.concluded exact answer).1.Barred := by
  unfold Provider.concluded
  split
  · exact barred
  · exact .inr (.inl rfl)

/-- The region stays in quarantine, or a call is about to end it. -/
def Remains (call : Call) : Provider × (Phase ⊕ Answer) → Prop
  | (provider, .inl next) => provider.Barred ∨ Reviving call next
  | (_, .inr _) => True

/-- A quarantine lasts until a call is about to end it. -/
theorem Provider.Barred.advance (working : Working provider returns call phase)
    (barred : provider.Barred ∨ Reviving call phase) :
    Remains call (provider.advance environment phase) := by
  rcases barred with barred | reviving
  · cases working with
    | entered => exact .inl (barred.check call)
    | polling =>
      dsimp only [Provider.advance]
      split
      · exact .inl barred.eraseFailed
      · exact .inl barred
    | @erasing _ issue offset _ scrubbing =>
      have erased : (provider.eraseSector offset environment).Barred := barred
      dsimp only [Provider.advance]
      split
      · exact .inl barred.eraseFailed
      split
      · split
        · exact .inl erased
        cases issue with
        | false =>
          refine .inr ⟨?_, _, rfl, .inl rfl⟩
          rw [scrubbing.call_eq]
          trivial
        | true =>
          have requested := barred.requested (.inl scrubbing.state_eq)
          exact .inl (.inl requested)
      · exact .inl erased.eraseFailed
    | issuing _ fresh =>
      have requested := barred.requested (.inr fresh.state_eq)
      dsimp only [Provider.advance]
      rw [if_pos requested]
      exact .inl (.inr (.inl rfl))
    | programming =>
      dsimp only [Provider.advance]
      split
      · exact .inl (.inr (.inl rfl))
      split
      · exact .inl barred
      · exact .inl (.inr (.inl rfl))
    | verifying =>
      dsimp only [Provider.advance]
      split
      · split
        · exact .inl barred
        · exact .inl barred.concluded
      · exact .inl barred.concluded
    | fetching => exact .inl barred.concluded
    | revoking =>
      dsimp only [Provider.advance]
      split
      · exact .inl (.of_state barred.absorb)
      · exact .inr ⟨trivial, _, rfl, .inr rfl⟩
    | leaving => exact .inl (.of_state barred.absorb)
    | releasing => trivial
  · obtain ⟨revives, answer, success, rfl | rfl⟩ := reviving
    · dsimp only [Provider.advance]
      split
      · rename_i requested
        rw [Provider.absorb_requested requested]
        exact .inl (.inr (.inl rfl))
      · exact .inr ⟨revives, answer, success, .inr rfl⟩
    · trivial

end

/-- One of the calls is about to end a quarantine. -/
def Ending (tasks : Task → Option Pending) : Prop :=
  ∃ task pending phase, tasks task = some pending ∧
    pending.stage = .inside phase ∧ Reviving pending.call phase

theorem Ending.update (ending : Ending tasks) (outside : Outside tasks task) :
    Ending (Function.update tasks task value) := by
  obtain ⟨holder, pending, phase, found, inside, reviving⟩ := ending
  refine ⟨holder, pending, phase, ?_, inside, reviving⟩
  refine (Function.update_of_ne ?_ _ _).trans found
  rintro rfl
  exact outside pending phase found inside

omit [DecidableEq Task] in
/-- It is the call that holds the guard. -/
theorem Ending.reviving (ending : Ending system.tasks)
    (guarded : Guarded system) (found : system.tasks task = some pending)
    (inside : pending.stage = .inside phase) : Reviving pending.call phase := by
  obtain ⟨holder, _, _, present, within, reviving⟩ := ending
  have same : task = holder :=
    Option.some.inj ((guarded.guard_eq found inside).symm.trans (guarded.guard_eq present within))
  subst same
  rw [found] at present
  cases present
  rw [inside] at within
  cases within
  exact reviving

/-- No call that uses the region can succeed. -/
def Blocked (system : System Task) : Prop := system.provider.Barred ∨ Ending system.tasks

theorem Blocked.step (blocked : Blocked system)
    (guarded : Guarded system) (count_le : count ≤ system.returns.length)
    (lasting : ∀ done ∈ next.returns.drop count, done.call.Revives → done.answer.result ≠ .ok)
    (stepping : Stepping system next) : Blocked next := by
  cases stepping with
  | started outside | taken _ outside _ | contended _ outside =>
    exact blocked.imp id fun ending => ending.update outside
  | refused _ outside keeps =>
    refine blocked.imp ?_ fun ending => ending.update outside
    exact fun barred => barred.imp keeps id
  | @advanced task pending phase later environment _ found inside continues =>
    have current := blocked.imp id fun ending => ending.reviving guarded found inside
    have advanced := @Provider.Barred.advance _ _ environment _ _
      (guarded.working found inside) current
    rw [continues] at advanced
    refine advanced.imp id fun reviving => ?_
    exact ⟨task, _, later, Function.update_self .., rfl, reviving⟩
  | @released _ pending answer found inside =>
    rcases blocked with barred | ending
    · exact .inl barred
    obtain ⟨revives, _, success, same | same⟩ := ending.reviving guarded found inside
    · cases same
    cases same
    refine (lasting ⟨pending.call, pending.since, answer⟩ ?_ revives success).elim
    dsimp only [System.finish]
    rw [List.drop_append_of_le_length count_le]
    exact List.mem_append_right _ (.head _)

omit [DecidableEq Task] in
theorem Blocked.refuses (blocked : Blocked system) (guarded : Guarded system)
    (found : system.tasks task = some pending)
    (inside : pending.stage = .inside (.entered pending.call))
    (uses : pending.call.Uses) : Refuses system.provider pending.call := by
  rcases blocked with barred | ending
  · exact barred.refuses uses
  obtain ⟨-, _, -, same | same⟩ := ending.reviving guarded found inside
  · cases same
  · cases same

theorem Stepping.returns_le (stepping : Stepping system next) :
    system.returns <+: next.returns := by
  cases stepping with
  | refused | released => exact ⟨_, rfl⟩
  | _ => exact ⟨[], List.append_nil _⟩

theorem System.run_returns_le (system : System Task) (moves : List (Move Task)) :
    system.returns <+: (system.run moves).returns := by
  induction moves generalizing system with
  | nil => exact ⟨[], List.append_nil _⟩
  | cons move _ later =>
    exact (system.step_stepping move).returns_le.trans (later (system.step move))

theorem Confined.blocked (moves : List (Move Task))
    (guarded : Guarded system) (blocked : Blocked system)
    (count_le : count ≤ system.returns.length) (lasting :
      ∀ done ∈ (system.run moves).returns.drop count, done.call.Revives → done.answer.result ≠ .ok)
    (confined : Confined Call.Uses moment system) :
    Confined Call.Uses moment (system.run moves) := by
  induction moves generalizing system with
  | nil => exact confined
  | cons move rest later =>
    have stepping := system.step_stepping move
    have grows := stepping.returns_le.length_le
    have earlier : ∀ done ∈ (system.step move).returns.drop count,
          done.call.Revives → done.answer.result ≠ .ok := by
      intro done member
      refine lasting done ?_
      obtain ⟨added, same⟩ := (system.step move).run_returns_le rest
      have whole : (system.run (move :: rest)).returns =
            (system.step move).returns ++ added := same.symm
      rw [whole, List.drop_append_of_le_length (by omega)]
      exact List.mem_append_left _ member
    exact later (guarded.step stepping) (blocked.step guarded count_le earlier stepping)
      (by omega) lasting
      (confined.step guarded (fun _ _ found inside uses =>
          blocked.refuses guarded found inside uses) stepping)

/-! ## Isolation -/

theorem Working.last (working : Working provider returns call phase)
    (leased : provider.state = .leased) :
    (issued returns).getLast? = some provider.activeLease ∨ ∃ given, call = .begin given := by
  have scrubbed : ∀ {issue offset}, Scrubbing provider returns call issue offset →
          (issued returns).getLast? = some provider.activeLease ∨ ∃ given, call = .begin given := by
    intro issue offset scrubbing
    have state := scrubbing.state_eq
    rw [leased] at state
    cases issue <;> cases state
  have ended : ∀ {answer}, Outcome provider returns call answer →
        (issued returns).getLast? = some provider.activeLease ∨ ∃ given, call = .begin given := by
    intro answer outcome
    cases outcome with
    | failed failure sound | recovered success sound | cleared success sound
    | fetched _ sound => exact .inl (sound leased).1
    | issued => exact .inr ⟨_, rfl⟩
    | written _ rewriting => exact .inl rewriting.last
  cases working with
  | entered kept sound | programming kept sound state_eq lease_eq
  | fetching kept sound valid state_eq lease_eq | revoking kept sound => exact .inl (sound leased).1
  | polling scrubbing | erasing scrubbing => exact scrubbed scrubbing
  | issuing => exact .inr ⟨_, rfl⟩
  | verifying _ rewriting => exact .inl rewriting.last
  | leaving kept outcome | releasing kept outcome => exact ended outcome

/-- What the users of the scratch store rely on. -/
structure Isolating (system : System Task) : Prop where
  idle : system.provider.state = .idle → system.provider.activeLease = 0
  /-- The active lease is the last one; it is being issued if need be. -/
  leased : system.provider.state = .leased → system.provider.activeLease ≠ 0 ∧
        system.provider.activeLease = system.provider.nextLease ∧
          ((issued system.returns).getLast? = some system.provider.activeLease ∨
            ∃ task pending given, system.guard = some task ∧ system.tasks task = some pending ∧
                pending.call = .begin given)
  issued_once : (issued system.returns).Nodup
  isolated : Isolated system.returns
  /-- A call that starts now under a stale lease never succeeds. -/
  stale : ∀ lease, Stale system.provider lease → ∀ later, ∀ done ∈ (system.run later).returns,
        system.clock ≤ done.since → done.call.lease? = some lease → done.answer.result ≠ .ok
  /-- Nor does one that starts in quarantine, while the quarantine lasts. -/
  quarantined : system.provider.state = .quarantined ∨ system.provider.quarantineRequested = true →
      ∀ later, (∀ done ∈ (system.run later).returns.drop system.returns.length,
          done.call.Revives → done.answer.result ≠ .ok) →
          ∀ done ∈ (system.run later).returns, system.clock ≤ done.since → done.call.Uses →
              done.answer.result ≠ .ok

/-- The scratch store isolates its leases in every interleaving. -/
theorem scratch_isolated (flash : Nat → UInt8) (moves : List (Move Task)) :
    Isolating ((System.start flash).run moves) := by
  have guarded := (@Guarded.start Task flash).run moves
  generalize (System.start flash).run moves = system at guarded
  refine
    { idle := guarded.kept.idle
      leased := ?_
      issued_once := guarded.kept.issued_nodup
      isolated := guarded.kept.isolated
      stale := ?_
      quarantined := ?_ }
  · intro leased
    obtain ⟨newest, nonzero⟩ := guarded.kept.leased leased
    refine ⟨nonzero, newest, ?_⟩
    cases holder : system.guard with
    | none => exact .inl ((guarded.free holder).2 leased).1
    | some task =>
      obtain ⟨pending, _, found, _, working⟩ := guarded.held task holder
      refine (working.last leased).imp id ?_
      rintro ⟨given, begins⟩
      exact ⟨task, pending, given, rfl, found, begins⟩
  · intro lease stale later done member
    have confined := Confined.stale later guarded stale (guarded.confined _)
    exact confined.returned done member
  · intro quarantined later lasting done member
    have blocked : Blocked system := .inl (quarantined.elim (fun state => .inr (.inl state)) .inl)
    have confined := Confined.blocked later guarded blocked
      (Nat.le_refl _) lasting (guarded.confined _)
    exact confined.returned done member

end EspFrp.Flash

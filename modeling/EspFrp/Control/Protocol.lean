import EspFrp.Control.Session

/-!
# The order of a control session

An abstract machine that says which events may follow which: the login, the
registration of the proxy, heartbeats and their answers, work requests, the
start of the service with the first answer, and the end.  A refused message
leaves nothing but the end.
-/

namespace EspFrp.Control

/-- What the order of a session depends on. -/
@[ext]
structure Protocol where
  kind : Kind
  phase : Phase := .authenticating
  proxyQueued : Bool := false
  pingPending : Bool := false
  pongs : Nat := 0
  started : Bool := false
  starting : Bool := false
  refused : Bool := false
deriving DecidableEq, Repr

/-- The phases of a session that has not ended. -/
def Phase.live : Phase → Bool
  | .failed | .stopped => false
  | _ => true

/-- The place of a phase in the order. -/
def Phase.rank : Phase → Nat
  | .authenticating => 0
  | .registering => 1
  | .registered => 2
  | .failed | .stopped => 3

/-- The sessions with a listener or a controller to start. -/
def Kind.serves : Kind → Bool
  | .provider => false
  | _ => true

/-- The phase after the login. -/
def Kind.loggedIn (kind : Kind) : Phase :=
  if kind.visiting then .registered else .registering

/-- The phase a result ends in. -/
def Phase.ended (result : Result) : Phase :=
  if result = .cancelled then .stopped else .failed

/-- The proxy is queued. -/
def Event.isProxy : Event → Bool
  | .proxyQueued _ => true
  | _ => false

/-- The proxy is registered. -/
def Event.isRegistration : Event → Bool
  | .registered _ => true
  | _ => false

/-- The service starts. -/
def Event.isStart : Event → Bool
  | .serviceStarted => true
  | _ => false

/-- A heartbeat is queued. -/
def Event.isPing : Event → Bool
  | .pingQueued _ => true
  | _ => false

/-- A heartbeat is answered. -/
def Event.isPong : Event → Bool
  | .pong => true
  | _ => false

theorem Phase.ended_cases (result : Result) :
    Phase.ended result = .failed ∨ Phase.ended result = .stopped := by
  rw [Phase.ended]
  split
  · exact .inr rfl
  · exact .inl rfl

namespace Protocol

/-- Nothing is in the way of an ordinary event. -/
structure Free (protocol : Protocol) : Prop where
  settled : protocol.starting = false
  trusted : protocol.refused = false

/-- One event. -/
inductive Step : Protocol → Event → Protocol → Prop where
  | loggedIn {protocol} (free : Free protocol) (phase : protocol.phase = .authenticating) :
      Step protocol .loggedIn { protocol with phase := protocol.kind.loggedIn }
  | proxyQueued {protocol frame} (free : Free protocol) (phase : protocol.phase = .registering)
      (unqueued : protocol.proxyQueued = false) :
      Step protocol (.proxyQueued frame) { protocol with proxyQueued := true }
  | pingQueued {protocol frame} (free : Free protocol) (phase : protocol.phase = .registered)
      (idle : protocol.pingPending = false) :
      Step protocol (.pingQueued frame) { protocol with pingPending := true }
  | registered {protocol address} (free : Free protocol) (phase : protocol.phase = .registering)
      (queued : protocol.proxyQueued = true) :
      Step protocol (.registered address) { protocol with phase := .registered }
  | workRequested {protocol} (free : Free protocol) (provider : protocol.kind.visiting = false)
      (phase : protocol.phase = .registering ∨ protocol.phase = .registered) :
      Step protocol .workRequested protocol
  | answered {protocol} (free : Free protocol) (kind : protocol.kind.xtcp = true)
      (phase : protocol.phase = .registered) :
      Step protocol .answered protocol
  | serviceStarted {protocol} (free : Free protocol) (kind : protocol.kind.serves = true)
      (phase : protocol.phase = .registered)
      (pending : protocol.pingPending = true)
      (first : protocol.pongs = 0)
      (unstarted : protocol.started = false) :
      Step protocol .serviceStarted { protocol with started := true, starting := true }
  | pong {protocol} (trusted : protocol.refused = false) (phase : protocol.phase = .registered)
      (pending : protocol.pingPending = true)
      (service : protocol.starting = (protocol.kind.serves && protocol.pongs == 0)) :
      Step protocol .pong
        { protocol with
          pingPending := false
          pongs := protocol.pongs + 1
          starting := false }
  | refused {protocol payload} (free : Free protocol) (live : protocol.phase.live = true) :
      Step protocol (.refused payload) { protocol with refused := true }
  | ended {protocol result} (settled : protocol.starting = false)
      (live : protocol.phase.live = true) :
      Step protocol (.ended result) { protocol with phase := .ended result, pingPending := false }

/-- A sequence of events. -/
inductive Run : Protocol → List Event → Protocol → Prop where
  | nil {protocol} : Run protocol [] protocol
  | snoc {first middle last events event}
      (run : Run first events middle) (step : Step middle event last) :
      Run first (events ++ [event]) last

theorem Step.single (step : Step first event last) : Run first [event] last := Run.snoc .nil step

theorem Run.append (before : Run first earlier middle) (after : Run middle later last) :
    Run first (earlier ++ later) last := by
  induction after with
  | nil => simpa using before
  | snoc _ step ih =>
    rw [← List.append_assoc]
    exact .snoc ih step

/-! ## What every run keeps -/

/-- The parts of the state agree with one another. -/
structure Coherent (protocol : Protocol) : Prop where
  visitors : protocol.kind.visiting = true →
    protocol.proxyQueued = false ∧ protocol.phase ≠ .registering
  queued : protocol.kind.visiting = false →
    protocol.phase = .registered → protocol.proxyQueued = true
  service : protocol.started =
    (protocol.kind.serves && (protocol.starting || decide (0 < protocol.pongs)))
  calm : protocol.phase ≠ .registered → protocol.pingPending = false

/-- The counts of the events agree with the state. -/
structure Counted (events : List Event) (protocol : Protocol) : Prop where
  proxies : events.countP Event.isProxy = protocol.proxyQueued.toNat
  starts : events.countP Event.isStart = protocol.started.toNat
  pongs : events.countP Event.isPong = protocol.pongs
  pings : protocol.phase.live = true →
    events.countP Event.isPing = protocol.pongs + protocol.pingPending.toNat
  registrations : events.countP Event.isRegistration ≤ protocol.phase.rank / 2

theorem Step.kind (step : Step first event last) : last.kind = first.kind := by
  cases step <;> rfl

theorem Run.kind (run : Run first events last) : last.kind = first.kind := by
  induction run with
  | nil => rfl
  | snoc _ step ih => rw [step.kind, ih]

/-- The phase never goes back. -/
theorem Step.rank (step : Step first event last) : first.phase.rank ≤ last.phase.rank := by
  cases step with
  | loggedIn _ phase =>
    rw [phase]
    exact Nat.zero_le _
  | registered _ phase =>
    rw [phase]
    exact Nat.le_succ 1
  | @ended result =>
    have highest : (Phase.ended result).rank = 3 := by
      rw [Phase.ended]
      split <;> rfl
    rw [highest]
    cases first.phase <;> decide
  | _ => exact le_rfl

theorem Run.rank (run : Run first events last) : first.phase.rank ≤ last.phase.rank := by
  induction run with
  | nil => exact le_rfl
  | snoc _ step ih => exact ih.trans step.rank

/-- Nothing happens in a session that has ended. -/
theorem Step.live (step : Step first event last) : first.phase.live = true := by
  cases step with
  | workRequested _ _ phase => rcases phase with phase | phase <;>
      rw [phase] <;> rfl
  | refused _ live | ended _ live => exact live
  | loggedIn _ phase | proxyQueued _ phase _ | pingQueued _ phase _
  | registered _ phase _ | answered _ _ phase
  | serviceStarted _ _ phase _ _ _ | pong _ phase _ _ =>
    rw [phase]
    rfl

theorem Coherent.initial (kind : Kind) : Coherent { kind := kind } where
  visitors _ := ⟨rfl, by simp⟩
  queued _ phase := by cases phase
  service := by simp
  calm _ := rfl

/-- One event keeps the state coherent. -/
theorem Coherent.step (coherent : Coherent first)
    (step : Step first event last) : Coherent last := by
  obtain ⟨visitors, queued, service, calm⟩ := coherent
  cases step with
  | loggedIn _ phase =>
    have idle := calm (by simp [phase])
    refine ⟨fun visiting => ⟨(visitors visiting).1, ?_⟩, ?_, service, fun _ => idle⟩
    · simp [Kind.loggedIn, visiting]
    · intro provider registered
      simp [Kind.loggedIn, provider] at registered
  | proxyQueued _ phase =>
    refine ⟨fun visiting => absurd phase (visitors visiting).2, fun _ _ => rfl, service, calm⟩
  | pingQueued _ phase =>
    exact ⟨visitors, queued, service, fun unregistered => absurd phase unregistered⟩
  | registered _ phase isQueued =>
    refine ⟨fun visiting => absurd phase (visitors visiting).2,
      fun _ _ => isQueued, service, fun unregistered => ?_⟩
    exact absurd rfl unregistered
  | workRequested | answered | refused => exact ⟨visitors, queued, service, calm⟩
  | serviceStarted _ kind =>
    refine ⟨visitors, queued, ?_, calm⟩
    simp [kind]
  | pong _ _ _ isService =>
    refine ⟨visitors, queued, ?_, fun _ => rfl⟩
    rw [service, isService]
    cases first.kind.serves <;> cases first.pongs <;> rfl
  | @ended result =>
    refine ⟨fun visiting => ⟨(visitors visiting).1, ?_⟩, ?_, service, fun _ => rfl⟩
    · rcases Phase.ended_cases result with ends | ends <;> simp [ends]
    · intro _ registered
      rcases Phase.ended_cases result with ends | ends <;>
        simp [ends] at registered

theorem Counted.initial (kind : Kind) : Counted [] { kind := kind } :=
  ⟨rfl, rfl, rfl, fun _ => rfl, Nat.zero_le _⟩

theorem countP_snoc (holds : Event → Bool) (events : List Event) (event : Event) :
    (events ++ [event]).countP holds = events.countP holds + (holds event).toNat := by
  rw [List.countP_append, List.countP_singleton]
  cases holds event <;> rfl

/-- One event keeps the counts. -/
theorem Counted.step (counted : Counted events first)
    (step : Step first event last) : Counted (events ++ [event]) last := by
  obtain ⟨proxies, starts, pongs, pings, registrations⟩ := counted
  have pinged := pings step.live
  have grown := registrations.trans (Nat.div_le_div_right (c := 2) step.rank)
  cases step with
  | registered _ phase =>
    have none : events.countP Event.isRegistration ≤ 0 := by
      simpa [phase, Phase.rank] using registrations
    refine ⟨?_, ?_, ?_, fun _ => ?_, ?_⟩ <;> rw [countP_snoc]
    · exact proxies
    · exact starts
    · exact pongs
    · exact pinged
    · simpa [Event.isRegistration, Phase.rank] using none
  | proxyQueued _ _ unqueued =>
    refine ⟨?_, ?_, ?_, fun _ => ?_, ?_⟩ <;> rw [countP_snoc]
    · rw [proxies, unqueued]
      rfl
    · exact starts
    · exact pongs
    · exact pinged
    · exact grown
  | serviceStarted _ _ _ _ _ unstarted =>
    refine ⟨?_, ?_, ?_, fun _ => ?_, ?_⟩ <;> rw [countP_snoc]
    · exact proxies
    · rw [starts, unstarted]
      rfl
    · exact pongs
    · exact pinged
    · exact grown
  | pingQueued _ _ idle =>
    refine ⟨?_, ?_, ?_, fun _ => ?_, ?_⟩ <;> rw [countP_snoc]
    · exact proxies
    · exact starts
    · exact pongs
    · rw [pinged, idle]
      rfl
    · exact grown
  | pong _ _ pending =>
    refine ⟨?_, ?_, ?_, fun _ => ?_, ?_⟩ <;> rw [countP_snoc]
    · exact proxies
    · exact starts
    · exact congrArg Nat.succ pongs
    · rw [pinged, pending]
      rfl
    · exact grown
  | @ended result _ live =>
    refine ⟨?_, ?_, ?_, fun alive => ?_, ?_⟩
    · rw [countP_snoc]
      exact proxies
    · rw [countP_snoc]
      exact starts
    · rw [countP_snoc]
      exact pongs
    · rcases Phase.ended_cases result with ends | ends <;>
        rw [ends] at alive <;> cases alive
    · rw [countP_snoc]
      exact grown
  | loggedIn | workRequested | answered | refused =>
    refine ⟨?_, ?_, ?_, fun _ => ?_, ?_⟩ <;> rw [countP_snoc]
    · exact proxies
    · exact starts
    · exact pongs
    · exact pinged
    · exact grown

theorem Run.coherent (coherent : Coherent first) (run : Run first events last) : Coherent last := by
  induction run with
  | nil => exact coherent
  | snoc _ step ih => exact ih.step step

variable {kind : Kind}

theorem Run.ordered (run : Run { kind := kind } events last) :
    Coherent last ∧ Counted events last := by
  generalize start : ({ kind := kind } : Protocol) = first at run
  induction run with
  | nil =>
    subst start
    exact ⟨.initial kind, .initial kind⟩
  | snoc _ step ih => exact ⟨ih.1.step step, ih.2.step step⟩

/-- After a refused message only the end can follow. -/
theorem Step.after_refused (step : Step first event last)
    (refused : first.refused = true) : ∃ result, event = .ended result := by
  cases step with
  | ended => exact ⟨_, rfl⟩
  | pong trusted => rw [refused] at trusted; cases trusted
  | loggedIn free _ | proxyQueued free _ _ | pingQueued free _ _
  | registered free _ _ | workRequested free _ _ | answered free _ _
  | serviceStarted free _ _ _ _ _ | refused free _ =>
    have trusted := free.trusted
    rw [refused] at trusted
    cases trusted

/-- After the start of the service comes the answer it belongs to. -/
theorem Step.after_start (step : Step first event last)
    (starting : first.starting = true) : event = .pong := by
  cases step with
  | pong => rfl
  | ended settled => rw [starting] at settled; cases settled
  | loggedIn free _ | proxyQueued free _ _ | pingQueued free _ _
  | registered free _ _ | workRequested free _ _ | answered free _ _
  | serviceStarted free _ _ _ _ _ | refused free _ =>
    have settled := free.settled
    rw [starting] at settled
    cases settled

/-- An event of a run, with what came before and after it. -/
theorem Run.split (run : Run first (before ++ event :: after) last) :
    ∃ reached next, Run first before reached ∧ Step reached event next ∧ Run next after last := by
  generalize same : before ++ event :: after = events at run
  induction run generalizing after with
  | nil => exact absurd same (by simp)
  | @snoc middle last events latest run step ih =>
    rcases List.eq_nil_or_concat after with rfl | ⟨rest, final, rfl⟩
    · obtain ⟨rfl, rest⟩ := List.append_inj' same rfl
      cases rest
      exact ⟨middle, last, run, step, .nil⟩
    have shifted : (before ++ event :: rest) ++ [final] = events ++ [latest] := by
      simpa using same
    obtain ⟨rfl, rest⟩ := List.append_inj' shifted rfl
    cases rest
    obtain ⟨reached, next, earlier, at_, later⟩ := ih rfl
    refine ⟨reached, next, earlier, at_, ?_⟩
    rw [List.concat_eq_append]
    exact .snoc later step

/-- A run without events stays where it is. -/
theorem Run.nil_eq (run : Run first events last) (empty : events = []) : last = first := by
  cases run with
  | nil => rfl
  | snoc => simp at empty

/-- The first step of a run. -/
theorem Run.head (run : Run first (event :: events) last) :
    ∃ next, Step first event next ∧ Run next events last := by
  have whole : Run first ([] ++ event :: events) last := run
  obtain ⟨_, next, start, step, rest⟩ := whole.split
  have same := start.nil_eq rfl
  subst same
  exact ⟨next, step, rest⟩

/-- The service was started by the last event, or not just now. -/
theorem Run.starting (run : Run { kind := kind } events last) (starting : last.starting = true) :
    events.getLast? = some .serviceStarted ∧ last.phase = .registered := by
  cases run with
  | nil => cases starting
  | snoc _ step =>
    rw [List.getLast?_concat]
    cases step with
    | serviceStarted _ _ phase => exact ⟨rfl, phase⟩
    | pong => cases starting
    | loggedIn free | proxyQueued free | pingQueued free
    | registered free | workRequested free | answered free
    | refused free =>
      have settled := free.settled
      rw [starting] at settled
      cases settled
    | ended settled =>
      rw [starting] at settled
      cases settled

/-- A session that is past its login has logged in. -/
theorem Run.loggedIn (run : Run { kind := kind } events last)
    (phase : last.phase = .registering ∨ last.phase = .registered) : .loggedIn ∈ events := by
  generalize start : ({ kind := kind } : Protocol) = first at run
  induction run with
  | nil =>
    subst start
    rcases phase with phase | phase <;> cases phase
  | snoc _ step ih =>
    rw [List.mem_append]
    cases step with
    | loggedIn => exact .inr List.mem_cons_self
    | registered _ registering => exact .inl (ih (.inl registering))
    | @ended result =>
      rcases Phase.ended_cases result with ends | ends <;>
        rcases phase with phase | phase <;>
        rw [show (_ : Phase) = _ from ends] at phase <;> cases phase
    | _ => exact .inl (ih phase)

/-- The last step of a run that ends the session. -/
theorem Run.after_end (run : Run first events last)
    (dead : first.phase.live = false) : events = [] := by
  cases events with
  | nil => rfl
  | cons =>
    obtain ⟨_, step, _⟩ := run.head
    rw [step.live] at dead
    cases dead

end Protocol

end EspFrp.Control

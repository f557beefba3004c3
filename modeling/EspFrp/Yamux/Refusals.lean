import EspFrp.Yamux.Bounds

/-!
# Refused calls

A call that the mux refuses leaves it as it was, except that a refused write
may stage the output that is due anyway.  A header that waits for a control
slot has had no effect, and is started once when the parser goes on.
-/

namespace EspFrp.Yamux

variable (world : World) (mux : Mux) (bytes : List UInt8)

open Library

/-! ## Calls -/

theorem Mux.queue_refused {mux queued : Mux} {kind : Kind} {flags id value : Nat}
    (answer : mux.queue kind flags id value = (result, queued)) (refused : result ≠ .ok) :
    queued = mux := by
  unfold Mux.queue at answer
  split at answer
  · cases answer
    rfl
  cases answer
  exact absurd rfl refused

theorem yamuxOutput_of_busy {mux : Mux} (ready : mux.failure = .ok) (busy : mux.output ≠ []) :
    yamuxOutput mux = (.ok, mux.output.drop mux.outputOffset, mux) := by
  simp [yamuxOutput, ready, busy]

/-- The output that is due is staged once. -/
theorem yamuxOutput_again : yamuxOutput (yamuxOutput mux).2.2 = yamuxOutput mux := by
  rcases yamuxOutput_cases mux with
    same | ⟨ready, free, ⟨_, _, _, same⟩ | ⟨_, _, _, _, _, same⟩⟩
  · rw [same]
  all_goals
    have busy : (yamuxOutput mux).2.2.output ≠ [] := by
      rw [same]
      exact Header.encode_ne_nil _
    rw [yamuxOutput_of_busy (by rw [same]; exact ready) busy]
    simp only [yamuxOutput, ready, free, ne_eq, not_true_eq_false, if_false, if_true] at busy ⊢
    split at busy <;> simp_all

/-- What is staged or queued keeps its place. -/
theorem World.Reachable.unsent_output {world : World} (reachable : world.Reachable) :
    world.mux.unsent <+: (yamuxOutput world.mux).2.2.unsent := by
  rcases yamuxOutput_cases world.mux with
    same | ⟨_, free, ⟨control, rest, queued, same⟩ | ⟨quiet, _, _, _, _, _⟩⟩
  · rw [same]
  · have offset := reachable.outputOffset_of_free free
    rw [same]
    simp [Mux.unsent, Mux.queued, free, offset, queued, Ring.contents_drop,
      encodeFrames, Header.frame, Frame.encode]
  · simp [Mux.unsent, Mux.queued, free, quiet, encodeFrames]

/-! ## Headers that wait -/

theorem startFrame_blocked {mux : Mux} (blocked : (startFrame mux).1 = .wouldBlock) :
    startFrame mux = (.wouldBlock, mux) := by
  have outcome := startFrame_started mux
  generalize startFrame mux = result at *
  cases outcome with
  | postponed => rfl
  | _ => cases blocked

theorem payloadTurn_blocked {mux next : Mux} {bytes rest : List UInt8}
    (active : mux.frameActive = true)
    (stopped : payloadTurn mux bytes = .stop .wouldBlock rest next) : next.frameActive = true := by
  dsimp only [payloadTurn] at stopped
  repeat' split at stopped
  all_goals
    cases stopped
    try split
    all_goals exact active

/-- The parser waits at a header that is complete. -/
theorem feedLoop_blocked (blocked : (feedLoop mux bytes).1 = .wouldBlock)
    (idle : (feedLoop mux bytes).2.2.frameActive = false) :
    (feedLoop mux bytes).2.2.header.length = headerBytes ∧
      (startFrame (feedLoop mux bytes).2.2).1 = .wouldBlock := by
  fun_induction feedLoop mux bytes with
  | case1 _ _ _ result _ next turn =>
    cases blocked
    unfold feedTurn at turn
    split at turn
    · next active => exact absurd (payloadTurn_blocked active turn) (by simp_all)
    dsimp only [headerTurn] at turn
    split at turn
    · cases turn
    next complete =>
    split at turn
    · injection turn with result _ final
      have same := startFrame_blocked result
      rw [same] at final
      rw [← final]
      exact ⟨not_not.mp complete, result⟩
    · split at turn
      · next active => exact absurd (payloadTurn_blocked active turn) (by simp_all)
      · cases turn
  | case2 _ _ _ _ _ _ ih => exact ih blocked idle
  | case3 => cases blocked

/-- The outcome of the loop that begins with a turn. -/
def Turn.outcome : Turn → Result × List UInt8 × Mux
  | .stop result rest mux => (result, rest, mux)
  | .next rest mux => feedLoop mux rest

theorem feedLoop_turn : feedLoop mux bytes = (feedTurn mux bytes).outcome := by
  by_cases continues : feedContinues mux bytes = true
  · rw [feedLoop, if_pos continues]
    split <;> next turn => rw [turn, Turn.outcome]
  rw [feedLoop, if_neg continues]
  simp only [feedContinues, Bool.not_eq_true, decide_eq_false_iff_not,
    not_or, not_not, not_and] at continues
  rcases continues with ⟨rfl, short⟩
  cases active : mux.frameActive with
  | true => simp [feedTurn, active, payloadTurn, Turn.outcome]
  | false =>
    have short := short (by simp [active])
    simp [feedTurn, active, headerTurn, Mux.fillHeader, short, Turn.outcome]

/-- The loop completes the header, starts its frame and goes on. -/
theorem feedLoop_header {mux : Mux} (idle : mux.frameActive = false) (bytes : List UInt8) :
    feedLoop mux bytes =
      let rest := bytes.drop (headerBytes - mux.header.length)
      let started := startFrame (mux.fillHeader bytes)
      if (mux.fillHeader bytes).header.length ≠ headerBytes then
        (.ok, rest, mux.fillHeader bytes)
      else if started.1 = .ok then
        feedLoop started.2 rest
      else
        (started.1, rest, started.2) := by
  rw [feedLoop_turn, feedTurn, if_neg (by simp [idle])]
  dsimp only [headerTurn]
  by_cases complete : (mux.fillHeader bytes).header.length ≠ headerBytes
  · rw [if_pos complete, if_pos complete, Turn.outcome]
  rw [if_neg complete, if_neg complete]
  by_cases started : (startFrame (mux.fillHeader bytes)).1 = .ok
  · rw [if_neg (not_not.mpr started), if_pos started]
    split
    · next active => rw [feedLoop_turn, feedTurn, if_pos active]
    · rfl
  · rw [if_pos started, if_neg started, Turn.outcome]

/-- The parser goes on with the header that waits. -/
theorem feedLoop_pending {mux : Mux} (idle : mux.frameActive = false)
    (complete : mux.header.length = headerBytes) (bytes : List UInt8) :
    feedLoop mux bytes =
      if (startFrame mux).1 = .ok then
        feedLoop (startFrame mux).2 bytes
      else
        ((startFrame mux).1, bytes, (startFrame mux).2) := by
  have filled : mux.fillHeader bytes = mux := by simp [Mux.fillHeader, complete]
  rw [feedLoop_header idle, filled, complete]
  rfl

/-- No call but a feed touches the header that waits. -/
theorem World.step_header {call : Call} (other : ∀ bytes, call ≠ .feed bytes) :
    (world.step call).mux.header = world.mux.header ∧
      (world.step call).mux.frameActive = world.mux.frameActive := by
  have core {mux : Mux} (same : mux.core = world.mux.core) : mux.header = world.mux.header ∧
        mux.frameActive = world.mux.frameActive := by
    simp only [Mux.core, Prod.mk.injEq] at same
    exact ⟨same.2.1, same.2.2.1⟩
  have staged : (yamuxOutput world.mux).2.2.header = world.mux.header ∧
      (yamuxOutput world.mux).2.2.frameActive = world.mux.frameActive := by
    rcases yamuxOutput_cases world.mux with
      same | ⟨_, _, ⟨_, _, _, same⟩ | ⟨_, _, _, _, _, same⟩⟩
    all_goals
      rw [same]
      exact ⟨rfl, rfl⟩
  cases call with
  | feed bytes => exact absurd rfl (other bytes)
  | openStream allocated =>
    dsimp only [World.step]
    rcases yamuxOpen_cases world.mux allocated with ⟨_, same⟩ | ⟨_, _, _, same⟩
    all_goals
      rw [same]
      exact ⟨rfl, rfl⟩
  | write id bytes =>
    dsimp only [World.step]
    rcases yamuxWrite_cases world.mux id bytes with
      ⟨_, same | ⟨_, same⟩⟩ | ⟨_, stream, _, same⟩ <;> rw [same]
    · exact ⟨rfl, rfl⟩
    · exact staged
    · exact ⟨rfl, rfl⟩
  | output => exact staged
  | _ => exact core (world.step_core rfl)

theorem World.run_header (calls : List Call) (other : ∀ call ∈ calls, ∀ bytes, call ≠ .feed bytes) :
    (calls.foldl World.step world).mux.header = world.mux.header ∧
      (calls.foldl World.step world).mux.frameActive =
        world.mux.frameActive := by
  induction calls generalizing world with
  | nil => exact ⟨rfl, rfl⟩
  | cons call _ ih =>
    have first := world.step_header (other call List.mem_cons_self)
    have later := ih (world.step call) fun call member => other call (List.mem_cons_of_mem _ member)
    exact ⟨later.1.trans first.1, later.2.trans first.2⟩

/--
In every run a refused call changes nothing, and a refused write takes no byte
and leaves the output what it would have been.  A header at which the parser
waits has had no effect; whatever else is called, the next feed starts it
once and goes on behind it.
-/
theorem refusals_harmless (now : Nat) (calls : List Call) :
    let world := World.run now calls
    let mux := world.mux
    (∀ allocated, (yamuxOpen mux allocated).1 ≠ .ok → (yamuxOpen mux allocated).2.2 = mux) ∧
    (∀ id, (yamuxCloseWrite mux id).1 ≠ .ok → (yamuxCloseWrite mux id).2 = mux) ∧
    (∀ id, (yamuxReset mux id).1 ≠ .ok → (yamuxReset mux id).2 = mux) ∧
    (∀ id, (yamuxRelease mux id).1 ≠ .ok → (yamuxRelease mux id).2 = mux) ∧
    (∀ opaqueId, (yamuxPing mux opaqueId).1 ≠ .ok → (yamuxPing mux opaqueId).2 = mux) ∧
    ((yamuxGoaway mux).1 ≠ .ok → (yamuxGoaway mux).2 = mux) ∧
    (∀ id bytes, (yamuxWrite mux id bytes).1 ≠ .ok → (yamuxWrite mux id bytes).2.1 = 0 ∧
      ((yamuxWrite mux id bytes).2.2 = mux ∨
        (yamuxWrite mux id bytes).2.2 = (yamuxOutput mux).2.2) ∧
      mux.unsent <+: (yamuxWrite mux id bytes).2.2.unsent ∧
      yamuxOutput (yamuxWrite mux id bytes).2.2 = yamuxOutput mux) ∧
    ∀ bytes (later : List Call) more, mux.failure = .ok → (yamuxFeed mux bytes).1 = .wouldBlock →
      let blocked := world.step (.feed bytes)
      let resumed := (later.foldl World.step blocked).mux
      blocked.mux.frameActive = false →
      (∀ call ∈ later, ∀ bytes, call ≠ .feed bytes) →
      startFrame blocked.mux = (.wouldBlock, blocked.mux) ∧
      resumed.header = blocked.mux.header ∧
      (resumed.failure = .ok →
        if (startFrame resumed).1 = .ok then
          yamuxFeed resumed more = yamuxFeed (startFrame resumed).2 more ∧
          ((startFrame resumed).2.frameActive = true ∨ (startFrame resumed).2.header = [])
        else
          yamuxFeed resumed more = ((startFrame resumed).1, 0, (startFrame resumed).2)) := by
  intro world mux
  have reachable : world.Reachable := World.run_reachable now calls
  refine ⟨?_, ?_, ?_, ?_, ?_, ?_, ?_, ?_⟩
  · intro allocated refused
    rcases yamuxOpen_cases mux allocated with ⟨_, same⟩ | ⟨_, _, _, answer⟩
    · exact same
    · exact absurd (congrArg Prod.fst answer) refused
  · intro id
    unfold yamuxCloseWrite
    repeat' split
    all_goals
      intro refused
      first
        | rfl
        | exact absurd rfl refused
        | exact Mux.queue_refused ‹_› refused
  · intro id
    unfold yamuxReset
    repeat' split
    all_goals
      intro refused
      first
        | rfl
        | exact absurd rfl refused
        | exact Mux.queue_refused ‹_› refused
  · intro id
    unfold yamuxRelease
    repeat' split
    all_goals
      intro refused
      first
        | rfl
        | exact absurd rfl refused
  · intro opaqueId
    unfold yamuxPing
    repeat' split
    all_goals
      intro refused
      first
        | rfl
        | exact absurd rfl refused
        | exact Mux.queue_refused ‹_› refused
  · unfold yamuxGoaway
    repeat' split
    all_goals
      intro refused
      first
        | rfl
        | exact absurd rfl refused
        | exact Mux.queue_refused ‹_› refused
  · intro id bytes refused
    rcases yamuxWrite_cases mux id bytes with ⟨none, same | ⟨_, same⟩⟩ | ⟨_, stream, _, answer⟩
    · rw [same]
      exact ⟨none, .inl rfl, List.prefix_rfl, rfl⟩
    · rw [same]
      exact ⟨none, .inr rfl, reachable.unsent_output, yamuxOutput_again mux⟩
    · exact absurd (congrArg Prod.fst answer) refused
  · intro bytes later more ready waits blocked resumed idle others
    have fed : yamuxFeed mux bytes = ((feedLoop mux bytes).1,
        bytes.length - (feedLoop mux bytes).2.1.length,
        (feedLoop mux bytes).2.2) := if_neg (not_not.mpr ready)
    have stopped : blocked.mux = (feedLoop mux bytes).2.2 := congrArg (fun answer => answer.2.2) fed
    rw [fed] at waits
    rw [stopped] at idle
    have ⟨complete, still⟩ := feedLoop_blocked mux bytes waits idle
    rw [← stopped] at complete still idle
    have ⟨header, active⟩ := World.run_header blocked later others
    refine ⟨startFrame_blocked still, header, ?_⟩
    intro healthy
    have goesOn := @feedLoop_pending resumed (active.trans idle)
      ((congrArg List.length header).trans complete) more
    split
    next started =>
      rw [if_pos started] at goesOn
      have calm : (startFrame resumed).2.failure = .ok := by
        rcases startFrame_failure resumed healthy with ⟨_, calm⟩ | ⟨_, refused⟩
        · exact calm
        · exact absurd started refused
      constructor
      · simp only [yamuxFeed, healthy, calm, goesOn, ne_eq, not_true_eq_false, if_false]
      · rcases startFrame_ok_shape (active.trans idle) started with ⟨_, empty⟩ | ⟨entered, _⟩
        · exact .inr empty
        · exact .inl entered
    next refused =>
      rw [if_neg refused] at goesOn
      simp [yamuxFeed, healthy, goesOn]

end EspFrp.Yamux

import EspFrp.Library.HappensBefore
import EspFrp.Types

/-!
# Asynchronous name lookups

`dns_lwip.c`.  The owner of a request polls, cancels and destroys it, while the network thread
runs `dispatch` and, for a lookup in progress, `found`.  Every access to the request is a step,
in any interleaving.  A plain access goes to the memory directly: that is its meaning as long as
it races with no other, and that it does not is proved below.
-/

namespace EspFrp.Local.Dns

open Library.Memory

inductive Thread where
  | owner
  | tcpip

inductive Flag where
  | cancelled
  | done

inductive Field where
  | hostname
  | error
  | result
  | ipv4

/-- `ip_addr_t`. -/
structure IpAddr where
  v4 : Bool
  bytes : List UInt8

/-- An address of IPv4, and not the one that stands for any. -/
def IpAddr.usable (address : IpAddr) : Bool := address.v4 && address.bytes != [0, 0, 0, 0]

/-- The plain fields that `complete` writes. -/
structure Memory where
  error : Int := 0
  result : Result := .ok
  ipv4 : List UInt8 := [0, 0, 0, 0]

inductive Write where
  | error (value : Int)
  | result (value : Result)
  | ipv4 (value : List UInt8)

def Write.field : Write → Field
  | .error _ => .error
  | .result _ => .result
  | .ipv4 _ => .ipv4

def Memory.apply (memory : Memory) : Write → Memory
  | .error value => { memory with error := value }
  | .result value => { memory with result := value }
  | .ipv4 value => { memory with ipv4 := value }

/-- `complete`, up to the store to `done`. -/
def complete (address : Option IpAddr) (error : Int) : List Write :=
  [.error error, .result .dnsError] ++
    match address with
    | some address => if address.usable then [.ipv4 address.bytes, .result .ok] else []
    | none => []

/-- Where the network thread is. -/
inductive Callback where
  | queued
  | checked
  | waiting
  | completing (writes : List Write)
  | finished

/-- Where the owner is: between two calls, in `efrp_dns_poll` after it has seen the completion,
read the error, found the request not cancelled and read a good result, or in
`efrp_dns_destroy`. -/
inductive Owner where
  | idle
  | polled
  | tested (error : Int)
  | passed (error : Int)
  | fetched (error : Int)
  | destroying
  | gone

/-- A result with the error of the system and, if it is good, the address. -/
abbrev Answer := Result × Int × Option (List UInt8)

/-- A request that `efrp_dns_start` has queued, with the accesses and calls made so far. -/
structure Request where
  callback : Callback := .queued
  owner : Owner := .idle
  cancelled : Bool := false
  memory : Memory := {}
  events : List (Thread × Access Flag Field) := []
  completions : List (Option IpAddr × Int) := []
  answers : List Answer := []

namespace Request

def access (request : Request) (thread : Thread) (access : Access Flag Field) : Request :=
  { request with events := request.events ++ [(thread, access)] }

/-- A call of `complete`. -/
def completing (request : Request) (address : Option IpAddr) (error : Int) : Request :=
  { request with
    callback := .completing (complete address error)
    completions := request.completions ++ [(address, error)] }

/-- The end of `efrp_dns_poll`. -/
def answer (request : Request) (answer : Answer) : Request :=
  { request with owner := .idle, answers := request.answers ++ [answer] }

end Request

/-- One access, or the delivery of `found`.  Only the owner stores to `cancelled`, so its own
load returns what it has stored; the load of `dispatch` may miss that.  The answer of
`dns_gethostbyname_addrtype` is that it is in progress, an address or an error. -/
inductive Step (request : Request) : Request → Prop where
  | aborted {position} (queued : request.callback = .queued)
      (observed : At request.events position .owner (.store .cancelled)) :
      Step request ((request.access .tcpip (.load .cancelled (some position))).completing none (-13))
  | dispatch (queued : request.callback = .queued) :
      Step request { request.access .tcpip (.load .cancelled none) with callback := .checked }
  | lookup (checked : request.callback = .checked) :
      Step request { request.access .tcpip (.plain .hostname false) with callback := .waiting }
  | known (checked : request.callback = .checked) (address : IpAddr) :
      Step request ((request.access .tcpip (.plain .hostname false)).completing (some address) 0)
  | failed (checked : request.callback = .checked) (error : Int) :
      Step request ((request.access .tcpip (.plain .hostname false)).completing none error)
  | found (waiting : request.callback = .waiting) (address : Option IpAddr) :
      Step request (request.completing address (if address.isSome then 0 else -6))
  | write {write writes} (completing : request.callback = .completing (write :: writes)) :
      Step request
        { request.access .tcpip (.plain write.field true) with
          callback := .completing writes
          memory := request.memory.apply write }
  | publish (completing : request.callback = .completing []) :
      Step request { request.access .tcpip (.store .done) with callback := .finished }
  | blocked (idle : request.owner = .idle) : Step request (request.access .owner (.load .done none))
  | poll {position} (idle : request.owner = .idle)
      (observed : At request.events position .tcpip (.store .done)) :
      Step request { request.access .owner (.load .done (some position)) with owner := .polled }
  | readError (polled : request.owner = .polled) : Step request
        { request.access .owner (.plain .error false) with owner := .tested request.memory.error }
  | isCancelled {error} (tested : request.owner = .tested error)
      (cancelled : request.cancelled = true) :
      Step request ((request.access .owner (.relaxed .cancelled)).answer (.cancelled, error, none))
  | notCancelled {error} (tested : request.owner = .tested error)
      (going : request.cancelled = false) :
      Step request { request.access .owner (.relaxed .cancelled) with owner := .passed error }
  | readResult {error} (passed : request.owner = .passed error)
      (bad : request.memory.result ≠ .ok) :
      Step request ((request.access .owner (.plain .result false)).answer
        (request.memory.result, error, none))
  | readGood {error} (passed : request.owner = .passed error) (good : request.memory.result = .ok) :
      Step request { request.access .owner (.plain .result false) with owner := .fetched error }
  | readAddress {error} (fetched : request.owner = .fetched error) :
      Step request ((request.access .owner (.plain .ipv4 false)).answer
        (request.memory.result, error, some request.memory.ipv4))
  | cancel (idle : request.owner = .idle) :
      Step request { request.access .owner (.store .cancelled) with cancelled := true }
  | destroy {position} (idle : request.owner = .idle)
      (observed : At request.events position .tcpip (.store .done)) :
      Step request { request.access .owner (.load .done (some position)) with owner := .destroying }
  | free (destroying : request.owner = .destroying) :
      Step request { request.access .owner .free with owner := .gone }

/-! ## The order of the accesses -/

/-- Before this position the owner has acquired the completion. -/
def Told (events : List (Thread × Access Flag Field)) (position : Nat) : Prop :=
  ∃ released acquired, released < acquired ∧ acquired < position ∧
    At events released .tcpip (.store .done) ∧
    At events acquired .owner (.load .done (some released))

theorem Told.concat (told : Told events position) (event : Thread × Access Flag Field) :
    Told (events ++ [event]) position := by
  obtain ⟨released, acquired, follows, before, isStore, isLoad⟩ := told
  exact ⟨released, acquired, follows, before, at_concat.mpr (.inl isStore),
    at_concat.mpr (.inl isLoad)⟩

/-- The accesses that need to be ordered. -/
def Direct (access : Access Flag Field) : Prop :=
  access = .free ∨ ∃ field write, access = .plain field write

/-- The store to `done` is the last access of the network thread, and the owner reads and frees
the request only when it has acquired it. -/
structure Orderly (request : Request) : Prop where
  last : ∀ published position access, At request.events published .tcpip (.store .done) →
    At request.events position .tcpip access → position ≤ published
  finished : (∃ published, At request.events published .tcpip (.store .done)) ↔
    request.callback = .finished
  told : ∀ position access, At request.events position .owner access → Direct access →
    Told request.events position
  busy : request.owner ≠ .idle → Told request.events request.events.length
  freed : ∀ position thread, At request.events position thread .free →
    thread = .owner ∧ position + 1 = request.events.length ∧ request.owner = .gone

namespace Orderly

variable (orderly : Orderly request)
include orderly

theorem idle (running : request.callback ≠ .finished) : request.owner = .idle := by
  refine Classical.byContradiction fun busy => ?_
  obtain ⟨released, _, _, _, published, _⟩ := orderly.busy busy
  exact running (orderly.finished.mp ⟨released, published⟩)

/-- An access of the network thread. -/
theorem callback (running : request.callback ≠ .finished)
    (grown : next.events = request.events ++ [(.tcpip, access)])
    (kept : next.owner = request.owner)
    (publishes : access = .store .done ↔ next.callback = .finished) (unfreed : access ≠ .free) :
    Orderly next := by
  have idle := orderly.idle running
  have first {position : Nat} (published : At next.events position .tcpip (.store .done)) :
      position = request.events.length ∧ access = .store .done := by
    rw [grown, at_concat] at published
    rcases published with old | ⟨here, new⟩
    · exact absurd (orderly.finished.mp ⟨position, old⟩) running
    cases new
    exact ⟨here, rfl⟩
  refine ⟨?_, ?_, ?_, fun busy => absurd (kept.trans idle) busy, ?_⟩
  · intro published position _ isStore isEvent
    have inside := isEvent.lt
    rw [grown, List.length_append] at inside
    exact (first isStore).1 ▸ Nat.le_of_lt_succ inside
  · rw [← publishes]
    constructor
    · rintro ⟨published, isStore⟩
      exact (first isStore).2
    · rintro rfl
      exact ⟨request.events.length, grown ▸ at_concat.mpr (.inr ⟨rfl, rfl⟩)⟩
  · intro position _ isEvent direct
    rw [grown, at_concat] at isEvent
    rcases isEvent with old | ⟨_, new⟩
    · exact grown ▸ (orderly.told position _ old direct).concat _
    · cases new
  · intro position _ isEvent
    rw [grown, at_concat] at isEvent
    rcases isEvent with old | ⟨_, new⟩
    · have gone := (orderly.freed position _ old).2.2
      rw [idle] at gone
      cases gone
    cases new
    exact absurd rfl unfreed

/-- An access of the owner. -/
theorem call (there : request.owner ≠ .gone)
    (grown : next.events = request.events ++ [(.owner, access)])
    (kept : next.callback = request.callback)
    (direct : Direct access → request.owner ≠ .idle)
    (busy : next.owner ≠ .idle → request.owner ≠ .idle ∨
      ∃ position, At request.events position .tcpip (.store .done) ∧
        access = .load .done (some position))
    (frees : access = .free → next.owner = .gone) : Orderly next := by
  have old {position : Nat} {access' : Access Flag Field} :
      At next.events position .tcpip access' ↔ At request.events position .tcpip access' := by
    rw [grown, at_concat]
    exact or_iff_left fun new => by cases new.2
  refine ⟨fun published position _ isStore isEvent =>
    orderly.last published position _ (old.mp isStore) (old.mp isEvent), ?_, ?_, ?_, ?_⟩
  · rw [kept, ← orderly.finished]
    exact exists_congr fun _ => old
  · intro position _ isEvent isDirect
    rw [grown, at_concat] at isEvent
    rcases isEvent with earlier | ⟨rfl, new⟩
    · exact grown ▸ (orderly.told position _ earlier isDirect).concat _
    cases new
    exact grown ▸ (orderly.busy (direct isDirect)).concat _
  · intro isBusy
    rw [grown, List.length_append]
    rcases busy isBusy with before | ⟨position, published, rfl⟩
    · obtain ⟨released, acquired, follows, inside, events⟩ :=
        (orderly.busy before).concat (.owner, access)
      exact ⟨released, acquired, follows, Nat.lt_succ_of_lt inside, events⟩
    exact ⟨position, request.events.length, published.lt, Nat.lt_succ_self _,
      at_concat.mpr (.inl published), at_concat.mpr (.inr ⟨rfl, rfl⟩)⟩
  · intro position _ isEvent
    rw [grown, at_concat] at isEvent
    rcases isEvent with earlier | ⟨rfl, new⟩
    · exact absurd (orderly.freed position _ earlier).2.2 there
    cases new
    exact ⟨rfl, by rw [grown, List.length_append]; rfl, frees rfl⟩

/-- A step of the request. -/
theorem step (step : Step request next) : Orderly next := by
  cases step with
  | found waiting =>
    have running : request.callback ≠ .finished := by rw [waiting]; exact nofun
    refine ⟨orderly.last, ?_, orderly.told, orderly.busy, orderly.freed⟩
    exact orderly.finished.trans (iff_of_false running nofun)
  | aborted at_ | dispatch at_ | lookup at_ | known at_ | failed at_ | write at_ =>
    exact orderly.callback (by rw [at_]; exact nofun) rfl rfl (iff_of_false nofun nofun) nofun
  | publish completing =>
    exact orderly.callback (by rw [completing]; exact nofun) rfl rfl (iff_of_true rfl rfl) nofun
  | blocked idle | cancel idle =>
    exact orderly.call (by rw [idle]; exact nofun) rfl rfl nofun (fun busy => .inl busy) nofun
  | poll idle observed | destroy idle observed =>
    exact orderly.call (by rw [idle]; exact nofun) rfl rfl nofun
      (fun _ => .inr ⟨_, observed, rfl⟩) nofun
  | readError at_ | isCancelled at_ | notCancelled at_ | readResult at_ | readGood at_
  | readAddress at_ =>
    have busy : request.owner ≠ .idle := by rw [at_]; exact nofun
    exact orderly.call (by rw [at_]; exact nofun) rfl rfl (fun _ => busy) (fun _ => .inl busy) nofun
  | free destroying =>
    have busy : request.owner ≠ .idle := by rw [destroying]; exact nofun
    exact orderly.call (by rw [destroying]; exact nofun) rfl rfl (fun _ => busy)
      (fun _ => .inl busy) fun _ => rfl

end Orderly

/-! ## The values -/

/-- What a call of `complete` leaves behind. -/
def final (address : Option IpAddr) (error : Int) : Memory :=
  (complete address error).foldl Memory.apply {}

/-- What a poll without cancellation reports of the memory. -/
def report (memory : Memory) : Answer :=
  (memory.result, memory.error, if memory.result = .ok then some memory.ipv4 else none)

/-- What was written and what is still to be written. -/
def Settled (memory : Memory) (completions : List (Option IpAddr × Int)) : Callback → Prop
  | .completing writes => ∃ address error, completions = [(address, error)] ∧
      writes.foldl Memory.apply memory = final address error
  | .finished => ∃ address error, completions = [(address, error)] ∧ memory = final address error
  | _ => completions = [] ∧ memory = {}

/-- What was written, and what was read of it. -/
structure Valued (request : Request) : Prop where
  settled : Settled request.memory request.completions request.callback
  owner : match request.owner with
    | .tested error | .passed error => error = request.memory.error
    | .fetched error => error = request.memory.error ∧ request.memory.result = .ok
    | _ => True
  answers : ∀ answer ∈ request.answers, request.callback = .finished ∧
    (answer = (.cancelled, request.memory.error, none) ∧ request.cancelled = true ∨
      answer = report request.memory)

namespace Valued

theorem begin (fresh : completions = [] ∧ memory = {}) (address : Option IpAddr) (error : Int) :
    Settled memory (completions ++ [(address, error)]) (.completing (complete address error)) :=
  ⟨address, error, by rw [fresh.1]; rfl, by rw [fresh.2]; rfl⟩

variable (valued : Valued request)
include valued

/-- The network thread writes before the owner looks. -/
theorem callback (orderly : Orderly request) (running : request.callback ≠ .finished)
    (kept : next.owner = request.owner) (same : next.answers = request.answers)
    (settled : Settled next.memory next.completions next.callback) : Valued next := by
  refine ⟨settled, ?_, fun answer member => ?_⟩
  · rw [kept, orderly.idle running]
    trivial
  · rw [same] at member
    exact absurd (valued.answers answer member).1 running

/-- The owner returns from a poll. -/
theorem answer (orderly : Orderly request) (busy : request.owner ≠ .idle)
    (right : given = (.cancelled, request.memory.error, none) ∧ request.cancelled = true ∨
      given = report request.memory) (access : Access Flag Field) :
    Valued ((request.access .owner access).answer given) := by
  refine ⟨valued.settled, trivial, fun answer member => ?_⟩
  rcases List.mem_append.mp member with old | new
  · exact valued.answers answer old
  cases List.mem_singleton.mp new
  exact ⟨Classical.byContradiction fun running => busy (orderly.idle running), right⟩

theorem step (orderly : Orderly request) (step : Step request next) : Valued next := by
  obtain ⟨settled, owner, answers⟩ := id valued
  cases step with
  | aborted at_ | found at_ | known at_ | failed at_ =>
    rw [at_] at settled
    exact valued.callback orderly (by rw [at_]; exact nofun) rfl rfl (begin settled _ _)
  | dispatch at_ | lookup at_ | write at_ | publish at_ =>
    rw [at_] at settled
    exact valued.callback orderly (by rw [at_]; exact nofun) rfl rfl settled
  | blocked => exact ⟨settled, owner, answers⟩
  | cancel =>
    refine ⟨settled, owner, fun answer member => ?_⟩
    exact (answers answer member).imp_right (.imp_left fun cancelled => ⟨cancelled.1, rfl⟩)
  | poll | destroy | free => exact ⟨settled, trivial, answers⟩
  | readError => exact ⟨settled, rfl, answers⟩
  | notCancelled at_ =>
    rw [at_] at owner
    exact ⟨settled, owner, answers⟩
  | readGood at_ good =>
    rw [at_] at owner
    exact ⟨settled, ⟨owner, good⟩, answers⟩
  | isCancelled at_ cancelled =>
    rw [at_] at owner
    exact valued.answer orderly (by rw [at_]; exact nofun) (.inl ⟨by rw [owner], cancelled⟩) _
  | readResult at_ bad =>
    rw [at_] at owner
    refine valued.answer orderly (by rw [at_]; exact nofun) (.inr ?_) _
    rw [owner, report, if_neg bad]
  | readAddress at_ =>
    rw [at_] at owner
    refine valued.answer orderly (by rw [at_]; exact nofun) (.inr ?_) _
    rw [owner.1, report, if_pos owner.2]

end Valued

/-! ## The whole run -/

/-- What a call of `complete` is to report. -/
def outcome (address : Option IpAddr) (error : Int) : Answer :=
  match address with
  | some address =>
    if address.usable then (.ok, error, some address.bytes) else (.dnsError, error, none)
  | none => (.dnsError, error, none)

theorem report_final (address : Option IpAddr) (error : Int) :
    report (final address error) = outcome address error ∧ (final address error).error = error := by
  cases address with
  | none => exact ⟨rfl, rfl⟩
  | some address =>
    rw [outcome, final, complete]
    split <;> exact ⟨rfl, rfl⟩

theorem Settled.once (settled : Settled memory completions callback) :
    completions.length ≤ 1 ∧ (callback = .finished → completions.length = 1) := by
  cases callback with
  | completing | finished =>
    obtain ⟨_, _, rfl, _⟩ := settled
    exact ⟨Nat.le_refl 1, fun _ => rfl⟩
  | queued | checked | waiting =>
    obtain ⟨rfl, _⟩ := settled
    exact ⟨Nat.zero_le 1, nofun⟩

/-- A request is safe in every interleaving.

`complete` is called at most once, and once when the callback has run.  If the request
is freed, that is the last access, and every other access and the store to `done` happen before
it.  No plain access of the owner races with one of the network thread.  A poll that sees the
completion reports what `complete` was given, or that the owner has cancelled the request.  And
once the callback has run, cancelled or not, a destroy that sees it frees the request. -/
theorem requests_safe (reached : Relation.ReflTransGen Step {} request) :
    (request.completions.length ≤ 1 ∧
      (request.callback = .finished → request.completions.length = 1)) ∧
    (∀ last thread, At request.events last thread .free →
      last + 1 = request.events.length ∧ (∀ other < last, Before request.events other last) ∧
        ∃ published, At request.events published .tcpip (.store .done) ∧
          Before request.events published last) ∧
    (∀ first second field write write', At request.events first .tcpip (.plain field write) →
      At request.events second .owner (.plain field write') → Before request.events first second) ∧
    (∀ answer ∈ request.answers, ∃ address error, request.completions = [(address, error)] ∧
      (answer = (.cancelled, error, none) ∧ request.cancelled = true ∨
        answer = outcome address error)) ∧
    (request.callback = .finished → request.owner = .idle →
      ∃ seen freed, Step request seen ∧ Step seen freed ∧ freed.owner = .gone) := by
  obtain ⟨orderly, valued⟩ : Orderly request ∧ Valued request := by
    induction reached with
    | refl => exact ⟨⟨nofun, ⟨nofun, nofun⟩, nofun, nofun, nofun⟩, ⟨rfl, rfl⟩, trivial, nofun⟩
    | tail _ step ih => exact ⟨ih.1.step step, ih.2.step ih.1 step⟩
  have later {first second : Nat} {access access' : Access Flag Field}
      (isFirst : At request.events first .tcpip access)
      (isSecond : At request.events second .owner access') (direct : Direct access') :
      Before request.events first second := by
    obtain ⟨released, acquired, observes, follows, isStore, isLoad⟩ :=
      orderly.told second _ isSecond direct
    exact .handover (orderly.last released first _ isStore isFirst) observes follows isFirst isStore
      isLoad isSecond
  refine ⟨valued.settled.once, ?_, ?_, ?_, ?_⟩
  · intro last thread isFree
    obtain ⟨rfl, isLast, _⟩ := orderly.freed last thread isFree
    refine ⟨isLast, fun other before => ?_, ?_⟩
    · obtain ⟨⟨thread, access⟩, isOther⟩ : ∃ event, request.events[other]? = some event :=
        ⟨_, List.getElem?_eq_getElem (by omega)⟩
      cases thread with
      | owner => exact .single (.program before isOther isFree)
      | tcpip => exact later isOther isFree (.inl rfl)
    · obtain ⟨released, _, _, _, isStore, _⟩ := orderly.told last _ isFree (.inl rfl)
      exact ⟨released, isStore, later isStore isFree (.inl rfl)⟩
  · intro first second _ _ _ isFirst isSecond
    exact later isFirst isSecond (.inr ⟨_, _, rfl⟩)
  · intro answer member
    obtain ⟨finished, right⟩ := valued.answers answer member
    have settled := valued.settled
    rw [finished] at settled
    obtain ⟨address, error, once, same⟩ := settled
    obtain ⟨reported, isError⟩ := report_final address error
    rw [same, reported, isError] at right
    exact ⟨address, error, once, right⟩
  · intro finished idle
    obtain ⟨position, published⟩ := orderly.finished.mpr finished
    exact ⟨_, _, .destroy idle published, .free rfl, rfl⟩

/-- A lookup that fails at once, up to the end of the request. -/
theorem requests_safe_failed : ∃ request : Request, request.owner = .gone ∧
    request.completions = [(none, -1)] ∧ request.completions.length ≤ 1 := by
  have reached :=
    (((((((Relation.ReflTransGen.single (@Step.dispatch {} rfl)).tail
      (.failed rfl (-1))).tail (.write rfl)).tail (.write rfl)).tail (.publish rfl)).tail
      (@Step.destroy _ 4 rfl rfl)).tail (.free rfl))
  exact ⟨_, rfl, rfl, (requests_safe reached).1.1⟩

end EspFrp.Local.Dns

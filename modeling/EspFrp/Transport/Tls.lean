import Mathlib.Logic.Basic
import EspFrp.Types

/-!
# The strict TLS connection

The part of `tls_mbedtls.c` that a transport uses once the handshake is
complete: `efrp_tls_step`, `efrp_tls_read`, `efrp_tls_write` and
`efrp_tls_cancel`.  What `mbedtls_ssl_write` and `mbedtls_ssl_read` answer is
an input of every call.

The queue of bytes between `offset` and `used` is the list `pending`.  The
handshake, the local `efrp_tls_close`, and the status fields that only report
(`want`, `library_error`, `verify_flags`, `negotiated_version`) are left out.
-/

namespace EspFrp.Transport

/-- `EFRP_TLS_TX_BYTES`. -/
abbrev tlsTxBytes : Nat := 1024 + 12

/-- `EFRP_TLS_HANDSHAKE_MS`. -/
abbrev tlsHandshakeMs : Nat := 10000

/-- `EFRP_TLS_IO_MS`. -/
abbrev tlsIoMs : Nat := 5000

/-- `UINT64_MAX`. -/
abbrev uint64Max : Nat := 18446744073709551615

/--
`efrp_tls_state_t` after the handshake and without a local close.  A failed
connection carries the `result` of its status, which is `EFRP_OK` otherwise.
-/
inductive TlsState where
  | opened
  | closed
  | failed (result : Result)
deriving DecidableEq, Repr

/--
The answer of an Mbed TLS call, by the branch of `interpret` that its return
code takes.
-/
inductive SslAnswer (Value : Type) where
  | done (value : Value)
  | wantRead
  | wantWrite
  | inProgress
  | ioFailed
  | peerCloseNotify
  | connEof
  | untrusted
  | insufficientMemory
  | error
deriving DecidableEq, Repr

/-- The value of a successful answer. -/
def SslAnswer.value {Value : Type} (otherwise : Value) : SslAnswer Value → Value
  | .done value => value
  | _ => otherwise

/--
`efrp_tls_t`, together with the bytes that `mbedtls_ssl_write` has accepted.
-/
structure Tls where
  state : TlsState := .opened
  pending : List UInt8 := []
  lastNow : Nat := 0
  writeDeadline : Nat := 0
  sent : List UInt8 := []
deriving DecidableEq, Repr

namespace Tls

/-- `release`. -/
def release (tls : Tls) : Tls := { tls with pending := [] }

/-- `fail`. -/
def fail (tls : Tls) (result : Result) : Result × Tls :=
  (result, { tls with state := .failed result }.release)

/-- `check`. -/
def check (tls : Tls) (now : Nat) : Result × Tls :=
  match tls.state with
  | .failed result => (result, tls)
  | state =>
    if now < tls.lastNow ∨ uint64Max - tlsHandshakeMs < now then
      (.invalidArgument, tls)
    else
      let advanced := { tls with lastNow := now }
      if state = .closed then
        (.eof, advanced)
      else if advanced.pending ≠ [] ∧ advanced.writeDeadline ≤ now then
        advanced.fail .timeout
      else
        (.ok, advanced)

/-- `interpret`. -/
def interpret {Value : Type} (tls : Tls) : SslAnswer Value → Result × Tls
  | .done _ => (.ok, tls)
  | .wantRead => (.wouldBlock, tls)
  | .wantWrite => (.wouldBlock, tls)
  | .inProgress => (.wouldBlock, tls)
  | .ioFailed => tls.fail .networkError
  | .peerCloseNotify => (.eof, { tls with state := .closed }.release)
  | .connEof => tls.fail .truncated
  | .untrusted => tls.fail .tlsTrustError
  | .insufficientMemory => tls.fail .noMemory
  | .error => tls.fail .tlsError

/-- Take over the bytes that `mbedtls_ssl_write` has accepted. -/
def accept (tls : Tls) (count : Nat) : Result × Tls :=
  if count = 0 ∨ tls.pending.length < count then
    tls.fail .tlsError
  else
    let rest := tls.pending.drop count
    (if rest = [] then .ok else .wouldBlock,
      { tls with
        pending := rest
        sent := tls.sent ++ tls.pending.take count })

/-- `efrp_tls_step`. -/
def step (tls : Tls) (now : Nat) (answer : SslAnswer Nat) : Result × Tls :=
  match tls.check now with
  | (.ok, checked) =>
    if checked.pending = [] then
      (.ok, checked)
    else
      match checked.interpret answer with
      | (.ok, live) => live.accept (answer.value 0)
      | refused => refused
  | refused => refused

/-- Hand out the bytes that `mbedtls_ssl_read` has delivered. -/
def deliver (tls : Tls) (capacity : Nat) (bytes : List UInt8) : Result × List UInt8 × Tls :=
  if bytes = [] then
    ((tls.fail .truncated).1, [], (tls.fail .truncated).2)
  else if capacity < bytes.length then
    ((tls.fail .tlsError).1, [], (tls.fail .tlsError).2)
  else
    (.ok, bytes, tls)

/-- `efrp_tls_read`. -/
def read (tls : Tls) (now capacity : Nat)
    (answer : SslAnswer (List UInt8)) : Result × List UInt8 × Tls :=
  match tls.check now with
  | (.ok, checked) =>
    if checked.state ≠ .opened ∨ checked.pending ≠ [] then
      (.wouldBlock, [], checked)
    else
      match checked.interpret answer with
      | (.ok, live) => live.deliver capacity (answer.value [])
      | (result, refused) => (result, [], refused)
  | (result, refused) => (result, [], refused)

/-- `efrp_tls_write`. -/
def write (tls : Tls) (now : Nat) (bytes : List UInt8) : Result × Nat × Tls :=
  match tls.check now with
  | (.ok, checked) =>
    if checked.state ≠ .opened then
      (.invalidState, 0, checked)
    else if bytes = [] then
      (.ok, 0, checked)
    else if checked.pending ≠ [] then
      (.wouldBlock, 0, checked)
    else
      (.ok, min bytes.length tlsTxBytes,
        { checked with
          pending := bytes.take tlsTxBytes
          writeDeadline := now + tlsIoMs })
  | (result, refused) => (result, 0, refused)

/-- `efrp_tls_cancel`. -/
def cancel (tls : Tls) : Tls :=
  match tls.state with
  | .opened => (tls.fail .cancelled).2
  | _ => tls

end Tls

/-! ## What a call changes -/

/-- A call that ends the connection or reports that it has ended. -/
structure TlsEnds (tls : Tls) (result : Result) (next : Tls) : Prop where
  fatal : result ≠ .ok ∧ result ≠ .wouldBlock
  sent : next.sent = tls.sent
  closed : result = .eof → next.state ≠ .opened

namespace Tls

variable {tls : Tls}

theorem fail_ends (tls : Tls) (result : Result) (fatal : result ≠ .ok ∧ result ≠ .wouldBlock) :
    TlsEnds tls (tls.fail result).1 (tls.fail result).2 :=
  ⟨fatal, rfl, fun _ => TlsState.noConfusion⟩

theorem check_opened (opened : tls.state = .opened) (now : Nat) :
    tls.check now = (.ok, { tls with lastNow := now }) ∨
      TlsEnds tls (tls.check now).1 (tls.check now).2 := by
  unfold check
  rw [opened]
  dsimp only
  split
  · exact Or.inr ⟨⟨nofun, nofun⟩, rfl, nofun⟩
  rw [if_neg TlsState.noConfusion]
  split
  · exact Or.inr ⟨⟨nofun, nofun⟩, rfl, fun _ => TlsState.noConfusion⟩
  · exact Or.inl rfl

/-- A call of Mbed TLS succeeds, is to be retried, or ends. -/
theorem interpret_cases {Value : Type} (tls : Tls) (answer : SslAnswer Value) :
    tls.interpret answer = (.ok, tls) ∨ tls.interpret answer = (.wouldBlock, tls) ∨
      TlsEnds tls (tls.interpret answer).1 (tls.interpret answer).2 := by
  have failing (result : Result) (fatal : result ≠ .ok ∧ result ≠ .wouldBlock) :=
    tls.fail_ends result fatal
  cases answer with
  | done => exact Or.inl rfl
  | wantRead | wantWrite | inProgress => exact Or.inr (Or.inl rfl)
  | peerCloseNotify =>
    exact Or.inr (Or.inr ⟨⟨nofun, nofun⟩, rfl, fun _ => TlsState.noConfusion⟩)
  | ioFailed | connEof | untrusted | insufficientMemory | error =>
    exact Or.inr (Or.inr (failing _ (by decide)))

/-- An open connection whose next part of the queue has been accepted. -/
structure Flushes (tls : Tls) (count : Nat) (next : Tls) : Prop where
  state : next.state = .opened
  pending : next.pending = tls.pending.drop count
  sent : next.sent = tls.sent ++ tls.pending.take count

/-- An open connection that has not moved a byte. -/
structure Idles (tls next : Tls) : Prop where
  state : next.state = .opened
  pending : next.pending = tls.pending
  sent : next.sent = tls.sent

theorem Idles.flushes {next : Tls} (idles : tls.Idles next) : tls.Flushes 0 next :=
  ⟨idles.state, idles.pending, by rw [idles.sent, List.take_zero, List.append_nil]⟩

section

variable (opened : tls.state = .opened)
include opened

theorem accept_cases (count : Nat) : (((tls.accept count).1 = .ok ∨
          (tls.accept count).1 = .wouldBlock) ∧
        tls.Flushes count (tls.accept count).2) ∨
      TlsEnds tls (tls.accept count).1 (tls.accept count).2 := by
  unfold accept
  split
  · exact Or.inr (fail_ends tls .tlsError (by decide))
  refine Or.inl ⟨?_, opened, rfl, rfl⟩
  dsimp only
  split
  · exact Or.inl rfl
  · exact Or.inr rfl

/-- A step of an open connection accepts a part of the queue or ends. -/
theorem step_cases (now : Nat) (answer : SslAnswer Nat) : (((tls.step now answer).1 = .ok ∨
          (tls.step now answer).1 = .wouldBlock) ∧
        ∃ count ≤ answer.value 0, tls.Flushes count (tls.step now answer).2) ∨
      TlsEnds tls (tls.step now answer).1 (tls.step now answer).2 := by
  unfold step
  rcases tls.check_opened opened now with checked | ends
  · rw [checked]
    dsimp only
    split
    · exact Or.inl ⟨Or.inl rfl, 0, Nat.zero_le _, Idles.flushes ⟨opened, rfl, rfl⟩⟩
    rcases Tls.interpret_cases { tls with lastNow := now } answer with
      succeeded | blocked | ends
    · rw [succeeded]
      rcases @accept_cases { tls with lastNow := now } opened (answer.value 0) with
        ⟨result, flushes⟩ | ends
      · exact Or.inl ⟨result, _, Nat.le_refl _, flushes.state, flushes.pending, flushes.sent⟩
      · exact Or.inr ⟨ends.fatal, ends.sent, ends.closed⟩
    · rw [blocked]
      exact Or.inl ⟨Or.inr rfl, 0, Nat.zero_le _, Idles.flushes ⟨opened, rfl, rfl⟩⟩
    · split
      · next succeeded => exact absurd (congrArg Prod.fst succeeded) ends.fatal.1
      · exact Or.inr ⟨ends.fatal, ends.sent, ends.closed⟩
  · split
    · next checked => exact absurd (congrArg Prod.fst checked) ends.fatal.1
    · exact Or.inr ends

/-- A read of an open connection moves no queued byte, or ends. -/
theorem read_cases (now capacity : Nat) (answer : SslAnswer (List UInt8)) :
    (((tls.read now capacity answer).1 = .ok ∨ (tls.read now capacity answer).1 = .wouldBlock) ∧
        tls.Idles (tls.read now capacity answer).2.2) ∨
      TlsEnds tls (tls.read now capacity answer).1 (tls.read now capacity answer).2.2 := by
  unfold read
  rcases tls.check_opened opened now with checked | ends
  · rw [checked]
    dsimp only
    split
    · exact Or.inl ⟨Or.inr rfl, opened, rfl, rfl⟩
    rcases Tls.interpret_cases { tls with lastNow := now } answer with
      succeeded | blocked | ends
    · rw [succeeded]
      dsimp only
      unfold deliver
      split
      · exact Or.inr ⟨⟨nofun, nofun⟩, rfl, fun _ => TlsState.noConfusion⟩
      split
      · exact Or.inr ⟨⟨nofun, nofun⟩, rfl, fun _ => TlsState.noConfusion⟩
      · exact Or.inl ⟨Or.inl rfl, opened, rfl, rfl⟩
    · rw [blocked]
      exact Or.inl ⟨Or.inr rfl, opened, rfl, rfl⟩
    · split
      · next succeeded => exact absurd (congrArg Prod.fst succeeded) ends.fatal.1
      · next interpreted =>
        rw [interpreted] at ends
        exact Or.inr ⟨ends.fatal, ends.sent, ends.closed⟩
  · split
    · next checked => exact absurd (congrArg Prod.fst checked) ends.fatal.1
    · next refused =>
      rw [refused] at ends
      exact Or.inr ends

/-- A write to an open connection fills the empty queue, or ends. -/
theorem write_cases (now : Nat) (bytes : List UInt8) : (((tls.write now bytes).1 = .ok ∨
          (tls.write now bytes).1 = .wouldBlock) ∧
        (tls.write now bytes).2.2.state = .opened ∧
        (tls.write now bytes).2.2.sent = tls.sent ∧
        (((tls.write now bytes).2.1 = 0 ∧ (tls.write now bytes).2.2.pending = tls.pending) ∨
          (tls.pending = [] ∧ (tls.write now bytes).2.1 = min bytes.length tlsTxBytes ∧
            (tls.write now bytes).2.2.pending = bytes.take tlsTxBytes))) ∨
      TlsEnds tls (tls.write now bytes).1 (tls.write now bytes).2.2 := by
  unfold write
  rcases tls.check_opened opened now with checked | ends
  · rw [checked]
    dsimp only
    rw [if_neg (not_not.mpr opened)]
    split
    · exact Or.inl ⟨Or.inl rfl, opened, rfl, Or.inl ⟨rfl, rfl⟩⟩
    split
    · exact Or.inl ⟨Or.inr rfl, opened, rfl, Or.inl ⟨rfl, rfl⟩⟩
    · next free => exact Or.inl ⟨Or.inl rfl, opened, rfl, Or.inr ⟨not_ne_iff.mp free, rfl, rfl⟩⟩
  · split
    · next checked => exact absurd (congrArg Prod.fst checked) ends.fatal.1
    · next refused =>
      rw [refused] at ends
      exact Or.inr ends

end

theorem cancel_sent (tls : Tls) : tls.cancel.sent = tls.sent := by
  unfold cancel
  split <;> rfl

theorem cancel_state (tls : Tls) : tls.cancel.state ≠ .opened := by
  unfold cancel
  split
  · exact TlsState.noConfusion
  · assumption

end Tls

end EspFrp.Transport

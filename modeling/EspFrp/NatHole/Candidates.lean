import EspFrp.NatHole.Controller
import Mathlib.Data.List.Destutter

/-!
# What the peers are advised to try

`newNatHoleResponse` removes neighbouring duplicates from the mapped addresses of a peer and
derives a range of ports from the last of them.  The removal works in place, so the second step
reads memory that the first one has changed.
-/

namespace EspFrp.NatHole

/-! ## Addresses -/

/-- The position of the last such byte. -/
def lastIndex (byte : UInt8) (bytes : List UInt8) : Option Nat :=
  (bytes.reverse.findIdx? (· == byte)).map (bytes.length - 1 - ·)

/-- `net.SplitHostPort`, with brackets around an address that has colons itself. -/
def splitHostPort (hostport : List UInt8) : Option (List UInt8 × List UInt8) := do
  let colon ← lastIndex 0x3a hostport
  let (host, opening, closing) ←
    if hostport.head? = some 0x5b then do
      let bracket ← hostport.findIdx? (· == 0x5d)
      if bracket + 1 = colon then
        some ((hostport.take bracket).drop 1, 1, bracket + 1)
      else
        none
    else if (hostport.take colon).contains 0x3a then
      none
    else
      some (hostport.take colon, 0, 0)
  if (hostport.drop opening).contains 0x5b || (hostport.drop closing).contains 0x5d then
    none
  else
    return (host, hostport.drop (colon + 1))

/-- `strconv.Atoi`. -/
def atoi (text : List UInt8) : Option Int64 :=
  let negative := text.head? = some 0x2d
  let digits := if negative ∨ text.head? = some 0x2b then text.drop 1 else text
  let value : Nat := digits.foldl (fun value digit => 10 * value + (digit.toNat - 48)) 0
  if digits = [] ∨ ¬digits.all fun digit => 0x30 ≤ digit && digit ≤ 0x39 then
    none
  else if negative then
    if value ≤ 2 ^ 63 then some (Int64.ofInt (-value)) else none
  else if value < 2 ^ 63 then
    some (Int64.ofInt value)
  else
    none

/-! ## The response -/

/-- `PortsRange`, both ends included. -/
structure PortsRange where
  low : Int64
  high : Int64
deriving DecidableEq

/-- `RecommandBehavior`. -/
structure RecommandBehavior where
  role : List UInt8
  ttl : Int64
  sendDelayMs : Int64
  portsRangeNumber : Int64
  portsRandomNumber : Int64
  listenRandomPorts : Int64

/-- `NatHoleDetectBehavior`. -/
structure DetectBehavior where
  role : List UInt8
  mode : Int64
  ttl : Int64
  sendDelayMs : Int64
  readTimeoutMs : Int64
  candidatePorts : List PortsRange
  sendRandomPorts : Int64
  listenRandomPorts : Int64

/-- The rest of `NatHoleResp`. -/
structure Advice where
  protocol : List UInt8
  candidateAddrs : List (List UInt8)
  assistedAddrs : List (List UInt8)
  detectBehavior : DetectBehavior

/-- `slices.Compact`: the slice that is returned, and what its argument refers to afterwards.
The elements that are kept move to the front and the places behind them are cleared. -/
def compact (addrs : List (List UInt8)) : List (List UInt8) × List (List UInt8) :=
  let kept := addrs.destutter (· ≠ ·)
  (kept, kept ++ List.replicate (addrs.length - kept.length) [])

/-- The range around a port. -/
def rangeAround (port difference maxNumber : Int64) : PortsRange where
  low := max (max (port - difference - 5) (port - maxNumber)) 1
  high := min (min (port + difference + 5) (port + maxNumber)) 65535

/-- The port of an address. -/
def portOf (addr : List UInt8) : Option Int64 := do
  let (_, text) ← splitHostPort addr
  atoi text

/-- `getRangePorts`. -/
def getRangePorts (addrs : List (List UInt8)) (difference maxNumber : Int64) : List PortsRange :=
  if maxNumber ≤ 0 then
    []
  else
    match addrs.getLast? with
    | none => []
    | some addr =>
      match portOf addr with
      | none => []
      | some port => [rangeAround port difference maxNumber]

/-- `newNatHoleResponse`. -/
def newNatHoleResponse (transactionId sid protocol : List UInt8) (mode : Int64)
    (candidateAddrs assistedAddrs : List (List UInt8)) (behavior : RecommandBehavior)
    (readTimeoutMs portsDifference : Int64) : Response × Advice :=
  let (compactCandidateAddrs, candidateAddrs) := compact candidateAddrs
  let (compactAssistedAddrs, _) := compact assistedAddrs
  ({ transactionId, sid },
    { protocol := protocol
      candidateAddrs := compactCandidateAddrs
      assistedAddrs := compactAssistedAddrs
      detectBehavior :=
        { role := behavior.role
          mode := mode
          ttl := behavior.ttl
          sendDelayMs := behavior.sendDelayMs
          readTimeoutMs
          candidatePorts := getRangePorts candidateAddrs portsDifference behavior.portsRangeNumber
          sendRandomPorts := behavior.portsRandomNumber
          listenRandomPorts := behavior.listenRandomPorts } })

/-! ## The last address -/

/-- Without neighbouring duplicates the memory stays as it is. -/
theorem compact_of_isChain (distinct : addrs.IsChain (· ≠ ·)) : compact addrs = (addrs, addrs) := by
  rw [compact, List.destutter_of_isChain _ _ distinct, Nat.sub_self]
  exact Prod.ext rfl (List.append_nil _)

/-- Otherwise the last place is cleared. -/
theorem getLast?_compact (duplicates : ¬addrs.IsChain (· ≠ ·)) :
    (compact addrs).2.getLast? = some [] := by
  have kept := addrs.destutter_sublist (· ≠ ·)
  have shorter : (addrs.destutter (· ≠ ·)).length < addrs.length := by
    refine Nat.lt_of_le_of_ne kept.length_le fun same => duplicates ?_
    exact (List.destutter_eq_self_iff _ _).mp (kept.eq_of_length same)
  obtain ⟨cleared, counted⟩ := Nat.exists_eq_add_of_lt shorter
  dsimp only [compact]
  rw [counted, Nat.add_assoc, Nat.add_sub_cancel_left, List.replicate_succ', ← List.append_assoc,
    List.getLast?_concat]

/-- The candidates and their ports.

The response carries the mapped addresses without neighbouring duplicates.  The range of ports
that belongs to the last mapped address is among the candidates, as the only one, if and only if
there was no such duplicate to remove; otherwise there is no range at all. -/
theorem candidates_ranged {last : List UInt8} {port : Int64} {behavior : RecommandBehavior}
    (isLast : addrs.getLast? = some last) (valid : portOf last = some port)
    (positive : ¬behavior.portsRangeNumber ≤ 0) (transactionId sid protocol : List UInt8)
    (mode readTimeoutMs difference : Int64) (assisted : List (List UInt8)) :
    let advice := (newNatHoleResponse transactionId sid protocol mode addrs assisted behavior
      readTimeoutMs difference).2
    advice.candidateAddrs = addrs.destutter (· ≠ ·) ∧ advice.detectBehavior.candidatePorts =
        if addrs.IsChain (· ≠ ·) then [rangeAround port difference behavior.portsRangeNumber]
        else [] := by
  refine ⟨rfl, ?_⟩
  change getRangePorts (compact addrs).2 difference behavior.portsRangeNumber = _
  rw [getRangePorts, if_neg positive]
  split_ifs with distinct
  · rw [compact_of_isChain distinct, isLast]
    dsimp only
    rw [valid]
  rw [getLast?_compact distinct]
  rfl

/-- Two addresses of one peer, and the advice to try five ports around the last. -/
theorem candidates_ranged_two :
    (newNatHoleResponse [] [] [] 0 [ascii "1.2.3.4:80", ascii "1.2.3.4:81"] []
      ⟨[], 0, 0, 5, 0, 0⟩ 0 1).2.detectBehavior.candidatePorts = [rangeAround 81 1 5] :=
  (@candidates_ranged [ascii "1.2.3.4:80", ascii "1.2.3.4:81"] _ 81 ⟨[], 0, 0, 5, 0, 0⟩ rfl
    (by decide) (by decide) [] [] [] 0 0 1 []).2.trans (if_pos (by decide))

/-- A peer that is seen under one address twice: its port is valid, but no range is left. -/
theorem duplicate_clears_range : portOf (ascii "1.2.3.4:80") = some 80 ∧
      (newNatHoleResponse [] [] [] 0 [ascii "1.2.3.4:80", ascii "1.2.3.4:80"] []
        ⟨[], 0, 0, 5, 0, 0⟩ 0 1).2.detectBehavior.candidatePorts = [] := by
  decide

end EspFrp.NatHole

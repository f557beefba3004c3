import EspFrp.Json.Text
import EspFrp.Library.BigEndian
import EspFrp.Library.Block
import EspFrp.Types

/-!
# The discovery of mapped addresses

`decode_stun` of `xtcp_nat.c` and `discover_receive` around it.  A decoder
fails with a result, and is stuck at a read outside of the datagram.  A
datagram that is accepted is tiled by its attributes.
-/

namespace EspFrp.Xtcp.Stun

open Library

/-! ## Decoders -/

/-- A decoder; `none` is a read outside of the bytes that are there. -/
abbrev Decoder := ExceptT Result Option

variable {Value Other : Type}

/-- The decoder succeeds. -/
def Gives (decoder : Decoder Value) (value : Value) : Prop := decoder = pure value

/-- The decoder is never stuck, and what it gives has a property. -/
def Safe (decoder : Decoder Value) (property : Value → Prop) : Prop :=
  ∃ outcome, decoder.run = some outcome ∧ ∀ value, outcome = .ok value → property value

section

variable {property : Value → Prop} {value : Value}

theorem Safe.pure (holds : property value) : Safe (pure value) property := by
  refine ⟨.ok value, rfl, ?_⟩
  rintro _ ⟨⟩
  exact holds

theorem Safe.throw : Safe (throw error) property :=
  ⟨.error error, rfl, nofun⟩

theorem Safe.of_gives (safe : Safe decoder property)
    (gives : Gives decoder value) : property value := by
  obtain ⟨outcome, run, holds⟩ := safe
  exact holds value (Option.some.inj (run.symm.trans gives))

theorem Safe.bind (safe : Safe decoder property)
    (after : ∀ value, Gives decoder value → property value → Safe (next value) final) :
    Safe (decoder >>= next) final := by
  obtain ⟨outcome, run, holds⟩ := safe
  cases outcome with
  | error error =>
    refine ⟨.error error, ?_, nofun⟩
    rw [ExceptT.run_bind, run]
    rfl
  | ok value =>
    obtain ⟨outcome, continued, more⟩ := after value run (holds value rfl)
    refine ⟨outcome, ?_, more⟩
    rw [ExceptT.run_bind, run]
    exact continued

end

/-! ## Reading -/

/-- Some bytes, which must be there. -/
def slice (bytes : List UInt8) (offset length : Nat) : Decoder (List UInt8) :=
  if offset + length ≤ bytes.length then pure ((bytes.drop offset).take length) else .mk none

/-- `u16` and `u32`: a number of some bytes. -/
def number (bytes : List UInt8) (offset width : Nat) : Decoder Nat :=
  BigEndian.ofBytes <$> slice bytes offset width

/-- One bit of the loop of `crc32`. -/
def crcBit (crc : UInt32) : UInt32 := (crc >>> 1) ^^^ (if crc &&& 1 = 1 then 0xedb88320 else 0)

/-- `crc32`. -/
def crc32 (bytes : List UInt8) : UInt32 :=
  bytes.foldl (fun crc byte => Nat.repeat crcBit 8 (crc ^^^ byte.toUInt32)) 0xffffffff ^^^ 0xffffffff

/-- `efrp_xtcp_endpoint_t`. -/
structure Endpoint where
  ipv4 : List UInt8
  port : Nat
deriving DecidableEq, Repr

/-- `endpoint_valid`. -/
def Endpoint.valid (endpoint : Endpoint) : Bool :=
  endpoint.ipv4.getD 0 0 != 0 && endpoint.ipv4.getD 0 0 < 224 && endpoint.port != 0

/-- An address as an attribute has it, or xored with the cookie. -/
def unmask (xored : Bool) (ipv4 : List UInt8) (port : Nat) : Endpoint :=
  if xored then
    { ipv4 := ipv4.zipWith (· ^^^ ·) [0x21, 0x12, 0xa4, 0x42], port := port ^^^ 0x2112 }
  else
    { ipv4 := ipv4, port := port }

/-- `decode_address`. -/
def decodeAddress (value : List UInt8) (xored : Bool) : Decoder Endpoint :=
  if value.length ≠ 8 then
    throw .negotiationFailed
  else do
    let family ← number value 1 1
    if family ≠ 1 then
      throw .negotiationFailed
    else
      let port ← number value 2 2
      let ipv4 ← slice value 4 4
      if (unmask xored ipv4 port).valid then
        pure (unmask xored ipv4 port)
      else
        throw .protocolError

/-- The check of an `ERROR-CODE`. -/
def errorCode (value : List UInt8) : Decoder Unit :=
  if value.length < 4 ∨ 767 < value.length then
    throw .protocolError
  else do
    let hundreds ← number value 2 1
    let rest ← number value 3 1
    let text ← slice value 4 (value.length - 4)
    if hundreds % 8 < 3 ∨ 6 < hundreds % 8 ∨ 99 < rest ∨ Json.utf8 text = false ∨
        128 ≤ text.countP (fun byte => byte &&& 0xc0 != 0x80) then
      throw .protocolError
    else
      pure ()

/-- The addresses that `decode_stun` looks for, in the order of its branches. -/
inductive Slot where
  | plain
  | xored
  | changed
  | other
deriving DecidableEq, Repr

/-- The type of the attribute that has the address. -/
def Slot.type : Slot → Nat
  | .plain => 0x0001
  | .xored => 0x0020
  | .changed => 0x0005
  | .other => 0x802c

/-- What `decode_stun` has found. -/
structure Found where
  addresses : Slot → Option Endpoint := fun _ => none
  fingerprint : Bool := false
  error : Bool := false

namespace Found

/-- The check of a `FINGERPRINT`. -/
def checkFingerprint (found : Found) (bytes : List UInt8) (offset : Nat)
    (value : List UInt8) : Decoder Unit :=
  if found.fingerprint ∨ value.length ≠ 4 ∨ offset + 8 ≠ bytes.length then
    throw .protocolError
  else do
    let crc ← number value 0 4
    let covered ← slice bytes 0 offset
    if crc = (crc32 covered ^^^ 0x5354554e).toNat then pure () else throw .protocolError

/-- What an attribute adds: the first address of each type counts. -/
def take (found : Found) (kind : Nat) (bytes : List UInt8) (offset type : Nat)
    (value : List UInt8) : Decoder Found :=
  match [Slot.plain, .xored, .changed, .other].find? fun slot =>
      type == slot.type && (found.addresses slot).isNone with
  | some slot => do
    let endpoint ← decodeAddress value (slot == .xored)
    pure { found with addresses := Function.update found.addresses slot (some endpoint) }
  | none =>
    if type = 0x0009 ∧ kind = 0x0111 ∧ !found.error then do
      errorCode value
      pure { found with error := true }
    else if type = 0x8028 then do
      found.checkFingerprint bytes offset value
      pure { found with fingerprint := true }
    else
      pure found

end Found

/-- The length of a value with its padding. -/
def padded (length : Nat) : Nat := (length + 3) / 4 * 4

/-- One turn of the loop of `decode_stun`; the number is the length with the padding. -/
def turn (kind : Nat) (bytes : List UInt8) (offset : Nat) (found : Found) : Decoder (Found × Nat) :=
  if bytes.length - offset < 4 then
    throw .protocolError
  else do
    let type ← number bytes offset 2
    let length ← number bytes (offset + 2) 2
    if bytes.length - offset - 4 < padded length then
      throw .protocolError
    else
      let value ← slice bytes (offset + 4) length
      let next ← found.take kind bytes offset type value
      pure (next, padded length)

/-- The loop of `decode_stun`. -/
def loop (kind : Nat) (bytes : List UInt8) (offset : Nat) (found : Found) : Decoder Found :=
  if offset < bytes.length then do
    let (next, length) ← turn kind bytes offset found
    loop kind bytes (offset + (4 + length)) next
  else
    pure found
termination_by bytes.length - offset

/-- `efrp_xtcp_nat_state_t`. -/
inductive State where
  | discovering
  | mapped
  | punching
  | punched
  | transferred
  | cancelled
  | failed
deriving DecidableEq, Repr

/-- The part of `efrp_xtcp_nat` that discovers addresses. -/
structure XtcpNat where
  state : State
  mappedAddresses : List Endpoint
  servers : List Endpoint
  serverIndex : Nat
  stunTarget : Endpoint
  alternate : Bool
  stunSent : Bool
  stunRequest : Block UInt8 20
  attemptDeadline : Nat
  phaseDeadline : Nat
  nextDeadline : Nat

namespace XtcpNat

/-- `decode_stun`: the mapped address and the other address of the server. -/
def decodeStun (nat : XtcpNat) (bytes : List UInt8) (source : Endpoint) :
    Decoder (Endpoint × Option Endpoint) :=
  if source ≠ nat.stunTarget ∨ bytes.length < 20 then
    throw .wouldBlock
  else do
    let kind ← number bytes 0 2
    let cookie ← number bytes 4 4
    let transaction ← slice bytes 8 12
    if (kind ≠ 0x0101 ∧ kind ≠ 0x0111) ∨ cookie ≠ 0x2112a442 ∨
        transaction ≠ nat.stunRequest.slice 8 12 then
      throw .wouldBlock
    else if 1024 < bytes.length then
      throw .capacityExceeded
    else
      let length ← number bytes 2 2
      if length % 4 ≠ 0 ∨ length + 20 ≠ bytes.length then
        throw .protocolError
      else
        let found ← loop kind bytes 20 {}
        if kind = 0x0111 then
          throw (if found.error then .networkError else .protocolError)
        else
          match (found.addresses .xored).or (found.addresses .plain) with
          | none => throw .protocolError
          | some mapped => pure (mapped, (found.addresses .other).or (found.addresses .changed))

/-- `begin_stun` with what the random generator answers. -/
def beginStun (nat : XtcpNat) (target : Endpoint) (now : Nat) (random : Result × Block UInt8 12) :
    Result × XtcpNat :=
  (random.1,
    { nat with
      stunTarget := target
      stunSent := false
      stunRequest := ((Block.filled 0 20).copy 0 [0, 1, 0, 0, 0x21, 0x12, 0xa4, 0x42]).copy 8
        random.2.cells
      phaseDeadline := now + 3000
      nextDeadline := min (now + 3000) nat.attemptDeadline })

/-- `discover_receive`. -/
def discoverReceive (nat : XtcpNat) (bytes : List UInt8) (source : Endpoint) (now : Nat)
    (random : Result × Block UInt8 12) : Option (Result × XtcpNat) := do
  match ← (nat.decodeStun bytes source).run with
  | .error error => some (error, nat)
  | .ok (mapped, other) =>
    if 4 ≤ nat.mappedAddresses.length then
      some (.capacityExceeded, nat)
    else
      let nat := { nat with mappedAddresses := nat.mappedAddresses ++ [mapped] }
      match nat.alternate, other with
      | false, some other => some (beginStun { nat with alternate := true } other now random)
      | _, _ =>
        let nat := { nat with serverIndex := nat.serverIndex + 1, alternate := false }
        match nat.servers[nat.serverIndex]? with
        | some server => some (nat.beginStun server now random)
        | none =>
          some (.ok,
            { nat with
              stunRequest := .filled 0 20
              state := .mapped
              nextDeadline := nat.attemptDeadline })

end XtcpNat

/-! ## Reads stay inside of the datagram -/

section

variable {bytes : List UInt8} {offset length : Nat}

theorem slice_eq (inside : offset + length ≤ bytes.length) :
    slice bytes offset length = pure ((bytes.drop offset).take length) :=
  if_pos inside

theorem slice_safe (inside : offset + length ≤ bytes.length) :
    Safe (slice bytes offset length) fun value =>
      value = (bytes.drop offset).take length ∧ value.length = length := by
  rw [slice_eq inside]
  refine .pure ⟨rfl, ?_⟩
  rw [List.length_take, List.length_drop]
  omega

theorem number_eq (inside : offset + length ≤ bytes.length) :
    number bytes offset length = pure (BigEndian.ofBytes ((bytes.drop offset).take length)) := by
  rw [number, slice_eq inside, map_pure]

theorem number_safe (inside : offset + length ≤ bytes.length) :
    Safe (number bytes offset length) fun _ => True := by
  rw [number_eq inside]
  exact .pure trivial

end

theorem decodeAddress_safe (value : List UInt8) (xored : Bool) :
    Safe (decodeAddress value xored) fun endpoint => endpoint.valid = true := by
  unfold decodeAddress
  split
  · exact .throw
  refine (number_safe (by omega)).bind fun _ _ _ => ?_
  split
  · exact .throw
  refine (number_safe (by omega)).bind fun _ _ _ => (slice_safe (by omega)).bind fun _ _ _ => ?_
  split
  · next valid => exact .pure valid
  · exact .throw

theorem errorCode_safe (value : List UInt8) : Safe (errorCode value) fun _ => True := by
  unfold errorCode
  split
  · exact .throw
  refine (number_safe (by omega)).bind fun _ _ _ => (number_safe (by omega)).bind fun _ _ _ =>
    (slice_safe (by omega)).bind fun _ _ _ => ?_
  split
  · exact .throw
  · exact .pure trivial

/-! ## Attributes -/

/-- An attribute and where it stands in the datagram. -/
structure Attribute where
  offset : Nat
  type : Nat
  value : List UInt8

namespace Attribute

/-- The bytes at the offset are the type, the length and the value. -/
structure Stands (tile : Attribute) (bytes : List UInt8) : Prop where
  type : Gives (number bytes tile.offset 2) tile.type
  length : Gives (number bytes (tile.offset + 2) 2) tile.value.length
  value : Gives (slice bytes (tile.offset + 4) tile.value.length) tile.value

/-- A fingerprint ends the datagram and covers all that is ahead of it. -/
def Sealing (tile : Attribute) (bytes : List UInt8) : Prop :=
  tile.type = 0x8028 → tile.offset + 8 = bytes.length ∧ tile.value.length = 4 ∧
    Gives (number tile.value 0 4) (crc32 (bytes.take tile.offset) ^^^ 0x5354554e).toNat

end Attribute

/-- The bytes from an offset on are attributes with their padding. -/
inductive Tiled (bytes : List UInt8) : Nat → List Attribute → Prop where
  | done : Tiled bytes bytes.length []
  | tile {tile : Attribute} {rest : List Attribute} (stands : tile.Stands bytes)
      (tiled : Tiled bytes (tile.offset + (4 + padded tile.value.length)) rest) :
      Tiled bytes tile.offset (tile :: rest)

/-- The address in the first attribute of its type. -/
def Slot.first (slot : Slot) (tiles : List Attribute) : Option Endpoint :=
  (tiles.find? (·.type == slot.type)).bind fun tile =>
    match (decodeAddress tile.value (slot == .xored)).run with
    | some (.ok endpoint) => some endpoint
    | _ => none

variable {bytes : List UInt8} {found next : Found} {tile : Attribute}

/-- What an attribute adds to what was found. -/
structure Adds (bytes : List UInt8) (found : Found) (tile : Attribute) (next : Found) : Prop where
  sealing : tile.Sealing bytes
  adds : ∀ slot, next.addresses slot = (found.addresses slot).or (slot.first [tile])
  takes : ∀ slot, tile.type = slot.type → next.addresses slot ≠ none

/-- The attributes behind it add to that. -/
theorem Adds.or_first (added : Adds bytes found tile next) (slot : Slot) (rest : List Attribute) :
    (next.addresses slot).or (slot.first rest) =
      (found.addresses slot).or (slot.first (tile :: rest)) := by
  have taken := added.takes slot
  rw [added.adds slot] at taken ⊢
  cases present : found.addresses slot with
  | some => rfl
  | none =>
    by_cases same : tile.type = slot.type
    · have alone : slot.first (tile :: rest) = slot.first [tile] := by simp [Slot.first, same]
      have decoded := taken same
      rw [present, Option.none_or] at decoded
      obtain ⟨endpoint, found⟩ := Option.ne_none_iff_exists'.mp decoded
      rw [alone, found]
      rfl
    · simp [Slot.first, same]

/-- The attribute has no address, or not the first of its type. -/
theorem Adds.keep (sealing : tile.Sealing bytes)
    (known : ∀ slot : Slot, tile.type = slot.type → found.addresses slot ≠ none)
    (same : next.addresses = found.addresses) : Adds bytes found tile next := by
  refine ⟨sealing, ?_, by rwa [same]⟩
  intro slot
  rw [same]
  cases present : found.addresses slot with
  | some => rfl
  | none =>
    have other : tile.type ≠ slot.type := fun type => known slot type present
    simp [Slot.first, other]

/-- The first attribute with an address. -/
theorem Adds.address (type : tile.type = slot.type) (fresh : found.addresses slot = none)
    (gives : Gives (decodeAddress tile.value (slot == .xored)) endpoint) :
    Adds bytes found tile
      { found with addresses := Function.update found.addresses slot (some endpoint) } := by
  have apart : ∀ {another : Slot}, tile.type = another.type → another = slot := by
    intro another same
    cases another <;> cases slot <;> simp_all [Slot.type]
  have decoded : (decodeAddress tile.value (slot == .xored)).run = some (.ok endpoint) := gives
  refine ⟨?_, ?_, ?_⟩
  · intro sealing
    cases slot <;> simp [type, Slot.type] at sealing
  · intro another
    by_cases same : another = slot
    · subst same
      simp [Slot.first, type, fresh, decoded]
    · have differs : tile.type ≠ another.type := fun type => same (apart type)
      simp [Slot.first, same, differs]
  · intro another same
    simp [apart same]

section

variable (found : Found) (kind : Nat) (bytes : List UInt8) (tile : Attribute)

theorem checkFingerprint_safe :
    Safe (found.checkFingerprint bytes tile.offset tile.value) fun _ => tile.Sealing bytes := by
  unfold Found.checkFingerprint
  split
  · exact .throw
  · next valid =>
    obtain ⟨_, four, last⟩ : found.fingerprint = false ∧ tile.value.length = 4 ∧
        tile.offset + 8 = bytes.length := by simpa using valid
    refine (number_safe (by omega)).bind fun _ crc _ => (slice_safe (by omega)).bind ?_
    rintro _ _ ⟨rfl, _⟩
    split
    · next same =>
      rw [same] at crc
      exact .pure fun _ => ⟨last, four, crc⟩
    · exact .throw

theorem take_safe :
    Safe (found.take kind bytes tile.offset tile.type tile.value) (Adds bytes found tile) := by
  unfold Found.take
  split
  · next slot search =>
    obtain ⟨type, fresh⟩ : tile.type = slot.type ∧ found.addresses slot = none := by
      simpa using List.find?_some search
    exact (decodeAddress_safe _ _).bind fun _ gives _ => .pure (.address type fresh gives)
  · next search =>
    have known : ∀ slot : Slot, tile.type = slot.type → found.addresses slot ≠ none := by
      intro slot same
      cases slot <;> simp_all
    split
    · next error =>
      refine (errorCode_safe _).bind fun _ _ _ => .pure (.keep ?_ known rfl)
      exact fun type => by simp [error.1] at type
    split
    · exact (checkFingerprint_safe found bytes tile).bind fun _ _ sealing =>
        .pure (.keep sealing known rfl)
    · next other => exact .pure (.keep (fun type => absurd type other) known rfl)

theorem turn_safe (offset : Nat) : Safe (turn kind bytes offset found) fun turned =>
      ∃ tile : Attribute, tile.offset = offset ∧ tile.Stands bytes ∧
        turned.2 = padded tile.value.length ∧ offset + (4 + turned.2) ≤ bytes.length ∧
        Adds bytes found tile turned.1 := by
  unfold turn
  split
  · exact .throw
  refine (number_safe (by omega)).bind fun code type _ =>
    (number_safe (by omega)).bind fun length long _ => ?_
  split
  · exact .throw
  have fits : length ≤ padded length := by
    unfold padded
    omega
  refine (slice_safe (by omega)).bind ?_
  rintro content value ⟨-, rfl⟩
  refine (take_safe found kind bytes ⟨offset, code, content⟩).bind fun _ _ adds => .pure ?_
  exact ⟨⟨offset, code, content⟩, rfl, ⟨type, long, value⟩, rfl, by dsimp only; omega, adds⟩

end

theorem loop_safe (kind : Nat) (bytes : List UInt8) (offset : Nat) (found : Found)
    (inside : offset ≤ bytes.length) :
    Safe (loop kind bytes offset found) fun last =>
      ∃ tiles, Tiled bytes offset tiles ∧ (∀ tile ∈ tiles, tile.Sealing bytes ∧
          ∀ slot : Slot, tile.type = slot.type → last.addresses slot ≠ none) ∧
        ∀ slot, last.addresses slot = (found.addresses slot).or (slot.first tiles) := by
  rw [loop]
  split
  · refine (turn_safe found kind bytes offset).bind ?_
    rintro ⟨next, length⟩ _ ⟨tile, rfl, stands, rfl, within, added⟩
    obtain ⟨outcome, run, more⟩ := loop_safe kind bytes _ next within
    refine ⟨outcome, run, ?_⟩
    intro last ended
    obtain ⟨tiles, tiled, sealing, addresses⟩ := more last ended
    refine ⟨tile :: tiles, .tile stands tiled, ?_, ?_⟩
    · intro one among
      rcases List.mem_cons.mp among with rfl | later
      · refine ⟨added.sealing, fun slot same => ?_⟩
        rw [addresses slot]
        exact fun none => added.takes slot same (Option.or_eq_none_iff.mp none).1
      · exact sealing one later
    · exact fun slot => (addresses slot).trans (added.or_first slot tiles)
  · have ended : offset = bytes.length := by omega
    subst ended
    exact .pure ⟨[], .done, by simp, by simp [Slot.first]⟩
termination_by bytes.length - offset

/-! ## Responses -/

/-- The datagram answers the current request. -/
def XtcpNat.Correlated (nat : XtcpNat) (bytes : List UInt8) (source : Endpoint) : Prop :=
  source = nat.stunTarget ∧ Gives (number bytes 4 4) 0x2112a442 ∧
    Gives (slice bytes 8 12) (nat.stunRequest.slice 8 12)

/-- A success response whose attributes give a mapped address. -/
structure Accepted (bytes : List UInt8) (mapped : Endpoint) : Prop where
  success : Gives (number bytes 0 2) 0x0101
  length : Gives (number bytes 2 2) (bytes.length - 20)
  attributes : ∃ tiles, Tiled bytes 20 tiles ∧ (∀ tile ∈ tiles, tile.Sealing bytes ∧
      ∀ slot : Slot, tile.type = slot.type → slot.first tiles ≠ none) ∧
    (Slot.xored.first tiles).or (Slot.plain.first tiles) = some mapped
  valid : mapped.valid = true

theorem first_valid {slot : Slot}
    (found : slot.first tiles = some endpoint) : endpoint.valid = true := by
  obtain ⟨tile, -, decoded⟩ := Option.bind_eq_some_iff.mp found
  split at decoded
  · next gives =>
    cases decoded
    exact (decodeAddress_safe _ _).of_gives gives
  · cases decoded

/-- What `decode_stun` accepts, if the datagram is not a foreign one. -/
theorem decodeStun_cases (nat : XtcpNat) (bytes : List UInt8) (source : Endpoint) :
    (nat.decodeStun bytes source).run = some (.error .wouldBlock) ∨ nat.Correlated bytes source ∧
        Safe (nat.decodeStun bytes source) fun decoded => Accepted bytes decoded.1 := by
  unfold XtcpNat.decodeStun
  split
  · exact .inl rfl
  · next started =>
    obtain ⟨target, long⟩ : source = nat.stunTarget ∧ 20 ≤ bytes.length := by simpa using started
    have kind := @number_eq bytes 0 2 (by omega)
    have cookie := @number_eq bytes 4 4 (by omega)
    have transaction := @slice_eq bytes 8 12 (by omega)
    rw [kind, pure_bind, cookie, pure_bind, transaction, pure_bind]
    split
    · exact .inl rfl
    · next related =>
      simp only [not_or, not_not] at related
      obtain ⟨known, isCookie, same⟩ := related
      rw [isCookie] at cookie
      rw [same] at transaction
      refine .inr ⟨⟨target, cookie, transaction⟩, ?_⟩
      split
      · exact .throw
      refine (number_safe (by omega)).bind fun length header _ => ?_
      split
      · exact .throw
      · next tight =>
        refine (loop_safe _ bytes 20 {} long).bind ?_
        rintro last _ ⟨tiles, tiled, sealing, addresses⟩
        split
        · exact .throw
        · next success =>
          simp only [addresses, Option.none_or] at sealing ⊢
          split
          · exact .throw
          · next found =>
            refine .pure ⟨?_, ?_, ⟨tiles, tiled, sealing, found⟩, ?_⟩
            · rwa [Classical.byContradiction fun other => known ⟨other, success⟩] at kind
            · have length_eq : length = bytes.length - 20 := by omega
              rwa [length_eq] at header
            · rcases Option.or_eq_some_iff.mp found with xored | plain
              · exact first_valid xored
              · exact first_valid plain.2

end EspFrp.Xtcp.Stun

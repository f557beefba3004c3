import EspFrp.Datagram.Codec

/-!
# The two codecs agree

The codec of the client and the one of the server accept the same packets and
the same messages, and give the same bytes, addresses and payloads.
-/

namespace EspFrp.Datagram

open Library

variable (flags : UInt8) (rest body bytes : List UInt8)

/-! ## Zones -/

/-- The client and the standard look at the same bytes of a character. -/
theorem tails_eq (positive : 1 ≤ count) (second : UInt8) (others : List UInt8) :
    (if (second :: others).length < count ∨ second.toNat < low ∨ high < second.toNat then
      none
    else if (others.take (count - 1)).all Utf8.isTail then
      some (count + 1)
    else
      none) =
    if count + 1 - 2 ≤ others.length ∧ low ≤ second.toNat ∧ second.toNat ≤ high ∧
        (others.take (count + 1 - 2)).all Utf8.isTail = true then
      some (count + 1)
    else
      none := by
  rw [show count + 1 - 2 = count - 1 by omega, List.length_cons]
  by_cases refused : others.length + 1 < count ∨ second.toNat < low ∨ high < second.toNat
  · rw [if_pos refused, if_neg]
    omega
  rw [if_neg refused]
  by_cases tails : (others.take (count - 1)).all Utf8.isTail = true
  · rw [if_pos tails, if_pos ⟨by omega, by omega, by omega, tails⟩]
  · rw [if_neg tails, if_neg fun every => tails every.2.2.2]

theorem character?_eq : character? bytes = Utf8.character? bytes := by
  cases bytes with
  | nil => rfl
  | cons first rest =>
    simp only [character?, Utf8.character?]
    split
    · rfl
    next high =>
    rw [Json.lead?_eq first.toNat (Nat.not_lt.mp high)]
    cases rest with
    | nil =>
      split_ifs <;> simp
    | cons second others =>
      by_cases two : 0xc2 ≤ first.toNat ∧ first.toNat ≤ 0xdf
      · rw [if_pos two, if_pos two]
        exact tails_eq (by decide) second others
      rw [if_neg two, if_neg two]
      by_cases three : 0xe0 ≤ first.toNat ∧ first.toNat ≤ 0xef
      · rw [if_pos three, if_pos three]
        exact tails_eq (by decide) second others
      rw [if_neg three, if_neg three]
      by_cases four : 0xf0 ≤ first.toNat ∧ first.toNat ≤ 0xf4
      · rw [if_pos four, if_pos four]
        exact tails_eq (by decide) second others
      · rw [if_neg four, if_neg four]

theorem validUtf8_eq : validUtf8 bytes = Utf8.wellFormed bytes :=
  Utf8.accepts_congr (fun bytes (_ : ∀ byte ∈ bytes, True) => character?_eq bytes) _
    fun _ _ => trivial

/-- What an address of the client is for the server. -/
def Address.server (address : Address) : Server.UdpAddr where
  ip :=
    if address.family = 4 then address.ip.cells.take 4
    else if address.family = 6 then address.ip.cells
    else []
  port := address.port.toNat
  zone := address.zone

/-- What a packet of the client is for the server. -/
def Packet.server (packet : Packet) : Server.UdpPacket where
  localAddr := packet.localAddress.map Address.server
  remoteAddr := packet.remoteAddress.server
  content := packet.payload

/-! ## Decoding -/

theorem toOption_bind {First Second : Type} (outcome : Except Result First)
    (next : First → Except Result Second) :
    (outcome >>= next).toOption = outcome.toOption.bind fun value => (next value).toOption := by
  cases outcome <;> rfl

theorem toOption_ok {Value : Type} (value : Value) :
    (Except.ok value : Except Result Value).toOption = some value := rfl

/-- The server reads an address where the client does, and the same one. -/
theorem readBinaryUdpAddr_eq : Server.readBinaryUdpAddr rest =
      (readAddress rest).toOption.map fun read => (read.1.server, read.2) := by
  cases rest with
  | nil => rfl
  | cons family rest =>
    simp only [Server.readBinaryUdpAddr, readAddress, validUtf8_eq]
    split
    · rfl
    next known =>
    split
    · rfl
    next full =>
    split
    · rfl
    split
    · next zoned =>
      rw [if_pos (Or.inl zoned)]
      rfl
    next unzoned =>
    split
    · next invalid =>
      rw [if_pos (Or.inr invalid)]
      rfl
    next valid =>
    rw [if_neg (not_or.mpr ⟨unzoned, valid⟩)]
    have port : getU16 (rest.drop (ipBytes family)) < 65536 := by
      have bound := BigEndian.ofBytes_lt ((rest.drop (ipBytes family)).take 2)
      exact bound.trans_le (Nat.pow_le_pow_right (show 0 < 256 by decide) (List.length_take_le _ _))
    have taken : (rest.take (ipBytes family)).length = ipBytes family := by
      rw [List.length_take]
      omega
    refine congrArg some (Prod.ext ?_ rfl)
    dsimp only [Address.server]
    rw [UInt16.toNat_ofNat_of_lt' port]
    congr 1
    rw [ipBytes] at taken ⊢
    split
    · next four =>
      rw [if_pos four] at taken
      have copied : ((Block.filled (0 : UInt8) 16).copy 0
          (rest.take 4)).cells.take (0 + (rest.take 4).length) = _ := Block.take_copy _ (by omega)
      rw [Nat.zero_add, taken] at copied
      rw [copied]
      rfl
    · next six =>
      have six' : family = 6 := by
        by_contra other
        exact known ⟨six, other⟩
      rw [if_neg six] at taken
      rw [if_pos six', Block.copy_full _ (by omega)]
      rfl

theorem orIncomplete_truncated (outcome : Except Result Value) :
    orIncomplete .truncated outcome = outcome := by
  unfold orIncomplete
  split <;> rfl

theorem readLocal_eq : Server.readLocal flags rest =
      (readLocal flags rest).toOption.map fun read => (read.1.map Address.server, read.2) := by
  rw [Server.readLocal, readLocal]
  split
  · rw [readBinaryUdpAddr_eq]
    cases readAddress rest with
    | error | ok read => rfl
  · rfl

variable {address : Address} {rest : List UInt8}

/-- An address takes more than one byte. -/
theorem readAddress_short (short : rest.length < 2) : (readAddress rest).toOption = none := by
  cases rest with
  | nil => rfl
  | cons _ rest =>
    have empty : rest = [] := by
      cases rest with
      | nil => rfl
      | cons =>
        simp only [List.length_cons] at short
        omega
    subst empty
    simp only [readAddress]
    split
    · rfl
    rw [if_pos (by simp)]
    rfl

variable {after : List UInt8}

theorem readAddress_rest (read : readAddress rest = .ok (address, after)) : after <:+ rest := by
  cases rest with
  | nil => cases read
  | cons =>
    simp only [readAddress] at read
    split at read
    · cases read
    split at read
    · cases read
    split at read
    · cases read
    split at read
    · cases read
    cases read
    exact ((List.drop_suffix _ _).trans (List.drop_suffix _ _)).trans (List.suffix_cons _ _)

theorem readLocal_rest {flags : UInt8} {address : Option Address}
    (read : readLocal flags rest = .ok (address, after)) : after <:+ rest := by
  rw [readLocal] at read
  split at read
  · split at read
    · cases read
    · next outcome =>
      cases read
      exact readAddress_rest outcome
  · cases read
    exact List.suffix_rfl

variable {input : List UInt8}

theorem readContent_eq (within : rest <:+ input) : Server.readContent rest =
      (readLength .truncated input.length
        (input.length - rest.length + 2) rest).toOption.map fun length =>
          (input.drop (input.length - rest.length + 2)).take length := by
  have shorter := within.length_le
  rw [Server.readContent, readLength]
  by_cases short : rest.length < 2
  · rw [if_pos short, if_pos short]
    rfl
  have left : input.length - (input.length - rest.length + 2) = (rest.drop 2).length := by
    rw [List.length_drop]
    omega
  have same : input.drop (input.length - rest.length + 2) =
      rest.drop 2 := by
    rw [← List.drop_drop, ← List.suffix_iff_eq_drop.mp within]
  rw [if_neg short, if_neg short, left, same]
  split
  · rfl
  split
  · rfl
  split
  · rfl
  · rfl

/-- The parts of a message that follow its flags. -/
theorem decode_parts (within : rest <:+ input) : (do
      let (localAddr, rest) ← Server.readLocal flags rest
      let (remoteAddr, rest) ← Server.readBinaryUdpAddr rest
      let content ← Server.readContent rest
      return ({ localAddr, remoteAddr, content } : Server.UdpPacket)) =
    (do
      let (localAddress, rest) ← readLocal flags rest
      let (remoteAddress, rest) ← readAddress rest
      let offset := input.length - rest.length + 2
      let length ← readLength .truncated input.length offset rest
      return ({ localAddress, remoteAddress,
                payload := (input.drop offset).take length } :
        Packet)).toOption.map Packet.server := by
  rw [readLocal_eq, toOption_bind]
  rcases first : readLocal flags rest with error | ⟨localAddress, middle⟩
  · rfl
  simp only [toOption_ok, Option.map_some, Option.bind_eq_bind,
    Option.bind_some, readBinaryUdpAddr_eq, toOption_bind]
  rcases second : readAddress middle with error | ⟨remoteAddress, last⟩
  · rfl
  have inside : last <:+ input :=
    (readAddress_rest second).trans ((readLocal_rest first).trans within)
  simp only [toOption_ok, Option.map_some, Option.bind_some, readContent_eq inside]
  rcases readLength .truncated input.length
      (input.length - last.length + 2) last with error | length
  · rfl
  · rfl

/-- What keeps both sides from reading the addresses. -/
def Refused (body : List UInt8) : Prop :=
  body = [] ∨ wireMaxPayload < 2 + body.length ∨
    body.getD 0 0 &&& 0xfc ≠ 0 ∨ body.getD 0 0 &&& 2 = 0

theorem headerDecode_typed : (Refused body ∧
        ∃ error, headerDecode (typed body) (typed body).length = .error error) ∨
      ¬Refused body ∧ headerDecode (typed body) (typed body).length = (do
          let (localAddress, rest) ← readLocal (body.getD 0 0) (body.drop 1)
          let (remoteAddress, rest) ← readAddress rest
          let offset := (typed body).length - rest.length + 2
          let length ← readLength .truncated (typed body).length offset rest
          return (localAddress, remoteAddress, length, offset)) := by
  have size : (typed body).length = 2 + body.length := by
    change body.length + 1 + 1 = _
    omega
  rw [headerDecode]
  simp only [Nat.lt_irrefl, if_false, orIncomplete_truncated]
  by_cases long : wireMaxPayload < (typed body).length
  · rw [if_pos long]
    exact .inl ⟨.inr (.inl (size ▸ long)), _, rfl⟩
  rw [if_neg long]
  by_cases empty : (typed body).length < 3
  · rw [if_pos empty]
    refine .inl ⟨.inl (List.eq_nil_of_length_eq_zero ?_), _, rfl⟩
    omega
  rw [if_neg empty]
  have flags : (typed body).getD 2 0 = body.getD 0 0 := by cases body <;> rfl
  rw [flags]
  by_cases checks : getU16 (typed body) ≠ 19 ∨ body.getD 0 0 &&& 0xfc ≠ 0 ∨ body.getD 0 0 &&& 2 = 0
  · rw [if_pos checks]
    exact .inl ⟨.inr (.inr (checks.resolve_left fun other => other rfl)), _, rfl⟩
  rw [if_neg checks]
  refine .inr ⟨?_, rfl⟩
  rintro (none | more | refused)
  · exact empty (by rw [none]; decide)
  · exact long (size ▸ more)
  · exact checks (.inr refused)

/-- The server takes the body of exactly the messages that the client takes,
for the same packet. -/
theorem decode_typed : Server.decode body = (decode (typed body)).toOption.map Packet.server := by
  have parts := decode_parts (body.getD 0 0) (show body.drop 1 <:+ typed body from
      (List.drop_suffix _ _).trans ⟨[0, 19], rfl⟩)
  rw [decode, Server.decode]
  rcases headerDecode_typed body with ⟨refused, error, outcome⟩ | ⟨taken, outcome⟩
  · rw [outcome]
    rcases refused with rfl | long | reserved | missing
    · rfl
    · rw [if_pos long, ite_self]
      rfl
    · rw [if_pos reserved, ite_self, ite_self]
      rfl
    rw [if_pos missing, ite_self, ite_self, ite_self]
    rfl
  · simp only [outcome, bind_assoc, pure_bind]
    rw [← parts]
    obtain ⟨_, short, known⟩ : _ ∧ _ ∧ _ := by simpa only [Refused, not_or] using taken
    rw [if_neg short, if_neg known.1, if_neg known.2]
    split
    · next tiny =>
      have nothing : (readAddress (body.drop 1)).toOption = none :=
        readAddress_short (by rw [List.length_drop]; omega)
      have unread : Server.readBinaryUdpAddr (body.drop 1) = none := by
        rw [readBinaryUdpAddr_eq, nothing]
        rfl
      rw [Server.readLocal, unread]
      split
      · rfl
      simp only [Option.bind_eq_bind, Option.bind_some, unread]
      rfl
    · rfl

/-! ## Encoding -/

/-- The address can be written. -/
def Address.Writable (address : Address) : Prop :=
  (address.family = 4 ∨ address.family = 6) ∧ address.zone.length ≤ 255 ∧
    (address.isIpv4 = true → address.zone = []) ∧ Utf8.wellFormed address.zone = true

instance (address : Address) : Decidable address.Writable := inferInstanceAs (Decidable (_ ∧ _))

/-- What is written for it. -/
def Address.binary (address : Address) : Server.BinaryUdpAddr where
  family := if address.isIpv4 then 4 else 6
  ip := (address.ip.cells.drop (if address.mapped then 12 else 0)).take
    (if address.isIpv4 then 4 else 16)
  port := address.port.toNat
  zone := address.zone

theorem not_mapped (ipv6 : address.isIpv4 = false) : address.mapped = false := by
  rw [Address.isIpv4, Bool.or_eq_false_iff] at ipv6
  exact ipv6.2

theorem binary_length (address : Address) : Server.binaryUdpAddrLen address.binary =
      4 + (if address.isIpv4 then 4 else 16) + address.zone.length := by
  simp only [Server.binaryUdpAddrLen, Address.binary, List.length_take, List.length_drop,
    address.ip.cells_length]
  cases ipv4 : address.isIpv4 with
  | true => cases address.mapped <;> simp +arith
  | false => simp [not_mapped ipv4]

theorem size_eq (address : Address) : address.size =
      if address.Writable then .ok (Server.binaryUdpAddrLen address.binary)
      else .error .invalidArgument := by
  rw [binary_length, Address.size, validUtf8_eq]
  by_cases writable : address.Writable
  · obtain ⟨known, short, bare, valid⟩ := id writable
    rw [if_pos writable, if_neg (by tauto), if_neg]
    rintro (long | ⟨ipv4, zoned⟩ | invalid)
    · exact absurd short (Nat.not_le.mpr long)
    · exact zoned (bare ipv4)
    · exact Bool.false_ne_true (invalid.symm.trans valid)
  · rw [if_neg writable]
    split
    · rfl
    split
    · rfl
    next unknown accepted =>
    simp only [not_or, not_and, not_not, Bool.not_eq_false, Nat.not_lt] at accepted
    exact absurd ⟨by tauto, accepted⟩ writable

/-- The server takes the address as one of IPv4 when the client does. -/
theorem to4_server (known : address.family = 4 ∨ address.family = 6) :
    Server.to4 address.server.ip =
      if address.isIpv4 then
        some ((address.ip.cells.drop (if address.mapped then 12 else 0)).take 4)
      else
        none := by
  have sixteen := address.ip.cells_length
  rcases known with four | six
  · have plain : address.mapped = false := by simp [Address.mapped, four]
    simp [Server.to4, Address.server, Address.isIpv4, four, plain, sixteen]
  have length : (address.ip.cells.drop 12).length = 4 := by rw [List.length_drop, sixteen]
  by_cases inside : address.ip.cells.take 12 = mappedBytes
  · have mapped : address.mapped = true := by simp [Address.mapped, six, inside]
    simp [Server.to4, Address.server, Address.isIpv4, six, mapped,
      sixteen, inside, List.take_of_length_le length.le]
  have plain : address.mapped = false := by simp [Address.mapped, inside]
  simp [Server.to4, Address.server, Address.isIpv4, six, plain, sixteen, inside]

/-- The server writes the same addresses, in the same way. -/
theorem validate_eq (address : Address) : Server.validateBinaryUdpAddr address.server =
      if address.Writable then some address.binary else none := by
  have port : ¬(address.server.port < 0 ∨ 65535 < address.server.port) := by
    have bound := address.port.toNat_lt
    change ¬((address.port.toNat : Int) < 0 ∨ 65535 < (address.port.toNat : Int))
    omega
  rw [Server.validateBinaryUdpAddr, if_neg port]
  by_cases known : address.family = 4 ∨ address.family = 6
  · rw [to4_server known]
    cases ipv4 : address.isIpv4 with
    | true =>
      by_cases zoned : address.zone = []
      · have writable : address.Writable := ⟨known, by simp [zoned], fun _ => zoned, by rw [zoned]; rfl⟩
        rw [if_pos writable]
        simp [Address.binary, Address.server, ipv4, zoned]
      have refused : ¬address.Writable := fun writable => zoned (writable.2.2.1 ipv4)
      rw [if_neg refused]
      exact if_pos zoned
    | false =>
      have six := known.resolve_left fun four => by simp [Address.isIpv4, four] at ipv4
      have length := address.ip.cells_length
      simp [Server.to16, Address.server, six, length, Address.Writable, ipv4, Address.binary,
        not_mapped ipv4, List.take_of_length_le]
      split_ifs <;> first | rfl | omega | simp_all
  · rw [if_neg fun writable => known writable.1]
    rw [not_or] at known
    simp [Address.server, known.1, known.2, Server.to4, Server.to16]

theorem putBinaryUdpAddr_length (binary : Server.BinaryUdpAddr) :
    (Server.putBinaryUdpAddr binary).length = Server.binaryUdpAddrLen binary := by
  simp only [Server.putBinaryUdpAddr, Server.binaryUdpAddrLen, putU16,
    List.length_cons, List.length_append, BigEndian.toBytes_length]
  omega

/-- The same for an address that may be missing. -/
theorem optional_eq (address : Option Address) : optionalSize address =
        (if ∀ present ∈ address, present.Writable then
          .ok ((address.map Address.binary).elim 0 Server.binaryUdpAddrLen)
        else .error .invalidArgument) ∧
      Server.validateLocal (address.map Address.server) =
        if ∀ present ∈ address, present.Writable then some (address.map Address.binary)
        else none := by
  cases address with
  | none => exact ⟨rfl, rfl⟩
  | some address =>
    simp only [optionalSize, size_eq, Server.validateLocal, Option.map_some, validate_eq,
      Option.mem_some_iff, forall_eq']
    split <;> exact ⟨rfl, rfl⟩

/-- The server writes exactly the packets that the client has room for, with
the same bytes. -/
theorem encode_agrees (packet : Packet) (capacity : Nat) :
    match Server.encode packet.server with
    | some body => 2 + body.length ≤ capacity → encode packet capacity = .ok (typed body)
    | none => ∃ error, encode packet capacity = .error error := by
  obtain ⟨localAddress, remoteAddress, payload⟩ := packet
  obtain ⟨localSize, localValid⟩ := optional_eq localAddress
  simp only [Server.encode, encode, Packet.server, size_eq, validate_eq, localSize, localValid]
  by_cases long : maxPayloadSize < payload.length
  · rw [if_pos long, if_pos long]
    exact ⟨_, rfl⟩
  rw [if_neg long, if_neg long]
  by_cases remote : remoteAddress.Writable
  · by_cases near : ∀ present ∈ localAddress, present.Writable
    · simp only [if_pos remote, if_pos near]
      have put : (localAddress.map Address.binary).elim [] Server.putBinaryUdpAddr =
          localAddress.elim [] Address.put := by
        cases localAddress <;> rfl
      have putLength : (localAddress.elim [] Address.put).length =
          (localAddress.map Address.binary).elim 0 Server.binaryUdpAddrLen := by
        cases localAddress with
        | none => rfl
        | some address => exact putBinaryUdpAddr_length address.binary
      have remotePut : Server.putBinaryUdpAddr remoteAddress.binary = remoteAddress.put := rfl
      have remoteLength := putBinaryUdpAddr_length remoteAddress.binary
      rw [put, remotePut, Option.isSome_map]
      rw [remotePut] at remoteLength
      by_cases wide : wireMaxPayload < 2 + (1 + 2 + payload.length +
            (localAddress.map Address.binary).elim 0 Server.binaryUdpAddrLen +
            Server.binaryUdpAddrLen remoteAddress.binary)
      · simp only [wide, if_true]
        exact ⟨_, if_pos (.inl (by omega))⟩
      simp only [wide, if_false]
      intro room
      simp only [List.length_cons, List.length_append, putU16, BigEndian.toBytes_length,
        putLength, remoteLength] at room
      exact if_neg (by omega)
    · simp only [if_pos remote, if_neg near]
      exact ⟨_, rfl⟩
  · simp only [if_neg remote]
    by_cases near : ∀ present ∈ localAddress, present.Writable
    · rw [if_pos near]
      exact ⟨_, rfl⟩
    rw [if_neg near]
    exact ⟨_, rfl⟩

theorem headerDecode_ok_typed {header}
    (decoded : headerDecode input input.length = .ok header) : ∃ body, input = typed body := by
  rw [headerDecode] at decoded
  split at decoded
  · cases decoded
  split at decoded
  · cases decoded
  split at decoded
  · cases decoded
  split at decoded
  · cases decoded
  next short taken =>
    refine ⟨input.drop 2, ?_⟩
    rw [not_or, not_ne_iff, getU16] at taken
    have two : (input.take 2).length = 2 := by
      rw [List.length_take]
      omega
    rw [typed, putU16, ← taken.1, BigEndian.toBytes_ofBytes_of_length two, List.take_append_drop]

/-- The codec of the client and the codec of the server.

A message is accepted by the client if and only if it starts with the type of
datagrams and the server accepts the rest, for the same packet; and a packet
is written by the client, given enough room, if and only if the server writes
it, with the same bytes. -/
theorem codecs_agree : (∀ input, match decode input with
      | .ok packet => ∃ body, input = typed body ∧ Server.decode body = some packet.server
      | .error _ => ∀ body, input = typed body → Server.decode body = none) ∧
      ∀ packet capacity, match Server.encode packet.server with
        | some body => 2 + body.length ≤ capacity → encode packet capacity = .ok (typed body)
        | none => ∃ error, encode packet capacity = .error error := by
  refine ⟨fun input => ?_, encode_agrees⟩
  cases outcome : decode input with
  | error =>
    rintro body rfl
    rw [decode_typed, outcome]
    rfl
  | ok =>
    obtain ⟨body, rfl⟩ : ∃ body, input = typed body := by
      rw [decode] at outcome
      cases header : headerDecode input input.length with
      | error =>
        rw [header] at outcome
        cases outcome
      | ok => exact headerDecode_ok_typed header
    refine ⟨body, rfl, ?_⟩
    rw [decode_typed, outcome]
    rfl

end EspFrp.Datagram

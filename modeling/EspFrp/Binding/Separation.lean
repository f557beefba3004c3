import EspFrp.Binding.Canonical
import EspFrp.Binding.Proof

/-!
# The proofs of the binding are separated

The text under each message authentication code determines what it speaks
about, so that a code is never valid for another role, another manifest or
another kind of message; and the codes of the client are those of the server.
-/

namespace EspFrp.Binding

open Library

/-! ## HMAC -/

variable {hashing : Hashing} {key : List UInt8}

theorem pad_eq (short : key.length ≤ 64) (constant : UInt8) :
    pad key constant = (key ++ List.replicate (64 - key.length) 0).map (· ^^^ constant) := by
  refine List.ext_getElem? fun index => ?_
  unfold pad
  rw [List.getElem?_map, List.getElem?_map]
  by_cases inside : index < 64
  · rw [List.getElem?_range inside]
    by_cases within : index < key.length
    · rw [List.getElem?_append_left within]
      simp [within]
    rw [List.getElem?_append_right (by omega), List.getElem?_replicate_of_lt (by omega)]
    simp [within]
  · rw [List.getElem?_eq_none (by simpa using inside), List.getElem?_eq_none (by simp; omega)]
    rfl

theorem hash_ok
    (computed : hashing.hash spans = .ok digest) : digest = hashing.sha256 spans.flatten := by
  unfold Hashing.hash at computed
  split_ifs at computed
  cases computed
  rfl

/-- The block of a key that is not longer than a block. -/
theorem mac_of_shortened (shortened_eq : shortened =
        if 64 < key.length then (hashing.sha256 key).cells else key) :
    Server.mac hashing.sha256 key text = (hashing.sha256 (pad shortened 0x5c ++
        (hashing.sha256 (pad shortened 0x36 ++ text)).cells)).cells := by
  have short : shortened.length ≤ 64 := by
    rw [shortened_eq]
    split_ifs with long
    · rw [Block.cells_length]
      decide
    · omega
  unfold Server.mac Hmac.hmac Hmac.keyBlock
  rw [← shortened_eq]
  rw [pad_eq short, pad_eq short]

/-- The code of the client is the one that RFC 2104 defines. -/
theorem hmac_eq (computed : hmac hashing key parts = .ok mac) :
    mac.cells = Server.mac hashing.sha256 key parts.flatten := by
  unfold hmac at computed
  split_ifs at computed with bad long
  · cases first : hashing.hash [key] with
    | error =>
      rw [first] at computed
      cases computed
    | ok shortened =>
      rw [first] at computed
      have shortened_eq := hash_ok first
      cases second : hashing.hash (pad shortened.cells 0x36 :: parts) with
      | error =>
        simp only [Except.map, bind, Except.bind, second] at computed
        cases computed
      | ok =>
        simp only [Except.map, bind, Except.bind, second] at computed
        rw [hash_ok computed, hash_ok second, @mac_of_shortened hashing key shortened.cells]
        · simp
        · rw [if_pos long, shortened_eq]
          simp
  · cases second : hashing.hash (pad key 0x36 :: parts) with
    | error =>
      simp only [bind, Except.bind, second] at computed
      cases computed
    | ok =>
      simp only [bind, Except.bind, second] at computed
      rw [hash_ok computed, hash_ok second, @mac_of_shortened hashing key key]
      · simp
      · rw [if_neg long]

theorem hmac_ok (available : ∀ spans, hashing.status spans = .ok)
    (nonempty : key.length ≠ 0) (short : key.length ≤ 128)
    (few : parts.length ≤ 8) : ∃ mac, hmac hashing key parts = .ok mac := by
  have hashed (spans : List (List UInt8)) :
      hashing.hash spans = .ok (hashing.sha256 spans.flatten) :=
    if_pos (available spans)
  unfold hmac
  rw [if_neg (by omega)]
  simp only [hashed, Except.map, bind, Except.bind]
  split_ifs
  · exact ⟨_, rfl⟩
  · exact ⟨_, rfl⟩

/-! ## What the texts determine -/

theorem storeU64_injective (same : storeU64 left = storeU64 right) : left = right := by
  rw [← loadU64_storeU64 left, same, loadU64_storeU64]

theorem toUInt64_injective {left right : Int64} (same : left.toUInt64 = right.toUInt64) :
    left = right := by
  cases left
  cases right
  cases same
  rfl

theorem signalParts_injective {left right : Signal} (leftShort : left.proxy.length ≤ proxyMaxBytes)
    (rightShort : right.proxy.length ≤ proxyMaxBytes)
    (same : (signalParts left).flatten = (signalParts right).flatten) :
    left = right := by
  have flat (signal : Signal) : (signalParts signal).flatten = signalDomain ++ (signal.role.byte ::
          UInt8.ofNat signal.proxy.length :: (signal.proxy ++
            (signal.control.cells ++ (signal.nonce.cells ++ (signal.spki.cells ++
                storeU64 signal.timestamp.toUInt64))))) := by
    simp [signalParts]
  rw [flat, flat] at same
  have rest := List.append_cancel_left same
  simp only [List.cons.injEq] at rest
  obtain ⟨role, lengthByte, tail⟩ := rest
  have length : left.proxy.length = right.proxy.length := by
    have bytes := congrArg UInt8.toNat lengthByte
    rwa [UInt8.toNat_ofNat_of_lt' (Nat.lt_of_le_of_lt leftShort (by decide)),
      UInt8.toNat_ofNat_of_lt' (Nat.lt_of_le_of_lt rightShort (by decide))] at bytes
  have cells (one two : Identifier) : one.cells.length = two.cells.length := by
    rw [one.cells_length, two.cells_length]
  obtain ⟨proxy, tail⟩ := List.append_inj tail length
  obtain ⟨control, tail⟩ := List.append_inj tail (cells _ _)
  obtain ⟨nonce, tail⟩ := List.append_inj tail (cells _ _)
  obtain ⟨spki, stamp⟩ := List.append_inj tail (cells _ _)
  have sameRole : left.role = right.role := by
    cases leftRole : left.role <;> cases rightRole : right.role <;>
      rw [leftRole, rightRole] at role <;>
      first | rfl | exact absurd role (by decide)
  have timestamp := toUInt64_injective (storeU64_injective stamp)
  cases left
  cases right
  simp only [Signal.mk.injEq]
  exact ⟨sameRole, proxy, Block.ext control, Block.ext nonce, Block.ext spki, timestamp⟩

theorem proofParts_injective
    (same : (proofParts leftRole left).flatten = (proofParts rightRole right).flatten) :
    leftRole = rightRole ∧ left = right := by
  simp only [proofParts, List.flatten_cons, List.flatten_nil,
    List.append_nil, List.cons_append, List.nil_append] at same
  have rest := List.append_cancel_left same
  simp only [List.cons.injEq] at rest
  refine ⟨?_, Block.ext rest.2⟩
  cases leftRole <;> cases rightRole <;>
    first | rfl | exact absurd rest.1 (by decide)

theorem signalParts_ne_proofParts (signal : Signal) (role : Role) (digest : Identifier) :
    (signalParts signal).flatten ≠ (proofParts role digest).flatten := by
  intro same
  have byte := congrArg (fun bytes => bytes[13]?) same
  simp [signalParts, proofParts, signalDomain, proofDomain] at byte

theorem transcriptSpans_injective
    (leftClientShort : leftClient.length ≤ 65536)
    (rightClientShort : rightClient.length ≤ 65536)
    (same : (transcriptSpans leftClient leftServer).flatten =
        (transcriptSpans rightClient rightServer).flatten) :
    leftClient = rightClient ∧ leftServer = rightServer := by
  simp only [transcriptSpans, List.flatten_cons, List.flatten_nil, List.append_nil] at same
  have size {one two : Nat} (oneShort : one ≤ 65536) (twoShort : two ≤ 65536)
      (bytes : BigEndian.toBytes 8 one = BigEndian.toBytes 8 two) :
      one = two := by
    rw [← @BigEndian.ofBytes_toBytes_of_lt 8 one (Nat.lt_of_le_of_lt oneShort (by decide)), bytes,
      @BigEndian.ofBytes_toBytes_of_lt 8 two (Nat.lt_of_le_of_lt twoShort (by decide))]
  have width (one two : Nat) :
      (BigEndian.toBytes 8 one).length = (BigEndian.toBytes 8 two).length := by
    rw [BigEndian.toBytes_length, BigEndian.toBytes_length]
  have rest := List.append_cancel_left (List.append_cancel_left same)
  obtain ⟨clientSize, rest⟩ := List.append_inj rest (width _ _)
  obtain ⟨client, rest⟩ := List.append_inj rest (size leftClientShort rightClientShort clientSize)
  have rest := List.append_cancel_left rest
  obtain ⟨-, server⟩ := List.append_inj rest (width _ _)
  exact ⟨client, server⟩

/-! ## Both sides -/

theorem signalProof_same (clientAccepts : signalProof hashing secret signal = .ok client)
    (serverAccepts : Server.signalProof hashing.sha256 secret signal = some server) :
    client.cells = server := by
  unfold signalProof at clientAccepts
  unfold Server.signalProof at serverAccepts
  split_ifs at clientAccepts serverAccepts
  cases serverAccepts
  rw [hmac_eq clientAccepts]
  simp [signalParts]

theorem hash_eq (computed : hash hashing manifest = .ok digest) :
    Server.hash hashing.sha256 manifest = some digest := by
  unfold hash at computed
  split_ifs at computed with misshapen
  rw [Server.hash, Server.encode_eq, if_pos (not_not.mp misshapen), hash_ok computed]
  rfl

/-- What a proof consists of. -/
theorem proof_parts (made : makeProof hashing manifest role exporter = .ok proof) :
    ∃ digest, hash hashing manifest = .ok digest ∧
      proof = proofMagic ++ [role.byte] ++ digest.cells ++ Server.mac hashing.sha256 exporter.cells
          (proofParts role digest).flatten := by
  unfold makeProof at made
  split_ifs at made with blank
  cases hashed : hash hashing manifest with
  | error =>
    simp only [hashed, bind, Except.bind] at made
    cases made
  | ok digest =>
    cases signed : hmac hashing exporter.cells (proofParts role digest) with
    | error =>
      simp only [hashed, signed, bind, Except.bind] at made
      cases made
    | ok =>
      simp only [hashed, signed, bind, Except.bind] at made
      cases made
      exact ⟨digest, rfl, by rw [hmac_eq signed]⟩

theorem makeProof_same (made : makeProof hashing manifest role exporter = .ok proof) :
    Server.proof hashing.sha256 manifest role exporter = some proof := by
  obtain ⟨_, hashed, rfl⟩ := proof_parts made
  unfold makeProof at made
  split_ifs at made with blank
  rw [Server.proof, if_neg blank, hash_eq hashed]
  simp [proofParts]

theorem makeProof_complete (available : ∀ spans, hashing.status spans = .ok)
    (served : Server.proof hashing.sha256 manifest role exporter = some proof) :
    makeProof hashing manifest role exporter = .ok proof := by
  have exists_proof : ∃ made, makeProof hashing manifest role exporter = .ok made := by
    unfold Server.proof at served
    split_ifs at served with blank
    rw [Server.hash, Server.encode_eq] at served
    split_ifs at served with shaped
    · obtain ⟨_, signed⟩ := @hmac_ok hashing exporter.cells
        (proofParts role (hashing.sha256 (makeSpans manifest).flatten))
        available (by rw [Block.cells_length]; decide)
        (by rw [Block.cells_length]; decide) (by simp [proofParts])
      have hashed : hash hashing manifest = .ok (hashing.sha256 (makeSpans manifest).flatten) := by
        rw [hash, if_neg (not_not.mpr shaped)]
        exact if_pos (available _)
      unfold makeProof
      rw [if_neg blank]
      simp only [hashed, signed, bind, Except.bind]
      exact ⟨_, rfl⟩
    · cases served
  obtain ⟨_, same⟩ := exists_proof
  have both := makeProof_same same
  rw [served] at both
  cases both
  exact same

theorem makeProof_framed (made : makeProof hashing manifest role exporter = .ok proof) :
    proof.length = proofBytes ∧ proof.take 4 = proofMagic ∧ proof.getD 4 0 = role.byte := by
  obtain ⟨_, _, rfl⟩ := proof_parts made
  refine ⟨?_, rfl, rfl⟩
  simp [proofMagic, Block.cells_length, Server.mac, Hmac.hmac]

/-- A failure reports an error. -/
def Honest {Value : Type} (outcome : Except Result Value) : Prop :=
  ∀ error, outcome = .error error → error ≠ .ok

theorem Honest.bind (honest : Honest outcome)
    (later : ∀ value, Honest (next value)) : Honest (outcome >>= next) := by
  intro error failed
  cases outcome with
  | error =>
    cases failed
    exact honest _ rfl
  | ok value => exact later value error failed

theorem Hashing.honest (hashing : Hashing) (spans : List (List UInt8)) :
    Honest (hashing.hash spans) := by
  unfold Hashing.hash
  intro error failed
  split_ifs at failed with available
  cases failed
  exact available

theorem hash_honest (hashing : Hashing) (manifest : Manifest) : Honest (hash hashing manifest) := by
  unfold hash
  split_ifs with misshapen
  · intro error failed
    cases failed
    exact misshapen
  · exact hashing.honest _

theorem hmac_honest (hashing : Hashing) (key : List UInt8) (parts : List (List UInt8)) :
    Honest (hmac hashing key parts) := by
  unfold hmac
  split_ifs with bad long
  · intro error failed
    cases failed
    exact nofun
  · refine Honest.bind ?_ fun shortened => (hashing.honest _).bind fun inner => hashing.honest _
    intro error failed
    cases hashed : hashing.hash [key] with
    | error =>
      rw [hashed] at failed
      cases failed
      exact hashing.honest _ _ hashed
    | ok =>
      rw [hashed] at failed
      cases failed
  · exact Honest.bind nofun fun shortened => (hashing.honest _).bind fun inner => hashing.honest _

theorem makeProof_honest (hashing : Hashing) (manifest : Manifest) (role : Role)
    (exporter : Identifier) : Honest (makeProof hashing manifest role exporter) := by
  unfold makeProof
  split_ifs
  · intro error failed
    cases failed
    exact nofun
  exact (hash_honest hashing manifest).bind fun digest =>
    (hmac_honest hashing _ _).bind fun mac => nofun

theorem verifyProof_ok_iff :
    verifyProof hashing manifest role exporter proof = .ok ↔
      makeProof hashing manifest role exporter = .ok proof := by
  unfold verifyProof
  constructor
  · intro accepted
    split_ifs at accepted
    cases made : makeProof hashing manifest role exporter with
    | error error =>
      rw [made] at accepted
      exact (makeProof_honest hashing manifest role exporter error made accepted).elim
    | ok =>
      rw [made] at accepted
      dsimp only at accepted
      split_ifs at accepted with same
      rw [same]
  · intro made
    obtain ⟨length, magic, byte⟩ := makeProof_framed made
    rw [if_neg (by rw [length, magic, byte]; simp), made]
    exact if_pos rfl

theorem verify_iff (available : ∀ spans, hashing.status spans = .ok) :
    Server.verify hashing.sha256 manifest role exporter proof = true ↔
      makeProof hashing manifest role exporter = .ok proof := by
  unfold Server.verify
  constructor
  · intro accepted
    split at accepted
    · cases accepted
    rename_i expected served
    rw [decide_eq_true_eq] at accepted
    rw [accepted]
    exact makeProof_complete available served
  · intro made
    rw [makeProof_same made]
    exact decide_eq_true rfl

theorem derive_transcript (derived : derive hashing hkdf token client server = .ok keys) :
    client.length ≤ 65536 ∧ keys.transcriptHash =
        hashing.sha256 (transcriptSpans client server).flatten := by
  unfold derive at derived
  split_ifs at derived with bad
  refine ⟨by omega, ?_⟩
  cases hashed : hashing.hash (transcriptSpans client server) with
  | error =>
    simp only [hashed, bind, Except.bind] at derived
    cases derived
  | ok =>
    simp only [hashed, bind, Except.bind] at derived
    split at derived
    · cases derived
    split at derived
    · cases derived
    cases derived
    exact hash_ok hashed

/-- What the proofs of the binding guarantee. -/
structure Separated (hashing : Hashing) : Prop where
  /-- The code of the client is that of RFC 2104. -/
  hmac_standard : ∀ key parts mac, hmac hashing key parts = .ok mac → mac.cells =
        Hmac.hmac (fun bytes => (hashing.sha256 bytes).cells) 64 key parts.flatten
  hmac_computed : (∀ spans, hashing.status spans = .ok) →
      ∀ key parts, 1 ≤ key.length → key.length ≤ 128 →
        parts.length ≤ 8 → ∃ mac, hmac hashing key parts = .ok mac
  signal_same : ∀ secret signal client server, signalProof hashing secret signal = .ok client →
        Server.signalProof hashing.sha256 secret signal = some server → client.cells = server
  proof_same : ∀ manifest role exporter client server,
      makeProof hashing manifest role exporter = .ok client →
        Server.proof hashing.sha256 manifest role exporter = some server → client = server
  /-- Each code is computed over these texts. -/
  signal_text : ∀ secret signal mac, signalProof hashing secret signal = .ok mac →
        signal.proxy.length ≤ proxyMaxBytes ∧ mac.cells =
            Server.mac hashing.sha256 secret (signalParts signal).flatten
  proof_text : ∀ manifest role exporter proof,
      makeProof hashing manifest role exporter = .ok proof →
        ∃ digest, hash hashing manifest = .ok digest ∧
          proof = proofMagic ++ [role.byte] ++ digest.cells ++
            Server.mac hashing.sha256 exporter.cells (proofParts role digest).flatten
  signal_injective : ∀ left right : Signal, left.proxy.length ≤ proxyMaxBytes →
        right.proxy.length ≤ proxyMaxBytes →
          (signalParts left).flatten = (signalParts right).flatten → left = right
  proof_injective : ∀ leftRole rightRole left right, (proofParts leftRole left).flatten =
          (proofParts rightRole right).flatten →
        leftRole = rightRole ∧ left = right
  signal_ne_proof : ∀ signal role digest,
      (signalParts signal).flatten ≠ (proofParts role digest).flatten
  /-- The transcript hash is computed over this text. -/
  transcript_text : ∀ hkdf token client server keys,
      derive hashing hkdf token client server = .ok keys → client.length ≤ 65536 ∧
          keys.transcriptHash = hashing.sha256 (transcriptSpans client server).flatten
  transcript_injective : ∀ leftClient leftServer rightClient rightServer,
      leftClient.length ≤ 65536 → rightClient.length ≤ 65536 →
        (transcriptSpans leftClient leftServer).flatten =
            (transcriptSpans rightClient rightServer).flatten →
          leftClient = rightClient ∧ leftServer = rightServer
  verify_client : ∀ manifest role exporter proof,
      verifyProof hashing manifest role exporter proof = .ok ↔
        makeProof hashing manifest role exporter = .ok proof
  verify_server : (∀ spans, hashing.status spans = .ok) → ∀ manifest role exporter proof,
        verifyProof hashing manifest role exporter proof = .ok ↔
          Server.verify hashing.sha256 manifest role exporter proof = true

/-- The proofs of the binding are separated and agree on both sides. -/
theorem binding_separated (hashing : Hashing) : Separated hashing where
  hmac_standard _ _ _ computed := hmac_eq computed
  hmac_computed available _ _ nonempty short few :=
    hmac_ok available (Nat.pos_iff_ne_zero.mp nonempty) short few
  signal_same _ _ _ _ client server := signalProof_same client server
  proof_same _ _ _ _ _ client server := Option.some.inj ((makeProof_same client).symm.trans server)
  signal_text := by
    intro secret signal mac computed
    unfold signalProof at computed
    split_ifs at computed with bad
    simp only [not_or, Nat.not_lt] at bad
    exact ⟨bad.2.2.2.1, hmac_eq computed⟩
  proof_text := by
    intro manifest role exporter proof made
    obtain ⟨digest, hashed, served⟩ := proof_parts made
    exact ⟨digest, hashed, served⟩
  signal_injective _ _ leftShort rightShort same := signalParts_injective leftShort rightShort same
  proof_injective _ _ _ _ same := proofParts_injective same
  signal_ne_proof := signalParts_ne_proofParts
  transcript_text _ _ _ _ _ derived := derive_transcript derived
  transcript_injective _ _ _ _ leftShort rightShort same :=
    transcriptSpans_injective leftShort rightShort same
  verify_client _ _ _ _ := verifyProof_ok_iff
  verify_server available _ _ _ _ := verifyProof_ok_iff.trans (verify_iff available).symm

end EspFrp.Binding

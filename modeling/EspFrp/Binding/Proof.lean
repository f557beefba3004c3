import EspFrp.Binding.Manifest
import EspFrp.Library.Hmac

/-!
# Proofs over a manifest

The message authentication codes of the binding: the proof that accompanies
a signalling message, and the proof that each peer sends on the reserved
stream of an XTCP connection.  The client computes HMAC itself from the hash
of its library; the server uses the one of its standard library.
-/

namespace EspFrp.Binding

open Library

/-- `efrp_xtcp_role_t`. -/
inductive Role where
  | provider
  | visitor
deriving DecidableEq, Repr

/-- The role on the wire. -/
def Role.byte : Role → UInt8
  | .provider => 1
  | .visitor => 2

/-- The role of the other peer. -/
def Role.peer : Role → Role
  | .provider => .visitor
  | .visitor => .provider

/-- `EFRP_XTCP_BINDING_PROOF_BYTES`. -/
abbrev proofBytes : Nat := 69

/-- `proof_magic`: `XTP1`. -/
def proofMagic : List UInt8 := [0x58, 0x54, 0x50, 0x31]

/-- `proof_domain`: `esp-frp-xtcp-proof-v1`. -/
def proofDomain : List UInt8 :=
  [0x65, 0x73, 0x70, 0x2d, 0x66, 0x72, 0x70, 0x2d, 0x78, 0x74, 0x63,
    0x70, 0x2d, 0x70, 0x72, 0x6f, 0x6f, 0x66, 0x2d, 0x76, 0x31]

/-- The domain of the signalling proof: `esp-frp-xtcp-signal-v1`. -/
def signalDomain : List UInt8 :=
  [0x65, 0x73, 0x70, 0x2d, 0x66, 0x72, 0x70, 0x2d, 0x78, 0x74, 0x63,
    0x70, 0x2d, 0x73, 0x69, 0x67, 0x6e, 0x61, 0x6c, 0x2d, 0x76, 0x31]

/-- What a peer signals about itself. -/
structure Signal where
  role : Role
  proxy : List UInt8
  control : Identifier
  nonce : Identifier
  spki : Identifier
  timestamp : Int64
deriving DecidableEq

/-! ## The client -/

/-- The block of the key, combined with a constant. -/
def pad (key : List UInt8) (constant : UInt8) : List UInt8 :=
  (List.range 64).map fun index =>
    (if index < key.length then key.getD index 0 else 0) ^^^ constant

/-- `efrp_xtcp_binding_hmac`. -/
def hmac (hashing : Hashing) (key : List UInt8)
    (parts : List (List UInt8)) : Except Result Identifier :=
  if key.length = 0 ∨ 128 < key.length ∨ 8 < parts.length then
    .error .invalidArgument
  else do
    let shortened ←
      if 64 < key.length then
        (hashing.hash [key]).map Block.cells
      else
        .ok key
    let inner ← hashing.hash (pad shortened 0x36 :: parts)
    hashing.hash [pad shortened 0x5c, inner.cells]

/-- The spans of `efrp_xtcp_binding_signal_proof`. -/
def signalParts (signal : Signal) : List (List UInt8) :=
  [signalDomain, [signal.role.byte, UInt8.ofNat signal.proxy.length],
    signal.proxy, signal.control.cells, signal.nonce.cells,
    signal.spki.cells, storeU64 signal.timestamp.toUInt64]

/-- `efrp_xtcp_binding_signal_proof`. -/
def signalProof (hashing : Hashing) (secret : List UInt8)
    (signal : Signal) : Except Result Identifier :=
  if secret.length = 0 ∨ 128 < secret.length ∨ signal.proxy.length = 0 ∨
      proxyMaxBytes < signal.proxy.length ∨
      Json.utf8 signal.proxy = false ∨
      nonzero signal.control.cells = false ∨
      nonzero signal.nonce.cells = false ∨
      nonzero signal.spki.cells = false ∨ signal.timestamp ≤ 0 then
    .error .invalidArgument
  else
    hmac hashing secret (signalParts signal)

/-- The spans of `proof_mac`. -/
def proofParts (role : Role) (digest : Identifier) : List (List UInt8) :=
  [proofDomain, [role.byte], digest.cells]

/-- `efrp_xtcp_binding_make_proof`. -/
def makeProof (hashing : Hashing) (manifest : Manifest) (role : Role)
    (exporter : Identifier) : Except Result (List UInt8) :=
  if nonzero exporter.cells = false then
    .error .invalidArgument
  else do
    let digest ← hash hashing manifest
    let mac ← hmac hashing exporter.cells (proofParts role digest)
    .ok (proofMagic ++ [role.byte] ++ digest.cells ++ mac.cells)

/-- `efrp_xtcp_binding_verify_proof`. -/
def verifyProof (hashing : Hashing) (manifest : Manifest) (role : Role)
    (exporter : Identifier) (proof : List UInt8) : Result :=
  if proof.length ≠ proofBytes ∨ proof.take 4 ≠ proofMagic ∨ proof.getD 4 0 ≠ role.byte then
    .protocolError
  else
    match makeProof hashing manifest role exporter with
    | .error error => error
    | .ok expected =>
      if proof = expected then .ok else .authenticationFailed

/-! ## The server -/

namespace Server

/-- `hmac.New(sha256.New, key)` and `Sum`. -/
def mac (sha256 : List UInt8 → Identifier) (key text : List UInt8) :
    List UInt8 := Hmac.hmac (fun bytes => (sha256 bytes).cells) 64 key text

/-- `SignalProof`. -/
def signalProof (sha256 : List UInt8 → Identifier)
    (secret : List UInt8) (signal : Signal) : Option (List UInt8) :=
  if secret.length < 1 ∨ 128 < secret.length ∨ signal.proxy.length < 1 ∨ 128 < signal.proxy.length ∨
      Utf8.wellFormed signal.proxy = false ∨ signal.timestamp ≤ 0 then
    none
  else if nonzero signal.control.cells = false ∨ nonzero signal.nonce.cells = false ∨
      nonzero signal.spki.cells = false then
    none
  else
    some (mac sha256 secret (signalDomain ++ [signal.role.byte, UInt8.ofNat signal.proxy.length] ++
          signal.proxy ++ signal.control.cells ++ signal.nonce.cells ++
            signal.spki.cells ++ storeU64 signal.timestamp.toUInt64))

/-- `Proof`. -/
def proof (sha256 : List UInt8 → Identifier) (manifest : Manifest)
    (role : Role) (exporter : Identifier) : Option (List UInt8) :=
  if nonzero exporter.cells = false then
    none
  else
    (hash sha256 manifest).map fun digest =>
      proofMagic ++ [role.byte] ++ digest.cells ++
        mac sha256 exporter.cells (proofDomain ++ [role.byte] ++ digest.cells)

/-- `Verify`. -/
def verify (sha256 : List UInt8 → Identifier) (manifest : Manifest)
    (role : Role) (exporter : Identifier) (given : List UInt8) :
    Bool :=
  match proof sha256 manifest role exporter with
  | none => false
  | some expected => given = expected

end Server

/-! ## The keys of the control connection -/

/-- `EFRP_AEAD_MAX_TOKEN_BYTES`. -/
abbrev maxTokenBytes : Nat := 1024

/-- `frp wire v2 crypto transcript`. -/
def transcriptLabel : List UInt8 :=
  [0x66, 0x72, 0x70, 0x20, 0x77, 0x69, 0x72, 0x65, 0x20, 0x76, 0x32,
    0x20, 0x63, 0x72, 0x79, 0x70, 0x74, 0x6f, 0x20, 0x74, 0x72, 0x61,
    0x6e, 0x73, 0x63, 0x72, 0x69, 0x70, 0x74]

/-- `client hello` between two zero bytes. -/
def clientLabel : List UInt8 :=
  [0, 0x63, 0x6c, 0x69, 0x65, 0x6e, 0x74, 0x20, 0x68, 0x65, 0x6c, 0x6c, 0x6f, 0]

/-- `server hello` between two zero bytes. -/
def serverLabel : List UInt8 :=
  [0, 0x73, 0x65, 0x72, 0x76, 0x65, 0x72, 0x20, 0x68, 0x65, 0x6c, 0x6c, 0x6f, 0]

/-- The two directions of the control connection. -/
inductive Direction where
  | clientToServer
  | serverToClient
deriving DecidableEq, Repr

/-- `efrp_aead_keys_t`. -/
structure Keys where
  transcriptHash : Identifier
  clientToServer : Identifier
  serverToClient : Identifier
deriving DecidableEq

/-- The spans that `efrp_aead_derive` hashes. -/
def transcriptSpans (client server : List UInt8) : List (List UInt8) :=
  [transcriptLabel, clientLabel, BigEndian.toBytes 8 client.length, client, serverLabel,
    BigEndian.toBytes 8 server.length, server]

/-- `efrp_aead_derive`; `hkdf` is given the token, the salt and a label. -/
def derive (hashing : Hashing)
    (hkdf : List UInt8 → Identifier → Direction → Except Result Identifier)
    (token client server : List UInt8) : Except Result Keys :=
  if token.length = 0 ∨ maxTokenBytes < token.length ∨ client.length = 0 ∨ server.length = 0 ∨
      65536 < client.length ∨ 65536 < server.length then
    .error .invalidArgument
  else do
    let transcriptHash ← hashing.hash (transcriptSpans client server)
    let clientToServer ← hkdf token transcriptHash .clientToServer
    let serverToClient ← hkdf token transcriptHash .serverToClient
    .ok { transcriptHash, clientToServer, serverToClient }

end EspFrp.Binding

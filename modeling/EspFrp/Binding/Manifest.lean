import EspFrp.Types
import EspFrp.Json.Text
import EspFrp.Library.Block
import EspFrp.Library.BigEndian

/-!
# The manifest of an XTCP connection

The manifest names the proxy, the two controls and the keys of the two peers
of an XTCP connection.  It is written by the server in Go (`binding.go`) and
read by both clients, and every proof is computed over its encoding; the
client has an encoder of its own in C (`xtcp_binding.c`).
-/

namespace EspFrp.Binding

open Library

/-- `EFRP_XTCP_BINDING_PROXY_MAX_BYTES`. -/
abbrev proxyMaxBytes : Nat := 128

/-- `EFRP_XTCP_BINDING_MANIFEST_MAX_BYTES`. -/
abbrev manifestMaxBytes : Nat := 377

/-- `EFRP_XTCP_BINDING_MAX_LIFETIME_SECONDS`. -/
abbrev maxLifetimeSeconds : UInt64 := 60

/-- `manifest_magic`: `EFRPXTC1`. -/
def manifestMagic : List UInt8 := [0x45, 0x46, 0x52, 0x50, 0x58, 0x54, 0x43, 0x31]

/-- A digest, an identifier or a nonce. -/
abbrev Identifier := Block UInt8 32

/-- `efrp_xtcp_binding_manifest_t`, and `Manifest` of the server. -/
structure Manifest where
  proxyName : List UInt8
  sid : Identifier
  providerControl : Identifier
  visitorControl : Identifier
  providerNonce : Identifier
  visitorNonce : Identifier
  providerSpki : Identifier
  visitorSpki : Identifier
  issuedAt : UInt64
  expiresAt : UInt64
deriving DecidableEq

/-- The fields in the order of the encoding. -/
def Manifest.fields (manifest : Manifest) : List Identifier :=
  [manifest.sid, manifest.providerControl, manifest.visitorControl,
    manifest.providerNonce, manifest.visitorNonce,
    manifest.providerSpki, manifest.visitorSpki]

/-- `nonzero`, and `Nonzero` of the server. -/
def nonzero (bytes : List UInt8) : Bool := bytes.any (· ≠ 0)

/-- `store_u64`, and `AppendUint64` of the server. -/
def storeU64 (value : UInt64) : List UInt8 := BigEndian.toBytes 8 value.toNat

/-- `load_u64`, and `Uint64` of the server. -/
def loadU64 (bytes : List UInt8) : UInt64 := UInt64.ofNat (BigEndian.ofBytes bytes)

/-- A copy of 32 bytes of the wire into a field. -/
def copyField (wire : List UInt8) (offset : Nat) : Identifier :=
  (Block.filled 0 32).copy 0 ((wire.drop offset).take 32)

/-- The characters that a name of a proxy does not contain. -/
def isControl (byte : UInt8) : Bool := byte < 0x20 || byte = 0x7f

/-! ## The client -/

/-- `shape`. -/
def shape (manifest : Manifest) : Result :=
  if manifest.proxyName.length = 0 ∨ proxyMaxBytes < manifest.proxyName.length ∨
      Json.utf8 manifest.proxyName = false ∨
      manifest.issuedAt = 0 ∨
      manifest.expiresAt ≤ manifest.issuedAt ∨
      maxLifetimeSeconds < manifest.expiresAt - manifest.issuedAt then
    .invalidArgument
  else if manifest.proxyName.any isControl then
    .invalidArgument
  else if manifest.fields.all (fun field => nonzero field.cells) then
    .ok
  else
    .invalidArgument

/-- `efrp_xtcp_binding_validate`. -/
def validate (manifest : Manifest) (now : UInt64) : Result :=
  if shape manifest ≠ .ok then
    shape manifest
  else if now < manifest.issuedAt ∨ manifest.expiresAt ≤ now then
    .timeout
  else
    .ok

/-- `make_spans`. -/
def makeSpans (manifest : Manifest) : List (List UInt8) :=
  [manifestMagic, [UInt8.ofNat manifest.proxyName.length], manifest.proxyName] ++
    manifest.fields.map Block.cells ++ [storeU64 manifest.issuedAt ++ storeU64 manifest.expiresAt]

/-- `efrp_xtcp_binding_encode`. -/
def encode (manifest : Manifest) (capacity : Nat) : Except Result (List UInt8) :=
  if shape manifest ≠ .ok then
    .error (shape manifest)
  else if capacity < 249 + manifest.proxyName.length then
    .error .capacityExceeded
  else
    .ok (makeSpans manifest).flatten

/-- `efrp_xtcp_binding_decode`. -/
def decode (wire : List UInt8) (now : UInt64) :
    Except Result Manifest :=
  let nameLength := (wire.getD 8 0).toNat
  if wire.length < 250 ∨ manifestMaxBytes < wire.length ∨
      wire.take 8 ≠ manifestMagic ∨ nameLength = 0 ∨
      proxyMaxBytes < nameLength ∨ wire.length ≠ 249 + nameLength then
    .error .protocolError
  else
    let offset := 9 + nameLength
    let manifest : Manifest :=
      { proxyName := (wire.drop 9).take nameLength
        sid := copyField wire offset
        providerControl := copyField wire (offset + 32)
        visitorControl := copyField wire (offset + 64)
        providerNonce := copyField wire (offset + 96)
        visitorNonce := copyField wire (offset + 128)
        providerSpki := copyField wire (offset + 160)
        visitorSpki := copyField wire (offset + 192)
        issuedAt := loadU64 ((wire.drop (offset + 224)).take 8)
        expiresAt := loadU64 ((wire.drop (offset + 232)).take 8) }
    match validate manifest now with
    | .ok => .ok manifest
    | .invalidArgument => .error .protocolError
    | error => .error error

/-- SHA-256, and whether the library computes it for the client. -/
structure Hashing where
  sha256 : List UInt8 → Identifier
  status : List (List UInt8) → Result

/-- `efrp_crypto_hash`. -/
def Hashing.hash (hashing : Hashing) (spans : List (List UInt8)) :
    Except Result Identifier :=
  if hashing.status spans = .ok then
    .ok (hashing.sha256 spans.flatten)
  else
    .error (hashing.status spans)

/-- `efrp_xtcp_binding_hash`. -/
def hash (hashing : Hashing) (manifest : Manifest) :
    Except Result Identifier :=
  if shape manifest ≠ .ok then
    .error (shape manifest)
  else
    hashing.hash (makeSpans manifest)

/-! ## The server -/

namespace Server

/-- `Encode`. -/
def encode (manifest : Manifest) : Option (List UInt8) :=
  if manifest.proxyName.length < 1 ∨ 128 < manifest.proxyName.length ∨
      Utf8.wellFormed manifest.proxyName = false ∨
      manifest.issuedAt = 0 ∨
      manifest.expiresAt ≤ manifest.issuedAt ∨
      60 < manifest.expiresAt - manifest.issuedAt then
    none
  else if manifest.proxyName.any isControl then
    none
  else
    let head := manifestMagic ++ [UInt8.ofNat manifest.proxyName.length] ++ manifest.proxyName
    let fields := manifest.fields.foldlM (fun out field =>
        if nonzero field.cells then some (out ++ field.cells) else none)
      head
    fields.map fun out => out ++ storeU64 manifest.issuedAt ++ storeU64 manifest.expiresAt

/-- `Decode`. -/
def decode (wire : List UInt8) (now : UInt64) : Option Manifest :=
  let nameLength := (wire.getD 8 0).toNat
  if wire.length < 250 ∨ 377 < wire.length ∨ wire.take 8 ≠ manifestMagic ∨ nameLength = 0 ∨
      128 < nameLength ∨ wire.length ≠ 249 + nameLength then
    none
  else
    let start := 9 + nameLength
    let manifest : Manifest :=
      { proxyName := (wire.drop 9).take nameLength
        sid := copyField wire start
        providerControl := copyField wire (start + 32)
        visitorControl := copyField wire (start + 64)
        providerNonce := copyField wire (start + 96)
        visitorNonce := copyField wire (start + 128)
        providerSpki := copyField wire (start + 160)
        visitorSpki := copyField wire (start + 192)
        issuedAt := loadU64 ((wire.drop (start + 224)).take 8)
        expiresAt := loadU64 ((wire.drop (start + 232)).take 8) }
    if (encode manifest).isNone ∨ now < manifest.issuedAt ∨ manifest.expiresAt ≤ now then
      none
    else
      some manifest

/-- `Hash`. -/
def hash (sha256 : List UInt8 → Identifier) (manifest : Manifest) :
    Option Identifier := (encode manifest).map sha256

end Server

end EspFrp.Binding

import EspFrp.Library.Block

/-!
# Keyed hashing

HMAC as RFC 2104 defines it, over an arbitrary hash function and block size.
-/

namespace EspFrp.Library.Hmac

/-- The key, hashed if it is longer than a block, filled up with zeros. -/
def keyBlock (hash : List UInt8 → List UInt8) (blockSize : Nat) (key : List UInt8) : List UInt8 :=
  let short := if blockSize < key.length then hash key else key
  short ++ List.replicate (blockSize - short.length) 0

/-- `H(K xor opad, H(K xor ipad, text))`. -/
def hmac (hash : List UInt8 → List UInt8) (blockSize : Nat) (key text : List UInt8) : List UInt8 :=
  let block := keyBlock hash blockSize key
  hash (block.map (· ^^^ 0x5c) ++ hash (block.map (· ^^^ 0x36) ++ text))

end EspFrp.Library.Hmac

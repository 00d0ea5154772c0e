import UrlSigning.Hash.Sha256

/-!
# Keyed hashes

HMAC over SHA-256: the message is hashed after the key mixed with one pad, and that digest after the
key mixed with the other. A key longer than a block is hashed first.
-/

namespace UrlSigning.Hash

/-- The key as one block: hashed if it is longer, and filled with zeros. -/
def blockKey (key : Bytes) : Bytes :=
  let short := if 64 < key.length then sha256 key else key
  short ++ List.replicate (64 - short.length) 0

/-- The keyed hash of a message. -/
def hmac (key message : Bytes) : Bytes :=
  let block := blockKey key
  sha256 (block.map (· ^^^ 0x5c) ++ sha256 (block.map (· ^^^ 0x36) ++ message))

/-- A keyed hash has thirty-two bytes. -/
theorem length_hmac (key message : Bytes) : (hmac key message).length = 32 :=
  length_sha256 _

end UrlSigning.Hash

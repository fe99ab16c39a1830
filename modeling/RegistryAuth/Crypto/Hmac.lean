import RegistryAuth.Crypto.Sha2

/-! # Message authentication by keyed hashing

The code of a message under a key hashes the key and the message twice, with
the key brought to one block and masked differently each time.
-/

namespace RegistryAuth.Hmac

open Sha2

def blockKey (h : HashFunction) (key : Bytes) : Bytes :=
  let key := if key.length > h.blockSize then h.digest key else key
  key ++ List.replicate (h.blockSize - key.length) 0

def code (h : HashFunction) (key message : Bytes) : Bytes :=
  let key := blockKey h key
  let inner := h.digest (key.map (· ^^^ 0x36) ++ message)
  h.digest (key.map (· ^^^ 0x5c) ++ inner)

end RegistryAuth.Hmac

import RegistryAuth.Crypto.Sha2

/-! # Signature algorithms

The algorithms that a token may be signed with, each of one family of keys and
with one hash function.
-/

namespace RegistryAuth

inductive KeyFamily where
  | hmac
  | rsa
  | ec
  | ed
deriving DecidableEq, Repr

inductive Algorithm where
  | hs256
  | hs384
  | hs512
  | es256
  | es384
  | rs256
  | rs384
  | rs512
  | ps256
  | ps384
  | ps512
  | eddsa
deriving DecidableEq, Repr

namespace Algorithm

def all : List Algorithm :=
  [hs256, hs384, hs512, es256, es384, rs256, rs384, rs512, ps256, ps384, ps512, eddsa]

def name : Algorithm → String
  | hs256 => "HS256"
  | hs384 => "HS384"
  | hs512 => "HS512"
  | es256 => "ES256"
  | es384 => "ES384"
  | rs256 => "RS256"
  | rs384 => "RS384"
  | rs512 => "RS512"
  | ps256 => "PS256"
  | ps384 => "PS384"
  | ps512 => "PS512"
  | eddsa => "EdDSA"

def ofName? (text : String) : Option Algorithm :=
  all.find? fun algorithm => algorithm.name == text

def family : Algorithm → KeyFamily
  | hs256 | hs384 | hs512 => .hmac
  | es256 | es384 => .ec
  | rs256 | rs384 | rs512 | ps256 | ps384 | ps512 => .rsa
  | eddsa => .ed

def hashFunction : Algorithm → Sha2.HashFunction
  | hs256 | es256 | rs256 | ps256 => Sha2.sha256
  | hs384 | es384 | rs384 | ps384 => Sha2.sha384
  | hs512 | rs512 | ps512 | eddsa => Sha2.sha512

end Algorithm

end RegistryAuth

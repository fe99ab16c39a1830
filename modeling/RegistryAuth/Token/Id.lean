import RegistryAuth.Codec.Bytes
import RegistryAuth.Text.Quoted

/-! # Token identifiers

Universally unique identifiers of the random kind: sixteen bytes with a fixed
version and variant, in hexadecimal digits grouped by hyphens.
-/

namespace RegistryAuth.TokenId

def hexByte (b : UInt8) : List Char := [Text.hexDigit (b.toNat / 16), Text.hexDigit (b.toNat % 16)]

/-- Sets the version in the seventh byte and the variant in the ninth. -/
def marked (bytes : Bytes) : Bytes :=
  bytes.zipIdx.map fun (b, i) =>
    if i = 6 then (b &&& 0x0f) ||| 0x40
    else if i = 8 then (b &&& 0x3f) ||| 0x80
    else b

def ofRandom (bytes : Bytes) : String :=
  let marked := marked bytes
  let group (start count : Nat) : List Char := ((marked.drop start).take count).flatMap hexByte
  String.ofList
    (['-'].intercalate [group 0 4, group 4 2, group 6 2, group 8 2, group 10 6])

end RegistryAuth.TokenId

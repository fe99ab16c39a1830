import RegistryAuth.Crypto.Modular
import RegistryAuth.Crypto.Sha2

/-! # Signatures on the twisted Edwards curve

Ed25519: points are in extended coordinates and are written by one coordinate
and the parity of the other; a secret is a seed, from which the scalar of the
key and the secret part of each signature are hashed.
-/

namespace RegistryAuth.Ed25519

def prime : Nat := 0x7fffffffffffffffffffffffffffffffffffffffffffffffffffffffffffffed

def order : Nat := 0x1000000000000000000000000000000014def9dea2f79cd65812631a5cf5d3ed

def d : Nat := 0x52036cee2b6ffe738cc740797779e89800700a4d4141d8ab75eb4dca135978a3

def rootOfMinusOne : Nat := 0x2b8324804fc1df0b2b4d00993dfbd7a72f431806ad2fe478c4ee1b274a0ea0b0

def mul (a b : Nat) : Nat := a * b % prime

def sub (a b : Nat) : Nat := Modular.sub prime a b

structure Point where
  x : Nat
  y : Nat
  z : Nat
  t : Nat
deriving DecidableEq, Repr

namespace Point

def neutral : Point := ⟨0, 1, 1, 0⟩

def ofCoordinates (x y : Nat) : Point := ⟨x, y, 1, mul x y⟩

def base : Point :=
  ofCoordinates 0x216936d3cd6e53fec0a4e231fdd6dc5c692cc7609525a7b2c9562d608f25d51a
    0x6666666666666666666666666666666666666666666666666666666666666658

def add (p q : Point) : Point :=
  let a := mul (sub p.y p.x) (sub q.y q.x)
  let b := mul (p.y + p.x) (q.y + q.x)
  let c := mul (mul (2 * p.t) q.t) d
  let e := mul (2 * p.z) q.z
  let f := sub b a
  let g := sub e c
  let h := (e + c) % prime
  let i := (b + a) % prime
  ⟨mul f g, mul h i, mul g h, mul f i⟩

def neg (p : Point) : Point := ⟨sub 0 p.x, p.y, p.z, sub 0 p.t⟩

def multiply (n : Nat) (p : Point) : Point :=
  if n = 0 then neutral
  else
    let half := multiply (n / 2) (p.add p)
    if n % 2 = 1 then p.add half else half

def encode (p : Point) : Bytes :=
  let inverse := Modular.inverse prime p.z
  let x := mul p.x inverse
  let y := mul p.y inverse
  Bytes.ofNatLittle 32 (y + (x % 2) <<< 255)

def decode? (bytes : Bytes) : Option Point :=
  if bytes.length ≠ 32 then none
  else
    let n := Bytes.toNatLittle bytes
    let y := n % (1 <<< 255) % prime
    let u := sub (mul y y) 1
    let v := (mul d (mul y y) + 1) % prime
    let v3 := mul (mul v v) v
    let v7 := mul (mul v3 v3) v
    let root := mul (mul u v3) (Modular.pow prime (mul u v7) ((prime - 5) / 8))
    let square := mul v (mul root root)
    let x? :=
      if square = u then some root
      else if square = sub 0 u then some (mul root rootOfMinusOne)
      else none
    x?.map fun x => ofCoordinates (if x % 2 = n >>> 255 then x else sub 0 x) y

end Point

/-- The scalar of a key and the start of its signatures, made from its seed. -/
def expand (seed : Bytes) : Nat × Bytes :=
  let hashed := Sha2.sha512.digest seed
  let n := Bytes.toNatLittle (hashed.take 32)
  (n % (1 <<< 254) / 8 * 8 + 1 <<< 254, hashed.drop 32)

def publicKey (seed : Bytes) : Bytes :=
  (Point.multiply (expand seed).1 Point.base).encode

def hashScalar (parts : List Bytes) : Nat :=
  Bytes.toNatLittle (Sha2.sha512.digest parts.flatten) % order

def sign (seed message : Bytes) : Bytes :=
  let (scalar, start) := expand seed
  let r := hashScalar [start, message]
  let first := (Point.multiply r Point.base).encode
  let k := hashScalar [first, publicKey seed, message]
  first ++ Bytes.ofNatLittle 32 ((r + k * scalar) % order)

def verify (key message signature : Bytes) : Bool :=
  let first := signature.take 32
  let s := Bytes.toNatLittle (signature.drop 32)
  match Point.decode? key with
  | none => false
  | some a =>
    signature.length == 64 && s < order &&
      let k := hashScalar [first, key, message]
      ((Point.multiply s Point.base).add (Point.multiply k a.neg)).encode == first

end RegistryAuth.Ed25519

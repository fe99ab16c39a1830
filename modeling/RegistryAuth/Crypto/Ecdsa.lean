import RegistryAuth.Crypto.Hmac
import RegistryAuth.Crypto.Modular

/-! # Signatures on elliptic curves

The curves P-256 and P-384 with their points in projective coordinates, and
signatures as pairs of numbers of fixed size. The secret number of a signature
is taken from the key and the message, so that signing is a function.
-/

namespace RegistryAuth.Ecdsa

open Sha2

/-- A curve `y² = x³ - 3x + b` over a prime field, with a base point of prime order. -/
structure Curve where
  size : Nat
  prime : Nat
  b : Nat
  baseX : Nat
  baseY : Nat
  order : Nat
deriving DecidableEq, Repr

def p256 : Curve where
  size := 32
  prime := 0xffffffff00000001000000000000000000000000ffffffffffffffffffffffff
  b := 0x5ac635d8aa3a93e7b3ebbd55769886bc651d06b0cc53b0f63bce3c3e27d2604b
  baseX := 0x6b17d1f2e12c4247f8bce6e563a440f277037d812deb33a0f4a13945d898c296
  baseY := 0x4fe342e2fe1a7f9b8ee7eb4a7c0f9e162bce33576b315ececbb6406837bf51f5
  order := 0xffffffff00000000ffffffffffffffffbce6faada7179e84f3b9cac2fc632551

def p384 : Curve where
  size := 48
  prime := 0xfffffffffffffffffffffffffffffffffffffffffffffffffffffffffffffffeffffffff0000000000000000ffffffff
  b := 0xb3312fa7e23ee7e4988e056be3f82d19181d9c6efe8141120314088f5013875ac656398d8a2ed19d2a85c8edd3ec2aef
  baseX := 0xaa87ca22be8b05378eb1c71ef320ad746e1d3b628ba79b9859f741e082542a385502f25dbf55296c3a545e3872760ab7
  baseY := 0x3617de4a96262c6f5d9e98bf9292dc29f8f41dbd289a147ce9da3113b5f0b8c00a60b1ce1d7e819d7a431d7c90ea0e5f
  order := 0xffffffffffffffffffffffffffffffffffffffffffffffffc7634d81f4372ddf581a0db248b0a77aecec196accc52973

/-- A point in projective coordinates; it lies at infinity if `z` is zero. -/
structure Point where
  x : Nat
  y : Nat
  z : Nat
deriving DecidableEq, Repr

namespace Curve

variable (curve : Curve)

def infinity : Point := ⟨1, 1, 0⟩

def base : Point := ⟨curve.baseX, curve.baseY, 1⟩

def mul (a b : Nat) : Nat := a * b % curve.prime

def sub (a b : Nat) : Nat := Modular.sub curve.prime a b

def double (p : Point) : Point :=
  if p.z = 0 || p.y = 0 then infinity
  else
    let zz := curve.mul p.z p.z
    let yy := curve.mul p.y p.y
    let s := curve.mul (4 * p.x) yy
    let m := curve.mul (3 * curve.sub p.x zz) (p.x + zz)
    let x := curve.sub (curve.mul m m) (2 * s)
    let y := curve.sub (curve.mul m (curve.sub s x)) (8 * curve.mul yy yy)
    ⟨x, y, curve.mul (2 * p.y) p.z⟩

def add (p q : Point) : Point :=
  if p.z = 0 then q
  else if q.z = 0 then p
  else
    let pzz := curve.mul p.z p.z
    let qzz := curve.mul q.z q.z
    let u := curve.mul p.x qzz
    let v := curve.mul q.x pzz
    let s := curve.mul p.y (curve.mul qzz q.z)
    let t := curve.mul q.y (curve.mul pzz p.z)
    let h := curve.sub v u
    let r := curve.sub t s
    if h = 0 then if r = 0 then curve.double p else infinity
    else
      let hh := curve.mul h h
      let hhh := curve.mul hh h
      let w := curve.mul u hh
      let x := curve.sub (curve.sub (curve.mul r r) hhh) (2 * w)
      let y := curve.sub (curve.mul r (curve.sub w x)) (curve.mul s hhh)
      ⟨x, y, curve.mul h (curve.mul p.z q.z)⟩

/-- Doubles and adds along the binary digits of the factor. -/
def multiply (n : Nat) (p : Point) : Point :=
  if n = 0 then infinity
  else
    let half := multiply (n / 2) (curve.double p)
    if n % 2 = 1 then curve.add p half else half

/-- The plain coordinates of a point that is not at infinity. -/
def coordinates? (p : Point) : Option (Nat × Nat) :=
  if p.z = 0 then none
  else
    let inverse := Modular.inverse curve.prime p.z
    let square := curve.mul inverse inverse
    some (curve.mul p.x square, curve.mul p.y (curve.mul square inverse))

def contains (x y : Nat) : Bool :=
  x < curve.prime && y < curve.prime &&
    curve.mul y y == (curve.mul (curve.mul x x) x + curve.sub curve.b (3 * x)) % curve.prime

/-- A point as a mark and its two coordinates. -/
def encodePoint (x y : Nat) : Bytes :=
  0x04 :: Bytes.ofNatBig curve.size x ++ Bytes.ofNatBig curve.size y

def decodePoint? (bytes : Bytes) : Option Point :=
  match bytes with
  | 0x04 :: rest =>
    let x := Bytes.toNatBig (rest.take curve.size)
    let y := Bytes.toNatBig (rest.drop curve.size)
    if rest.length = 2 * curve.size && curve.contains x y then some ⟨x, y, 1⟩ else none
  | _ => none

def publicPoint? (secret : Nat) : Option Bytes :=
  (curve.coordinates? (curve.multiply secret curve.base)).map fun (x, y) => curve.encodePoint x y

end Curve

variable (curve : Curve) (h : HashFunction)

/-- A hash as a number of as many bits as the order has, which is as many as the hash has. -/
def hashNumber (message : Bytes) : Nat := Bytes.toNatBig (h.digest message) % curve.order

def signWith? (secret number e : Nat) : Option Bytes := do
  let (x, _) ← curve.coordinates? (curve.multiply number curve.base)
  let r := x % curve.order
  let s := Modular.inverse curve.order number * (e + r * secret) % curve.order
  if r = 0 || s = 0 then none
  else some (Bytes.ofNatBig curve.size r ++ Bytes.ofNatBig curve.size s)

/-- Signs with the first of some numbers that gives a signature. -/
def sign (secret : Nat) (message : Bytes) : Bytes :=
  let e := hashNumber curve h message
  let key := Bytes.ofNatBig curve.size secret
  let number (i : Nat) : Nat :=
    let wide := Hmac.code sha512 key (UInt8.ofNat i :: h.digest message)
    Bytes.toNatBig wide % (curve.order - 1) + 1
  ((List.range 4).findSome? fun i => signWith? curve secret (number i) e).getD []

def verify (point message signature : Bytes) : Bool :=
  let r := Bytes.toNatBig (signature.take curve.size)
  let s := Bytes.toNatBig (signature.drop curve.size)
  let inRange (n : Nat) : Bool := 0 < n && n < curve.order
  match curve.decodePoint? point with
  | none => false
  | some q =>
    signature.length == 2 * curve.size && inRange r && inRange s &&
      let w := Modular.inverse curve.order s
      let u := hashNumber curve h message * w % curve.order
      let v := r * w % curve.order
      match curve.coordinates? (curve.add (curve.multiply u curve.base) (curve.multiply v q)) with
      | some (x, _) => x % curve.order == r
      | none => false

end RegistryAuth.Ecdsa

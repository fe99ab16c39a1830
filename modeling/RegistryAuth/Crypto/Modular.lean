/-! # Arithmetic modulo a number

Powers and inverses of residues. The inverse modulo a prime is a power, by
Fermat's little theorem.
-/

namespace RegistryAuth.Modular

/-- Squares and multiplies along the binary digits of the exponent. -/
def pow (modulus base exponent : Nat) : Nat :=
  if exponent = 0 then 1 % modulus
  else
    let half := pow modulus (base * base % modulus) (exponent / 2)
    if exponent % 2 = 1 then base * half % modulus else half

def sub (modulus a b : Nat) : Nat := (a + (modulus - b % modulus)) % modulus

/-- The inverse of `a` modulo a prime. -/
def inverse (prime a : Nat) : Nat := pow prime a (prime - 2)

end RegistryAuth.Modular

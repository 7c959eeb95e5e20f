import AdmissionGate.Tls.Der

/-!
# RSA keys

The numbers of an RSA key.  A key is sound if they fit: the modulus is the product of two factors, and the exponents undo
each other modulo each factor less one.
-/

namespace AdmissionGate.Tls

open Der

/-- The numbers of a private RSA key, in the order in which they are written. -/
structure RsaKey where
  modulus : Nat
  publicExponent : Nat
  secretExponent : Nat
  firstFactor : Nat
  secondFactor : Nat
  /-- The secret exponent modulo the first factor less one. -/
  firstExponent : Nat
  /-- The secret exponent modulo the second factor less one. -/
  secondExponent : Nat
  /-- The inverse of the second factor modulo the first. -/
  inverse : Nat
deriving DecidableEq, Repr

namespace RsaKey

def leastBits : Nat := 2048

def mostBits : Nat := 8192

def exponentBits : Nat := 33

/-- Whether two numbers are inverse to each other modulo a third. -/
def areInverse (m a b : Nat) : Bool := a * b % m == 1

def isPublicSound (key : RsaKey) : Bool :=
  let bits := Octets.bitLength key.modulus
  key.modulus % 2 == 1 && decide (leastBits ≤ bits) && decide (bits ≤ mostBits)
    && key.publicExponent % 2 == 1 && decide (1 < key.publicExponent)
    && decide (Octets.bitLength key.publicExponent ≤ exponentBits)

def isSound (key : RsaKey) : Bool :=
  let first := key.firstFactor - 1
  let second := key.secondFactor - 1
  key.isPublicSound && decide (key.secretExponent < key.modulus)
    && decide (key.firstFactor < key.modulus) && decide (key.secondFactor < key.modulus)
    && key.firstFactor * key.secondFactor == key.modulus
    && areInverse first key.publicExponent key.secretExponent
    && areInverse second key.publicExponent key.secretExponent
    && decide (key.firstExponent < first) && areInverse first key.publicExponent key.firstExponent
    && decide (key.secondExponent < second) && areInverse second key.publicExponent key.secondExponent
    && decide (key.inverse < key.firstFactor) && areInverse key.firstFactor key.secondFactor key.inverse

/-- Read the content of a key: the version, which is zero, and the eight numbers. -/
def read? (s : List UInt8) : Option RsaKey := do
  let (version, s) ← readNatural s
  if version ≠ 0 then none
  let (modulus, s) ← readNatural s
  let (publicExponent, s) ← readNatural s
  let (secretExponent, s) ← readNatural s
  let (firstFactor, s) ← readNatural s
  let (secondFactor, s) ← readNatural s
  let (firstExponent, s) ← readNatural s
  let (secondExponent, s) ← readNatural s
  let (inverse, s) ← readNatural s
  if s ≠ [] then none
  return { modulus, publicExponent, secretExponent, firstFactor, secondFactor, firstExponent, secondExponent, inverse }

def writePublic (key : RsaKey) : List UInt8 :=
  write sequenceTag
    (write integerTag (naturalContent key.modulus) ++ write integerTag (naturalContent key.publicExponent))

end RsaKey

end AdmissionGate.Tls

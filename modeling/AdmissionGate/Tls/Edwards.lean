import AdmissionGate.Tls.Digest

/-!
# Keys on the curve of Edwards

A secret is any 32 octets.  The first half of their digest, with a few bits set and cleared, says how often the base point
of the curve `y ^ 2 - x ^ 2 = 1 + d * x ^ 2 * y ^ 2` is taken; the point that comes out is public.

Points are added in homogeneous coordinates, by one formula that holds for every two points.  A point is written as its
second coordinate, the lowest octet first, and the parity of the first coordinate in the highest bit.
-/

namespace AdmissionGate.Tls.Edwards

def identifier : List UInt8 := [0x2b, 0x65, 0x70]

/-- How many octets a secret has, and a public point. -/
def keyLength : Nat := 32

def prime : Nat := 0x7fffffffffffffffffffffffffffffffffffffffffffffffffffffffffffffed

def d : Nat := 0x52036cee2b6ffe738cc740797779e89800700a4d4141d8ab75eb4dca135978a3

/-- A point in homogeneous coordinates: `(x / z, y / z)`. -/
structure Point where
  x : Int
  y : Int
  z : Int
deriving DecidableEq, Repr

def base : Point where
  x := 0x216936d3cd6e53fec0a4e231fdd6dc5c692cc7609525a7b2c9562d608f25d51a
  y := 0x6666666666666666666666666666666666666666666666666666666666666658
  z := 1

/-- The point that changes nothing when it is added. -/
def neutral : Point := ⟨0, 1, 1⟩

def add (p q : Point) : Point :=
  let zz := p.z * q.z
  let xx := p.x * q.x
  let yy := p.y * q.y
  let shift := d * xx * yy % prime
  let lower := zz * zz - shift
  let upper := zz * zz + shift
  { x := zz * lower % prime * (p.x * q.y + p.y * q.x) % prime
    y := zz * upper % prime * (yy + xx) % prime
    z := lower * upper % prime }

/-- The base point taken so many times. -/
def multiple (n : Nat) : Point :=
  Octets.times n neutral (fun p => add p p) fun p => add p base

def power (n exponent : Nat) : Nat :=
  Octets.times exponent 1 (fun a => a * a % prime) fun a => a * n % prime

def write (p : Point) : List UInt8 :=
  let inverse := power p.z.toNat (prime - 2)
  let x := p.x.toNat * inverse % prime
  let y := p.y.toNat * inverse % prime
  (Octets.ofNatural (y + x % 2 * Nat.pow 2 255) keyLength).reverse

/-- How often the base point is taken for a secret: the lowest three bits of the digest and all from the highest but one on
    are cleared, and that one is set. -/
def multiplier (secret : List UInt8) : Nat :=
  let half := Octets.natural ((Digest.ofOctets secret).take keyLength).reverse
  half % Nat.pow 2 254 / 8 * 8 + Nat.pow 2 254

/-- The public point of a secret, as it is written. -/
def publicKey (secret : List UInt8) : List UInt8 := write (multiple (multiplier secret))

end AdmissionGate.Tls.Edwards

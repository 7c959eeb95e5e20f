import AdmissionGate.Tls.Octets

/-!
# Elliptic curves

The curves that keys may lie on: `y ^ 2 = x ^ 3 - 3 * x + b` over a prime field, with a generator of prime order.  A secret
is a number below the order, and the public point that belongs to it is the generator taken so many times.

Points are added in homogeneous coordinates, by one formula that holds for every two points of such a curve, equal ones
and the point at infinity included.  A point is written as its two coordinates, or as the first one and the parity of the
second.
-/

namespace AdmissionGate.Tls

/-- A point of the plane. -/
structure Point where
  x : Nat
  y : Nat
deriving DecidableEq, Repr

/-- An elliptic curve. -/
structure Curve where
  /-- The identifier by which keys name it. -/
  identifier : List UInt8
  prime : Nat
  /-- The constant of its equation. -/
  b : Nat
  generator : Point
  /-- How often the generator is added up to reach infinity. -/
  order : Nat
  /-- How many octets a coordinate has. -/
  coordinate : Nat
deriving DecidableEq, Repr

namespace Curve

def bits256 : Curve where
  identifier := [0x2a, 0x86, 0x48, 0xce, 0x3d, 0x03, 0x01, 0x07]
  prime := 0xffffffff00000001000000000000000000000000ffffffffffffffffffffffff
  b := 0x5ac635d8aa3a93e7b3ebbd55769886bc651d06b0cc53b0f63bce3c3e27d2604b
  generator :=
    ⟨0x6b17d1f2e12c4247f8bce6e563a440f277037d812deb33a0f4a13945d898c296,
      0x4fe342e2fe1a7f9b8ee7eb4a7c0f9e162bce33576b315ececbb6406837bf51f5⟩
  order := 0xffffffff00000000ffffffffffffffffbce6faada7179e84f3b9cac2fc632551
  coordinate := 32

def bits384 : Curve where
  identifier := [0x2b, 0x81, 0x04, 0x00, 0x22]
  prime := 0xfffffffffffffffffffffffffffffffffffffffffffffffffffffffffffffffeffffffff0000000000000000ffffffff
  b := 0xb3312fa7e23ee7e4988e056be3f82d19181d9c6efe8141120314088f5013875ac656398d8a2ed19d2a85c8edd3ec2aef
  generator :=
    ⟨0xaa87ca22be8b05378eb1c71ef320ad746e1d3b628ba79b9859f741e082542a385502f25dbf55296c3a545e3872760ab7,
      0x3617de4a96262c6f5d9e98bf9292dc29f8f41dbd289a147ce9da3113b5f0b8c00a60b1ce1d7e819d7a431d7c90ea0e5f⟩
  order := 0xffffffffffffffffffffffffffffffffffffffffffffffffc7634d81f4372ddf581a0db248b0a77aecec196accc52973
  coordinate := 48

def bits521 : Curve where
  identifier := [0x2b, 0x81, 0x04, 0x00, 0x23]
  prime := Nat.pow 2 521 - 1
  b :=
    0x51953eb9618e1c9a1f929a21a0b68540eea2da725b99b315f3b8b489918ef109e156193951ec7e937b1652c0bd3bb1bf073573df883d2c34f1ef451fd46b503f00
  generator :=
    ⟨0xc6858e06b70404e9cd9e3ecb662395b4429c648139053fb521f828af606b4d3dbaa14b5e77efe75928fe1dc127a2ffa8de3348b3c1856a429bf97e7e31c2e5bd66,
      0x11839296a789a3bc0045c8a5fb42c7d1bd998f54449579b446817afbd17273e662c97ee72995ef42640c550b9013fad0761353c7086a272c24088be94769fd16650⟩
  order :=
    0x1fffffffffffffffffffffffffffffffffffffffffffffffffffffffffffffffffa51868783bf2f966b7fcc0148f709a5d03bb5c9b8899c47aebb6fb71e91386409
  coordinate := 66

def all : List Curve := [bits256, bits384, bits521]

/-! ### The field -/

/-- A power modulo the prime of the field. -/
def power (curve : Curve) (base exponent : Nat) : Nat :=
  Octets.times exponent 1 (fun a => a * a % curve.prime) fun a => a * base % curve.prime

/-- The right side of the equation. -/
def rightSide (curve : Curve) (x : Nat) : Nat :=
  (((x * x - 3) * x + curve.b : Int) % curve.prime).toNat

/-- Whether a point lies on the curve, its coordinates below the prime. -/
def contains (curve : Curve) (point : Point) : Bool :=
  decide (point.x < curve.prime) && decide (point.y < curve.prime)
    && point.y * point.y % curve.prime == curve.rightSide point.x

/-! ### Sums of points -/

/-- A point in homogeneous coordinates: `(x / z, y / z)`, or infinity if `z` is zero. -/
structure Homogeneous where
  x : Int
  y : Int
  z : Int
deriving DecidableEq, Repr

def add (curve : Curve) (p q : Homogeneous) : Homogeneous :=
  let xy := p.x * q.y + q.x * p.y
  let yz := p.y * q.z + q.y * p.z
  let xz := p.x * q.z + q.x * p.z
  let shift := 3 * (xz - curve.b * (p.z * q.z))
  let lower := p.y * q.y - shift
  let upper := p.y * q.y + shift
  let slope := 3 * (p.x * q.x - p.z * q.z)
  let rest := 3 * (curve.b * xz - 3 * (p.z * q.z) - p.x * q.x)
  { x := (xy * upper - yz * rest) % curve.prime
    y := (upper * lower + slope * rest) % curve.prime
    z := (yz * lower + xy * slope) % curve.prime }

/-- The generator taken so many times. -/
def multiple (curve : Curve) (n : Nat) : Homogeneous :=
  let generator : Homogeneous := ⟨curve.generator.x, curve.generator.y, 1⟩
  Octets.times n ⟨0, 1, 0⟩ (fun p => curve.add p p) fun p => curve.add p generator

/-- The point of the plane that homogeneous coordinates stand for, unless it is infinity. -/
def point? (curve : Curve) (p : Homogeneous) : Option Point :=
  if p.z = 0 then none
  else
    let inverse := curve.power p.z.toNat (curve.prime - 2)
    some ⟨p.x.toNat * inverse % curve.prime, p.y.toNat * inverse % curve.prime⟩

def publicPoint? (curve : Curve) (secret : Nat) : Option Point :=
  if secret = 0 ∨ curve.order ≤ secret then none else curve.point? (curve.multiple secret)

/-! ### Written points -/

/-- How a point is written with both coordinates. -/
def write (curve : Curve) (point : Point) : List UInt8 :=
  4 :: (Octets.ofNatural point.x curve.coordinate ++ Octets.ofNatural point.y curve.coordinate)

/-- The point with a given first coordinate and a second one of some parity. -/
def lift? (curve : Curve) (x parity : Nat) : Option Point :=
  let root := curve.power (curve.rightSide x) ((curve.prime + 1) / 4)
  let y := if root % 2 = parity then root else curve.prime - root
  if curve.contains ⟨x, y⟩ then some ⟨x, y⟩ else none

/-- The point that octets spell.  The first octet says which form it has: both coordinates (4), both and the parity of the
    second (6 or 7), or the first and the parity of the second (2 or 3). -/
def read? (curve : Curve) : List UInt8 → Option Point
  | [] => none
  | form :: octets =>
    let parity := form.toNat % 2
    if form = 2 ∨ form = 3 then
      if octets.length = curve.coordinate then curve.lift? (Octets.natural octets) parity else none
    else if octets.length = 2 * curve.coordinate then
      let point : Point :=
        ⟨Octets.natural (octets.take curve.coordinate), Octets.natural (octets.drop curve.coordinate)⟩
      if curve.contains point ∧ (form = 4 ∨ ((form = 6 ∨ form = 7) ∧ point.y % 2 = parity)) then some point else none
    else none

end Curve

end AdmissionGate.Tls

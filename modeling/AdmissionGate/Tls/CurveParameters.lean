import AdmissionGate.Tls.Curve
import AdmissionGate.Tls.Der

/-!
# How a key says on which curve it lies

A key names its curve by an identifier, or it describes the curve in full: the prime, the two constants of the equation,
the generator with both coordinates, the order and perhaps the cofactor, which is one.  A curve that is described must be
one of those that have a name.
-/

namespace AdmissionGate.Tls.Curve

open Der

def primeFieldIdentifier : List UInt8 := [0x2a, 0x86, 0x48, 0xce, 0x3d, 0x01, 0x01]

def ofIdentifier? (identifier : List UInt8) : Option Curve :=
  all.find? fun curve => curve.identifier == identifier

/-- A description of a curve. -/
structure Description where
  prime : Nat
  a : Nat
  b : Nat
  generator : Point
  order : Nat
deriving DecidableEq, Repr

def description (curve : Curve) : Description :=
  ⟨curve.prime, curve.prime - 3, curve.b, curve.generator, curve.order⟩

/-- Numbers in a description are told apart up to here; no curve has a greater one. -/
def greatestNumber : Nat := Nat.pow 2 521

/-- The number that octets of a description spell. -/
def readNumber (octets : List UInt8) : Nat := Octets.naturalUpTo greatestNumber octets

/-- The point whose two coordinates follow each other. -/
def readGenerator? : List UInt8 → Option Point
  | 4 :: octets =>
    let half := octets.length / 2
    if octets.length % 2 = 0 then some ⟨readNumber (octets.take half), readNumber (octets.drop half)⟩ else none
  | _ => none

/-- The description in the content of a sequence.  A seed behind the constants is not looked at. -/
def readDescription? (s : List UInt8) : Option Description := do
  let (version, s) ← readNatural s
  if version ≠ 1 then none
  let (field, s) ← readContent sequenceTag s
  let (fieldType, field) ← readContent identifierTag field
  if fieldType ≠ primeFieldIdentifier then none
  let (prime, field) ← readNatural field
  if field ≠ [] then none
  let (equation, s) ← readContent sequenceTag s
  let (a, equation) ← readContent octetStringTag equation
  let (b, equation) ← readContent octetStringTag equation
  let (_seed, equation) ← readOptional bitStringTag equation
  if equation ≠ [] then none
  let (base, s) ← readContent octetStringTag s
  let (order, s) ← readNatural s
  let (cofactor, s) ← readOptional integerTag s
  if s ≠ [] ∨ cofactor.any (fun content => content ≠ [1]) then none
  let generator ← readGenerator? base
  return { prime, a := readNumber a, b := readNumber b, generator, order }

def ofParameters? (s : List UInt8) : Option Curve :=
  match only sequenceTag s with
  | some content => do
    let described ← readDescription? content
    all.find? fun curve => curve.description == described
  | none => (only identifierTag s).bind ofIdentifier?

end AdmissionGate.Tls.Curve

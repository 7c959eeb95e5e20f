/-!
# Numbers as octets and bits

A number stands in octets with the highest one first, and so do its bits.
-/

namespace AdmissionGate.Tls.Octets

def natural (octets : List UInt8) : Nat :=
  octets.foldl (fun n b => n * 256 + b.toNat) 0

/-- The number that octets spell, or a bound if the number is greater. -/
def naturalUpTo (bound : Nat) (octets : List UInt8) : Nat :=
  octets.foldl (fun n b => min bound (n * 256 + b.toNat)) 0

/-- The last octets of a number, as many as asked for. -/
def ofNatural (n : Nat) : Nat → List UInt8
  | 0 => []
  | k + 1 => UInt8.ofNat (n / Nat.pow 256 k) :: ofNatural n k

def bitLength (n : Nat) : Nat := if n = 0 then 0 else Nat.log2 n + 1

def bits (n : Nat) : List Bool := (List.range (bitLength n)).reverse.map n.testBit

/-- Something taken `n` times: for each bit it is doubled, and one is added if the bit is set. -/
def times {α : Type} (n : Nat) (none : α) (double addOne : α → α) : α :=
  (bits n).foldl (fun a bit => if bit then addOne (double a) else double a) none

@[simp]
theorem length_ofNatural (n count : Nat) : (ofNatural n count).length = count := by
  induction count with
  | zero => rfl
  | succ count ih => simp [ofNatural, ih]

end AdmissionGate.Tls.Octets

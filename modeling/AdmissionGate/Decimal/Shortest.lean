/-!
# Shortest decimals

A double is `mantissa * 2 ^ exponent` with a sign.  The reals that round to it form an interval around it: halfway to its
two neighbours, the ends included exactly if the mantissa is even.  The shortest decimal is the one with the fewest digits
that lies in this interval, and of those the one nearest to the double.

The search runs over the grids with 1, 2, … 17 significant digits in exact arithmetic.  If a grid has a point in the
interval, one of the two grid points next to the double is such a point, so only those two are looked at.
-/

namespace AdmissionGate.Decimal

/-- A finite double, taken apart: its magnitude is `mantissa * 2 ^ exponent`. -/
structure Parts where
  negative : Bool
  mantissa : Nat
  exponent : Int
deriving DecidableEq, Repr

/-- The bit of a mantissa that is understood: the fifty-two bits below it are kept. -/
def hiddenBit : Nat := 0x10000000000000

def Parts.ofFloat (x : Float) : Parts :=
  let bits := x.toBits.toNat
  let fraction := bits % hiddenBit
  let biased := bits / hiddenBit % 0x800
  { negative := decide (0x800 ≤ bits / hiddenBit)
    mantissa := if biased = 0 then fraction else fraction + hiddenBit
    exponent := (max biased 1 : Nat) - (1075 : Int) }

/-- The decimal `coefficient * 10 ^ exponent`. -/
structure Digits where
  coefficient : Nat
  exponent : Int
deriving DecidableEq, Repr

/-- The numerator of `n * base ^ e`; `denominator` is its other half. -/
def numerator (n base : Nat) (e : Int) : Nat := n * Nat.pow base e.toNat

/-- The denominator of `n * base ^ e`. -/
def denominator (base : Nat) (e : Int) : Nat := Nat.pow base (-e).toNat

/-- The greatest `e` with `10 ^ e ≤ num / den`, for a positive quotient. -/
def floorLog10 (num den : Nat) : Int :=
  if den ≤ num then ((Nat.toDigits 10 (num / den)).length : Int) - 1
  else -((Nat.toDigits 10 ((den + num - 1) / num - 1)).length : Int)

/-- The interval of the reals that round to a double, in quarters of the unit of its mantissa. -/
structure Interval where
  low : Nat
  value : Nat
  high : Nat
  /-- Whether the two ends belong to it. -/
  closed : Bool
  /-- The exponent of two that a quarter stands for. -/
  unit : Int
deriving DecidableEq, Repr

/-- The interval around a positive double.  Below a power of two the next double is only half as far away, except at the
    bottom of the range. -/
def Interval.ofParts (p : Parts) : Interval :=
  { low := 4 * p.mantissa - (if p.mantissa = hiddenBit ∧ -1074 < p.exponent then 1 else 2)
    value := 4 * p.mantissa
    high := 4 * p.mantissa + 2
    closed := p.mantissa % 2 == 0
    unit := p.exponent - 2 }

/-- Whether the decimal `c * 10 ^ k` lies in the interval. -/
def Interval.holds (i : Interval) (c : Nat) (k : Int) : Bool :=
  let point := numerator c 10 k * denominator 2 i.unit
  let scale := numerator 1 2 i.unit * denominator 10 k
  if i.closed then i.low * scale ≤ point && point ≤ i.high * scale
  else i.low * scale < point && point < i.high * scale

/-- The point of the grid with `n` digits that lies in the interval, if one does; of two the nearer. -/
def Interval.onGrid (i : Interval) (top : Int) (n : Nat) : Option Digits :=
  let k := top - n + 1
  let num := numerator i.value 2 i.unit * denominator 10 k
  let den := denominator 2 i.unit * numerator 1 10 k
  let below := num / den
  let nearerBelow := 2 * (num % den) < den || (2 * (num % den) == den && below % 2 == 0)
  match i.holds below k, i.holds (below + 1) k with
  | true, true => some ⟨if nearerBelow then below else below + 1, k⟩
  | true, false => some ⟨below, k⟩
  | false, true => some ⟨below + 1, k⟩
  | false, false => none

/-- Drop the zeros at the end of a coefficient; a coefficient of `n` digits needs at most `n` steps. -/
def Digits.strip : Nat → Digits → Digits
  | 0, d => d
  | n + 1, d =>
    if d.coefficient ≠ 0 ∧ d.coefficient % 10 = 0 then Digits.strip n ⟨d.coefficient / 10, d.exponent + 1⟩ else d

/-- The shortest decimal that reads back as a double, the sign aside. -/
def shortest (p : Parts) : Digits :=
  if p.mantissa = 0 then ⟨0, 0⟩
  else
    let i := Interval.ofParts p
    let top := floorLog10 (numerator i.value 2 i.unit) (denominator 2 i.unit)
    let found := (List.range 17).findSome? fun n => i.onGrid top (n + 1)
    (found.getD ⟨0, 0⟩).strip 18

end AdmissionGate.Decimal

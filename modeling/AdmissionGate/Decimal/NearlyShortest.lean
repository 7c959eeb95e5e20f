import AdmissionGate.Decimal.Shortest

/-!
# Nearly shortest decimals

A quicker search for a decimal that reads back as a double.  The double and the two ends of the interval of reals that
round to it are multiplied by one power of ten.  A power is kept as a word of 64 bits and a power of two, and a product is
rounded to a word, so that each product may be off by one unit.  The interval is therefore narrowed by one unit at either
end before digits are looked for in it.

The digits are those of its upper end, cut as soon as what is cut off is within its width; the last digit then steps down
as long as that stays in the interval and comes nearer to the double.  A decimal that is found reads back, but a shorter
one in a unit cut off is missed.  From the ninth place behind the point of the product on, the last digit stays as it is.
-/

namespace AdmissionGate.Decimal

/-! ### Words -/

def wordRange : Nat := 0x10000000000000000

/-- The number `significand * 2 ^ exponent`, its significand a word with the highest bit set. -/
structure Scaled where
  significand : Nat
  exponent : Int
deriving DecidableEq, Repr

/-- A quotient rounded to the nearest whole number, a half up. -/
def roundedQuotient (num den : Nat) : Nat := (2 * num + den) / (2 * den)

def Scaled.powerOfTen (n : Int) : Scaled :=
  let num := numerator 1 10 n
  let den := denominator 10 n
  let significand (e : Int) := roundedQuotient (numerator num 2 (-e)) (den * denominator 2 (-e))
  let e : Int := (Nat.log2 num : Int) - Nat.log2 den - 63
  if wordRange ≤ 2 * significand e then ⟨significand e, e⟩ else ⟨significand (e - 1), e - 1⟩

/-- A product of two words rounded to its upper half. -/
def roundedProduct (a b : Nat) : Nat := roundedQuotient (a * b) wordRange

/-! ### The search -/

/-- The exponent of the power of ten for a word with some exponent: of the exponents that leave four when divided by eight,
    the least that brings the exponent of the product to -60 or more. -/
def tenExponent (exponent : Int) : Int :=
  let least := -((61 + exponent) * 30103 / 100000)
  (least + 3) / 8 * 8 + 4

/-- What is known of a double after the multiplication, in units of `2 ^ -places`. -/
structure Search where
  /-- The upper end of the narrowed interval. -/
  upper : Nat
  /-- How wide the interval is. -/
  width : Nat
  /-- How far the double is below the upper end. -/
  distance : Nat
  places : Nat
  /-- The exponent of the power of ten that undoes the multiplication. -/
  exponent : Int
deriving DecidableEq, Repr

/-- Multiply a positive double and the ends of its interval. -/
def Search.ofParts (p : Parts) : Search :=
  let high := 4 * p.mantissa + 2
  let low := 4 * p.mantissa - (if p.mantissa = hiddenBit then 1 else 2)
  let shift := 63 - Nat.log2 high
  let exponent := p.exponent - 2 - shift
  let n := tenExponent exponent
  let power := Scaled.powerOfTen n
  let product (quarters : Nat) := roundedProduct (numerator quarters 2 shift) power.significand
  let upper := product high - 1
  { upper
    width := upper - (product low + 1)
    distance := upper - product (4 * p.mantissa)
    places := (-(exponent + power.exponent + 64)).toNat
    exponent := -n }

/-- Step a last digit down, `unit` apart, while that stays within `width` of the upper end and comes nearer to the double.
    A digit has at most nine steps. -/
def stepDown (width distance unit : Nat) : Nat → Nat → Nat → Nat
  | 0, coefficient, _ => coefficient
  | steps + 1, coefficient, rest =>
    if rest + unit ≤ width ∧ 2 * rest + unit < 2 * distance then
      stepDown width distance unit steps (coefficient - 1) (rest + unit)
    else coefficient

/-- The digits down to a place left of the point, if cutting there is close enough. -/
def Search.wholeCut (s : Search) (place : Nat) : Option Digits :=
  let unit := numerator (Nat.pow 10 place) 2 s.places
  let rest := s.upper % unit
  if rest ≤ s.width then
    some ⟨stepDown s.width s.distance unit 9 (s.upper / unit) rest, s.exponent + place⟩
  else none

/-- The place right of the point from which on the last digit stays as it is. -/
def steplessPlace : Nat := 9

/-- The digits down to a place right of the point, if cutting there is close enough. -/
def Search.fractionCut (s : Search) (place : Nat) : Option Digits :=
  let unit := numerator 1 2 s.places
  let grow (n : Nat) := n * Nat.pow 10 place
  let rest := grow s.upper % unit
  if rest < grow s.width then
    let distance := if place < steplessPlace then grow s.distance else 0
    some ⟨stepDown (grow s.width) distance unit 9 (grow s.upper / unit) rest, s.exponent - place⟩
  else none

/-- A decimal that reads back as a double and is mostly the shortest, the sign aside. -/
def nearlyShortest (p : Parts) : Digits :=
  if p.mantissa = 0 then ⟨0, 0⟩
  else
    let s := Search.ofParts p
    let whole := (List.range 10).findSome? fun n => s.wholeCut (9 - n)
    let found := whole <|> (List.range 20).findSome? fun n => s.fractionCut (n + 1)
    found.getD ⟨0, 0⟩

end AdmissionGate.Decimal

import AdmissionGate.Numeral
import AdmissionGate.Decimal.Layout

/-!
# Numbers of JSON

A literal without a fraction and an exponent is a whole number if it fits an unsigned or a signed word of 64 bits.  Every
other literal, and minus zero, is a double.

A double is made in few steps.  The leading digits that fit an unsigned word of 64 bits form the significand; the digits
after them only move the point.  The significand, rounded to a double, is then multiplied or divided by a power of ten, in
steps of at most `10 ^ 308`, and each step rounds.  A literal beyond the range of doubles is no number; one too close to
zero is zero.
-/

namespace AdmissionGate.Json

/-- A number of JSON. -/
inductive Number where
  | whole (n : Int)
  | real (x : Float)
deriving DecidableEq, Repr

/-- An exponent, taken apart. -/
structure Exponent where
  negative : Bool
  digits : List Char
deriving DecidableEq, Repr

/-- A number literal, taken apart. -/
structure Literal where
  negative : Bool
  /-- The digits before the point. -/
  whole : List Char
  /-- The digits after the point, if there is a point. -/
  fraction : Option (List Char)
  exponent : Option Exponent
deriving DecidableEq, Repr

/-- The magnitude at which exponents stop to grow.  It moves the point further than any literal has digits, so that what is
    not zero is out of range or too close to zero before it is reached. -/
def Exponent.greatest : Nat := 0x7fffffff

def Exponent.value (e : Exponent) : Int :=
  let magnitude := Numeral.valueUpTo greatest e.digits
  if e.negative then -magnitude else magnitude

namespace Number

def greatestWord : Nat := 0xffffffffffffffff

/-- The magnitude of the least signed word of 64 bits. -/
def leastWordMagnitude : Nat := 0x8000000000000000

/-- The leading digits of a literal and how far its point has moved. -/
structure Significand where
  value : Nat
  exponent : Int
  /-- Whether a digit has been left out. -/
  full : Bool
deriving DecidableEq, Repr

/-- Take in one more digit before the point.  Once a digit has been left out, all digits before the point are. -/
def Significand.wholeDigit (s : Significand) (c : Char) : Significand :=
  let next := s.value * 10 + Numeral.digitValue c
  if s.full ∨ greatestWord < next then { s with exponent := s.exponent + 1, full := true }
  else { s with value := next }

/-- Take in one more digit after the point, unless one there has been left out. -/
def Significand.fractionDigit (s : Significand) (c : Char) : Significand :=
  let next := s.value * 10 + Numeral.digitValue c
  if s.full ∨ greatestWord < next then { s with full := true }
  else { s with value := next, exponent := s.exponent - 1 }

def Significand.ofLiteral (l : Literal) : Significand :=
  let whole := l.whole.foldl wholeDigit ⟨0, 0, false⟩
  (l.fraction.getD []).foldl fractionDigit { whole with full := false }

/-- The greatest power of ten below the range of doubles. -/
def greatestPower : Nat := 308

/-- The powers of ten that doubles hold, each as the nearest double. -/
def powersOfTen : Array Float := (Array.range (greatestPower + 1)).map fun n => OfScientific.ofScientific 1 false n

def powerOfTen (n : Nat) : Float := powersOfTen.getD n (1.0 / 0.0)

/-- Multiply by a power of ten with an exponent of at most 308, or divide by one in steps; `none` beyond the range. -/
def scale (x : Float) (exponent : Int) : Option Float :=
  if 0 ≤ exponent then
    if x == 0 then some x
    else if greatestPower < exponent then none
    else
      let scaled := x * powerOfTen exponent.toNat
      if scaled.isInf then none else some scaled
  else if -greatestPower ≤ exponent then some (x / powerOfTen (-exponent).toNat)
  else if x == 0 then some x
  else scale (x / powerOfTen greatestPower) (exponent + greatestPower)
termination_by exponent.natAbs
decreasing_by simp only [greatestPower] at *; omega

/-- The double that a literal stands for, if it is in range. -/
def realOf (l : Literal) : Option Float :=
  let s := Significand.ofLiteral l
  (scale (Float.ofNat s.value) (s.exponent + (l.exponent.map Exponent.value).getD 0)).map fun x => if l.negative then -x else x

/-- The whole number that a literal stands for, if it stands for one. -/
def wholeOf (l : Literal) : Option Int :=
  match l.fraction, l.exponent with
  | none, none =>
    match Numeral.readDigits (greatestWord + 1) 0 l.whole with
    | .error _ => none
    | .ok n =>
      if l.negative then
        if 0 < n ∧ n ≤ leastWordMagnitude then some (-n) else none
      else some n
  | _, _ => none

def ofLiteral (l : Literal) : Option Number :=
  match wholeOf l with
  | some n => some (whole n)
  | none => (realOf l).map real

/-- Doubles are written positionally while the point stands within six places left and sixteen right; an exponent has a
    sign. -/
def layout : Decimal.Layout := ⟨-5, 16, true⟩

def write : Number → List Char
  | whole n => (toString n).toList
  | real x => layout.write Decimal.shortest x

end Number

end AdmissionGate.Json

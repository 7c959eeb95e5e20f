import AdmissionGate.Decimal.Shortest

/-!
# How a decimal is laid out

The digits of a decimal are written positionally, with at least one digit on either side of the point, while the point
stands near them, and with an exponent otherwise.  Two formats differ in how far the point may stand away, in the sign of
an exponent and in the digits that they take for a double.
-/

namespace AdmissionGate.Decimal

/-- Where positional notation ends and what an exponent looks like.  The point stands at `n` if the number is at least
    `10 ^ (n - 1)` and below `10 ^ n`. -/
structure Layout where
  /-- Positional only if the point stands right of this place. -/
  lowest : Int
  /-- Positional only if the point stands at this place or left of it. -/
  highest : Int
  /-- Whether an exponent that is not negative has a sign. -/
  plus : Bool
deriving DecidableEq, Repr

def zeros (n : Nat) : List Char := List.replicate n '0'

def Layout.exponent (layout : Layout) (e : Int) : List Char :=
  (if layout.plus ∧ 0 ≤ e then ['e', '+'] else ['e']) ++ (toString e).toList

def Layout.place (layout : Layout) (digits : List Char) (point : Int) : List Char :=
  if layout.lowest < point ∧ point ≤ layout.highest then
    if digits.length ≤ point then digits ++ zeros (point.toNat - digits.length) ++ ['.', '0']
    else if 0 < point then digits.take point.toNat ++ '.' :: digits.drop point.toNat
    else '0' :: '.' :: (zeros (-point).toNat ++ digits)
  else
    match digits with
    | [] => []
    | [d] => d :: layout.exponent (point - 1)
    | d :: ds => d :: '.' :: (ds ++ layout.exponent (point - 1))

/-- Write a finite double with the digits that some function finds for it.  Zero keeps its sign. -/
def Layout.write (layout : Layout) (find : Parts → Digits) (x : Float) : List Char :=
  let p := Parts.ofFloat x
  let d := find p
  let digits := Nat.toDigits 10 d.coefficient
  let magnitude :=
    if d.coefficient = 0 then ['0', '.', '0'] else layout.place digits (digits.length + d.exponent)
  if p.negative then '-' :: magnitude else magnitude

end AdmissionGate.Decimal

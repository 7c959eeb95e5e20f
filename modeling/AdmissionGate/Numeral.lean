/-!
# Numerals of a fixed width

A setting is a whole number below `2 ^ width`, written in ASCII digits after at most one plus sign.  Leading zeros are
fine.  A text that is no such numeral is blamed for its leftmost defect: the first character that is no digit, or the
first digit with which the value no longer fits, whichever is met first.  A sign on its own is a character that is no
digit, and so is any minus sign.
-/

namespace AdmissionGate

/-- Why a text is no numeral of the width asked for. -/
inductive NumeralError where
  | empty
  | invalidDigit
  | tooLarge
deriving DecidableEq, Repr

namespace NumeralError

def message : NumeralError → String
  | empty => "cannot parse integer from empty string"
  | invalidDigit => "invalid digit found in string"
  | tooLarge => "number too large to fit in target type"

end NumeralError

namespace Numeral

def digitValue (c : Char) : Nat :=
  c.toNat - '0'.toNat

/-- The value of some digits, or a bound if the value is greater. -/
def valueUpTo (bound : Nat) (digits : List Char) : Nat :=
  digits.foldl (fun n c => min bound (n * 10 + digitValue c)) 0

/-- Read digits on top of a value, as long as it stays below the limit. -/
def readDigits (limit : Nat) (value : Nat) : List Char → Except NumeralError Nat
  | [] => .ok value
  | c :: cs =>
    if c.isDigit then
      let next := value * 10 + digitValue c
      if next < limit then readDigits limit next cs else .error .tooLarge
    else .error .invalidDigit

/-- The number below `2 ^ width` that a text spells. -/
def parse (width : Nat) : List Char → Except NumeralError Nat
  | [] => .error .empty
  | '+' :: c :: cs => readDigits (Nat.pow 2 width) 0 (c :: cs)
  | cs => readDigits (Nat.pow 2 width) 0 cs

end Numeral

end AdmissionGate

/-!
# Blank characters and trimmed text

A character is blank when the Unicode property `White_Space` holds of it.  The property is a table of ten ranges that
hold 25 code points.  Format characters such as U+200B and U+FEFF are not blank, nor are the information separators
U+001C to U+001F.

`trimChars` cuts blank characters from both ends of a text and leaves those inside.
-/

namespace AdmissionGate.Text

/-- The code points of the property `White_Space`, as closed ranges in ascending order. -/
def blankRanges : List (Nat × Nat) :=
  [(0x09, 0x0d), (0x20, 0x20), (0x85, 0x85), (0xa0, 0xa0), (0x1680, 0x1680), (0x2000, 0x200a), (0x2028, 0x2029),
    (0x202f, 0x202f), (0x205f, 0x205f), (0x3000, 0x3000)]

def isBlank (c : Char) : Bool :=
  blankRanges.any fun range => decide (range.1 ≤ c.toNat) && decide (c.toNat ≤ range.2)

/-- The text without the blank characters at its two ends. -/
def trimChars (cs : List Char) : List Char :=
  ((cs.dropWhile isBlank).reverse.dropWhile isBlank).reverse

/-- The text without the blank characters at its two ends. -/
def trim (s : String) : String :=
  String.ofList (trimChars s.toList)

/-! ### What trimming leaves -/

theorem toList_trim (s : String) : (trim s).toList = trimChars s.toList := by
  simp [trim]

@[simp]
theorem trimChars_nil : trimChars [] = [] := rfl

end AdmissionGate.Text

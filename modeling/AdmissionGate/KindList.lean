import AdmissionGate.Text.Blank

/-!
# Lists of kinds in a setting

A list of resource kinds is written as one text: the kinds stand between commas, blank characters around them do not
count, and empty places are passed over.
-/

namespace AdmissionGate.KindList

/-- The segments of a text between its commas; a text without a comma is one segment. -/
def segments : List Char → List (List Char)
  | [] => [[]]
  | c :: cs =>
    if c = ',' then [] :: segments cs
    else
      match segments cs with
      | [] => [[c]]
      | first :: rest => (c :: first) :: rest

/-- The kinds that a text lists, in its order, repetitions kept. -/
def split (raw : String) : List String :=
  (((segments raw.toList).map Text.trimChars).filter (· ≠ [])).map String.ofList

theorem segments_ne_nil (cs : List Char) : segments cs ≠ [] := by
  cases cs with
  | nil => simp [segments]
  | cons c cs =>
    simp only [segments]
    split
    · simp
    · split <;> simp

end AdmissionGate.KindList

import AdmissionGate.Numeral

/-!
# Failures of writing

Why a value could not be written, in words.  The words may end in a place, ` at line 3 column 5`, and then the place is
told apart from the reason.  Places count from the first line on: a place in line zero is no place, and nothing is shown
of it.  Both numbers fit an unsigned word of 64 bits and are shown without leading zeros.
-/

namespace AdmissionGate.Json

/-- A place in a text. -/
structure Place where
  line : Nat
  column : Nat
deriving DecidableEq, Repr

/-- Why a value could not be written, and where. -/
structure Failure where
  reason : List Char
  place : Option Place
deriving DecidableEq, Repr

namespace Place

def beforeLine : List Char := " at line ".toList

def beforeColumn : List Char := " column ".toList

/-- The rest behind some beginning, if a text has it. -/
def after? (start s : List Char) : Option (List Char) :=
  if start.isPrefixOf s then some (s.drop start.length) else none

/-- The place that a text names if it names one and nothing else. -/
def ofChars? (s : List Char) : Option Place := do
  let s ← after? beforeLine s
  let line ← (Numeral.parse 64 (s.takeWhile Char.isDigit)).toOption
  let s ← after? beforeColumn (s.dropWhile Char.isDigit)
  if !s.all Char.isDigit then none
  let column ← (Numeral.parse 64 s).toOption
  return { line, column }

def write (place : Place) : List Char :=
  beforeLine ++ (toString place.line).toList ++ beforeColumn ++ (toString place.column).toList

end Place

namespace Failure

/-- Tell the place at the end of some words apart. -/
def ofChars : List Char → Failure
  | [] => ⟨[], none⟩
  | c :: rest =>
    match Place.ofChars? (c :: rest) with
    | some place => ⟨[], some place⟩
    | none =>
      let failure := ofChars rest
      { failure with reason := c :: failure.reason }

def ofWords (words : String) : Failure := ofChars words.toList

def message (failure : Failure) : String :=
  match failure.place with
  | some place => String.ofList (failure.reason ++ if place.line = 0 then [] else place.write)
  | none => String.ofList failure.reason

end Failure

end AdmissionGate.Json

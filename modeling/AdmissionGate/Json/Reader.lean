import AdmissionGate.Json.Basic
import AdmissionGate.Text.Utf8

/-!
# Reading JSON

A text is one value with white space around it.  A reader takes a value off the front of a text and leaves the rest.
Reading goes down one level of arrays and objects at a time: the reader of a level is built from the reader of the level
inside it, and there are `depthLimit` levels, so a text that nests deeper is refused.

The loop over the items of an array, or the members of an object, is bounded by a number of rounds.  Each round takes off
at least one character, so the length of the whole text is bound enough for every loop in it.
-/

namespace AdmissionGate.Json

/-- A reader takes something off the front of a text. -/
abbrev Reader (α : Type) := List Char → Option (α × List Char)

/-- How many arrays and objects may be nested in each other. -/
def depthLimit : Nat := 127

/-- The white space of JSON. -/
def isSpace (c : Char) : Bool :=
  c == ' ' || c == '\t' || c == '\n' || c == '\r'

/-- The text from its first character that is no white space on. -/
def skipSpace (s : List Char) : List Char :=
  s.dropWhile isSpace

/-! ### Texts in quotes -/

/-- The value of a hexadecimal digit in either case. -/
def hexValue (c : Char) : Option Nat :=
  if '0' ≤ c ∧ c ≤ '9' then some (c.toNat - '0'.toNat)
  else if 'a' ≤ c ∧ c ≤ 'f' then some (c.toNat - 'a'.toNat + 10)
  else if 'A' ≤ c ∧ c ≤ 'F' then some (c.toNat - 'A'.toNat + 10)
  else none

def hexWord (a b c d : Char) : Option Nat := do
  let a ← hexValue a
  let b ← hexValue b
  let c ← hexValue c
  let d ← hexValue d
  return ((a * 16 + b) * 16 + c) * 16 + d

/-- Whether a word is the first half of a surrogate pair. -/
def isHighSurrogate (w : Nat) : Bool := 0xd800 ≤ w && w ≤ 0xdbff

/-- Whether a word is the second half of a surrogate pair. -/
def isLowSurrogate (w : Nat) : Bool := 0xdc00 ≤ w && w ≤ 0xdfff

/-- The character that a surrogate pair stands for. -/
def ofSurrogates (high low : Nat) : Char :=
  Char.ofNat (0x10000 + (high - 0xd800) * 0x400 + (low - 0xdc00))

/-- The character that a backslash and a letter stand for. -/
def shortEscape (c : Char) : Option Char :=
  match c with
  | '"' => some '"'
  | '\\' => some '\\'
  | '/' => some '/'
  | 'b' => some '\x08'
  | 'f' => some '\x0c'
  | 'n' => some '\n'
  | 'r' => some '\r'
  | 't' => some '\t'
  | _ => none

/-- Read the characters up to the closing quotation mark, on top of those already read, the last one first. -/
def readText (read : List Char) : Reader (List Char)
  | [] => none
  | '"' :: r => some (read.reverse, r)
  | '\\' :: 'u' :: a :: b :: c :: d :: r =>
    match hexWord a b c d with
    | none => none
    | some w =>
      if isHighSurrogate w then
        match r with
        | '\\' :: 'u' :: e :: f :: g :: h :: r =>
          match hexWord e f g h with
          | none => none
          | some v => if isLowSurrogate v then readText (ofSurrogates w v :: read) r else none
        | _ => none
      else if isLowSurrogate w then none
      else readText (Char.ofNat w :: read) r
  | '\\' :: c :: r =>
    match shortEscape c with
    | none => none
    | some c => readText (c :: read) r
  | c :: r => if c = '\\' ∨ c.toNat < 0x20 then none else readText (c :: read) r

/-! ### Numbers -/

/-- The sign of an exponent and the text after it. -/
def exponentSign : List Char → Bool × List Char
  | '+' :: r => (false, r)
  | '-' :: r => (true, r)
  | r => (false, r)

def readDigits (s : List Char) : Option (List Char × List Char) :=
  match s.takeWhile Char.isDigit with
  | [] => none
  | digits => some (digits, s.dropWhile Char.isDigit)

/-- Read the digits before the point: a zero on its own, or digits that do not start with one. -/
def readWhole : Reader (List Char)
  | '0' :: r => some (['0'], r)
  | s => readDigits s

/-- Read a point and the digits after it, if there is a point. -/
def readFraction : Reader (Option (List Char))
  | '.' :: r => (readDigits r).map fun (digits, r) => (some digits, r)
  | r => some (none, r)

def readExponent (s : List Char) : Option (Option Exponent × List Char) :=
  match s with
  | [] => some (none, [])
  | c :: r =>
    if c = 'e' ∨ c = 'E' then
      let (negative, r) := exponentSign r
      (readDigits r).map fun (digits, r) => (some ⟨negative, digits⟩, r)
    else some (none, s)

def readLiteral (s : List Char) : Option (Literal × List Char) := do
  let (negative, r) :=
    match s with
    | '-' :: r => (true, r)
    | r => (false, r)
  let (whole, r) ← readWhole r
  let (fraction, r) ← readFraction r
  let (exponent, r) ← readExponent r
  return (⟨negative, whole, fraction, exponent⟩, r)

/-- Read a number; a literal that no double can hold is none. -/
def readNumber (s : List Char) : Option (Number × List Char) := do
  let (literal, r) ← readLiteral s
  let n ← Number.ofLiteral literal
  return (n, r)

/-! ### Arrays and objects -/

/-- Read the items of an array that has one, up to its closing bracket. -/
def readItems (item : Reader Json) : Nat → List Json → Reader Json
  | 0, _, _ => none
  | rounds + 1, items, s =>
    match item s with
    | none => none
    | some (v, r) =>
      match skipSpace r with
      | ',' :: r => readItems item rounds (v :: items) r
      | ']' :: r => some (array (v :: items).reverse, r)
      | _ => none

/-- Read the members of an object that has one, up to its closing brace. -/
def readMembers (item : Reader Json) : Nat → Members Json → Reader Json
  | 0, _, _ => none
  | rounds + 1, members, s =>
    match skipSpace s with
    | '"' :: r =>
      match readText [] r with
      | none => none
      | some (name, r) =>
        match skipSpace r with
        | ':' :: r =>
          match item r with
          | none => none
          | some (v, r) =>
            let members := Members.insert (String.ofList name) v members
            match skipSpace r with
            | ',' :: r => readMembers item rounds members r
            | '\x7d' :: r => some (object members, r)
            | _ => none
        | _ => none
    | _ => none

/-! ### Values -/

/-- Read a value whose arrays and objects hold what `inner` reads; without `inner` there may be none. -/
def readLevel (rounds : Nat) (inner : Option (Reader Json)) (s : List Char) : Option (Json × List Char) :=
  match skipSpace s with
  | 'n' :: 'u' :: 'l' :: 'l' :: r => some (null, r)
  | 't' :: 'r' :: 'u' :: 'e' :: r => some (bool true, r)
  | 'f' :: 'a' :: 'l' :: 's' :: 'e' :: r => some (bool false, r)
  | '"' :: r => (readText [] r).map fun (text, r) => (string (String.ofList text), r)
  | '[' :: r =>
    match inner with
    | none => none
    | some item =>
      match skipSpace r with
      | ']' :: r => some (array [], r)
      | r => readItems item rounds [] r
  | '\x7b' :: r =>
    match inner with
    | none => none
    | some item =>
      match skipSpace r with
      | '\x7d' :: r => some (object [], r)
      | r => readMembers item rounds [] r
  | r => (readNumber r).map fun (n, r) => (number n, r)

/-- Read a value that nests arrays and objects at most so deep. -/
def readValue (rounds : Nat) : Nat → Reader Json
  | 0 => readLevel rounds none
  | depth + 1 => readLevel rounds (some (readValue rounds depth))

/-- The value that a text denotes, if it denotes one. -/
def read (s : List Char) : Option Json :=
  match readValue s.length depthLimit s with
  | some (v, r) => if skipSpace r = [] then some v else none
  | none => none

/-- The value that some octets denote: they must be the UTF-8 form of a text that denotes one. -/
def parse (octets : List UInt8) : Option Json :=
  (Text.Utf8.decode octets).bind read

end AdmissionGate.Json

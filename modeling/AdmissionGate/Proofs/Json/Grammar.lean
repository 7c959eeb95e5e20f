import AdmissionGate.Json.Reader
import AdmissionGate.Text.Utf8

/-!
# The grammar of JSON

Which texts spell which values, as RFC 8259 has it, and without the reader.

Between a text and the value that it denotes stands the value as it is written: its members in the order of the text, with
every repetition, and its numbers as literals.  White space and escapes are gone from it, so one written value has many
texts.  What it denotes is a function of it, and so are the depth to which it nests and the literals in it.
-/

namespace AdmissionGate.Json

/-- A value as it is written. -/
inductive Written where
  | null
  | bool (b : Bool)
  | number (l : Literal)
  | string (s : String)
  | array (items : List Written)
  | object (members : List (String × Written))

/-! ### White space -/

def Blank (s : List Char) : Prop :=
  ∀ c ∈ s, c = ' ' ∨ c = '\t' ∨ c = '\n' ∨ c = '\r'

/-! ### Number literals -/

/-- At least one digit, and nothing else. -/
def IsDigits (s : List Char) : Prop :=
  s ≠ [] ∧ ∀ c ∈ s, c.isDigit = true

/-- The digits before the point: a zero on its own, or digits that do not start with one. -/
def IsWhole (s : List Char) : Prop :=
  s = ['0'] ∨ (IsDigits s ∧ s.head? ≠ some '0')

/-- A point and digits, or nothing. -/
inductive SpellsFraction : List Char → Option (List Char) → Prop where
  | absent : SpellsFraction [] none
  | digits {ds : List Char} : IsDigits ds → SpellsFraction ('.' :: ds) (some ds)

/-- The letter that opens an exponent, in either case. -/
def IsExponentMark (c : Char) : Prop :=
  c = 'e' ∨ c = 'E'

/-- An exponent with or without a sign, or nothing. -/
inductive SpellsExponent : List Char → Option Exponent → Prop where
  | absent : SpellsExponent [] none
  | unsigned {mark : Char} {ds : List Char} :
      IsExponentMark mark → IsDigits ds → SpellsExponent (mark :: ds) (some ⟨false, ds⟩)
  | plus {mark : Char} {ds : List Char} :
      IsExponentMark mark → IsDigits ds → SpellsExponent (mark :: '+' :: ds) (some ⟨false, ds⟩)
  | minus {mark : Char} {ds : List Char} :
      IsExponentMark mark → IsDigits ds → SpellsExponent (mark :: '-' :: ds) (some ⟨true, ds⟩)

/-- A number literal and its parts. -/
inductive SpellsLiteral : List Char → Literal → Prop where
  | positive {w f e : List Char} {fraction : Option (List Char)} {exponent : Option Exponent} :
      IsWhole w → SpellsFraction f fraction → SpellsExponent e exponent →
      SpellsLiteral (w ++ (f ++ e)) ⟨false, w, fraction, exponent⟩
  | negative {w f e : List Char} {fraction : Option (List Char)} {exponent : Option Exponent} :
      IsWhole w → SpellsFraction f fraction → SpellsExponent e exponent →
      SpellsLiteral ('-' :: (w ++ (f ++ e))) ⟨true, w, fraction, exponent⟩

/-! ### Texts in quotes -/

/-- A hexadecimal digit in either case and its value. -/
inductive SpellsHexDigit : Char → Nat → Prop where
  | decimal {c : Char} : '0' ≤ c → c ≤ '9' → SpellsHexDigit c (c.toNat - '0'.toNat)
  | lower {c : Char} : 'a' ≤ c → c ≤ 'f' → SpellsHexDigit c (c.toNat - 'a'.toNat + 10)
  | upper {c : Char} : 'A' ≤ c → c ≤ 'F' → SpellsHexDigit c (c.toNat - 'A'.toNat + 10)

/-- Four hexadecimal digits and the word of 16 bits that they spell. -/
inductive SpellsWord : List Char → Nat → Prop where
  | digits {a b c d : Char} {i j k l : Nat} :
      SpellsHexDigit a i → SpellsHexDigit b j → SpellsHexDigit c k → SpellsHexDigit d l →
      SpellsWord [a, b, c, d] (((i * 16 + j) * 16 + k) * 16 + l)

/-- The letters that may follow a backslash, and what they stand for. -/
def shortEscapes : List (Char × Char) :=
  [('"', '"'), ('\\', '\\'), ('/', '/'), ('b', '\x08'), ('f', '\x0c'), ('n', '\n'), ('r', '\r'), ('t', '\t')]

/-- How a character may be spelled between quotation marks.  A character above U+FFFF takes two words of 16 bits, the two
    halves of its surrogate pair; as no character is a surrogate, no single half spells one. -/
inductive SpellsChar : List Char → Char → Prop where
  | plain {c : Char} : c ≠ '"' → c ≠ '\\' → 0x20 ≤ c.toNat → SpellsChar [c] c
  | short {letter c : Char} : (letter, c) ∈ shortEscapes → SpellsChar ['\\', letter] c
  | word {w : List Char} {c : Char} : SpellsWord w c.toNat → SpellsChar ('\\' :: 'u' :: w) c
  | pair {high low : List Char} {c : Char} :
      0x10000 ≤ c.toNat →
      SpellsWord high (0xd800 + (c.toNat - 0x10000) / 0x400) →
      SpellsWord low (0xdc00 + (c.toNat - 0x10000) % 0x400) →
      SpellsChar ('\\' :: 'u' :: (high ++ '\\' :: 'u' :: low)) c

inductive SpellsChars : List Char → List Char → Prop where
  | nil : SpellsChars [] []
  | cons {s t : List Char} {c : Char} {cs : List Char} :
      SpellsChar s c → SpellsChars t cs → SpellsChars (s ++ t) (c :: cs)

inductive Quotes : List Char → String → Prop where
  | marks {s cs : List Char} : SpellsChars s cs → Quotes ('"' :: (s ++ ['"'])) (String.ofList cs)

/-! ### Values -/

mutual

/-- The texts of a value, without white space around them. -/
inductive Spells : List Char → Written → Prop where
  | null : Spells ['n', 'u', 'l', 'l'] .null
  | yes : Spells ['t', 'r', 'u', 'e'] (.bool true)
  | no : Spells ['f', 'a', 'l', 's', 'e'] (.bool false)
  | number {s : List Char} {l : Literal} : SpellsLiteral s l → Spells s (.number l)
  | string {s : List Char} {text : String} : Quotes s text → Spells s (.string text)
  | emptyArray {gap : List Char} : Blank gap → Spells ('[' :: (gap ++ [']'])) (.array [])
  | array {s : List Char} {item : Written} {items : List Written} :
      SpellsItems s (item :: items) → Spells ('[' :: (s ++ [']'])) (.array (item :: items))
  | emptyObject {gap : List Char} : Blank gap → Spells ('\x7b' :: (gap ++ ['\x7d'])) (.object [])
  | object {s : List Char} {member : String × Written} {members : List (String × Written)} :
      SpellsMembers s (member :: members) → Spells ('\x7b' :: (s ++ ['\x7d'])) (.object (member :: members))

/-- The texts of a value, with white space around them. -/
inductive Padded : List Char → Written → Prop where
  | around {before s after : List Char} {w : Written} :
      Blank before → Spells s w → Blank after → Padded (before ++ (s ++ after)) w

/-- The texts of some items with commas between them. -/
inductive SpellsItems : List Char → List Written → Prop where
  | last {s : List Char} {item : Written} : Padded s item → SpellsItems s [item]
  | more {s t : List Char} {item next : Written} {items : List Written} :
      Padded s item → SpellsItems t (next :: items) → SpellsItems (s ++ ',' :: t) (item :: next :: items)

/-- The texts of some members with commas between them. -/
inductive SpellsMembers : List Char → List (String × Written) → Prop where
  | last {s : List Char} {member : String × Written} : SpellsMember s member → SpellsMembers s [member]
  | more {s t : List Char} {member next : String × Written} {members : List (String × Written)} :
      SpellsMember s member → SpellsMembers t (next :: members) →
      SpellsMembers (s ++ ',' :: t) (member :: next :: members)

/-- The texts of a member: its name, a colon and its value. -/
inductive SpellsMember : List Char → String × Written → Prop where
  | pair {before s gap t : List Char} {name : String} {w : Written} :
      Blank before → Quotes s name → Blank gap → Padded t w →
      SpellsMember (before ++ (s ++ (gap ++ ':' :: t))) (name, w)

end

/-! ### What is read off a written value -/

/-- The number that a literal stands for; a literal out of range stands for none, and what is given for it does not matter. -/
def Literal.number (l : Literal) : Number :=
  (Number.ofLiteral l).getD (.whole 0)

namespace Written

mutual

/-- The value that is denoted: of several members with one name the last one counts. -/
def value : Written → Json
  | null => .null
  | bool b => .bool b
  | number l => .number l.number
  | string s => .string s
  | array items => .array (itemValues items)
  | object members => .ofPairs (memberValues members)

def itemValues : List Written → List Json
  | [] => []
  | item :: items => item.value :: itemValues items

def memberValues : List (String × Written) → List (String × Json)
  | [] => []
  | (name, w) :: members => (name, w.value) :: memberValues members

end

mutual

/-- How many arrays and objects are nested in each other. -/
def depth : Written → Nat
  | null | bool _ | number _ | string _ => 0
  | array items => itemsDepth items + 1
  | object members => membersDepth members + 1

def itemsDepth : List Written → Nat
  | [] => 0
  | item :: items => max item.depth (itemsDepth items)

def membersDepth : List (String × Written) → Nat
  | [] => 0
  | (_, w) :: members => max w.depth (membersDepth members)

end

mutual

/-- The number literals, in the order of the text. -/
def literals : Written → List Literal
  | null | bool _ | string _ => []
  | number l => [l]
  | array items => itemLiterals items
  | object members => memberLiterals members

def itemLiterals : List Written → List Literal
  | [] => []
  | item :: items => item.literals ++ itemLiterals items

def memberLiterals : List (String × Written) → List Literal
  | [] => []
  | (_, w) :: members => w.literals ++ memberLiterals members

end

end Written

/-! ### Numbers in range -/

/-- The power of ten by which the significand of a literal is multiplied. -/
def Literal.pointShift (l : Literal) : Int :=
  (Number.Significand.ofLiteral l).exponent + (l.exponent.map Exponent.value).getD 0

/-- Whether a literal stands for a finite number: for a whole number of 64 bits, or for a double.  The double is that of the
    reader's default conversion, the significand rounded and then multiplied by a power of ten, and not the double nearest to
    the literal: `1.7976931348623158e308` is refused, although the nearest one is finite.  Division never leads out of range,
    zero stays zero, and powers of ten beyond the range of doubles lead out of range. -/
def Literal.IsFinite (l : Literal) : Prop :=
  let significand := Float.ofNat (Number.Significand.ofLiteral l).value
  (Number.wholeOf l).isSome ∨ l.pointShift < 0 ∨ (significand == 0) = true ∨
    (l.pointShift ≤ Number.greatestPower ∧ (significand * Number.powerOfTen l.pointShift.toNat).isInf = false)

/-- Whether every number is finite. -/
def Written.IsFinite (w : Written) : Prop :=
  ∀ l ∈ w.literals, l.IsFinite

/-! ### Texts as octets -/

/-- Whether some octets are a text of JSON: UTF-8, one value with white space around it, nested to at most 127 levels, and
    every number in it finite. -/
def IsTextOf (octets : List UInt8) (w : Written) : Prop :=
  (∃ s, octets = Text.Utf8.encode s ∧ Padded s w) ∧ w.depth ≤ 127 ∧ w.IsFinite

end AdmissionGate.Json

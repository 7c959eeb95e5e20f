import AdmissionGate.Tls.Octets

/-!
# Elements of DER

An element is a tag, a length and a content.  Tags have one octet, and lengths stand in as few octets as they need.
-/

namespace AdmissionGate.Tls.Der

/-- A reader takes something off the front of some octets. -/
abbrev Reader (α : Type) := List UInt8 → Option (α × List UInt8)

/-- A tag and a content. -/
structure Element where
  tag : UInt8
  content : List UInt8
deriving DecidableEq, Repr

def booleanTag : UInt8 := 0x01

def integerTag : UInt8 := 0x02

def bitStringTag : UInt8 := 0x03

def octetStringTag : UInt8 := 0x04

def nullTag : UInt8 := 0x05

def identifierTag : UInt8 := 0x06

def sequenceTag : UInt8 := 0x30

/-- The tag of a part of a sequence that has a number of its own and holds elements. -/
def partTag (n : UInt8) : UInt8 := 0xa0 + n

/-- The tag of a part of a sequence that has a number of its own and holds plain octets. -/
def plainPartTag (n : UInt8) : UInt8 := 0x80 + n

/-- How many octets a length has at most behind the one that counts them. -/
def longestLength : Nat := 4

/-- Read a length: one octet below 128, or an octet that counts those in which the length stands. -/
def readLength : Reader Nat
  | [] => none
  | b :: r =>
    if b < 0x80 then some (b.toNat, r)
    else
      let count := b.toNat - 0x80
      if count = 0 ∨ longestLength < count ∨ r.length < count then none
      else
        let n := Octets.natural (r.take count)
        if n < 0x80 ∨ n < Nat.pow 256 (count - 1) then none else some (n, r.drop count)

def readElement : Reader Element
  | [] => none
  | tag :: r =>
    if tag &&& 0x1f = 0x1f then none
    else
      match readLength r with
      | none => none
      | some (n, r) => if r.length < n then none else some (⟨tag, r.take n⟩, r.drop n)

/-- Read the content of an element with some tag. -/
def readContent (tag : UInt8) : Reader (List UInt8) := fun s =>
  match readElement s with
  | some (e, r) => if e.tag = tag then some (e.content, r) else none
  | none => none

/-- Read the content of an element with some tag, if the next element has it. -/
def readOptional (tag : UInt8) : Reader (Option (List UInt8))
  | [] => some (none, [])
  | b :: r => if b = tag then (readContent tag (b :: r)).map fun (content, r) => (some content, r) else some (none, b :: r)

/-- The content of the only element, if it has some tag. -/
def only (tag : UInt8) (s : List UInt8) : Option (List UInt8) :=
  match readContent tag s with
  | some (content, []) => some content
  | _ => none

/-- The octets in a string of bits that fills them. -/
def wholeOctets : List UInt8 → Option (List UInt8)
  | 0 :: octets => some octets
  | _ => none

/-! ### Numbers -/

/-- Numbers are told apart up to here; no key has a greater one. -/
def greatestNatural : Nat := Nat.pow 2 8192

/-- The whole number in the content of an element, if it is not negative and has no superfluous octet. -/
def naturalOf? : List UInt8 → Option Nat
  | [] => none
  | [b] => if b < 0x80 then some b.toNat else none
  | b :: c :: rest =>
    if 0x80 ≤ b ∨ (b = 0 ∧ c < 0x80) then none
    else some (Octets.naturalUpTo greatestNatural (b :: c :: rest))

def readNatural : Reader Nat := fun s =>
  match readContent integerTag s with
  | some (content, r) => (naturalOf? content).map fun n => (n, r)
  | none => none

/-- The content of a whole number: as few octets as leave the highest bit clear. -/
def naturalContent (n : Nat) : List UInt8 := Octets.ofNatural n (Octets.bitLength n / 8 + 1)

/-! ### Writing -/

def writeLength (n : Nat) : List UInt8 :=
  if n < 0x80 then [UInt8.ofNat n]
  else
    let count := (Octets.bitLength n + 7) / 8
    UInt8.ofNat (0x80 + count) :: Octets.ofNatural n count

def write (tag : UInt8) (content : List UInt8) : List UInt8 :=
  tag :: (writeLength content.length ++ content)

end AdmissionGate.Tls.Der

import AdmissionGate.Tls.Octets

/-!
# Base64

Six bits for each symbol, read in blocks of eight symbols.  White space between the symbols does not count.  Padding may
stand only where the text ends: one or two padding symbols fill its last four symbols up, or are left out.  Bits that fill
no octet are dropped.

The padding of a block is looked at when the symbol behind the block or the end of the text is met, so that an octet that
is no symbol is blamed first if it comes at that place.
-/

namespace AdmissionGate.Tls.Base64

/-- Why some octets are not base64. -/
inductive DecodeError where
  | invalidCharacter (octet : UInt8)
  /-- Padding in front of other symbols. -/
  | prematurePadding
  /-- Padding that does not fill the last four symbols up, or a symbol alone. -/
  | invalidTrailingPadding
deriving DecidableEq, Repr

namespace DecodeError

def message : DecodeError → String
  | invalidCharacter octet => "InvalidCharacter(" ++ toString octet.toNat ++ ")"
  | prematurePadding => "PrematurePadding"
  | invalidTrailingPadding => "InvalidTrailingPadding"

end DecodeError

/-- What an octet stands for. -/
inductive Symbol where
  | value (n : Nat)
  | padding
  | blank
deriving DecidableEq, Repr

/-- The symbol that an octet stands for, if it stands for one. -/
def symbol? (b : UInt8) : Option Symbol :=
  if 'A'.toUInt8 ≤ b ∧ b ≤ 'Z'.toUInt8 then some (.value (b.toNat - 'A'.toNat))
  else if 'a'.toUInt8 ≤ b ∧ b ≤ 'z'.toUInt8 then some (.value (b.toNat - 'a'.toNat + 26))
  else if '0'.toUInt8 ≤ b ∧ b ≤ '9'.toUInt8 then some (.value (b.toNat - '0'.toNat + 52))
  else if b = '+'.toUInt8 then some (.value 62)
  else if b = '/'.toUInt8 then some (.value 63)
  else if b = '='.toUInt8 then some .padding
  else if (9 ≤ b ∧ b ≤ 13) ∨ b = 32 then some .blank
  else none

def blockLength : Nat := 8

/-- The octets that six bits each of some numbers fill. -/
def octetsOfValues (values : List Nat) : List UInt8 :=
  let bits := values.foldl (fun bits n => bits * 64 + n) 0
  let count := values.length * 6 / 8
  Octets.ofNatural (bits / Nat.pow 2 (values.length * 6 - count * 8)) count

/-- The number that a symbol stands for, if it is no padding. -/
def Symbol.value? : Symbol → Option Nat
  | value n => some n
  | _ => none

def unpadded (symbols : List Symbol) : Except DecodeError (List UInt8) :=
  match symbols.mapM Symbol.value? with
  | some values => .ok (octetsOfValues values)
  | none => .error .prematurePadding

/-- The octets of the last symbols, at most four. -/
def lastSymbols : List Symbol → Except DecodeError (List UInt8)
  | [] => .ok []
  | [.value a, .value b] | [.value a, .value b, .padding, .padding] => .ok (octetsOfValues [a, b])
  | [.value a, .value b, .value c] | [.value a, .value b, .value c, .padding] => .ok (octetsOfValues [a, b, c])
  | [.value a, .value b, .value c, .value d] => .ok (octetsOfValues [a, b, c, d])
  | _ => .error .invalidTrailingPadding

def lastBlock (symbols : List Symbol) : Except DecodeError (List UInt8) :=
  if symbols.length ≤ 4 then lastSymbols symbols
  else
    match unpadded (symbols.take 4) with
    | .error e => .error e
    | .ok octets => (lastSymbols (symbols.drop 4)).map (octets ++ ·)

/-- Decode octets behind the symbols of an open block, the last one first. -/
def decodeFrom (opened : List Symbol) : List UInt8 → Except DecodeError (List UInt8)
  | [] => lastBlock opened.reverse
  | b :: rest =>
    match symbol? b with
    | none => .error (.invalidCharacter b)
    | some .blank => decodeFrom opened rest
    | some s =>
      if opened.length < blockLength then decodeFrom (s :: opened) rest
      else
        match unpadded opened.reverse with
        | .error e => .error e
        | .ok octets => (decodeFrom [s] rest).map (octets ++ ·)

def decode (octets : List UInt8) : Except DecodeError (List UInt8) :=
  decodeFrom [] octets

end AdmissionGate.Tls.Base64

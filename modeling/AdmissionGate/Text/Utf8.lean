/-!
# UTF-8

Octets and characters.  `encode` writes each character in its one to four octets.  `decode` is a fold over the octets: it
keeps the characters read so far and, inside a character, how many octets are still owed and between which bounds the next
one must lie.  The bounds rule out overlong forms, surrogates and code points above U+10FFFF.

`decodeLossy` never fails: each longest run of octets that cannot be continued to a character becomes U+FFFD.
-/

namespace AdmissionGate.Text.Utf8

def encode (cs : List Char) : List UInt8 :=
  cs.flatMap String.utf8EncodeChar

/-- A character whose first octets have been read. -/
structure Pending where
  /-- The bits read so far. -/
  value : Nat
  /-- How many octets are still owed. -/
  owed : Nat
  /-- The next octet is at least this. -/
  low : UInt8
  /-- The next octet is at most this. -/
  high : UInt8
deriving DecidableEq, Repr

/-- What an octet that opens a character of several octets announces. -/
def Pending.ofLeading (b : UInt8) : Option Pending :=
  if 0xc2 ≤ b ∧ b ≤ 0xdf then some ⟨b.toNat - 0xc0, 1, 0x80, 0xbf⟩
  else if b = 0xe0 then some ⟨0, 2, 0xa0, 0xbf⟩
  else if b = 0xed then some ⟨0xd, 2, 0x80, 0x9f⟩
  else if 0xe1 ≤ b ∧ b ≤ 0xef then some ⟨b.toNat - 0xe0, 2, 0x80, 0xbf⟩
  else if b = 0xf0 then some ⟨0, 3, 0x90, 0xbf⟩
  else if 0xf1 ≤ b ∧ b ≤ 0xf3 then some ⟨b.toNat - 0xf0, 3, 0x80, 0xbf⟩
  else if b = 0xf4 then some ⟨4, 3, 0x80, 0x8f⟩
  else none

/-- How far a text has been read. -/
structure Progress where
  /-- The characters read, the last one first. -/
  done : List Char
  /-- The character that is open, if one is. -/
  pending : Option Pending
deriving DecidableEq, Repr

def Progress.start : Progress := ⟨[], none⟩

def Progress.step (p : Progress) (b : UInt8) : Option Progress :=
  match p.pending with
  | none =>
    if b < 0x80 then some ⟨Char.ofNat b.toNat :: p.done, none⟩
    else (Pending.ofLeading b).map fun q => ⟨p.done, some q⟩
  | some q =>
    if q.low ≤ b ∧ b ≤ q.high then
      let value := q.value * 64 + (b.toNat - 0x80)
      if q.owed ≤ 1 then some ⟨Char.ofNat value :: p.done, none⟩
      else some ⟨p.done, some ⟨value, q.owed - 1, 0x80, 0xbf⟩⟩
    else none

/-- The text that some octets spell, if they spell one. -/
def decode (bs : List UInt8) : Option (List Char) :=
  match bs.foldlM Progress.step Progress.start with
  | some ⟨done, none⟩ => some done.reverse
  | _ => none

/-- The character that stands for octets that spell none. -/
def replacement : Char := Char.ofNat 0xfffd

/-- Read one more octet, giving up on an open character that it does not continue. -/
def Progress.lossyStep (p : Progress) (b : UInt8) : Progress :=
  match p.step b with
  | some next => next
  | none =>
    match p.pending with
    | none => ⟨replacement :: p.done, none⟩
    | some _ =>
      let closed : Progress := ⟨replacement :: p.done, none⟩
      (closed.step b).getD ⟨replacement :: closed.done, none⟩

/-- The text that some octets spell, with U+FFFD where they spell none. -/
def decodeLossy (bs : List UInt8) : List Char :=
  let read := bs.foldl Progress.lossyStep Progress.start
  match read.pending with
  | none => read.done.reverse
  | some _ => (replacement :: read.done).reverse

end AdmissionGate.Text.Utf8

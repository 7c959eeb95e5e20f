import AdmissionGate.Tls.Octets

/-!
# Digests

The digest of 512 bits of some octets.  The octets are filled up to whole blocks, and each block is stirred into eight
words in eighty rounds.

The words that the rounds add, and those with which the first block starts, are bits behind the point of roots of the first
primes, so nothing could be hidden in their choice.
-/

namespace AdmissionGate.Tls.Digest

/-! ### The constants -/

def isPrime (n : Nat) : Bool :=
  decide (1 < n) && (List.range n).all fun d => d < 2 || n % d != 0

def primes : List Nat := (List.range 410).filter isPrime

/-- The greatest number of at most `bits` bits whose power is at most `n`. -/
def root (bits exponent n : Nat) : Nat :=
  (List.range bits).reverse.foldl
    (fun r k =>
      let next := r + Nat.pow 2 k
      if Nat.pow next exponent ≤ n then next else r)
    0

/-- The first 64 bits behind the point of a root. -/
def rootBits (exponent n : Nat) : UInt64 :=
  UInt64.ofNat (root 72 exponent (n * Nat.pow 2 (64 * exponent)))

def roundWords : List UInt64 := primes.map (rootBits 3)

/-! ### Blocks -/

def blockLength : Nat := 128

/-- How many octets the length takes at the end of the last block. -/
def lengthOctets : Nat := 16

/-- Octets filled up to whole blocks: a bit that is set, bits that are not, and the number of bits. -/
def padded (octets : List UInt8) : List UInt8 :=
  let used := octets.length + 1 + lengthOctets
  octets ++ 0x80 :: List.replicate ((blockLength - used % blockLength) % blockLength) 0
    ++ Octets.ofNatural (8 * octets.length) lengthOctets

/-- As many words as asked for, from the front of some octets. -/
def words (octets : List UInt8) : Nat → List UInt64
  | 0 => []
  | count + 1 => UInt64.ofNat (Octets.natural (octets.take 8)) :: words (octets.drop 8) count

/-! ### Stirring -/

/-- The eight words. -/
structure State where
  a : UInt64
  b : UInt64
  c : UInt64
  d : UInt64
  e : UInt64
  f : UInt64
  g : UInt64
  h : UInt64
deriving DecidableEq, Repr

/-- The words with which the first block starts. -/
def State.first : State where
  a := rootBits 2 2
  b := rootBits 2 3
  c := rootBits 2 5
  d := rootBits 2 7
  e := rootBits 2 11
  f := rootBits 2 13
  g := rootBits 2 17
  h := rootBits 2 19

def State.words (s : State) : List UInt64 := [s.a, s.b, s.c, s.d, s.e, s.f, s.g, s.h]

def State.add (s t : State) : State :=
  ⟨s.a + t.a, s.b + t.b, s.c + t.c, s.d + t.d, s.e + t.e, s.f + t.f, s.g + t.g, s.h + t.h⟩

def turned (w : UInt64) (n : UInt64) : UInt64 := (w >>> n) ||| (w <<< (64 - n))

/-- One round with the word that it adds and the word of the block. -/
def State.round (s : State) (added word : UInt64) : State :=
  let choice := (s.e &&& s.f) ^^^ (~~~s.e &&& s.g)
  let majority := (s.a &&& s.b) ^^^ (s.a &&& s.c) ^^^ (s.b &&& s.c)
  let first := s.h + (turned s.e 14 ^^^ turned s.e 18 ^^^ turned s.e 41) + choice + added + word
  let second := (turned s.a 28 ^^^ turned s.a 34 ^^^ turned s.a 39) + majority
  ⟨first + second, s.a, s.b, s.c, s.d + first, s.e, s.f, s.g⟩

/-- The word that follows sixteen words. -/
def nextWord (window : List UInt64) : UInt64 :=
  let word := fun k => window.getD k 0
  let late := turned (word 14) 19 ^^^ turned (word 14) 61 ^^^ (word 14 >>> 6)
  let early := turned (word 1) 1 ^^^ turned (word 1) 8 ^^^ (word 1 >>> 7)
  late + word 9 + early + word 0

/-- All rounds of a block that begins with sixteen words. -/
def State.rounds (s : State) (window : List UInt64) : State :=
  (roundWords.foldl
    (fun (s, window) added => (s.round added (window.getD 0 0), window.tail ++ [nextWord window]))
    (s, window)).1

def State.blocks (s : State) (octets : List UInt8) : Nat → State
  | 0 => s
  | count + 1 => (s.add (s.rounds (Digest.words octets 16))).blocks (octets.drop blockLength) count

def ofOctets (octets : List UInt8) : List UInt8 :=
  let filled := padded octets
  (State.first.blocks filled (filled.length / blockLength)).words.flatMap fun w => Octets.ofNatural w.toNat 8

end AdmissionGate.Tls.Digest

import AdmissionGate.Tls.CurveParameters
import AdmissionGate.Tls.Edwards
import AdmissionGate.Tls.Pem
import AdmissionGate.Tls.RsaKey

/-!
# Private keys

A private key can be used if its parts fit each other, and then it determines its public key.  The public key is put into
the form in which a certificate shows it, so that the two can be compared octet by octet.

A key stands alone, or in an envelope that names its algorithm.  Octets behind a key or its envelope are passed over, but
nothing may stand in the envelope that has no place there.
-/

namespace AdmissionGate.Tls.PrivateKey

open Der

def rsaIdentifier : List UInt8 := [0x2a, 0x86, 0x48, 0x86, 0xf7, 0x0d, 0x01, 0x01, 0x01]

/-- The identifiers that an envelope may give an RSA key: the usual one, one from an older directory standard, and that of
    keys for encryption. -/
def rsaIdentifiers : List (List UInt8) :=
  [rsaIdentifier, [0x55, 0x08, 0x01, 0x01], [0x2a, 0x86, 0x48, 0x86, 0xf7, 0x0d, 0x01, 0x01, 0x07]]

def curveKeyIdentifier : List UInt8 := [0x2a, 0x86, 0x48, 0xce, 0x3d, 0x02, 0x01]

/-- The parameters of RSA keys: none. -/
def rsaParameters : List UInt8 := write nullTag []

/-- A public key as a certificate shows it: the algorithm and the key. -/
def publicKeyInfo (algorithm key : List UInt8) : List UInt8 :=
  write sequenceTag algorithm ++ write bitStringTag (0 :: key)

/-! ### Keys alone -/

/-- The public key of an RSA key, from its content. -/
def ofRsa? (content : List UInt8) : Option (List UInt8) := do
  let key ← RsaKey.read? content
  if key.isSound then some (publicKeyInfo (write identifierTag rsaIdentifier ++ rsaParameters) key.writePublic)
  else none

/-- The public point that a key on a curve shows, from the part of the key that holds it. -/
def shownPoint? (curve : Curve) (part : List UInt8) : Option Point := do
  let bits ← only bitStringTag part
  let octets ← wholeOctets bits
  curve.read? octets

/-- The public key of a key on a curve, from its content.  The key may name its curve once more and may show its public
    point; both must be right. -/
def ofCurve? (curve : Curve) (content : List UInt8) : Option (List UInt8) := do
  let (version, s) ← readNatural content
  if version ≠ 1 then none
  let (secret, s) ← readContent octetStringTag s
  let (named, s) ← readOptional (partTag 0) s
  if named.any fun parameters => Curve.ofParameters? parameters ≠ some curve then none
  let (shown, s) ← readOptional (partTag 1) s
  if s ≠ [] then none
  let point ← curve.publicPoint? (Octets.naturalUpTo curve.order secret)
  if shown.any fun part => shownPoint? curve part ≠ some point then none
  return publicKeyInfo (write identifierTag curveKeyIdentifier ++ write identifierTag curve.identifier)
    (curve.write point)

/-! ### Keys in an envelope -/

/-- A key with its algorithm. -/
structure Envelope where
  algorithm : List UInt8
  parameters : List UInt8
  key : List UInt8
  /-- The public key that stands beside the key, as a string of bits. -/
  shown : Option (List UInt8)
deriving DecidableEq, Repr

/-- Open an envelope.  Attributes behind the key are passed over, and only an envelope of the second version may show the
    public key behind them. -/
def Envelope.read? (der : List UInt8) : Option Envelope := do
  let (content, _) ← readContent sequenceTag der
  let (version, s) ← readNatural content
  if 1 < version then none
  let (named, s) ← readContent sequenceTag s
  let (algorithm, parameters) ← readContent identifierTag named
  let (key, s) ← readContent octetStringTag s
  let (_attributes, s) ← readOptional (partTag 0) s
  let (shown, s) ← readOptional (plainPartTag 1) s
  if s ≠ [] ∨ (version = 0 ∧ shown.isSome) then none
  return { algorithm, parameters, key, shown }

/-- The public key of the RSA key in an envelope, which must not show it. -/
def Envelope.ofRsa? (envelope : Envelope) : Option (List UInt8) := do
  if envelope.algorithm ∉ rsaIdentifiers ∨ envelope.parameters ≠ rsaParameters ∨ envelope.shown.isSome then none
  let content ← only sequenceTag envelope.key
  PrivateKey.ofRsa? content

/-- The public key of the key on a curve in an envelope, which must not show it. -/
def Envelope.ofCurve? (envelope : Envelope) : Option (List UInt8) := do
  if envelope.algorithm ≠ curveKeyIdentifier ∨ envelope.shown.isSome then none
  let curve ← Curve.ofParameters? envelope.parameters
  let content ← only sequenceTag envelope.key
  PrivateKey.ofCurve? curve content

/-- The public key of the key on the curve of Edwards in an envelope.  If the envelope shows it, it must be right. -/
def Envelope.ofEdwards? (envelope : Envelope) : Option (List UInt8) := do
  if envelope.algorithm ≠ Edwards.identifier ∨ envelope.parameters ≠ [] then none
  let secret ← only octetStringTag envelope.key
  if secret.length ≠ Edwards.keyLength then none
  let key := Edwards.publicKey secret
  if envelope.shown.any fun bits => bits ≠ 0 :: key then none
  return publicKeyInfo (write identifierTag Edwards.identifier) key

/-! ### Keys in a section -/

/-- The public key that belongs to the key in a section, if the key can be used. -/
def publicKey? (key : Pem.Section) : Option (List UInt8) :=
  match key.kind with
  | .rsaPrivateKey => (readContent sequenceTag key.content).bind fun (content, _) => ofRsa? content
  | .ecPrivateKey =>
    (Envelope.read? key.content).bind Envelope.ofCurve? <|>
      (readContent sequenceTag key.content).bind fun (content, _) =>
        Curve.all.findSome? fun curve => ofCurve? curve content
  | .privateKey =>
    (Envelope.read? key.content).bind fun envelope => envelope.ofRsa? <|> envelope.ofCurve? <|> envelope.ofEdwards?
  | _ => none

end AdmissionGate.Tls.PrivateKey

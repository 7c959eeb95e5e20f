import AdmissionGate.Tls.Der

/-!
# Certificates

Of a certificate only its shape and its public key matter here.  Names and dates are not looked at, and nothing is
verified.

The shape is checked in order: the certificate as a whole, its version, the algorithm of its signature, which it names
twice, and its extensions one after another.  Six extensions are known; each may occur once.  An unknown one must not be
critical.
-/

namespace AdmissionGate.Tls

open Der

/-- What is wrong with a certificate. -/
inductive CertificateError where
  | badEncoding
  | unsupportedVersion
  /-- The two places that name the algorithm of the signature differ. -/
  | algorithmMismatch
  | repeatedExtension
  | unknownCriticalExtension
deriving DecidableEq, Repr

def CertificateError.message : CertificateError → String
  | badEncoding => "BadEncoding"
  | unsupportedVersion => "Other(OtherError(UnsupportedCertVersion))"
  | algorithmMismatch => "Other(OtherError(SignatureAlgorithmMismatch))"
  | repeatedExtension => "Other(OtherError(ExtensionValueInvalid))"
  | unknownCriticalExtension => "Other(OtherError(UnsupportedCriticalExtension))"

namespace Certificate

/-- A reader of certificates takes something off the front of some octets or says what is wrong. -/
abbrev CheckedReader (α : Type) := List UInt8 → Except CertificateError (α × List UInt8)

def required {α : Type} : Option α → Except CertificateError α
  | some a => .ok a
  | none => .error .badEncoding

/-- Read the content of an element with some tag. -/
def readPart (tag : UInt8) : CheckedReader (List UInt8) := fun s => required (readContent tag s)

/-- Refuse octets that are left over. -/
def atEnd (s : List UInt8) : Except CertificateError Unit :=
  if s = [] then .ok () else .error .badEncoding

/-! ### Extensions -/

/-- What the identifiers of the standard extensions begin with. -/
def extensionArc : List UInt8 := [0x55, 0x1d]

/-- The number of the extension that says what the key may be used for.  Its value may be anything. -/
def keyUsage : UInt8 := 15

/-- The numbers of the known extensions: what the key may be used for, other names of the subject, whether it may issue
    certificates, which names it may issue them for, where revoked ones are listed, and the purposes of the key. -/
def knownExtensions : List UInt8 := [keyUsage, 17, 19, 30, 31, 37]

def extensionNumber? : List UInt8 → Option UInt8
  | [a, b, n] => if [a, b] = extensionArc then some n else none
  | _ => none

/-- Read whether an extension is critical; if nothing is said it is not. -/
def readCritical : CheckedReader Bool
  | s =>
    match readOptional booleanTag s with
    | none => .error .badEncoding
    | some (none, r) => .ok (false, r)
    | some (some [0xff], r) => .ok (true, r)
    | some (some [0x00], r) => .ok (false, r)
    | some _ => .error .badEncoding

/-- Take note of an extension behind the numbers of those seen before. -/
def noteExtension (seen : List UInt8) (identifier : List UInt8) (critical : Bool) (value : List UInt8) :
    Except CertificateError (List UInt8) :=
  match (extensionNumber? identifier).filter knownExtensions.contains with
  | none => if critical then .error .unknownCriticalExtension else .ok seen
  | some n =>
    if seen.contains n then .error .repeatedExtension
    else if n = keyUsage ∨ (only sequenceTag value).isSome then .ok (n :: seen)
    else .error .badEncoding

/-- Check one extension behind the numbers of those seen before. -/
def checkExtension (seen : List UInt8) (s : List UInt8) : Except CertificateError (List UInt8) := do
  let (identifier, s) ← readPart identifierTag s
  let (critical, s) ← readCritical s
  let (value, s) ← readPart octetStringTag s
  let seen ← noteExtension seen identifier critical value
  atEnd s
  return seen

/-- Check extensions, each shorter than the octets before it. -/
def checkExtensions : Nat → List UInt8 → List UInt8 → Except CertificateError Unit
  | _, _, [] => .ok ()
  | 0, _, _ :: _ => .error .badEncoding
  | rounds + 1, seen, b :: s => do
    let (content, s) ← readPart sequenceTag (b :: s)
    let seen ← checkExtension seen content
    checkExtensions rounds seen s

/-- Check what stands behind the public key: nothing or a list of extensions. -/
def checkRest (s : List UInt8) : Except CertificateError Unit :=
  if s = [] then .ok ()
  else do
    let (tagged, rest) ← readPart (partTag 3) s
    let (listed, others) ← readPart sequenceTag tagged
    checkExtensions listed.length [] listed
    atEnd others
    atEnd rest

/-! ### The certificate -/

/-- The number of the third version. -/
def thirdVersion : Nat := 2

def readVersion : CheckedReader Unit := fun s =>
  match readContent (partTag 0) s with
  | none => .error .unsupportedVersion
  | some (tagged, r) =>
    match readNatural tagged with
    | none => .error .badEncoding
    | some (version, rest) =>
      if 256 ≤ version then .error .badEncoding
      else if version ≠ thirdVersion ∨ rest ≠ [] then .error .unsupportedVersion
      else .ok ((), r)

/-- The public key in the body of a certificate, without the head of its sequence. -/
def bodyKey (algorithm body : List UInt8) : Except CertificateError (List UInt8) := do
  let (_, s) ← readVersion body
  let (_serial, s) ← readPart integerTag s
  let (named, s) ← readPart sequenceTag s
  if named ≠ algorithm then throw .algorithmMismatch
  let (_issuer, s) ← readPart sequenceTag s
  let (_validity, s) ← readPart sequenceTag s
  let (_subject, s) ← readPart sequenceTag s
  let (key, s) ← readPart sequenceTag s
  checkRest s
  return key

/-- Certificates are shorter than this. -/
def lengthLimit : Nat := 0xffff

/-- The public key of a certificate as it stands there, without the head of its sequence. -/
def publicKey (der : List UInt8) : Except CertificateError (List UInt8) := do
  let certificate ← required (only sequenceTag der)
  if lengthLimit ≤ certificate.length then throw .badEncoding
  let (body, s) ← readPart sequenceTag certificate
  let (algorithm, s) ← readPart sequenceTag s
  let signature ← required (only bitStringTag s)
  let _ ← required (wholeOctets signature)
  bodyKey algorithm body

end Certificate

end AdmissionGate.Tls

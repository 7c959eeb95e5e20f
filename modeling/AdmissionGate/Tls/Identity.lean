import AdmissionGate.IoError
import AdmissionGate.Tls.Certificate
import AdmissionGate.Tls.PrivateKey

/-!
# Identities

The gate shows a chain of certificates to its clients and proves with a private key that the first of them is its own.  An
identity is accepted if the key can be used and belongs to the first certificate; the key is looked at first.
-/

namespace AdmissionGate.Tls

/-- Why there is no identity. -/
inductive IdentityError where
  | unreadable (path : String) (cause : IoError)
  | certificatePem (error : Pem.ReadError)
  | noCertificate
  | keyPem (error : Pem.ReadError)
  | noKey
  | unusableKey
  | badCertificate (error : CertificateError)
  /-- The key belongs to another certificate. -/
  | mismatch
  /-- No identity was given at all. -/
  | missing
deriving DecidableEq, Repr

namespace IdentityError

def detail : IdentityError → String
  | unreadable path cause => "reading " ++ path ++ ": " ++ cause.message
  | certificatePem error => "invalid certificate PEM: " ++ error.message
  | noCertificate => "no certificate found in PEM"
  | keyPem error => "invalid private key PEM: " ++ error.message
  | noKey => "no private key found in PEM"
  | unusableKey =>
    "invalid key pair: unexpected error: failed to parse private key as RSA, ECDSA, or EdDSA"
  | badCertificate error => "invalid key pair: invalid peer certificate: " ++ error.message
  | mismatch => "invalid key pair: keys may not be consistent: KeyMismatch"
  | missing => "webhook server requires a TLS identity"

def message (e : IdentityError) : String :=
  "TLS configuration error: " ++ e.detail

def record (e : IdentityError) : String :=
  "TlsConfig(" ++ Text.quoted e.detail ++ ")"

end IdentityError

/-- A chain of certificates and the key of the first one. -/
structure Identity where
  certificate : List UInt8
  /-- The certificates after the first one. -/
  chain : List (List UInt8)
  key : Pem.Section
  /-- The key belongs to the first certificate. -/
  consistent : ∃ shown, PrivateKey.publicKey? key = some shown ∧ Certificate.publicKey certificate = .ok shown

/-- The protocols that the gate offers to its clients, the preferred one first. -/
def protocols : List String := ["h2", "http/1.1"]

namespace Identity

/-- The identity of a chain and a key, if they fit. -/
def ofParts (certificate : List UInt8) (chain : List (List UInt8)) (key : Pem.Section) :
    Except IdentityError Identity :=
  match ofKey : PrivateKey.publicKey? key with
  | none => .error .unusableKey
  | some own =>
    match ofCertificate : Certificate.publicKey certificate with
    | .error error => .error (.badCertificate error)
    | .ok shown =>
      if same : own = shown then .ok { certificate, chain, key, consistent := ⟨shown, same ▸ ofKey, ofCertificate⟩ }
      else .error .mismatch

def ofPem (certificateText keyText : List UInt8) : Except IdentityError Identity :=
  match Pem.certificates certificateText with
  | .error error => .error (.certificatePem error)
  | .ok [] => .error .noCertificate
  | .ok (certificate :: chain) =>
    match Pem.privateKey? keyText with
    | .error error => .error (.keyPem error)
    | .ok none => .error .noKey
    | .ok (some key) => ofParts certificate chain key

/-- The identity in two files.  Both are read before either is looked at. -/
def ofFiles (contentOf : String → Except IoError (List UInt8)) (certificatePath keyPath : String) :
    Except IdentityError Identity :=
  match contentOf certificatePath with
  | .error cause => .error (.unreadable certificatePath cause)
  | .ok certificateText =>
    match contentOf keyPath with
    | .error cause => .error (.unreadable keyPath cause)
    | .ok keyText => ofPem certificateText keyText

end Identity

end AdmissionGate.Tls

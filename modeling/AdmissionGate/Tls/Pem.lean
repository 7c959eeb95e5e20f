import AdmissionGate.Text.Quoted
import AdmissionGate.Text.Utf8
import AdmissionGate.Tls.Base64

/-!
# Sections of a PEM text

A PEM text has sections between a line `-----BEGIN LABEL-----` and a line `-----END LABEL-----`; the lines between them are
base64.  A line ends with a line feed or a carriage return.  All lines outside of sections are passed over.

A section whose label is not known is passed over without a look at its content.  A line that opens a section inside of
another one gives it a new label, and what has been gathered stays.
-/

namespace AdmissionGate.Tls.Pem

/-- What a section holds. -/
inductive Kind where
  | certificate
  | publicKey
  /-- A private key of any algorithm. -/
  | privateKey
  | rsaPrivateKey
  | ecPrivateKey
  | revocationList
  | certificateRequest
  | clientHelloConfiguration
deriving DecidableEq, Repr

namespace Kind

def all : List Kind :=
  [certificate, publicKey, privateKey, rsaPrivateKey, ecPrivateKey, revocationList, certificateRequest,
    clientHelloConfiguration]

def label : Kind → String
  | certificate => "CERTIFICATE"
  | publicKey => "PUBLIC KEY"
  | privateKey => "PRIVATE KEY"
  | rsaPrivateKey => "RSA PRIVATE KEY"
  | ecPrivateKey => "EC PRIVATE KEY"
  | revocationList => "X509 CRL"
  | certificateRequest => "CERTIFICATE REQUEST"
  | clientHelloConfiguration => "ECHCONFIG"

def isPrivateKey : Kind → Bool
  | privateKey | rsaPrivateKey | ecPrivateKey => true
  | _ => false

end Kind

/-- Why a PEM text cannot be read. -/
inductive ReadError where
  /-- A line that opens a section does not end in five dashes. -/
  | illegalStart (line : List UInt8)
  /-- The text ends inside a section. -/
  | missingEnd (label : List UInt8)
  | base64 (error : Base64.DecodeError)
deriving DecidableEq, Repr

/-- Octets between quotation marks, as far as they are text. -/
def quotedOctets (octets : List UInt8) : String :=
  Text.quoted (String.ofList (Text.Utf8.decodeLossy octets))

namespace ReadError

def message : ReadError → String
  | illegalStart line => "illegal section start: " ++ quotedOctets line
  | missingEnd label => "section end " ++ quotedOctets label ++ " missing"
  | base64 error => error.message

end ReadError

/-- A section and its content. -/
structure Section where
  kind : Kind
  content : List UInt8
deriving DecidableEq, Repr

/-! ### Lines -/

def ascii (s : String) : List UInt8 := Text.Utf8.encode s.toList

def endsLine (b : UInt8) : Bool := b == 10 || b == 13

/-- The lines of a text, each with the octet that ends it. -/
def lines : List UInt8 → List (List UInt8)
  | [] => []
  | b :: rest =>
    if endsLine b then [b] :: lines rest
    else
      match lines rest with
      | [] => [[b]]
      | line :: others => (b :: line) :: others

/-- The octets behind a given beginning, if the line has it. -/
def after? (start line : List UInt8) : Option (List UInt8) :=
  if start.isPrefixOf line then some (line.drop start.length) else none

/-- Whether an octet may stand among the dashes at the end of a line. -/
def isTrailing (b : UInt8) : Bool := b == 45 || b == 32 || endsLine b

/-- The label in the rest of a line that opens a section: all before the dashes that end the line, which must be five. -/
def labelOf? (rest : List UInt8) : Option (List UInt8) :=
  let trailing := (rest.reverse.takeWhile isTrailing).reverse
  let blanks := (trailing.takeWhile fun b => b != 45).length
  if trailing.count 45 = 5 then some (rest.take (rest.length - trailing.length + blanks)) else none

/-! ### Reading -/

def kindOf? (label : List UInt8) : Option Kind :=
  Kind.all.find? fun kind => ascii kind.label == label

/-- Whether a line closes a section with some label. -/
def closes (label line : List UInt8) : Bool :=
  (ascii "-----END " ++ label ++ ascii "-----").isPrefixOf line

/-- Read lines behind those that an open section has gathered, the last one first: the sections up to the first error, and
    that error. -/
def readFrom (opened : Option (List UInt8)) (gathered : List (List UInt8)) :
    List (List UInt8) → List Section × Option ReadError
  | [] =>
    match opened with
    | none => ([], none)
    | some label => ([], some (.missingEnd label))
  | line :: rest =>
    match after? (ascii "-----BEGIN ") line, opened with
    | some behind, _ =>
      match labelOf? behind with
      | none => ([], some (.illegalStart line))
      | some label => readFrom (some label) gathered rest
    | none, none => readFrom none gathered rest
    | none, some label =>
      if closes label line then
        match kindOf? label with
        | none => readFrom none [] rest
        | some kind =>
          match Base64.decode gathered.reverse.flatten with
          | .error error => ([], some (.base64 error))
          | .ok content =>
            let (sections, error) := readFrom none [] rest
            (⟨kind, content⟩ :: sections, error)
      else readFrom (some label) (line :: gathered) rest

/-- The sections of a text up to the first error, and that error. -/
def read (text : List UInt8) : List Section × Option ReadError :=
  readFrom none [] (lines text)

/-- The contents of all certificates, if the text can be read to its end. -/
def certificates (text : List UInt8) : Except ReadError (List (List UInt8)) :=
  match read text with
  | (_, some error) => .error error
  | (sections, none) => .ok ((sections.filter fun s => s.kind = .certificate).map Section.content)

/-- The first private key, if the text can be read as far as that. -/
def privateKey? (text : List UInt8) : Except ReadError (Option Section) :=
  match read text with
  | (sections, error) =>
    match sections.find? fun s => s.kind.isPrivateKey, error with
    | some key, _ => .ok (some key)
    | none, some error => .error error
    | none, none => .ok none

end AdmissionGate.Tls.Pem

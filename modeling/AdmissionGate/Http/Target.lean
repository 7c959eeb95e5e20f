/-!
# Request targets

What an exchange is about, as the client writes it: a path with a query (`/mutate?timeout=5s`), a whole address
(`https://gate:443/mutate`), an authority alone (`gate:443`) or an asterisk.  Only the path and the query are kept.  A
fragment is dropped, and nothing is decoded.
-/

namespace AdmissionGate.Http

/-- The part of a request target that is kept. -/
structure Target where
  /-- The path; a whole address without one has the path `/`, and an authority alone has the empty path. -/
  path : String
  query : Option String
deriving DecidableEq, Repr

namespace Target

/-- Whether a target names a place below the root, as an asterisk and an authority alone do not. -/
def isRooted (target : Target) : Bool :=
  target.path.toList.head? == some '/'

def lengthLimit : Nat := 65534

def schemeLimit : Nat := 64

/-- How many colons may stand in a row of names of an authority. -/
def colonLimit : Nat := 8

/-! ### Schemes -/

/-- Whether a character may stand in the name of a scheme. -/
def isSchemeChar (c : Char) : Bool :=
  c.isAlphanum || c == '+' || c == '-' || c == '.' || c == '~'

/-- What follows a scheme and its two slashes; `none` if no scheme stands in front. -/
def afterScheme (s : List Char) : Option (List Char × List Char) :=
  let name := s.takeWhile isSchemeChar
  match s.drop name.length with
  | ':' :: '/' :: '/' :: rest => some (name, rest)
  | _ => none

/-! ### Authorities -/

/-- What has been seen of an authority. -/
structure Authority where
  /-- Colons since the last name was closed. -/
  colons : Nat := 0
  opened : Bool := false
  closed : Bool := false
  /-- A percent sign that is not excused by what follows it. -/
  percent : Bool := false
  /-- Whether the character before is the one that ends the user's name. -/
  afterUser : Bool := false
deriving DecidableEq, Repr

/-- Whether a character without a meaning of its own may stand in an authority. -/
def isAuthorityChar (c : Char) : Bool :=
  c.isAlphanum || "!$&'()*+,-.;=_~".toList.contains c

def Authority.step (a : Authority) (c : Char) : Option Authority :=
  let a := { a with afterUser := false }
  match c with
  | ':' => if colonLimit ≤ a.colons then none else some { a with colons := a.colons + 1 }
  | '[' => if a.percent || a.opened then none else some { a with opened := true }
  | ']' =>
    if !a.opened || a.closed then none
    else some { a with closed := true, colons := 0, percent := false }
  | '@' => some { a with colons := 0, percent := false, afterUser := true }
  | '%' => some { a with percent := true }
  | c => if isAuthorityChar c then some a else none

def Authority.isComplete (a : Authority) : Bool :=
  a.opened == a.closed && decide (a.colons ≤ 1) && !a.afterUser && !a.percent

def endsAuthority (c : Char) : Bool :=
  c == '/' || c == '?' || c == '#'

/-- The authority in front of a text and what follows it. -/
def splitAuthority (s : List Char) : Option (List Char × List Char) := do
  let authority := s.takeWhile fun c => !endsAuthority c
  let seen ← authority.foldlM Authority.step {}
  if seen.isComplete then some (authority, s.drop authority.length) else none

/-! ### Paths and queries -/

def isPathChar (c : Char) : Bool :=
  let n := c.toNat
  n == 0x21 || n == 0x22 || (0x24 ≤ n && n ≤ 0x3b) || n == 0x3d || (0x40 ≤ n && n ≤ 0x5f) || (0x61 ≤ n && n != 0x7f)

def isQueryChar (c : Char) : Bool :=
  let n := c.toNat
  n == 0x21 || (0x24 ≤ n && n ≤ 0x3b) || n == 0x3d || (0x3f ≤ n && n != 0x7f)

/-- A path, with `/` for an empty one. -/
def rooted (path : List Char) : String :=
  if path = [] then "/" else String.ofList path

/-- Read a path, a query if a question mark follows, and pass over a fragment. -/
def readPath (s : List Char) : Option Target :=
  let path := s.takeWhile isPathChar
  match s.drop path.length with
  | [] | '#' :: _ => some ⟨rooted path, none⟩
  | '?' :: rest =>
    let query := rest.takeWhile isQueryChar
    match rest.drop query.length with
    | [] | '#' :: _ => some ⟨rooted path, some (String.ofList query)⟩
    | _ => none
  | _ => none

def readAddress (s : List Char) : Option Target :=
  match afterScheme s with
  | some (scheme, rest) => do
    if schemeLimit < scheme.length then none
    let (authority, rest) ← splitAuthority rest
    if authority = [] then none else readPath rest
  | none => do
    let (_, rest) ← splitAuthority s
    if rest = [] then some ⟨"", none⟩ else none

def parse (text : String) : Option Target :=
  if lengthLimit < text.utf8ByteSize then none
  else
    match text.toList with
    | [] => none
    | ['*'] => some ⟨"*", none⟩
    | '/' :: rest => readPath ('/' :: rest)
    | s => readAddress s

end Target

end AdmissionGate.Http

import AdmissionGate.Json.Basic

/-!
# Forms of values

A form says which values of JSON are accepted in some place and what they are read as.  A member of an object may be
required, or have a default that stands in for it when it is absent; a form may also take `null` for an absent value.
Absent and `null` are two things: only forms made with `orNull` take `null`.
-/

namespace AdmissionGate.Review

/-- The values that are accepted in some place, and what they are read as. -/
abbrev Form (α : Type) := Json → Option α

namespace Form

variable {α : Type}

def any : Form Json := some

def text : Form String
  | .string s => some s
  | _ => none

def flag : Form Bool
  | .bool b => some b
  | _ => none

/-- A whole number that fits a signed word of 64 bits. -/
def signedWord : Form Int
  | .number (.whole n) => if -0x8000000000000000 ≤ n ∧ n < 0x8000000000000000 then some n else none
  | _ => none

/-- Only `null`. -/
def nothing : Form Unit
  | .null => some ()
  | _ => none

/-- Also `null`, for an absent value. -/
def orNull (form : Form α) : Form (Option α)
  | .null => some none
  | v => (form v).map some

/-- Also `null`, for a default. -/
def orNullAs (default : α) (form : Form α) : Form α := fun v =>
  (orNull form v).map fun read => read.getD default

def listOf (form : Form α) : Form (List α)
  | .array items => items.mapM form
  | _ => none

def mapOf (form : Form α) : Form (Json.Members α)
  | .object members => members.mapM fun member => (form member.2).map fun value => (member.1, value)
  | _ => none

/-! ### Members -/

def required (members : Json.Members Json) (name : String) (form : Form α) : Option α :=
  (Json.Members.find? name members).bind form

/-- A member that has a default when it is absent. -/
def withDefault (members : Json.Members Json) (name : String) (default : α) (form : Form α) : Option α :=
  match Json.Members.find? name members with
  | none => some default
  | some v => form v

def optional (members : Json.Members Json) (name : String) (form : Form α) : Option (Option α) :=
  withDefault members name none (orNull form)

end Form

end AdmissionGate.Review

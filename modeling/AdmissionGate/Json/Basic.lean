import AdmissionGate.Json.Members
import AdmissionGate.Json.Number

/-!
# Values of JSON

A value as it counts after reading: the members of an object have an order of their own, so two texts that list the same
members differently denote the same value.
-/

namespace AdmissionGate

/-- A value of JSON. -/
inductive Json where
  | null
  | bool (b : Bool)
  | number (n : Json.Number)
  | string (s : String)
  | array (items : List Json)
  | object (members : List (String × Json))
deriving Repr

namespace Json

/-! ### Equality is decidable -/

mutual

def decideEq : (a b : Json) → Decidable (a = b)
  | null, null => isTrue rfl
  | bool a, bool b => decidable_of_iff (a = b) (by simp)
  | number a, number b => decidable_of_iff (a = b) (by simp)
  | string a, string b => decidable_of_iff (a = b) (by simp)
  | array a, array b => @decidable_of_iff _ (a = b) (by simp) (decideItemsEq a b)
  | object a, object b => @decidable_of_iff _ (a = b) (by simp) (decideMembersEq a b)
  | null, bool _ | null, number _ | null, string _ | null, array _ | null, object _ => isFalse (by simp)
  | bool _, null | bool _, number _ | bool _, string _ | bool _, array _ | bool _, object _ => isFalse (by simp)
  | number _, null | number _, bool _ | number _, string _ | number _, array _ | number _, object _ =>
    isFalse (by simp)
  | string _, null | string _, bool _ | string _, number _ | string _, array _ | string _, object _ =>
    isFalse (by simp)
  | array _, null | array _, bool _ | array _, number _ | array _, string _ | array _, object _ =>
    isFalse (by simp)
  | object _, null | object _, bool _ | object _, number _ | object _, string _ | object _, array _ =>
    isFalse (by simp)

def decideItemsEq : (a b : List Json) → Decidable (a = b)
  | [], [] => isTrue rfl
  | [], _ :: _ | _ :: _, [] => isFalse (by simp)
  | a :: as, b :: bs =>
    have := decideEq a b
    have := decideItemsEq as bs
    decidable_of_iff (a = b ∧ as = bs) (by simp)

def decideMembersEq : (a b : List (String × Json)) → Decidable (a = b)
  | [], [] => isTrue rfl
  | [], _ :: _ | _ :: _, [] => isFalse (by simp)
  | (m, a) :: as, (n, b) :: bs =>
    have := decideEq a b
    have := decideMembersEq as bs
    decidable_of_iff ((m = n ∧ a = b) ∧ as = bs) (by simp)

end

instance : DecidableEq Json := decideEq

/-! ### Parts of a value -/

/-- The object that some named values give; the last value of a name wins. -/
def ofPairs (pairs : List (String × Json)) : Json :=
  object (Members.ofPairs pairs)

def ofNat (n : Nat) : Json :=
  number (.whole n)

/-- The value of a member, if the value is an object that has it. -/
def member? (name : String) : Json → Option Json
  | object members => Members.find? name members
  | _ => none

def text? : Json → Option String
  | string s => some s
  | _ => none

end Json

end AdmissionGate

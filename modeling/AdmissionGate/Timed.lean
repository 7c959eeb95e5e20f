/-!
# Things that take time

A value that is there after a while, or never.  One such thing after another takes the time of both.
-/

namespace AdmissionGate

/-- A value that is there after some milliseconds, or never. -/
structure Timed (α : Type) where
  value : α
  /-- How long it takes, `none` for ever. -/
  delay : Option Nat
deriving DecidableEq, Repr

namespace Timed

def addDelay : Option Nat → Option Nat → Option Nat
  | some a, some b => some (a + b)
  | _, _ => none

instance : Monad Timed where
  pure a := ⟨a, some 0⟩
  bind a f := ⟨(f a.value).value, addDelay a.delay (f a.value).delay⟩

end Timed

end AdmissionGate

import AdmissionGate.Decimal.Layout

/-!
# Histograms of durations

A histogram counts values by size.  Each bucket has an upper bound, and a value goes into the first bucket whose bound it
does not exceed.  The last bound is the greatest double, so an infinite value and a value that is no number are in no
bucket, but they count, and they show in the sum.
-/

namespace AdmissionGate.Metrics

/-- The bounds that are shown: half a millisecond and its doubles, in seconds. -/
def bounds : List Float :=
  (List.range 15).map fun k => 0.0005 * Float.ofNat (Nat.pow 2 k)

def greatest : Float := Float.ofBits 0x7fefffffffffffff

/-- How often values of some size have been seen. -/
structure Histogram where
  sum : Float := 0
  count : Nat := 0
  /-- How many values are in each bucket, the one of the greatest double last. -/
  buckets : List Nat := List.replicate 16 0
deriving DecidableEq, Repr

namespace Histogram

/-- Count a value in the first bucket whose bound it does not exceed. -/
def place (x : Float) : List Float → List Nat → List Nat
  | bound :: bounds, n :: buckets =>
    if x ≤ bound then (n + 1) :: buckets else n :: place x bounds buckets
  | _, buckets => buckets

def observe (h : Histogram) (x : Float) : Histogram where
  sum := h.sum + x
  count := h.count + 1
  buckets := place x (bounds ++ [greatest]) h.buckets

/-- How many values are in each bucket or in one before it. -/
def cumulative (n : Nat) : List Nat → List Nat
  | [] => []
  | m :: buckets => (n + m) :: cumulative (n + m) buckets

end Histogram

end AdmissionGate.Metrics

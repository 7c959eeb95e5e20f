import AdmissionGate.Decimal.NearlyShortest
import AdmissionGate.Metrics.Counters

/-!
# The text of the counters

Scrapers read the counters as lines: for each family that has samples a line of help, a line with its type and its samples
in the order of their labels, and one line at the end.  The values of labels stand as they are.
-/

namespace AdmissionGate.Metrics

open Json (Members)

/-- Doubles are written positionally while the point stands within seven places left and twenty-one right; an exponent has
    a sign only if it is negative. -/
def layout : Decimal.Layout := ⟨-6, 21, false⟩

/-- How a double is written: in digits that read back, though not always the fewest. -/
def floatText (x : Float) : String :=
  if x.isNaN then "NaN"
  else if x.isInf then if x < 0 then "-inf" else "inf"
  else String.ofList (layout.write Decimal.nearlyShortest x)

def sampleLine (name labels value : String) : String :=
  name ++ "\x7b" ++ labels ++ "\x7d " ++ value

def counterLines (name : String) (samples : Members Nat) : List String :=
  samples.map fun sample => sampleLine (name ++ "_total") sample.1 (toString sample.2)

def boundTexts : List String := bounds.map floatText ++ ["+Inf"]

def histogramLines (name labels : String) (h : Histogram) : List String :=
  sampleLine (name ++ "_sum") labels (floatText h.sum)
    :: sampleLine (name ++ "_count") labels (toString h.count)
    :: List.zipWith
      (fun bound n => sampleLine (name ++ "_bucket") (labelText "le" bound ++ "," ++ labels) (toString n))
      boundTexts (Histogram.cumulative 0 h.buckets)

/-- The lines of a family, with its head if it has samples. -/
def familyLines (name type help : String) (samples : List String) : List String :=
  if samples = [] then []
  else ("# HELP " ++ name ++ " " ++ help ++ ".") :: ("# TYPE " ++ name ++ " " ++ type) :: samples

def requestsName : String := "webhook_admission_requests"

/-- The name of the family of requests that passed unseen. -/
def exemptName : String := "webhook_admission_filtered"

def rejectionsName : String := "webhook_admission_rejections"

def durationsName : String := "webhook_admission_duration_seconds"

def lines (metrics : Metrics) : List String :=
  familyLines requestsName "counter" "Total number of admission responses by route and verdict"
      (counterLines requestsName metrics.requests)
    ++ familyLines exemptName "counter" "Total number of admission requests skipped by the kind filter"
      (counterLines exemptName metrics.exempt)
    ++ familyLines rejectionsName "counter" "Total number of admission requests rejected before dispatch"
      (counterLines rejectionsName metrics.rejections)
    ++ familyLines durationsName "histogram" "Duration of admission request handling in seconds"
      (metrics.durations.flatMap fun sample => histogramLines durationsName sample.1 sample.2)
    ++ ["# EOF"]

def exposition (metrics : Metrics) : String :=
  String.join (metrics.lines.map fun line => line ++ "\n")

/-- The lines with counts alone, in their order as texts. -/
def countLines (metrics : Metrics) : List String :=
  (counterLines requestsName metrics.requests ++ counterLines exemptName metrics.exempt
    ++ counterLines rejectionsName metrics.rejections
    ++ metrics.durations.map fun sample =>
      sampleLine (durationsName ++ "_count") sample.1 (toString sample.2.count)).mergeSort

end AdmissionGate.Metrics

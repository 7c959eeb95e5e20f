import AdmissionGate.Text.Blank
import AdmissionGate.Text.Quoted
import AdmissionGate.Text.Utf8
import AdmissionGate.Numeral
import AdmissionGate.KindList
import AdmissionGate.KindSet
import AdmissionGate.Route
import AdmissionGate.Settings
import AdmissionGate.Decimal.Layout
import AdmissionGate.Decimal.NearlyShortest
import AdmissionGate.Json.Basic
import AdmissionGate.Json.Reader
import AdmissionGate.Json.Writer
import AdmissionGate.Review.Coordinates
import AdmissionGate.Review.Timestamp
import AdmissionGate.Review.Form
import AdmissionGate.Review.Decoding
import AdmissionGate.Review.Response
import AdmissionGate.Review.Patch
import AdmissionGate.Review.Encoding
import AdmissionGate.Review.ResponseForm
import AdmissionGate.Decision
import AdmissionGate.Timed
import AdmissionGate.Http.Answer
import AdmissionGate.Http.Target
import AdmissionGate.Http.Body
import AdmissionGate.Http.Message
import AdmissionGate.Metrics.Histogram
import AdmissionGate.Metrics.Counters
import AdmissionGate.Metrics.Exposition
import AdmissionGate.Gate.Ending
import AdmissionGate.Gate.Exchange
import AdmissionGate.Gate.Run
import AdmissionGate.Health
import AdmissionGate.IoError
import AdmissionGate.Tls.Octets
import AdmissionGate.Tls.Base64
import AdmissionGate.Tls.Pem
import AdmissionGate.Tls.Der
import AdmissionGate.Tls.Certificate
import AdmissionGate.Tls.Curve
import AdmissionGate.Tls.CurveParameters
import AdmissionGate.Tls.RsaKey
import AdmissionGate.Tls.PrivateKey
import AdmissionGate.Tls.Identity
import AdmissionGate.Listener
import AdmissionGate.Program.Log
import AdmissionGate.Program.Startup
import AdmissionGate.Program.Run
import AdmissionGate.Main
import AdmissionGate.Proofs.Text.Utf8RoundTrip
import AdmissionGate.Proofs.Text.Trimming
import AdmissionGate.Proofs.Numeral.Reading
import AdmissionGate.Proofs.Configuration.Loading
import AdmissionGate.Proofs.Json.Grammar
import AdmissionGate.Proofs.Json.NumberReading
import AdmissionGate.Proofs.Json.TextReading
import AdmissionGate.Proofs.Json.ValueReading
import AdmissionGate.Proofs.Json.LastMember
import AdmissionGate.Proofs.Json.SameValue
import AdmissionGate.Proofs.Review.DecodingByValue
import AdmissionGate.Proofs.Json.NumberWriting
import AdmissionGate.Proofs.Json.ReadingBack
import AdmissionGate.Proofs.Review.MemberParts
import AdmissionGate.Proofs.Review.ResponseRoundTrip
import AdmissionGate.Proofs.Review.DecodedRequest
import AdmissionGate.Proofs.Gate.Endings
import AdmissionGate.Proofs.Metrics.Counting
import AdmissionGate.Proofs.Http.BodyReading
import AdmissionGate.Proofs.Gate.IdentityEcho
import AdmissionGate.Proofs.Http.ContentType
import AdmissionGate.Proofs.Gate.DecisionTable
import AdmissionGate.Proofs.Gate.DecisionLaw
import AdmissionGate.Proofs.Gate.Accounting
import AdmissionGate.Proofs.Gate.EarliestEvent
import AdmissionGate.Proofs.Review.Acceptance
import AdmissionGate.Proofs.Decision.ListedKinds
import AdmissionGate.Proofs.Gate.Indifference
import AdmissionGate.Proofs.Metrics.Commuting
import AdmissionGate.Proofs.Gate.Independence
import AdmissionGate.Proofs.Listener.Life
import AdmissionGate.Proofs.Listener.Draining
import AdmissionGate.Proofs.Listener.Shutdown
import AdmissionGate.Proofs.Gate.Refusals
import AdmissionGate.Proofs.Review.StandInResource
import AdmissionGate.Proofs.Listener.Returning
import AdmissionGate.Proofs.Program.Steps
import AdmissionGate.Proofs.Program.History
import AdmissionGate.Proofs.Program.Readiness
import AdmissionGate.Proofs.Program.Ending
import AdmissionGate.Proofs.Program.Orderly
import AdmissionGate.Proofs.Http.Bursts
import AdmissionGate.Proofs.Gate.Chunking
import AdmissionGate.Proofs.Json.ObjectEnd
import AdmissionGate.Proofs.Review.WholeBodies
import AdmissionGate.Proofs.Json.MemberEdits
import AdmissionGate.Proofs.Review.FieldIndependence
import AdmissionGate.Proofs.Review.WireAgreement
import AdmissionGate.Proofs.Configuration.FirstBlamed
import AdmissionGate.Proofs.Gate.ReviewedObjects
import AdmissionGate.Proofs.Gate.Routing
import AdmissionGate.Proofs.Gate.Transparency
import AdmissionGate.Proofs.Kinds.NormalForm
import AdmissionGate.Proofs.Numeral.ReadingOrder
import AdmissionGate.Proofs.Numeral.Words
import AdmissionGate.Proofs.Configuration.NumberErrors

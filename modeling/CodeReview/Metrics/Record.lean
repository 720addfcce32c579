import CodeReview.Json.Decode
import CodeReview.Metrics.Timestamp

/-!
What is recorded about a finished review.
-/

namespace CodeReview

open Decode

structure ReviewMetrics where
  timestamp : Timestamp
  identifier : String
  findingsCount : Nat
  contextSources : List String
  /-- In seconds. -/
  duration : Decimal.Double
  deriving DecidableEq, Repr

namespace ReviewMetrics

def toJson (m : ReviewMetrics) : Json :=
  .object
    [("timestamp", .text m.timestamp.text), ("identifier", .text m.identifier),
      ("findings_count", .ofNat m.findingsCount), ("context_sources_used", .texts m.contextSources),
      ("duration_sec", .double m.duration)]

def decode : Decoder ReviewMetrics := fun scan => do
  let time : Decoder Timestamp := fun scan => do
    match Timestamp.parse? (← text scan) with
    | some t => return t
    | none => .error .mismatch
  let count := word
  let r ← record
    [field "timestamp" time, field "identifier" text, field "findings_count" count,
      field "context_sources_used" (listOf text), field "duration_sec" real] scan
  return {
    timestamp := ← r.get "timestamp" time
    identifier := ← r.get "identifier" text
    findingsCount := ← r.get "findings_count" count
    contextSources := ← r.get "context_sources_used" (listOf text)
    duration := ← r.get "duration_sec" real }

end ReviewMetrics

end CodeReview

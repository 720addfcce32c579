import CodeReview.Main
import CodeReview.Python.AnalysisJson
import CodeReview.Proofs.Json.Numeral
import CodeReview.Proofs.Text.Utf8
import CodeReview.Proofs.Json.Written
import CodeReview.Proofs.Json.Scanning
import CodeReview.Proofs.Json.Decoding
import CodeReview.Proofs.Index.Sidecar
import CodeReview.Proofs.Index.IndexFile
import CodeReview.Proofs.Index.Loading
import CodeReview.Proofs.Index.Invariant
import CodeReview.Proofs.Index.Damage
import CodeReview.Proofs.Files.Located
import CodeReview.Proofs.Index.Persisted
import CodeReview.Proofs.Index.RoundTrip
import CodeReview.Proofs.Index.Interleaving
import CodeReview.Proofs.Json.Spelling
import CodeReview.Proofs.Decimal.Magnitude
import CodeReview.Proofs.Json.LongInteger
import CodeReview.Proofs.Text.Trimming
import CodeReview.Proofs.Review.Merged
import CodeReview.Proofs.Review.Reviewing
import CodeReview.Proofs.Index.Built
import CodeReview.Proofs.Review.AnswerForms
import CodeReview.Proofs.Files.Written
import CodeReview.Proofs.Coverage.Containment
import CodeReview.Proofs.Index.Published
import CodeReview.Proofs.Index.Serving
import CodeReview.Proofs.Index.Rebuilding
import CodeReview.Proofs.Index.Nearest
import CodeReview.Proofs.Json.Restored
import CodeReview.Proofs.Json.Messages
import CodeReview.Proofs.Tests.Generated
import CodeReview.Proofs.Coverage.ModuleName
import CodeReview.Proofs.Index.Packing
import CodeReview.Proofs.Review.LineGrammar
import CodeReview.Proofs.Json.Lines
import CodeReview.Proofs.Review.Fenced
import CodeReview.Proofs.Tests.Layout
import CodeReview.Proofs.Coverage.TableRead
import CodeReview.Proofs.Index.Collected
import CodeReview.Proofs.Lint.LineByLine
import CodeReview.Proofs.Review.Template
import CodeReview.Proofs.Model.Numbered
import CodeReview.Proofs.Config.Overlay
import CodeReview.Proofs.Lint.Nested
import CodeReview.Proofs.Python.Blocks
import CodeReview.Proofs.Tests.ScaffoldLines
import CodeReview.Proofs.Tests.ScaffoldFile
import CodeReview.Proofs.Files.Appended
import CodeReview.Proofs.Files.Rooted
import CodeReview.Proofs.Json.Printed
import CodeReview.Proofs.Json.Passed
import CodeReview.Proofs.Metrics.Recorded
import CodeReview.Proofs.Metrics.Log
import CodeReview.Proofs.Python.Gaps
import CodeReview.Proofs.Python.ParameterText
import CodeReview.Proofs.Python.Positional
import CodeReview.Proofs.Tests.Calls

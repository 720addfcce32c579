import CodeReview.Config.Settings
import CodeReview.Files.Tree
import CodeReview.Json.Print
import CodeReview.Metrics.Record

/-!
Where the records of finished reviews go: nowhere, to a list, or to a file with one JSON object a line.
-/

namespace CodeReview

inductive MetricsSink
  | discard
  | memory
  | file (path : String)
  /-- A sink that takes nothing. -/
  | failing (failure : Failure)
  deriving DecidableEq, Repr

namespace MetricsSink

def ofSettings (s : MetricsSettings) : MetricsSink := if s.enabled then .file s.path else .discard

def line (m : ReviewMetrics) : Bytes := Text.utf8 (m.toJson.compact.toList ++ ['\n'])

def parent (path : List Char) : List Path.Component := (Path.components path).dropLast

/-- Adds a line to a file. The directories above it are made first, and stay when the line cannot be
added. -/
def appendLine (path : List Char) (line : Bytes) (files : Files) : Files × FileResult Unit :=
  let above := parent path
  let prepared :=
    if above.isEmpty then .ok files
    else do
      Files.checkPath path
      files.makeDirectoriesFrom above above.dropLast.reverse
  match prepared with
  | .error e => (files, .error e)
  | .ok files =>
      match files.append path line with
      | .error e => (files, .error e)
      | .ok files => (files, .ok ())

def record (sink : MetricsSink) (m : ReviewMetrics) (files : Files) (kept : List ReviewMetrics) :
    Files × List ReviewMetrics × Except Failure Unit :=
  match sink with
  | .discard => (files, kept, .ok ())
  | .memory => (files, kept ++ [m], .ok ())
  | .failing failure => (files, kept, .error failure)
  | .file path =>
      let (files, result) := appendLine path.toList (line m) files
      (files, kept, result.mapError .file)

end MetricsSink

end CodeReview

import CodeReview.Index.Build
import CodeReview.Metrics.Sink
import CodeReview.Model.Choice
import CodeReview.Review.Pipeline
import CodeReview.Tests.Generation

/-!
The service that settings describe: reviews, generated tests and the index, with one provider and one
published store for all of them.
-/

namespace CodeReview

structure Engine where
  settings : Settings
  provider : Provider
  sink : MetricsSink
  machine : Machine
  /-- The search path for modules that interpreters inherit. -/
  pythonPath : Option String := none

structure Session where
  files : Files
  slot : Slot := {}
  /-- The records of reviews that are kept in memory. -/
  records : List ReviewMetrics := []

namespace Engine

def ofSettings (send : ChatApi.Transport) (machine : Machine) (s : Settings) :
    Except Failure Engine := do
  let provider ← Provider.ofSettings send s.provider
  return { settings := s, provider, sink := .ofSettings s.metrics, machine }

def retriever (e : Engine) : Retriever :=
  { directory := e.settings.retrieval.indexDir, provider := e.provider }

def pipeline (e : Engine) : Pipeline :=
  { settings := e.settings.review, retriever := some e.retriever
    topK := e.settings.retrieval.topK, provider := some e.provider }

def testGenerator (e : Engine) : TestGenerator :=
  { settings := e.settings.testgen
    coverage := { python := e.settings.sandbox.python, timeout := e.settings.sandbox.timeout * 1000
                  pythonPath := e.pythonPath }
    provider := some e.provider }

/-- Reviews a request and records the review. A sink that fails changes nothing about the answer. -/
def emit (sink : MetricsSink) (reviewed : Reviewed) (s : Session) : Session × ReviewResponse :=
  let (files, records, _) := sink.record reviewed.metrics s.files s.records
  ({ files, slot := reviewed.slot, records }, reviewed.response)

def review (e : Engine) (clock : Clock) (request : ReviewRequest) (s : Session) :
    Asked (Session × ReviewResponse) := do
  let reviewed ← e.pipeline.run clock s.files s.slot request
  return emit e.sink reviewed s

def generateTests (e : Engine) (request : TestRequest) : Asked (Except Breakdown TestResponse) :=
  e.testGenerator.generate e.machine request

/-- Builds the index of a repository, writes it and publishes it. Meanwhile the provider may change its
answers. -/
def buildIndexFrom (e : Engine) (answers : IndexBuild.Answers) (root : String) (s : Session) :
    Asked (Session × Except Failure IndexBuild.Stats) := do
  match ← IndexBuild.buildFrom e.provider.embedderId answers e.settings.retrieval root s.files with
  | (files, .error failure) => return ({ s with files }, .error failure)
  | (files, .ok (store, stats)) =>
      return ({ s with files, slot := s.slot.publish store }, .ok stats)

def buildIndex (e : Engine) (root : String) (s : Session) :
    Asked (Session × Except Failure IndexBuild.Stats) :=
  e.buildIndexFrom (fun _ => e.provider.embed) root s

def retrieve (e : Engine) (query : String) (k : Nat) (s : Session) :
    Asked (Session × Except Failure (Outcome (List Document))) := do
  let (slot, result) ← e.retriever.retrieve s.files s.slot query k
  return ({ s with slot }, result)

def reload (e : Engine) (s : Session) : Session × Except Failure Store :=
  let (slot, result) := e.retriever.reload s.files s.slot
  ({ s with slot }, result)

end Engine

end CodeReview

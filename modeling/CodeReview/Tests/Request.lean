import CodeReview.Json.Decode

/-!
What tests are generated for, and the answer. A test file records where its code comes from.
-/

namespace CodeReview

open Decode

structure TestRequest where
  filePath : String
  code : String
  /-- Name of the coverage goal to measure against. -/
  coverageGoal : Option String := none
  deriving DecidableEq, Repr

namespace TestRequest

def toJson (r : TestRequest) : Json :=
  .object [("file_path", .text r.filePath), ("code", .text r.code),
    ("coverage_goal", .ofText? r.coverageGoal)]

def decode : Decoder TestRequest := fun scan => do
  let r ← record
    [field "file_path" text, field "code" text, defaulted "coverage_goal" (optional text)] scan
  return {
    filePath := ← r.get "file_path" text
    code := ← r.get "code" text
    coverageGoal := ← r.getOptional "coverage_goal" text }

end TestRequest

inductive TestSource
  /-- The scaffold made from the signatures alone. -/
  | staticAnalysis
  | llm
  deriving DecidableEq, Repr

namespace TestSource

def name : TestSource → String
  | .staticAnalysis => "static-analysis"
  | .llm => "llm"

def ofName? : String → Option TestSource
  | "static-analysis" => some .staticAnalysis
  | "llm" => some .llm
  | _ => none

end TestSource

structure TestSources where
  staticAnalysis : Bool := false
  llm : Bool := false
  deriving DecidableEq, Repr

namespace TestSources

def insert (s : TestSources) : TestSource → TestSources
  | .staticAnalysis => { s with staticAnalysis := true }
  | .llm => { s with llm := true }

def ofList (sources : List TestSource) : TestSources := sources.foldl insert {}

/-- The members, the scaffold first. -/
def toList (s : TestSources) : List TestSource :=
  (if s.staticAnalysis then [.staticAnalysis] else []) ++ (if s.llm then [.llm] else [])

end TestSources

structure GeneratedTest where
  filePath : String
  testCode : String
  /-- The outcome of running the tests under coverage, if that was done. -/
  coverageSummary : Option String := none
  sources : TestSources
  deriving DecidableEq, Repr

namespace GeneratedTest

def toJson (t : GeneratedTest) : Json :=
  .object
    ([("file_path", .text t.filePath), ("test_code", .text t.testCode)] ++
      (match t.coverageSummary with
        | some summary => [("coverage_summary", Json.text summary)]
        | none => []) ++
      [("sources", .texts (t.sources.toList.map TestSource.name))])

def decode : Decoder GeneratedTest := fun scan => do
  let sources := listOf (choice TestSource.ofName?)
  let r ← record
    [field "file_path" text, field "test_code" text, defaulted "coverage_summary" (optional text),
      field "sources" sources] scan
  return {
    filePath := ← r.get "file_path" text
    testCode := ← r.get "test_code" text
    coverageSummary := ← r.getOptional "coverage_summary" text
    sources := .ofList (← r.get "sources" sources) }

end GeneratedTest

structure TestResponse where
  tests : List GeneratedTest
  deriving DecidableEq, Repr

namespace TestResponse

def toJson (r : TestResponse) : Json := .object [("tests", .list (r.tests.map GeneratedTest.toJson))]

def decode : Decoder TestResponse := fun scan => do
  let r ← record [field "tests" (listOf GeneratedTest.decode)] scan
  return { tests := ← r.get "tests" (listOf GeneratedTest.decode) }

end TestResponse

end CodeReview

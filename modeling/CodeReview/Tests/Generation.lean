import CodeReview.Config.Settings
import CodeReview.Coverage.Run
import CodeReview.Model.Provider
import CodeReview.Review.Outcome
import CodeReview.Review.Prompt
import CodeReview.Tests.Scaffold

/-!
Generating tests: the scaffold, then the tests of a model if it gives any, then a run under coverage if one
is asked for. A model that fails leaves the scaffold as it is.
-/

namespace CodeReview

structure TestGenerator where
  settings : TestSettings := {}
  coverage : CoverageSettings
  provider : Option Provider := none

namespace TestGenerator

def marker : String := "# --- model-generated tests ---"

def readAnswer : Except Failure String → Outcome String
  | .error failure => .degraded failure.message
  | .ok raw =>
      match parseTestAnswer raw with
      | .ok answer => .success answer.code
      | .error e => .degraded ("Unparseable test output: " ++ e.message)

def modelTests (g : TestGenerator) (request : TestRequest) : Asked (Outcome String) :=
  if !g.settings.llmEnabled then pure (.degraded "model test generation disabled")
  else
    match g.provider with
    | none => pure (.degraded "no provider configured")
    | some provider => do
        let answer ← provider.askTests g.settings.generationTimeout
          (testPrompt request.code (Python.analyze request.code))
        return readAnswer answer

def withModelTests (t : GeneratedTest) : Outcome String → GeneratedTest
  | .degraded _ => t
  | .success code =>
      { t with
        testCode := t.testCode ++ "\n" ++ marker ++ "\n" ++ code
        sources := t.sources.insert .llm }

def measures (g : TestGenerator) (request : TestRequest) : Bool :=
  request.coverageGoal.isSome || g.settings.runCoverage

def generate (g : TestGenerator) (machine : Machine) (request : TestRequest) :
    Asked (Except Breakdown TestResponse) := do
  let extra ← g.modelTests request
  let test := withModelTests (Scaffold.synthesize request.filePath request.code) extra
  if g.measures request then
    match CoverageRun.run machine g.coverage request.filePath request.code test.testCode
        request.coverageGoal with
    | .error breakdown => return .error breakdown
    | .ok report => return .ok { tests := [{ test with coverageSummary := some report.summary }] }
  else return .ok { tests := [test] }

end TestGenerator

end CodeReview

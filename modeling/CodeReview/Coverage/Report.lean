import CodeReview.Coverage.Goal
import CodeReview.Coverage.Table
import CodeReview.Decimal.Shortest
import CodeReview.Json.Decode

/-!
The report on a run of tests under coverage: what the run printed and how it ended, read against a goal.
A goal that is not known is recorded, but nothing is said about reaching it.
-/

namespace CodeReview

open Decode

structure RunOutput where
  stdout : String := ""
  stderr : String := ""
  /-- Nothing when the run was killed or never started. -/
  exitCode : Option Int := none
  timedOut : Bool := false
  deriving DecidableEq, Repr

structure CoverageReport where
  percent : Option Decimal.Double
  missingLines : List String
  goal : Option String
  goalMet : Option Bool
  output : RunOutput
  summary : String
  deriving DecidableEq, Repr

namespace CoverageReport

section Json

def toJson (r : CoverageReport) : Json :=
  let orNull {α : Type} (f : α → Json) (a : Option α) : Json := (a.map f).getD .null
  .object
    [("percent", orNull .double r.percent), ("missing_lines", .texts r.missingLines),
      ("goal", .ofText? r.goal), ("goal_met", orNull .bool r.goalMet),
      ("returncode", orNull .integer r.output.exitCode), ("timed_out", .bool r.output.timedOut),
      ("stdout", .text r.output.stdout), ("stderr", .text r.output.stderr),
      ("summary", .text r.summary)]

def decode : Decoder CoverageReport := fun scan => do
  let code := wholeBetween (-2147483648) 2147483647
  let r ← record
    [field "percent" (optional real), field "missing_lines" (listOf text),
      field "goal" (optional text), field "goal_met" (optional boolean),
      field "returncode" (optional code), field "timed_out" boolean, field "stdout" text,
      field "stderr" text, field "summary" text] scan
  return {
    percent := ← r.getOptional "percent" real
    missingLines := ← r.get "missing_lines" (listOf text)
    goal := ← r.getOptional "goal" text
    goalMet := ← r.getOptional "goal_met" boolean
    output := {
      exitCode := ← r.getOptional "returncode" code
      timedOut := ← r.get "timed_out" boolean
      stdout := ← r.get "stdout" text
      stderr := ← r.get "stderr" text }
    summary := ← r.get "summary" text }

end Json

def succeeded (r : CoverageReport) : Bool := r.output.exitCode == some 0

section Summary

def exitLine (output : RunOutput) : String :=
  match output.exitCode with
  | some code => "exit code: " ++ toString code
  | none => if output.timedOut then "exit code: none (timed out)" else "exit code: none"

def verdict : Option Bool → String
  | some true => "met"
  | some false => "not met"
  | none => "unknown"

def goalLine (goal : CoverageGoal) (met : Option Bool) : String :=
  "goal '" ++ goal.name ++ "' (>= " ++ toString goal.floor ++ "%) => " ++ verdict met

def summarize (table : Coverage.Table) (goal : Option CoverageGoal) (met : Option Bool)
    (output : RunOutput) : String :=
  let lines :=
    ["Pytest/coverage execution", exitLine output] ++
      (table.percent.map fun p => "coverage: " ++ p.fixed 1 ++ "%").toList ++
      (goal.map fun g => goalLine g met).toList ++
      (if table.missingLines.isEmpty then []
        else ["missing lines: " ++ "; ".intercalate table.missingLines]) ++
      ["--- stdout ---", Text.trimmed output.stdout, "--- stderr ---", Text.trimmed output.stderr]
  Text.trimmed ("\n".intercalate lines) ++ "\n"

end Summary

def ofRun (output : RunOutput) (goal : Option String) : CoverageReport :=
  let table := Coverage.parseTable output.stdout
  let known := goal.bind CoverageGoal.parse?
  let met := do
    let g ← known
    let percent ← table.percent
    return g.isMet percent
  { percent := table.percent
    missingLines := table.missingLines
    goal
    goalMet := met
    output
    summary := summarize table known met output }

end CoverageReport

end CodeReview

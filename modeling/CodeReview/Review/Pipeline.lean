import CodeReview.Config.Settings
import CodeReview.Index.Retriever
import CodeReview.Lint.Source
import CodeReview.Metrics.Record
import CodeReview.Review.Merge
import CodeReview.Review.Prompt

/-!
Reviewing a request: context is retrieved, every file is linted, the model is asked for more, and the
findings of both are merged. Only the lint must succeed; whatever else fails leaves nothing behind.
-/

namespace CodeReview

inductive Stage
  | retrieve
  | lint
  | suggest
  | mergeAndEmit
  deriving DecidableEq, Repr

namespace Stage

def all : List Stage := [.retrieve, .lint, .suggest, .mergeAndEmit]

def name : Stage → String
  | .retrieve => "retrieve"
  | .lint => "lint"
  | .suggest => "external_suggest"
  | .mergeAndEmit => "merge_and_emit"

end Stage

structure Pipeline where
  settings : ReviewSettings := {}
  /-- Branches above which a callable is reported. -/
  branchLimit : Nat := Lint.defaultLimit
  retriever : Option Retriever := none
  /-- Number of documents to retrieve. -/
  topK : Nat := 5
  provider : Option Provider := none

structure Clock where
  now : Timestamp
  elapsed : Decimal.Double
  deriving DecidableEq, Repr

structure Reviewed where
  response : ReviewResponse
  metrics : ReviewMetrics
  slot : Slot

namespace Pipeline

section Retrieving

/-- The new code of all files, which is what documents are looked up for. -/
def query (request : ReviewRequest) : String :=
  "\n".intercalate (request.diffs.filterMap FileDiff.newCode)

def context (p : Pipeline) (files : Files) (slot : Slot) (request : ReviewRequest) :
    Asked (Slot × List Document) :=
  match p.retriever with
  | none => pure (slot, [])
  | some retriever =>
      if (Text.trimmed (query request)).isEmpty then pure (slot, [])
      else do
        match ← retriever.retrieve files slot (query request) p.topK with
        | (slot, .ok (.success documents)) => return (slot, documents)
        | (slot, .ok (.degraded _)) => return (slot, [])
        | (slot, .error _) => return (slot, [])

end Retrieving

section Linting

def lintDiff (limit : Nat) (d : FileDiff) : List Finding :=
  match d.newText with
  | some code => Lint.source limit d.filename code
  | none => []

def lintAll (p : Pipeline) (request : ReviewRequest) : List Finding :=
  request.diffs.flatMap (lintDiff p.branchLimit)

end Linting

section Suggesting

def readAnswer (model : String) : Except Failure String → Outcome (List Finding)
  | .error failure => .degraded failure.message
  | .ok raw =>
      match parseFindings raw with
      | .ok findings => .success (findings.map fun f => f.withModel model)
      | .error e => .degraded ("Unparseable suggestions: " ++ e.message)

def suggest (p : Pipeline) (request : ReviewRequest) (lint : List Finding)
    (context : List Document) : Asked (Outcome (List Finding)) :=
  if !p.settings.suggestionsEnabled then pure (.success [])
  else
    match p.provider with
    | none => pure (.success [])
    | some provider => do
        let answer ← provider.askReview p.settings.suggestionTimeout
          (reviewPrompt request lint context)
        return readAnswer provider.model answer

end Suggesting

def run (p : Pipeline) (clock : Clock) (files : Files) (slot : Slot) (request : ReviewRequest) :
    Asked Reviewed := do
  let (slot, context) ← p.context files slot request
  let lint := p.lintAll request
  let suggestions ← p.suggest request lint context
  let findings := merge (lint ++ suggestions.getD [])
  return {
    response := { findings }
    metrics := {
      timestamp := clock.now
      identifier := request.identifier
      findingsCount := findings.length
      contextSources := context.map Document.source
      duration := clock.elapsed }
    slot }

end Pipeline

end CodeReview

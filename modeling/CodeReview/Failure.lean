import CodeReview.Coverage.ModulePath
import CodeReview.Index.Store
import CodeReview.Review.Answer

/-!
All that can go wrong in a review, a generation of tests or the building of an index.
-/

namespace CodeReview

inductive Failure
  | configuration (message : String)
  | invalidSetting (field message : String)
  | missingApiKey (provider : String)
  | network (message : String)
  | provider (message : String)
  | timeout (seconds : Nat)
  | index (error : IndexError)
  | modulePath (path : String) (refusal : PathRefusal)
  /-- The workspace for a run of tests could not be made. -/
  | workspace (error : FileError)
  | answer (error : AnswerError)
  | file (error : FileError)
  | json (refusal : Decode.Refusal)
  | toml
  | internal (message : String)
  deriving DecidableEq, Repr

namespace Failure

def message : Failure → String
  | .configuration m => "Configuration error: " ++ m
  | .invalidSetting field m => "Invalid configuration: " ++ field ++ " - " ++ m
  | .missingApiKey p => "API key not found for provider: " ++ p
  | .network m => "Network error: " ++ m
  | .provider m => "Provider error: " ++ m
  | .timeout s => "Provider call timed out after " ++ toString s ++ "s"
  | .index e => e.message
  | .modulePath path r => r.message path
  | .workspace e => "Sandbox workspace error: " ++ e.message
  | .answer e => e.message
  | .file e => "IO error: " ++ e.message
  | .json _ => "JSON error"
  | .toml => "TOML parse error"
  | .internal m => "Internal error: " ++ m

/-- Failures of the model provider, without whose answer the work goes on. -/
def isProviderFailure : Failure → Bool
  | .network _ | .provider _ | .timeout _ => true
  | _ => false

end Failure

/-- Why a call has no result: it returns a failure, or it panics and does not return. -/
inductive Breakdown
  | failure (failure : Failure)
  | panic (message : String)
  deriving DecidableEq, Repr

end CodeReview

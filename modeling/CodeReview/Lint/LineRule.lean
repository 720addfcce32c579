import CodeReview.Review.Finding
import CodeReview.Text.Search

/-!
Rules that look at one line at a time. They read the text and not the code: a mark inside a string or a
comment counts as well.
-/

namespace CodeReview

inductive LineRule
  | todoMarker
  | printCall
  | bareExcept
  | evalCall
  | hardcodedSecret
  deriving DecidableEq, Repr

namespace LineRule

open Text

/-- In the order in which the findings of one line are reported. -/
def all : List LineRule := [.todoMarker, .printCall, .bareExcept, .evalCall, .hardcodedSecret]

def id : LineRule → String
  | .todoMarker => "todo-marker"
  | .printCall => "print-call"
  | .bareExcept => "bare-except"
  | .evalCall => "eval-call"
  | .hardcodedSecret => "hardcoded-secret"

def applies (rule : LineRule) (line : List Char) : Bool :=
  match rule with
  | .todoMarker => contains line "TODO".toList
  | .printCall => startsWith (trim line) "print(".toList
  | .bareExcept => startsWith (trim line) "except:".toList
  | .evalCall => contains (trim line) "eval(".toList
  | .hardcodedSecret => contains (lower line) "password".toList && line.contains '='

def severity : LineRule → Severity
  | .todoMarker => .info
  | .printCall | .hardcodedSecret => .warning
  | .bareExcept | .evalCall => .critical

def message : LineRule → String
  | .todoMarker => "TODO left in code; either address or convert to tracked issue."
  | .printCall => "Replace print with structured logging for observability."
  | .bareExcept =>
      "Bare except found; catch specific exception types to avoid masking errors."
  | .evalCall =>
      "Use of eval is unsafe; prefer explicit parsing or whitelisted operations."
  | .hardcodedSecret =>
      "Potential secret in code; ensure credentials are loaded from environment or vault."

def broken (line : List Char) : List LineRule := all.filter fun rule => rule.applies line

end LineRule

end CodeReview

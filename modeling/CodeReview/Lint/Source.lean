import CodeReview.Lint.LineRule
import CodeReview.Python.Analysis

/-!
Linting one source: first the line rules over all lines, then, when the source is a module, the rules
about its callables.
-/

namespace CodeReview.Lint

def lineFindings (filename : String) (number : Nat) (line : List Char) : List Finding :=
  (LineRule.broken line).map fun rule =>
    Finding.lint filename number rule.severity rule.message

def numberedFindings (filename : String) (number : Nat) : List (List Char) → List Finding
  | [] => []
  | line :: rest => lineFindings filename number line ++ numberedFindings filename (number + 1) rest

def lines (filename source : String) : List Finding :=
  numberedFindings filename 1 (Text.lines source.toList)

def docstringMessage (name : String) : String := "Function '" ++ name ++ "' is missing a docstring."

def branchMessage (name : String) (branches : Nat) : String :=
  "Function '" ++ name ++ "' has high branch count (" ++ toString branches ++
    "); consider refactoring."

def callableFindings (limit : Nat) (filename : String) (c : Python.Callable) : List Finding :=
  let d := c.definition
  (if c.hasDocstring then [] else [.lint filename d.line .info (docstringMessage d.name)]) ++
    (if limit < c.complexity then
      [.lint filename d.line .warning (branchMessage d.name c.complexity)] else [])

/-- Branch count above which a callable is reported unless another limit is asked for. -/
def defaultLimit : Nat := 10

def callables (limit : Nat) (filename source : String) : List Finding :=
  (Python.callables source).flatMap (callableFindings limit filename)

def source (limit : Nat) (filename source : String) : List Finding :=
  lines filename source ++ callables limit filename source

end CodeReview.Lint

import CodeReview.Python.Statement
import CodeReview.Text.Search
import CodeReview.Text.Blank

/-!
What a source tells without being run: its callables with their positional parameters, the number of
its branches, and the edge cases that its text mentions. A source that is no module has no callables
and counts as one branch; its edge cases are still found, because they are looked up in the text.
-/

namespace CodeReview.Python

section Callables

structure Signature where
  name : String
  args : List String
  deriving DecidableEq, Repr

/-- The parameters that a call by position can fill: those before the first star. -/
def positional : List Parameter → List String
  | [] => []
  | .plain name :: rest | .default name :: rest | .typed name :: rest | .typedDefault name :: rest =>
      name :: positional rest
  | .group :: rest | .slash :: rest => positional rest
  | .star :: _ | .rest _ :: _ | .keywords _ :: _ => []

def Definition.signature (d : Definition) : Signature := ⟨d.name, positional d.parameters⟩

structure Callable where
  definition : Definition
  hasDocstring : Bool
  /-- Branches of the whole definition, inner definitions included. -/
  complexity : Nat
  deriving DecidableEq, Repr

def Opening.isBranch : Opening → Bool
  | .ifWord | .elifWord | .forWord | .whileWord | .tryWord => true
  | _ => false

def Label.isBranch : Label → Bool
  | .clause opening => opening.isBranch
  | _ => false

mutual

def Tree.branches : Tree → Nat
  | .node label children => (if label.isBranch then 1 else 0) + branchesOf children

def branchesOf : List Tree → Nat
  | [] => 0
  | tree :: trees => tree.branches + branchesOf trees

end

def opensWithText : List Tree → Bool
  | [] => false
  | tree :: _ => tree.label == .text

mutual

def Tree.callables : Tree → List Callable
  | .node label children =>
      match label with
      | .function d => ⟨d, opensWithText children, branchesOf children⟩ :: callablesOf children
      | _ => callablesOf children

def callablesOf : List Tree → List Callable
  | [] => []
  | tree :: trees => tree.callables ++ callablesOf trees

end

end Callables

section EdgeCases

inductive EdgeCase
  | conditional | tryBlock | exceptHandler | raises | returnsNone
  | lengthCheck | zeroComparison | negativeComparison | positiveComparison
  deriving DecidableEq, Repr

namespace EdgeCase

def all : List EdgeCase :=
  [.conditional, .tryBlock, .exceptHandler, .raises, .returnsNone, .lengthCheck, .zeroComparison,
    .negativeComparison, .positiveComparison]

def pattern : EdgeCase → String
  | .conditional => "if "
  | .tryBlock => "try:"
  | .exceptHandler => "except"
  | .raises => "raise"
  | .returnsNone => "return None"
  | .lengthCheck => "len("
  | .zeroComparison => "== 0"
  | .negativeComparison => "< 0"
  | .positiveComparison => "> 0"

def tag (e : EdgeCase) : String := Text.trimmed e.pattern

def id : EdgeCase → String
  | .conditional => "conditional"
  | .tryBlock => "try_block"
  | .exceptHandler => "except_handler"
  | .raises => "raise"
  | .returnsNone => "returns_none"
  | .lengthCheck => "length_check"
  | .zeroComparison => "zero_comparison"
  | .negativeComparison => "negative_comparison"
  | .positiveComparison => "positive_comparison"

def ofId? (id : String) : Option EdgeCase := all.find? fun e => e.id == id

def detect (code : String) : List EdgeCase := all.filter fun e => Text.containsText code e.pattern

end EdgeCase

end EdgeCases

structure Analysis where
  signatures : List Signature
  edgeCases : List EdgeCase
  complexity : Nat
  parsed : Bool
  deriving DecidableEq, Repr

def callables (code : String) : List Callable :=
  match readModule code.toList with
  | some trees => callablesOf trees
  | none => []

def signatures (code : String) : List Signature :=
  (callables code).map fun c => c.definition.signature

def complexity (code : String) : Nat :=
  match readModule code.toList with
  | some trees => branchesOf trees
  | none => 1

def analyze (code : String) : Analysis :=
  match readModule code.toList with
  | some trees =>
      { signatures := (callablesOf trees).map fun c => c.definition.signature
        edgeCases := EdgeCase.detect code
        complexity := branchesOf trees
        parsed := true }
  | none =>
      { signatures := [], edgeCases := EdgeCase.detect code, complexity := 1, parsed := false }

end CodeReview.Python

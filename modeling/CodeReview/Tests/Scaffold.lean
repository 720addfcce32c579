import CodeReview.Files.Path
import CodeReview.Python.Analysis
import CodeReview.Tests.Request
import CodeReview.Text.LetterCase

/-!
The scaffold of a test file: for every callable of a source one test that calls it with a value for each
positional parameter and expects an answer. The values are chosen by the names of the parameters.
-/

namespace CodeReview.Scaffold

open Text

section Names

def unbackslashed (path : List Char) : List Char := path.map fun c => if c == '\\' then '/' else c

def withoutExtension (path : List Char) : List Char :=
  match splitLast path '.' with
  | some (before, extension) =>
      if extension.contains '/' || before.isEmpty || before.getLast? == some '/' then path else before
  | none => path

def dropCurrent : List Char → List Char
  | '.' :: '/' :: rest => dropCurrent rest
  | path => path

/-- The name under which a file is imported. -/
def moduleName (path : List Char) : List Char :=
  (dropCurrent (withoutExtension (unbackslashed path))).map fun c => if c == '/' then '.' else c

def testFile (path : List Char) : List Char :=
  let stem := match Path.fileName? path with
    | some name => Path.stem name
    | none => "module".toList
  "tests/test_".toList ++ stem ++ ".py".toList

end Names

section Values

inductive ValueKind
  | path | count | flag | list | mapping | other
  deriving DecidableEq, Repr

namespace ValueKind

def literal : ValueKind → String
  | .path => "\"/tmp/example\""
  | .count => "1"
  | .flag => "True"
  | .list => "[]"
  | .mapping => "\x7b\x7d"
  | .other => "\"sample\""

/-- The kinds in the order in which they are tried, with the parts of a name that tell them. -/
def hints : List (ValueKind × List String) :=
  [(.path, ["path"]), (.count, ["count", "size", "idx", "index", "num"]),
    (.flag, ["flag", "is_", "has_", "enabled"]), (.list, ["list", "items", "values"]),
    (.mapping, ["dict", "mapping", "config"])]

def ofName (name : String) : ValueKind :=
  let lowered := lower name.toList
  match hints.find? fun h => h.2.any fun part => contains lowered part.toList with
  | some (kind, _) => kind
  | none => .other

end ValueKind

def placeholder (name : String) : String := (ValueKind.ofName name).literal

end Values

section Code

open Python

def bodyLines (s : Signature) (edgeCases : List EdgeCase) : List String :=
  s.args.map (fun arg => arg ++ "_value = " ++ placeholder arg) ++
    ["result = module." ++ s.name ++ "(" ++ ", ".intercalate (s.args.map (· ++ "_value")) ++ ")",
      "assert result is not None"] ++
    (if edgeCases.isEmpty then []
      else ["# Edge cases noted: " ++ ", ".intercalate (edgeCases.map EdgeCase.tag)])

def indented (line : String) : String := "    " ++ line

def testLines (edgeCases : List EdgeCase) (s : Signature) : List String :=
  ("def test_" ++ s.name ++ "_returns_value():") :: ((bodyLines s edgeCases).map indented ++ [""])

def placeholderLines : List String :=
  ["def test_placeholder():",
    indented "pytest.skip('No callable functions detected; add tests manually.')"]

def fileLines (moduleName : String) (signatures : List Signature) (edgeCases : List EdgeCase) :
    List String :=
  ["import importlib", "import pytest",
    "module = importlib.import_module('" ++ moduleName ++ "')", ""] ++
    (if signatures.isEmpty then placeholderLines else signatures.flatMap (testLines edgeCases))

def fileText (lines : List String) : String :=
  String.ofList (trimEnd ("\n".intercalate lines).toList ++ ['\n'])

end Code

def synthesize (path code : String) : GeneratedTest :=
  let analysis := Python.analyze code
  { filePath := String.ofList (testFile path.toList)
    testCode := fileText
      (fileLines (String.ofList (moduleName path.toList)) analysis.signatures analysis.edgeCases)
    sources := .ofList [.staticAnalysis] }

end CodeReview.Scaffold

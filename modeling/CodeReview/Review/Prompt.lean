import CodeReview.Index.Document
import CodeReview.Python.Analysis
import CodeReview.Review.Request

/-!
The texts sent to a model. A template has marks, names between braces; every mark whose name has a value
is replaced by it, once: what is inserted is not searched for marks again.
-/

namespace CodeReview

section Templates

def isMarkChar (c : Char) : Bool := ('a' ≤ c && c ≤ 'z') || c == '_'

def markName? (cs : List Char) : Option (List Char) :=
  match cs.span isMarkChar with
  | (c :: name, '\x7d' :: _) => some (c :: name)
  | _ => none

/-- Fills a template from which the next `skip` characters have been used already. -/
def fillFrom (values : List (String × String)) (skip : Nat) : List Char → List Char
  | [] => []
  | c :: rest =>
      match skip with
      | n + 1 => fillFrom values n rest
      | 0 =>
          match if c == '\x7b' then markName? rest else none with
          | none => c :: fillFrom values 0 rest
          | some name =>
              let text :=
                match values.find? fun v => v.1.toList == name with
                | some v => v.2.toList
                | none => '\x7b' :: (name ++ ['\x7d'])
              text ++ fillFrom values (name.length + 1) rest

def fillTemplate (template : String) (values : List (String × String)) : String :=
  String.ofList (fillFrom values 0 template.toList)

end Templates

def noneMarker : String := "(none)"

def lintSummary (findings : List Finding) : String :=
  if findings.isEmpty then noneMarker else "\n".intercalate (findings.map Finding.summaryLine)

def contextLine? (d : Document) : Option String :=
  match d.chunk with
  | some chunk =>
      let text := Text.trimmed chunk
      if text.isEmpty then none else some ("[" ++ d.source ++ "] " ++ text)
  | none => none

def contextSummary (documents : List Document) : String :=
  match documents.filterMap contextLine? with
  | [] => noneMarker
  | lines => "\n".intercalate lines

section Review

def reviewTemplate : String :=
  "\n".intercalate
    ["You are an expert senior software engineer doing a precise code review.",
      "Be strict, factual, and constructive.",
      "",
      "Pull Request Title: \x7btitle\x7d",
      "Repository: \x7brepo\x7d",
      "PR Number: \x7bnumber\x7d",
      "",
      "Code to review:",
      "\x7bdiffs\x7d",
      "Existing lint findings:",
      "\x7blint\x7d",
      "",
      "Relevant repository context:",
      "\x7bcontext\x7d",
      "",
      "Task:",
      "1. Identify issues, code smells, anti-patterns, missing documentation, edge cases, and test gaps.",
      "2. Do not repeat existing lint findings.",
      "3. For each finding, return the filename, a line number (best estimate if unknown),",
      "   a severity (info | warning | critical) and a concise fix recommendation.",
      "",
      "Respond in this format (no extra commentary):",
      "FINDINGS:",
      "- filename: <file> | line: <num> | severity: <severity> | message: <text>"]

def diffSeparator : String := String.ofList (List.replicate 60 '-')

def diffBlock (d : FileDiff) : String :=
  match d.newText with
  | some code => "FILE: " ++ d.filename ++ "\nNEW CODE:\n" ++ code ++ "\n" ++ diffSeparator ++ "\n"
  | none => ""

def reviewPrompt (request : ReviewRequest) (lint : List Finding) (context : List Document) : String :=
  fillTemplate reviewTemplate
    [("title", request.prTitle.getD "-"), ("repo", request.repoName.getD "-"),
      ("number", request.identifier), ("diffs", String.join (request.diffs.map diffBlock)),
      ("lint", lintSummary lint), ("context", contextSummary context)]

end Review

section Tests

def testTemplate : String :=
  "\n".intercalate
    ["You are an expert Python engineer generating unit tests using pytest.",
      "",
      "Code under test:",
      "--------------",
      "\x7bcode\x7d",
      "--------------",
      "",
      "Function signatures detected:",
      "\x7bsignatures\x7d",
      "",
      "Edge cases to consider:",
      "\x7bedges\x7d",
      "",
      "Estimated cyclomatic complexity: \x7bcomplexity\x7d",
      "",
      "Requirements:",
      "- Use pytest style (no unittest class)",
      "- Include boundary cases, error handling and branches",
      "- Avoid mocking unless necessary",
      "- Make tests deterministic",
      "- Do not add explanations, comments, or markdown",
      "",
      "Output format (strict):",
      "TEST_FILE:",
      "<file_name>",
      "TEST_CODE:",
      "<full test file content>"]

def bulletList (items : List String) : String :=
  if items.isEmpty then "None" else "\n".intercalate (items.map fun item => "- " ++ item)

def signatureText (s : Python.Signature) : String :=
  s.name ++ "(" ++ ", ".intercalate s.args ++ ")"

def testPrompt (code : String) (analysis : Python.Analysis) : String :=
  fillTemplate testTemplate
    [("code", code), ("signatures", bulletList (analysis.signatures.map signatureText)),
      ("edges", bulletList (analysis.edgeCases.map Python.EdgeCase.tag)),
      ("complexity", toString analysis.complexity)]

end Tests

end CodeReview

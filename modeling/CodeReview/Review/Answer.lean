import CodeReview.Review.Finding
import CodeReview.Text.DecimalDigit
import CodeReview.Text.Search

/-!
Reading what a model answers. Findings come as a JSON object or as lines of four labelled parts with
bars between them; generated tests come as a file name and code after two markers. Either may be wrapped
in a code fence.
-/

namespace CodeReview

open Text

inductive AnswerError
  | noFindings
  | missingMarker (marker : String)
  | emptyTestCode
  /-- The answer begins like a JSON object but is none that holds findings. -/
  | json (refusal : Decode.Refusal)
  deriving DecidableEq, Repr

namespace AnswerError

/-- The wording; the details of a JSON problem are left to whoever shows them. -/
def message : AnswerError → String
  | .noFindings => "Model output contained no findings block"
  | .missingMarker marker => "Model test output missing " ++ marker ++ " marker"
  | .emptyTestCode => "Model test output has no code"
  | .json _ => "Model output is not valid JSON"

end AnswerError

section Fences

def fence : List Char := ['\x60', '\x60', '\x60']

/-- What stands inside a code fence, or the text itself when it does not begin with one. -/
def stripFences (cs : List Char) : List Char :=
  match dropLead? cs fence with
  | none => cs
  | some opened =>
      match opened.dropWhile (· != '\n') with
      | [] => []
      | _ :: body => trimEnd ((dropTail? (trimEnd body) fence).getD body)

end Fences

section Lines

def clampLine (n : Int) : Nat := (max 1 (min n 4294967295)).toNat

def parseWhole? (cs : List Char) : Option Int :=
  let (negative, digits) := match cs with
    | '-' :: rest => (true, rest)
    | '+' :: rest => (false, rest)
    | _ => (false, cs)
  if digits.isEmpty || !digits.all Char.isDigit then none
  else
    let size : Int := digits.foldl (fun n c => n * 10 + (c.toNat - 48 : Nat)) 0
    let value := if negative then -size else size
    if -9223372036854775808 ≤ value && value ≤ 9223372036854775807 then some value else none

def afterLabel? (cs : List Char) (label : String) : Option (List Char) :=
  dropLead? (trimStart cs) label.toList

/-- A part up to the next bar, which is passed. A part may be blank but not empty. -/
def partBeforeBar? (cs : List Char) : Option (List Char × List Char) :=
  match cs.span (· != '|') with
  | (_ :: _, _ :: rest) => some (trim (cs.takeWhile (· != '|')), rest)
  | _ => none

/-- A line number and the bar after it. Digits of any script are taken for a number. -/
def numberBeforeBar? (cs : List Char) : Option (Int × List Char) :=
  let cs := trimStart cs
  let (sign, cs) := match cs with
    | '-' :: rest => (['-'], rest)
    | _ => ([], cs)
  match cs.span isDecimalDigit with
  | ([], _) => none
  | (digits, rest) =>
      match trimStart rest with
      | '|' :: rest => some ((parseWhole? (sign ++ digits)).getD 1, rest)
      | _ => none

/-- A line such as `- filename: a.py | line: 3 | severity: info | message: text`. -/
def parseFindingLine (line : List Char) : Option Finding := do
  let rest ← dropLead? line ['-']
  let (file, rest) ← partBeforeBar? (← afterLabel? rest "filename:")
  let (number, rest) ← numberBeforeBar? (← afterLabel? rest "line:")
  let (severity, rest) ← partBeforeBar? (← afterLabel? rest "severity:")
  let message ← afterLabel? rest "message:"
  if message.isEmpty then none
  else
    some (.llm (String.ofList file) (clampLine number) (.lenient (String.ofList severity))
      (String.ofList (trim message)))

def lineFindings (body : List Char) : List Finding :=
  (((lines body).map trim).filter fun line => !line.isEmpty && line != "FINDINGS:".toList).filterMap
    parseFindingLine

end Lines

section Objects

open Decode

structure RawFinding where
  filename : Option String
  line : Option Json
  severity : Option String
  message : Option String

namespace RawFinding

def decode : Decoder RawFinding := fun scan => do
  let line : Decoder (Option Json) := optional (anything 3)
  let r ← record
    [defaulted "filename" (optional text), defaulted "line" line,
      defaulted "severity" (optional text), defaulted "message" (optional text)] scan
  return {
    filename := ← r.getOptional "filename" text
    line := ← r.getOptional "line" (anything 3)
    severity := ← r.getOptional "severity" text
    message := ← r.getOptional "message" text }

/-- A line may be a number or the text of one; anything else counts as line 1. -/
def lineNumber (f : RawFinding) : Int :=
  match f.line with
  | some (.integer n) => if n ≤ 9223372036854775807 then n else 1
  | some (.text s) => (parseWhole? (trim s.toList)).getD 1
  | _ => 1

def toFinding (f : RawFinding) : Finding :=
  .llm (f.filename.getD "unknown") (clampLine f.lineNumber) (.lenient (f.severity.getD "info"))
    (f.message.getD "LLM suggestion")

end RawFinding

def objectFindings (body : List Char) : Decoded (List Finding) :=
  wholeText (fun scan => do
    let r ← record [defaulted "findings" (listOf RawFinding.decode)] scan
    let raw ← r.getD "findings" (listOf RawFinding.decode) []
    return raw.map RawFinding.toFinding) (String.ofList body)

end Objects

/-- An answer that begins with a brace is read as an object first; when that fails, or otherwise, the
lines that have the four parts are taken and all others ignored. -/
def parseFindings (raw : String) : Except AnswerError (List Finding) :=
  let body := stripFences (trim raw.toList)
  let byLines (e : AnswerError) : Except AnswerError (List Finding) :=
    match lineFindings body with
    | [] => .error e
    | findings => .ok findings
  if startsWith body ['\x7b'] then
    match objectFindings body with
    | .ok findings => .ok findings
    | .error e => byLines (.json e)
  else byLines .noFindings

section Tests

structure TestAnswer where
  fileName : String
  code : String
  deriving DecidableEq, Repr

def fileMarker : String := "TEST_FILE:"

def codeMarker : String := "TEST_CODE:"

def findFileMarker : List (List Char) → Option (List Char × List (List Char))
  | [] => none
  | line :: rest =>
      match dropLead? (trim line) fileMarker.toList with
      | some name => some (trim name, rest)
      | none => findFileMarker rest

/-- The file name and the lines after the code marker. A name missing from the file marker is the first
line before the code marker that is not blank. -/
def findCodeMarker (name : List Char) : List (List Char) → Option (List Char × List (List Char))
  | [] => none
  | line :: rest =>
      let line := trim line
      if line == codeMarker.toList then some (name, rest)
      else findCodeMarker (if name.isEmpty then line else name) rest

def stripBackticks (cs : List Char) : List Char :=
  let isTick (c : Char) : Bool := c == '\x60'
  trim ((((trim cs).dropWhile isTick).reverse.dropWhile isTick).reverse)

def joinLines : List (List Char) → List Char
  | [] => []
  | [line] => line
  | line :: rest => line ++ '\n' :: joinLines rest

def parseTestAnswer (raw : String) : Except AnswerError TestAnswer :=
  match findFileMarker (lines raw.toList) with
  | none => .error (.missingMarker fileMarker)
  | some (name, rest) =>
      match findCodeMarker name rest with
      | none => .error (.missingMarker codeMarker)
      | some (name, rest) =>
          let code := trimEnd (stripFences (trim (joinLines rest)))
          if (trim code).isEmpty then .error .emptyTestCode
          else
            .ok { fileName := String.ofList (stripBackticks name)
                  code := String.ofList (code ++ ['\n']) }

end Tests

end CodeReview

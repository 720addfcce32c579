import CodeReview.CommandLine.Arguments
import CodeReview.Config.Document
import CodeReview.Engine.Service

/-!
Carrying out a command: the settings are resolved, the service is set up, and its answer is printed as
JSON. What goes wrong is told on the error stream, the occasion first and the cause after it.
-/

namespace CodeReview.CommandLine

open CodeReview.Settings (Environment)

structure Ended where
  exitCode : Nat
  stdout : String := ""
  stderr : String := ""
  deriving DecidableEq, Repr

structure Surroundings where
  environment : Environment
  send : ChatApi.Transport
  machine : Machine
  clock : Clock

/-- Why a command gives no answer. A failure is told with its occasion; a panic ends the program. -/
inductive Trouble
  | failure (occasion cause : String)
  | panic (message : String)
  deriving DecidableEq, Repr

def Trouble.ended : Trouble → Ended
  | .failure occasion cause =>
      { exitCode := 1, stderr := "Error: " ++ occasion ++ "\n\nCaused by:\n    " ++ cause ++ "\n" }
  | .panic message =>
      { exitCode := 101, stderr := "thread 'main' panicked:\n" ++ message ++ "\n" }

def Stop.ended : Stop → Ended
  | .help verb => { exitCode := 0, stdout := helpPage verb }
  | .version => { exitCode := 0, stdout := programName ++ " " ++ release ++ "\n" }
  | .misused verb e => { exitCode := 2, stderr := e.message verb }

def printed (j : Json) : Ended := { exitCode := 0, stdout := j.pretty ++ "\n" }

section Carrying

def occasioned {α : Type} (occasion : String) : Except Failure α → Except Trouble α
  | .ok a => .ok a
  | .error e => .error (.failure occasion e.message)

def occasionedCall {α : Type} (occasion : String) : Except Breakdown α → Except Trouble α
  | .ok a => .ok a
  | .error (.failure e) => .error (.failure occasion e.message)
  | .error (.panic message) => .error (.panic message)

def readText (files : Files) (path : String) : Except Trouble String :=
  let trouble : String → Trouble := .failure ("Failed to read " ++ path)
  match files.read path.toList with
  | .error e => .error (trouble e.message)
  | .ok bytes =>
      match Text.ofUtf8? bytes with
      | some cs => .ok (String.ofList cs)
      | none => .error (trouble "stream did not contain valid UTF-8")

def readRequest (files : Files) (path : String) : Except Trouble ReviewRequest := do
  let raw ← readText files path
  occasioned ("Invalid review request in " ++ path)
    ((Decode.wholeText ReviewRequest.decode raw).mapError .json)

def carryOut (e : Engine) (clock : Clock) (command : Command) (files : Files) :
    Files × Except Trouble Json :=
  match command with
  | .review input =>
      match readRequest files input with
      | .error trouble => (files, .error trouble)
      | .ok request =>
          let (session, response) := (e.review clock request { files }).value
          (session.files, .ok response.toJson)
  | .generateTests file goal _ =>
      match readText files file with
      | .error trouble => (files, .error trouble)
      | .ok code =>
          let request : TestRequest := { filePath := file, code, coverageGoal := goal }
          let result := occasionedCall ("Test generation failed for " ++ file)
            (e.generateTests request).value
          (files, result.map TestResponse.toJson)
  | .buildIndex root =>
      let (session, result) := (e.buildIndex root { files }).value
      (session.files,
        (occasioned ("Failed to build index from " ++ root) result).map IndexBuild.Stats.toJson)

/-- A command may ask for coverage, whatever the settings say. -/
def withCommand (s : Settings) : Command → Settings
  | .generateTests _ _ true => { s with testgen := { s.testgen with runCoverage := true } }
  | _ => s

def engineOf (around : Surroundings) (a : Arguments) (files : Files) : Except Trouble Engine := do
  let settings ← occasioned "Failed to load configuration"
    (Settings.resolve files a.config around.environment)
  let engine ← occasioned "Failed to initialize engine"
    (Engine.ofSettings around.send around.machine (withCommand settings a.command))
  return { engine with pythonPath := around.environment "PYTHONPATH" }

end Carrying

structure Scope where
  /-- Files, and directories with the files in them. -/
  paths : List String := []
  /-- A directory with all below it. -/
  tree : Option String := none
  deriving DecidableEq, Repr

/-- What a command line lets the program look at: what the words name, and what the settings name once they
can be read. -/
def Scope.of (environment : Environment) (words : List String) (files : Files) : Scope :=
  match parse words with
  | .error _ => {}
  | .ok a =>
      let inSettings := match Settings.resolve files a.config environment with
        | .error _ => []
        | .ok s => [s.retrieval.indexDir, s.metrics.path]
      { paths := a.namedFiles ++ inSettings, tree := a.tree? }

def run (around : Surroundings) (words : List String) (files : Files) : Files × Ended :=
  match parse words with
  | .error stop => (files, stop.ended)
  | .ok a =>
      match engineOf around a files with
      | .error trouble => (files, trouble.ended)
      | .ok engine =>
          match carryOut engine around.clock a.command files with
          | (files, .ok answer) => (files, printed answer)
          | (files, .error trouble) => (files, trouble.ended)

end CodeReview.CommandLine

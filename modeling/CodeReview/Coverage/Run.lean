import CodeReview.Coverage.Report
import CodeReview.Failure
import CodeReview.Files.Tree

/-!
Running tests under coverage. A module and its tests are written to a workspace of their own, an
interpreter is started there, and what it prints becomes a report. Whatever goes wrong once the workspace
is there is part of the report.

The machine on which interpreters are started is given from outside: it says whether a program starts,
what it prints until it ends or its time is up, and what the clock shows. The clock ends somewhere, and a
program that may run until then makes the run panic.
-/

namespace CodeReview

inductive Ending
  | exited (code : Int)
  | killed
  /-- Its time was up, and it was killed with all it had started. -/
  | timedOut
  deriving DecidableEq, Repr

structure Printed where
  stdout : Bytes := []
  stderr : Bytes := []
  ending : Ending
  deriving DecidableEq, Repr

/-- What a program is started with. Its working directory is where relative paths start. -/
structure Launch where
  arguments : List (List Char)
  environment : List (List Char × List Char)
  files : Files
  deriving DecidableEq, Repr

structure Machine where
  /-- Whether a program, found by its name, starts, and what it does in a number of milliseconds. -/
  start : (program : String) → (limit : Nat) → Launch → FileResult Printed
  /-- What the clock shows when a program is started, in nanoseconds. -/
  clock : Nat

namespace Machine

/-- The first moment that a clock cannot show: its seconds are integers of 64 bits with a sign. -/
def endOfTime : Nat := 9223372036854775808 * 1000000000

def overflows (m : Machine) (milliseconds : Nat) : Bool :=
  endOfTime ≤ m.clock + milliseconds * 1000000

end Machine

structure CoverageSettings where
  python : String
  /-- In milliseconds. -/
  timeout : Nat
  /-- The search path for modules that the interpreter is to inherit. -/
  pythonPath : Option String := none
  deriving DecidableEq, Repr

namespace Workspace

def root : Place := ["tmp".toList, "coverage".toList]

def rootPath : List Char := '/' :: Path.ofNames root

def bare : Files :=
  { entries := [(["tmp".toList], .directory), (root, .directory)], here := root }

def pathOf (names : List (List Char)) : List Char := rootPath ++ '/' :: Path.ofNames names

def writeBelow (files : Files) (names : List (List Char)) (content : String) : FileResult Files := do
  let files ← files.makeDirectories (pathOf names.dropLast)
  files.write (pathOf names) (Text.utf8 content.toList)

def prepare (m : ModulePath) (source tests : String) : FileResult Files := do
  let files ← writeBelow bare m.relative source
  writeBelow files m.testFile tests

end Workspace

namespace CoverageRun

/-- A number of milliseconds in the largest unit that gives at least one. -/
def durationText (milliseconds : Nat) : String :=
  let seconds := milliseconds / 1000
  let part := milliseconds % 1000
  if milliseconds == 0 then "0ns"
  else if seconds == 0 then toString part ++ "ms"
  else if part == 0 then toString seconds ++ "s"
  else
    let digits := (Decimal.zeros (3 - (toString part).length) ++ toString part).toList
    toString seconds ++ "." ++
      String.ofList (digits.reverse.dropWhile (· == '0')).reverse ++ "s"

/-- The workspace comes before whatever is to be inherited. -/
def pythonPath (inherited : Option String) : List Char :=
  match inherited with
  | none => Workspace.rootPath
  | some paths => Workspace.rootPath ++ ':' :: paths.toList

def launch (s : CoverageSettings) (m : ModulePath) (files : Files) : Launch :=
  { arguments :=
      ["-m", "pytest", "-q", "--disable-warnings", "--maxfail=1", "--cov"].map String.toList ++
        [m.dotted, "--cov-report".toList, "term-missing".toList, Workspace.pathOf m.testFile]
    environment :=
      [("PYTHONPATH".toList, pythonPath s.pythonPath),
        ("PYTHONDONTWRITEBYTECODE".toList, ['1']), ("PWD".toList, Workspace.rootPath)]
    files }

def startProblem : FileError → String
  | .invalidPath => "nul byte found in provided data"
  | e => e.message

def output (s : CoverageSettings) : FileResult Printed → RunOutput
  | .error e => { stderr := "Failed to spawn '" ++ s.python ++ "': " ++ startProblem e }
  | .ok p =>
      let stdout := String.ofList (Text.ofUtf8Lossy p.stdout)
      let stderr := String.ofList (Text.ofUtf8Lossy p.stderr)
      match p.ending with
      | .exited code => { stdout, stderr, exitCode := some code }
      | .killed => { stdout, stderr }
      | .timedOut =>
          let gap := if stderr.isEmpty || stderr.endsWith "\n" then "" else "\n"
          { stdout
            stderr := stderr ++ gap ++ "Coverage run timed out after " ++ durationText s.timeout
            timedOut := true }

def overflowMessage : String := "overflow when adding duration to instant"

/-- What is reported of a program that was to be started. The moment until which its output is awaited is
only worked out for one that was. -/
def attended (machine : Machine) (s : CoverageSettings) :
    FileResult Printed → Except Breakdown RunOutput
  | .ok p =>
      if machine.overflows s.timeout then .error (.panic overflowMessage) else .ok (output s (.ok p))
  | .error e => .ok (output s (.error e))

def run (machine : Machine) (s : CoverageSettings) (path source tests : String)
    (goal : Option String) : Except Breakdown CoverageReport :=
  match ModulePath.parse path.toList with
  | .error refusal => .error (.failure (.modulePath path refusal))
  | .ok m =>
      match Workspace.prepare m source tests with
      | .error e => .error (.failure (.workspace e))
      | .ok files =>
          (attended machine s (machine.start s.python s.timeout (launch s m files))).map fun ended =>
            .ofRun ended goal

end CoverageRun

end CodeReview

import CodeReview.Coverage.Run
import CodeReview.Shell.Calculation
import CodeReview.Shell.Script
import CodeReview.Shell.Tools

/-!
Running a script. What it prints is noted with the time at which it is printed, counted from the start, so
that a run can be cut off at any time: what a script does after its time is up, or what it leaves running
behind it, is not seen.
-/

namespace CodeReview.Shell

structure Event where
  time : Nat
  stream : Nat
  bytes : Bytes
  deriving Repr

structure State where
  files : Files
  bindings : List (List Char × List Char)
  arguments : List (List Char)
  /-- What is left to read. -/
  input : Bytes := []
  /-- In milliseconds. -/
  time : Nat := 0
  /-- Nothing is done after this time. -/
  limit : Nat
  /-- Last one first. -/
  events : List Event := []
  status : Nat := 0
  ending : Option Ending := none
  /-- When what was started behind the script will be done. -/
  jobs : List Nat := []

namespace State

def isOver (s : State) : Bool := s.ending.isSome || decide (s.limit ≤ s.time)

def value? (s : State) (name : List Char) : Option (List Char) :=
  (s.bindings.find? fun v => v.1 == name).map (·.2)

def assign (s : State) (name value : List Char) : State :=
  { s with bindings := (name, value) :: s.bindings.filter fun v => v.1 != name }

def print (s : State) (stream : Nat) (bytes : Bytes) : State :=
  if bytes.isEmpty then s
  else { s with events := { time := s.time, stream, bytes } :: s.events }

def show_ (s : State) (p : Printout) : State :=
  { (s.print 1 p.stdout).print 2 p.stderr with status := p.status }

def printed (events : List Event) (stream : Nat) : Bytes :=
  events.reverse.flatMap fun e => if e.stream == stream then e.bytes else []

end State

def processNumber : List Char := "4321".toList

section Expanding

/-- A piece of an expanded word. Only pieces that were not quoted are split and have patterns in them. -/
structure Piece where
  text : List Char
  quoted : Bool
  deriving Repr

def isSplit (c : Char) : Bool := c == ' ' || c == '\t' || c == '\n'

/-- A word that is being put together: its characters, each with whether it is literal, last one first. -/
abbrev Field := List (Char × Bool)

def splitPieces (begun : Option Field) (done : List Field) : List Piece → List Field
  | [] => (begun.toList ++ done).reverse
  | p :: rest =>
      if p.quoted then
        splitPieces (some ((p.text.map fun c => (c, true)).reverse ++ begun.getD [])) done rest
      else
        let (begun, done) := p.text.foldl (fun (state : Option Field × List Field) c =>
          if isSplit c then (none, state.1.toList ++ state.2)
          else (some ((c, false) :: state.1.getD []), state.2)) (begun, done)
        splitPieces begun done rest

def fieldText (f : Field) : List Char := (f.map (·.1)).reverse

def patternOf (chars : List (Char × Bool)) : List (Option (Char × Bool)) :=
  chars.map fun (c, literal) => if c == '*' && !literal then none else some (c, literal)

def hasPattern (f : Field) : Bool := f.any fun (c, literal) => !literal && (c == '*' || c == '?')

def expandPattern (files : Files) (f : Field) : List (List Char) :=
  if !hasPattern f then [fieldText f]
  else
    let (name, above) := f.span fun c => c.1 != '/'
    let directory := fieldText above
    let where_ := if directory.isEmpty then ['.'] else directory
    let found := match files.find where_ with
      | .ok (place, .directory) => (files.children place).filterMap fun (n, _) =>
          if (n.head? != some '.' || name.getLast?.map (·.1) == some '.') &&
              matchesAll (patternOf name.reverse) n then some (directory ++ n) else none
      | _ => []
    if found.isEmpty then [fieldText f] else found

def dropFront (longest : Bool) (pattern : List (Option (Char × Bool))) (cs : List Char) : List Char :=
  let lengths := List.range (cs.length + 1)
  let lengths := if longest then lengths.reverse else lengths
  match lengths.find? fun n => matchesAll pattern (cs.take n) with
  | some n => cs.drop n
  | none => cs

def dropBack (longest : Bool) (pattern : List (Option (Char × Bool))) (cs : List Char) : List Char :=
  let lengths := List.range (cs.length + 1)
  let lengths := if longest then lengths else lengths.reverse
  match lengths.find? fun n => matchesAll pattern (cs.drop n) with
  | some n => cs.take n
  | none => cs

def withoutLastNewlines (cs : List Char) : List Char := (cs.reverse.dropWhile (· == '\n')).reverse

def parameter? (s : State) (name : List Char) : Option (List Char) :=
  match name with
  | ['$'] => some processNumber
  | ['?'] => some (toString s.status).toList
  | ['#'] => some (toString s.arguments.length).toList
  | ['@'] | ['*'] => some (spaced s.arguments)
  | ['!'] => some "4322".toList
  | ['0'] => some "sh".toList
  | _ =>
      match number? name with
      | some n => s.arguments[n - 1]?
      | none => s.value? name

end Expanding

section Running

/-- Whether a number stands for the process itself, or for its group. -/
def isSelf (word : List Char) : Bool :=
  word == processNumber || word == ['0'] || word == '-' :: processNumber

def isHarmless (signal : List Char) : Bool :=
  ["0", "17", "18", "23", "28", "CHLD", "CONT", "URG", "WINCH"].any fun name => name.toList == signal

/-- Ends the process by a signal, unless the signal is for others or ends nothing. -/
def kill (s : State) (words : List (List Char)) : State :=
  let (signal, targets) := match words with
    | ['-', 's'] :: signal :: rest => (signal, rest)
    | ('-' :: signal) :: rest => (signal, rest)
    | rest => ("TERM".toList, rest)
  let targets := targets.filter fun t => t != "--".toList
  if targets.any isSelf && !isHarmless signal then { s with ending := some .killed }
  else { s with status := 0 }

def makeDirectories (files : Files) (deep : Bool) (paths : List (List Char)) : FileResult Files :=
  paths.foldlM (fun files path =>
    if deep then files.makeDirectories path else files.makeDirectory (Files.pieces path)) files

/-- The first line of the input in a variable; the status tells whether there was a whole one. -/
def readLine (s : State) (names : List (List Char)) : State :=
  let (line, rest) := s.input.span (· != 0x0a)
  let text := (Text.ofUtf8Lossy line).dropWhile isSplit
  let text := (text.reverse.dropWhile isSplit).reverse
  let s := names.take 1 |>.foldl (fun s name => s.assign name text) s
  { s with input := rest.drop 1, status := if rest.isEmpty then 1 else 0 }

def change (s : State) (name : String) (changed : FileResult Files) : State :=
  match changed with
  | .ok files => { s with files, status := 0 }
  | .error e => s.show_ { stderr := Text.utf8 (name ++ ": " ++ e.message ++ "\n").toList, status := 1 }

def hasPaths (words : List (List Char)) : Bool := words.any fun w => w.head? != some '-'

/-- What is left of the input for the commands behind one that reads it to its end. -/
def drained (s : State) (p : Printout) : State := { s.show_ p with input := [] }

def builtin (s : State) (name : List Char) (words : List (List Char)) : State :=
  match String.ofList name with
  | "true" | ":" => { s with status := 0 }
  | "false" => { s with status := 1 }
  | "echo" => s.show_ (echo words)
  | "printf" => s.show_ (printf words)
  | "cat" =>
      let p := cat s.files s.input words
      if hasPaths words then s.show_ p else drained s p
  | "head" => s.show_ (head s.files s.input words)
  | "tail" => drained s (tail s.files s.input words)
  | "tr" => drained s (translate words s.input)
  | "sort" => drained s (sort words (inputOf s.files s.input words))
  | "seq" => s.show_ (sequence words)
  | "find" => s.show_ (find s.files words)
  | "ls" => s.show_ (list s.files words)
  | "wc" =>
      let p := count s.files words s.input
      if hasPaths words then s.show_ p else drained s p
  | "pwd" => s.show_ { stdout := Text.utf8 ('/' :: Path.ofNames s.files.here) ++ [0x0a] }
  | "basename" =>
      let path := words.headD []
      s.show_ { stdout := Text.utf8 ((Path.fileName? path).getD path) ++ [0x0a] }
  | "test" => { s with status := if holds s.files words then 0 else 1 }
  | "[" => { s with status := if holds s.files words.dropLast then 0 else 1 }
  | "read" => readLine s (words.filter fun w => w.head? != some '-')
  | "sleep" => { s with time := s.time + (milliseconds? (words.headD [])).getD 0, status := 0 }
  | "wait" => { s with time := s.jobs.foldl max s.time, jobs := [], status := 0 }
  | "exit" =>
      let code := match words with
        | word :: _ => (number? word).getD 2 % 256
        | [] => s.status
      { s with ending := some (.exited code) }
  | "kill" => kill s words
  | "shift" => { s with arguments := s.arguments.drop ((number? (words.headD ['1'])).getD 1), status := 0 }
  | "set" =>
      match words with
      | ['-', '-'] :: words => { s with arguments := words, status := 0 }
      | _ => { s with status := 0 }
  | "unset" => { s with bindings := s.bindings.filter fun v => !words.contains v.1, status := 0 }
  | "mkdir" =>
      change s "mkdir" (makeDirectories s.files (words.contains "-p".toList)
        (words.filter fun w => w.head? != some '-'))
  | "touch" => change s "touch" (words.foldlM (fun files path => files.append path []) s.files)
  | "rm" =>
      let force := words.any fun w => w.head? == some '-' && w.contains 'f'
      let changed := (words.filter fun w => w.head? != some '-').foldlM Files.remove s.files
      if force then { s with files := changed.toOption.getD s.files, status := 0 }
      else change s "rm" changed
  | "cd" =>
      match s.files.find (words.headD ['/']) with
      | .ok (place, .directory) => { s with files := { s.files with here := place }, status := 0 }
      | _ =>
          let text := "sh: cd: can't cd to " ++ String.ofList (words.headD []) ++ "\n"
          s.show_ { stderr := Text.utf8 text.toList, status := 2 }
  | "export" =>
      let s := words.foldl (fun s word =>
        match word.span (· != '=') with
        | (name, _ :: value) => s.assign name value
        | _ => s) s
      { s with status := 0 }
  | "trap" | "umask" | "ulimit" | "exec" => { s with status := 0 }
  | _ =>
      let text := "sh: " ++ String.ofList name ++ ": not found\n"
      s.show_ { stderr := Text.utf8 text.toList, status := 127 }

inductive Sink
  | stream (number : Nat)
  | file (path : List Char) (append : Bool)
  deriving Repr

def sinkOf (sinks : List (Nat × Sink)) (stream : Nat) : Sink :=
  match sinks.find? fun s => s.1 == stream with
  | some (_, sink) => sink
  | none => .stream stream

def deliver (sinks : List (Nat × Sink)) (s : State) (e : Event) : State :=
  match sinkOf sinks e.stream with
  | .stream number => { s with events := { e with stream := number } :: s.events }
  | .file path _ =>
      if path == "/dev/null".toList then s
      else
        match s.files.append path e.bytes with
        | .ok files => { s with files }
        | .error _ => s

def assignment? (word : Word) : Option (List Char × Word) :=
  match word with
  | .text cs false :: rest =>
      match cs.span isNameChar with
      | (c :: name, '=' :: value) =>
          if isNameStart c then some (c :: name, .text value false :: rest) else none
      | _ => none
  | _ => none

def piecesPattern (pieces : List Piece) : List (Option (Char × Bool)) :=
  pieces.flatMap fun p => patternOf (p.text.map fun c => (c, p.quoted))

/-- What a shell of its own leaves to the one it was started from. -/
def leave (s inner : State) : State :=
  let (status, ending) : Nat × Option Ending := match inner.ending with
    | some (.exited code) => (code.toNat, none)
    | some .killed => (inner.status, some .killed)
    | _ => (inner.status, none)
  let files := { inner.files with here := s.files.here }
  { s with files, time := inner.time, input := inner.input, events := inner.events, status, ending }

/-- A line of words that only leads streams elsewhere, for all that follows. -/
def lastingRedirects? : Statement → Option (List Redirect)
  | .run false [.simple [[.text name false]] redirects] =>
      if name == "exec".toList && !redirects.isEmpty then some redirects else none
  | _ => none

def repeatStep (rounds : Nat) (step : State → State × Bool) (s : State) : State :=
  match rounds with
  | 0 => { s with time := s.limit }
  | n + 1 =>
      match step s with
      | (s, true) => repeatStep n step s
      | (s, false) => s

/-- A loop is taken to be endless after this many rounds. -/
def mostRounds : Nat := 100000

def scriptOf? (name : List Char) (words : List (List Char)) :
    Option (Bool × List Char × Option (List (List Char))) :=
  match String.ofList name, words with
  | "sh", ['-', 'c'] :: script :: words | "/bin/sh", ['-', 'c'] :: script :: words =>
      some (true, script, some words.tail)
  | "eval", words => some (false, spaced words, none)
  | _, _ => none

def notAScript (s : State) : State :=
  s.show_ { stderr := Text.utf8 "sh: syntax error\n".toList, status := 2 }

mutual

def expandPart (fuel : Nat) (s : State) (part : Part) : State × List Piece :=
  match fuel with
  | 0 => (s, [])
  | n + 1 =>
      match part with
      | .text text quoted => (s, [{ text, quoted }])
      | .parameter name edit word quoted =>
          let value := parameter? s name
          let text := value.getD []
          let set (colon : Bool) : Bool := value.isSome && !(colon && text.isEmpty)
          match edit with
          | .none => (s, [{ text, quoted }])
          | .length => (s, [{ text := (toString text.length).toList, quoted }])
          | .orElse colon =>
              if set colon then (s, [{ text, quoted }]) else expandWord n s word
          | .andThen colon => if set colon then expandWord n s word else (s, [])
          | .front longest =>
              let (s, pieces) := expandWord n s word
              (s, [{ text := dropFront longest (piecesPattern pieces) text, quoted }])
          | .back longest =>
              let (s, pieces) := expandWord n s word
              (s, [{ text := dropBack longest (piecesPattern pieces) text, quoted }])
      | .calculation word quoted =>
          let (s, pieces) := expandWord n s word
          let value (name : List Char) : Int := ((parameter? s name).bind integer?).getD 0
          let text := match Calculation.evaluate? value (pieces.flatMap Piece.text) with
            | some x => (toString x).toList
            | none => []
          (s, [{ text, quoted }])
      | .output script quoted =>
          let inner := runAll n { s with events := [] } script
          let text := Text.ofUtf8Lossy (State.printed inner.events 1)
          let kept := inner.events.filter fun e => e.stream != 1
          ({ leave s inner with events := kept ++ s.events },
            [{ text := withoutLastNewlines text, quoted }])

def expandWord (fuel : Nat) (s : State) (word : Word) : State × List Piece :=
  match fuel with
  | 0 => (s, [])
  | n + 1 =>
      word.foldl (fun (done : State × List Piece) part =>
        let (s, pieces) := expandPart n done.1 part
        (s, done.2 ++ pieces)) (s, [])

def expandAll (fuel : Nat) (s : State) (words : List Word) :
    State × List (List Char) :=
  match fuel with
  | 0 => (s, [])
  | n + 1 =>
      words.foldl (fun (done : State × List (List Char)) word =>
        match word with
        | [.text [] true, .parameter ['@'] .none _ true]
        | [.parameter ['@'] .none _ true] => (done.1, done.2 ++ done.1.arguments)
        | _ =>
            let (s, pieces) := expandWord n done.1 word
            (s, done.2 ++ (splitPieces none [] pieces).flatMap (expandPattern s.files))) (s, [])

def expandText (fuel : Nat) (s : State) (word : Word) : State × List Char :=
  match fuel with
  | 0 => (s, [])
  | n + 1 =>
      let (s, pieces) := expandWord n s word
      (s, pieces.flatMap Piece.text)

def redirect (fuel : Nat) (s : State) (redirects : List Redirect) : State × List (Nat × Sink) :=
  match fuel with
  | 0 => (s, [])
  | n + 1 =>
      redirects.foldl (fun (done : State × List (Nat × Sink)) r =>
        let (s, sinks) := done
        match r with
        | .mk stream (.stream number) => (s, (stream, sinkOf sinks number) :: sinks)
        | .mk stream (.file word append) =>
            let (s, path) := expandText n s word
            let prepared := if append then s.files.append path [] else s.files.write path []
            let s := match prepared with
              | .ok files => if path == "/dev/null".toList then s else { s with files }
              | .error _ => s
            (s, (stream, .file path append) :: sinks)
        | .mk _ (.source word) =>
            let (s, path) := expandText n s word
            ({ s with input := (readInput s.files 0 path).toOption.getD [] }, sinks)) (s, [])

def redirected (fuel : Nat) (s : State) (redirects : List Redirect) (body : State → State) : State :=
  match fuel with
  | 0 => s
  | n + 1 =>
      if redirects.isEmpty then body s
      else
        let reads := redirects.any fun
          | .mk _ (.source _) => true
          | _ => false
        let left := s.input
        let (s, sinks) := redirect n s redirects
        let inner := body { s with events := [] }
        let after := inner.events.reverse.foldl (deliver sinks) { inner with events := s.events }
        if reads then { after with input := left } else after

def runCommand (fuel : Nat) (s : State) (command : Command) : State :=
  match fuel with
  | 0 => s
  | n + 1 =>
      match command with
      | .simple words redirects =>
          redirected n s redirects fun s =>
            let (assigned, words) := words.span fun w => (assignment? w).isSome
            let s := (assigned.filterMap assignment?).foldl (fun s (name, value) =>
              let (s, value) := expandText n s value
              { s.assign name value with status := 0 }) s
            let (s, fields) := expandAll n s words
            match fields with
            | [] => s
            | name :: words =>
                let (replaces, name, words) := match String.ofList name, words with
                  | "exec", name :: words => (true, name, words)
                  | "command", name :: words => (false, name, words)
                  | _, _ => (false, name, words)
                let s := match scriptOf? name words with
                  | none => builtin s name words
                  | some (apart, script, arguments) =>
                      match read? script with
                      | none => notAScript s
                      | some statements =>
                          let arguments := arguments.getD s.arguments
                          let inner := runAll n { s with arguments } statements
                          if apart then leave s inner else inner
                if replaces && s.ending.isNone then { s with ending := some (.exited s.status) }
                else s
      | .each name words body redirects =>
          redirected n s redirects fun s =>
            let (s, fields) := expandAll n s words
            fields.foldl (fun s field =>
              if s.isOver then s else runAll n (s.assign name field) body) s
      | .choose condition yes no redirects =>
          redirected n s redirects fun s =>
            let s := runAll n s condition
            if s.ending.isSome then s
            else if s.status == 0 then runAll n s yes
            else if no.isEmpty then { s with status := 0 }
            else runAll n s no
      | .again while_ condition body redirects =>
          redirected n s redirects fun s =>
            let s := repeatStep mostRounds (fun s =>
              let status := s.status
              let s := runAll n s condition
              if s.isOver then (s, false)
              else if (s.status == 0) == while_ then
                let s := runAll n s body
                (s, !s.isOver)
              else ({ s with status }, false)) { s with status := 0 }
            s
      | .select word branches redirects =>
          redirected n s redirects fun s =>
            let (s, text) := expandText n s word
            let (s, found) := branches.foldl (fun (done : State × Option (List Statement)) branch =>
              match done, branch with
              | (s, some body), _ => (s, some body)
              | (s, none), .mk patterns body =>
                  patterns.foldl (fun (done : State × Option (List Statement)) pattern =>
                    let (s, pieces) := expandWord n done.1 pattern
                    if done.2.isNone && matchesAll (piecesPattern pieces) text then (s, some body)
                    else (s, done.2)) (s, none)) (s, none)
            match found with
            | some body => runAll n { s with status := 0 } body
            | none => { s with status := 0 }
      | .group apart body redirects =>
          redirected n s redirects fun s =>
            let inner := runAll n s body
            if apart then leave s inner else inner

def runPipeline (fuel : Nat) (s : State) (commands : List Command) : State :=
  match fuel with
  | 0 => s
  | n + 1 =>
      match commands with
      | [] => s
      | [command] => runCommand n s command
      | command :: rest =>
          let inner := leave s (runCommand n { s with events := [] } command)
          let kept := inner.events.filter fun e => e.stream != 1
          let passed := State.printed inner.events 1
          let next := { inner with events := kept ++ s.events, input := passed }
          let last := match rest with
            | [last] => leave next (runCommand n next last)
            | _ => runPipeline n next rest
          { last with input := inner.input }

def runStatement (fuel : Nat) (s : State) (statement : Statement) : State :=
  match fuel with
  | 0 => s
  | n + 1 =>
      match statement with
      | .run negated pipeline =>
          let s := runPipeline n s pipeline
          if negated then { s with status := if s.status == 0 then 1 else 0 } else s
      | .both first second =>
          let s := runStatement n s first
          if s.ending.isSome || s.status != 0 then s else runStatement n s second
      | .either first second =>
          let s := runStatement n s first
          if s.ending.isSome || s.status == 0 then s else runStatement n s second
      | .behind job =>
          let inner := runStatement n { s with input := [] } job
          { s with files := inner.files, events := inner.events, status := 0
                   jobs := inner.time :: s.jobs }

def runAll (fuel : Nat) (s : State) (statements : List Statement) : State :=
  match fuel with
  | 0 => s
  | n + 1 =>
      match statements with
      | [] => s
      | statement :: rest =>
          match lastingRedirects? statement with
          | some redirects =>
              redirected n s redirects fun s => runAll n { s with status := 0 } rest
          | none =>
              let s := runStatement n s statement
              if s.isOver then s else runAll n s rest

end

def runScript (script : List Char) (limit : Nat) (launch : Launch) : Printed :=
  match read? script with
  | none => { stderr := Text.utf8 "sh: syntax error\n".toList, ending := .exited 2 }
  | some statements =>
      let start : State :=
        { files := launch.files, bindings := launch.environment, arguments := launch.arguments, limit }
      let last := runAll (4 * script.length + 100) start statements
      let timedOut := limit ≤ last.time
      let stop := min last.time limit
      let seen := ((last.events.reverse.filter fun e => e.time ≤ stop).mergeSort fun a b =>
        decide (a.time ≤ b.time)).reverse
      { stdout := State.printed seen 1
        stderr := State.printed seen 2
        ending :=
          if timedOut then .timedOut
          else last.ending.getD (.exited last.status) }

end Running

end CodeReview.Shell

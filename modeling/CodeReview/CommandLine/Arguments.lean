import CodeReview.Text.Search

/-!
The words of a command line: options, a command, and the options of the command. An option that takes a
value is complete only when the next one begins or the line ends, and only then is it checked; so a word
that nobody knows is reported before an incomplete option in front of it.
-/

namespace CodeReview.CommandLine

section Vocabulary

inductive Switch
  | config
  | logLevel
  | jsonLogs
  | help
  | version
  | input
  | file
  | goal
  | runCoverage
  | root
  deriving DecidableEq, Repr

namespace Switch

def long : Switch → String
  | .config => "config"
  | .logLevel => "log-level"
  | .jsonLogs => "json-logs"
  | .help => "help"
  | .version => "version"
  | .input => "input"
  | .file => "file"
  | .goal => "goal"
  | .runCoverage => "run-coverage"
  | .root => "root"

def letter? : Switch → Option Char
  | .config => some 'c'
  | .help => some 'h'
  | .version => some 'V'
  | .input => some 'i'
  | .file => some 'f'
  | _ => none

def valueName? : Switch → Option String
  | .config => some "CONFIG"
  | .logLevel => some "LOG_LEVEL"
  | .input => some "INPUT"
  | .file => some "FILE"
  | .goal => some "GOAL"
  | .root => some "ROOT"
  | _ => none

def takesValue (s : Switch) : Bool := s.valueName?.isSome

def isPath : Switch → Bool
  | .config | .input | .file | .root => true
  | _ => false

def shown (s : Switch) : String :=
  match s.valueName? with
  | some name => "--" ++ s.long ++ " <" ++ name ++ ">"
  | none => "--" ++ s.long

def about : Switch → String
  | .config => "Configuration file path"
  | .logLevel => "Log level (overrides the configured level)"
  | .jsonLogs => "Enable JSON logging"
  | .help => "Print help"
  | .version => "Print version"
  | .input => "JSON file holding a review request"
  | .file => "Source file, relative to the repository root"
  | .goal => "Coverage goal tier (smoke, basic, strong, max)"
  | .runCoverage => "Run the generated tests under coverage even without a goal"
  | .root => "Repository root to index"

end Switch

inductive Verb
  | review
  | generateTests
  | buildIndex
  deriving DecidableEq, Repr

namespace Verb

def all : List Verb := [.review, .generateTests, .buildIndex]

def name : Verb → String
  | .review => "review"
  | .generateTests => "gen-tests"
  | .buildIndex => "build-index"

def about : Verb → String
  | .review => "Review the diffs in a request file"
  | .generateTests => "Generate tests for a Python source file"
  | .buildIndex => "Build and persist the retrieval index"

def ofName? (name : String) : Option Verb := all.find? fun v => v.name == name

def own : Verb → List Switch
  | .review => [.input]
  | .generateTests => [.file, .goal, .runCoverage]
  | .buildIndex => [.root]

def required? : Verb → Option Switch
  | .review => some .input
  | .generateTests => some .file
  | .buildIndex => none

end Verb

def everywhere : List Switch := [.config, .logLevel, .jsonLogs]

def optionsOf : Option Verb → List Switch
  | none => everywhere ++ [.help, .version]
  | some verb => verb.own ++ everywhere ++ [.help]

def programName : String := "devinsight"

def release : String := "0.2.0"

def purpose : String := "Code review and test generation for Python repositories"

end Vocabulary

section Refusing

inductive UsageError
  /-- Not one word was given. -/
  | nothingGiven
  | missingCommand
  | unknownCommand (name : String)
  | unexpected (word : String)
  | missingOption (switch : Switch)
  | missingValue (switch : Switch)
  | repeated (switch : Switch)
  /-- A value for an option that takes none. -/
  | surplusValue (switch : Switch) (value : String)
  deriving DecidableEq, Repr

inductive Stop
  | help (verb : Option Verb)
  | version
  | misused (verb : Option Verb) (error : UsageError)
  deriving DecidableEq, Repr

def usageLine : Option Verb → String
  | none => "Usage: " ++ programName ++ " [OPTIONS] <COMMAND>"
  | some verb =>
      let needed := match verb.required? with
        | some s => " " ++ s.shown
        | none => ""
      "Usage: " ++ programName ++ " " ++ verb.name ++ " [OPTIONS]" ++ needed

def optionLine (s : Switch) : String :=
  let short := match s.letter? with
    | some c => String.ofList ['-', c, ',', ' ']
    | none => "    "
  "  " ++ short ++ s.shown ++ "  " ++ s.about

def helpPage (verb : Option Verb) : String :=
  let about := (verb.map Verb.about).getD purpose
  let commands :=
    if verb.isSome then []
    else "Commands:" :: Verb.all.map (fun v => "  " ++ v.name ++ "  " ++ v.about) ++ [""]
  "\n".intercalate
    ([about, "", usageLine verb, ""] ++ commands ++
      "Options:" :: (optionsOf verb).map optionLine) ++ "\n"

def UsageError.message (verb : Option Verb) (e : UsageError) : String :=
  let told (problem : String) : String :=
    "error: " ++ problem ++ "\n\n" ++ usageLine verb ++
      "\n\nFor more information, try '--help'.\n"
  match e with
  | .nothingGiven => helpPage verb
  | .missingCommand =>
      told ("'" ++ programName ++ "' requires a subcommand but one was not provided")
  | .unknownCommand name => told ("unrecognized subcommand '" ++ name ++ "'")
  | .unexpected word => told ("unexpected argument '" ++ word ++ "' found")
  | .missingOption s =>
      told ("the following required arguments were not provided:\n  " ++ s.shown)
  | .missingValue s =>
      told ("a value is required for '" ++ s.shown ++ "' but none was supplied")
  | .repeated s => told ("the argument '" ++ s.shown ++ "' cannot be used multiple times")
  | .surplusValue s value =>
      told ("unexpected value '" ++ value ++ "' for '" ++ s.shown ++ "' found; no more were expected")

end Refusing

section Reading

/-- An option that waits for its value, or has one that is not checked yet. -/
structure Open where
  switch : Switch
  value : Option String := none
  deriving DecidableEq, Repr

structure Progress where
  given : List (Switch × String) := []
  opened : Option Open := none
  deriving DecidableEq, Repr

namespace Progress

def add (p : Progress) (s : Switch) (value : String) : Except UsageError Progress :=
  if p.given.any fun g => g.1 == s then .error (.repeated s)
  else if s.isPath && value.isEmpty then .error (.missingValue s)
  else .ok { p with given := p.given ++ [(s, value)] }

def close (p : Progress) : Except UsageError Progress :=
  match p.opened with
  | none => .ok p
  | some { value := none, switch } => .error (.missingValue switch)
  | some { value := some value, switch } => { p with opened := none }.add switch value

def awaitsValue (p : Progress) : Bool :=
  match p.opened with
  | some { value := none, .. } => true
  | _ => false

def supply (p : Progress) (value : String) : Progress :=
  { p with opened := p.opened.map fun o => { o with value := some value } }

def value? (p : Progress) (s : Switch) : Option String :=
  (p.given.find? fun g => g.1 == s).map (·.2)

def has (p : Progress) (s : Switch) : Bool := (p.value? s).isSome

end Progress

def misused {α : Type} (verb : Option Verb) : Except UsageError α → Except Stop α
  | .ok a => .ok a
  | .error e => .error (.misused verb e)

def takeSwitch (verb : Option Verb) (p : Progress) (s : Switch) (attached : Option String) :
    Except Stop Progress := do
  if s.takesValue then
    let p ← misused verb p.close
    match attached with
    | some value => misused verb (p.add s value)
    | none => return { p with opened := some { switch := s } }
  else
    match attached with
    | some value => .error (.misused verb (.surplusValue s value))
    | none =>
        let p ← misused verb p.close
        match s with
        | .help => .error (.help verb)
        | .version => .error .version
        | s => misused verb (p.add s "")

def takeLong (verb : Option Verb) (p : Progress) (word : List Char) : Except Stop Progress :=
  let (name, rest) := word.span (· != '=')
  match (optionsOf verb).find? fun s => s.long.toList == name with
  | some s => takeSwitch verb p s (rest.tail?.map String.ofList)
  | none => .error (.misused verb (.unexpected ("--" ++ String.ofList name)))

/-- The letters of a word that begins with one dash. What follows the letter of an option that takes a
value is the value. -/
def takeLetters (verb : Option Verb) (p : Progress) : List Char → Except Stop Progress
  | [] => .ok p
  | c :: rest =>
      match (optionsOf verb).find? fun s => s.letter? == some c with
      | none => .error (.misused verb (.unexpected (String.ofList ['-', c])))
      | some s =>
          if s.takesValue then
            let attached := match rest with
              | [] => none
              | '=' :: value => some (String.ofList value)
              | value => some (String.ofList value)
            takeSwitch verb p s attached
          else do
            let p ← takeSwitch verb p s none
            takeLetters verb p rest

inductive Scanned
  | ended (p : Progress)
  | command (p : Progress) (verb : Verb) (words : List String)
  | helpFor (words : List String)
  deriving DecidableEq, Repr

def refuseWord (verb : Option Verb) (plain : Bool) (word : String) : Stop :=
  match verb with
  | some _ => .misused verb (.unexpected word)
  | none =>
      if plain && (word == "help" || (Verb.ofName? word).isSome) then
        .misused verb (.unexpected word)
      else .misused verb (.unknownCommand word)

/-- Reads words up to the command, or to the end behind it. All words behind a double dash are `plain`:
no options and no commands. -/
def scan (verb : Option Verb) (plain : Bool) (p : Progress) : List String → Except Stop Scanned
  | [] => .ok (.ended p)
  | word :: rest =>
      if plain then .error (refuseWord verb plain word)
      else if verb.isNone && !p.awaitsValue && word == "help" then .ok (.helpFor rest)
      else
        match if verb.isNone && !p.awaitsValue then Verb.ofName? word else none with
        | some command => .ok (.command p command rest)
        | none =>
            match word.toList with
            | ['-', '-'] => scan verb true p rest
            | '-' :: '-' :: name => do
                let p ← takeLong verb p name
                scan verb plain p rest
            | '-' :: c :: letters => do
                let p ← takeLetters verb p (c :: letters)
                scan verb plain p rest
            | _ =>
                if p.awaitsValue then scan verb plain (p.supply word) rest
                else .error (refuseWord verb plain word)

end Reading

section Commands

inductive Command
  | review (input : String)
  | generateTests (file : String) (goal : Option String) (runCoverage : Bool)
  | buildIndex (root : String)
  deriving DecidableEq, Repr

structure Arguments where
  config : Option String := none
  logLevel : Option String := none
  jsonLogs : Bool := false
  command : Command
  deriving DecidableEq, Repr

def Arguments.namedFiles (a : Arguments) : List String :=
  let named := match a.command with
    | .review input => [input]
    | .generateTests file _ _ => [file]
    | .buildIndex _ => []
  a.config.toList ++ named

def Arguments.tree? (a : Arguments) : Option String :=
  match a.command with
  | .buildIndex root => some root
  | _ => none

def commandOf (verb : Verb) (p : Progress) : Except UsageError Command :=
  let need (s : Switch) : Except UsageError String :=
    match p.value? s with
    | some value => .ok value
    | none => .error (.missingOption s)
  match verb with
  | .review => return .review (← need .input)
  | .generateTests =>
      return .generateTests (← need .file) (p.value? .goal) (p.has .runCoverage)
  | .buildIndex => return .buildIndex ((p.value? .root).getD ".")

def helpFor : List String → Stop
  | [] => .help none
  | [word] =>
      if word == "help" then .help none
      else
        match Verb.ofName? word with
        | some verb => .help (some verb)
        | none => .misused none (.unknownCommand word)
  | word :: other :: _ =>
      if word == "help" then .misused none (.unknownCommand other)
      else
        match Verb.ofName? word with
        | some verb => .misused (some verb) (.unknownCommand other)
        | none => .misused none (.unknownCommand word)

/-- Reads a line. An option that may stand on both sides of the command counts as it is given behind it. -/
def parse (words : List String) : Except Stop Arguments := do
  match ← scan none false {} words with
  | .helpFor words => .error (helpFor words)
  | .ended p =>
      let p ← misused none p.close
      if p.given.isEmpty then .error (.misused none .nothingGiven)
      else .error (.misused none .missingCommand)
  | .command before verb words =>
      match ← scan (some verb) false {} words with
      | .ended p =>
          let p ← misused (some verb) p.close
          let command ← misused (some verb) (commandOf verb p)
          let before ← misused none before.close
          let either (s : Switch) : Option String := (p.value? s).or (before.value? s)
          return {
            config := either .config
            logLevel := either .logLevel
            jsonLogs := (either .jsonLogs).isSome
            command }
      -- Behind a command no other is looked for.
      | .command _ _ _ | .helpFor _ => .error (.misused (some verb) .missingCommand)

end Commands

end CodeReview.CommandLine

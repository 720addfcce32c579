import CodeReview.Text.Search

/-!
Small shell scripts: words with quotes, parameters, calculations and the output of commands; lists, pipelines,
loops, conditions and choices between patterns. They describe programs that stand in for an interpreter.
Functions, patterns between brackets, here-documents and leaving a loop early are left out.
-/

namespace CodeReview.Shell

inductive Edit
  | none
  /-- Removes the shortest or longest match of a pattern from the front. -/
  | front (longest : Bool)
  | back (longest : Bool)
  /-- Another word for a parameter that is not set or, with a colon, empty. -/
  | orElse (colon : Bool)
  | andThen (colon : Bool)
  | length
  deriving DecidableEq, Repr

mutual

inductive Part
  | text (cs : List Char) (quoted : Bool)
  | parameter (name : List Char) (edit : Edit) (word : List Part) (quoted : Bool)
  /-- What a script prints, without line feeds at the end. -/
  | output (script : List Statement) (quoted : Bool)
  /-- The value of what a word says in numbers. -/
  | calculation (word : List Part) (quoted : Bool)

inductive Target
  | stream (number : Nat)
  | file (word : List Part) (append : Bool)
  | source (word : List Part)

inductive Redirect
  | mk (stream : Nat) (target : Target)

inductive Command
  | simple (words : List (List Part)) (redirects : List Redirect)
  | each (name : List Char) (words : List (List Part)) (body : List Statement)
      (redirects : List Redirect)
  | choose (condition yes no : List Statement) (redirects : List Redirect)
  /-- A loop that goes on while its condition ends well, or badly. -/
  | again (while_ : Bool) (condition body : List Statement) (redirects : List Redirect)
  /-- The first branch with a pattern that a word matches. -/
  | select (word : List Part) (branches : List Branch) (redirects : List Redirect)
  /-- A group in a shell of its own when `apart`. -/
  | group (apart : Bool) (body : List Statement) (redirects : List Redirect)

inductive Branch
  | mk (patterns : List (List Part)) (body : List Statement)

inductive Statement
  | run (negated : Bool) (pipeline : List Command)
  | both (first second : Statement)
  | either (first second : Statement)
  | behind (statement : Statement)

end

abbrev Word := List Part

section Characters

def isBlankChar (c : Char) : Bool := c == ' ' || c == '\t'

def isNameStart (c : Char) : Bool := c.isAlpha || c == '_'

def isNameChar (c : Char) : Bool := c.isAlphanum || c == '_'

def endsWord (c : Char) : Bool :=
  isBlankChar c || c == '\n' || c == ';' || c == '&' || c == '|' || c == '<' || c == '>' ||
    c == '(' || c == ')'

def skipGap (fuel : Nat) (cs : List Char) : List Char :=
  match fuel with
  | 0 => cs
  | n + 1 =>
      match cs with
      | '\\' :: '\n' :: rest => skipGap n rest
      | '#' :: rest => rest.dropWhile (· != '\n')
      | c :: rest => if isBlankChar c then skipGap n rest else cs
      | [] => []

def skipLines (fuel : Nat) (cs : List Char) : List Char :=
  match fuel with
  | 0 => cs
  | n + 1 =>
      match skipGap cs.length cs with
      | '\n' :: rest => skipLines n rest
      | rest => rest

def afterWord? (word : String) (cs : List Char) : Option (List Char) :=
  match Text.dropLead? cs word.toList with
  | some [] => some []
  | some (c :: rest) => if endsWord c then some (c :: rest) else none
  | none => none

inductive Opening
  | group
  | condition
  | each
  | loop (while_ : Bool)
  | select
  deriving DecidableEq, Repr

def openings : List (String × Opening) :=
  [("\x7b", .group), ("if", .condition), ("for", .each), ("while", .loop true), ("until", .loop false),
    ("case", .select)]

def opening? (cs : List Char) : Option (Opening × List Char) :=
  openings.findSome? fun (word, opening) => (afterWord? word cs).map fun rest => (opening, rest)

/-- Whether a reserved word at the front closes a list of statements. -/
def closes (cs : List Char) : Bool :=
  ["then", "elif", "else", "fi", "do", "done", "esac", "\x7d"].any fun w => (afterWord? w cs).isSome

def skipMark (mark : Char) (cs : List Char) : List Char :=
  match skipGap cs.length cs with
  | c :: rest => if c == mark then rest else c :: rest
  | [] => []

end Characters

section Reading

abbrev Rest := List Char

/-- The text up to a backquote, in which a backslash stands for itself except before a few characters. -/
def backquoted? (fuel : Nat) (cs : List Char) : Option (List Char × Rest) :=
  match fuel with
  | 0 => none
  | n + 1 =>
      match cs with
      | [] => none
      | '\x60' :: rest => some ([], rest)
      | '\\' :: c :: rest => do
          let (text, rest) ← backquoted? n rest
          some (if "$\\\x60".toList.contains c then c :: text else '\\' :: c :: text, rest)
      | c :: rest => do
          let (text, rest) ← backquoted? n rest
          some (c :: text, rest)

def bracedName? (cs : List Char) (plain : Option (List Char × Rest)) : Option (List Char × Rest) :=
  match cs.span Char.isDigit with
  | ([], _) => plain
  | found => some found

/-- The name after a dollar sign: letters, or one character with a meaning of its own. -/
def parameterName? (cs : List Char) : Option (List Char × Rest) :=
  match cs with
  | c :: rest =>
      if isNameStart c then
        let (name, rest) := cs.span isNameChar
        some (name, rest)
      else if c.isDigit || "@*#?$!".toList.contains c then some ([c], rest)
      else none
  | [] => none

def edit? (cs : List Char) : Edit × List Char :=
  match cs with
  | '#' :: '#' :: rest => (.front true, rest)
  | '#' :: rest => (.front false, rest)
  | '%' :: '%' :: rest => (.back true, rest)
  | '%' :: rest => (.back false, rest)
  | ':' :: '-' :: rest => (.orElse true, rest)
  | '-' :: rest => (.orElse false, rest)
  | ':' :: '+' :: rest => (.andThen true, rest)
  | '+' :: rest => (.andThen false, rest)
  | _ => (.none, cs)

def onlyRedirects : (List Word × List Redirect) × Rest → Option (List Redirect × Rest)
  | (([], redirects), rest) => some (redirects, rest)
  | _ => none

mutual

def dollar? (fuel : Nat) (quoted : Bool) (cs : List Char) : Option (Part × Rest) :=
  match fuel with
  | 0 => none
  | n + 1 =>
      match cs with
      | '(' :: '(' :: rest => do
          let (word, rest) ← until? n ')' true [] rest
          match rest with
          | ')' :: rest => some (.calculation word quoted, rest)
          | _ => none
      | '(' :: rest => do
          let (script, rest) ← statements? n rest
          match rest with
          | ')' :: rest => some (.output script quoted, rest)
          | _ => none
      | '\x7b' :: '#' :: rest =>
          match parameterName? rest with
          | some (name, '\x7d' :: rest) => some (.parameter name .length [] quoted, rest)
          | _ => none
      | '\x7b' :: rest => do
          let (name, rest) ← bracedName? rest (parameterName? rest)
          let (edit, rest) := edit? rest
          let (word, rest) ← until? n '\x7d' quoted [] rest
          some (.parameter name edit word quoted, rest)
      | cs =>
          match parameterName? cs with
          | some (name, rest) => some (.parameter name .none [] quoted, rest)
          | none => some (.text ['$'] quoted, cs)

/-- The parts of a word up to a closing character, which is passed. Between double quotes a backslash
stands for itself, except before a few characters. -/
def until? (fuel : Nat) (close : Char) (quoted : Bool) (done : List Part) (cs : List Char) :
    Option (Word × Rest) :=
  match fuel with
  | 0 => none
  | n + 1 =>
      match cs with
      | [] => none
      | c :: rest =>
          if c == close then some (done.reverse, rest)
          else if c == '\x60' then do
            let (text, rest) ← backquoted? rest.length rest
            let (script, _) ← statements? n text
            until? n close quoted (.output script quoted :: done) rest
          else if c == '$' then do
            let (part, rest) ← dollar? n quoted rest
            until? n close quoted (part :: done) rest
          else if c == '"' then do
            let (parts, rest) ← until? n '"' true [] rest
            until? n close quoted (parts.reverse ++ done) rest
          else if c == '\x27' && !quoted then
            match rest.span (· != '\x27') with
            | (text, _ :: rest) => until? n close quoted (.text text true :: done) rest
            | _ => none
          else if c == '\\' then
            match rest with
            | [] => none
            | '\n' :: rest => until? n close quoted done rest
            | d :: rest =>
                if !quoted || "$\\\"\x60".toList.contains d then
                  until? n close quoted (.text [d] true :: done) rest
                else until? n close quoted (.text ['\\', d] true :: done) rest
          else until? n close quoted (.text [c] quoted :: done) rest

/-- A word; it may be of no parts when it is empty between quotes. -/
def word? (fuel : Nat) (done : List Part) (cs : List Char) : Option (Word × Rest) :=
  match fuel with
  | 0 => none
  | n + 1 =>
      match cs with
      | [] => some (done.reverse, [])
      | c :: rest =>
          if endsWord c then some (done.reverse, cs)
          else if c == '\x60' then do
            let (text, rest) ← backquoted? rest.length rest
            let (script, _) ← statements? n text
            word? n (.output script false :: done) rest
          else if c == '$' then do
            let (part, rest) ← dollar? n false rest
            word? n (part :: done) rest
          else if c == '"' then do
            let (parts, rest) ← until? n '"' true [] rest
            word? n ((.text [] true :: parts).reverse ++ done) rest
          else if c == '\x27' then
            match rest.span (· != '\x27') with
            | (text, _ :: rest) => word? n (.text text true :: done) rest
            | _ => none
          else if c == '\\' then
            match rest with
            | [] => none
            | '\n' :: rest => word? n done rest
            | d :: rest => word? n (.text [d] true :: done) rest
          else
            let (text, rest) := cs.span fun c =>
              !endsWord c && !"$\"'\\\x60".toList.contains c
            word? n (.text text false :: done) rest

def redirect? (fuel : Nat) (cs : List Char) : Option (Redirect × Rest) :=
  match fuel with
  | 0 => none
  | n + 1 =>
      let (stream, rest) : Option Nat × List Char := match cs with
        | d :: '>' :: rest => if d.isDigit then (some (d.toNat - 48), '>' :: rest) else (none, cs)
        | _ => (none, cs)
      match rest with
      | '>' :: '&' :: d :: rest =>
          if d.isDigit then some (.mk (stream.getD 1) (.stream (d.toNat - 48)), rest) else none
      | '>' :: '>' :: rest => do
          let (word, rest) ← word? n [] (skipGap rest.length rest)
          some (.mk (stream.getD 1) (.file word true), rest)
      | '>' :: rest => do
          let (word, rest) ← word? n [] (skipGap rest.length rest)
          some (.mk (stream.getD 1) (.file word false), rest)
      | '<' :: rest => do
          let (word, rest) ← word? n [] (skipGap rest.length rest)
          some (.mk 0 (.source word), rest)
      | _ => none

def simple? (fuel : Nat) (words : List Word) (redirects : List Redirect) (cs : List Char) :
    Option ((List Word × List Redirect) × Rest) :=
  match fuel with
  | 0 => none
  | n + 1 =>
      let cs := skipGap cs.length cs
      match redirect? n cs with
      | some (r, rest) => simple? n words (r :: redirects) rest
      | none =>
          match cs with
          | [] => some ((words.reverse, redirects.reverse), [])
          | c :: _ =>
              if endsWord c then some ((words.reverse, redirects.reverse), cs)
              else do
                let (word, rest) ← word? n [] cs
                simple? n (word :: words) redirects rest

def choice? (fuel : Nat) (cs : List Char) :
    Option ((List Statement × List Statement × List Statement) × Rest) :=
  match fuel with
  | 0 => none
  | n + 1 => do
      let (condition, rest) ← statements? n cs
      let (yes, rest) ← statements? n (← afterWord? "then" rest)
      match afterWord? "elif" rest with
      | some rest => do
          let ((c, y, no), rest) ← choice? n rest
          some ((condition, yes, [.run false [.choose c y no []]]), rest)
      | none => do
          let (no, rest) ← match afterWord? "else" rest with
            | some rest => statements? n rest
            | none => some ([], rest)
          some ((condition, yes, no), ← afterWord? "fi" rest)

def loop? (fuel : Nat) (while_ : Bool) (cs : List Char) : Option (Command × Rest) :=
  match fuel with
  | 0 => none
  | n + 1 => do
      let (condition, rest) ← statements? n cs
      let (body, rest) ← statements? n (← afterWord? "do" rest)
      let (redirects, rest) ← onlyRedirects (← simple? n [] [] (← afterWord? "done" rest))
      some (.again while_ condition body redirects, rest)

def patterns? (fuel : Nat) (cs : List Char) : Option (List Word × Rest) :=
  match fuel with
  | 0 => none
  | n + 1 => do
      let (word, rest) ← word? n [] (skipGap cs.length cs)
      match skipGap rest.length rest with
      | '|' :: rest => do
          let (more, rest) ← patterns? n rest
          some (word :: more, rest)
      | ')' :: rest => some ([word], rest)
      | _ => none

def branches? (fuel : Nat) (cs : List Char) : Option (List Branch × Rest) :=
  match fuel with
  | 0 => none
  | n + 1 =>
      let cs := skipLines cs.length cs
      match afterWord? "esac" cs with
      | some rest => some ([], rest)
      | none => do
          let cs := match cs with
            | '(' :: rest => rest
            | cs => cs
          let (patterns, rest) ← patterns? n cs
          let (body, rest) ← statements? n rest
          let rest := match skipLines rest.length rest with
            | ';' :: ';' :: rest => rest
            | rest => rest
          let (more, rest) ← branches? n rest
          some (.mk patterns body :: more, rest)

def each? (fuel : Nat) (cs : List Char) : Option (Command × Rest) :=
  match fuel with
  | 0 => none
  | n + 1 => do
      let (name, rest) := (skipGap cs.length cs).span isNameChar
      let rest := skipLines rest.length rest
      let (words, rest) ← match afterWord? "in" rest with
        | some rest => do
            let ((words, _), rest) ← simple? n [] [] rest
            some (words, rest)
        | none => some ([[.parameter ['@'] .none [] true]], rest)
      let rest := skipMark ';' rest
      let rest ← afterWord? "do" (skipLines rest.length rest)
      let (body, rest) ← statements? n rest
      let (redirects, rest) ← onlyRedirects (← simple? n [] [] (← afterWord? "done" rest))
      some (.each name words body redirects, rest)

def select? (fuel : Nat) (cs : List Char) : Option (Command × Rest) :=
  match fuel with
  | 0 => none
  | n + 1 => do
      let (word, rest) ← word? n [] (skipGap cs.length cs)
      let rest ← afterWord? "in" (skipLines rest.length rest)
      let (branches, rest) ← branches? n rest
      let (redirects, rest) ← onlyRedirects (← simple? n [] [] rest)
      some (.select word branches redirects, rest)

def group? (fuel : Nat) (apart : Bool) (cs : List Char) : Option (Command × Rest) :=
  match fuel with
  | 0 => none
  | n + 1 => do
      let (body, rest) ← statements? n cs
      let rest ← if apart then Text.dropLead? rest [')'] else afterWord? "\x7d" rest
      let (redirects, rest) ← onlyRedirects (← simple? n [] [] rest)
      some (.group apart body redirects, rest)

def command? (fuel : Nat) (cs : List Char) : Option (Command × Rest) :=
  match fuel with
  | 0 => none
  | n + 1 =>
      match Text.dropLead? cs ['('], opening? cs with
      | some rest, _ => group? n true rest
      | none, some (.group, rest) => group? n false rest
      | none, some (.condition, rest) => do
          let ((condition, yes, no), rest) ← choice? n rest
          let (redirects, rest) ← onlyRedirects (← simple? n [] [] rest)
          some (.choose condition yes no redirects, rest)
      | none, some (.each, rest) => each? n rest
      | none, some (.loop while_, rest) => loop? n while_ rest
      | none, some (.select, rest) => select? n rest
      | none, none => do
          let ((words, redirects), rest) ← simple? n [] [] cs
          if words.isEmpty && redirects.isEmpty then none
          else some (.simple words redirects, rest)

def pipeline? (fuel : Nat) (cs : List Char) : Option (List Command × Rest) :=
  match fuel with
  | 0 => none
  | n + 1 => do
      let (first, rest) ← command? n cs
      match skipGap rest.length rest with
      | '|' :: '|' :: rest => some ([first], '|' :: '|' :: rest)
      | '|' :: rest => do
          let (more, rest) ← pipeline? n (skipLines rest.length rest)
          some (first :: more, rest)
      | rest => some ([first], rest)

def joined? (fuel : Nat) (done : Option (Bool × Statement)) (cs : List Char) : Option (Statement × Rest) :=
  match fuel with
  | 0 => none
  | n + 1 => do
      let (negated, cs) := match afterWord? "!" cs with
        | some rest => (true, skipGap rest.length rest)
        | none => (false, cs)
      let (pipeline, rest) ← pipeline? n cs
      let here := match done with
        | none => Statement.run negated pipeline
        | some (true, before) => .both before (.run negated pipeline)
        | some (false, before) => .either before (.run negated pipeline)
      match skipGap rest.length rest with
      | '&' :: '&' :: rest => joined? n (some (true, here)) (skipLines rest.length rest)
      | '|' :: '|' :: rest => joined? n (some (false, here)) (skipLines rest.length rest)
      | rest => some (here, rest)

/-- Statements up to the end, a closing parenthesis or a reserved word that closes something. -/
def statements? (fuel : Nat) (cs : List Char) : Option (List Statement × Rest) :=
  match fuel with
  | 0 => none
  | n + 1 =>
      let cs := skipLines cs.length cs
      match cs with
      | [] | ')' :: _ | ';' :: ';' :: _ => some ([], cs)
      | _ =>
          if closes cs then some ([], cs)
          else do
            let (first, rest) ← joined? n none cs
            match skipGap rest.length rest with
            | '&' :: rest => do
                let (more, rest) ← statements? n rest
                some (.behind first :: more, rest)
            | ';' :: ';' :: rest => some ([first], ';' :: ';' :: rest)
            | ';' :: rest | '\n' :: rest => do
                let (more, rest) ← statements? n rest
                some (first :: more, rest)
            | rest => some ([first], rest)

end

def read? (script : List Char) : Option (List Statement) :=
  match statements? (8 * script.length + 8) script with
  | some (statements, []) => some statements
  | _ => none

end Reading

end CodeReview.Shell

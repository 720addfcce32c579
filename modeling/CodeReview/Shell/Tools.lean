import CodeReview.Files.Tree

/-!
The commands a script can use that only read their input and the files and print. Each gives its output,
what it complains about, and its status.
-/

namespace CodeReview.Shell

structure Printout where
  stdout : Bytes := []
  stderr : Bytes := []
  status : Nat := 0
  deriving DecidableEq, Repr

section Numbers

def digitsValue (cs : List Char) : Nat := cs.foldl (fun n c => n * 10 + (c.toNat - 48)) 0

def number? (cs : List Char) : Option Nat :=
  if cs.isEmpty || !cs.all Char.isDigit then none else some (digitsValue cs)

def integer? : List Char → Option Int
  | '-' :: rest => (number? rest).map fun n => -(n : Int)
  | '+' :: rest => (number? rest).map fun n => (n : Int)
  | cs => (number? cs).map fun n => (n : Int)

def milliseconds? (cs : List Char) : Option Nat := do
  let (digits, unit) := cs.span fun c => c.isDigit || c == '.'
  let factor ← match unit with
    | [] | ['s'] => some 1000
    | ['m'] => some 60000
    | ['h'] => some 3600000
    | ['d'] => some 86400000
    | _ => none
  match digits.span (· != '.') with
  | (whole, []) => (number? whole).map (· * factor)
  | (whole, _ :: fraction) =>
      if (whole ++ fraction).isEmpty then none
      else some (digitsValue (whole ++ fraction) * factor / Nat.pow 10 fraction.length)

end Numbers

section Escapes

def octalValue (cs : List Char) : Nat := cs.foldl (fun n c => n * 8 + (c.toNat - 48)) 0

def isOctal (c : Char) : Bool := '0' ≤ c && c ≤ '7'

def letterEscape? : Char → Option Char
  | 'a' => some '\x07'
  | 'b' => some '\x08'
  | 'f' => some '\x0c'
  | 'n' => some '\n'
  | 'r' => some '\r'
  | 't' => some '\t'
  | 'v' => some '\x0b'
  | '\\' => some '\\'
  | _ => none

/-- A character after a backslash, with the octal digits of a byte if there are any: in a format they
follow at once, in a text after a zero. -/
def escape (inFormat : Bool) (cs : List Char) : Bytes × List Char :=
  match cs with
  | [] => ([0x5c], [])
  | c :: rest =>
      match letterEscape? c with
      | some d => ([UInt8.ofNat d.toNat], rest)
      | none =>
          let digits := if inFormat then (cs.take 3).takeWhile isOctal
            else if c == '0' then '0' :: (rest.take 3).takeWhile isOctal
            else []
          if digits.isEmpty then (0x5c :: Text.charBytes c, rest)
          else ([UInt8.ofNat (octalValue digits)], cs.drop digits.length)

/-- A text with its backslashes read; `\c` ends it and all that would follow. -/
def unescape (fuel : Nat) (cs : List Char) : Bytes × Bool :=
  match fuel with
  | 0 => ([], false)
  | n + 1 =>
      match cs with
      | [] => ([], false)
      | '\\' :: 'c' :: _ => ([], true)
      | '\\' :: rest =>
          let (bytes, rest) := escape false rest
          let (more, stop) := unescape n rest
          (bytes ++ more, stop)
      | c :: rest =>
          let (more, stop) := unescape n rest
          (Text.charBytes c ++ more, stop)

end Escapes

section Printing

def spaced : List (List Char) → List Char
  | [] => []
  | [word] => word
  | word :: rest => word ++ ' ' :: spaced rest

def echo (words : List (List Char)) : Printout :=
  let (newline, words) := match words with
    | ['-', 'n'] :: rest => (false, rest)
    | _ => (true, words)
  let text := spaced words
  let (bytes, stop) := unescape (text.length + 1) text
  { stdout := bytes ++ if newline && !stop then [0x0a] else [] }

structure Width where
  least : Nat := 0
  left : Bool := false
  zeros : Bool := false

def Width.read (cs : List Char) : Width × List Char :=
  let (marks, rest) := cs.span fun c => c == '-' || c == '0'
  let (digits, rest) := rest.span Char.isDigit
  ({ least := digitsValue digits, left := marks.contains '-', zeros := marks.contains '0' }, rest)

def Width.fill (w : Width) (number : Bool) (bytes : Bytes) : Bytes :=
  let room := w.least - bytes.length
  if w.left then bytes ++ List.replicate room 0x20
  else if w.zeros && number then
    match bytes with
    | 0x2d :: digits => 0x2d :: List.replicate room 0x30 ++ digits
    | digits => List.replicate room 0x30 ++ digits
  else List.replicate room 0x20 ++ bytes

/-- One pass over a format. Returns what is printed and the words that are left. -/
def formatOnce (fuel : Nat) (format : List Char) (words : List (List Char)) :
    Bytes × List (List Char) :=
  match fuel with
  | 0 => ([], words)
  | n + 1 =>
      let word := words.headD []
      match format with
      | [] => ([], words)
      | '%' :: '%' :: rest =>
          let (more, words) := formatOnce n rest words
          (0x25 :: more, words)
      | '%' :: rest =>
          let (width, rest) := Width.read rest
          match rest with
          | 's' :: rest =>
              let (more, words) := formatOnce n rest words.tail
              (width.fill false (Text.utf8 word) ++ more, words)
          | 'b' :: rest =>
              let (more, words) := formatOnce n rest words.tail
              (width.fill false (unescape (word.length + 1) word).1 ++ more, words)
          | 'd' :: rest =>
              let (more, words) := formatOnce n rest words.tail
              (width.fill true (Text.utf8 (toString ((integer? word).getD 0)).toList) ++ more, words)
          | rest =>
              let (more, words) := formatOnce n rest words
              (0x25 :: more, words)
      | '\\' :: rest =>
          let (bytes, rest) := escape true rest
          let (more, words) := formatOnce n rest words
          (bytes ++ more, words)
      | c :: rest =>
          let (more, words) := formatOnce n rest words
          (Text.charBytes c ++ more, words)

/-- Passes over a format until no words are left, or it takes none. -/
def formatAll (fuel : Nat) (format : List Char) (words : List (List Char)) : Bytes :=
  match fuel with
  | 0 => []
  | n + 1 =>
      let (bytes, left) := formatOnce (format.length + 1) format words
      if left.isEmpty || left.length == words.length then bytes
      else bytes ++ formatAll n format left

def printf : List (List Char) → Printout
  | [] => { status := 2 }
  | format :: words => { stdout := formatAll (words.length + 1) format words }

end Printing

section Patterns

/-- Whether a pattern of characters, any characters and any one character matches a whole text. `none`
stands for any characters. A character stands for itself, or for any one when it is no literal. -/
def matchesAll (pattern : List (Option (Char × Bool))) (cs : List Char) : Bool :=
  match pattern with
  | [] => cs.isEmpty
  | some (c, literal) :: rest =>
      match cs with
      | [] => false
      | d :: ds => (c == d || (!literal && c == '?')) && matchesAll rest ds
  | none :: rest => (List.range (cs.length + 1)).any fun n => matchesAll rest (cs.drop n)

end Patterns

section Lines

def linesOf (bytes : Bytes) : List Bytes :=
  let pieces := bytes.splitOn 0x0a
  if pieces.getLast? == some [] then pieces.dropLast else pieces

def ofLines (lines : List Bytes) : Bytes := lines.flatMap fun line => line ++ [0x0a]

def isBefore : Bytes → Bytes → Bool
  | [], _ => true
  | _ :: _, [] => false
  | a :: as, b :: bs => a < b || (a == b && isBefore as bs)

def sort (words : List (List Char)) (input : Bytes) : Printout :=
  let sorted := (linesOf input).mergeSort isBefore
  let sorted := if words.contains "-u".toList then sorted.eraseDups else sorted
  { stdout := ofLines (if words.contains "-r".toList then sorted.reverse else sorted) }

end Lines

section Files

/-- Endless zeros are cut at the length that is asked for. -/
def readInput (files : Files) (length : Nat) (path : List Char) : FileResult Bytes :=
  match String.ofList path with
  | "/dev/zero" => .ok (List.replicate length 0)
  | "/dev/null" => .ok []
  | _ => files.read path

/-- What a command reads: the first file it is given, or else its input. -/
def inputOf (files : Files) (input : Bytes) (words : List (List Char)) : Bytes :=
  match words.filter fun w => w.head? != some '-' with
  | path :: _ => (readInput files 0 path).toOption.getD []
  | [] => input

def head (files : Files) (input : Bytes) (words : List (List Char)) : Printout :=
  let (byBytes, count, paths) : Bool × Nat × List (List Char) := match words with
    | ['-', 'c'] :: n :: rest => (true, (number? n).getD 0, rest)
    | ['-', 'n'] :: n :: rest => (false, (number? n).getD 0, rest)
    | ('-' :: n) :: rest =>
        match n with
        | 'c' :: n => (true, (number? n).getD 0, rest)
        | 'n' :: n => (false, (number? n).getD 0, rest)
        | n => (false, (number? n).getD 10, rest)
    | rest => (false, 10, rest)
  let found : FileResult Bytes := match paths with
    | path :: _ => readInput files count path
    | [] => .ok input
  match found with
  | .error e => { stderr := Text.utf8 ("head: " ++ e.message ++ "\n").toList, status := 1 }
  | .ok bytes =>
      { stdout := if byBytes then bytes.take count else ofLines ((linesOf bytes).take count) }

def tail (files : Files) (input : Bytes) (words : List (List Char)) : Printout :=
  let (count, paths) : Nat × List (List Char) := match words with
    | ['-', 'n'] :: n :: rest => ((number? n).getD 0, rest)
    | ('-' :: 'n' :: n) :: rest => ((number? n).getD 10, rest)
    | ('-' :: n) :: rest => ((number? n).getD 10, rest)
    | rest => (10, rest)
  let lines := linesOf (inputOf files input paths)
  { stdout := ofLines (lines.drop (lines.length - count)) }

def cat (files : Files) (input : Bytes) (paths : List (List Char)) : Printout :=
  if paths.isEmpty then { stdout := input }
  else
    paths.foldl (fun done path =>
      let found := if path == ['-'] then .ok input else readInput files 0 path
      match found with
      | .ok bytes => { done with stdout := done.stdout ++ bytes }
      | .error e =>
          let text := "cat: " ++ String.ofList path ++ ": " ++ (e.message.splitOn " (os").headD ""
          { done with stderr := done.stderr ++ Text.utf8 (text ++ "\n").toList, status := 1 }) {}

def translate (words : List (List Char)) (input : Bytes) : Printout :=
  let bytesOf (word : List Char) : Bytes := formatAll 1 word []
  match words with
  | [['-', 'd'], set] => { stdout := input.filter fun b => !(bytesOf set).contains b }
  | [old, new] =>
      let olds := bytesOf old
      let news := bytesOf new
      let last := news.getLast?.getD 0
      { stdout := input.map fun b =>
          match olds.findIdx? (· == b) with
          | some i => news.getD i last
          | none => b }
  | _ => { status := 1 }

mutual

def findBelow (files : Files) (depth : Nat) (onlyFiles : Bool) (place : Place) (path : List Char) :
    List (List Char) :=
  match depth with
  | 0 => []
  | n + 1 => findEntries files n onlyFiles place path (files.children place)

def findEntries (files : Files) (depth : Nat) (onlyFiles : Bool) (place : Place)
    (path : List Char) : List (List Char × Entry) → List (List Char)
  | [] => []
  | (name, entry) :: rest =>
      let here := path ++ '/' :: name
      let found := match entry with
        | .file _ => [here]
        | .link _ => if onlyFiles then [] else [here]
        | .directory =>
            (if onlyFiles then [] else [here]) ++
              findBelow files depth onlyFiles (place ++ [name]) here
      found ++ findEntries files depth onlyFiles place path rest

end

def wordAfter? (word : String) : List (List Char) → Option (List Char)
  | a :: b :: rest => if a == word.toList then some b else wordAfter? word (b :: rest)
  | _ => none

def find (files : Files) (words : List (List Char)) : Printout :=
  let root := match words with
    | word :: _ => if word.head? == some '-' then ['.'] else word
    | [] => ['.']
  let kind := wordAfter? "-type" words
  let pattern := (wordAfter? "-name" words).map fun name =>
    name.map fun c => if c == '*' then none else some (c, false)
  let isWanted (path : List Char) : Bool :=
    (kind != some ['d'] || files.isDirectory path) &&
      match pattern with
      | some pattern => matchesAll pattern ((Path.fileName? path).getD path)
      | none => true
  let onlyFiles := kind == some ['f']
  match files.find root with
  | .ok (place, .directory) =>
      let below := findBelow files (files.entries.length + 1) onlyFiles place root
      { stdout := ofLines ((((if onlyFiles then [] else [root]) ++ below).filter isWanted).map
          Text.utf8) }
  | .ok _ => { stdout := ofLines [Text.utf8 root] }
  | .error _ => { status := 1 }

def list (files : Files) (words : List (List Char)) : Printout :=
  let root := (words.filter fun w => w.head? != some '-').headD ['.']
  match files.find root with
  | .ok (place, .directory) =>
      let names := ((files.children place).map (·.1)).filter fun n => n.head? != some '.'
      { stdout := ofLines (names.map Text.utf8) }
  | .ok _ => { stdout := ofLines [Text.utf8 root] }
  | .error _ => { status := 2 }

def wordCount (bytes : Bytes) : Nat :=
  ((Text.ofUtf8Lossy bytes).splitBy fun a b => a.isWhitespace == b.isWhitespace).countP fun piece =>
    piece.all fun c => !c.isWhitespace

def count (files : Files) (words : List (List Char)) (input : Bytes) : Printout :=
  let bytes := inputOf files input words
  let n :=
    if words.contains "-l".toList then bytes.count 0x0a
    else if words.contains "-w".toList then wordCount bytes
    else bytes.length
  let name := (words.filter fun w => w.head? != some '-').flatMap fun path => ' ' :: path
  { stdout := Text.utf8 ((toString n).toList ++ name) ++ [0x0a] }

def sequence (words : List (List Char)) : Printout :=
  match words.map integer? with
  | [some last] => numbered 1 1 last
  | [some first, some last] => numbered first 1 last
  | [some first, some step, some last] => numbered first step last
  | _ => { status := 1 }
where
  numbered (first step last : Int) : Printout :=
    let length := if step = 0 then 0 else ((last - first) / step + 1).toNat
    { stdout := (List.range length).flatMap fun (i : Nat) =>
        Text.utf8 (toString (first + step * (i : Int))).toList ++ [0x0a] }

end Files

section Conditions

def holds (files : Files) (words : List (List Char)) : Bool :=
  match words with
  | [] => false
  | [word] => !word.isEmpty
  | [['!'], word] => word.isEmpty
  | [op, word] =>
      match String.ofList op with
      | "-n" => !word.isEmpty
      | "-z" => word.isEmpty
      | "-f" => files.isFile word
      | "-d" => files.isDirectory word
      | "-e" | "-r" => (files.place? word).isSome
      | "-s" => match files.read word with
          | .ok bytes => !bytes.isEmpty
          | .error _ => false
      | _ => false
  | [a, op, b] =>
      let compare (f : Int → Int → Bool) : Bool :=
        match integer? a, integer? b with
        | some x, some y => f x y
        | _, _ => false
      match String.ofList op with
      | "=" | "==" => a == b
      | "!=" => a != b
      | "-eq" => compare (· == ·)
      | "-ne" => compare (· != ·)
      | "-lt" => compare fun x y => decide (x < y)
      | "-le" => compare fun x y => decide (x ≤ y)
      | "-gt" => compare fun x y => decide (y < x)
      | "-ge" => compare fun x y => decide (y ≤ x)
      | _ => false
  | ['!'] :: rest => !holds files rest
  | _ => false

end Conditions

end CodeReview.Shell

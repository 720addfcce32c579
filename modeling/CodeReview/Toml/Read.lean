import CodeReview.Text.Search
import CodeReview.Toml.Value

/-!
Reading TOML documents (version 1.0). A text is a document or it is not: nothing is said about what is
wrong with it.
-/

namespace CodeReview.Toml

abbrev Rest := List Char

section Blanks

def isSpace (c : Char) : Bool := c == ' ' || c == '\t'

def skipSpace (cs : List Char) : Rest := cs.dropWhile isSpace

def isPlain (c : Char) : Bool := c == '\t' || (' ' ≤ c && c ≠ '\x7f')

def skipComment : List Char → Rest
  | '#' :: rest => rest.dropWhile isPlain
  | cs => cs

def newline? : List Char → Option Rest
  | '\n' :: rest | '\r' :: '\n' :: rest => some rest
  | _ => none

def lineEnd? (cs : List Char) : Option Rest :=
  match skipComment (skipSpace cs) with
  | [] => some []
  | rest => newline? rest

def skipBlanks (fuel : Nat) (cs : List Char) : Rest :=
  match fuel with
  | 0 => cs
  | n + 1 =>
      let rest := skipComment (skipSpace cs)
      match newline? rest with
      | some rest => skipBlanks n rest
      | none => rest

end Blanks

section Strings

def hexValue? (c : Char) : Option Nat :=
  if c.isDigit then some (c.toNat - 48)
  else if 'a' ≤ c && c ≤ 'f' then some (c.toNat - 87)
  else if 'A' ≤ c && c ≤ 'F' then some (c.toNat - 55)
  else none

def charByNumber? (width : Nat) (cs : List Char) : Option (Char × Rest) := do
  let digits ← (cs.take width).mapM hexValue?
  if digits.length < width then none
  else
    let n := digits.foldl (fun n d => n * 16 + d) 0
    if n.isValidChar then some (Char.ofNat n, cs.drop width) else none

def escaped? : List Char → Option (Char × Rest)
  | 'b' :: rest => some ('\x08', rest)
  | 't' :: rest => some ('\t', rest)
  | 'n' :: rest => some ('\n', rest)
  | 'f' :: rest => some ('\x0c', rest)
  | 'r' :: rest => some ('\r', rest)
  | '"' :: rest => some ('"', rest)
  | '\\' :: rest => some ('\\', rest)
  | 'u' :: rest => charByNumber? 4 rest
  | 'U' :: rest => charByNumber? 8 rest
  | _ => none

/-- The rest of a string in double quotes; `done` holds its characters so far, last one first. -/
def basicString? (fuel : Nat) (done : List Char) (cs : List Char) : Option (List Char × Rest) :=
  match fuel with
  | 0 => none
  | n + 1 =>
      match cs with
      | [] => none
      | '"' :: rest => some (done.reverse, rest)
      | '\\' :: rest => do
          let (c, rest) ← escaped? rest
          basicString? n (c :: done) rest
      | c :: rest => if isPlain c then basicString? n (c :: done) rest else none

def literalString? (done : List Char) : List Char → Option (List Char × Rest)
  | [] => none
  | c :: rest =>
      if c == '\x27' then some (done.reverse, rest)
      else if isPlain c then literalString? (c :: done) rest
      else none

/-- The end of a text of several lines: up to two quotes of its own stand before the three that close it.
`count` is the length of the run of quotes. -/
def closing? (count : Nat) (quote : Char) (done : List Char) (rest : Rest) :
    Option (List Char × Rest) :=
  if 5 < count then none
  else some (done.reverse ++ List.replicate (count - 3) quote, rest)

def skipContinuation (cs : List Char) : Rest :=
  match cs with
  | [] => []
  | '\r' :: '\n' :: rest => skipContinuation rest
  | c :: rest => if isSpace c || c == '\n' then skipContinuation rest else c :: rest

/-- The rest of a text of several lines, with backslashes when the quote is double. -/
def longString? (fuel : Nat) (quote : Char) (done : List Char) (cs : List Char) :
    Option (List Char × Rest) :=
  match fuel with
  | 0 => none
  | n + 1 =>
      match cs with
      | [] => none
      | c :: rest =>
          if c == quote then
            let run := (c :: rest).takeWhile (· == quote)
            let after := (c :: rest).drop run.length
            if 3 ≤ run.length then closing? run.length quote done after
            else longString? n quote (run ++ done) after
          else if c == '\\' && quote == '"' then
            match newline? (skipSpace rest) with
            | some _ => longString? n quote done (skipContinuation rest)
            | none => do
                let (c, rest) ← escaped? rest
                longString? n quote (c :: done) rest
          else
            match newline? (c :: rest) with
            | some rest => longString? n quote ('\n' :: done) rest
            | none => if isPlain c then longString? n quote (c :: done) rest else none

def afterFirstNewline (cs : List Char) : Rest := (newline? cs).getD cs

def string? (cs : List Char) : Option (List Char × Rest) :=
  match cs with
  | '"' :: '"' :: '"' :: rest => longString? (cs.length + 1) '"' [] (afterFirstNewline rest)
  | '\x27' :: '\x27' :: '\x27' :: rest =>
      longString? (cs.length + 1) '\x27' [] (afterFirstNewline rest)
  | '"' :: rest => basicString? (cs.length + 1) [] rest
  | '\x27' :: rest => literalString? [] rest
  | _ => none

end Strings

section Keys

def isBareKeyChar (c : Char) : Bool := c.isAlphanum || c == '_' || c == '-'

def simpleKey? (cs : List Char) : Option (String × Rest) :=
  match cs with
  | '"' :: rest => (basicString? (cs.length + 1) [] rest).map fun (k, rest) => (String.ofList k, rest)
  | '\x27' :: rest => (literalString? [] rest).map fun (k, rest) => (String.ofList k, rest)
  | _ =>
      match cs.span isBareKeyChar with
      | ([], _) => none
      | (k, rest) => some (String.ofList k, rest)

def key? (fuel : Nat) (cs : List Char) : Option (List String × Rest) :=
  match fuel with
  | 0 => none
  | n + 1 => do
      let (first, rest) ← simpleKey? (skipSpace cs)
      match skipSpace rest with
      | '.' :: rest => do
          let (more, rest) ← key? n rest
          return (first :: more, rest)
      | rest => return ([first], rest)

end Keys

section Scalars

/-- Digits, between which single underscores may stand. -/
def digits? (isDigit : Char → Bool) (cs : List Char) : Option (List Char) :=
  let rec go : (afterDigit : Bool) → List Char → Option (List Char)
    | afterDigit, [] => if afterDigit then some [] else none
    | afterDigit, c :: rest =>
        if c == '_' then (if afterDigit then go false rest else none)
        else if isDigit c then (go true rest).map (c :: ·)
        else none
  go false cs

def valueIn (base : Nat) (digits : List Char) : Int :=
  digits.foldl (fun n c => n * base + ((hexValue? c).getD 0 : Nat)) 0

def inRange? (n : Int) : Option Toml :=
  if -9223372036854775808 ≤ n && n ≤ 9223372036854775807 then some (.integer n) else none

def unsigned (token : List Char) : Bool × List Char :=
  match token with
  | '-' :: rest => (true, rest)
  | '+' :: rest => (false, rest)
  | _ => (false, token)

def decimal? (cs : List Char) : Option (List Char) :=
  match digits? Char.isDigit cs with
  | some ('0' :: _ :: _) => none
  | found => found

def integer? (token : List Char) : Option Toml :=
  match token with
  | '0' :: 'x' :: rest => (digits? (fun c => (hexValue? c).isSome) rest).bind (inRange? ∘ valueIn 16)
  | '0' :: 'o' :: rest => (digits? (fun c => '0' ≤ c && c ≤ '7') rest).bind (inRange? ∘ valueIn 8)
  | '0' :: 'b' :: rest => (digits? (fun c => c == '0' || c == '1') rest).bind (inRange? ∘ valueIn 2)
  | _ => do
      let (negative, rest) := unsigned token
      let size := valueIn 10 (← decimal? rest)
      inRange? (if negative then -size else size)

/-- A positive number beyond all finite doubles is none, though a negative one is. -/
def real? (token : List Char) : Option Toml := do
  let (negative, rest) := unsigned token
  if rest == "inf".toList || rest == "nan".toList then return .real
  let (mantissa, exponent) := rest.span fun c => c != 'e' && c != 'E'
  let (whole, fraction) := mantissa.span (· != '.')
  if exponent.isEmpty && fraction.isEmpty then none
  let whole ← decimal? whole
  let fraction ← match fraction with
    | [] => some []
    | _ :: digits => digits? Char.isDigit digits
  let exponent ← match exponent with
    | [] => some 0
    | _ :: rest =>
        let (down, digits) := unsigned rest
        (digits? Char.isDigit digits).map fun ds =>
          if down then -(valueIn 10 ds) else valueIn 10 ds
  let digits := whole ++ fraction
  let significant := digits.dropWhile (· == '0')
  let scale := exponent - (fraction.length : Int)
  let magnitude := (significant.length : Int) + scale
  let tooLarge :=
    !significant.isEmpty && (310 < magnitude ||
      (300 < magnitude && -20000 < scale &&
        (Float.ofScientific (valueIn 10 significant).toNat (scale < 0) scale.natAbs).isInf))
  if tooLarge && !negative then none else return .real

end Scalars

section Moments

def twoDigits? : List Char → Option (Nat × Rest)
  | a :: b :: rest =>
      if a.isDigit && b.isDigit then some ((a.toNat - 48) * 10 + (b.toNat - 48), rest) else none
  | _ => none

def after? (c : Char) : List Char → Option Rest
  | d :: rest => if d == c then some rest else none
  | [] => none

def monthLength (year month : Nat) : Nat :=
  if month == 2 then
    (if year % 4 == 0 && (year % 100 != 0 || year % 400 == 0) then 29 else 28)
  else if month == 4 || month == 6 || month == 9 || month == 11 then 30
  else 31

def date? (cs : List Char) : Option Rest := do
  let (century, rest) ← twoDigits? cs
  let (year, rest) ← twoDigits? rest
  let (month, rest) ← twoDigits? (← after? '-' rest)
  let (day, rest) ← twoDigits? (← after? '-' rest)
  if month < 1 || 12 < month || day < 1 || monthLength (century * 100 + year) month < day then none
  else return rest

def time? (cs : List Char) : Option Rest := do
  let (hour, rest) ← twoDigits? cs
  let (minute, rest) ← twoDigits? (← after? ':' rest)
  let (second, rest) ← twoDigits? (← after? ':' rest)
  if 23 < hour || 59 < minute || 60 < second then none
  else
    match rest with
    | '.' :: rest =>
        match rest.span Char.isDigit with
        | ([], _) => none
        | (_, rest) => return rest
    | rest => return rest

def isZone : List Char → Bool
  | [] | ['Z'] | ['z'] => true
  | sign :: rest =>
      (sign == '+' || sign == '-') &&
        (match (do
          let (hour, rest) ← twoDigits? rest
          let (minute, rest) ← twoDigits? (← after? ':' rest)
          if 23 < hour || 59 < minute then none else some rest : Option Rest) with
        | some [] => true
        | _ => false)

def moment? (token : List Char) : Option Toml :=
  match date? token with
  | some [] => some .moment
  | some (c :: rest) =>
      if c == 'T' || c == 't' || c == ' ' then
        (time? rest).bind fun zone => if isZone zone then some .moment else none
      else none
  | none =>
      match time? token with
      | some [] => some .moment
      | _ => none

end Moments

section Values

def isTokenChar (c : Char) : Bool :=
  c.isAlphanum || c == '+' || c == '-' || c == '_' || c == '.' || c == ':'

/-- A date that a space joins to a time is one token. -/
def token (cs : List Char) : List Char × Rest :=
  match cs.span isTokenChar with
  | (first, ' ' :: rest) =>
      if date? first == some [] && (twoDigits? rest).isSome then
        let (second, rest) := rest.span isTokenChar
        (first ++ ' ' :: second, rest)
      else (first, ' ' :: rest)
  | found => found

def scalar? (cs : List Char) : Option (Toml × Rest) :=
  let (t, rest) := token cs
  let value :=
    if t == "true".toList then some (.flag true)
    else if t == "false".toList then some (.flag false)
    else (integer? t).or ((real? t).or (moment? t))
  value.map fun v => (v, rest)

mutual

/-- A value. `fuel` bounds the number of steps, `depth` how far lists and tables may still be nested. -/
def value? (fuel depth : Nat) (cs : List Char) : Option (Toml × Rest) :=
  match fuel with
  | 0 => none
  | n + 1 =>
      match cs with
      | [] => none
      | '[' :: rest =>
          match depth with
          | 0 => none
          | d + 1 => items? n d [] rest
      | '\x7b' :: rest =>
          match depth with
          | 0 => none
          | d + 1 =>
              match skipSpace rest with
              | '\x7d' :: rest => some (.table .braced [], rest)
              | rest => members? n d [] rest
      | c :: rest =>
          if c == '"' || c == '\x27' then
            (string? (c :: rest)).map fun (s, rest) => (.text (String.ofList s), rest)
          else scalar? (c :: rest)

def items? (fuel depth : Nat) (done : List Toml) (cs : List Char) : Option (Toml × Rest) :=
  match fuel with
  | 0 => none
  | n + 1 =>
      match skipBlanks cs.length cs with
      | ']' :: rest => some (.list done.reverse, rest)
      | cs => do
          let (value, rest) ← value? n depth cs
          match skipBlanks rest.length rest with
          | ',' :: rest => items? n depth (value :: done) rest
          | ']' :: rest => some (.list (value :: done).reverse, rest)
          | _ => none

def members? (fuel depth : Nat) (done : Members) (cs : List Char) : Option (Toml × Rest) :=
  match fuel with
  | 0 => none
  | n + 1 => do
      let (key, rest) ← key? (cs.length + 1) cs
      let rest ← after? '=' rest
      let (value, rest) ← value? n depth (skipSpace rest)
      let done ← addValue done value key
      match skipSpace rest with
      | ',' :: rest => members? n depth done rest
      | '\x7d' :: rest => some (.table .braced done, rest)
      | _ => none

end

end Values

section Documents

def depthLimit : Nat := 80

/-- Reads the lines of a document. `way` leads to the table that was opened last. -/
def lines? (fuel : Nat) (root : Members) (way : List String) (cs : List Char) : Option Members :=
  match fuel with
  | 0 => none
  | n + 1 =>
      match skipBlanks cs.length cs with
      | [] => some root
      | '[' :: '[' :: rest => do
          let (key, rest) ← key? (rest.length + 1) rest
          let rest ← after? ']' (← after? ']' rest)
          let root ← changeAt root (openNext (key.getLast?.getD "")) key.dropLast
          lines? n root key (← lineEnd? rest)
      | '[' :: rest => do
          let (key, rest) ← key? (rest.length + 1) rest
          let rest ← after? ']' rest
          let root ← changeAt root (openTable (key.getLast?.getD "")) key.dropLast
          lines? n root key (← lineEnd? rest)
      | cs => do
          let (key, rest) ← key? (cs.length + 1) cs
          let rest ← after? '=' rest
          let (value, rest) ← value? (2 * rest.length + 2) depthLimit (skipSpace rest)
          let root ← addBelow root way key value
          lines? n root way (← lineEnd? rest)

/-- The table of a whole document, before which a byte order mark may stand. -/
def read? (text : String) : Option Members :=
  let cs := match text.toList with
    | '\ufeff' :: rest => rest
    | cs => cs
  lines? (cs.length + 1) [] [] cs

end Documents

end CodeReview.Toml

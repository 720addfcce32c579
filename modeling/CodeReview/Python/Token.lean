import CodeReview.Text.NameChar

/-!
Words, numbers, marks and the blank space between them.

Line structure is not decided here. The gap before a token says whether a line ended in it and how far
the next line is indented; whether that ends a statement, closes a block or means nothing depends on
where the reader stands, which a `Frame` describes.
-/

namespace CodeReview.Python

structure Cursor where
  rest : List Char
  /-- Line feeds passed so far. -/
  row : Nat := 0

section Gaps

/-- The blank space before a token. `breaks` holds when a line ended in it or the text ended; `indent`
is then the indentation of the line on which the token stands. -/
structure Gap where
  breaks : Bool
  indent : Nat
  next : Cursor

/-- Blank characters that separate tokens but hide the rest of the gap from the line structure. -/
def hidesLayout (c : Char) : Bool :=
  c == '\x0b' || c == '\ufeff' || c == '\u200b' || c == '\u2060'

inductive GapMode
  | counting
  | hidden
  | comment

/-- A tab counts eight columns and a space one; a carriage return or form feed starts the count again.
A backslash at the end of a line joins it to the next. -/
def gapFrom (mode : GapMode) (row : Nat) (breaks : Bool) (indent : Nat) : List Char → Gap
  | [] =>
      match mode with
      | .hidden => ⟨breaks, indent, ⟨[], row⟩⟩
      | _ => ⟨true, 0, ⟨[], row⟩⟩
  | '\n' :: rest =>
      match mode with
      | .hidden => gapFrom .hidden (row + 1) breaks indent rest
      | _ => gapFrom .counting (row + 1) true 0 rest
  | '\\' :: '\n' :: rest =>
      match mode with
      | .comment => gapFrom .counting (row + 1) true 0 rest
      | _ => gapFrom .counting (row + 1) breaks indent rest
  | '\\' :: '\r' :: '\n' :: rest =>
      match mode with
      | .comment => gapFrom .counting (row + 1) true 0 rest
      | _ => gapFrom .counting (row + 1) breaks indent rest
  | c :: rest =>
      let stop : Gap := ⟨breaks, indent, ⟨c :: rest, row⟩⟩
      match mode with
      | .comment => if c == '\x00' then stop else gapFrom .comment row breaks indent rest
      | .hidden =>
          if c == ' ' || c == '\t' || c == '\r' || c == '\x0c' || hidesLayout c then
            gapFrom .hidden row breaks indent rest
          else if c == '#' then gapFrom .comment row breaks indent rest
          else stop
      | .counting =>
          if c == ' ' then gapFrom .counting row breaks (indent + 1) rest
          else if c == '\t' then gapFrom .counting row breaks (indent + 8) rest
          else if c == '\r' || c == '\x0c' then gapFrom .counting row breaks 0 rest
          else if hidesLayout c then gapFrom .hidden row breaks indent rest
          else if c == '#' then gapFrom .comment row breaks indent rest
          else if c == '\\' && rest.isEmpty then ⟨true, 0, ⟨[], row⟩⟩
          else stop

def Cursor.gap (c : Cursor) : Gap := gapFrom .counting c.row false 0 c.rest

end Gaps

section Words

def keywords : List String :=
  ["False", "None", "True", "and", "as", "assert", "break", "class", "continue", "def", "del", "elif",
    "else", "except", "finally", "for", "from", "global", "if", "import", "in", "is", "lambda",
    "nonlocal", "not", "or", "pass", "raise", "return", "try", "while", "with", "yield"]

/-- Whether a word may stand as an operand; `async` and `await` may. -/
def isOperandName (word : String) : Bool := !keywords.contains word

def isName (word : String) : Bool :=
  isOperandName word && word != "async" && word != "await"

end Words

section Numbers

/-- What follows a run of decimal digits, each group of which may end in one underscore. -/
def skipDigits (afterDigit : Bool) : List Char → List Char
  | [] => []
  | c :: rest =>
      if c.isDigit then skipDigits true rest
      else if c == '_' && afterDigit then skipDigits false rest
      else c :: rest

def skipBased (isDigit : Char → Bool) : List Char → List Char
  | [] => []
  | '_' :: c :: rest => if isDigit c then skipBased isDigit rest else '_' :: c :: rest
  | c :: rest => if isDigit c then skipBased isDigit rest else c :: rest

def dropOne (p : Char → Bool) : List Char → List Char
  | [] => []
  | c :: rest => if p c then rest else c :: rest

def isLong (c : Char) : Bool := c == 'l' || c == 'L'

def isImaginary (c : Char) : Bool := c == 'j' || c == 'J'

def startsDigit : List Char → Bool
  | c :: _ => c.isDigit
  | [] => false

def skipExponent (cs : List Char) : List Char :=
  match cs with
  | e :: rest =>
      if e == 'e' || e == 'E' then
        let digits := dropOne (fun c => c == '+' || c == '-') rest
        if startsDigit digits then skipDigits false digits else cs
      else cs
  | [] => []

def skipFraction (cs : List Char) : List Char :=
  let rest := if startsDigit cs then skipDigits false cs else cs
  dropOne isImaginary (skipExponent rest)

def skipDecimal (cs : List Char) : List Char :=
  let rest := skipDigits false cs
  match rest with
  | '.' :: after => skipFraction after
  | _ =>
      let after := skipExponent rest
      if after.length < rest.length then dropOne isImaginary after
      else dropOne (fun c => isLong c || isImaginary c) rest

def basedNumber (isDigit : Char → Bool) (cs digits : List Char) : List Char :=
  let rest := skipBased isDigit digits
  if rest.length < digits.length then dropOne isLong rest else skipDecimal cs

def skipNumber (cs : List Char) : List Char :=
  match cs with
  | '0' :: b :: digits =>
      if b == 'x' || b == 'X' then
        basedNumber (fun c => c.isDigit || ('a' ≤ c && c ≤ 'f') || ('A' ≤ c && c ≤ 'F')) cs digits
      else if b == 'o' || b == 'O' then basedNumber (fun c => '0' ≤ c && c ≤ '7') cs digits
      else if b == 'b' || b == 'B' then basedNumber (fun c => c == '0' || c == '1') cs digits
      else skipDecimal cs
  | _ => skipDecimal cs

end Numbers

section Quotes

structure Quote where
  mark : Char
  triple : Bool := false
  raw : Bool := false
  bytes : Bool := false
  /-- Whether braces in it hold expressions. -/
  fields : Bool := false
  deriving DecidableEq, Repr

def isQuoteMark (c : Char) : Bool := c == '"' || c == '\x27' || c == '\x60'

def openQuote (q : Quote) : List Char → Option (Quote × List Char)
  | [] => none
  | c :: rest =>
      if isQuoteMark c then
        match rest with
        | d :: e :: after =>
            if c == d && c == e && c != '\x60' then some ({ q with mark := c, triple := true }, after)
            else some ({ q with mark := c }, rest)
        | _ => some ({ q with mark := c }, rest)
      else if c == 'f' || c == 'F' || c == 't' || c == 'T' then openQuote { q with fields := true } rest
      else if c == 'r' || c == 'R' then openQuote { q with raw := true } rest
      else if c == 'b' || c == 'B' then openQuote { q with bytes := true } rest
      else if c == 'u' || c == 'U' then openQuote q rest
      else none

end Quotes

section Tokens

inductive Token
  | word (text : String)
  | number
  | quote (q : Quote)
  | mark (text : String)
  | lineEnd
  | finish
  deriving DecidableEq, Repr

def longMarks : List String :=
  ["**=", "//=", ">>=", "<<=", "...", "**", "//", ">>", "<<", "<=", ">=", "==", "!=", "<>", "->",
    "+=", "-=", "*=", "/=", "%=", "@=", "&=", "|=", "^=", ":="]

def shortMarks : List Char := "+-*/%@&|^~<>()[]\x7b\x7d,:.;=!".toList

def dropMark? : List Char → List Char → Option (List Char)
  | [], cs => some cs
  | d :: ds, c :: cs => if d == c then dropMark? ds cs else none
  | _ :: _, [] => none

/-- The longest mark at the front of a text. -/
def markAt (cs : List Char) : Option (Token × List Char) :=
  match longMarks.findSome? fun m => (dropMark? m.toList cs).map fun rest => (Token.mark m, rest) with
  | some found => some found
  | none =>
      match cs with
      | c :: rest => if shortMarks.contains c then some (.mark (String.singleton c), rest) else none
      | [] => none

def lexeme (cs : List Char) : Option (Token × List Char) :=
  match openQuote ⟨'"', false, false, false, false⟩ cs with
  | some (q, rest) => some (.quote q, rest)
  | none =>
      match cs with
      | [] => none
      | c :: rest =>
          if Text.isNameStart c then
            let (more, after) := rest.span Text.isNameChar
            some (.word (String.ofList (c :: more)), after)
          else if c.isDigit then some (.number, skipNumber cs)
          else if c == '.' && startsDigit rest then some (.number, skipFraction rest)
          else markAt cs

structure Frame where
  /-- Indentation of the innermost open block. -/
  column : Nat
  /-- The statement may be complete here. -/
  ends : Bool := false
  /-- A closing bracket may come here. -/
  closes : Bool := false
  /-- A string literal may begin here. -/
  operand : Bool := false
  /-- The reader stands inside a string literal. -/
  field : Bool := false

/-- Where a statement may end after what has been read. -/
def Frame.line (column : Nat) : Frame := { column, ends := true }

def Frame.middle (f : Frame) : Frame := { f with ends := false, closes := false, operand := false }

/-- Where an operand has to come. -/
def Frame.begin (f : Frame) : Frame := { f with ends := false, closes := false, operand := true }

def Frame.inside (f : Frame) : Frame := { f with ends := false, closes := true, operand := false }

/-- The same place, where moreover an operand may come. -/
def Frame.orOperand (f : Frame) : Frame := { f with operand := true }

structure Ahead where
  token : Token
  start : Cursor
  next : Cursor

def startsQuote : List Char → Bool
  | c :: _ => isQuoteMark c
  | [] => false

/-- Looks at the next token. A line end counts only where the statement may end. Elsewhere it is blank
space, but a line that stands to the left of the open block is refused unless a bracket may close
there, a string literal begins there, or the reader is inside a string literal. -/
def Cursor.peek (c : Cursor) (f : Frame) : Option Ahead :=
  let g := c.gap
  if g.breaks && f.ends then some ⟨.lineEnd, c, c⟩
  else if g.breaks && g.indent < f.column && !f.closes && !f.field &&
      !(f.operand && startsQuote g.next.rest) then none
  else
    match g.next.rest with
    | [] => some ⟨.finish, g.next, g.next⟩
    | _ :: _ => (lexeme g.next.rest).map fun (token, rest) => ⟨token, g.next, ⟨rest, g.next.row⟩⟩

def Cursor.expect (c : Cursor) (f : Frame) (mark : String) : Option Cursor := do
  let a ← c.peek f
  if a.token == .mark mark then some a.next else none

end Tokens

end CodeReview.Python

import CodeReview.Python.Token
import CodeReview.Python.Tree

/-!
Reading expressions. An expression is accepted or refused, and of an accepted one only its `Shape` is
kept: whether it may be assigned to, and whether it is a string literal.

Operators are read as chains. How tightly they bind decides the meaning of an expression but not
whether it is one, with one exception that is observed: the operand of an arithmetic operator or a
comparison is never a `not`, a `lambda`, a conditional or a named expression.

The grammar is lenient where that does no harm to the analyses: a star may stand before any assignable
operand, `as` joins two expressions anywhere, and a name may be given a value by `:=` in a statement of
its own.
-/

namespace CodeReview.Python

inductive Shape
  | name
  /-- An attribute or a subscript. -/
  | place
  /-- A star and something assignable. -/
  | splat
  /-- Parentheses or square brackets around assignable things only. -/
  | group
  /-- One or more adjacent string literals. -/
  | text
  /-- A star before something that is not assignable, or a `yield`: an element of a collection or an
  argument, but not an expression. -/
  | loose
  | other
  deriving DecidableEq, Repr

def Shape.isTarget : Shape → Bool
  | .name | .place | .splat | .group => true
  | _ => false

def Shape.extended : Shape → Shape
  | .loose => .loose
  | _ => .other

def arithmeticMarks : List String :=
  ["+", "-", "*", "/", "%", "@", "|", "&", "^", "<<", ">>", "//", "**"]

def comparisonMarks : List String := ["<", ">", "<=", ">=", "==", "!=", "<>"]

def Token.isArithmetic : Token → Bool
  | .mark m => arithmeticMarks.contains m
  | _ => false

def Token.isComparison : Token → Bool
  | .mark m => comparisonMarks.contains m
  | _ => false

def Token.startsOperand : Token → Bool
  | .number | .quote _ => true
  | .word w => isOperandName w || ["True", "False", "None", "not", "lambda"].contains w
  | .mark m => ["(", "[", "\x7b", "+", "-", "~", "*", "..."].contains m
  | .lineEnd | .finish => false

/-- Whether `await` before this token is an operator rather than a name. -/
def Token.isAwaited : Token → Bool
  | .number | .quote _ => true
  | .word w => isOperandName w || ["True", "False", "None"].contains w
  | .mark m => ["(", "[", "\x7b", "~", "..."].contains m
  | .lineEnd | .finish => false

section Literals

inductive TextStop
  | closed (c : Cursor)
  /-- A brace has opened an expression. -/
  | field (c : Cursor)
  | unclosed

/-- What follows a character named by `\N`, when a closing brace comes. -/
def skipCharName : List Char → Option (List Char)
  | '\x7d' :: rest => some rest
  | _ :: rest => skipCharName rest
  | [] => none

def isEscaped (c : Char) : Bool := "\x27\"abfnrtv\\".toList.contains c

/-- Passes over the text of a string literal. `skip` characters are taken as they are; `fresh` holds
directly after the opening quote, an escape or a field. A literal between single quotation marks may
not run past the end of its line, except that a line feed at a fresh place belongs to the text. -/
def scanText (q : Quote) (fresh : Bool) (skip row : Nat) : List Char → TextStop
  | [] => .unclosed
  | c :: rest =>
      let row' := if c == '\n' then row + 1 else row
      match skip with
      | k + 1 => scanText q fresh k row' rest
      | 0 =>
          if c == '\x00' then .unclosed
          else if c == '\\' then
            if q.raw then
              let quoted := match rest with
                | d :: _ => if d == q.mark || d == '\\' then 1 else 0
                | [] => 0
              let feeds := match rest.drop quoted with
                | '\r' :: '\n' :: _ => 2
                | '\r' :: _ => 1
                | '\n' :: _ => 1
                | _ => 0
              scanText q fresh (quoted + feeds) row rest
            else
              match rest with
              | '\r' :: '\n' :: _ => scanText q true 2 row rest
              | '\n' :: _ => scanText q true 1 row rest
              | 'N' :: '\x7b' :: name =>
                  match skipCharName name with
                  | some after =>
                      if name.head? == some '\x7d' then scanText q true 0 row rest
                      else scanText q true (rest.length - after.length) row rest
                  | none => scanText q true 0 row rest
              | d :: _ => scanText q true (if isEscaped d then 1 else 0) row rest
              | [] => .unclosed
          else if q.fields && c == '\x7b' then
            match rest with
            | '\x7b' :: _ => scanText q true 1 row rest
            | _ => .field ⟨rest, row⟩
          else if q.fields && c == '\x7d' then
            match rest with
            | '\x7d' :: _ => scanText q true 1 row rest
            | _ => .unclosed
          else if c == q.mark then
            if q.triple then
              match rest with
              | d :: e :: after =>
                  if d == q.mark && e == q.mark then .closed ⟨after, row⟩
                  else scanText q false 0 row rest
              | _ => scanText q false 0 row rest
            else .closed ⟨rest, row⟩
          else if c == '\n' && !q.triple && !fresh then .unclosed
          else scanText q false 0 row' rest

def scanFormat (row : Nat) : List Char → TextStop
  | [] => .unclosed
  | c :: rest =>
      if c == '\x00' then .unclosed
      else if c == '\x7b' then .field ⟨rest, row⟩
      else if c == '\x7d' then .closed ⟨rest, row⟩
      else scanFormat (if c == '\n' then row + 1 else row) rest

end Literals

def Cursor.settle (c : Cursor) (f : Frame) : Option Cursor := do
  let g := c.gap
  if g.breaks && g.indent < f.column && !f.closes && !f.field then none else some g.next

def Cursor.identifier (c : Cursor) (f : Frame) : Option (String × Cursor) := do
  let a ← c.peek f
  match a.token with
  | .word w => if isName w then some (w, a.next) else none
  | _ => none

def Cursor.startsClause (c : Cursor) (f : Frame) : Bool :=
  match c.peek f with
  | some a =>
      a.token == .word "for" ||
        (a.token == .word "async" && ((a.next.peek f.middle).map (·.token)) == some (.word "for"))
  | none => false

section Grammar

mutual

def readText (fuel : Nat) (f : Frame) (q : Quote) (c : Cursor) : Option Cursor :=
  match fuel with
  | 0 => none
  | n + 1 => do
      let c ← readTextBody n f q c
      let a ← c.peek f.orOperand
      match a.token with
      | .quote q => readText n f q a.next
      | _ => some c

def readTextBody (fuel : Nat) (f : Frame) (q : Quote) (c : Cursor) : Option Cursor :=
  match fuel with
  | 0 => none
  | n + 1 =>
      match scanText q true 0 c.row c.rest with
      | .closed c => some c
      | .unclosed => none
      | .field c => do
          let c ← readField n f c
          readTextBody n f q c

def readField (fuel : Nat) (f : Frame) (c : Cursor) : Option Cursor :=
  match fuel with
  | 0 => none
  | n + 1 => do
      let f : Frame := { f.inside with field := true }
      let a ← c.peek f.begin
      let c ←
        if a.token == .word "yield" then readYield n f a.next
        else (readExpressions n f true a.start).map (·.2)
      let c ← c.settle f
      let c ← match c.rest with
        | '=' :: rest => Cursor.settle ⟨rest, c.row⟩ f
        | _ => some c
      let c ← match c.rest with
        | '!' :: d :: rest =>
            if 'a' ≤ d && d ≤ 'z' then Cursor.settle ⟨rest, c.row⟩ f else none
        | _ => some c
      match c.rest with
      | '\x7d' :: rest => some ⟨rest, c.row⟩
      | ':' :: rest => readFormat n f ⟨rest, c.row⟩
      | _ => none

def readFormat (fuel : Nat) (f : Frame) (c : Cursor) : Option Cursor :=
  match fuel with
  | 0 => none
  | n + 1 =>
      match scanFormat c.row c.rest with
      | .closed c => some c
      | .unclosed => none
      | .field c => do
          let c ← readField n f c
          readFormat n f c

def readAtom (fuel : Nat) (f : Frame) (c : Cursor) : Option (Shape × Cursor) :=
  match fuel with
  | 0 => none
  | n + 1 => do
      let a ← c.peek f.begin
      match a.token with
      | .number => some (.other, a.next)
      | .quote q => (readText n f q a.next).map fun c => (.text, c)
      | .word w =>
          if isOperandName w then some (.name, a.next)
          else if w == "True" || w == "False" || w == "None" then some (.other, a.next)
          else none
      | .mark "(" => readBracketed n f ")" a.next
      | .mark "[" => readBracketed n f "]" a.next
      | .mark "\x7b" => (readBraced n f a.next).map fun c => (.other, c)
      | .mark "..." => some (.other, a.next)
      | _ => none

def readBracketed (fuel : Nat) (f : Frame) (closer : String) (c : Cursor) :
    Option (Shape × Cursor) :=
  match fuel with
  | 0 => none
  | n + 1 => do
      let a ← c.peek f.inside.orOperand
      if a.token == .mark closer then some (.group, a.next)
      else
        let (shape, c) ← readElement n f.inside a.start
        if shape != .loose && c.startsClause f.inside then
          let c ← readClauses n f.inside c
          let c ← c.expect f.inside closer
          some (.other, c)
        else readElements n f closer shape.isTarget c

/-- The rest of a collection after an element; `targets` holds while all elements are assignable. -/
def readElements (fuel : Nat) (f : Frame) (closer : String) (targets : Bool) (c : Cursor) :
    Option (Shape × Cursor) :=
  match fuel with
  | 0 => none
  | n + 1 => do
      let done (c : Cursor) : Option (Shape × Cursor) :=
        some (if targets then .group else .other, c)
      let a ← c.peek f.inside
      if a.token == .mark closer then done a.next
      else if a.token == .mark "," then
        let b ← a.next.peek f.inside.orOperand
        if b.token == .mark closer then done b.next
        else
          let (shape, c) ← readElement n f.inside b.start
          readElements n f closer (targets && shape.isTarget) c
      else none

def readElement (fuel : Nat) (f : Frame) (c : Cursor) : Option (Shape × Cursor) :=
  match fuel with
  | 0 => none
  | n + 1 => do
      let a ← c.peek f.begin
      match a.token with
      | .word "yield" => (readYield n f a.next).map fun c => (.loose, c)
      | .mark "*" =>
          let b ← a.next.peek f.begin
          if b.token == .word "not" || b.token == .word "lambda" then
            let (_, c) ← readExpression n f true b.start
            some (.loose, c)
          else readChain n f true a.start
      | _ => readChain n f true a.start

def readBraced (fuel : Nat) (f : Frame) (c : Cursor) : Option Cursor :=
  match fuel with
  | 0 => none
  | n + 1 => do
      let a ← c.peek f.inside.orOperand
      match a.token with
      | .mark "\x7d" => some a.next
      | .mark "," => a.next.expect f.inside "\x7d"
      | .mark "**" =>
          let (_, c) ← readExpression n f.inside true a.next
          readPairs n f c
      | _ =>
          let (shape, c) ← readElement n f.inside a.start
          let b ← c.peek f.inside
          if b.token == .mark ":" then
            if shape == .loose then none
            else
              let (_, c) ← readExpression n f.inside true b.next
              if c.startsClause f.inside then
                let c ← readClauses n f.inside c
                c.expect f.inside "\x7d"
              else readPairs n f c
          else if shape != .loose && c.startsClause f.inside then
            let c ← readClauses n f.inside c
            c.expect f.inside "\x7d"
          else (readElements n f "\x7d" false c).map (·.2)

def readPairs (fuel : Nat) (f : Frame) (c : Cursor) : Option Cursor :=
  match fuel with
  | 0 => none
  | n + 1 => do
      let a ← c.peek f.inside
      match a.token with
      | .mark "\x7d" => some a.next
      | .mark "," =>
          let b ← a.next.peek f.inside.orOperand
          match b.token with
          | .mark "\x7d" => some b.next
          | .mark "**" =>
              let (_, c) ← readExpression n f.inside true b.next
              readPairs n f c
          | _ =>
              let (_, c) ← readExpression n f.middle true b.start
              let c ← c.expect f.middle ":"
              let (_, c) ← readExpression n f.inside true c
              readPairs n f c
      | _ => none

/-- What follows the opening parenthesis of a call or of a list of base classes. -/
def readArguments (fuel : Nat) (f : Frame) (comprehends : Bool) (c : Cursor) : Option Cursor :=
  match fuel with
  | 0 => none
  | n + 1 => do
      let a ← c.peek f.inside.orOperand
      match a.token with
      | .mark ")" => some a.next
      | .mark "," => a.next.expect f.inside ")"
      | _ =>
          let (shape, c) ← readArgument n f.inside a.start
          if comprehends && shape != .loose && c.startsClause f.inside then
            let c ← readClauses n f.inside c
            c.expect f.inside ")"
          else readMoreArguments n f c

def readMoreArguments (fuel : Nat) (f : Frame) (c : Cursor) : Option Cursor :=
  match fuel with
  | 0 => none
  | n + 1 => do
      let a ← c.peek f.inside
      match a.token with
      | .mark ")" => some a.next
      | .mark "," =>
          let b ← a.next.peek f.inside.orOperand
          if b.token == .mark ")" then some b.next
          else
            let (_, c) ← readArgument n f.inside b.start
            readMoreArguments n f c
      | _ => none

def readArgument (fuel : Nat) (f : Frame) (c : Cursor) : Option (Shape × Cursor) :=
  match fuel with
  | 0 => none
  | n + 1 => do
      let a ← c.peek f.begin
      match a.token with
      | .mark "**" =>
          let (_, c) ← readExpression n f true a.next
          some (.loose, c)
      | .word "yield" => none
      | .word w =>
          let b ← a.next.peek f
          if isOperandName w && b.token == .mark "=" then
            let (_, c) ← readExpression n f true b.next
            some (.loose, c)
          else readElement n f a.start
      | _ => readElement n f a.start

def readSubscripts (fuel : Nat) (f : Frame) (c : Cursor) : Option Cursor :=
  match fuel with
  | 0 => none
  | n + 1 => do
      let a ← c.peek f.begin
      let c ←
        if a.token == .mark ":" then readSlice n f 2 a.start
        else do
          let (_, c) ← readExpression n f.inside true a.start
          readSlice n f 2 c
      let b ← c.peek f.inside
      match b.token with
      | .mark "]" => some b.next
      | .mark "," =>
          let d ← b.next.peek f.inside.orOperand
          if d.token == .mark "]" then some d.next else readSubscripts n f d.start
      | _ => none

/-- The colons of a slice, at most `colons` of them, each with an optional bound after it. -/
def readSlice (fuel : Nat) (f : Frame) (colons : Nat) (c : Cursor) : Option Cursor :=
  match fuel with
  | 0 => none
  | n + 1 => do
      let a ← c.peek f.inside
      match colons with
      | 0 => some c
      | k + 1 =>
          if a.token == .mark ":" then
            let b ← a.next.peek f.inside.orOperand
            if b.token.startsOperand then
              let (_, c) ← readExpression n f.inside true b.start
              readSlice n f k c
            else readSlice n f k b.start
          else some c

/-- Attributes, subscripts and calls after an operand. The flag of the answer holds when the operand is
a name or one of them is an attribute or a subscript. -/
def readTrailers (fuel : Nat) (f : Frame) (shape : Shape) (placed : Bool) (c : Cursor) :
    Option (Shape × Bool × Cursor) :=
  match fuel with
  | 0 => none
  | n + 1 => do
      let a ← c.peek f
      match a.token with
      | .mark "." =>
          let (_, c) ← a.next.identifier f.middle
          readTrailers n f .place true c
      | .mark "[" =>
          let c ← readSubscripts n f a.next
          readTrailers n f .place true c
      | .mark "(" =>
          let c ← readArguments n f true a.next
          readTrailers n f .other placed c
      | _ => some (shape, placed, c)

def readPrimary (fuel : Nat) (f : Frame) (c : Cursor) : Option (Shape × Cursor) :=
  match fuel with
  | 0 => none
  | n + 1 => do
      let a ← c.peek f.begin
      let plain : Option (Shape × Cursor) := do
        let (shape, c) ← readAtom n f a.start
        let (shape, _, c) ← readTrailers n f shape (shape == .name) c
        some (shape, c)
      match a.token with
      | .mark "+" | .mark "-" | .mark "~" =>
          let (shape, c) ← readPrimary n f a.next
          if shape == .loose then none else some (.other, c)
      | .mark "*" =>
          let b ← a.next.peek f.begin
          match b.token with
          | .mark "+" | .mark "-" | .mark "~" =>
              let (shape, c) ← readPrimary n f b.start
              if shape == .loose then none else some (.loose, c)
          | .mark "*" | .mark "**" => none
          | _ =>
              let (shape, c) ← readAtom n f b.start
              let (shape, placed, c) ← readTrailers n f shape (shape == .name) c
              some (if !placed then .loose else if shape.isTarget then .splat else .other, c)
      | .word "await" =>
          let b ← a.next.peek f.orOperand
          if b.token.isAwaited then
            let (shape, c) ← readPrimary n f b.start
            if shape == .loose then none else some (.other, c)
          else plain
      | _ => plain

def readSum (fuel : Nat) (f : Frame) (c : Cursor) : Option (Shape × Cursor) :=
  match fuel with
  | 0 => none
  | n + 1 => do
      let (shape, c) ← readPrimary n f c
      readAddends n f shape c

def readAddends (fuel : Nat) (f : Frame) (shape : Shape) (c : Cursor) : Option (Shape × Cursor) :=
  match fuel with
  | 0 => none
  | n + 1 => do
      let a ← c.peek f
      if a.token.isArithmetic then
        let (right, c) ← readPrimary n f a.next
        if right == .loose then none else readAddends n f shape.extended c
      else some (shape, c)

def readComparison (fuel : Nat) (f : Frame) (c : Cursor) : Option (Shape × Cursor) :=
  match fuel with
  | 0 => none
  | n + 1 => do
      let (shape, c) ← readSum n f c
      readComparands n f shape c

def readComparands (fuel : Nat) (f : Frame) (shape : Shape) (c : Cursor) :
    Option (Shape × Cursor) :=
  match fuel with
  | 0 => none
  | n + 1 => do
      let a ← c.peek f
      let after? : Option (Option Cursor) :=
        match a.token with
        | .word "in" => some (some a.next)
        | .word "is" =>
            some ((a.next.peek f.begin).map fun b =>
              if b.token == .word "not" then b.next else a.next)
        | .word "not" =>
            some ((a.next.peek f.middle).bind fun b =>
              if b.token == .word "in" then some b.next else none)
        | token => if token.isComparison then some (some a.next) else none
      match after? with
      | none => some (shape, c)
      | some after =>
          let c ← after
          let (right, c) ← readSum n f c
          if right == .loose then none else readComparands n f shape.extended c

def readTerm (fuel : Nat) (f : Frame) (conditional : Bool) (c : Cursor) : Option (Shape × Cursor) :=
  match fuel with
  | 0 => none
  | n + 1 => do
      let a ← c.peek f.begin
      match a.token with
      | .word "not" =>
          let (shape, c) ← readTerm n f conditional a.next
          if shape == .loose then none else some (.other, c)
      | .word "lambda" =>
          let (_, c) ← readParameters n f.middle false ":" a.next
          let (_, c) ← readExpression n f conditional c
          some (.other, c)
      | .word w =>
          let b ← a.next.peek f.orOperand
          if isOperandName w && b.token == .mark ":=" then
            let (_, c) ← readExpression n f conditional b.next
            some (.other, c)
          else readComparison n f a.start
      | _ => readComparison n f a.start

def readTerms (fuel : Nat) (f : Frame) (conditional : Bool) (shape : Shape) (c : Cursor) :
    Option (Shape × Cursor) :=
  match fuel with
  | 0 => none
  | n + 1 => do
      let a ← c.peek f
      if a.token == .word "and" || a.token == .word "or" then
        let (right, c) ← readTerm n f conditional a.next
        if right == .loose then none else readTerms n f conditional shape.extended c
      else some (shape, c)

/-- An expression, or something that is only an element. Where `conditional` does not hold, an `if`
after the expression belongs to what surrounds it. -/
def readChain (fuel : Nat) (f : Frame) (conditional : Bool) (c : Cursor) : Option (Shape × Cursor) :=
  match fuel with
  | 0 => none
  | n + 1 => do
      let (shape, c) ← readTerm n f conditional c
      let (shape, c) ← readTerms n f conditional shape c
      readTail n f conditional shape c

def readTail (fuel : Nat) (f : Frame) (conditional : Bool) (shape : Shape) (c : Cursor) :
    Option (Shape × Cursor) :=
  match fuel with
  | 0 => none
  | n + 1 => do
      let a ← c.peek f
      match a.token with
      | .word "if" =>
          if conditional then
            let (_, c) ← readExpression n f.middle true a.next
            let b ← c.peek f.middle
            if b.token == .word "else" then
              let (_, c) ← readExpression n f conditional b.next
              readTail n f conditional shape.extended c
            else none
          else some (shape, c)
      | .word "as" =>
          let (_, c) ← readExpression n f conditional a.next
          readTail n f conditional shape.extended c
      | _ => some (shape, c)

def readExpression (fuel : Nat) (f : Frame) (conditional : Bool) (c : Cursor) :
    Option (Shape × Cursor) :=
  match fuel with
  | 0 => none
  | n + 1 => do
      let (shape, c) ← readChain n f conditional c
      if shape == .loose then none else some (shape, c)

def readExpressions (fuel : Nat) (f : Frame) (conditional : Bool) (c : Cursor) :
    Option (List Shape × Cursor) :=
  match fuel with
  | 0 => none
  | n + 1 => do
      let (shape, c) ← readExpression n f conditional c
      let a ← c.peek f
      if a.token == .mark "," then
        let b ← a.next.peek f.orOperand
        if b.token.startsOperand then
          let (shapes, c) ← readExpressions n f conditional b.start
          some (shape :: shapes, c)
        else some ([shape], a.next)
      else some ([shape], c)

def readYield (fuel : Nat) (f : Frame) (c : Cursor) : Option Cursor :=
  match fuel with
  | 0 => none
  | n + 1 => do
      let a ← c.peek f.orOperand
      if a.token == .word "from" then (readExpression n f true a.next).map (·.2)
      else if a.token.startsOperand then (readExpressions n f true a.start).map (·.2)
      else some c

def readClauses (fuel : Nat) (f : Frame) (c : Cursor) : Option Cursor :=
  match fuel with
  | 0 => none
  | n + 1 => do
      let a ← c.peek f
      let c ← if a.token == .word "async" then some a.next else some a.start
      let a ← c.peek f.middle
      if a.token == .word "for" then
        let c ← readTargets n f a.next
        let (_, c) ← readExpressions n f false c
        readFilters n f c
      else none

def readFilters (fuel : Nat) (f : Frame) (c : Cursor) : Option Cursor :=
  match fuel with
  | 0 => none
  | n + 1 => do
      let a ← c.peek f
      if a.token == .word "if" then
        let (_, c) ← readExpression n f false a.next
        readFilters n f c
      else if c.startsClause f then readClauses n f c
      else some c

def readTargets (fuel : Nat) (f : Frame) (c : Cursor) : Option Cursor :=
  match fuel with
  | 0 => none
  | n + 1 => do
      let (shape, c) ← readPrimary n f.middle c
      if shape.isTarget then
        let a ← c.peek f.middle
        match a.token with
        | .word "in" => some a.next
        | .mark "," =>
            let b ← a.next.peek f.begin
            if b.token == .word "in" then some b.next else readTargets n f b.start
        | _ => none
      else none

/-- A parameter list up to and including `closer`. Types are read only where `types` holds. -/
def readParameters (fuel : Nat) (f : Frame) (types : Bool) (closer : String) (c : Cursor) :
    Option (List Parameter × Cursor) :=
  match fuel with
  | 0 => none
  | n + 1 => do
      let a ← c.peek f.orOperand
      if a.token == .mark closer then some ([], a.next)
      else
        let (parameter, c) ← readParameter n f types closer a.start
        let b ← c.peek f
        if b.token == .mark closer then some ([parameter], b.next)
        else if b.token == .mark "," then
          let (parameters, c) ← readParameters n f types closer b.next
          some (parameter :: parameters, c)
        else none

def readParameter (fuel : Nat) (f : Frame) (types : Bool) (closer : String) (c : Cursor) :
    Option (Parameter × Cursor) :=
  match fuel with
  | 0 => none
  | n + 1 => do
      let a ← c.peek f.begin
      match a.token with
      | .mark "/" => some (.slash, a.next)
      | .mark "*" =>
          let b ← a.next.peek f.orOperand
          if b.token == .mark "," || b.token == .mark closer then some (.star, a.next)
          else
            let (typed, c) ← readCollector n f types b.start
            some (.rest typed, c)
      | .mark "**" =>
          let (typed, c) ← readCollector n f types a.next
          some (.keywords typed, c)
      | .mark "(" =>
          let (shape, c) ← readAtom n f a.start
          if shape.isTarget then
            let (_, c) ← readDefault n f c
            some (.group, c)
          else none
      | .word w =>
          if isName w then
            let b ← a.next.peek f
            if types && b.token == .mark ":" then
              let c ← readType n f true b.next
              let (given, c) ← readDefault n f c
              some (if given then .typedDefault w else .typed w, c)
            else
              let (given, c) ← readDefault n f a.next
              some (if given then .default w else .plain w, c)
          else none
      | _ => none

/-- What follows the stars of a parameter; the flag of the answer holds when it has a type. -/
def readCollector (fuel : Nat) (f : Frame) (types : Bool) (c : Cursor) : Option (Bool × Cursor) :=
  match fuel with
  | 0 => none
  | n + 1 => do
      let (shape, c) ← readPrimary n f c
      if shape == .name || shape == .place then
        let a ← c.peek f
        if types && a.token == .mark ":" then (readType n f true a.next).map fun c => (true, c)
        else some (false, c)
      else none

/-- A default value, if one follows; the flag of the answer says so. -/
def readDefault (fuel : Nat) (f : Frame) (c : Cursor) : Option (Bool × Cursor) :=
  match fuel with
  | 0 => none
  | n + 1 => do
      let a ← c.peek f
      if a.token == .mark "=" then (readExpression n f true a.next).map fun (_, c) => (true, c)
      else some (false, c)

/-- A type: an expression, a starred name or a name with type arguments, and unions of these. Where
`bounds` holds a colon may join a type and its bound. -/
def readType (fuel : Nat) (f : Frame) (bounds : Bool) (c : Cursor) : Option Cursor :=
  match fuel with
  | 0 => none
  | n + 1 => do
      let a ← c.peek f.begin
      match a.token with
      | .mark "**" =>
          let (_, c) ← a.next.identifier f.middle
          readTypeTail n f bounds c
      | .word w =>
          let b ← a.next.peek f
          if isOperandName w && b.token == .mark "[" then
            let c ← readTypes n f b.next
            readTypeTail n f bounds c
          else
            let (_, c) ← readExpression n f true a.start
            readTypeTail n f bounds c
      | _ =>
          let (_, c) ← readExpression n f true a.start
          readTypeTail n f bounds c

def readTypeTail (fuel : Nat) (f : Frame) (bounds : Bool) (c : Cursor) : Option Cursor :=
  match fuel with
  | 0 => none
  | n + 1 => do
      let a ← c.peek f
      match a.token with
      | .mark "|" => readType n f bounds a.next
      | .mark ":" => if bounds then readType n f bounds a.next else some c
      | .mark "." =>
          let (_, c) ← a.next.identifier f.middle
          readTypeTail n f bounds c
      | _ => some c

def readTypes (fuel : Nat) (f : Frame) (c : Cursor) : Option Cursor :=
  match fuel with
  | 0 => none
  | n + 1 => do
      let c ← readType n f.inside true c
      let a ← c.peek f.inside
      match a.token with
      | .mark "]" => some a.next
      | .mark "," =>
          let b ← a.next.peek f.inside.orOperand
          if b.token == .mark "]" then some b.next else readTypes n f b.start
      | _ => none

end

end Grammar

section Entry

/-- Enough for every text that is left: each character takes at most sixteen nested steps. -/
def Cursor.fuel (c : Cursor) : Nat := 16 * c.rest.length + 32

def Cursor.expression (c : Cursor) (f : Frame) : Option (Shape × Cursor) :=
  readExpression c.fuel f true c

def Cursor.expressions (c : Cursor) (f : Frame) : Option (List Shape × Cursor) :=
  readExpressions c.fuel f true c

def Cursor.yielded (c : Cursor) (f : Frame) : Option Cursor := readYield c.fuel f c

def Cursor.targets (c : Cursor) (f : Frame) : Option Cursor := readTargets c.fuel f c

def Cursor.parameters (c : Cursor) (f : Frame) : Option (List Parameter × Cursor) :=
  readParameters c.fuel f.inside true ")" c

def Cursor.arguments (c : Cursor) (f : Frame) : Option Cursor := readArguments c.fuel f false c

def Cursor.type (c : Cursor) (f : Frame) (bounds : Bool) : Option Cursor :=
  readType c.fuel f bounds c

def Cursor.typeParameters (c : Cursor) (f : Frame) : Option Cursor := readTypes c.fuel f c

def Cursor.texts (c : Cursor) (f : Frame) (q : Quote) : Option Cursor := readText c.fuel f q c

end Entry

end CodeReview.Python

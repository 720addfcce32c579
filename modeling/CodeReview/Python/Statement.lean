import CodeReview.Python.Expression

/-!
Reading statements into trees. Blocks follow the indentation with three liberties: a block may be
empty, a line indented further than its block belongs to that block, and a line between two open levels
closes the inner one and belongs to the outer one.
-/

namespace CodeReview.Python

section Simple

def augmentedMarks : List String :=
  ["+=", "-=", "*=", "/=", "//=", "%=", "@=", "**=", ">>=", "<<=", "&=", "^=", "|="]

def Token.isAugmented : Token → Bool
  | .mark m => augmentedMarks.contains m
  | _ => false

def areTargets (shapes : List Shape) : Bool := shapes.all Shape.isTarget

def readAssigned (fuel : Nat) (f : Frame) (c : Cursor) : Option Cursor :=
  match fuel with
  | 0 => none
  | n + 1 => do
      let a ← c.peek f.begin
      if a.token == .word "yield" then a.next.yielded f
      else
        let (shapes, c) ← a.start.expressions f
        let b ← c.peek f
        if b.token == .mark "=" || b.token.isAugmented then
          if areTargets shapes then readAssigned n f b.next else none
        else if b.token == .mark ":" then
          if areTargets shapes then
            let c ← b.next.type f true
            let d ← c.peek f
            if d.token == .mark "=" then readAssigned n f d.next else some c
          else none
        else some c

def Cursor.expressionStatement (c : Cursor) (f : Frame) : Option (Label × Cursor) := do
  let a ← c.peek f.begin
  if a.token == .word "yield" then (a.next.yielded f).map fun c => (.simple, c)
  else
    let (shapes, after) ← a.start.expressions f
    let b ← after.peek f
    match b.token with
    | .lineEnd | .mark ";" => some (if shapes.head? == some .text then .text else .simple, after)
    | _ => (readAssigned c.fuel f c).map fun c => (.simple, c)

def readDotted (fuel : Nat) (f : Frame) (c : Cursor) : Option Cursor :=
  match fuel with
  | 0 => none
  | n + 1 => do
      let (_, c) ← c.identifier f.middle
      let a ← c.peek f
      if a.token == .mark "." then readDotted n f a.next else some c

def readImports (fuel : Nat) (f : Frame) (c : Cursor) : Option Cursor :=
  match fuel with
  | 0 => none
  | n + 1 => do
      let c ← readDotted n f c
      let a ← c.peek f
      let c ←
        if a.token == .word "as" then (a.next.identifier f.middle).map (·.2) else some c
      let b ← c.peek f
      if b.token == .mark "," then
        let d ← b.next.peek f
        match d.token with
        | .word _ => readImports n f d.start
        | _ => some b.next
      else some c

def skipDots (fuel : Nat) (f : Frame) (c : Cursor) : Option Cursor :=
  match fuel with
  | 0 => none
  | n + 1 => do
      let a ← c.peek f
      if a.token == .mark "." || a.token == .mark "..." then skipDots n f a.next else some a.start

def Cursor.importFrom (c : Cursor) (f : Frame) : Option Cursor := do
  let dotted ← skipDots c.fuel f.middle c
  let a ← dotted.peek f.middle
  let relative := dotted.rest.length < (c.gap).next.rest.length
  let (future, c) ←
    if a.token == .word "import" && relative then some (false, a.start)
    else do
      let after ← readDotted c.fuel f.middle a.start
      some (a.token == .word "__future__" && !relative, after)
  let b ← c.peek f.middle
  if b.token == .word "import" then
    let d ← b.next.peek f.middle
    match d.token with
    | .mark "*" => if future then none else some d.next
    | .mark "(" =>
        let c ← readImports d.next.fuel f.inside d.next
        c.expect f.inside ")"
    | _ => readImports d.start.fuel f d.start
  else none

def readNames (fuel : Nat) (f : Frame) (c : Cursor) : Option Cursor :=
  match fuel with
  | 0 => none
  | n + 1 => do
      let (_, c) ← c.identifier f.middle
      let a ← c.peek f
      if a.token == .mark "," then readNames n f a.next else some c

def readAsserted (fuel : Nat) (f : Frame) (c : Cursor) : Option Cursor :=
  match fuel with
  | 0 => none
  | n + 1 => do
      let (_, c) ← c.expression f
      let a ← c.peek f
      if a.token == .mark "," then readAsserted n f a.next else some c

def Cursor.optionalExpressions (c : Cursor) (f : Frame) : Option Cursor := do
  let a ← c.peek f.orOperand
  if a.token.startsOperand then (a.start.expressions f).map (·.2) else some c

def Cursor.typeAlias (c : Cursor) (f : Frame) : Option Cursor := do
  let c ← c.type f.middle true
  let c ← c.expect f.middle "="
  c.type f true

def Cursor.completes (c : Cursor) (f : Frame) : Bool :=
  match c.peek f with
  | some a => a.token == .lineEnd || a.token == .mark ";"
  | none => false

/-- One simple statement. The words `print` and `type` are names except that `print >>` is refused and
that `type` may introduce an alias. -/
def Cursor.simpleStatement (c : Cursor) (f : Frame) : Option (Label × Cursor) := do
  let simple (after : Option Cursor) : Option (Label × Cursor) := after.map fun c => (.simple, c)
  let a ← c.peek f.begin
  match a.token with
  | .word "import" => simple (readImports c.fuel f a.next)
  | .word "from" => simple (a.next.importFrom f)
  | .word "assert" => simple (readAsserted c.fuel f a.next)
  | .word "return" => simple (a.next.optionalExpressions f)
  | .word "del" => simple ((a.next.expressions f).map (·.2))
  | .word "raise" => simple do
      let c ← a.next.optionalExpressions f
      let b ← c.peek f
      if b.token == .word "from" then (b.next.expression f).map (·.2) else some c
  | .word "pass" | .word "break" | .word "continue" => some (.simple, a.next)
  | .word "global" | .word "nonlocal" => simple (readNames c.fuel f a.next)
  | .word "print" =>
      let b ← a.next.peek f.orOperand
      if b.token == .mark ">>" then none else a.start.expressionStatement f
  | .word "type" =>
      match a.start.expressionStatement f with
      | some (label, c) =>
          if c.completes f then some (label, c) else simple (a.next.typeAlias f)
      | none => simple (a.next.typeAlias f)
  | _ => a.start.expressionStatement f

def readLine (fuel : Nat) (f : Frame) (c : Cursor) : Option (List Tree × Cursor) :=
  match fuel with
  | 0 => none
  | n + 1 => do
      let (label, c) ← c.simpleStatement f
      let tree := Tree.node label []
      let a ← c.peek f
      match a.token with
      | .lineEnd => some ([tree], c)
      | .mark ";" =>
          let b ← a.next.peek f
          if b.token == .lineEnd then some ([tree], a.next)
          else
            let (trees, c) ← readLine n f a.next
            some (tree :: trees, c)
      | _ => none

end Simple

section Patterns

mutual

def readPattern (fuel : Nat) (f : Frame) (c : Cursor) : Option Cursor :=
  match fuel with
  | 0 => none
  | n + 1 => do
      let a ← c.peek f.begin
      let c ← match a.token with
        | .word w => do
            let b ← a.next.peek f
            if isName w && w != "_" && b.token == .mark "=" then readAlternative n f b.next
            else readAlternatives n f a.start
        | _ => readAlternatives n f a.start
      readPatternAliases n f c

def readPatternAliases (fuel : Nat) (f : Frame) (c : Cursor) : Option Cursor :=
  match fuel with
  | 0 => none
  | n + 1 => do
      let a ← c.peek f
      if a.token == .word "as" then
        let (_, c) ← a.next.identifier f.middle
        readPatternAliases n f c
      else some c

def readAlternatives (fuel : Nat) (f : Frame) (c : Cursor) : Option Cursor :=
  match fuel with
  | 0 => none
  | n + 1 => do
      let c ← readAlternative n f c
      let a ← c.peek f
      if a.token == .mark "|" then readAlternatives n f a.next else some c

def readAlternative (fuel : Nat) (f : Frame) (c : Cursor) : Option Cursor :=
  match fuel with
  | 0 => none
  | n + 1 => do
      let a ← c.peek f.begin
      match a.token with
      | .quote q => a.next.texts f q
      | .number => readComplex f a.next
      | .mark "-" =>
          let b ← a.next.peek f.middle
          if b.token == .number then readComplex f b.next else none
      | .mark "*" | .mark "**" =>
          let (_, c) ← a.next.identifier f.middle
          some c
      | .mark "(" => readPatternList n f ")" a.next
      | .mark "[" => readPatternList n f "]" a.next
      | .mark "\x7b" => readPatternPairs n f a.next
      | .word w =>
          if w == "True" || w == "False" || w == "None" || w == "_" then some a.next
          else if isName w then
            let c ← readDotted n f a.start
            let b ← c.peek f
            if b.token == .mark "(" then readPatternList n f ")" b.next else some c
          else none
      | _ => none

def readComplex (f : Frame) (c : Cursor) : Option Cursor := do
  let a ← c.peek f
  if a.token == .mark "+" || a.token == .mark "-" then
    let b ← a.next.peek f.middle
    if b.token == .number then some b.next else none
  else some c

def readPatternList (fuel : Nat) (f : Frame) (closer : String) (c : Cursor) : Option Cursor :=
  match fuel with
  | 0 => none
  | n + 1 => do
      let a ← c.peek f.inside.orOperand
      if a.token == .mark closer then some a.next
      else
        let c ← readPattern n f.inside a.start
        let b ← c.peek f.inside
        if b.token == .mark closer then some b.next
        else if b.token == .mark "," then readPatternList n f closer b.next
        else none

def readPatternPairs (fuel : Nat) (f : Frame) (c : Cursor) : Option Cursor :=
  match fuel with
  | 0 => none
  | n + 1 => do
      let a ← c.peek f.inside.orOperand
      if a.token == .mark "\x7d" then some a.next
      else
        let c ←
          if a.token == .mark "**" || a.token == .mark "*" then
            (a.next.identifier f.middle).map (·.2)
          else do
            let c ← readAlternatives n f.middle a.start
            let c ← c.expect f.middle ":"
            readPattern n f.inside c
        let b ← c.peek f.inside
        if b.token == .mark "\x7d" then some b.next
        else if b.token == .mark "," then readPatternPairs n f b.next
        else none

end

def readCasePatterns (fuel : Nat) (f : Frame) (c : Cursor) : Option Cursor :=
  match fuel with
  | 0 => none
  | n + 1 => do
      let c ← readPattern c.fuel f c
      let a ← c.peek f
      if a.token == .mark "," then
        let b ← a.next.peek f.begin
        if b.token == .mark ":" || b.token == .word "if" then some b.start
        else readCasePatterns n f b.start
      else some c

def Cursor.caseHead (c : Cursor) (f : Frame) : Option Cursor := do
  let c ← readCasePatterns c.fuel f c
  let a ← c.peek f
  if a.token == .word "if" then
    let (_, c) ← a.next.expression f
    c.expect f ":"
  else c.expect f ":"

end Patterns

section Compound

/-- The subjects of a `match` statement up to and including a colon at the end of its line. -/
def Cursor.matchHead (c : Cursor) (f : Frame) : Option Cursor := do
  let (_, c) ← c.expressions f.middle
  let c ← c.expect f.middle ":"
  if c.gap.breaks then some c else none

def Cursor.continues (c : Cursor) (column : Nat) (word : String) : Option Cursor :=
  let g := c.gap
  if g.breaks && g.indent < column then none
  else
    match lexeme g.next.rest with
    | some (.word w, rest) => if w == word then some ⟨rest, g.next.row⟩ else none
    | _ => none

def Cursor.exceptHead (c : Cursor) (f : Frame) : Option Cursor := do
  let a ← c.peek f.begin
  if a.token == .mark ":" then some a.next
  else
    let start ←
      if a.token == .mark "*" then (a.next.peek f.begin).map (·.start) else some a.start
    let (_, c) ← start.expression f
    let b ← c.peek f
    if b.token == .mark "," then
      let (_, c) ← b.next.expression f
      c.expect f ":"
    else c.expect f ":"

structure Head where
  definition : Definition
  after : Cursor

/-- A function head after `def`; `row` is where the definition begins. -/
def Cursor.functionHead (c : Cursor) (f : Frame) (row : Nat) : Option Head := do
  let (name, c) ← c.identifier f
  let a ← c.peek f
  let c ← if a.token == .mark "[" then a.next.typeParameters f else some c
  let c ← c.expect f "("
  let (parameters, c) ← c.parameters f
  let b ← c.peek f
  let c ← if b.token == .mark "->" then b.next.type f false else some c
  let c ← c.expect f ":"
  some ⟨⟨name, parameters, row + 1⟩, c⟩

def Cursor.classHead (c : Cursor) (f : Frame) : Option Cursor := do
  let (_, c) ← c.identifier f
  let a ← c.peek f
  let c ← if a.token == .mark "[" then a.next.typeParameters f else some c
  let b ← c.peek f
  let c ← if b.token == .mark "(" then b.next.arguments f else some c
  c.expect f ":"

mutual

/-- The statements of a block whose lines are indented by at least `column`. -/
def readBlock (fuel : Nat) (column : Nat) (c : Cursor) : Option (List Tree × Cursor) :=
  match fuel with
  | 0 => none
  | n + 1 =>
      let g := c.gap
      if g.next.rest.isEmpty || (g.breaks && g.indent < column) then some ([], c)
      else do
        let (trees, c) ← readStatement n column g.next
        let (more, c) ← readBlock n column c
        some (trees ++ more, c)

/-- What follows a colon: statements on the same line, an indented block or nothing. -/
def readSuite (fuel : Nat) (column : Nat) (c : Cursor) : Option (List Tree × Cursor) :=
  match fuel with
  | 0 => none
  | n + 1 =>
      let g := c.gap
      if g.breaks then
        if column < g.indent then readBlock n g.indent c else some ([], c)
      else readLine g.next.fuel (Frame.line column) g.next

def readClause (fuel : Nat) (column : Nat) (opening : Opening) (c : Cursor) :
    Option (Tree × Cursor) :=
  match fuel with
  | 0 => none
  | n + 1 => do
      let (body, c) ← readSuite n column c
      some (.node (.clause opening) body, c)

def readStatement (fuel : Nat) (column : Nat) (c : Cursor) : Option (List Tree × Cursor) :=
  match fuel with
  | 0 => none
  | n + 1 => do
      let f := (Frame.line column).middle
      let a ← c.peek f.begin
      match a.token with
      | .word "if" =>
          let (_, c) ← a.next.expression f
          let c ← c.expect f ":"
          let (body, c) ← readSuite n column c
          let (alternatives, c) ← readAlternativeClauses n column c
          some ([.node (.clause .ifWord) (body ++ alternatives)], c)
      | .word "while" =>
          let (_, c) ← a.next.expression f
          let c ← c.expect f ":"
          readWithElse n column .whileWord c
      | .word "for" => readFor n column a.next
      | .word "try" =>
          let c ← a.next.expect f ":"
          let (body, c) ← readSuite n column c
          let (handlers, c) ← readHandlers n column c
          some ([.node (.clause .tryWord) (body ++ handlers)], c)
      | .word "with" => readWith n column a.next
      | .word "class" => (readClass n column a.next).map fun (tree, c) => ([tree], c)
      | .word "def" => (readFunction n column a.start.row a.next).map fun (tree, c) => ([tree], c)
      | .word "async" =>
          let b ← a.next.peek (Frame.line column).orOperand
          match b.token with
          | .word "def" =>
              (readFunction n column a.start.row b.next).map fun (tree, c) => ([tree], c)
          | .word "for" => readFor n column b.next
          | .word "with" => readWith n column b.next
          | _ => readLine c.fuel (Frame.line column) a.start
      | .mark "@" => (readDecorated n column a.start).map fun (tree, c) => ([tree], c)
      | .word "match" =>
          match a.next.matchHead f with
          | some c =>
              let g := c.gap
              if column < g.indent then
                let (cases, c) ← readCases n g.indent c
                some ([.node (.clause .matchWord) cases], c)
              else some ([.node (.clause .matchWord) []], c)
          | none => readLine c.fuel (Frame.line column) a.start
      | _ => readLine c.fuel (Frame.line column) a.start

def readAlternativeClauses (fuel : Nat) (column : Nat) (c : Cursor) :
    Option (List Tree × Cursor) :=
  match fuel with
  | 0 => none
  | n + 1 =>
      let f := (Frame.line column).middle
      match c.continues column "elif" with
      | some after => do
          let (_, c) ← after.expression f
          let c ← c.expect f ":"
          let (tree, c) ← readClause n column .elifWord c
          let (trees, c) ← readAlternativeClauses n column c
          some (tree :: trees, c)
      | none => readElse n column c

def readElse (fuel : Nat) (column : Nat) (c : Cursor) : Option (List Tree × Cursor) :=
  match fuel with
  | 0 => none
  | n + 1 =>
      match c.continues column "else" with
      | some after => do
          let c ← after.expect (Frame.line column).middle ":"
          let (tree, c) ← readClause n column .elseWord c
          some ([tree], c)
      | none => some ([], c)

def readWithElse (fuel : Nat) (column : Nat) (opening : Opening) (c : Cursor) :
    Option (List Tree × Cursor) :=
  match fuel with
  | 0 => none
  | n + 1 => do
      let (body, c) ← readSuite n column c
      let (alternative, c) ← readElse n column c
      some ([.node (.clause opening) (body ++ alternative)], c)

def readFor (fuel : Nat) (column : Nat) (c : Cursor) : Option (List Tree × Cursor) :=
  match fuel with
  | 0 => none
  | n + 1 => do
      let f := (Frame.line column).middle
      let c ← c.targets f
      let (_, c) ← c.expressions f
      let c ← c.expect f ":"
      readWithElse n column .forWord c

def readWith (fuel : Nat) (column : Nat) (c : Cursor) : Option (List Tree × Cursor) :=
  match fuel with
  | 0 => none
  | n + 1 => do
      let f := (Frame.line column).middle
      let (_, c) ← c.expressions f
      let c ← c.expect f ":"
      let (tree, c) ← readClause n column .withWord c
      some ([tree], c)

def readHandlers (fuel : Nat) (column : Nat) (c : Cursor) : Option (List Tree × Cursor) :=
  match fuel with
  | 0 => none
  | n + 1 =>
      let f := (Frame.line column).middle
      match c.continues column "except" with
      | some after => do
          let c ← after.exceptHead f
          let (tree, c) ← readClause n column .exceptWord c
          let (trees, c) ← readHandlers n column c
          some (tree :: trees, c)
      | none => do
          let (alternative, c) ← readElse n column c
          match c.continues column "finally" with
          | some after =>
              let c ← after.expect f ":"
              let (tree, c) ← readClause n column .finallyWord c
              some (alternative ++ [tree], c)
          | none => some (alternative, c)

def readCases (fuel : Nat) (column : Nat) (c : Cursor) : Option (List Tree × Cursor) :=
  match fuel with
  | 0 => none
  | n + 1 =>
      let g := c.gap
      if g.next.rest.isEmpty || (g.breaks && g.indent < column) then some ([], c)
      else
        match c.continues column "case" with
        | some after => do
            let c ← after.caseHead (Frame.line column).middle
            let (tree, c) ← readClause n column .caseWord c
            let (trees, c) ← readCases n column c
            some (tree :: trees, c)
        | none => none

def readFunction (fuel : Nat) (column : Nat) (row : Nat) (c : Cursor) : Option (Tree × Cursor) :=
  match fuel with
  | 0 => none
  | n + 1 => do
      let head ← c.functionHead (Frame.line column).middle row
      let (body, c) ← readSuite n column head.after
      some (.node (.function head.definition) body, c)

def readClass (fuel : Nat) (column : Nat) (c : Cursor) : Option (Tree × Cursor) :=
  match fuel with
  | 0 => none
  | n + 1 => do
      let c ← c.classHead (Frame.line column).middle
      readClause n column .classWord c

def readDecorated (fuel : Nat) (column : Nat) (c : Cursor) : Option (Tree × Cursor) :=
  match fuel with
  | 0 => none
  | n + 1 => do
      let f := (Frame.line column).middle
      let a ← c.peek f
      match a.token with
      | .mark "@" =>
          let (_, c) ← a.next.expression (Frame.line column)
          let b ← c.peek (Frame.line column)
          if b.token == .lineEnd then readDecorated n column c else none
      | .word "class" => readClass n column a.next
      | .word "def" => readFunction n column a.start.row a.next
      | .word "async" =>
          let b ← a.next.peek f
          if b.token == .word "def" then readFunction n column a.start.row b.next else none
      | _ => none

end

end Compound

/-- The statements of a module, when its text is one. -/
def readModule (text : List Char) : Option (List Tree) :=
  let start : Cursor := ⟨text, 0⟩
  match readBlock start.fuel 0 start with
  | some (trees, _) => some trees
  | none => none

end CodeReview.Python

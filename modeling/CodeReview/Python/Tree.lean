/-!
The part of a Python module that the analyses look at: statements and how they nest. Expressions
contain no statement, so an expression leaves no trace beyond the fact that a statement opens with a
string literal. Comments and blank lines are not part of the tree.
-/

namespace CodeReview.Python

inductive Parameter
  | plain (name : String)
  | default (name : String)
  | typed (name : String)
  | typedDefault (name : String)
  /-- A parenthesized group of names, with or without a default. -/
  | group
  /-- The mark `/`. -/
  | slash
  /-- A star with no name. -/
  | star
  | rest (typed : Bool)
  | keywords (typed : Bool)
  deriving DecidableEq, Repr

inductive Opening
  | ifWord | elifWord | elseWord | forWord | whileWord
  | tryWord | exceptWord | finallyWord | withWord
  | matchWord | caseWord | classWord
  deriving DecidableEq, Repr

structure Definition where
  name : String
  parameters : List Parameter
  /-- Number of the line with `def`, or with `async` before it, from 1. -/
  line : Nat
  deriving DecidableEq, Repr

inductive Label
  /-- An expression statement whose first expression is a string literal. -/
  | text
  | simple
  | clause (opening : Opening)
  | function (definition : Definition)
  deriving DecidableEq, Repr

/-- The children of a clause are the statements of its body, then the clauses that continue it; the
children of a function are the statements of its body. -/
inductive Tree
  | node (label : Label) (children : List Tree)

def Tree.label : Tree → Label
  | .node label _ => label

def Tree.children : Tree → List Tree
  | .node _ children => children

end CodeReview.Python

import CodeReview.Decimal.Double
import CodeReview.Text.Blank
import CodeReview.Text.DecimalDigit
import CodeReview.Text.Search

/-!
Reading the table that a coverage run prints. A row has the name of a file, two counts, a percentage and,
when lines were missed, their numbers; the row of the total has the percentage of all files together.
-/

namespace CodeReview.Coverage

open Text

section Columns

/-- What follows white space, of which there must be some. -/
def afterBlanks? (cs : List Char) : Option (List Char) :=
  match cs.span isBlank with
  | ([], _) => none
  | (_, rest) => some rest

def digits? (cs : List Char) : Option (List Char × List Char) :=
  match cs.span isDecimalDigit with
  | ([], _) => none
  | found => some found

def percentage? (cs : List Char) : Option (List Char × List Char × List Char) := do
  let (whole, rest) ← digits? cs
  match rest with
  | '%' :: rest => some (whole, [], rest)
  | '.' :: rest =>
      match ← digits? rest with
      | (fraction, '%' :: rest) => some (whole, fraction, rest)
      | _ => none
  | _ => none

def numberColumns? (cs : List Char) : Option (List Char × List Char × List Char) := do
  let (_, rest) ← digits? (← afterBlanks? cs)
  let (_, rest) ← digits? (← afterBlanks? rest)
  percentage? (← afterBlanks? rest)

end Columns

section Total

def digitsValue (digits : List Char) : Nat := digits.foldl (fun n c => n * 10 + (c.toNat - 48)) 0

/-- A percentage written with other digits than those of ASCII has no value. -/
def percentValue? (whole fraction : List Char) : Option Decimal.Double :=
  if (whole ++ fraction).all Char.isDigit then
    some (Decimal.nearest (digitsValue (whole ++ fraction)) fraction.length)
  else none

def totalWord : List Char := "TOTAL".toList

/-- The percentage after the first word of the total that the numbers of a row follow. -/
def total? : List Char → Option (List Char × List Char)
  | [] => none
  | c :: rest =>
      match (dropLead? (c :: rest) totalWord).bind numberColumns? with
      | some (whole, fraction, _) => some (whole, fraction)
      | none => total? rest

end Total

section Rows

structure Row where
  name : List Char
  missing : List Char
  deriving DecidableEq, Repr

/-- A row with a column of missing lines, as a line without white space around it. -/
def row? (line : List Char) : Option Row :=
  match line.span fun c => !isBlank c with
  | ([], _) => none
  | (name, rest) => do
      let (_, _, rest) ← numberColumns? rest
      let missing ← afterBlanks? rest
      if missing.isEmpty then none else some { name, missing }

def Row.text (r : Row) : String := String.ofList (r.name ++ ':' :: ' ' :: trim r.missing)

end Rows

structure Table where
  /-- The percentage of all files, if the table has a total. -/
  percent : Option Decimal.Double
  missingLines : List String
  deriving DecidableEq, Repr

def parseTable (output : String) : Table :=
  { percent := (total? output.toList).bind fun (whole, fraction) => percentValue? whole fraction
    missingLines :=
      (((lines output.toList).filterMap fun line => row? (trim line)).filter fun r =>
        !contains r.name totalWord).map Row.text }

end CodeReview.Coverage

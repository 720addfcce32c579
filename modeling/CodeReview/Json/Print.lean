import CodeReview.Decimal.Shortest
import CodeReview.Json.Value

/-!
The text of JSON values, on one line or indented by two spaces a level. In a string only the quotation
mark, the backslash and the control characters below U+0020 are escaped.
-/

namespace CodeReview.Json

section Numbers

/-- Digits with a point or an exponent. `point` is the number of digits before the decimal point, counted
from `Decimal.shift`. Between one hundred-thousandth and ten thousand million million a number is written
with a point and at least one digit on each side; beyond that with a signed exponent and no needless
point. -/
def placed (digits : List Char) (point : Nat) : List Char :=
  let base := Decimal.shift
  let n := digits.length
  if base < point && point ≤ base + 16 then
    let before := point - base
    if n ≤ before then digits ++ (List.replicate (before - n) '0' ++ ['.', '0'])
    else digits.take before ++ '.' :: digits.drop before
  else if base < point + 5 && point ≤ base then
    '0' :: '.' :: (List.replicate (base - point) '0' ++ digits)
  else
    let exponent :=
      if base < point then '+' :: Nat.toDigits 10 (point - base - 1)
      else '-' :: Nat.toDigits 10 (base + 1 - point)
    let fraction := if n == 1 then [] else '.' :: digits.drop 1
    digits.take 1 ++ (fraction ++ 'e' :: exponent)

def doubleText (d : Decimal.Double) : String :=
  let sign := if d.isNegative then "-" else ""
  if !d.isFinite then "null"
  else if d.significand == 0 then sign ++ "0.0"
  else
    let s := d.shortest
    let digits := Nat.toDigits 10 s.digits
    sign ++ String.ofList (placed digits (s.power + digits.length))

end Numbers

section Strings

def hexDigit (n : Nat) : Char :=
  if n < 10 then Char.ofNat (48 + n) else Char.ofNat (87 + n)

def escapeChar (c : Char) : List Char :=
  if c == '"' then ['\\', '"']
  else if c == '\\' then ['\\', '\\']
  else if c == '\x08' then ['\\', 'b']
  else if c == '\x0c' then ['\\', 'f']
  else if c == '\n' then ['\\', 'n']
  else if c == '\r' then ['\\', 'r']
  else if c == '\t' then ['\\', 't']
  else if c.toNat < 0x20 then
    ['\\', 'u', '0', '0', hexDigit (c.toNat / 16), hexDigit (c.toNat % 16)]
  else [c]

def escape : List Char → List Char
  | [] => []
  | c :: rest => escapeChar c ++ escape rest

def quote (s : String) : List Char := '"' :: (escape s.toList ++ ['"'])

end Strings

section OneLine

mutual

def compactChars : Json → List Char
  | .null => "null".toList
  | .bool true => "true".toList
  | .bool false => "false".toList
  | .integer n => (toString n).toList
  | .double d => (doubleText d).toList
  | .text s => quote s
  | .list items => '[' :: compactItems items
  | .object members => '\x7b' :: compactMembers members

def compactItems : List Json → List Char
  | [] => [']']
  | [item] => compactChars item ++ [']']
  | item :: rest => compactChars item ++ ',' :: compactItems rest

def compactMembers : List (String × Json) → List Char
  | [] => ['\x7d']
  | [(name, value)] => quote name ++ ':' :: (compactChars value ++ ['\x7d'])
  | (name, value) :: rest => quote name ++ ':' :: (compactChars value ++ ',' :: compactMembers rest)

end

def compact (j : Json) : String := String.ofList (compactChars j)

end OneLine

section Indented

def newLine (depth : Nat) : List Char := '\n' :: List.replicate (2 * depth) ' '

mutual

def prettyChars (depth : Nat) : Json → List Char
  | .list [] => ['[', ']']
  | .list items => '[' :: prettyItems (depth + 1) items
  | .object [] => ['\x7b', '\x7d']
  | .object members => '\x7b' :: prettyMembers (depth + 1) members
  | .null => "null".toList
  | .bool true => "true".toList
  | .bool false => "false".toList
  | .integer n => (toString n).toList
  | .double d => (doubleText d).toList
  | .text s => quote s

def prettyItems (depth : Nat) : List Json → List Char
  | [] => [']']
  | [item] => newLine depth ++ prettyChars depth item ++ newLine (depth - 1) ++ [']']
  | item :: rest => newLine depth ++ prettyChars depth item ++ ',' :: prettyItems depth rest

def prettyMembers (depth : Nat) : List (String × Json) → List Char
  | [] => ['\x7d']
  | [(name, value)] =>
      newLine depth ++ quote name ++ ':' :: ' ' :: (prettyChars depth value ++
        newLine (depth - 1) ++ ['\x7d'])
  | (name, value) :: rest =>
      newLine depth ++ quote name ++ ':' :: ' ' :: (prettyChars depth value ++
        ',' :: prettyMembers depth rest)

end

def pretty (j : Json) : String := String.ofList (prettyChars 0 j)

end Indented

end CodeReview.Json

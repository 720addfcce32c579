/-!
White space as Unicode defines it (property White_Space), trimming, and the splitting of a text into
lines. The zero-width space, the byte order mark and the information separators U+001C to U+001F are
not white space.
-/

namespace CodeReview.Text

def isBlank (c : Char) : Bool :=
  c == ' ' || ('\t' ≤ c && c ≤ '\r') || c == '\u0085' || c == '\u00a0' || c == '\u1680' ||
    ('\u2000' ≤ c && c ≤ '\u200a') || c == '\u2028' || c == '\u2029' || c == '\u202f' ||
    c == '\u205f' || c == '\u3000'

section Trimming

def trimStart (cs : List Char) : List Char := cs.dropWhile isBlank

def trimEnd (cs : List Char) : List Char := (trimStart cs.reverse).reverse

def trim (cs : List Char) : List Char := trimEnd (trimStart cs)

def trimmed (s : String) : String := String.ofList (trim s.toList)

end Trimming

section Lines

/-- The line whose characters are `line`, last one first, without the carriage return that ended it. -/
def finishLine : List Char → List Char
  | '\r' :: line => line.reverse
  | line => line.reverse

def linesFrom (line : List Char) : List Char → List (List Char)
  | [] => if line.isEmpty then [] else [line.reverse]
  | c :: rest =>
      if c == '\n' then finishLine line :: linesFrom [] rest else linesFrom (c :: line) rest

/-- The lines of a text. Only a line feed ends a line, together with one carriage return before it; a
text that ends in a line feed has no empty last line. -/
def lines (cs : List Char) : List (List Char) := linesFrom [] cs

end Lines

end CodeReview.Text

import CodeReview.Json.Value

/-!
The first look at a JSON text. A `Scan` is the value as far as the text makes sense: where it stops
making sense the scan says so at that very place, so that a reader who goes through it from left to
right meets the first problem first. Nothing is known yet about the type that is wanted. One who only
passes over a value looks less closely, and may meet another problem than one who reads it, or none.
-/

namespace CodeReview.Json

inductive Fault
  /-- The text is not JSON. -/
  | malformed
  /-- The text ends too early. -/
  | unfinished
  deriving DecidableEq, Repr

inductive Scan
  | null
  | bool (value : Bool)
  | integer (value : Int)
  | double (value : Decimal.Double)
  | text (value : String)
  /-- The items read, and what stopped the reading before the closing bracket. -/
  | list (items : List Scan) (stop : Option Fault)
  | object (members : List (String × Scan)) (stop : Option Fault)
  /-- A complete string or number without a value: half of a surrogate pair, or a number too large. -/
  | flawed
  /-- What stops one who reads the value here, and one who passes over it. -/
  | broken (read passed : Fault)
  /-- The value of a member whose name stops one who reads it. -/
  | unnamed (read : Fault) (value : Scan)

def isSpace (c : Char) : Bool := c == ' ' || c == '\n' || c == '\t' || c == '\r'

def skipSpace (cs : List Char) : List Char := cs.dropWhile isSpace

/-- What was found and the text after it; no text is left where the scan broke off. -/
structure Found where
  scan : Scan
  rest : Option (List Char)

def Found.fault (f : Fault) : Found := ⟨.broken f f, none⟩

/-- A number that ends too early. One who passes over it takes any missing digit for a mistake. -/
def Found.shortNumber : Found := ⟨.broken .unfinished .malformed, none⟩

section Words

def scanWord (value : Scan) : List Char → List Char → Found
  | [], rest => ⟨value, some rest⟩
  | _ :: _, [] => .fault .unfinished
  | d :: ds, c :: cs => if d == c then scanWord value ds cs else .fault .malformed

end Words

section Numbers

def digitValue (c : Char) : Nat := c.toNat - 48

/-- Digits gathered into a significand of at most sixty-four bits. Digits after the first that does not
fit are dropped, and `dropped` counts them. -/
structure Significand where
  value : Nat := 0
  dropped : Nat := 0
  taken : Nat := 0

def Significand.push (s : Significand) (c : Char) : Significand :=
  let next := s.value * 10 + digitValue c
  if s.dropped == 0 && next < wordLimit then { s with value := next, taken := s.taken + 1 }
  else { s with dropped := s.dropped + 1 }

/-- Scales by one multiplication or division by a power of ten, after as many divisions by the largest
power as needed. Nothing is returned when the number is too large. -/
def scaleTen (fuel : Nat) (x : Float) (exponent : Int) : Option Float :=
  match fuel with
  | 0 => none
  | n + 1 =>
      if exponent.natAbs ≤ 308 then
        let power := Float.ofScientific 1 false exponent.natAbs
        if 0 ≤ exponent then
          let y := x * power
          if y.isInf then none else some y
        else some (x / power)
      else if x == 0.0 then some x
      else if 0 ≤ exponent then none
      else scaleTen n (x / 1e308) (exponent + 308)

def scaled (negative : Bool) (significand : Nat) (exponent : Int) : Scan :=
  match scaleTen (exponent.natAbs / 308 + 2) (Float.ofNat significand) exponent with
  | none => .flawed
  | some x =>
      let d := Decimal.Double.ofFloat x
      .double (if negative then d.negate else d)

def takeDigits (cs : List Char) : List Char × List Char := cs.span Char.isDigit

/-- The exponent after `e`. An exponent beyond all bounds makes a number with a significand too large
and one without zero. -/
def scanExponent (negative : Bool) (significand : Nat) (exponent : Int) (cs : List Char) : Found :=
  let (down, cs) := match cs with
    | '+' :: rest => (false, rest)
    | '-' :: rest => (true, rest)
    | _ => (false, cs)
  match takeDigits cs with
  | ([], []) => .shortNumber
  | ([], _ :: _) => .fault .malformed
  | (digits, rest) =>
      let size : Int := digits.foldl (fun n c => n * 10 + digitValue c) 0
      if 2147483647 < size then
        if down || significand == 0 then
          let zero := Decimal.Double.ofNat 0
          ⟨.double (if negative then zero.negate else zero), some rest⟩
        else ⟨.flawed, some rest⟩
      else ⟨scaled negative significand (if down then exponent - size else exponent + size), some rest⟩

def scanAfterDigits (negative : Bool) (significand : Nat) (exponent : Int) (cs : List Char) : Found :=
  match cs with
  | c :: rest =>
      if c == 'e' || c == 'E' then scanExponent negative significand exponent rest
      else ⟨scaled negative significand exponent, some cs⟩
  | [] => ⟨scaled negative significand exponent, some []⟩

def wholeNumber (negative : Bool) (s : Significand) : Scan :=
  if s.dropped != 0 then scaled negative s.value s.dropped
  else if !negative then .integer s.value
  else if s.value == 0 || 0x8000000000000000 < s.value then scaled true s.value 0
  else .integer (- s.value)

def scanAfterWhole (negative : Bool) (whole : Significand) (cs : List Char) : Found :=
  match cs with
  | '.' :: after =>
      match takeDigits after with
      | ([], []) => .shortNumber
      | ([], _ :: _) => .fault .malformed
      | (places, rest) =>
          let all := places.foldl Significand.push { whole with taken := 0 }
          scanAfterDigits negative all.value (whole.dropped - all.taken) rest
  | c :: _ =>
      if c == 'e' || c == 'E' then scanAfterDigits negative whole.value whole.dropped cs
      else ⟨wholeNumber negative whole, some cs⟩
  | [] => ⟨wholeNumber negative whole, some []⟩

def scanNumber (negative : Bool) (cs : List Char) : Found :=
  match takeDigits cs with
  | ([], []) => .shortNumber
  | ([], _ :: _) => .fault .malformed
  | (digits, rest) =>
      match digits with
      | '0' :: _ :: _ => .fault .malformed
      | _ => scanAfterWhole negative (digits.foldl Significand.push {}) rest

end Numbers

section Strings

def hexValue? (c : Char) : Option Nat :=
  if c.isDigit then some (c.toNat - 48)
  else if 'a' ≤ c && c ≤ 'f' then some (c.toNat - 87)
  else if 'A' ≤ c && c ≤ 'F' then some (c.toNat - 55)
  else none

inductive Hex
  | unit (value : Nat) (rest : List Char)
  | fault (fault : Fault)

def scanHex : List Char → Hex
  | a :: b :: c :: d :: rest =>
      match hexValue? a, hexValue? b, hexValue? c, hexValue? d with
      | some a, some b, some c, some d => .unit (((a * 16 + b) * 16 + c) * 16 + d) rest
      | _, _, _, _ => .fault .malformed
  | _ => .fault .unfinished

inductive Piece
  | char (c : Char) (rest : List Char)
  /-- Half of a surrogate pair. -/
  | half (rest : List Char)
  | closed (rest : List Char)
  | fault (fault : Fault)

def plainEscape? (c : Char) : Option Char :=
  match c with
  | '"' => some '"'
  | '\\' => some '\\'
  | '/' => some '/'
  | 'b' => some '\x08'
  | 'f' => some '\x0c'
  | 'n' => some '\n'
  | 'r' => some '\r'
  | 't' => some '\t'
  | _ => none

def scanPiece : List Char → Piece
  | [] => .fault .unfinished
  | '"' :: rest => .closed rest
  | '\\' :: rest =>
      match rest with
      | [] => .fault .unfinished
      | 'u' :: rest =>
          match scanHex rest with
          | .fault f => .fault f
          | .unit n rest =>
              if 0xDC00 ≤ n && n ≤ 0xDFFF then .half rest
              else if 0xD800 ≤ n && n ≤ 0xDBFF then
                match rest with
                | '\\' :: 'u' :: after =>
                    match scanHex after with
                    | .fault f => .fault f
                    | .unit m after =>
                        if 0xDC00 ≤ m && m ≤ 0xDFFF then
                          .char (Char.ofNat ((n - 0xD800) * 0x400 + (m - 0xDC00) + 0x10000)) after
                        else .half rest
                | [] | ['\\'] => .fault .unfinished
                | _ => .half rest
              else .char (Char.ofNat n) rest
      | c :: rest =>
          match plainEscape? c with
          | some d => .char d rest
          | none => .fault .malformed
  | c :: rest => if c.toNat < 0x20 then .fault .malformed else .char c rest

/-- The rest of a string after its opening quotation mark. `done` holds the characters read, last one
first, and `whole` tells whether all of them have a value. -/
def scanString (fuel : Nat) (done : List Char) (whole : Bool) (cs : List Char) : Found :=
  match fuel with
  | 0 => .fault .unfinished
  | n + 1 =>
      match scanPiece cs with
      | .char c rest => scanString n (c :: done) whole rest
      | .half rest => scanString n done false rest
      | .closed rest =>
          ⟨if whole then .text (String.ofList done.reverse) else .flawed, some rest⟩
      | .fault f => ⟨.broken (if whole then f else .malformed) f, none⟩

end Strings

section Values

mutual

def scanValue (fuel : Nat) (cs : List Char) : Found :=
  match fuel with
  | 0 => .fault .unfinished
  | n + 1 =>
      match skipSpace cs with
      | [] => .fault .unfinished
      | c :: rest =>
          match c with
          | 'n' => scanWord .null "ull".toList rest
          | 't' => scanWord (.bool true) "rue".toList rest
          | 'f' => scanWord (.bool false) "alse".toList rest
          | '"' => scanString (rest.length + 1) [] true rest
          | '-' => scanNumber true rest
          | '[' =>
              match skipSpace rest with
              | ']' :: rest => ⟨.list [] none, some rest⟩
              | _ => scanItems n [] rest
          | '\x7b' =>
              match skipSpace rest with
              | '\x7d' :: rest => ⟨.object [] none, some rest⟩
              | _ => scanMembers n [] rest
          | _ => if c.isDigit then scanNumber false (c :: rest) else .fault .malformed

/-- The items of a list from the next one on; `done` holds those before it, last one first. -/
def scanItems (fuel : Nat) (done : List Scan) (cs : List Char) : Found :=
  match fuel with
  | 0 => .fault .unfinished
  | n + 1 =>
      match skipSpace cs with
      | [] =>
          if done.isEmpty then ⟨.list [] (some .unfinished), none⟩
          -- A comma has announced one more item.
          else ⟨.list (.broken .unfinished .unfinished :: done).reverse none, none⟩
      | ']' :: _ => ⟨.list done.reverse (some .malformed), none⟩
      | cs =>
          let found := scanValue n cs
          let done := found.scan :: done
          match found.rest with
          | none => ⟨.list done.reverse none, none⟩
          | some rest =>
              match skipSpace rest with
              | ',' :: rest => scanItems n done rest
              | ']' :: rest => ⟨.list done.reverse none, some rest⟩
              | [] => ⟨.list done.reverse (some .unfinished), none⟩
              | _ => ⟨.list done.reverse (some .malformed), none⟩

def scanMembers (fuel : Nat) (done : List (String × Scan)) (cs : List Char) : Found :=
  match fuel with
  | 0 => .fault .unfinished
  | n + 1 =>
      let stopped (f : Fault) : Found := ⟨.object done.reverse (some f), none⟩
      match skipSpace cs with
      | [] => stopped .unfinished
      | '"' :: rest =>
          let key := scanString (rest.length + 1) [] true rest
          -- The member as one who reads its name takes it.
          let member (value : Scan) : String × Scan :=
            match key.scan with
            | .text name => (name, value)
            | _ => ("", .unnamed .malformed value)
          match key.scan, key.rest with
          | .broken read passed, _ =>
              ⟨.object (("", .unnamed read (.broken passed passed)) :: done).reverse none, none⟩
          | _, none => stopped .malformed
          | _, some rest =>
              match skipSpace rest with
              | ':' :: rest =>
                  let found := scanValue n rest
                  let done := member found.scan :: done
                  match found.rest with
                  | none => ⟨.object done.reverse none, none⟩
                  | some rest =>
                      match skipSpace rest with
                      | ',' :: rest => scanMembers n done rest
                      | '\x7d' :: rest => ⟨.object done.reverse none, some rest⟩
                      | [] => ⟨.object done.reverse (some .unfinished), none⟩
                      | _ => ⟨.object done.reverse (some .malformed), none⟩
              | [] => ⟨.object (member (.broken .unfinished .unfinished) :: done).reverse none, none⟩
              | _ => ⟨.object (member (.broken .malformed .malformed) :: done).reverse none, none⟩
      | _ => stopped .malformed

end

/-- The value at the front of a text. A container takes two steps to its first item. -/
def scanText (cs : List Char) : Found := scanValue (2 * cs.length + 2) cs

end Values

end CodeReview.Json

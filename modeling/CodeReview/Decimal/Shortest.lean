import CodeReview.Decimal.Double

/-!
Decimal text of doubles. The shortest text has the fewest digits that read back as the same number,
and of those the nearest; fixed text has a given number of places and sends a half to the even
neighbour.
-/

namespace CodeReview.Decimal

section Rounding

/-- The quotient rounded to the nearest whole number, a half going to the even one. -/
def roundDiv (num den : Nat) : Nat :=
  let q := num / den
  let r := num % den
  if 2 * r < den then q else if den < 2 * r then q + 1 else if q % 2 == 0 then q else q + 1

def zeros (n : Nat) : String := String.ofList (List.replicate n '0')

def fixedText (num den places : Nat) : String :=
  let digits := toString (roundDiv (num * Nat.pow 10 places) den)
  let padded := zeros (places + 1 - digits.length) ++ digits
  let cut := padded.length - places
  if places == 0 then padded
  else String.ofList (padded.toList.take cut) ++ "." ++ String.ofList (padded.toList.drop cut)

def Double.fixed (d : Double) (places : Nat) : String :=
  if d.isNaN then "NaN"
  else
    (if d.isNegative then "-" else "") ++
      (if d.isFinite then fixedText d.numerator d.denominator places else "inf")

end Rounding

section Shortest

/-- Digits and a power of ten: the number is `digits · 10 ^ (power - shift)`. -/
structure Digits where
  digits : Nat
  power : Nat
  deriving DecidableEq, Repr

/-- Powers of ten are counted from here, so that they are natural numbers. -/
def shift : Nat := 400

def leadingPower (num den : Nat) : Nat := (toString (num * Nat.pow 10 shift / den)).length - 1

def isBetween (closed : Bool) (low high point : Nat) : Bool :=
  if closed then low ≤ point && point ≤ high else low < point && point < high

/-- Tries grids of decreasing coarseness. `low` and `high` bound, in units of `1 / (4 · den)`, the
numbers that read back as `num / den`. -/
def shortestFrom (num den low high : Nat) (closed : Bool) (lead : Nat) : Nat → Digits
  | 0 => ⟨0, shift⟩
  | more + 1 =>
      let power := lead - (16 - more)
      let unit := 4 * den * Nat.pow 10 (power - shift)
      let raise := Nat.pow 10 (shift - power)
      let value := 4 * num * raise
      let below := value / unit
      let nearer := roundDiv value unit
      let other := if nearer == below then below + 1 else below
      if isBetween closed (low * raise) (high * raise) (nearer * unit) then ⟨nearer, power⟩
      else if isBetween closed (low * raise) (high * raise) (other * unit) then ⟨other, power⟩
      else shortestFrom num den low high closed lead more

def stripZeros (fuel : Nat) (d : Digits) : Digits :=
  match fuel with
  | 0 => d
  | n + 1 => if d.digits != 0 && d.digits % 10 == 0 then stripZeros n ⟨d.digits / 10, d.power + 1⟩ else d

def Double.shortest (d : Double) : Digits :=
  let num := d.numerator
  let den := d.denominator
  let up := Nat.pow 2 (d.exponent - 1075)
  let narrow := d.fractionBits == 0 && 1 < d.exponentBits
  let found := shortestFrom num den (4 * num - (if narrow then 1 else 2) * up) (4 * num + 2 * up)
    (d.significand % 2 == 0) (leadingPower num den) 17
  stripZeros 20 found

end Shortest

end CodeReview.Decimal

/-!
Numbers in double precision, kept as their sixty-four bits so that they can be compared and stored
exactly. Arithmetic goes through `Float`.
-/

namespace CodeReview.Decimal

structure Double where
  bits : UInt64
  deriving DecidableEq, Repr

namespace Double

def ofFloat (x : Float) : Double := ⟨x.toBits⟩

def toFloat (d : Double) : Float := Float.ofBits d.bits

def isNegative (d : Double) : Bool := d.bits >>> 63 == 1

def exponentBits (d : Double) : Nat := ((d.bits >>> 52) &&& 0x7ff).toNat

def fractionBits (d : Double) : Nat := (d.bits &&& 0xfffffffffffff).toNat

def isFinite (d : Double) : Bool := d.exponentBits != 0x7ff

def isNaN (d : Double) : Bool := d.exponentBits == 0x7ff && d.fractionBits != 0

/-- A finite number is `significand · 2 ^ (exponent - 1075)` up to its sign. -/
def significand (d : Double) : Nat :=
  if d.exponentBits == 0 then d.fractionBits else d.fractionBits + 0x10000000000000

def exponent (d : Double) : Nat := if d.exponentBits == 0 then 1 else d.exponentBits

def numerator (d : Double) : Nat := d.significand * Nat.pow 2 (d.exponent - 1075)

def denominator (d : Double) : Nat := Nat.pow 2 (1075 - d.exponent)

def ofNat (n : Nat) : Double := ofFloat (Float.ofNat n)

def negate (d : Double) : Double := ⟨d.bits ^^^ 0x8000000000000000⟩

end Double

/-- The double nearest to `mantissa · 10 ^ (- places)`. -/
def nearest (mantissa places : Nat) : Double :=
  .ofFloat (Float.ofScientific mantissa true places)

end CodeReview.Decimal

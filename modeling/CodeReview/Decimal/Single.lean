import CodeReview.Decimal.Double

/-!
Numbers in single precision, kept as their thirty-two bits. Of an operation with a number that is none the
first such operand is the result, made quiet; an operation that has no result gives the negative quiet
one. The order puts all of them in line: negative ones that are no numbers first, then the numbers, zero
after its negative, then the positive ones that are no numbers.
-/

namespace CodeReview.Decimal

structure Single where
  bits : UInt32
  deriving DecidableEq, Repr

namespace Single

def isNaN (x : Single) : Bool := 0x7f800000 < x.bits &&& 0x7fffffff

def quiet (x : Single) : Single := ⟨x.bits ||| 0x400000⟩

def invalid : Single := ⟨0xffc00000⟩

def toFloat (x : Single) : Float32 := Float32.ofBits x.bits

def ofFloat (x : Float32) : Single := if x.isNaN then invalid else ⟨x.toBits⟩

def binary (op : Float32 → Float32 → Float32) (x y : Single) : Single :=
  if x.isNaN then x.quiet else if y.isNaN then y.quiet else ofFloat (op x.toFloat y.toFloat)

instance : Add Single := ⟨binary (· + ·)⟩

instance : Sub Single := ⟨binary (· - ·)⟩

instance : Mul Single := ⟨binary (· * ·)⟩

instance : Div Single := ⟨binary (· / ·)⟩

def zero : Single := ⟨0⟩

def sqrt (x : Single) : Single := if x.isNaN then x.quiet else ofFloat x.toFloat.sqrt

def isPositive (x : Single) : Bool := zero.toFloat < x.toFloat

def ofDouble (d : Double) : Single := ofFloat d.toFloat.toFloat32

def ofNat (n : Nat) : Single := ofFloat (Float32.ofNat n)

def negate (x : Single) : Single := ⟨x.bits ^^^ 0x80000000⟩

/-- Numbers in the order of their keys. -/
def orderKey (x : Single) : Nat :=
  if x.bits < 0x80000000 then x.bits.toNat + 0x80000000 else 0xffffffff - x.bits.toNat

def sum (xs : List Single) : Single := xs.foldl (· + ·) zero

def bytes (x : Single) : List UInt8 :=
  [x.bits.toUInt8, (x.bits >>> 8).toUInt8, (x.bits >>> 16).toUInt8, (x.bits >>> 24).toUInt8]

def ofBytes (a b c d : UInt8) : Single :=
  ⟨a.toUInt32 ||| (b.toUInt32 <<< 8) ||| (c.toUInt32 <<< 16) ||| (d.toUInt32 <<< 24)⟩

end Single

end CodeReview.Decimal

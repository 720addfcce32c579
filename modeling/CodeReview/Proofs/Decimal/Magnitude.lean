import CodeReview.Json.Scan
import Mathlib.Algebra.Group.Nat.Defs

/-!
How large a product of two doubles can be. A double is below a power of two when its leading binary place
is. Rounding may carry into one place more, so the product of numbers below two powers is below the power
next to their product. As long as that is a power that doubles have, no infinity comes about.
-/

namespace CodeReview.Decimal

open Float.Model Float.Model.UnpackedFloat

/-- Zero, or a number below two to the power of `k`. Its last place is fifty-three places below `k` or
lower still, so that it need not be moved to fit a double. -/
def Below (k : Int) : UnpackedFloat → Prop
  | .zero _ => True
  | .finite _ m e _ => totalExponent m e ≤ k ∧ e + 53 ≤ k
  | .infinity _ | .notANumber => False

instance (k : Int) : DecidablePred (Below k)
  | .zero _ => isTrue trivial
  | .finite _ m e _ => inferInstanceAs (Decidable (totalExponent m e ≤ k ∧ e + 53 ≤ k))
  | .infinity _ | .notANumber => isFalse id

section Rounding

theorem shift_right_mantissa (em : ExtendedMantissa) (n : Nat) :
    (em >>> n).mantissa = em.mantissa / 2 ^ n := by
  induction n with
  | zero => simp [HShiftRight.hShiftRight, Nat.repeat]
  | succ n ih =>
      change (em >>> n).mantissa / 2 = _
      rw [ih, Nat.div_div_eq_div_mul, Nat.pow_succ]

theorem rounded_mantissa_le (em : ExtendedMantissa) : em.roundedMantissa ≤ em.mantissa + 1 := by
  obtain ⟨m, roundBit, stickyBit⟩ := em
  cases roundBit <;> cases stickyBit <;>
    simp [ExtendedMantissa.roundedMantissa, ExtendedMantissa.accuracy, Accuracy.roundToNearestEven]
  omega

theorem mantissa_places : Format.binary64.mantissaBits = 53 := rfl

def targetShift (m : Nat) (e : Int) : Nat :=
  (Format.binary64.targetExponent (totalExponent m e) - e).toNat

theorem target_shift_cases (m : Nat) (e : Int) :
    targetShift m e = 0 ∨ e + targetShift m e = max (totalExponent m e - 53) (-1074) := by
  simp only [targetShift, Format.targetExponent, mantissa_places, Format.minExponent]
  omega

theorem shift_exact (m : Nat) (e : Int) :
    (shiftToTargetExponent .binary64 m e .exact).1.mantissa = m / 2 ^ targetShift m e ∧
      (shiftToTargetExponent .binary64 m e .exact).2 = e + targetShift m e :=
  ⟨shift_right_mantissa _ _, rfl⟩

theorem target_shift_place (m : Nat) (e k : Int) (natural : 0 ≤ k) (below : totalExponent m e ≤ k)
    (low : e + 53 ≤ k) : e + targetShift m e + 53 ≤ k := by
  rcases target_shift_cases m e with none | place <;> omega

theorem shifted_log2 (m n : Nat) (kept : m / 2 ^ n ≠ 0) : (m / 2 ^ n).log2 + n ≤ m.log2 := by
  have nonzero : m ≠ 0 := by
    rintro rfl
    exact kept (Nat.zero_div _)
  rw [Nat.le_log2 nonzero, Nat.pow_add]
  exact Nat.le_trans (Nat.mul_le_mul_right _ (Nat.log2_self_le kept)) (Nat.div_mul_le_self m _)

/-- A shifted mantissa that is rounded up fills at most one place more than it had above the shift. -/
theorem rounded_log2 (m n r : Nat) (rounded : r ≤ m / 2 ^ n + 1) : r.log2 ≤ m.log2 + 1 - n := by
  have whole : m / 2 ^ n < 2 ^ (m.log2 + 1 - n) := by
    rw [Nat.div_lt_iff_lt_mul (Nat.two_pow_pos n), ← Nat.pow_add]
    exact Nat.lt_of_lt_of_le Nat.lt_log2_self (Nat.pow_le_pow_right (by decide) (by omega))
  have most : r < 2 ^ (m.log2 + 1 - n + 1) := by
    have unit : 0 < 2 ^ (m.log2 + 1 - n) := Nat.two_pow_pos _
    rw [Nat.pow_succ]
    omega
  by_cases zero : r = 0
  · simp [zero]
  · exact Nat.le_of_lt_succ ((Nat.log2_lt zero).mpr most)

theorem round_below (sign : Sign) (m : Nat) (e k : Int) (natural : 0 ≤ k)
    (below : totalExponent m e ≤ k) (low : e + 53 ≤ k) :
    Below (k + 1) (roundWithAccuracy .binary64 sign m e .exact) := by
  obtain ⟨shifted, place⟩ := shift_exact m e
  have rounded := rounded_mantissa_le (shiftToTargetExponent .binary64 m e .exact).1
  rw [shifted] at rounded
  unfold roundWithAccuracy
  dsimp only
  rw [place]
  generalize (shiftToTargetExponent .binary64 m e .exact).1.roundedMantissa = r at rounded ⊢
  -- the carry of the rounding is what the second shift makes room for
  have more : totalExponent r (e + targetShift m e) ≤ k + 1 := by
    have carried := rounded_log2 m _ r rounded
    have shift := target_shift_cases m e
    unfold totalExponent at below shift ⊢
    omega
  have lower := target_shift_place m e k natural below low
  obtain ⟨shifted', place'⟩ := shift_exact r (e + targetShift m e)
  rw [shifted', place']
  by_cases kept : r / 2 ^ targetShift r (e + targetShift m e) = 0
  · rw [dif_pos kept]
    trivial
  · rw [dif_neg kept]
    constructor
    · have least := shifted_log2 r _ kept
      unfold totalExponent at more ⊢
      omega
    · exact target_shift_place r _ (k + 1) (by omega) more (by omega)

theorem log2_mul (m n : Nat) (positive : 0 < m) (positive' : 0 < n) :
    (m * n).log2 ≤ m.log2 + n.log2 + 1 := by
  rw [← Nat.lt_succ_iff, Nat.log2_lt (Nat.ne_of_gt (Nat.mul_pos positive positive'))]
  calc m * n < 2 ^ (m.log2 + 1) * 2 ^ (n.log2 + 1) :=
        Nat.mul_lt_mul_of_lt_of_lt Nat.lt_log2_self Nat.lt_log2_self
    _ = 2 ^ (m.log2 + n.log2 + 1 + 1) := by
        rw [← Nat.pow_add]
        congr 1
        omega

theorem mul_below (x y : UnpackedFloat) (j k : Int) (natural : 0 ≤ j) (natural' : 0 ≤ k)
    (below : Below j x) (below' : Below k y) : Below (j + k + 1) (mul .binary64 x y) := by
  cases x with
  | infinity | notANumber => exact below.elim
  | zero =>
      cases y with
      | infinity | notANumber => exact below'.elim
      | zero | finite => trivial
  | finite sign m e positive =>
      cases y with
      | infinity | notANumber => exact below'.elim
      | zero => trivial
      | finite sign' m' e' positive' =>
          apply round_below
          · omega
          · have product := log2_mul m m' positive positive'
            obtain ⟨total, -⟩ := below
            obtain ⟨total', -⟩ := below'
            unfold totalExponent at total total' ⊢
            omega
          · obtain ⟨-, low⟩ := below
            obtain ⟨-, low'⟩ := below'
            omega

end Rounding

section Packing

theorem implicit_bit (mantissa : BitVec 52) : (1#1 ++ mantissa).toNat = 2 ^ 52 + mantissa.toNat := by
  rw [BitVec.toNat_append, ← Nat.shiftLeft_add_eq_or_of_lt mantissa.isLt]
  rfl

theorem log2_places (m n : Nat) (small : m < 2 ^ (n + 1)) : m.log2 ≤ n := by
  by_cases zero : m = 0
  · simp [zero]
  · exact Nat.le_of_lt_succ ((Nat.log2_lt zero).mpr small)

theorem unpack_below (bits : BitVec Format.binary64.numBits) (k : Int) (natural : 0 ≤ k)
    (finite : unpackExponent bits ≠ -1#11) (low : ((unpackExponent bits).toNat : Int) - 1022 ≤ k) :
    Below k (UnpackedFloat.unpack .binary64 bits) := by
  have short : (unpackMantissa bits).toNat < 2 ^ 52 := (unpackMantissa bits).isLt
  unfold UnpackedFloat.unpack
  dsimp only
  rw [if_neg finite]
  by_cases subnormal : unpackExponent bits = 0#11
  · rw [if_pos subnormal]
    by_cases zero : unpackMantissa bits = 0#52
    · rw [dif_pos zero]
      trivial
    · rw [dif_neg zero]
      have places := log2_places _ 51 short
      rw [subnormal] at low
      dsimp only [Below]
      simp only [totalExponent, Format.exponentBias, subnormal, BitVec.toNat_zero]
      omega
  · rw [if_neg subnormal]
    have places : (1#1 ++ unpackMantissa bits).toNat.log2 ≤ 52 := by
      apply log2_places
      rw [implicit_bit]
      omega
    dsimp only [Below]
    simp only [totalExponent, Format.exponentBias]
    omega

theorem unpack_components_below (sign : Sign) (exponent : BitVec 11) (mantissa : BitVec 52) (k : Int)
    (natural : 0 ≤ k) (finite : exponent ≠ -1#11) (low : (exponent.toNat : Int) - 1022 ≤ k) :
    Below k (UnpackedFloat.unpack .binary64 (packComponents .binary64 sign exponent mantissa)) := by
  apply unpack_below _ k natural
  · rwa [unpackExponent_packComponents]
  · rwa [unpackExponent_packComponents]

/-- Packing keeps the bound up to the largest power of two that doubles have. -/
theorem unpack_pack_below (u : UnpackedFloat) (k : Int) (natural : 0 ≤ k) (fits : k ≤ 1024)
    (below : Below k u) :
    Below k (UnpackedFloat.unpack .binary64 (UnpackedFloat.pack .binary64 u)) := by
  cases u with
  | infinity | notANumber => exact below.elim
  | zero sign => exact unpack_components_below sign 0 0 k natural (by decide) (by simp; omega)
  | finite sign m e positive =>
      obtain ⟨total, low⟩ := below
      unfold totalExponent at total
      unfold UnpackedFloat.pack
      dsimp only
      split
      · next large =>
          simp only [Format.exponentBias] at large
          omega
      split
      · next small normal =>
          simp only [Format.exponentBias, mantissa_places] at small normal
          apply unpack_components_below sign _ _ k natural
          · intro full
            have := congrArg BitVec.toNat full
            simp [Format.exponentBias] at this
            omega
          · simp only [Format.exponentBias, BitVec.toNat_ofNat]
            omega
      · exact unpack_components_below sign 0 _ k natural (by decide) (by simp; omega)

end Packing

section Naturals

theorem log2_shift_left (m n : Nat) (positive : m ≠ 0) : (m <<< n).log2 = m.log2 + n := by
  have least : 2 ^ (m.log2 + n) ≤ m * 2 ^ n := by
    rw [Nat.pow_add]
    exact Nat.mul_le_mul_right _ (Nat.log2_self_le positive)
  have most : m * 2 ^ n < 2 ^ (m.log2 + n + 1) := by
    rw [Nat.add_right_comm, Nat.pow_add]
    exact Nat.mul_lt_mul_of_pos_right Nat.lt_log2_self (Nat.two_pow_pos _)
  rw [Nat.shiftLeft_eq]
  exact (Nat.log2_eq_iff (Nat.mul_ne_zero positive (Nat.ne_of_gt (Nat.two_pow_pos n)))).mpr ⟨least, most⟩

/-- Moving the last place of a number down to where a double has it leaves its size as it is. -/
theorem decrease_total (m : Nat) (e target : Int) (positive : m ≠ 0) :
    totalExponent (decreaseExponent m e target).1 (decreaseExponent m e target).2 =
      totalExponent m e := by
  simp only [decreaseExponent, totalExponent, log2_shift_left m _ positive]
  omega

theorem of_nat_below (n k : Nat) (small : n < 2 ^ k) :
    Below (k + 1) (UnpackedFloat.ofNat .binary64 n) := by
  unfold UnpackedFloat.ofNat UnpackedFloat.ofInt UnpackedFloat.normalize
  split
  · next negative =>
      have := Int.compare_eq_lt.mp negative
      omega
  · trivial
  · next positive =>
      have nonzero : n ≠ 0 := by
        have := Int.compare_eq_gt.mp positive
        omega
      have places : n.log2 < k := (Nat.log2_lt nonzero).mpr small
      rw [Int.toNat_natCast]
      unfold UnpackedFloat.round
      have total : totalExponent n 0 = n.log2 + 1 := Int.add_zero _
      apply round_below _ _ _ k (by omega)
      · refine Int.le_trans (Int.le_of_eq (decrease_total n 0 _ nonzero)) ?_
        omega
      · simp only [Format.targetExponent, mantissa_places, Format.minExponent, total]
        omega

theorem of_scientific_below (m e i j : Nat) (small : m < 2 ^ i) (power : 10 ^ e < 2 ^ j)
    (fits : j < 1024) : Below (i + j + 1) (UnpackedFloat.ofScientific .binary64 m e) := by
  have exponent : e < j := by
    have least : 2 ^ e ≤ 10 ^ e := Nat.pow_le_pow_left (by decide) e
    exact (Nat.pow_lt_pow_iff_right (by decide)).mp (Nat.lt_of_le_of_lt least power)
  have ten : 0 < 10 ^ e := Nat.pow_pos (by decide)
  unfold UnpackedFloat.ofScientific
  by_cases nonzero : m = 0
  · rw [dif_pos nonzero]
    trivial
  rw [dif_neg nonzero, if_neg (by simp; omega), if_neg (by simp; omega), if_pos (by omega)]
  change Below _ (roundWithAccuracy .binary64 _ (m <<< 53 * 10 ^ e) (-53 + 0) .exact)
  have places : m.log2 < i := (Nat.log2_lt nonzero).mpr small
  have tens : (10 ^ e).log2 < j := (Nat.log2_lt (Nat.ne_of_gt ten)).mpr power
  have some_ : 0 < m <<< 53 := by
    rw [Nat.shiftLeft_eq]
    omega
  have product := log2_mul (m <<< 53) (10 ^ e) some_ ten
  rw [log2_shift_left m 53 nonzero] at product
  apply round_below _ _ _ (i + j) (by omega)
  · unfold totalExponent
    omega
  · omega

end Naturals

section Doubles

def IsBelow (k : Int) (x : Float) : Prop := Below k x.toModel.unpack

instance (k : Int) : DecidablePred (IsBelow k) :=
  fun x => inferInstanceAs (Decidable (Below k x.toModel.unpack))

theorem below_finite (k : Int) (x : Float) (below : IsBelow k x) : x.isInf = false := by
  change x.toModel.unpack.isInf = false
  change Below k x.toModel.unpack at below
  generalize x.toModel.unpack = u at below ⊢
  cases u with
  | infinity | notANumber => exact below.elim
  | zero | finite => rfl

theorem product_below (x y : Float) (j k : Int) (natural : 0 ≤ j) (natural' : 0 ≤ k)
    (fits : j + k < 1024) (below : IsBelow j x) (below' : IsBelow k y) :
    IsBelow (j + k + 1) (x * y) :=
  unpack_pack_below _ _ (by omega) (by omega) (mul_below _ _ j k natural natural' below below')

theorem word_below (n k : Nat) (small : n < 2 ^ k) (word : k ≤ 64) :
    IsBelow (k + 1) n.toUInt64.toFloat := by
  apply unpack_pack_below _ (k + 1) (by omega) (by omega)
  apply of_nat_below
  exact Nat.lt_of_le_of_lt (Nat.mod_le n _) small

theorem exact_powers : ∀ e : Fin 23,
    IsBelow ((10 ^ e.val).log2 + 1 : Nat) Float.exactlyRepresentablePowersOfTen[e] := by
  decide +kernel

theorem below_weaken (j k : Int) (u : UnpackedFloat) (order : j ≤ k) (below : Below j u) : Below k u := by
  cases u with
  | infinity | notANumber => exact below.elim
  | zero => trivial
  | finite sign m e positive =>
      obtain ⟨total, low⟩ := below
      exact ⟨Int.le_trans total order, Int.le_trans low order⟩

theorem scientific_below (m e i j : Nat) (small : m < 2 ^ i) (power : 10 ^ e < 2 ^ j) (word : i ≤ 64)
    (fits : i + j + 1 < 1024) : IsBelow (i + j + 2) (Float.ofScientific m false e) := by
  unfold Float.ofScientific
  split
  · next fast =>
      have place : (10 ^ e).log2 + 1 ≤ j :=
        (Nat.log2_lt (Nat.ne_of_gt (Nat.pow_pos (by decide)))).mpr power
      have tabled := below_weaken _ j _ (Int.ofNat_le.mpr place)
        (exact_powers ⟨e, Nat.lt_succ_of_le fast.2⟩)
      have product := product_below _ _ (i + 1) j (by omega) (by omega) (by omega)
        (word_below m i small word) tabled
      exact below_weaken _ _ _ (by omega) product
  · exact unpack_pack_below _ _ (by omega) (by omega)
      (below_weaken _ _ _ (by omega) (of_scientific_below m e i j small power (by omega)))

end Doubles

end CodeReview.Decimal

import CodeReview.Proofs.Decimal.Magnitude
import CodeReview.Proofs.Json.Numeral

/-!
Integers too long for sixty-four bits. The digits that do not fit are dropped and counted, and the number is
scaled back by a power of ten in double precision. With fewer than three hundred digits the power is small
enough for the product to stay below infinity, so the number has some value.
-/

namespace CodeReview.Json

open Decimal

section Pushing

/-- What `count` digits leave in a significand. None is dropped before nineteen are taken, which is how many
always fit. -/
structure Pushed (count : Nat) (s : Significand) : Prop where
  word : s.value < wordLimit
  places : s.value < 10 ^ s.taken
  counted : s.taken + s.dropped = count
  full : 0 < s.dropped → 19 ≤ s.taken

theorem digit_value_small (c : Char) (digit : c.isDigit = true) : digitValue c < 10 := by
  have most : c.toNat ≤ 57 := (show 48 ≤ c.val ∧ c.val ≤ 57 by simpa [Char.isDigit] using digit).2
  unfold digitValue
  omega

theorem pushed_empty : Pushed 0 {} := ⟨by decide, by decide, rfl, nofun⟩

theorem push_pushed (count : Nat) (s : Significand) (c : Char) (digit : c.isDigit = true)
    (so : Pushed count s) : Pushed (count + 1) (s.push c) := by
  obtain ⟨word, places, counted, full⟩ := so
  have small := digit_value_small c digit
  have more : s.value * 10 + digitValue c < 10 ^ (s.taken + 1) := by
    rw [Nat.pow_succ]
    omega
  unfold Significand.push
  dsimp only
  split
  · next fits =>
      rw [Bool.and_eq_true, beq_iff_eq, decide_eq_true_eq] at fits
      exact ⟨fits.2, more, by dsimp only; omega, fun dropped => absurd fits.1 (Nat.ne_of_gt dropped)⟩
  · next large =>
      refine ⟨word, places, by dsimp only; omega, fun _ => ?_⟩
      by_cases first : s.dropped = 0
      · -- the first digit that does not fit is at least the twentieth
        have beyond : wordLimit ≤ s.value * 10 + digitValue c := by simpa [first] using large
        have longer : 10 ^ 19 < 10 ^ (s.taken + 1) :=
          Nat.lt_of_le_of_lt (Nat.le_trans (by decide) beyond) more
        exact Nat.le_of_lt_succ ((Nat.pow_lt_pow_iff_right (by decide)).mp longer)
      · exact full (Nat.pos_of_ne_zero first)

theorem digits_pushed (digits : List Char) (all : ∀ c ∈ digits, c.isDigit = true) :
    Pushed digits.length (digits.foldl Significand.push {}) := by
  have run : ∀ (rest : List Char) count s, (∀ c ∈ rest, c.isDigit = true) → Pushed count s →
      Pushed (count + rest.length) (rest.foldl Significand.push s) := by
    intro rest
    induction rest with
    | nil => exact fun count s _ so => so
    | cons c rest ih =>
        intro count s all so
        have next := push_pushed count s c (all c List.mem_cons_self) so
        have last := ih (count + 1) (s.push c) (fun d member => all d (List.mem_cons_of_mem c member)) next
        rwa [Nat.add_assoc, Nat.add_comm 1] at last
  simpa using run digits 0 {} all pushed_empty

end Pushing

section Scaling

theorem power_below (e q : Nat) (few : e ≤ 3 * q) (fits : q < 102) :
    IsBelow (10 * q + 4) (Float.ofScientific 1 false e) := by
  have places : 10 ^ e < 2 ^ (10 * q + 1) :=
    calc 10 ^ e ≤ 10 ^ (3 * q) := Nat.pow_le_pow_right (by decide) few
      _ = (10 ^ 3) ^ q := Nat.pow_mul 10 3 q
      _ ≤ (2 ^ 10) ^ q := Nat.pow_le_pow_left (by decide) q
      _ = 2 ^ (10 * q) := (Nat.pow_mul 2 10 q).symm
      _ < 2 ^ (10 * q + 1) := Nat.pow_lt_pow_right (by decide) (Nat.lt_succ_self _)
  have below := scientific_below 1 e 1 (10 * q + 1) (by decide) places (by decide) (by omega)
  exact below_weaken _ _ _ (by omega) below

theorem scale_ten_finite (fuel m e : Nat) (word : m < wordLimit) (few : e ≤ 280) :
    scaleTen (fuel + 1) (Float.ofNat m) e ≠ none := by
  have whole := scientific_below m 0 64 1 word (by decide) (by decide) (by decide)
  have power := power_below e 94 (by omega) (by decide)
  have below := product_below (Float.ofNat m) _ _ _ (by decide) (by decide) (by decide) whole power
  have finite := below_finite _ _ below
  rw [scaleTen, if_pos (by omega), if_pos (by omega), Int.natAbs_natCast]
  simp [finite]

theorem scaled_value (negative : Bool) (m e : Nat) (word : m < wordLimit) (few : e ≤ 280) :
    scaled negative m e ≠ .flawed := by
  have finite := scale_ten_finite ((e : Int).natAbs / 308 + 1) m e word few
  unfold scaled
  split
  · next infinite => exact absurd infinite finite
  · nofun

/-- An integer of fewer than three hundred digits has a value. -/
theorem long_integer_value (negative : Bool) (n : Nat) (short : (Nat.toDigits 10 n).length < 300) :
    wholeNumber negative ((Nat.toDigits 10 n).foldl Significand.push {}) ≠ .flawed := by
  obtain ⟨word, -, counted, full⟩ := digits_pushed _ (decimal_digits n).2
  unfold wholeNumber
  split
  · apply scaled_value _ _ _ word
    omega
  split
  · nofun
  split
  · exact scaled_value true _ 0 word (by decide)
  · nofun

end Scaling

end CodeReview.Json

import CodeReview.Json.Print
import CodeReview.Json.Scan
import Mathlib.Algebra.Group.Nat.Defs
import Mathlib.Data.List.Basic
import Mathlib.Data.List.TakeDrop

/-!
Numbers as they are written in JSON, and what a scan makes of them. Every such number is scanned to its
end. A whole number of sixty-four bits keeps its value; of the others it is only said here that they are
scanned as some number.
-/

namespace CodeReview.Json

section Grammar

def Digits (cs : List Char) : Prop := cs ≠ [] ∧ ∀ c ∈ cs, c.isDigit = true

def Whole (cs : List Char) : Prop := Digits cs ∧ (cs.head? = some '0' → cs = ['0'])

def Fraction (cs : List Char) : Prop := cs = [] ∨ ∃ places, Digits places ∧ cs = '.' :: places

def Exponent (cs : List Char) : Prop :=
  cs = [] ∨ ∃ sign digits, (sign = '+' ∨ sign = '-') ∧ Digits digits ∧ cs = 'e' :: sign :: digits

/-- A number without its sign: no zero stands before other digits, and there is a digit after the point
and in the exponent. -/
def Numeral (cs : List Char) : Prop :=
  ∃ whole fraction exponent, Whole whole ∧ Fraction fraction ∧ Exponent exponent ∧
    cs = whole ++ (fraction ++ exponent)

def Ends (rest : List Char) : Prop :=
  ∀ c more, rest = c :: more → c.isDigit = false ∧ c ≠ '.' ∧ c ≠ 'e' ∧ c ≠ 'E'

inductive NumberScan : Scan → Prop
  | integer (n : Int) : NumberScan (.integer n)
  | double (d : Decimal.Double) : NumberScan (.double d)
  | flawed : NumberScan .flawed

end Grammar

section Scanning

theorem ends_nil : Ends [] := by
  intro c more same
  cases same

theorem ends_cons (c : Char) (more : List Char)
    (other : c.isDigit = false ∧ c ≠ '.' ∧ c ≠ 'e' ∧ c ≠ 'E') : Ends (c :: more) := by
  rintro _ _ ⟨rfl, rfl⟩
  exact other

theorem take_digits (digits rest : List Char) (all : ∀ c ∈ digits, c.isDigit = true)
    (stop : ∀ c more, rest = c :: more → c.isDigit = false) :
    takeDigits (digits ++ rest) = (digits, rest) := by
  rw [takeDigits, List.span_eq_takeWhile_dropWhile, List.takeWhile_append_of_pos all,
    List.dropWhile_append_of_pos all]
  cases rest with
  | nil => simp
  | cons c more => simp [stop c more rfl]

theorem scaled_number (negative : Bool) (significand : Nat) (exponent : Int) :
    NumberScan (scaled negative significand exponent) := by
  unfold scaled
  split
  · exact .flawed
  · exact .double _

theorem scan_exponent_number (negative : Bool) (significand : Nat) (exponent : Int) (sign : Char)
    (digits rest : List Char) (signed : sign = '+' ∨ sign = '-') (some_ : Digits digits)
    (ends : Ends rest) :
    ∃ scan, NumberScan scan ∧
      scanExponent negative significand exponent (sign :: (digits ++ rest)) = ⟨scan, some rest⟩ := by
  have taken := take_digits digits rest some_.2 fun c more same => (ends c more same).1
  obtain ⟨first, others, rfl⟩ := List.exists_cons_of_ne_nil some_.1
  rcases signed with rfl | rfl
  all_goals
    simp only [scanExponent, taken]
    split
    · split
      · exact ⟨_, .double _, rfl⟩
      · exact ⟨_, .flawed, rfl⟩
    · exact ⟨_, scaled_number _ _ _, rfl⟩

theorem scan_after_digits_number (negative : Bool) (significand : Nat) (exponent : Int)
    (cs rest : List Char) (written : Exponent cs) (ends : Ends rest) :
    ∃ scan, NumberScan scan ∧
      scanAfterDigits negative significand exponent (cs ++ rest) = ⟨scan, some rest⟩ := by
  rcases written with rfl | ⟨sign, digits, signed, some_, rfl⟩
  · cases rest with
    | nil => exact ⟨_, scaled_number _ _ _, rfl⟩
    | cons c more =>
        obtain ⟨-, -, lower, upper⟩ := ends c more rfl
        refine ⟨_, scaled_number negative significand exponent, ?_⟩
        simp [scanAfterDigits, lower, upper]
  · simpa [scanAfterDigits] using
      scan_exponent_number negative significand exponent sign digits rest signed some_ ends

theorem exponent_no_digit (exponent rest : List Char) (written : Exponent exponent)
    (ends : Ends rest) : ∀ c more, exponent ++ rest = c :: more → c.isDigit = false := by
  rcases written with rfl | ⟨sign, digits, -, -, rfl⟩
  · exact fun c more same => (ends c more same).1
  · rintro _ _ ⟨rfl, rfl⟩
    decide

theorem fraction_no_digit (fraction exponent rest : List Char) (written : Fraction fraction)
    (power : Exponent exponent) (ends : Ends rest) :
    ∀ c more, fraction ++ (exponent ++ rest) = c :: more → c.isDigit = false := by
  rcases written with rfl | ⟨places, -, rfl⟩
  · exact exponent_no_digit exponent rest power ends
  · rintro _ _ ⟨rfl, rfl⟩
    decide

theorem scan_number_whole (negative : Bool) (whole after : List Char) (written : Whole whole)
    (stop : ∀ c more, after = c :: more → c.isDigit = false) :
    scanNumber negative (whole ++ after) =
      scanAfterWhole negative (whole.foldl Significand.push {}) after := by
  have taken := take_digits whole after written.1.2 stop
  obtain ⟨first, others, rfl⟩ := List.exists_cons_of_ne_nil written.1.1
  rw [scanNumber, taken]
  dsimp only
  split
  · next second more same =>
      obtain ⟨rfl, rfl⟩ := same
      simpa using written.2
  · rfl

theorem whole_number_scan (negative : Bool) (s : Significand) :
    NumberScan (wholeNumber negative s) := by
  unfold wholeNumber
  split
  · exact scaled_number _ _ _
  split
  · exact .integer _
  split
  · exact scaled_number _ _ _
  · exact .integer _

theorem scan_after_whole_ends (negative : Bool) (s : Significand) (rest : List Char)
    (ends : Ends rest) :
    scanAfterWhole negative s rest = ⟨wholeNumber negative s, some rest⟩ := by
  cases rest with
  | nil => rfl
  | cons c more =>
      obtain ⟨-, point, lower, upper⟩ := ends c more rfl
      simp [scanAfterWhole, lower, upper]

theorem scan_number (negative : Bool) (cs rest : List Char) (written : Numeral cs)
    (ends : Ends rest) :
    ∃ scan, NumberScan scan ∧ scanNumber negative (cs ++ rest) = ⟨scan, some rest⟩ := by
  obtain ⟨whole, fraction, exponent, number, part, power, rfl⟩ := written
  rw [List.append_assoc, List.append_assoc, scan_number_whole negative whole _ number
    (fraction_no_digit fraction exponent rest part power ends)]
  rcases part with rfl | ⟨places, digits, rfl⟩
  · rcases power with rfl | ⟨sign, powerDigits, signed, some_, rfl⟩
    · exact ⟨_, whole_number_scan negative _, scan_after_whole_ends negative _ rest ends⟩
    · exact scan_after_digits_number negative _ _ _ rest (.inr ⟨sign, powerDigits, signed, some_, rfl⟩)
        ends
  · have taken := take_digits places (exponent ++ rest) digits.2
      (exponent_no_digit exponent rest power ends)
    obtain ⟨first, others, rfl⟩ := List.exists_cons_of_ne_nil digits.1
    rw [List.cons_append] at taken
    simp only [scanAfterWhole, List.cons_append, taken]
    exact scan_after_digits_number negative _ _ exponent rest power ends

end Scanning

section Integers

theorem decimal_digits (n : Nat) : Digits (Nat.toDigits 10 n) :=
  ⟨Nat.toDigits_ne_nil, fun _ member => Nat.isDigit_of_mem_toDigits (by decide) (by decide) member⟩

theorem decimal_leads (n : Nat) (positive : 0 < n) : (Nat.toDigits 10 n).head? ≠ some '0' := by
  induction n using Nat.strongRecOn with
  | ind n ih =>
      by_cases single : n < 10
      · have nonzero : ∀ d < 10, 0 < d → d.digitChar ≠ '0' := by decide
        rw [Nat.toDigits_of_lt_base single, List.head?_cons]
        exact fun same => nonzero n single positive (Option.some.inj same)
      · rw [Nat.toDigits_of_base_le (by decide) (by omega), List.head?_append_of_ne_nil _
          Nat.toDigits_ne_nil]
        exact ih (n / 10) (by omega) (by omega)

theorem decimal_whole (n : Nat) : Whole (Nat.toDigits 10 n) := by
  refine ⟨decimal_digits n, fun zero => ?_⟩
  rcases Nat.eq_zero_or_pos n with rfl | positive
  · exact Nat.toDigits_zero 10
  · exact absurd zero (decimal_leads n positive)

theorem digits_grow (digits : List Char) (n : Nat) : n ≤ Nat.ofDigitChars 10 digits n := by
  induction digits generalizing n with
  | nil => exact Nat.le_refl n
  | cons c digits ih =>
      rw [Nat.ofDigitChars_cons]
      exact Nat.le_trans (by omega) (ih _)

theorem push_digits (digits : List Char) (s : Significand) (kept : s.dropped = 0)
    (fits : Nat.ofDigitChars 10 digits s.value < wordLimit) :
    digits.foldl Significand.push s =
      { value := Nat.ofDigitChars 10 digits s.value, dropped := 0, taken := s.taken + digits.length } := by
  induction digits generalizing s with
  | nil =>
      cases s
      simp_all
  | cons c digits ih =>
      rw [Nat.ofDigitChars_cons] at fits ⊢
      have next : s.value * 10 + digitValue c = 10 * s.value + (c.toNat - '0'.toNat) := by
        rw [Nat.mul_comm]
        rfl
      have pushed : s.push c =
          { value := 10 * s.value + (c.toNat - '0'.toNat), dropped := 0, taken := s.taken + 1 } := by
        have small := Nat.lt_of_le_of_lt (digits_grow digits _) fits
        simp only [Significand.push, kept, next, small, BEq.rfl, decide_true, Bool.and_self,
          ↓reduceIte]
      rw [List.foldl_cons, pushed, ih _ rfl fits, List.length_cons]
      simp [Nat.add_comm, Nat.add_left_comm]

theorem push_decimal (n : Nat) (fits : n < wordLimit) :
    ((Nat.toDigits 10 n).foldl Significand.push {}).value = n ∧
      ((Nat.toDigits 10 n).foldl Significand.push {}).dropped = 0 := by
  have value := @Nat.ofDigitChars_ten_toDigits n
  rw [push_digits _ _ rfl (by rw [value]; exact fits)]
  exact ⟨value, rfl⟩

theorem push_exact (digits : List Char) (s : Significand)
    (kept : (digits.foldl Significand.push s).dropped = 0) :
    s.dropped = 0 ∧
      (digits.foldl Significand.push s).value = Nat.ofDigitChars 10 digits s.value := by
  induction digits generalizing s with
  | nil => exact ⟨kept, rfl⟩
  | cons c digits ih =>
      obtain ⟨first, value⟩ := ih (s.push c) kept
      rw [List.foldl_cons, value, Nat.ofDigitChars_cons]
      unfold Significand.push at first ⊢
      dsimp only at first ⊢
      split at first
      · next taken =>
          rw [Bool.and_eq_true, beq_iff_eq] at taken
          refine ⟨taken.1, ?_⟩
          rw [if_pos (by simpa using taken), Nat.mul_comm]
          rfl
      · exact absurd first (Nat.succ_ne_zero _)

theorem scan_decimal (negative : Bool) (n : Nat) (rest : List Char) (ends : Ends rest) :
    scanNumber negative (Nat.toDigits 10 n ++ rest) =
      ⟨wholeNumber negative ((Nat.toDigits 10 n).foldl Significand.push {}), some rest⟩ := by
  rw [scan_number_whole negative _ rest (decimal_whole n) fun c more same => (ends c more same).1,
    scan_after_whole_ends negative _ rest ends]

theorem whole_number_natural (n : Nat) (fits : n < wordLimit) :
    wholeNumber false ((Nat.toDigits 10 n).foldl Significand.push {}) = .integer n := by
  obtain ⟨value, dropped⟩ := push_decimal n fits
  simp [wholeNumber, value, dropped]

theorem whole_number_negative (n : Nat) (positive : 0 < n) (fits : n ≤ 0x8000000000000000) :
    wholeNumber true ((Nat.toDigits 10 n).foldl Significand.push {}) = .integer (-n) := by
  obtain ⟨value, dropped⟩ := push_decimal n (Nat.lt_of_le_of_lt fits (by decide))
  have nonzero : (n == 0) = false := beq_eq_false_iff_ne.mpr (by omega)
  have bounded : ¬ 0x8000000000000000 < n := by omega
  simp only [wholeNumber, value, dropped, nonzero, bounded, bne_self_eq_false, decide_false,
    Bool.or_self, Bool.not_true, Bool.false_eq_true, ↓reduceIte]

theorem scaled_no_integer (negative : Bool) (significand : Nat) (exponent m : Int) :
    scaled negative significand exponent ≠ .integer m := by
  unfold scaled
  split <;> simp

/-- Digits that do not fit never make another integer. -/
theorem whole_number_only (negative : Bool) (n : Nat) (m : Int)
    (read : wholeNumber negative ((Nat.toDigits 10 n).foldl Significand.push {}) = .integer m) :
    m = if negative then -(n : Int) else n := by
  unfold wholeNumber at read
  split at read
  · exact absurd read (scaled_no_integer _ _ _ _)
  · next kept =>
      obtain ⟨-, value⟩ := push_exact (Nat.toDigits 10 n) {} (by simpa using kept)
      rw [value, Nat.ofDigitChars_ten_toDigits] at read
      split at read
      · next positive =>
          cases read
          simp_all
      split at read
      · exact absurd read (scaled_no_integer _ _ _ _)
      · next negated _ =>
          cases read
          simp_all

end Integers

/-! The text of a double is a numeral. It is enough that its digits do not begin with a zero, which holds
because no number other than zero reads back from zero. -/
section Doubles

open Decimal (Double shortestFrom stripZeros)

theorem between_nonzero (closed : Bool) (low high n unit : Nat) (positive : 0 < low)
    (between : Decimal.isBetween closed low high (n * unit) = true) : n ≠ 0 := by
  rintro rfl
  rw [Nat.zero_mul, Decimal.isBetween] at between
  cases closed <;> simp at between
  omega

theorem shortest_from_nonzero (num den low high : Nat) (closed : Bool) (lead more : Nat)
    (positive : 0 < low) :
    (shortestFrom num den low high closed lead more).digits ≠ 0 ∨
      shortestFrom num den low high closed lead more = ⟨0, Decimal.shift⟩ := by
  induction more with
  | zero => exact .inr rfl
  | succ more ih =>
      have raised : 0 < low * 10 ^ (Decimal.shift - (lead - (16 - more))) :=
        Nat.mul_pos positive (Nat.pow_pos (by decide))
      rw [shortestFrom]
      generalize Decimal.roundDiv _ _ = nearer
      generalize (if nearer == _ then _ + 1 else _) = other
      split
      · next hit => exact .inl (between_nonzero _ _ _ _ _ raised hit)
      split
      · next hit => exact .inl (between_nonzero _ _ _ _ _ raised hit)
      · exact ih

theorem strip_zeros_nonzero (fuel : Nat) (d : Decimal.Digits)
    (kept : d.digits ≠ 0 ∨ d = ⟨0, Decimal.shift⟩) :
    (stripZeros fuel d).digits ≠ 0 ∨ stripZeros fuel d = ⟨0, Decimal.shift⟩ := by
  induction fuel generalizing d with
  | zero => exact kept
  | succ fuel ih =>
      rw [stripZeros]
      split
      · next tens =>
          rw [Bool.and_eq_true, bne_iff_ne, beq_iff_eq] at tens
          exact ih _ (.inl (by dsimp only; omega))
      · exact kept

theorem shortest_nonzero (d : Double) (nonzero : d.significand ≠ 0) :
    d.shortest.digits ≠ 0 ∨ d.shortest = ⟨0, Decimal.shift⟩ := by
  apply strip_zeros_nonzero
  apply shortest_from_nonzero
  have up : 0 < Nat.pow 2 (d.exponent - 1075) := Nat.pow_pos (by decide)
  have least : Nat.pow 2 (d.exponent - 1075) ≤ d.numerator :=
    Nat.le_mul_of_pos_left _ (Nat.pos_of_ne_zero nonzero)
  split <;> omega

theorem digits_zeros (digits : List Char) (n : Nat) (some_ : Digits digits) :
    Digits (digits ++ List.replicate n '0') := by
  refine ⟨by simp [some_.1], fun c member => ?_⟩
  rcases List.mem_append.mp member with old | zero
  · exact some_.2 c old
  · rw [(List.mem_replicate.mp zero).2]
    decide

theorem zeros_digits (digits : List Char) (n : Nat) (some_ : Digits digits) :
    Digits (List.replicate n '0' ++ digits) := by
  refine ⟨by simp [some_.1], fun c member => ?_⟩
  rcases List.mem_append.mp member with zero | old
  · rw [(List.mem_replicate.mp zero).2]
    decide
  · exact some_.2 c old

theorem whole_of_head (digits : List Char) (some_ : Digits digits) (leads : digits.head? ≠ some '0') :
    Whole digits := ⟨some_, fun zero => absurd zero leads⟩

theorem take_digits_part (digits : List Char) (n : Nat) (some_ : Digits digits) (positive : 0 < n) :
    Digits (digits.take n) := by
  refine ⟨?_, fun c member => some_.2 c (List.mem_of_mem_take member)⟩
  obtain ⟨first, others, rfl⟩ := List.exists_cons_of_ne_nil some_.1
  simp
  omega

theorem drop_digits_part (digits : List Char) (n : Nat) (some_ : Digits digits)
    (longer : n < digits.length) : Digits (digits.drop n) :=
  ⟨by simpa using longer, fun c member => some_.2 c (List.mem_of_mem_drop member)⟩

theorem whole_leads (digits zeros : List Char) (some_ : Digits (digits ++ zeros))
    (leads : digits.head? ≠ some '0') (nonempty : digits ≠ []) : Whole (digits ++ zeros) := by
  refine ⟨some_, fun zero => absurd zero ?_⟩
  rw [List.head?_append_of_ne_nil _ nonempty]
  exact leads

theorem zero_digits : Digits ['0'] := by
  refine ⟨List.cons_ne_nil _ _, fun c member => ?_⟩
  rw [List.mem_singleton.mp member]
  rfl

theorem zero_whole : Whole ['0'] := ⟨zero_digits, fun _ => rfl⟩

theorem zero_fraction : Fraction ['.', '0'] := .inr ⟨['0'], zero_digits, rfl⟩

/-- Digits without a leading zero make a numeral wherever the point is. A zero alone does when the point
comes right after it. -/
theorem placed_numeral (digits : List Char) (point : Nat) (some_ : Digits digits)
    (leads : digits.head? ≠ some '0' ∨ digits = ['0'] ∧ point = Decimal.shift + 1) :
    Numeral (placed digits point) := by
  unfold placed
  dsimp only
  split
  · next positional =>
      rw [Bool.and_eq_true, decide_eq_true_eq, decide_eq_true_eq] at positional
      split
      · refine ⟨_, ['.', '0'], [], ?_, zero_fraction, .inl rfl, by rw [← List.append_assoc]; rfl⟩
        rcases leads with leads | ⟨rfl, rfl⟩
        · exact whole_leads digits _ (digits_zeros digits _ some_) leads some_.1
        · simpa using zero_whole
      · next longer =>
          refine ⟨digits.take (point - Decimal.shift), '.' :: digits.drop (point - Decimal.shift), [],
            ?_, .inr ⟨_, drop_digits_part digits _ some_ (by omega), rfl⟩, .inl rfl, by simp⟩
          rcases leads with leads | ⟨rfl, rfl⟩
          · have first := take_digits_part digits (point - Decimal.shift) some_ (by omega)
            exact whole_of_head _ first (by rwa [List.head?_take, if_neg (by omega)])
          · simp at longer
  split
  · exact ⟨['0'], _, [], zero_whole,
      .inr ⟨_, zeros_digits digits (Decimal.shift - point) some_, rfl⟩, .inl rfl, by simp⟩
  · have exponent : Exponent ('e' :: if Decimal.shift < point
        then '+' :: Nat.toDigits 10 (point - Decimal.shift - 1)
        else '-' :: Nat.toDigits 10 (Decimal.shift + 1 - point)) := by
      split
      · exact .inr ⟨'+', _, .inl rfl, decimal_digits _, rfl⟩
      · exact .inr ⟨'-', _, .inr rfl, decimal_digits _, rfl⟩
    obtain ⟨first, others, rfl⟩ := List.exists_cons_of_ne_nil some_.1
    refine ⟨[first], _, _, ⟨take_digits_part _ 1 some_ (by decide), ?_⟩, ?_, exponent, rfl⟩
    · simp
    · split
      · exact .inl rfl
      · next several =>
          refine .inr ⟨others, drop_digits_part _ 1 some_ ?_, rfl⟩
          simp at several ⊢
          exact List.length_pos_iff.mpr several

theorem double_text_numeral (d : Double) (finite : d.isFinite = true) :
    ∃ sign cs, (sign = [] ∨ sign = ['-']) ∧ Numeral cs ∧ (doubleText d).toList = sign ++ cs := by
  have signs : (if d.isNegative then "-" else "").toList = [] ∨
      (if d.isNegative then "-" else "").toList = ['-'] := by
    split
    · exact .inr rfl
    · exact .inl rfl
  unfold doubleText
  rw [finite]
  simp only [Bool.not_true, Bool.false_eq_true, ↓reduceIte]
  split
  · refine ⟨_, ['0', '.', '0'], signs, ?_, String.toList_append⟩
    exact ⟨['0'], ['.', '0'], [], zero_whole, zero_fraction, .inl rfl, rfl⟩
  · next nonzero =>
      refine ⟨_, _, signs, ?_, by rw [String.toList_append, String.toList_ofList]⟩
      apply placed_numeral _ _ (decimal_digits _)
      rcases shortest_nonzero d (by simpa using nonzero) with some_ | fallback
      · exact .inl (decimal_leads _ (Nat.pos_of_ne_zero some_))
      · rw [fallback]
        exact .inr ⟨rfl, rfl⟩

end Doubles

end CodeReview.Json

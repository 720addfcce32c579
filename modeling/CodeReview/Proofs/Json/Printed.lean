import CodeReview.Proofs.Json.Scanning

/-!
The texts that are printed on one line have no control characters: those of strings are escaped, and all else
is made of signs, letters and digits.
-/

namespace CodeReview.Json

def Printed (cs : List Char) : Prop := ∀ c ∈ cs, 0x20 ≤ c.toNat

instance : DecidablePred Printed := fun cs => List.decidableBAll (fun c : Char => 0x20 ≤ c.toNat) cs

section Texts

theorem printed_nil : Printed [] := by
  intro c member
  cases member

theorem printed_cons {c : Char} {cs : List Char} (sign : 0x20 ≤ c.toNat) (printed : Printed cs) :
    Printed (c :: cs) := by
  intro d member
  rcases List.mem_cons.mp member with rfl | later
  · exact sign
  · exact printed d later

theorem printed_append {cs more : List Char} (first : Printed cs) (second : Printed more) :
    Printed (cs ++ more) := by
  intro c member
  rcases List.mem_append.mp member with before | behind
  · exact first c before
  · exact second c behind

theorem printed_no_feed {cs : List Char} (printed : Printed cs) : '\n' ∉ cs := by
  intro member
  exact absurd (printed '\n' member) (by decide)

end Texts

section Numbers

theorem digit_printed {c : Char} (digit : c.isDigit = true) : 0x20 ≤ c.toNat := by
  have least : '0'.val ≤ c.val := by
    simp only [Char.isDigit, Bool.and_eq_true, decide_eq_true_eq] at digit
    exact digit.1
  have number : 48 ≤ c.toNat := least
  omega

theorem digits_printed {cs : List Char} (digits : Digits cs) : Printed cs := by
  intro c member
  exact digit_printed (digits.2 c member)

theorem numeral_printed {cs : List Char} (numeral : Numeral cs) : Printed cs := by
  obtain ⟨whole, fraction, exponent, isWhole, isFraction, isExponent, rfl⟩ := numeral
  apply printed_append
  · exact digits_printed isWhole.1
  apply printed_append
  · rcases isFraction with rfl | ⟨places, digits, rfl⟩
    · exact printed_nil
    · exact printed_cons (by decide) (digits_printed digits)
  · rcases isExponent with rfl | ⟨sign, places, signed, digits, rfl⟩
    · exact printed_nil
    · have printable : 0x20 ≤ sign.toNat := by
        rcases signed with rfl | rfl
        · decide
        · decide
      exact printed_cons (by decide) (printed_cons printable (digits_printed digits))

theorem integer_printed (n : Int) : Printed (toString n).toList := by
  rw [integer_text]
  apply printed_append
  · split
    · exact printed_cons (by decide) printed_nil
    · exact printed_nil
  · exact numeral_printed (decimal_numeral n.natAbs)

theorem double_printed (d : Decimal.Double) : Printed (doubleText d).toList := by
  by_cases finite : d.isFinite = true
  · obtain ⟨sign, cs, signed, numeral, same⟩ := double_text_numeral d finite
    rw [same]
    apply printed_append
    · rcases signed with rfl | rfl
      · exact printed_nil
      · exact printed_cons (by decide) printed_nil
    · exact numeral_printed numeral
  · rw [double_text_null d finite]
    decide

end Numbers

section Strings

theorem hex_digit_printed : ∀ n < 16, 0x20 ≤ (hexDigit n).toNat := by decide

theorem escape_char_printed (c : Char) : Printed (escapeChar c) := by
  have named (letter : Char) (sign : 0x20 ≤ letter.toNat) : Printed ['\\', letter] :=
    printed_cons (by decide) (printed_cons sign printed_nil)
  unfold escapeChar
  split
  · exact named '"' (by decide)
  split
  · exact named '\\' (by decide)
  split
  · exact named 'b' (by decide)
  split
  · exact named 'f' (by decide)
  split
  · exact named 'n' (by decide)
  split
  · exact named 'r' (by decide)
  split
  · exact named 't' (by decide)
  split
  · next control =>
      have high := hex_digit_printed (c.toNat / 16) (by omega)
      have low := hex_digit_printed (c.toNat % 16) (by omega)
      apply printed_append (named 'u' (by decide))
      apply printed_cons (by decide)
      apply printed_cons (by decide)
      exact printed_cons high (printed_cons low printed_nil)
  · next noControl => exact printed_cons (Nat.le_of_not_lt noControl) printed_nil

theorem escape_printed (cs : List Char) : Printed (escape cs) := by
  induction cs with
  | nil => exact printed_nil
  | cons c rest ih => exact printed_append (escape_char_printed c) ih

theorem quote_printed (s : String) : Printed (quote s) := by
  apply printed_cons (by decide)
  exact printed_append (escape_printed s.toList) (printed_cons (by decide) printed_nil)

end Strings

section Values

mutual

theorem compact_printed (j : Json) : Printed (compactChars j) := by
  match j with
  | .null => decide
  | .bool true => decide
  | .bool false => decide
  | .integer n => exact integer_printed n
  | .double d => exact double_printed d
  | .text s => exact quote_printed s
  | .list items => exact printed_cons (by decide) (compact_items_printed items)
  | .object members => exact printed_cons (by decide) (compact_members_printed members)

theorem compact_items_printed (items : List Json) : Printed (compactItems items) := by
  match items with
  | [] => exact printed_cons (by decide) printed_nil
  | [item] => exact printed_append (compact_printed item) (printed_cons (by decide) printed_nil)
  | item :: next :: rest =>
      have others := compact_items_printed (next :: rest)
      exact printed_append (compact_printed item) (printed_cons (by decide) others)

theorem compact_members_printed (members : List (String × Json)) : Printed (compactMembers members) := by
  match members with
  | [] => exact printed_cons (by decide) printed_nil
  | [(name, value)] =>
      apply printed_append (quote_printed name)
      apply printed_cons (by decide)
      exact printed_append (compact_printed value) (printed_cons (by decide) printed_nil)
  | (name, value) :: next :: rest =>
      have others := compact_members_printed (next :: rest)
      apply printed_append (quote_printed name)
      apply printed_cons (by decide)
      exact printed_append (compact_printed value) (printed_cons (by decide) others)

end

end Values

end CodeReview.Json

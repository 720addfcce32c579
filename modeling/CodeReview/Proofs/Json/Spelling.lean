import CodeReview.Json.Print
import CodeReview.Json.Scan

/-!
The ways to write a string in JSON. A character stands for itself, is named by a letter after a backslash,
or is given by the hexadecimal digits of its number, which beyond sixteen bits takes a pair of surrogates. A
scan reads each of them as the character. The printers take one of these ways for each character.
-/

namespace CodeReview.Json

section Grammar

inductive FourDigits : Nat → List Char → Prop
  | intro (a b c d : Char) (i j k l : Nat) (first : hexValue? a = some i) (second : hexValue? b = some j)
      (third : hexValue? c = some k) (fourth : hexValue? d = some l) :
      FourDigits (((i * 16 + j) * 16 + k) * 16 + l) [a, b, c, d]

inductive Spelling : Char → List Char → Prop
  | plain (c : Char) (printed : 0x20 ≤ c.toNat) (quotation : c ≠ '"') (backslash : c ≠ '\\') :
      Spelling c [c]
  | named (c letter : Char) (name : plainEscape? letter = some c) : Spelling c ['\\', letter]
  | unit (c : Char) (digits : List Char) (number : FourDigits c.toNat digits) :
      Spelling c ('\\' :: 'u' :: digits)
  | pair (c : Char) (high low : Nat) (digits digits' : List Char) (number : FourDigits high digits)
      (number' : FourDigits low digits') (isHigh : 0xD800 ≤ high ∧ high ≤ 0xDBFF)
      (isLow : 0xDC00 ≤ low ∧ low ≤ 0xDFFF)
      (value : c.toNat = (high - 0xD800) * 0x400 + (low - 0xDC00) + 0x10000) :
      Spelling c ('\\' :: 'u' :: (digits ++ '\\' :: 'u' :: digits'))

inductive Spelled : List Char → List Char → Prop
  | nil : Spelled [] []
  | cons (c : Char) (cs piece more : List Char) (head : Spelling c piece) (tail : Spelled cs more) :
      Spelled (c :: cs) (piece ++ more)

def Quoted (s : String) (cs : List Char) : Prop :=
  ∃ inside, Spelled s.toList inside ∧ cs = '"' :: (inside ++ ['"'])

end Grammar

section Printing

theorem hex_digit_value : ∀ n < 16, hexValue? (hexDigit n) = some n := by decide

theorem control_digits (n : Nat) (control : n < 0x20) :
    FourDigits n ['0', '0', hexDigit (n / 16), hexDigit (n % 16)] := by
  have zero : hexValue? '0' = some 0 := by decide
  have high := hex_digit_value (n / 16) (by omega)
  have low := hex_digit_value (n % 16) (by omega)
  have number := FourDigits.intro _ _ _ _ _ _ _ _ zero zero high low
  have value : ((0 * 16 + 0) * 16 + n / 16) * 16 + n % 16 = n := by omega
  rwa [value] at number

theorem escape_char_spelling (c : Char) : Spelling c (escapeChar c) := by
  unfold escapeChar
  split
  · next same => exact .named c '"' (by rw [eq_of_beq same]; rfl)
  split
  · next same => exact .named c '\\' (by rw [eq_of_beq same]; rfl)
  split
  · next same => exact .named c 'b' (by rw [eq_of_beq same]; rfl)
  split
  · next same => exact .named c 'f' (by rw [eq_of_beq same]; rfl)
  split
  · next same => exact .named c 'n' (by rw [eq_of_beq same]; rfl)
  split
  · next same => exact .named c 'r' (by rw [eq_of_beq same]; rfl)
  split
  · next same => exact .named c 't' (by rw [eq_of_beq same]; rfl)
  split
  · next control => exact .unit c _ (control_digits c.toNat control)
  · next quoted slashed _ _ _ _ _ printed =>
      exact .plain c (Nat.le_of_not_lt printed) (by simpa using quoted) (by simpa using slashed)

theorem escape_spelled (cs : List Char) : Spelled cs (escape cs) := by
  induction cs with
  | nil => exact .nil
  | cons c cs ih => exact .cons c cs _ _ (escape_char_spelling c) ih

theorem quote_quoted (s : String) : Quoted s (quote s) := ⟨escape s.toList, escape_spelled s.toList, rfl⟩

end Printing

section Scanning

theorem scan_four_digits (n : Nat) (digits rest : List Char) (number : FourDigits n digits) :
    scanHex (digits ++ rest) = .unit n rest := by
  obtain ⟨a, b, c, d, i, j, k, l, first, second, third, fourth⟩ := number
  simp only [List.cons_append, List.nil_append, scanHex, first, second, third, fourth]

theorem no_surrogate (c : Char) : c.toNat < 0xD800 ∨ 0xDFFF < c.toNat := by
  rcases c.valid with below | ⟨above, -⟩
  · exact .inl below
  · exact .inr above

theorem scan_spelling (c : Char) (piece rest : List Char) (spelled : Spelling c piece) :
    scanPiece (piece ++ rest) = .char c rest := by
  cases spelled with
  | plain printed quotation backslash =>
      have noControl : ¬ c.toNat < 0x20 := Nat.not_lt.mpr printed
      simp [scanPiece, noControl]
  | named letter name =>
      have other : letter ≠ 'u' := by
        rintro rfl
        cases name
      simp [scanPiece, name]
  | unit digits number =>
      have whole : ¬ (0xDC00 ≤ c.toNat ∧ c.toNat ≤ 0xDFFF) ∧ ¬ (0xD800 ≤ c.toNat ∧ c.toNat ≤ 0xDBFF) := by
        have := no_surrogate c
        omega
      simp [scanPiece, scan_four_digits _ digits rest number, whole, Char.ofNat_toNat]
  | pair high low digits digits' number number' isHigh isLow value =>
      have noLow : ¬ 0xDC00 ≤ high := by omega
      have first := scan_four_digits high digits ('\\' :: 'u' :: (digits' ++ rest)) number
      have second := scan_four_digits low digits' rest number'
      simp [scanPiece, first, second, noLow, isHigh, isLow, ← value, Char.ofNat_toNat]

theorem spelled_length (cs text : List Char) (spelled : Spelled cs text) : cs.length ≤ text.length := by
  induction spelled with
  | nil => exact Nat.le_refl 0
  | cons c cs piece more head tail ih =>
      have some_ : 0 < piece.length := by
        cases head <;> simp
      simp only [List.length_append, List.length_cons]
      omega

theorem scan_spelled (cs text done rest : List Char) (fuel : Nat) (spelled : Spelled cs text)
    (enough : cs.length < fuel) :
    scanString fuel done true (text ++ '"' :: rest) =
      ⟨.text (String.ofList (done.reverse ++ cs)), some rest⟩ := by
  obtain ⟨n, rfl⟩ := Nat.exists_eq_add_one_of_ne_zero (Nat.ne_zero_of_lt enough)
  induction spelled generalizing done n with
  | nil => simp [scanString, scanPiece]
  | cons c cs piece more head tail ih =>
      -- a character takes one unit of fuel, however many signs it is written with
      rw [List.append_assoc, scanString, scan_spelling c piece _ head]
      dsimp only
      rw [List.length_cons] at enough
      obtain ⟨m, rfl⟩ := Nat.exists_eq_add_one_of_ne_zero (show n ≠ 0 by omega)
      rw [ih (c :: done) m (by omega)]
      simp

/-- A quoted string is read back from behind its opening quotation mark. -/
theorem scan_quoted (s : String) (inside rest : List Char) (spelled : Spelled s.toList inside) :
    scanString ((inside ++ '"' :: rest).length + 1) [] true (inside ++ '"' :: rest) =
      ⟨.text s, some rest⟩ := by
  have enough : s.toList.length < (inside ++ '"' :: rest).length + 1 := by
    have := spelled_length s.toList inside spelled
    simp only [List.length_append, List.length_cons]
    omega
  rw [scan_spelled _ inside _ _ _ spelled enough]
  simp

end Scanning

end CodeReview.Json

import CodeReview.Text.Utf8

/-!
Bytes written for a text read back as that text, and no other bytes do. A character is followed through
the reader byte by byte; what stands after its bytes is never looked at.
-/

namespace CodeReview.Text

section Bytes

theorem byte_value (n : Nat) (small : n < 256) : (UInt8.ofNat n).toNat = n := by
  rw [UInt8.toNat_ofNat']
  omega

theorem byte_between (p : Partial) (n : Nat) (small : n < 64) (low : p.low.toNat ≤ 0x80 + n)
    (high : 0x80 + n ≤ p.high.toNat) :
    (p.low ≤ UInt8.ofNat (0x80 + n) && UInt8.ofNat (0x80 + n) ≤ p.high) = true := by
  have value := byte_value (0x80 + n) (by omega)
  rw [Bool.and_eq_true, decide_eq_true_eq, decide_eq_true_eq, UInt8.le_iff_toNat_le,
    UInt8.le_iff_toNat_le, value]
  exact ⟨low, high⟩

theorem lowest_tail : (0x80 : UInt8).toNat = 0x80 := rfl

theorem highest_tail : (0xbf : UInt8).toNat = 0xbf := rfl

theorem lead_bound (lead special : Nat) (narrow wide : UInt8) :
    (if lead == special then narrow else wide).toNat =
      if lead = special then narrow.toNat else wide.toNat := by
  by_cases same : lead = special <;> simp [same]

theorem units_last_byte (p : Partial) (n : Nat) (rest : Bytes) (last : p.more = 0) (small : n < 64)
    (low : p.low.toNat ≤ 0x80 + n) (high : 0x80 + n ≤ p.high.toNat) :
    unitsFrom (some p) (UInt8.ofNat (0x80 + n) :: rest) =
      some (Char.ofNat (p.value * 64 + n)) :: unitsFrom none rest := by
  have value := byte_value (0x80 + n) (by omega)
  simp only [unitsFrom, step, byte_between p n small low high, last, value, Nat.add_sub_cancel_left,
    ↓reduceIte, List.singleton_append]

theorem units_next_byte (p : Partial) (more n : Nat) (rest : Bytes) (pending : p.more = more + 1)
    (small : n < 64) (low : p.low.toNat ≤ 0x80 + n) (high : 0x80 + n ≤ p.high.toNat) :
    unitsFrom (some p) (UInt8.ofNat (0x80 + n) :: rest) =
      unitsFrom (some { value := p.value * 64 + n, more }) rest := by
  have value := byte_value (0x80 + n) (by omega)
  simp only [unitsFrom, step, byte_between p n small low high, pending, value,
    Nat.add_sub_cancel_left, ↓reduceIte, List.nil_append]

end Bytes

section Characters

variable (c : Char) (rest : Bytes)

theorem units_one_byte (small : c.toNat < 0x80) :
    unitsFrom none (UInt8.ofNat c.toNat :: rest) = some c :: unitsFrom none rest := by
  have value := byte_value c.toNat (by omega)
  simp only [unitsFrom, step, firstStep, value, small, Char.ofNat_toNat, ↓reduceIte,
    List.singleton_append]

theorem units_two_bytes (large : ¬ c.toNat < 0x80) (small : c.toNat < 0x800) :
    unitsFrom none (UInt8.ofNat (0xc0 + c.toNat / 64) :: UInt8.ofNat (0x80 + c.toNat % 64) :: rest) =
      some c :: unitsFrom none rest := by
  have lead := byte_value (0xc0 + c.toNat / 64) (by omega)
  have begun : firstStep (UInt8.ofNat (0xc0 + c.toNat / 64)) =
      { units := [], begun := some { value := c.toNat / 64, more := 0 } } := by
    rw [firstStep, lead, if_neg (by omega), if_neg (by omega), if_pos (by omega),
      Nat.add_sub_cancel_left]
  have whole : c.toNat / 64 * 64 + c.toNat % 64 = c.toNat := by omega
  rw [unitsFrom, step, begun, List.nil_append]
  rw [units_last_byte _ _ _ rfl (by omega) (by simp only [lowest_tail]; omega)
      (by simp only [highest_tail]; omega), whole,
    Char.ofNat_toNat]

/-- The bounds on the second byte leave out the surrogates, which no character is. -/
theorem units_three_bytes (large : ¬ c.toNat < 0x800) (small : c.toNat < 0x10000) :
    unitsFrom none (UInt8.ofNat (0xe0 + c.toNat / 4096) ::
      UInt8.ofNat (0x80 + c.toNat / 64 % 64) :: UInt8.ofNat (0x80 + c.toNat % 64) :: rest) =
      some c :: unitsFrom none rest := by
  have lead := byte_value (0xe0 + c.toNat / 4096) (by omega)
  have begun : firstStep (UInt8.ofNat (0xe0 + c.toNat / 4096)) =
      { units := []
        begun := some
          { value := c.toNat / 4096, more := 1
            low := if 0xe0 + c.toNat / 4096 == 0xe0 then 0xa0 else 0x80
            high := if 0xe0 + c.toNat / 4096 == 0xed then 0x9f else 0xbf } } := by
    rw [firstStep, lead, if_neg (by omega), if_neg (by omega), if_neg (by omega), if_pos (by omega),
      Nat.add_sub_cancel_left]
  have valid : c.toNat < 0xd800 ∨ 0xdfff < c.toNat := by
    rcases c.valid with below | above
    · exact Or.inl below
    · exact Or.inr above.1
  have low : (if 0xe0 + c.toNat / 4096 == 0xe0 then (0xa0 : UInt8) else 0x80).toNat ≤
      0x80 + c.toNat / 64 % 64 := by
    rw [lead_bound]
    change (if _ then 0xa0 else 0x80) ≤ _
    split <;> omega
  have high : 0x80 + c.toNat / 64 % 64 ≤
      (if 0xe0 + c.toNat / 4096 == 0xed then (0x9f : UInt8) else 0xbf).toNat := by
    rw [lead_bound]
    change _ ≤ if _ then 0x9f else 0xbf
    split <;> omega
  have whole : (c.toNat / 4096 * 64 + c.toNat / 64 % 64) * 64 + c.toNat % 64 = c.toNat := by omega
  rw [unitsFrom, step, begun, List.nil_append, units_next_byte _ 0 _ _ rfl (by omega) low high,
    units_last_byte _ _ _ rfl (by omega) (by simp only [lowest_tail]; omega)
      (by simp only [highest_tail]; omega),
    whole, Char.ofNat_toNat]

theorem units_four_bytes (large : ¬ c.toNat < 0x10000) :
    unitsFrom none (UInt8.ofNat (0xf0 + c.toNat / 262144) ::
      UInt8.ofNat (0x80 + c.toNat / 4096 % 64) :: UInt8.ofNat (0x80 + c.toNat / 64 % 64) ::
        UInt8.ofNat (0x80 + c.toNat % 64) :: rest) =
      some c :: unitsFrom none rest := by
  have small : c.toNat < 0x110000 := by
    rcases c.valid with below | above
    · exact Nat.lt_trans below (by decide)
    · exact above.2
  have lead := byte_value (0xf0 + c.toNat / 262144) (by omega)
  have begun : firstStep (UInt8.ofNat (0xf0 + c.toNat / 262144)) =
      { units := []
        begun := some
          { value := c.toNat / 262144, more := 2
            low := if 0xf0 + c.toNat / 262144 == 0xf0 then 0x90 else 0x80
            high := if 0xf0 + c.toNat / 262144 == 0xf4 then 0x8f else 0xbf } } := by
    rw [firstStep, lead, if_neg (by omega), if_neg (by omega), if_neg (by omega), if_neg (by omega),
      if_pos (by omega), Nat.add_sub_cancel_left]
  have low : (if 0xf0 + c.toNat / 262144 == 0xf0 then (0x90 : UInt8) else 0x80).toNat ≤
      0x80 + c.toNat / 4096 % 64 := by
    rw [lead_bound]
    change (if _ then 0x90 else 0x80) ≤ _
    split <;> omega
  have high : 0x80 + c.toNat / 4096 % 64 ≤
      (if 0xf0 + c.toNat / 262144 == 0xf4 then (0x8f : UInt8) else 0xbf).toNat := by
    rw [lead_bound]
    change _ ≤ if _ then 0x8f else 0xbf
    split <;> omega
  have whole : ((c.toNat / 262144 * 64 + c.toNat / 4096 % 64) * 64 + c.toNat / 64 % 64) * 64 +
      c.toNat % 64 = c.toNat := by omega
  rw [unitsFrom, step, begun, List.nil_append, units_next_byte _ 1 _ _ rfl (by omega) low high,
    units_next_byte _ 0 _ _ rfl (by omega) (by simp only [lowest_tail]; omega)
      (by simp only [highest_tail]; omega),
    units_last_byte _ _ _ rfl (by omega) (by simp only [lowest_tail]; omega)
      (by simp only [highest_tail]; omega),
    whole, Char.ofNat_toNat]

theorem units_char_bytes : unitsFrom none (charBytes c ++ rest) = some c :: unitsFrom none rest := by
  unfold charBytes
  simp only [Nat.div_one]
  split
  · next one => exact units_one_byte c rest one
  split
  · next large two => exact units_two_bytes c rest large two
  split
  · next large three => exact units_three_bytes c rest large three
  · next large => exact units_four_bytes c rest large

end Characters

theorem units_utf8 (cs : List Char) : units (utf8 cs) = cs.map some := by
  unfold units
  induction cs with
  | nil => rfl
  | cons c cs ih =>
      rw [utf8, List.flatMap_cons, units_char_bytes, List.map_cons]
      exact congrArg (List.cons (some c)) ih

theorem all_present_map (cs : List Char) : allPresent (cs.map some) = some cs := by
  induction cs with
  | nil => rfl
  | cons c cs ih => simp [allPresent, ih]

theorem of_utf8_exact (cs : List Char) : ofUtf8? (utf8 cs) = some cs := by
  rw [ofUtf8?, units_utf8, all_present_map]

section Found

theorem all_present_cons {u : Option Char} {rest : List (Option Char)} {cs : List Char}
    (present : allPresent (u :: rest) = some cs) :
    ∃ c more, u = some c ∧ allPresent rest = some more ∧ cs = c :: more := by
  cases u with
  | none => cases present
  | some c =>
      obtain ⟨more, found, rfl⟩ := Option.map_eq_some_iff.mp present
      exact ⟨c, more, rfl, found, rfl⟩

/-- A character that has begun goes on with a byte between its bounds, and may be done then. -/
theorem begun_next (p : Partial) (bytes : Bytes) (cs : List Char)
    (present : allPresent (unitsFrom (some p) bytes) = some cs) :
    ∃ b rest, bytes = b :: rest ∧ p.low.toNat ≤ b.toNat ∧ b.toNat ≤ p.high.toNat ∧
      ((p.more = 0 ∧ ∃ more, cs = Char.ofNat (p.value * 64 + (b.toNat - 0x80)) :: more ∧
          allPresent (unitsFrom none rest) = some more) ∨
        ∃ n, p.more = n + 1 ∧ allPresent (unitsFrom
          (some { value := p.value * 64 + (b.toNat - 0x80), more := n }) rest) = some cs) := by
  cases bytes with
  | nil => cases present
  | cons b rest =>
      rw [unitsFrom, step] at present
      dsimp only at present
      split at present
      · next inside =>
          rw [Bool.and_eq_true, decide_eq_true_eq, decide_eq_true_eq, UInt8.le_iff_toNat_le,
            UInt8.le_iff_toNat_le] at inside
          refine ⟨b, rest, rfl, inside.1, inside.2, ?_⟩
          cases pending : p.more with
          | zero =>
              rw [pending] at present
              obtain ⟨c, more, first, found, rfl⟩ := all_present_cons present
              exact .inl ⟨rfl, more, by rw [Option.some.inj first], found⟩
          | succ n =>
              rw [pending] at present
              exact .inr ⟨n, rfl, present⟩
      · obtain ⟨c, more, none, -⟩ := all_present_cons present
        cases none

section Numbers

theorem char_number (n : Nat) (valid : n.isValidChar) : (Char.ofNat n).toNat = n := by
  rw [Char.ofNat, dif_pos valid]
  rfl

theorem number_byte (b : UInt8) (n : Nat) (same : n = b.toNat) : UInt8.ofNat n = b := by
  rw [same, UInt8.ofNat_toNat]

variable (b₁ b₂ b₃ b₄ : UInt8)

theorem bytes_of_one (one : b₁.toNat < 0x80) : charBytes (Char.ofNat b₁.toNat) = [b₁] := by
  simp only [charBytes, char_number b₁.toNat (.inl (by omega)), one, ↓reduceIte, UInt8.ofNat_toNat]

theorem bytes_of_two (least : 0xc2 ≤ b₁.toNat) (most : b₁.toNat < 0xe0) (low₂ : 0x80 ≤ b₂.toNat)
    (high₂ : b₂.toNat ≤ 0xbf) :
    charBytes (Char.ofNat ((b₁.toNat - 0xc0) * 64 + (b₂.toNat - 0x80))) = [b₁, b₂] := by
  have number := char_number ((b₁.toNat - 0xc0) * 64 + (b₂.toNat - 0x80)) (.inl (by omega))
  simp only [charBytes, number]
  rw [if_neg (by omega), if_pos (by omega), number_byte b₁ _ (by omega), number_byte b₂ _ (by omega)]

theorem bytes_of_three (least : 0xe0 ≤ b₁.toNat) (most : b₁.toNat < 0xf0)
    (low₂ : (if b₁.toNat = 0xe0 then 0xa0 else 0x80) ≤ b₂.toNat)
    (high₂ : b₂.toNat ≤ if b₁.toNat = 0xed then 0x9f else 0xbf) (low₃ : 0x80 ≤ b₃.toNat)
    (high₃ : b₃.toNat ≤ 0xbf) :
    charBytes (Char.ofNat (((b₁.toNat - 0xe0) * 64 + (b₂.toNat - 0x80)) * 64 + (b₃.toNat - 0x80))) =
      [b₁, b₂, b₃] := by
  have tail : 0x80 ≤ b₂.toNat ∧ b₂.toNat ≤ 0xbf := by
    split at low₂ <;> split at high₂ <;> omega
  -- without the two bounds the number would be that of a shorter form, or of a surrogate
  have long : b₁.toNat = 0xe0 → 0xa0 ≤ b₂.toNat := fun same => by simpa [same] using low₂
  have real : b₁.toNat = 0xed → b₂.toNat ≤ 0x9f := fun same => by simpa [same] using high₂
  have number := char_number (((b₁.toNat - 0xe0) * 64 + (b₂.toNat - 0x80)) * 64 + (b₃.toNat - 0x80))
    (by unfold Nat.isValidChar; omega)
  simp only [charBytes, number]
  rw [if_neg (by omega), if_neg (by omega), if_pos (by omega), number_byte b₁ _ (by omega),
    number_byte b₂ _ (by omega), number_byte b₃ _ (by omega)]

theorem bytes_of_four (least : 0xf0 ≤ b₁.toNat) (most : b₁.toNat < 0xf5)
    (low₂ : (if b₁.toNat = 0xf0 then 0x90 else 0x80) ≤ b₂.toNat)
    (high₂ : b₂.toNat ≤ if b₁.toNat = 0xf4 then 0x8f else 0xbf) (low₃ : 0x80 ≤ b₃.toNat)
    (high₃ : b₃.toNat ≤ 0xbf) (low₄ : 0x80 ≤ b₄.toNat) (high₄ : b₄.toNat ≤ 0xbf) :
    charBytes (Char.ofNat ((((b₁.toNat - 0xf0) * 64 + (b₂.toNat - 0x80)) * 64 + (b₃.toNat - 0x80)) * 64 +
      (b₄.toNat - 0x80))) = [b₁, b₂, b₃, b₄] := by
  have tail : 0x80 ≤ b₂.toNat ∧ b₂.toNat ≤ 0xbf := by
    split at low₂ <;> split at high₂ <;> omega
  have long : b₁.toNat = 0xf0 → 0x90 ≤ b₂.toNat := fun same => by simpa [same] using low₂
  have real : b₁.toNat = 0xf4 → b₂.toNat ≤ 0x8f := fun same => by simpa [same] using high₂
  have number := char_number ((((b₁.toNat - 0xf0) * 64 + (b₂.toNat - 0x80)) * 64 +
    (b₃.toNat - 0x80)) * 64 + (b₄.toNat - 0x80)) (by unfold Nat.isValidChar; omega)
  simp only [charBytes, number]
  rw [if_neg (by omega), if_neg (by omega), if_neg (by omega), number_byte b₁ _ (by omega),
    number_byte b₂ _ (by omega), number_byte b₃ _ (by omega), number_byte b₄ _ (by omega)]

end Numbers

/-- Where bytes are text, its first character is written as the first of them. -/
theorem first_character (b₁ : UInt8) (bytes : Bytes) (cs : List Char)
    (present : allPresent (unitsFrom none (b₁ :: bytes)) = some cs) :
    ∃ c more rest, cs = c :: more ∧ b₁ :: bytes = charBytes c ++ rest ∧
      allPresent (unitsFrom none rest) = some more := by
  rw [unitsFrom, step, firstStep] at present
  split at present
  · next one =>
      obtain ⟨c, more, first, found, rfl⟩ := all_present_cons present
      obtain rfl := Option.some.inj first
      exact ⟨_, more, bytes, rfl, by rw [bytes_of_one b₁ one]; rfl, found⟩
  split at present
  · obtain ⟨c, more, none, -⟩ := all_present_cons present
    cases none
  split at present
  · next least most =>
      obtain ⟨b₂, rest, rfl, low, high, ⟨-, more, rfl, found⟩ | ⟨n, pending, -⟩⟩ :=
        begun_next _ _ _ present
      · exact ⟨_, more, rest, rfl, by rw [bytes_of_two b₁ b₂ (by omega) most low high]; rfl, found⟩
      · cases pending
  split at present
  · next least most =>
      obtain ⟨b₂, rest, rfl, low₂, high₂, ⟨pending, -⟩ | ⟨n, pending, present⟩⟩ :=
        begun_next _ _ _ present
      · cases pending
      cases pending
      rw [lead_bound] at low₂ high₂
      obtain ⟨b₃, rest, rfl, low₃, high₃, ⟨-, more, rfl, found⟩ | ⟨n, pending, -⟩⟩ :=
        begun_next _ _ _ present
      · refine ⟨_, more, rest, rfl, ?_, found⟩
        rw [bytes_of_three b₁ b₂ b₃ (by omega) most low₂ high₂ low₃ high₃]
        rfl
      · cases pending
  split at present
  · next least most =>
      obtain ⟨b₂, rest, rfl, low₂, high₂, ⟨pending, -⟩ | ⟨n, pending, present⟩⟩ :=
        begun_next _ _ _ present
      · cases pending
      cases pending
      rw [lead_bound] at low₂ high₂
      obtain ⟨b₃, rest, rfl, low₃, high₃, ⟨pending, -⟩ | ⟨n, pending, present⟩⟩ :=
        begun_next _ _ _ present
      · cases pending
      cases pending
      obtain ⟨b₄, rest, rfl, low₄, high₄, ⟨-, more, rfl, found⟩ | ⟨n, pending, -⟩⟩ :=
        begun_next _ _ _ present
      · refine ⟨_, more, rest, rfl, ?_, found⟩
        rw [bytes_of_four b₁ b₂ b₃ b₄ (by omega) most low₂ high₂ low₃ high₃ low₄ high₄]
        rfl
      · cases pending
  · obtain ⟨c, more, none, -⟩ := all_present_cons present
    cases none

/-- Bytes that read as a text are the bytes of the text. -/
theorem bytes_found (bytes : Bytes) (cs : List Char) (found : ofUtf8? bytes = some cs) :
    bytes = utf8 cs := by
  induction cs generalizing bytes with
  | nil =>
      cases bytes with
      | nil => rfl
      | cons b bytes =>
          obtain ⟨c, more, rest, none, -⟩ := first_character b bytes [] found
          cases none
  | cons c cs ih =>
      cases bytes with
      | nil => cases found
      | cons b bytes =>
          obtain ⟨c', more, rest, same, bytes, found⟩ := first_character b bytes (c :: cs) found
          cases same
          rw [bytes, ih rest found]
          rfl

theorem of_utf8_iff (bytes : Bytes) (cs : List Char) : ofUtf8? bytes = some cs ↔ bytes = utf8 cs :=
  ⟨bytes_found bytes cs, fun same => same ▸ of_utf8_exact cs⟩

end Found

end CodeReview.Text

import CodeReview.Coverage.Table
import CodeReview.Proofs.Text.Leading

/-!
The rows of a coverage table as they are cut into columns. For each reader of a part there is a lemma that
it reads the part whatever stands behind it, and one that nothing else is read. A line is a row with missing
lines exactly when it can be cut into the columns of one.
-/

namespace CodeReview.Coverage

open Text

structure Spacing where
  text : List Char
  some_ : text ≠ []
  blanks : Blanks text

structure Digits where
  text : List Char
  some_ : text ≠ []
  each : ∀ c ∈ text, isDecimalDigit c = true

structure Percentage where
  whole : Digits
  fraction : Option Digits

namespace Percentage

def places (p : Percentage) : List Char :=
  match p.fraction with
  | none => []
  | some fraction => fraction.text

def text (p : Percentage) : List Char :=
  p.whole.text ++
    match p.fraction with
    | none => ['%']
    | some fraction => '.' :: (fraction.text ++ ['%'])

def Ascii (p : Percentage) : Prop := ∀ c ∈ p.whole.text ++ p.places, c.isDigit = true

instance (p : Percentage) : Decidable p.Ascii := List.decidableBAll ..

def value (p : Percentage) : Decimal.Double :=
  Decimal.nearest (Nat.ofDigitChars 10 (p.whole.text ++ p.places) 0) p.places.length

def value? (p : Percentage) : Option Decimal.Double := if p.Ascii then some p.value else none

end Percentage

structure NumberColumns where
  beforeStatements : Spacing
  statements : Digits
  beforeMissed : Spacing
  missed : Digits
  beforePercentage : Spacing
  percentage : Percentage

def NumberColumns.text (n : NumberColumns) : List Char :=
  n.beforeStatements.text ++ (n.statements.text ++ (n.beforeMissed.text ++ (n.missed.text ++
    (n.beforePercentage.text ++ n.percentage.text))))

structure MissingColumn where
  before : Spacing
  text : List Char
  begins : ∃ c ∈ text.head?, isBlank c = false

structure TableRow where
  name : List Char
  some_ : name ≠ []
  solid : ∀ c ∈ name, isBlank c = false
  numbers : NumberColumns
  /-- Nothing when no lines were missed. -/
  missing : Option MissingColumn

namespace TableRow

def text (r : TableRow) : List Char :=
  r.name ++ (r.numbers.text ++
    match r.missing with
    | none => []
    | some m => m.before.text ++ m.text)

def row? (r : TableRow) : Option Row := r.missing.map fun m => { name := r.name, missing := m.text }

end TableRow

section Parts

theorem no_blank (cs : List Char) (none : cs.any isBlank = false) : ∀ c ∈ cs, isBlank c = false := by
  simpa using none

theorem spacing_read (s : Spacing) (rest : List Char) (solid : ∀ c ∈ rest.head?, isBlank c = false) :
    afterBlanks? (s.text ++ rest) = some rest := by
  obtain ⟨c, text, same⟩ := List.exists_cons_of_ne_nil s.some_
  rw [afterBlanks?, span_lead s.blanks solid, same]

theorem spacing_found (cs rest : List Char) (found : afterBlanks? cs = some rest) :
    ∃ s : Spacing, cs = s.text ++ rest ∧ ∀ c ∈ rest.head?, isBlank c = false := by
  rw [afterBlanks?] at found
  split at found
  · cases found
  · next lead after some_ spans =>
      cases found
      obtain ⟨whole, blanks, stops⟩ := span_parts spans
      exact ⟨⟨lead, some_, blanks⟩, whole, stops⟩

theorem spacing_head (s : Spacing) (rest : List Char) :
    ∀ c ∈ (s.text ++ rest).head?, isBlank c = true ∧ isDecimalDigit c = false := by
  intro c first
  rw [List.head?_append_of_ne_nil _ s.some_] at first
  have blank := s.blanks c (List.mem_of_mem_head? first)
  exact ⟨blank, blank_no_digit c blank⟩

theorem digits_read (d : Digits) (rest : List Char) (stops : ∀ c ∈ rest.head?, isDecimalDigit c = false) :
    digits? (d.text ++ rest) = some (d.text, rest) := by
  obtain ⟨c, text, same⟩ := List.exists_cons_of_ne_nil d.some_
  rw [digits?, span_lead d.each stops, same]

theorem digits_found (cs digits rest : List Char) (found : digits? cs = some (digits, rest)) :
    ∃ d : Digits, d.text = digits ∧ cs = d.text ++ rest := by
  rw [digits?] at found
  split at found
  · cases found
  · next some_ =>
      obtain ⟨whole, each, -⟩ := span_parts (Option.some.inj found)
      refine ⟨⟨digits, ?_, each⟩, rfl, whole⟩
      rintro rfl
      exact some_ rest (Option.some.inj found)

theorem digits_head (d : Digits) (rest : List Char) : ∀ c ∈ (d.text ++ rest).head?, isBlank c = false := by
  intro c first
  rw [List.head?_append_of_ne_nil _ d.some_] at first
  have digit := d.each c (List.mem_of_mem_head? first)
  by_contra blank
  rw [blank_no_digit c (Bool.not_eq_false _ ▸ blank)] at digit
  cases digit

theorem percentage_read (p : Percentage) (rest : List Char) :
    percentage? (p.text ++ rest) = some (p.whole.text, p.places, rest) := by
  obtain ⟨whole, fraction⟩ := p
  cases fraction with
  | none =>
      have sign : digits? (whole.text ++ '%' :: rest) = some (whole.text, '%' :: rest) :=
        digits_read whole _ (by rintro _ ⟨⟩; rfl)
      simp [percentage?, Percentage.text, Percentage.places, sign]
  | some fraction =>
      have point : digits? (whole.text ++ '.' :: (fraction.text ++ '%' :: rest)) =
          some (whole.text, '.' :: (fraction.text ++ '%' :: rest)) :=
        digits_read whole _ (by rintro _ ⟨⟩; rfl)
      have sign : digits? (fraction.text ++ '%' :: rest) = some (fraction.text, '%' :: rest) :=
        digits_read fraction _ (by rintro _ ⟨⟩; rfl)
      simp [percentage?, Percentage.text, Percentage.places, point, sign]

theorem percentage_found (cs whole places rest : List Char)
    (found : percentage? cs = some (whole, places, rest)) :
    ∃ p : Percentage, p.whole.text = whole ∧ p.places = places ∧ cs = p.text ++ rest := by
  obtain ⟨⟨digits, behind⟩, first, tail⟩ := Option.bind_eq_some_iff.mp found
  obtain ⟨d, rfl, rfl⟩ := digits_found _ _ _ first
  dsimp only at tail
  split at tail
  · cases tail
    exact ⟨⟨d, none⟩, rfl, rfl, by simp [Percentage.text]⟩
  · obtain ⟨⟨more, last⟩, second, ends⟩ := Option.bind_eq_some_iff.mp tail
    obtain ⟨fraction, rfl, rfl⟩ := digits_found _ _ _ second
    split at ends
    · next same =>
        cases ends
        obtain ⟨rfl, rfl⟩ := Prod.mk.inj same
        exact ⟨⟨d, some fraction⟩, rfl, rfl, by simp [Percentage.text]⟩
    · cases ends
  · cases tail

theorem percentage_head (p : Percentage) (rest : List Char) :
    ∀ c ∈ (p.text ++ rest).head?, isBlank c = false := by
  rw [Percentage.text, List.append_assoc]
  exact digits_head p.whole _

theorem percentage_last (p : Percentage) : p.text.getLast? = some '%' := by
  obtain ⟨whole, fraction⟩ := p
  cases fraction with
  | none => exact List.getLast?_concat
  | some fraction =>
      have text : (Percentage.mk whole (some fraction)).text =
          (whole.text ++ '.' :: fraction.text) ++ ['%'] := by simp [Percentage.text]
      rw [text]
      exact List.getLast?_concat

end Parts

section Columns

theorem number_columns_read (n : NumberColumns) (rest : List Char) :
    numberColumns? (n.text ++ rest) = some (n.percentage.whole.text, n.percentage.places, rest) := by
  have counts (s : Spacing) (d : Digits) (behind : Spacing) (rest : List Char) :
      afterBlanks? (s.text ++ (d.text ++ (behind.text ++ rest))) = some (d.text ++ (behind.text ++ rest)) ∧
        digits? (d.text ++ (behind.text ++ rest)) = some (d.text, behind.text ++ rest) :=
    ⟨spacing_read s _ (digits_head d _), digits_read d _ fun c first => (spacing_head behind rest c first).2⟩
  obtain ⟨statements, statements'⟩ := counts n.beforeStatements n.statements n.beforeMissed
    (n.missed.text ++ (n.beforePercentage.text ++ (n.percentage.text ++ rest)))
  obtain ⟨missed, missed'⟩ := counts n.beforeMissed n.missed n.beforePercentage (n.percentage.text ++ rest)
  have percent := spacing_read n.beforePercentage _ (percentage_head n.percentage rest)
  simp only [numberColumns?, NumberColumns.text, List.append_assoc, statements, statements', missed, missed',
    percent, percentage_read, Option.bind_eq_bind, Option.bind_some]

theorem number_columns_found (cs whole places rest : List Char)
    (found : numberColumns? cs = some (whole, places, rest)) :
    ∃ n : NumberColumns, n.percentage.whole.text = whole ∧ n.percentage.places = places ∧
      cs = n.text ++ rest := by
  simp only [numberColumns?, Option.bind_eq_bind, Option.bind_eq_some_iff] at found
  obtain ⟨_, first, ⟨_, _⟩, second, _, third, ⟨_, _⟩, fourth, _, fifth, percent⟩ := found
  obtain ⟨beforeStatements, rfl, -⟩ := spacing_found _ _ first
  obtain ⟨statements, -, rfl⟩ := digits_found _ _ _ second
  obtain ⟨beforeMissed, rfl, -⟩ := spacing_found _ _ third
  obtain ⟨missed, -, rfl⟩ := digits_found _ _ _ fourth
  obtain ⟨beforePercentage, rfl, -⟩ := spacing_found _ _ fifth
  obtain ⟨percentage, rfl, rfl, rfl⟩ := percentage_found _ _ _ _ percent
  exact ⟨⟨beforeStatements, statements, beforeMissed, missed, beforePercentage, percentage⟩, rfl, rfl,
    by simp [NumberColumns.text]⟩

theorem number_columns_head (n : NumberColumns) (rest : List Char) :
    ∀ c ∈ (n.text ++ rest).head?, isBlank c = true := by
  intro c first
  rw [NumberColumns.text, List.append_assoc] at first
  exact (spacing_head n.beforeStatements _ c first).1

theorem number_columns_last (n : NumberColumns) : n.text.getLast? = some '%' := by
  simp [NumberColumns.text, List.getLast?_append, percentage_last]

theorem number_columns_characters (n : NumberColumns) (c : Char) (member : c ∈ n.text) :
    isBlank c = true ∨ isDecimalDigit c = true ∨ c = '.' ∨ c = '%' := by
  have blank (s : Spacing) (inside : c ∈ s.text) := s.blanks c inside
  have digit (d : Digits) (inside : c ∈ d.text) := d.each c inside
  obtain ⟨s, d, s', d', s'', whole, fraction⟩ := n
  cases fraction <;>
    simp only [NumberColumns.text, Percentage.text, List.mem_append, List.mem_cons,
      List.not_mem_nil, or_false] at member
  · grind
  · grind

end Columns

section Rows

theorem table_row_read (r : TableRow) : Coverage.row? r.text = r.row? := by
  have plain : ∀ c ∈ r.name, (!isBlank c) = true := fun c member => by rw [r.solid c member]; rfl
  have stops (rest : List Char) : ∀ c ∈ (r.numbers.text ++ rest).head?, (!isBlank c) = false :=
    fun c first => by rw [number_columns_head r.numbers rest c first]; rfl
  obtain ⟨c, name, same⟩ := List.exists_cons_of_ne_nil r.some_
  rw [Coverage.row?, TableRow.text, span_lead plain (stops _), TableRow.row?]
  rw [same]
  cases r.missing with
  | none =>
      simp only [number_columns_read, Option.bind_eq_bind, Option.bind_some]
      rfl
  | some m =>
      have begins : ∀ c ∈ m.text.head?, isBlank c = false := by
        obtain ⟨d, first, solid⟩ := m.begins
        rw [first]
        rintro _ ⟨⟩
        exact solid
      have filled : m.text.isEmpty = false := by
        obtain ⟨d, first, -⟩ := m.begins
        cases text : m.text with
        | nil => simp [text] at first
        | cons d rest => rfl
      simp only [number_columns_read, spacing_read m.before m.text begins, Option.bind_eq_bind,
        Option.bind_some, filled, Bool.false_eq_true, if_false, Option.map_some]

/-- What is read was a row with missing lines. -/
theorem table_row_found (line : List Char) (row : Row) (found : Coverage.row? line = some row) :
    ∃ r : TableRow, r.text = line ∧ r.row? = some row := by
  rw [Coverage.row?] at found
  split at found
  · cases found
  · next name rest some_ spans =>
      obtain ⟨rfl, solid, -⟩ := span_parts spans
      simp only [Option.bind_eq_bind, Option.bind_eq_some_iff] at found
      obtain ⟨⟨_, _, _⟩, numbers, missing, before, ends⟩ := found
      obtain ⟨n, -, -, rfl⟩ := number_columns_found _ _ _ _ numbers
      obtain ⟨s, rfl, begins⟩ := spacing_found _ _ before
      cases missing with
      | nil => cases ends
      | cons c text =>
          cases ends
          refine ⟨⟨name, some_, fun c member => by simpa using solid c member, n,
            some ⟨s, c :: text, c, rfl, begins c rfl⟩⟩, rfl, rfl⟩

/-- A line is read as a row exactly when it can be cut into the columns of one. -/
theorem table_row_iff (line : List Char) (row : Row) :
    Coverage.row? line = some row ↔ ∃ r : TableRow, r.text = line ∧ r.row? = some row := by
  constructor
  · exact table_row_found line row
  · rintro ⟨r, rfl, told⟩
    rw [table_row_read, told]

end Rows

end CodeReview.Coverage

import CodeReview.Proofs.Coverage.TableRow
import CodeReview.Proofs.Text.Lines

/-!
The percentage of a coverage table. It is looked for in the whole text, so it is that of the first place
where the letters of the total have number columns behind them. When that place is the front of a line, the
line is the first row of the total.
-/

namespace CodeReview.Coverage

open Text

section Marks

/-- The letters of the total with number columns behind them, wherever they stand. -/
def Mark (cs before : List Char) (n : NumberColumns) : Prop :=
  ∃ after, cs = before ++ (totalWord ++ (n.text ++ after))

structure FirstMark (cs before : List Char) (n : NumberColumns) : Prop where
  mark : Mark cs before n
  first : ∀ other m, Mark cs other m → before.length ≤ other.length

theorem mark_shorter {cs before : List Char} {n : NumberColumns} (mark : Mark cs before n) :
    before.length < cs.length := by
  obtain ⟨after, rfl⟩ := mark
  simp [totalWord]

theorem mark_front {cs before : List Char} {n : NumberColumns} (mark : Mark cs before n)
    (rest : List Char) : Mark (cs ++ rest) before n := by
  obtain ⟨after, rfl⟩ := mark
  exact ⟨after ++ rest, by simp⟩

theorem mark_here (cs : List Char) (n : NumberColumns) (mark : Mark cs [] n) :
    ∃ after, (dropLead? cs totalWord).bind numberColumns? =
      some (n.percentage.whole.text, n.percentage.places, after) := by
  obtain ⟨after, rfl⟩ := mark
  exact ⟨after, by rw [List.nil_append, drop_lead, Option.bind_some, number_columns_read]⟩

theorem mark_cons (c : Char) (cs : List Char) (before : List Char) (n : NumberColumns) :
    Mark (c :: cs) (c :: before) n ↔ Mark cs before n := by
  simp [Mark]

/-- The search stops at the first mark, and finds nothing only where there is none. -/
theorem total_search (cs : List Char) :
    (∃ before n, FirstMark cs before n ∧
        total? cs = some (n.percentage.whole.text, n.percentage.places)) ∨
      (∀ before n, ¬ Mark cs before n) ∧ total? cs = none := by
  induction cs with
  | nil => exact .inr ⟨fun before n mark => absurd (mark_shorter mark) (Nat.not_lt_zero _), rfl⟩
  | cons c cs ih =>
      rw [total?]
      cases read : (dropLead? (c :: cs) totalWord).bind numberColumns? with
      | some found =>
          obtain ⟨whole, places, after⟩ := found
          obtain ⟨behind, word, numbers⟩ := Option.bind_eq_some_iff.mp read
          obtain ⟨n, rfl, rfl, rfl⟩ := number_columns_found _ _ _ _ numbers
          exact .inl ⟨[], n, ⟨⟨after, dropped_lead _ totalWord _ word⟩, fun _ _ _ => Nat.zero_le _⟩, rfl⟩
      | none =>
          -- a mark further on is one of the rest, as there is none here
          have later (other : List Char) (m : NumberColumns) (mark : Mark (c :: cs) other m) :
              ∃ rest, other = c :: rest ∧ Mark cs rest m := by
            cases other with
            | nil =>
                obtain ⟨after, here⟩ := mark_here _ m mark
                rw [read] at here
                cases here
            | cons d rest =>
                obtain ⟨after, same⟩ := mark
                obtain ⟨rfl, tails⟩ := List.cons.inj same
                exact ⟨rest, rfl, after, tails⟩
          rcases ih with ⟨before, n, ⟨mark, first⟩, found⟩ | ⟨absent, found⟩
          · refine .inl ⟨c :: before, n, ⟨(mark_cons c cs before n).mpr mark, ?_⟩, found⟩
            intro other m there
            obtain ⟨rest, rfl, behind⟩ := later other m there
            exact Nat.succ_le_succ (first rest m behind)
          · refine .inr ⟨?_, found⟩
            intro before n there
            obtain ⟨rest, -, behind⟩ := later before n there
            exact absent rest n behind

/-- Number columns at the same place have the same percentage. -/
theorem first_mark_same {cs before other : List Char} {n m : NumberColumns}
    (first : FirstMark cs before n) (again : FirstMark cs other m) :
    n.percentage.whole.text = m.percentage.whole.text ∧ n.percentage.places = m.percentage.places := by
  obtain ⟨after, same⟩ := first.mark
  obtain ⟨after', same'⟩ := again.mark
  have lengths := Nat.le_antisymm (first.first other m again.mark) (again.first before n first.mark)
  obtain ⟨-, rests⟩ := List.append_inj (same.symm.trans same') lengths
  have columns := congrArg numberColumns? (List.append_cancel_left rests)
  rw [number_columns_read, number_columns_read] at columns
  obtain ⟨whole, places, -⟩ : _ ∧ _ ∧ _ := by simpa using columns
  exact ⟨whole, places⟩

theorem percent_value (p : Percentage) : percentValue? p.whole.text p.places = p.value? := by
  have spelled : digitsValue (p.whole.text ++ p.places) = Nat.ofDigitChars 10 (p.whole.text ++ p.places) 0 := by
    simp [digitsValue, Nat.ofDigitChars, Nat.mul_comm]
  rw [percentValue?, Percentage.value?, Percentage.value, spelled]
  refine if_congr ?_ rfl rfl
  exact List.all_eq_true

end Marks

section Totals

def TotalRow (line : List Char) (n : NumberColumns) : Prop :=
  ∃ after, trim line = totalWord ++ (n.text ++ after)

inductive FirstTotal : List (List Char) → Option Decimal.Double → Prop
  | none : FirstTotal [] none
  | taken {line n rest} : TotalRow line n → FirstTotal (line :: rest) n.percentage.value?
  | passed {line rest found} : (∀ n, ¬ TotalRow line n) → FirstTotal rest found →
      FirstTotal (line :: rest) found

/-- What stands before it on its line is white space, and its columns are on that line. -/
def LeadsLine (before : List Char) (n : NumberColumns) : Prop :=
  ∃ front gap, before = front ++ gap ∧ WholeLines front ∧ Blanks gap ∧ '\n' ∉ gap ∧ '\n' ∉ n.text

theorem total_word_plain : ∀ c ∈ totalWord, isBlank c = false ∧ isDecimalDigit c = false ∧
    c ≠ '.' ∧ c ≠ '%' := by
  intro c member
  have letters : c = 'T' ∨ c = 'O' ∨ c = 'T' ∨ c = 'A' ∨ c = 'L' := by simpa [totalWord] using member
  rcases letters with rfl | rfl | rfl | rfl | rfl <;> decide

/-- A row of the total among the lines is a mark in the text. -/
theorem total_row_mark (cs line : List Char) (n : NumberColumns) (among : line ∈ lines cs)
    (row : TotalRow line n) : ∃ before, Mark cs before n := by
  obtain ⟨first, rest, split⟩ := List.append_of_mem among
  obtain ⟨before, after, rfl, -, -⟩ := lines_place cs first line rest split
  obtain ⟨behind, trims⟩ := row
  obtain ⟨cut, whole⟩ := trim_end_front (trimStart line)
  have parts : line = line.takeWhile isBlank ++ trimStart line :=
    (List.takeWhile_append_dropWhile ..).symm
  rw [← trim, trims] at whole
  refine ⟨before ++ line.takeWhile isBlank, behind ++ (cut ++ after), ?_⟩
  conv_lhs => rw [parts, ← whole]
  simp

theorem first_total_none (all : List (List Char)) (absent : ∀ line ∈ all, ∀ n, ¬ TotalRow line n) :
    FirstTotal all none := by
  induction all with
  | nil => exact .none
  | cons line rest ih =>
      exact .passed (absent line List.mem_cons_self)
        (ih fun l member => absent l (List.mem_cons_of_mem line member))

theorem first_total_taken (first : List (List Char)) (line : List Char) (rest : List (List Char))
    (n : NumberColumns) (absent : ∀ line ∈ first, ∀ n, ¬ TotalRow line n) (row : TotalRow line n) :
    FirstTotal (first ++ line :: rest) n.percentage.value? := by
  induction first with
  | nil => exact .taken row
  | cons other first ih =>
      exact .passed (absent other List.mem_cons_self)
        (ih fun l member => absent l (List.mem_cons_of_mem other member))

/-- Number columns behind the word at the front of a line make it a row of the total. -/
theorem front_total_row (gap tail : List Char) (n : NumberColumns) (blanks : Blanks gap) :
    TotalRow (gap ++ (totalWord ++ n.text) ++ tail) n := by
  have begins : ∃ c ∈ (totalWord ++ n.text).head?, isBlank c = false := ⟨'T', rfl, rfl⟩
  have starts : trimStart (totalWord ++ n.text ++ tail) = totalWord ++ n.text ++ tail :=
    trim_start_head (by rintro _ ⟨⟩; rfl)
  have ends : trimStart (totalWord ++ n.text).reverse = (totalWord ++ n.text).reverse := by
    apply trim_start_head
    rw [List.head?_reverse, List.getLast?_append, number_columns_last]
    rintro _ ⟨⟩
    rfl
  rw [TotalRow, List.append_assoc, trim_before blanks, trim, starts, trimEnd, List.reverse_append,
    trimStart, List.dropWhile_append]
  split
  · exact ⟨[], by rw [← trimStart, ends]; simp⟩
  · exact ⟨(tail.reverse.dropWhile isBlank).reverse, by simp⟩

/-- When the first mark leads its line, that line is the first row of the total. -/
theorem first_mark_total (cs before : List Char) (n : NumberColumns) (first : FirstMark cs before n)
    (leads : LeadsLine before n) : FirstTotal (lines cs) n.percentage.value? := by
  obtain ⟨front, gap, rfl, whole, blanks, oneGap, oneRow⟩ := leads
  obtain ⟨after, rfl⟩ := first.mark
  have one : '\n' ∉ gap ++ (totalWord ++ n.text) := by simp [oneGap, oneRow, totalWord]
  have ends : (gap ++ (totalWord ++ n.text)).getLast? = some '%' := by
    rw [← List.append_assoc, List.getLast?_append, number_columns_last]
    rfl
  obtain ⟨tail, more, split⟩ := lines_front (gap ++ (totalWord ++ n.text)) after one (by simp [totalWord])
    (by rw [ends]; rintro _ ⟨⟩; rfl)
  have text : front ++ gap ++ (totalWord ++ (n.text ++ after)) =
      front ++ (gap ++ (totalWord ++ n.text) ++ after) := by simp
  rw [text] at first ⊢
  rw [lines_append front _ whole, split]
  apply first_total_taken _ _ _ _ _ (front_total_row gap tail n blanks)
  intro line among m row
  -- a row of the total further up would be a mark before the first one
  obtain ⟨other, mark⟩ := total_row_mark front line m among row
  have later := first.first other m (mark_front mark _)
  have shorter := mark_shorter mark
  simp only [List.length_append] at later
  omega

end Totals

end CodeReview.Coverage

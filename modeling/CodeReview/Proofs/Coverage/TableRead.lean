import CodeReview.Proofs.Coverage.TableTotal

/-!
What is read of the output of a coverage run. Every line is read for itself: a row adds its missing lines
unless its name has the letters of the total in it. A table that has them only where its last row begins is
read back as it was written.
-/

namespace CodeReview.Coverage

open Text

section Entries

def entryOf? (line : List Char) : Option String :=
  (row? (trim line)).bind fun row => if contains row.name totalWord then none else some row.text

def TableRow.entry? (r : TableRow) : Option String :=
  r.missing.map fun m => String.ofList (r.name ++ ':' :: ' ' :: m.text)

def RowShaped (line : List Char) : Prop := ∃ r : TableRow, r.text = trim line ∧ r.missing ≠ none

/-- The entries of the lines that are rows with missing lines, as far as their names are kept. -/
inductive Listed (keep : List Char → Prop) : List (List Char) → List String → Prop
  | done : Listed keep [] []
  | taken {line rest entry found} (r : TableRow) : r.text = trim line → r.entry? = some entry →
      keep r.name → Listed keep rest found → Listed keep (line :: rest) (entry :: found)
  | passed {line rest found} :
      (∀ r : TableRow, r.text = trim line → r.missing ≠ none → ¬ keep r.name) →
        Listed keep rest found → Listed keep (line :: rest) found

theorem missing_lines_each (output : String) :
    (parseTable output).missingLines = (lines output.toList).filterMap entryOf? := by
  have each (all : List (List Char)) :
      (((all.filterMap fun line => row? (trim line)).filter fun r =>
        !contains r.name totalWord).map Row.text) = all.filterMap entryOf? := by
    induction all with
    | nil => rfl
    | cons line rest ih =>
        rw [List.filterMap_cons, List.filterMap_cons, entryOf?]
        cases read : row? (trim line) with
        | none => exact ih
        | some row =>
            dsimp only [Option.bind_some]
            rw [List.filter_cons]
            cases contains row.name totalWord with
            | true => exact ih
            | false => exact congrArg (List.cons row.text) ih
  exact each _

theorem missing_last (r : TableRow) (m : MissingColumn) (missing : r.missing = some m) :
    r.text.getLast? = m.text.getLast? := by
  obtain ⟨c, first, -⟩ := m.begins
  have some_ : m.text ≠ [] := by
    intro none
    rw [none] at first
    cases first
  simp only [TableRow.text, missing, List.getLast?_append_of_ne_nil _ some_, ← List.append_assoc]

theorem row_entry (r : TableRow) (solid : Solid r.text) :
    r.row?.map Row.text = r.entry? := by
  rw [TableRow.row?, TableRow.entry?, Option.map_map]
  cases missing : r.missing with
  | none => rfl
  | some m =>
      have text : Solid m.text := by
        refine ⟨?_, ?_⟩
        · obtain ⟨c, first, plain⟩ := m.begins
          rw [first]
          rintro _ ⟨⟩
          exact plain
        · rw [← missing_last r m missing]
          exact solid.2
      simp only [Option.map_some, Function.comp_apply, Row.text, trim_solid text]

theorem line_entry_letters (line : List Char) (r : TableRow) (text : r.text = trim line)
    (letters : totalWord <:+: r.name) : entryOf? line = none := by
  rw [entryOf?, ← text, table_row_read, TableRow.row?]
  cases r.missing with
  | none => rfl
  | some m => simp [contains_iff, letters]

theorem line_entry_row (line : List Char) (r : TableRow) (text : r.text = trim line)
    (clear : ¬ totalWord <:+: r.name) : entryOf? line = r.entry? := by
  have solid : Solid r.text := text ▸ solid_trim line
  rw [entryOf?, ← text, table_row_read, ← row_entry r solid, TableRow.row?]
  cases r.missing with
  | none => rfl
  | some m => simp [contains_iff, clear]

theorem row_shaped_iff (line : List Char) : RowShaped line ↔ (row? (trim line)).isSome = true := by
  rw [Option.isSome_iff_exists]
  simp only [table_row_iff]
  constructor
  · rintro ⟨r, text, filled⟩
    obtain ⟨m, missing⟩ := Option.ne_none_iff_exists'.mp filled
    exact ⟨_, r, text, by rw [TableRow.row?, missing]; rfl⟩
  · rintro ⟨row, r, text, told⟩
    refine ⟨r, text, fun none => ?_⟩
    rw [TableRow.row?, none] at told
    cases told

instance (line : List Char) : Decidable (RowShaped line) :=
  decidable_of_iff _ (row_shaped_iff line).symm

theorem line_entry_none (line : List Char) (shapeless : ¬ RowShaped line) : entryOf? line = none := by
  rw [row_shaped_iff, Bool.not_eq_true, Option.isSome_eq_false_iff, Option.isNone_iff_eq_none] at shapeless
  rw [entryOf?, shapeless, Option.bind_none]

theorem entries_listed (all : List (List Char)) :
    Listed (fun name => ¬ totalWord <:+: name) all (all.filterMap entryOf?) := by
  induction all with
  | nil => exact .done
  | cons line rest ih =>
      rw [List.filterMap_cons]
      cases read : entryOf? line with
      | none =>
          refine .passed ?_ ih
          intro r text filled kept
          rw [line_entry_row line r text kept, TableRow.entry?, Option.map_eq_none_iff] at read
          exact filled read
      | some entry =>
          obtain ⟨r, text, -⟩ : RowShaped line := by
            by_contra shapeless
            rw [line_entry_none line shapeless] at read
            cases read
          by_cases letters : totalWord <:+: r.name
          · rw [line_entry_letters line r text letters] at read
            cases read
          · rw [line_entry_row line r text letters] at read
            exact .taken r text read letters ih

section Keeping

variable {keep keep' : List Char → Prop} {all : List (List Char)} {found found' : List String}

/-- A line is cut in one way as far as its name and missing lines go. -/
theorem row_name (r r' : TableRow) (same : r.text = r'.text) (filled : r.missing ≠ none) :
    r.name = r'.name := by
  have read := congrArg row? same
  rw [table_row_read, table_row_read, TableRow.row?, TableRow.row?] at read
  cases missing : r.missing with
  | none => exact absurd missing filled
  | some m =>
      cases missing' : r'.missing with
      | none => simp [missing, missing'] at read
      | some m' =>
          rw [missing, missing'] at read
          exact (Row.mk.inj (Option.some.inj read)).1

theorem entry_filled (r : TableRow) {entry : String} (told : r.entry? = some entry) : r.missing ≠ none := by
  intro none
  rw [TableRow.entry?, none] at told
  cases told

/-- A rule that keeps more lists as many entries at least; when it lists no more, both keep the same rows. -/
theorem listed_more (more : ∀ name, keep name → keep' name) (listed : Listed keep all found)
    (listed' : Listed keep' all found') :
    found.length ≤ found'.length ∧ (found'.length ≤ found.length → ∀ line ∈ all, ∀ r : TableRow,
      r.text = trim line → r.missing ≠ none → keep' r.name → keep r.name) := by
  induction listed generalizing found' with
  | done =>
      refine ⟨Nat.zero_le _, fun _ line among => ?_⟩
      cases among
  | taken r text entry kept rest ih =>
      have filled : r.missing ≠ none := entry_filled r entry
      cases listed' with
      | taken r' text' entry' kept' rest' =>
          obtain ⟨fewer, same⟩ := ih rest'
          refine ⟨Nat.succ_le_succ fewer, fun few line among s text'' filled'' kept'' => ?_⟩
          rcases List.mem_cons.mp among with rfl | later
          · rw [← row_name r s (text.trans text''.symm) filled]
            exact kept
          · exact same (Nat.le_of_succ_le_succ few) line later s text'' filled'' kept''
      | passed absent rest' => exact absurd (more _ kept) (absent r text filled)
  | passed absent rest ih =>
      cases listed' with
      | taken r' text' entry' kept' rest' =>
          obtain ⟨fewer, -⟩ := ih rest'
          exact ⟨Nat.le_succ_of_le fewer, fun few => absurd fewer (Nat.not_le_of_lt few)⟩
      | passed absent' rest' =>
          obtain ⟨fewer, same⟩ := ih rest'
          refine ⟨fewer, fun few line among s text filled kept => ?_⟩
          rcases List.mem_cons.mp among with rfl | later
          · exact absurd kept (absent' s text filled)
          · exact same few line later s text filled kept

theorem listed_agree (listed : Listed keep all found) (agree : ∀ line ∈ all, ∀ r : TableRow,
    r.text = trim line → r.missing ≠ none → (keep r.name ↔ keep' r.name)) : Listed keep' all found := by
  induction listed with
  | done => exact .done
  | taken r text entry kept rest ih =>
      have here := agree _ List.mem_cons_self r text (entry_filled r entry)
      exact .taken r text entry (here.mp kept) (ih fun l member => agree l (List.mem_cons_of_mem _ member))
  | passed absent rest ih =>
      refine .passed ?_ (ih fun l member => agree l (List.mem_cons_of_mem _ member))
      intro r text filled kept
      exact absent r text filled ((agree _ List.mem_cons_self r text filled).mpr kept)

end Keeping

/-- The names other than the word of the total are all listed exactly when none of them has its letters. -/
theorem listed_named (all : List (List Char)) (found : List String)
    (listed : Listed (fun name => ¬ totalWord <:+: name) all found) :
    Listed (· ≠ totalWord) all found ↔ ∀ line ∈ all, ∀ r : TableRow, r.text = trim line →
      r.missing ≠ none → totalWord <:+: r.name → r.name = totalWord := by
  have more (name : List Char) (kept : ¬ totalWord <:+: name) : name ≠ totalWord := by
    rintro rfl
    exact kept List.infix_rfl
  constructor
  · intro named line among r text filled inside
    by_contra other
    exact (listed_more more listed named).2 (Nat.le_refl _) line among r text filled other inside
  · intro only
    apply listed_agree listed
    intro line among r text filled
    refine ⟨more r.name, fun other inside => other (only line among r text filled inside)⟩

end Entries

section Results

variable (output : String)

theorem percent_searched : (parseTable output).percent =
    (total? output.toList).bind fun columns => percentValue? columns.1 columns.2 :=
  rfl

theorem percent_first {before : List Char} {n : NumberColumns}
    (first : FirstMark output.toList before n) : (parseTable output).percent = n.percentage.value? := by
  rw [percent_searched, ← percent_value]
  rcases total_search output.toList with ⟨other, m, again, found⟩ | ⟨absent, -⟩
  · obtain ⟨whole, places⟩ := first_mark_same first again
    rw [found, whole, places]
    rfl
  · exact absurd first.mark (absent before n)

theorem percent_marked :
    (∃ before n, FirstMark output.toList before n ∧ (parseTable output).percent = n.percentage.value?) ∨
      (∀ before n, ¬ Mark output.toList before n) ∧ (parseTable output).percent = none := by
  rcases total_search output.toList with ⟨before, n, first, -⟩ | ⟨absent, found⟩
  · exact .inl ⟨before, n, first, percent_first output first⟩
  · exact .inr ⟨absent, by rw [percent_searched, found]; rfl⟩

theorem percent_total (leads : ∀ before n, FirstMark output.toList before n → LeadsLine before n) :
    FirstTotal (lines output.toList) (parseTable output).percent := by
  rcases percent_marked output with ⟨before, n, first, percent⟩ | ⟨absent, percent⟩
  · rw [percent]
    exact first_mark_total _ before n first (leads before n first)
  · rw [percent]
    apply first_total_none
    intro line among n row
    obtain ⟨before, mark⟩ := total_row_mark _ line n among row
    exact absent before n mark

theorem missing_listed :
    Listed (fun name => ¬ totalWord <:+: name) (lines output.toList) (parseTable output).missingLines := by
  rw [missing_lines_each]
  exact entries_listed _

/-- The percentage is that of the first mark, wherever it stands, which is the row of the total when the
mark leads its line. Rows whose names have the letters of the total in them are not listed, so that every row
but those of the total is listed exactly when no other name has them. -/
theorem total_by_letters :
    ((∃ before n, FirstMark output.toList before n ∧
          (parseTable output).percent = n.percentage.value?) ∨
        (∀ before n, ¬ Mark output.toList before n) ∧ (parseTable output).percent = none) ∧
      ((∀ before n, FirstMark output.toList before n → LeadsLine before n) →
        FirstTotal (lines output.toList) (parseTable output).percent) ∧
      Listed (fun name => ¬ totalWord <:+: name) (lines output.toList) (parseTable output).missingLines ∧
      (Listed (· ≠ totalWord) (lines output.toList) (parseTable output).missingLines ↔
        ∀ line ∈ lines output.toList, ∀ r : TableRow, r.text = trim line → r.missing ≠ none →
          totalWord <:+: r.name → r.name = totalWord) :=
  ⟨percent_marked output, percent_total output, missing_listed output,
    listed_named _ _ (missing_listed output)⟩

def digit (c : Char) (decimal : isDecimalDigit c = true) : Digits :=
  ⟨[c], List.cons_ne_nil c [], by simpa using decimal⟩

def spaced (statements missed whole : Digits) (fraction : Option Digits) : NumberColumns where
  beforeStatements := ⟨[' '], by decide, space_blank⟩
  statements := statements
  beforeMissed := ⟨[' '], by decide, space_blank⟩
  missed := missed
  beforePercentage := ⟨[' '], by decide, space_blank⟩
  percentage := ⟨whole, fraction⟩

/-- The one row of the total leads its line, and a row is lost whose name begins with the same letters. -/
theorem total_by_letters_plural :
    ((∀ before n, FirstMark "TOTAL 4 1 75%".toList before n → LeadsLine before n) ∧
        FirstTotal (lines "TOTAL 4 1 75%".toList) (parseTable "TOTAL 4 1 75%").percent) ∧
      ¬ Listed (· ≠ totalWord) (lines "TOTALS 4 1 75% 3".toList)
        (parseTable "TOTALS 4 1 75% 3").missingLines := by
  let numbers : NumberColumns :=
    spaced (digit '4' rfl) (digit '1' rfl) ⟨['7', '5'], by decide, List.all_eq_true.mp rfl⟩ none
  have leads : ∀ before n, FirstMark "TOTAL 4 1 75%".toList before n → LeadsLine before n := by
    intro before n first
    have least := first.first [] numbers ⟨[], by decide⟩
    obtain rfl := List.length_eq_zero_iff.mp (Nat.le_zero.mp least)
    obtain ⟨after, same⟩ := first.mark
    refine ⟨[], [], rfl, .inl rfl, blanks_nil, List.not_mem_nil, fun feed => ?_⟩
    have whole : '\n' ∉ "TOTAL 4 1 75%".toList := by decide
    rw [same] at whole
    exact whole (by simp [feed])
  refine ⟨⟨leads, (total_by_letters "TOTAL 4 1 75%").2.1 leads⟩, fun listed => ?_⟩
  let row : TableRow :=
    { name := "TOTALS".toList, some_ := by decide, solid := no_blank _ rfl, numbers
      missing := some ⟨⟨[' '], by decide, space_blank⟩, ['3'], '3', rfl, rfl⟩ }
  have only := (total_by_letters "TOTALS 4 1 75% 3").2.2.2.mp listed "TOTALS 4 1 75% 3".toList (by decide)
    row (by decide) (by decide) ⟨[], ['S'], by decide⟩
  exact absurd only (by decide)

end Results

section ReadBack

theorem row_characters (r : TableRow) (word : List Char)
    (apart : ∀ c, isBlank c = true ∨ isDecimalDigit c = true ∨ c = '.' ∨ c = '%' → c ∉ word)
    (inside : word <:+: r.text) : word <:+: r.name ∨ ∃ m ∈ r.missing, word <:+: m.text := by
  have numbers : r.numbers.text ≠ [] := by
    intro none
    have last := number_columns_last r.numbers
    rw [none] at last
    cases last
  have columns (c : Char) (member : c ∈ r.numbers.text) : c ∉ word :=
    apart c (number_columns_characters r.numbers c member)
  rw [TableRow.text] at inside
  cases missing : r.missing with
  | none =>
      rw [missing] at inside
      rcases infix_beside numbers columns inside with name | none
      · exact .inl name
      · exact .inl (List.infix_nil.mp none ▸ List.nil_infix)
  | some m =>
      rw [missing] at inside
      dsimp only at inside
      rw [← List.append_assoc r.numbers.text] at inside
      have between (c : Char) (member : c ∈ r.numbers.text ++ m.before.text) : c ∉ word := by
        rcases List.mem_append.mp member with number | blank
        · exact columns c number
        · exact apart c (.inl (m.before.blanks c blank))
      rcases infix_beside (by simp [numbers]) between inside with name | text
      · exact .inl name
      · exact .inr ⟨m, rfl, text⟩

/-- The letters of the total are in a row only where its name or its missing lines have them. -/
theorem row_quiet (r : TableRow) (name : ¬ totalWord <:+: r.name)
    (missing : ∀ m ∈ r.missing, ¬ totalWord <:+: m.text) : ¬ totalWord <:+: r.text := by
  intro inside
  refine (row_characters r totalWord ?_ inside).elim name ?_
  · intro c kind member
    obtain ⟨blank, digit, point, sign⟩ := total_word_plain c member
    rcases kind with h | h | h | h
    · rw [blank] at h
      cases h
    · rw [digit] at h
      cases h
    · exact point h
    · exact sign h
  · rintro ⟨m, there, text⟩
    exact missing m there text

theorem row_solid (r : TableRow) (missing : ∀ m ∈ r.missing, Solid m.text) : Solid r.text := by
  refine ⟨?_, ?_⟩
  · intro c first
    rw [TableRow.text, List.head?_append_of_ne_nil _ r.some_] at first
    exact r.solid c (List.mem_of_mem_head? first)
  · cases same : r.missing with
    | none =>
        rw [TableRow.text, same, List.append_nil, List.getLast?_append, number_columns_last]
        rintro _ ⟨⟩
        rfl
    | some m =>
        rw [missing_last r m same]
        exact (missing m same).2

theorem row_entries (rows : List TableRow) (names : ∀ r ∈ rows, ¬ totalWord <:+: r.name)
    (missing : ∀ r ∈ rows, ∀ m ∈ r.missing, Solid m.text) :
    (rows.map TableRow.text).filterMap entryOf? = rows.filterMap TableRow.entry? := by
  rw [List.filterMap_map]
  apply List.filterMap_congr
  intro r member
  have text := (trim_solid (row_solid r (missing r member))).symm
  rw [Function.comp_apply, line_entry_row r.text r text (names r member)]

def totalRow (n : NumberColumns) : TableRow where
  name := totalWord
  some_ := by decide
  solid := fun c member => (total_word_plain c member).1
  numbers := n
  missing := none

theorem total_row_text (n : NumberColumns) : (totalRow n).text = totalWord ++ n.text := by
  simp [TableRow.text, totalRow]

/-- Behind lines without the letters of the total, a line that begins with a row of the total begins with the
first mark. -/
theorem first_mark_behind (output : List Char) (first : List (List Char)) (n : NumberColumns)
    (rest : List (List Char)) (table : lines output = first ++ (totalWord ++ n.text) :: rest)
    (quiet : ∀ line ∈ first, ¬ totalWord <:+: line) : ∃ before, FirstMark output before n := by
  obtain ⟨before, after, rfl, whole, above⟩ := lines_place output first _ rest table
  refine ⟨before, ⟨after, by simp⟩, ?_⟩
  rintro other m ⟨behind, same⟩
  by_contra early
  rcases whole with rfl | last
  · exact early (Nat.zero_le _)
  · obtain ⟨front, rfl⟩ := List.getLast?_eq_some_iff.mp last
    have sooner : other.length < front.length + 1 := by simpa using early
    rw [List.append_assoc, List.singleton_append] at same
    obtain ⟨more, inside, -⟩ := word_before same.symm (by decide) (Nat.le_of_lt_succ sooner)
    have letters : totalWord <:+: front ++ ['\n'] := ⟨other, more ++ ['\n'], by simp [inside]⟩
    obtain ⟨line, among, there⟩ :=
      lines_word _ totalWord (by decide) (by decide) (by decide) letters
    exact quiet line (above ▸ among) there

theorem shapeless_entries (all : List (List Char))
    (shapeless : ∀ line ∈ all, ¬ RowShaped line) :
    all.filterMap entryOf? = [] :=
  List.filterMap_eq_nil_iff.mpr fun line member => line_entry_none line (shapeless line member)

/-- Of a table, with any lines before it that have not the letters of the total in them and any behind it,
the percentage of the last row is read and the missing lines of the rows before it, in order. -/
theorem table_read_back (output : String) (before after : List (List Char)) (rows : List TableRow)
    (n : NumberColumns)
    (table : lines output.toList =
      before ++ rows.map TableRow.text ++ (totalWord ++ n.text) :: after)
    (quiet : ∀ line ∈ before, ¬ totalWord <:+: line)
    (shapeless : ∀ line ∈ before ++ after, ¬ RowShaped line)
    (names : ∀ r ∈ rows, ¬ totalWord <:+: r.name)
    (missing : ∀ r ∈ rows, ∀ m ∈ r.missing, Solid m.text ∧ ¬ totalWord <:+: m.text)
    (ascii : n.percentage.Ascii) :
    parseTable output =
      { percent := some n.percentage.value, missingLines := rows.filterMap TableRow.entry? } := by
  have above : ∀ line ∈ before ++ rows.map TableRow.text, ¬ totalWord <:+: line := by
    intro line among
    rcases List.mem_append.mp among with noise | row
    · exact quiet line noise
    · obtain ⟨r, member, rfl⟩ := List.mem_map.mp row
      exact row_quiet r (names r member) fun m there => (missing r member m there).2
  obtain ⟨place, first⟩ := first_mark_behind output.toList _ n after table above
  have percent : (parseTable output).percent = some n.percentage.value := by
    rw [percent_first output first, Percentage.value?, if_pos ascii]
  have total : entryOf? (totalWord ++ n.text) = none := by
    have solid := row_solid (totalRow n) fun _ none => absurd none (Option.not_mem_none _)
    rw [← total_row_text]
    exact line_entry_letters _ (totalRow n) (trim_solid solid).symm List.infix_rfl
  have listed : (parseTable output).missingLines = rows.filterMap TableRow.entry? := by
    rw [missing_lines_each, table, List.filterMap_append, List.filterMap_append,
      shapeless_entries before fun line member => shapeless line (List.mem_append_left _ member),
      row_entries rows names fun r member m there => (missing r member m there).1,
      List.filterMap_cons_none total,
      shapeless_entries after fun line member => shapeless line (List.mem_append_right _ member),
      List.nil_append, List.append_nil]
  rw [← percent, ← listed]

theorem table_read_back_noisy :
    ∃ (rows : List TableRow) (n : NumberColumns),
      lines "Name\na.py 4 1 75% 3, [7\nb.py 3 0 100%\nTOTAL 7 1 85.7%\nTOTAL 1".toList =
          ["Name".toList] ++ rows.map TableRow.text ++ (totalWord ++ n.text) :: ["TOTAL 1".toList] ∧
        rows.filterMap TableRow.entry? = ["a.py: 3, [7"] ∧
        parseTable "Name\na.py 4 1 75% 3, [7\nb.py 3 0 100%\nTOTAL 7 1 85.7%\nTOTAL 1" =
          { percent := some n.percentage.value, missingLines := rows.filterMap TableRow.entry? } := by
  let missed : TableRow :=
    { name := "a.py".toList, some_ := by decide, solid := no_blank _ rfl
      numbers := spaced (digit '4' rfl) (digit '1' rfl) ⟨['7', '5'], by decide, List.all_eq_true.mp rfl⟩ none
      missing := some ⟨⟨[' '], by decide, space_blank⟩, "3, [7".toList, '3', rfl, rfl⟩ }
  let covered : TableRow :=
    { name := "b.py".toList, some_ := by decide, solid := no_blank _ rfl
      numbers :=
        spaced (digit '3' rfl) (digit '0' rfl) ⟨['1', '0', '0'], by decide, List.all_eq_true.mp rfl⟩ none
      missing := none }
  let total : NumberColumns :=
    spaced (digit '7' rfl) (digit '1' rfl) ⟨['8', '5'], by decide, List.all_eq_true.mp rfl⟩
      (some (digit '7' rfl))
  have table : lines "Name\na.py 4 1 75% 3, [7\nb.py 3 0 100%\nTOTAL 7 1 85.7%\nTOTAL 1".toList =
      ["Name".toList] ++ [missed, covered].map TableRow.text ++
        (totalWord ++ total.text) :: ["TOTAL 1".toList] := by
    decide +kernel
  have ranges : ∀ r ∈ [missed, covered], ∀ m ∈ r.missing, Solid m.text ∧ ¬ totalWord <:+: m.text := by
    have text : Solid "3, [7".toList ∧ ¬ totalWord <:+: "3, [7".toList :=
      ⟨solid_of_trimmed (by decide), by decide⟩
    simpa [missed, covered] using text
  exact ⟨[missed, covered], total, table, by decide +kernel,
    table_read_back _ _ _ _ total table (by decide) (by decide +kernel) (by decide) ranges (by decide)⟩

end ReadBack

end CodeReview.Coverage

import CodeReview.Proofs.Python.Tokens

/-!
Gaps between two tokens inside brackets. They may hold blanks, line ends and comments in any number and order,
and the reader meets the token behind them as if they were not there.
-/

namespace CodeReview.Python

section Fillers

def isLayout (c : Char) : Bool := c == ' ' || c == '\t' || c == '\r' || c == '\x0c' || c == '\n'

def isRemark (c : Char) : Bool := c != '\n' && c != '\x00'

inductive Filler
  | layout (c : Char) (plain : isLayout c = true)
  /-- A line that goes on in the next one. -/
  | joined
  /-- A comment with the end of its line. -/
  | comment (text : List Char) (one : text.all isRemark = true)

def Filler.text : Filler → List Char
  | .layout c _ => [c]
  | .joined => ['\\', '\n']
  | .comment text _ => '#' :: (text ++ ['\n'])

abbrev Fillers := List Filler

def Fillers.text (gap : Fillers) : List Char := gap.flatMap Filler.text

variable {row indent : Nat} {breaks : Bool} {rest : List Char}

/-- A comment ends with its line, whatever stands in it. -/
theorem gap_remark (text : List Char) (one : text.all isRemark = true) :
    gapFrom .comment row breaks indent (text ++ '\n' :: rest) = gapFrom .counting (row + 1) true 0 rest := by
  induction text with
  | nil => rfl
  | cons c text ih =>
      obtain ⟨first, later⟩ := Bool.and_eq_true_iff.mp one
      have feed : c ≠ '\n' := char_apart first '\n' rfl
      have zero : (c == '\x00') = false := beq_false_of_ne (char_apart first '\x00' rfl)
      rw [List.cons_append]
      -- a backslash at the end of a comment joins no lines, so the line ends there all the same
      by_cases joins : c = '\\' ∧ (text = [] ∨ text = ['\r'])
      · obtain ⟨rfl, rfl | rfl⟩ := joins
        · rfl
        · rfl
      · rw [gapFrom]
        · rw [zero]
          exact ih later
        · exact feed
        · rintro rest' rfl same
          cases text with
          | nil => exact joins ⟨rfl, .inl rfl⟩
          | cons d more =>
              cases same
              cases later
        · rintro rest' rfl same
          cases text with
          | nil => cases same
          | cons d more =>
              cases more with
              | nil =>
                  cases same
                  exact joins ⟨rfl, .inr rfl⟩
              | cons e more =>
                  cases same
                  cases later

variable (row indent breaks) in
theorem gap_filler (part : Filler) : ∃ row' breaks' indent', ∀ rest,
    gapFrom .counting row breaks indent (part.text ++ rest) = gapFrom .counting row' breaks' indent' rest := by
  cases part with
  | joined => exact ⟨row + 1, breaks, indent, fun _ => rfl⟩
  | comment text one =>
      refine ⟨row + 1, true, 0, fun rest => ?_⟩
      have line : (Filler.comment text one).text ++ rest = '#' :: (text ++ '\n' :: rest) := by
        simp [Filler.text]
      rw [line]
      exact gap_remark text one
  | layout c plain =>
      simp only [isLayout, Bool.or_eq_true, beq_iff_eq] at plain
      rcases plain with (((rfl | rfl) | rfl) | rfl) | rfl
      · exact ⟨row, breaks, indent + 1, fun _ => rfl⟩
      · exact ⟨row, breaks, indent + 8, fun _ => rfl⟩
      · exact ⟨row, breaks, 0, fun _ => rfl⟩
      · exact ⟨row, breaks, 0, fun _ => rfl⟩
      · exact ⟨row + 1, true, 0, fun _ => rfl⟩

variable (row indent breaks) in
theorem gap_fillers (gap : Fillers) : ∃ row' breaks' indent', ∀ rest,
    gapFrom .counting row breaks indent (gap.text ++ rest) = gapFrom .counting row' breaks' indent' rest := by
  induction gap generalizing row breaks indent with
  | nil => exact ⟨row, breaks, indent, fun _ => rfl⟩
  | cons part gap ih =>
      obtain ⟨middle, broken, width, first⟩ := gap_filler row indent breaks part
      obtain ⟨row', breaks', indent', later⟩ := ih middle width broken
      refine ⟨row', breaks', indent', fun rest => ?_⟩
      rw [Fillers.text, List.flatMap_cons, List.append_assoc, first]
      exact later rest

end Fillers

section Meeting

/-- Between brackets, behind something complete: that a line ends there means nothing. -/
structure Frame.Bracketed (f : Frame) : Prop where
  open_ : f.ends = false
  closes : f.closes = true

theorem inside_bracketed (f : Frame) : f.inside.Bracketed := ⟨rfl, rfl⟩

theorem bracketed_operand {f : Frame} (inside : f.Bracketed) : f.orOperand.Bracketed :=
  ⟨inside.open_, inside.closes⟩

variable {rest next : List Char} {ch : Char} {token : Token}

/-- The token behind a gap is the next one, whatever is in the gap. -/
theorem peek_gap_text (row : Nat) (gap : Fillers) (starts : startsToken ch = true)
    (read : lexeme (ch :: rest) = some (token, next)) :
    ∃ row', ∀ f : Frame, f.Bracketed →
      Cursor.peek ⟨gap.text ++ ch :: rest, row⟩ f = some ⟨token, ⟨ch :: rest, row'⟩, ⟨next, row'⟩⟩ := by
  obtain ⟨row', breaks', indent', passed⟩ := gap_fillers row 0 false gap
  refine ⟨row', fun f inside => ?_⟩
  have met : Cursor.gap ⟨gap.text ++ ch :: rest, row⟩ = ⟨breaks', indent', ⟨ch :: rest, row'⟩⟩ := by
    rw [Cursor.gap, passed, gap_token starts]
  rw [Cursor.peek, met]
  simp only [inside.open_, inside.closes, Bool.and_false, Bool.false_and, Bool.not_true, Bool.false_eq_true,
    if_false, read, Option.map_some]

end Meeting

section Marks

/-- The marks that are read here are parts of longer ones, which go on with an equals sign or the same again. -/
def shortened : List Char := [':', '=', '*', '/']

variable {c : Char} {rest : List Char}

theorem shortened_cases (mark : c ∈ shortened) : c = ':' ∨ c = '=' ∨ c = '*' ∨ c = '/' := by
  simpa [shortened] using mark

theorem long_marks (mark : c ∈ shortened) : ∀ m ∈ longMarks, m.toList ≠ [] ∧
    (m.toList.head? = some c → m.toList[1]? = some '=' ∨ m.toList[1]? = some c) := by
  rcases shortened_cases mark with rfl | rfl | rfl | rfl <;> decide

variable (alone : ∀ d ∈ rest.head?, d ≠ '=' ∧ d ≠ c)

include alone

theorem no_long_mark {mark : List Char} (filled : mark ≠ [])
    (longer : mark.head? = some c → mark[1]? = some '=' ∨ mark[1]? = some c) :
    dropMark? mark (c :: rest) = none := by
  obtain ⟨e, more, rfl⟩ := List.exists_cons_of_ne_nil filled
  rw [dropMark?]
  by_cases same : e = c
  · subst same
    rw [if_pos (beq_self_eq_true e)]
    cases more with
    | nil => rcases longer rfl with second | second <;> cases second
    | cons x more =>
        cases rest with
        | nil => rfl
        | cons d rest =>
            obtain ⟨assign, double⟩ := alone d rfl
            have other : ¬ (x == d) = true := by
              rw [beq_iff_eq]
              rintro rfl
              rcases longer rfl with second | second
              · exact assign (Option.some.inj second)
              · exact double (Option.some.inj second)
            rw [dropMark?, if_neg other]
  · rw [if_neg (fun equal => same (beq_iff_eq.mp equal))]

theorem lexeme_mark (mark : c ∈ shortened) :
    startsToken c = true ∧ lexeme (c :: rest) = some (.mark (String.singleton c), rest) := by
  have long : longMarks.findSome? (fun m => (dropMark? m.toList (c :: rest)).map fun rest => (Token.mark m, rest)) =
      none := by
    rw [List.findSome?_eq_none_iff]
    intro m member
    obtain ⟨filled, longer⟩ := long_marks mark m member
    rw [no_long_mark alone filled longer]
    rfl
  have short : shortMarks.contains c = true := by
    rcases shortened_cases mark with rfl | rfl | rfl | rfl <;> decide
  have single : markAt (c :: rest) = some (.mark (String.singleton c), rest) := by
    rw [markAt, long]
    simp only [short, if_true]
  rcases shortened_cases mark with rfl | rfl | rfl | rfl <;> exact ⟨by decide, single⟩

end Marks

end CodeReview.Python

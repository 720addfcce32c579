import CodeReview.Python.Token
import CodeReview.Proofs.Text.Leading

/-!
Tokens as they stand in a text: what the reader meets at a word, a mark or a line end, and how it gets there
over blank space, line feeds and comments.
-/

namespace CodeReview.Python

open Text

section Characters

variable {c : Char}

def startsToken (c : Char) : Bool :=
  isNameStart c || c.isDigit || isQuoteMark c || shortMarks.contains c

def Starts (cs : List Char) : Prop := ∃ d more, cs = d :: more ∧ startsToken d = true

theorem char_apart {p : Char → Bool} (has : p c = true) (d : Char) (lacks : p d = false) : c ≠ d := by
  rintro rfl
  rw [lacks] at has
  cases has

theorem start_name (start : isNameStart c = true) : isNameChar c = true := by
  unfold isNameStart at start
  unfold isNameChar
  split at start
  · next ascii =>
      rw [if_pos ascii]
      rcases Bool.or_eq_true_iff.mp start with letter | low
      · rw [Char.isAlphanum, letter]
        rfl
      · rw [low, Bool.or_true]
  · next ascii => rw [if_neg ascii, start, Bool.true_or]

theorem name_unquoted (name : isNameChar c = true) : isQuoteMark c = false := by
  rw [isQuoteMark, beq_false_of_ne (char_apart name '"' rfl),
    beq_false_of_ne (char_apart name '\x27' rfl), beq_false_of_ne (char_apart name '\x60' rfl)]
  rfl

end Characters

section Gaps

variable {row indent : Nat} {breaks : Bool} {c : Char} {rest : List Char}

theorem gap_token (starts : startsToken c = true) :
    gapFrom .counting row breaks indent (c :: rest) = ⟨breaks, indent, ⟨c :: rest, row⟩⟩ := by
  have other (d : Char) (lacks : startsToken d = false) : (c == d) = false :=
    beq_false_of_ne (char_apart starts d lacks)
  have shown : hidesLayout c = false := by
    rw [hidesLayout, other _ (by decide +kernel), other _ (by decide +kernel), other _ (by decide +kernel),
      other _ (by decide +kernel)]
    rfl
  have slash := char_apart starts '\\' rfl
  rw [gapFrom]
  · rw [other ' ' rfl, other '\t' rfl, other '\r' rfl, other '\x0c' rfl, shown, other '#' rfl,
      beq_false_of_ne slash]
    rfl
  · exact char_apart starts '\n' rfl
  · exact fun _ same => absurd same slash
  · exact fun _ same => absurd same slash

theorem gap_spaces (n : Nat) :
    gapFrom .counting row breaks indent (List.replicate n ' ' ++ rest) =
      gapFrom .counting row breaks (indent + n) rest := by
  induction n generalizing indent with
  | zero => rfl
  | succ n ih =>
      rw [List.replicate_succ, List.cons_append, Nat.add_comm n, ← Nat.add_assoc, ← ih]
      rfl

theorem gap_feed :
    gapFrom .counting row breaks indent ('\n' :: rest) = gapFrom .counting (row + 1) true 0 rest := rfl

/-- A character that neither ends a comment nor takes its line into the next. -/
def isQuiet (c : Char) : Bool := c != '\n' && c != '\\' && c != '\x00'

/-- A comment is passed with the line feed behind it. -/
theorem gap_comment (cs : List Char) (quiet : cs.all isQuiet = true) :
    gapFrom .counting row breaks indent ('#' :: (cs ++ '\n' :: rest)) =
      gapFrom .counting (row + 1) true 0 rest := by
  have passed : gapFrom .comment row breaks indent (cs ++ '\n' :: rest) =
      gapFrom .counting (row + 1) true 0 rest := by
    induction cs with
    | nil => rfl
    | cons d cs ih =>
        obtain ⟨first, later⟩ := Bool.and_eq_true_iff.mp quiet
        have feed : d ≠ '\n' := char_apart first '\n' rfl
        have slash : d ≠ '\\' := char_apart first '\\' rfl
        rw [List.cons_append, gapFrom]
        · rw [beq_false_of_ne (char_apart first '\x00' rfl)]
          exact ih later
        · exact feed
        · exact fun _ same => absurd same slash
        · exact fun _ same => absurd same slash
  exact passed

/-- A line that has ended stays ended up to the next token. -/
theorem gap_ended (mode : GapMode) (ended : breaks = true) (cs : List Char) :
    (gapFrom mode row breaks indent cs).breaks = true := by
  fun_induction gapFrom mode row breaks indent cs <;> simp_all +zetaDelta

end Gaps

section Lexemes

variable {rest : List Char}

structure IsWord (cs : List Char) : Prop where
  start : ∃ c more, cs = c :: more ∧ isNameStart c = true
  names : ∀ c ∈ cs, isNameChar c = true

theorem is_word_iff {cs : List Char} :
    (cs.head?.any isNameStart && cs.all isNameChar) = true ↔ IsWord cs := by
  rw [Bool.and_eq_true_iff, List.all_eq_true]
  constructor
  · rintro ⟨start, names⟩
    cases cs with
    | nil => cases start
    | cons c cs => exact ⟨⟨c, cs, rfl, start⟩, names⟩
  · rintro ⟨⟨c, more, rfl, start⟩, names⟩
    exact ⟨start, names⟩

instance (cs : List Char) : Decidable (IsWord cs) := decidable_of_iff _ is_word_iff

def EndsWord (cs : List Char) : Prop := ∀ c ∈ cs.head?, isNameChar c = false ∧ isQuoteMark c = false

theorem open_quote_word (q : Quote) (cs : List Char) (names : ∀ c ∈ cs, isNameChar c = true)
    (ends : EndsWord rest) : openQuote q (cs ++ rest) = none := by
  -- Each character may be one of a prefix, but none is a quotation mark, nor is the first one behind them.
  induction cs generalizing q with
  | nil =>
      cases rest with
      | nil => rfl
      | cons d rest =>
          obtain ⟨outside, unquoted⟩ := ends d rfl
          have other (e : Char) (name : isNameChar e = true) : (d == e) = false :=
            beq_false_of_ne fun same => by
              rw [same, name] at outside
              cases outside
          rw [List.nil_append, openQuote.eq_def]
          simp only [unquoted, other 'f' rfl, other 'F' rfl, other 't' rfl,
            other 'T' rfl, other 'r' rfl, other 'R' rfl, other 'b' rfl, other 'B' rfl, other 'u' rfl,
            other 'U' rfl]
          rfl
  | cons c cs ih =>
      have later (q : Quote) := ih q fun d member => names d (List.mem_cons_of_mem c member)
      rw [List.cons_append, openQuote.eq_def]
      simp only [name_unquoted (names c List.mem_cons_self), later, Bool.false_eq_true, if_false, ite_self]

theorem lexeme_word {w : String} (word : IsWord w.toList) (ends : EndsWord rest) :
    lexeme (w.toList ++ rest) = some (.word w, rest) := by
  rw [lexeme.eq_def, open_quote_word _ _ word.names ends]
  obtain ⟨c, more, same, start⟩ := word.start
  have names : ∀ d ∈ more, isNameChar d = true := fun d member =>
    word.names d (same ▸ List.mem_cons_of_mem c member)
  have span : (more ++ rest).span isNameChar = (more, rest) :=
    span_lead names fun d first => (ends d first).1
  have spelled : String.ofList (c :: more) = w := by rw [← same, String.ofList_toList]
  rw [same, List.cons_append]
  simp only [start, if_true, span, spelled]

end Lexemes

section Meeting

variable {row : Nat} {rest next : List Char} {token : Token}

/-- What the reader meets at a cursor, wherever it stands, and meets again at the start of the token. -/
structure Comes (c : Cursor) (a : Ahead) : Prop where
  peek : ∀ f : Frame, c.peek f = some a
  again : ∀ f : Frame, a.start.peek f = some a

theorem peek_gap {c : Cursor} {indent : Nat} {ch : Char}
    (gap : c.gap = ⟨false, indent, ⟨ch :: rest, row⟩⟩) (read : lexeme (ch :: rest) = some (token, next))
    (f : Frame) : c.peek f = some ⟨token, ⟨ch :: rest, row⟩, ⟨next, row⟩⟩ := by
  rw [Cursor.peek, gap]
  simp only [Bool.false_and, Bool.false_eq_true, if_false, read, Option.map_some]

variable {ch : Char} (starts : startsToken ch = true) (read : lexeme (ch :: rest) = some (token, next))

include starts read

theorem comes_here : Comes ⟨ch :: rest, row⟩ ⟨token, ⟨ch :: rest, row⟩, ⟨next, row⟩⟩ :=
  ⟨peek_gap (gap_token starts) read, peek_gap (gap_token starts) read⟩

theorem comes_spaced : Comes ⟨' ' :: ch :: rest, row⟩ ⟨token, ⟨ch :: rest, row⟩, ⟨next, row⟩⟩ :=
  ⟨peek_gap (gap_token starts) read, peek_gap (gap_token starts) read⟩

end Meeting

section Words

variable (row : Nat) {rest : List Char} {w : String} (word : IsWord w.toList) (ends : EndsWord rest)

include word

theorem word_starts : Starts w.toList := by
  obtain ⟨c, more, same, start⟩ := word.start
  refine ⟨c, more, same, ?_⟩
  rw [startsToken, start]
  rfl

include ends

theorem comes_word :
    Comes ⟨w.toList ++ rest, row⟩ ⟨.word w, ⟨w.toList ++ rest, row⟩, ⟨rest, row⟩⟩ := by
  have read := lexeme_word word ends
  obtain ⟨c, more, same, starts⟩ := word_starts word
  rw [same, List.cons_append] at read ⊢
  exact comes_here starts read

theorem comes_word_spaced :
    Comes ⟨' ' :: (w.toList ++ rest), row⟩ ⟨.word w, ⟨w.toList ++ rest, row⟩, ⟨rest, row⟩⟩ := by
  have read := lexeme_word word ends
  obtain ⟨c, more, same, starts⟩ := word_starts word
  rw [same, List.cons_append] at read ⊢
  exact comes_spaced starts read

end Words

section LineEnds

theorem line_end {f : Frame} (ends : f.ends = true) (row : Nat) (rest : List Char) :
    Cursor.peek ⟨'\n' :: rest, row⟩ f =
      some ⟨.lineEnd, ⟨'\n' :: rest, row⟩, ⟨'\n' :: rest, row⟩⟩ := by
  have broken : (Cursor.gap ⟨'\n' :: rest, row⟩).breaks = true := gap_ended .counting rfl rest
  rw [Cursor.peek]
  simp only [broken, ends, Bool.and_self, if_true]

end LineEnds

section Sound

variable {c : Cursor} {f : Frame} {a : Ahead} {w : String} {cs rest : List Char} {token : Token}

theorem mark_no_word (read : markAt cs = some (token, rest)) (w : String) : token ≠ .word w := by
  unfold markAt at read
  split at read
  · next found =>
      obtain ⟨m, -, mark⟩ := List.exists_of_findSome?_eq_some found
      obtain ⟨left, -, same⟩ := Option.map_eq_some_iff.mp mark
      cases read
      cases same
      rintro ⟨⟩
  · split at read
    · split at read
      · cases read
        rintro ⟨⟩
      · cases read
    · cases read

theorem lexeme_is_word (read : lexeme cs = some (.word w, rest)) : IsWord w.toList := by
  unfold lexeme at read
  split at read
  · cases read
  · split at read
    · cases read
    · next c more _ =>
        split at read
        · next start =>
            split at read
            next lead after span =>
            cases read
            have names := (span_parts span).2.1
            rw [String.toList_ofList]
            refine ⟨⟨c, lead, rfl, start⟩, ?_⟩
            intro d member
            rcases List.mem_cons.mp member with rfl | later
            · exact start_name start
            · exact names d later
        · split at read
          · cases read
          · split at read
            · cases read
            · exact absurd rfl (mark_no_word read w)

theorem peek_is_word (met : c.peek f = some a) (token : a.token = .word w) : IsWord w.toList := by
  unfold Cursor.peek at met
  dsimp only at met
  split at met
  · cases met
    cases token
  · split at met
    · cases met
    · split at met
      · cases met
        cases token
      · obtain ⟨⟨t, rest⟩, read, same⟩ := Option.map_eq_some_iff.mp met
        cases same
        cases token
        exact lexeme_is_word read

end Sound

end CodeReview.Python

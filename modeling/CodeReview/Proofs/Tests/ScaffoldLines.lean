import CodeReview.Tests.Scaffold
import CodeReview.Proofs.Python.Blocks

/-!
The lines of a scaffold are statements. The names that it makes from those of a source are words of their own,
whatever the source, and the values that it gives to them stand alone; only the name of the module is put
between quotation marks as it is, and there it can break its line.
-/

namespace CodeReview.Scaffold

open Text Python

section Words

variable {w : String}

theorem word_append {cs ds : List Char} (word : IsWord cs) (names : ∀ c ∈ ds, isNameChar c = true) :
    IsWord (cs ++ ds) := by
  obtain ⟨c, more, same, start⟩ := word.start
  exact ⟨⟨c, more ++ ds, by rw [same, List.cons_append], start⟩,
    fun d member => (List.mem_append.mp member).elim (word.names d) (names d)⟩

/-- A word with an ending is none of those without it. -/
theorem ending_absent {ending : String} {words : List String} (w : String)
    (apart : ∀ v ∈ words, ¬ ending.toList <:+ v.toList) : w ++ ending ∉ words :=
  fun member => apart _ member ⟨w.toList, String.toList_append.symm⟩

theorem value_operand (w : String) : isOperandName (w ++ "_value") = true := by
  rw [isOperandName, Bool.not_eq_true', Bool.eq_false_iff]
  exact fun keyword => ending_absent w (by decide) (List.contains_iff_mem.mp keyword)

theorem value_free (w : String) : isName (w ++ "_value") = true := by
  have apart : w ++ "_value" ∉ ["async", "await"] := ending_absent w (by decide)
  obtain ⟨async, await⟩ := not_or.mp (List.mem_pair.not.mp apart)
  rw [isName, value_operand, bne_iff_ne.mpr async, bne_iff_ne.mpr await]
  rfl

theorem value_plain (named : IsIdentifier w) : PlainWord (w ++ "_value") where
  word := by
    rw [String.toList_append]
    exact word_append named.word (List.all_eq_true.mp (by decide))
  operand := value_operand w
  ready same := by
    have absent : w ++ "_value" ∉ ["await"] := ending_absent w (by decide)
    exact absent (List.mem_singleton.mpr same)

def wordOf : Token → Option String
  | .word w => some w
  | _ => none

/-- No statement but an assignment begins with the name of a value. -/
theorem value_line (w : String) :
    Token.word (w ++ "_value") ∉ blockTokens ∧ Token.word (w ++ "_value") ∉ lineTokens := by
  have apart : w ++ "_value" ∉ (blockTokens ++ lineTokens).filterMap wordOf := ending_absent w (by decide)
  refine not_or.mp fun either => apart ?_
  exact List.mem_filterMap.mpr ⟨_, List.mem_append.mpr either, rfl⟩

theorem test_named (named : IsIdentifier w) : IsIdentifier ("test_" ++ w ++ "_returns_value") := by
  have opening : IsWord "test_".toList := by decide
  refine ⟨?_, ?_⟩
  · rw [String.toList_append, String.toList_append]
    exact word_append (word_append opening named.word.names) (List.all_eq_true.mp (by decide))
  · rw [show "_returns_value" = "_returns" ++ "_value" from rfl, ← String.append_assoc]
    exact value_free _

end Words

section Values

theorem line_number (rest : List Char) : lexeme ('1' :: '\n' :: rest) = some (.number, '\n' :: rest) := by
  have digits : skipNumber ('1' :: '\n' :: rest) = '\n' :: rest := if_neg (Nat.lt_irrefl _)
  change some (Token.number, skipNumber ('1' :: '\n' :: rest)) = _
  rw [digits]

theorem literal_stands (kind : ValueKind) (column row : Nat) (rest : List Char) :
    ∃ a shape, shape ≠ .loose ∧
      Stands 5 (Frame.line column) ⟨' ' :: (kind.literal.toList ++ '\n' :: rest), row⟩ a
        (some (shape, ⟨'\n' :: rest, row⟩)) := by
  have ends : AtEnd (Frame.line column) ⟨'\n' :: rest, row⟩ := at_end column row rest
  -- A text is read by its quotation mark, any other value as an atom.
  cases kind with
  | path =>
      have comes : Comes ⟨' ' :: ("\"/tmp/example\"".toList ++ '\n' :: rest), row⟩
          ⟨.quote ⟨'"', false, false, false, false⟩, _, ⟨"/tmp/example\"".toList ++ '\n' :: rest, row⟩⟩ :=
        comes_spaced (by decide) rfl
      exact ⟨_, .text, by decide, text_stands comes rfl rfl ends⟩
  | other =>
      have comes : Comes ⟨' ' :: ("\"sample\"".toList ++ '\n' :: rest), row⟩
          ⟨.quote ⟨'"', false, false, false, false⟩, _, ⟨"sample\"".toList ++ '\n' :: rest, row⟩⟩ :=
        comes_spaced (by decide) rfl
      exact ⟨_, .text, by decide, text_stands comes rfl rfl ends⟩
  | count =>
      have comes : Comes ⟨' ' :: '1' :: '\n' :: rest, row⟩ ⟨.number, _, ⟨'\n' :: rest, row⟩⟩ :=
        comes_spaced (by decide) (line_number rest)
      have stands := atom_stands comes (by simp [leadTokens]) (by rintro _ ⟨⟩)
        (number_atom (comes.again _) rfl) ends
      exact ⟨_, .other, by decide, stands.more (by decide)⟩
  | flag =>
      have comes : Comes ⟨' ' :: ("True".toList ++ '\n' :: rest), row⟩
          ⟨.word "True", _, ⟨'\n' :: rest, row⟩⟩ := comes_spaced (by decide) rfl
      have stands := atom_stands comes (by simp [leadTokens]) (fun _ _ => ends)
        (constant_atom (comes.again _) rfl rfl (.inl rfl)) ends
      exact ⟨_, .other, by decide, stands.more (by decide)⟩
  | list =>
      have comes : Comes ⟨' ' :: '[' :: ']' :: '\n' :: rest, row⟩
          ⟨.mark "[", _, ⟨']' :: '\n' :: rest, row⟩⟩ := comes_spaced (by decide) rfl
      have closing : Comes ⟨']' :: '\n' :: rest, row⟩ ⟨.mark "]", _, ⟨'\n' :: rest, row⟩⟩ :=
        comes_here (by decide) rfl
      have stands := atom_stands comes (by simp [leadTokens]) (by rintro _ ⟨⟩)
        (brackets_atom (comes.again _) rfl closing rfl) ends
      exact ⟨_, .group, by decide, stands.more (by decide)⟩
  | mapping =>
      have comes : Comes ⟨' ' :: '\x7b' :: '\x7d' :: '\n' :: rest, row⟩
          ⟨.mark "\x7b", _, ⟨'\x7d' :: '\n' :: rest, row⟩⟩ := comes_spaced (by decide) rfl
      have closing : Comes ⟨'\x7d' :: '\n' :: rest, row⟩ ⟨.mark "\x7d", _, ⟨'\n' :: rest, row⟩⟩ :=
        comes_here (by decide) rfl
      have stands := atom_stands comes (by simp [leadTokens]) (by rintro _ ⟨⟩)
        (braces_atom (comes.again _) rfl closing rfl) ends
      exact ⟨_, .other, by decide, stands.more (by decide)⟩

end Values

section Statements

variable {k : Nat} {arg name : String}

theorem word_line {w : String} {line more : List Char} (word : IsWord w.toList) (same : line = w.toList ++ more) :
    Starts line := by
  obtain ⟨d, letters, lead, token⟩ := word_starts word
  exact ⟨d, letters ++ more, by rw [same, lead, List.cons_append], token⟩

theorem argument_simple (named : IsIdentifier arg) :
    SimpleLine (arg ++ "_value = " ++ placeholder arg).toList := by
  have plain := value_plain named
  have text (rest : List Char) : (arg ++ "_value = " ++ placeholder arg).toList ++ rest =
      (arg ++ "_value").toList ++ ' ' :: '=' :: ' ' :: ((placeholder arg).toList ++ rest) := by
    simp only [String.toList_append, List.append_assoc]
    rfl
  refine ⟨word_line plain.word ((List.append_nil _).symm.trans (text [])),
    fun column rest => statement_reads fun row n => ?_⟩
  obtain ⟨a, shape, tight, stands⟩ := literal_stands (ValueKind.ofName arg) column row rest
  rw [text, placeholder, assignment_reads plain (value_line arg) stands _ _ (least_fuel (by decide))]
  · rfl
  · rintro _ ⟨⟩
    exact tight
  · rintro _ ⟨⟩
    exact at_end column row rest

theorem listed_intercalate (ws : List String) : (", ".intercalate ws).toList = listedWords ws := by
  rw [String.toList_intercalate]
  cases ws with
  | nil => rfl
  | cons w ws =>
      rw [listedWords, List.map_cons]
      induction ws generalizing w with
      | nil => simp [furtherWords]
      | cons v ws ih =>
          rw [List.map_cons, List.intercalate_cons_cons, ih v, furtherWords]
          simp

theorem listed_length (ws : List String) : ws.length ≤ (listedWords ws).length + 1 := by
  cases ws with
  | nil => exact Nat.zero_le _
  | cons w ws =>
      have := further_length ws
      simp only [listedWords, List.length_cons, List.length_append]
      omega

theorem result_plain : PlainWord "result" := by decide

theorem module_plain : PlainWord "module" := by decide

theorem call_simple (s : Signature) (named : s.Named) :
    SimpleLine ("result = module." ++ s.name ++ "(" ++ ", ".intercalate (s.args.map (· ++ "_value")) ++
      ")").toList := by
  have text (rest : List Char) : ("result = module." ++ s.name ++ "(" ++
      ", ".intercalate (s.args.map (· ++ "_value")) ++ ")").toList ++ rest =
      "result".toList ++ ' ' :: '=' :: ' ' :: ("module".toList ++ '.' :: (s.name.toList ++ '(' ::
        (listedWords (s.args.map (· ++ "_value")) ++ ')' :: rest))) := by
    simp only [String.toList_append, List.append_assoc, listed_intercalate]
    rfl
  have values : ∀ w ∈ s.args.map (· ++ "_value"), PlainWord w := by
    intro w member
    obtain ⟨arg, listed, rfl⟩ := List.mem_map.mp member
    exact value_plain (named.args arg listed)
  refine ⟨word_line result_plain.word ((List.append_nil _).symm.trans (text [])),
    fun column rest => statement_reads fun row n => ?_⟩
  have ends : AtEnd (Frame.line column) ⟨'\n' :: rest, row⟩ := at_end column row rest
  have comes := comes_word_spaced row module_plain.word
    (ends_word '.' (s.name.toList ++ '(' :: (listedWords (s.args.map (· ++ "_value")) ++ ')' :: '\n' :: rest))
      rfl rfl)
  have stands := call_stands (f := Frame.line column) module_plain named.name rfl comes
    (arguments_read (s.args.map (· ++ "_value")) values) (by rintro _ ⟨⟩; exact ends.whole)
  rw [text, assignment_reads result_plain (by decide) stands _ _ _]
  · rfl
  · rintro _ ⟨⟩
    rintro ⟨⟩
  · rintro _ ⟨⟩
    exact ends
  · have listed := listed_length (s.args.map (· ++ "_value"))
    simp only [Cursor.fuel, List.length_append, List.length_cons]
    omega

theorem assert_simple : SimpleLine "assert result is not None".toList := by
  refine ⟨⟨_, _, rfl, rfl⟩, fun column rest => statement_reads fun row n => ?_⟩
  exact congrArg (Option.map kept) (assert_statement result_plain rest)

theorem import_simple {w line : String} (named : IsIdentifier w)
    (text : line.toList = "import ".toList ++ w.toList) : SimpleLine line.toList := by
  rw [text]
  refine ⟨⟨_, _, rfl, rfl⟩, fun column rest => statement_reads fun row n => ?_⟩
  rw [List.append_assoc, import_statement named rest]
  rfl

end Statements

section ModuleName

def pasted : Quote := ⟨'\x27', false, false, false, false⟩

/-- Whether a name can be pasted between single quotation marks: a line feed is only taken directly behind the
opening one. -/
def Pasteable (name : List Char) : Prop := '\x00' ∉ name ∧ '\n' ∉ name.tail

instance (name : List Char) : Decidable (Pasteable name) := inferInstanceAs (Decidable (_ ∧ _))

variable {name rest : List Char}

theorem scan_step {c : Char} (unquoted : c ≠ '\x27') (unslashed : c ≠ '\\') (fresh : Bool) (row : Nat) :
    scanText pasted fresh 0 row (c :: rest) =
      if c = '\x00' ∨ c = '\n' ∧ fresh = false then .unclosed
      else scanText pasted false 0 (if c = '\n' then row + 1 else row) rest := by
  rw [scanText.eq_def]
  simp only [pasted, beq_false_of_ne unquoted, beq_false_of_ne unslashed, Bool.false_and, Bool.false_eq_true,
    if_false, Bool.not_false, Bool.and_true, Bool.and_eq_true, beq_iff_eq, Bool.not_eq_true']
  by_cases zero : c = '\x00'
  · rw [if_pos zero, if_pos (.inl zero)]
  · simp only [zero, if_false, false_or]

/-- Within a line the pasted text is closed behind it or not at all. -/
theorem scan_line (unquoted : '\x27' ∉ name) (unslashed : '\\' ∉ name) (row : Nat) :
    scanText pasted false 0 row (name ++ '\x27' :: rest) =
      if '\x00' ∉ name ∧ '\n' ∉ name then .closed ⟨rest, row⟩ else .unclosed := by
  induction name with
  | nil => rfl
  | cons c name ih =>
      obtain ⟨other, unquoted⟩ := not_or.mp (List.mem_cons.not.mp unquoted)
      obtain ⟨other', unslashed⟩ := not_or.mp (List.mem_cons.not.mp unslashed)
      rw [List.cons_append, scan_step (Ne.symm other) (Ne.symm other')]
      by_cases ends : c = '\x00' ∨ c = '\n' ∧ false = false
      · rw [if_pos ends, if_neg]
        rintro ⟨zero, feed⟩
        rcases ends with rfl | ⟨rfl, -⟩
        · exact zero List.mem_cons_self
        · exact feed List.mem_cons_self
      · obtain ⟨zero, feed⟩ := not_or.mp ends
        have feed : c ≠ '\n' := fun same => feed ⟨same, rfl⟩
        rw [if_neg ends, if_neg feed, ih unquoted unslashed]
        simp only [List.mem_cons, Ne.symm zero, Ne.symm feed, false_or]

/-- A pasted name is closed behind it exactly when it can be pasted. -/
theorem scan_pasted (unquoted : '\x27' ∉ name) (unslashed : '\\' ∉ name) (row : Nat) :
    ∃ row', scanText pasted true 0 row (name ++ '\x27' :: rest) =
      if Pasteable name then .closed ⟨rest, row'⟩ else .unclosed := by
  cases name with
  | nil => exact ⟨row, rfl⟩
  | cons c name =>
      obtain ⟨other, unquoted⟩ := not_or.mp (List.mem_cons.not.mp unquoted)
      obtain ⟨other', unslashed⟩ := not_or.mp (List.mem_cons.not.mp unslashed)
      refine ⟨if c = '\n' then row + 1 else row, ?_⟩
      rw [List.cons_append, scan_step (Ne.symm other) (Ne.symm other'), scan_line unquoted unslashed]
      by_cases zero : c = '\x00'
      · rw [if_pos (.inl zero), if_neg]
        exact fun proper => proper.1 (zero ▸ List.mem_cons_self)
      · rw [if_neg (by simpa using zero)]
        simp only [Pasteable, List.mem_cons, Ne.symm zero, false_or, List.tail_cons]

theorem quote_pasted (unquoted : '\x27' ∉ name) :
    lexeme ('\x27' :: (name ++ '\x27' :: ')' :: rest)) = some (.quote pasted, name ++ '\x27' :: ')' :: rest) := by
  have opened (q : Quote) : openQuote q ('\x27' :: (name ++ '\x27' :: ')' :: rest)) =
      some ({ q with mark := '\x27' }, name ++ '\x27' :: ')' :: rest) := by
    cases name with
    | nil => rfl
    | cons c name =>
        obtain ⟨other, -⟩ := not_or.mp (List.mem_cons.not.mp unquoted)
        have single : ('\x27' == c) = false := beq_false_of_ne other
        have marks : isQuoteMark '\x27' = true := rfl
        rw [openQuote.eq_def]
        cases name <;>
          simp only [List.cons_append, List.nil_append, marks, single, if_true, Bool.false_and,
            Bool.false_eq_true, if_false]
  rw [lexeme.eq_def, opened]
  rfl

theorem pasted_argument (rest : List Char) (unquoted : '\x27' ∉ name) (unslashed : '\\' ∉ name) (f : Frame)
    (row : Nat) :
    ∃ row', ∀ n ≥ 15, readArguments n f true ⟨'\x27' :: (name ++ '\x27' :: ')' :: rest), row⟩ =
      if Pasteable name then some ⟨rest, row'⟩ else none := by
  obtain ⟨row', scan⟩ := scan_pasted unquoted unslashed row
  have comes : Comes ⟨'\x27' :: (name ++ '\x27' :: ')' :: rest), row⟩
      ⟨.quote pasted, _, ⟨name ++ '\x27' :: ')' :: rest, row⟩⟩ :=
    comes_here (by decide) (quote_pasted unquoted)
  refine ⟨row', ?_⟩
  by_cases proper : Pasteable name
  · rw [if_pos proper] at scan ⊢
    exact text_argument comes rfl (fun f => text_closed scan) (by rintro _ ⟨⟩; exact ⟨_, _, rfl⟩)
  · rw [if_neg proper] at scan ⊢
    exact text_argument comes rfl (fun f => text_unclosed scan) (by rintro _ ⟨⟩)

theorem importlib_plain : PlainWord "importlib" := by decide

theorem pytest_plain : PlainWord "pytest" := by decide

theorem pasted_stands {w w' : String} {c : Cursor} {a : Ahead} (unquoted : '\x27' ∉ name)
    (unslashed : '\\' ∉ name) (plain : PlainWord w) (named : IsIdentifier w') (column row : Nat)
    (called : a = ⟨.word w, ⟨w.toList ++ '.' :: (w'.toList ++ '(' :: '\x27' ::
      (name ++ '\x27' :: ')' :: '\n' :: rest)), row⟩,
      ⟨'.' :: (w'.toList ++ '(' :: '\x27' :: (name ++ '\x27' :: ')' :: '\n' :: rest)), row⟩⟩)
    (comes : Comes c a) :
    ∃ row', Stands 19 (Frame.line column) c a
      ((if Pasteable name then some ⟨'\n' :: rest, row'⟩ else none).map fun c => (.other, c)) := by
  obtain ⟨row', arguments⟩ := pasted_argument ('\n' :: rest) unquoted unslashed (Frame.line column) row
  refine ⟨row', call_stands plain named called comes arguments fun c found => ?_⟩
  split at found
  · cases found
    exact (at_end column row' rest).whole
  · cases found

theorem pasted_simple {w w' : String} (unquoted : '\x27' ∉ name) (unslashed : '\\' ∉ name)
    (proper : Pasteable name) (plain : PlainWord w) (named : IsIdentifier w')
    (other : Token.word w ∉ blockTokens ∧ Token.word w ∉ lineTokens) :
    SimpleLine (w.toList ++ '.' :: (w'.toList ++ '(' :: '\x27' :: (name ++ ['\x27', ')']))) := by
  refine ⟨word_line plain.word rfl, fun column rest => statement_reads fun row n => ?_⟩
  have comes := comes_word row plain.word (ends_word '.' (w'.toList ++ '(' :: '\x27' ::
    (name ++ '\x27' :: ')' :: '\n' :: rest)) rfl rfl)
  obtain ⟨row', stands⟩ := pasted_stands unquoted unslashed plain named column row rfl comes
  rw [if_pos proper] at stands
  have read := call_reads (n := n) stands other (by rintro _ ⟨⟩; exact at_end column row' rest)
    (least_fuel (by decide))
  simp only [List.append_assoc, List.cons_append, List.nil_append]
  rw [read]
  rfl

theorem skip_simple :
    SimpleLine "pytest.skip('No callable functions detected; add tests manually.')".toList := by
  have named : IsIdentifier "skip" := by decide
  have text : "pytest.skip('No callable functions detected; add tests manually.')".toList =
      "pytest".toList ++ '.' :: ("skip".toList ++ '(' :: '\x27' ::
        ("No callable functions detected; add tests manually.".toList ++ ['\x27', ')'])) := by decide
  rw [text]
  exact pasted_simple (by decide) (by decide) (by decide) pytest_plain named (by decide)

def moduleLine (name : List Char) : List Char :=
  "module = importlib.import_module('".toList ++ (name ++ ['\x27', ')'])

theorem module_line_parts (name : List Char) : moduleLine name = "module".toList ++ ' ' :: '=' :: ' ' ::
    ("importlib".toList ++ '.' :: ("import_module".toList ++ '(' :: '\x27' :: (name ++ ['\x27', ')']))) := by
  have text : "module = importlib.import_module('".toList = "module".toList ++ ' ' :: '=' :: ' ' ::
      ("importlib".toList ++ '.' :: ("import_module".toList ++ ['(', '\x27'])) := by decide
  refine (congrArg (fun lead => lead ++ (name ++ ['\x27', ')'])) text).trans ?_
  simp only [List.append_assoc, List.cons_append, List.nil_append]

/-- It is a statement exactly when the name can be pasted into it. -/
theorem module_reads (rest : List Char) (unquoted : '\x27' ∉ name) (unslashed : '\\' ∉ name) (column : Nat) :
    StatementReads column (moduleLine name ++ '\n' :: rest)
      (if Pasteable name then some ([], '\n' :: rest) else none) := by
  have named : IsIdentifier "import_module" := by decide
  have line : moduleLine name ++ '\n' :: rest = "module".toList ++ ' ' :: '=' :: ' ' ::
      ("importlib".toList ++ '.' :: ("import_module".toList ++ '(' :: '\x27' ::
        (name ++ '\x27' :: ')' :: '\n' :: rest))) := by
    rw [module_line_parts]
    simp only [List.append_assoc, List.cons_append, List.nil_append]
  refine statement_reads fun row n => ?_
  have comes := comes_word_spaced row importlib_plain.word (ends_word '.' ("import_module".toList ++ '(' ::
    '\x27' :: (name ++ '\x27' :: ')' :: '\n' :: rest)) rfl rfl)
  obtain ⟨row', stands⟩ := pasted_stands unquoted unslashed importlib_plain named column row rfl comes
  rw [line, assignment_reads module_plain (by decide) stands ?_ ?_ (least_fuel (by decide)), Option.map_map,
    Option.map_map]
  · split <;> rfl
  · intro p found
    obtain ⟨c, -, rfl⟩ := Option.map_eq_some_iff.mp found
    rintro ⟨⟩
  · intro p found
    obtain ⟨c, inside, rfl⟩ := Option.map_eq_some_iff.mp found
    split at inside
    · cases inside
      exact at_end column row' rest
    · cases inside

end ModuleName

end CodeReview.Scaffold

import CodeReview.Proofs.Python.Gaps
import CodeReview.Proofs.Python.Operands

/-!
Parameter lists as they stand in a text. A list is read as its parameters in their order, whatever stands in the
gaps between them. Of a default value, a type and a group of names it is only asked that the reader takes the
text of each as a whole.
-/

namespace CodeReview.Python

open Text

section Heads

def gapHeads : List Char := [' ', '\t', '\r', '\x0c', '\n', '\\', '#']

theorem filler_head (part : Filler) : ∃ d more, part.text = d :: more ∧ d ∈ gapHeads := by
  cases part with
  | joined => exact ⟨'\\', ['\n'], rfl, by decide⟩
  | comment text one => exact ⟨'#', text ++ ['\n'], rfl, by decide⟩
  | layout c plain =>
      refine ⟨c, [], rfl, ?_⟩
      simp only [isLayout, Bool.or_eq_true, beq_iff_eq] at plain
      rcases plain with (((rfl | rfl) | rfl) | rfl) | rfl <;> decide

variable (gap : Fillers) {c : Char} (more : List Char)

theorem gap_head : ∀ d ∈ (gap.text ++ c :: more).head?, d = c ∨ d ∈ gapHeads := by
  cases gap with
  | nil =>
      rintro _ ⟨⟩
      exact .inl rfl
  | cons part gap =>
      obtain ⟨d, others, same, head⟩ := filler_head part
      rw [Fillers.text, List.flatMap_cons, same]
      rintro _ ⟨⟩
      exact .inr head

theorem gap_ends_word (outside : isNameChar c = false) (unquoted : isQuoteMark c = false) :
    EndsWord (gap.text ++ c :: more) := by
  have heads : gapHeads.all (fun d => !isNameChar d && !isQuoteMark d) = true := by decide
  intro d first
  rcases gap_head gap more d first with rfl | head
  · exact ⟨outside, unquoted⟩
  · simpa using List.all_eq_true.mp heads d head

theorem gap_alone {e : Char} (mark : e ∈ shortened) (outside : c ∉ shortened) :
    ∀ d ∈ (gap.text ++ c :: more).head?, d ≠ '=' ∧ d ≠ e := by
  have heads : gapHeads.all (fun d => !shortened.contains d) = true := by decide
  intro d first
  have apart : d ∉ shortened := by
    rcases gap_head gap more d first with rfl | head
    · exact outside
    · simpa using List.all_eq_true.mp heads d head
  exact ⟨(ne_of_mem_of_not_mem (by decide) apart).symm, (ne_of_mem_of_not_mem mark apart).symm⟩

end Heads

section Behind

def Closing (rest : List Char) : Prop :=
  ∃ (gap : Fillers) (c : Char) (more : List Char), rest = gap.text ++ c :: more ∧ (c = ',' ∨ c = ')')

def Assigning (rest : List Char) : Prop :=
  ∃ (gap : Fillers) (value : List Char), rest = gap.text ++ '=' :: value ∧ ∀ d ∈ value.head?, d ≠ '='

def Ending (rest : List Char) : Prop := Closing rest ∨ Assigning rest

variable {row : Nat} {rest : List Char}

theorem closing_met (row : Nat) (closing : Closing rest) :
    ∃ a, (∀ f : Frame, f.Bracketed → Cursor.peek ⟨rest, row⟩ f = some a) ∧
      (a.token = .mark "," ∨ a.token = .mark ")") := by
  obtain ⟨gap, c, more, rfl, comma | parenthesis⟩ := closing
  · subst comma
    have comma : lexeme (',' :: more) = some (.mark ",", more) := rfl
    obtain ⟨row', met⟩ := peek_gap_text row gap rfl comma
    exact ⟨_, met, .inl rfl⟩
  · subst parenthesis
    have parenthesis : lexeme (')' :: more) = some (.mark ")", more) := rfl
    obtain ⟨row', met⟩ := peek_gap_text row gap rfl parenthesis
    exact ⟨_, met, .inr rfl⟩

theorem assigning_met (row : Nat) (gap : Fillers) (value : List Char) (lead : ∀ d ∈ value.head?, d ≠ '=') :
    ∃ row', ∀ f : Frame, f.Bracketed → Cursor.peek ⟨gap.text ++ '=' :: value, row⟩ f =
      some ⟨.mark "=", ⟨'=' :: value, row'⟩, ⟨value, row'⟩⟩ := by
  have alone : ∀ d ∈ value.head?, d ≠ '=' ∧ d ≠ '=' := fun d first => ⟨lead d first, lead d first⟩
  obtain ⟨starts, read⟩ := lexeme_mark alone (by decide)
  exact peek_gap_text row gap starts read

theorem ending_met (row : Nat) (ending : Ending rest) :
    ∃ a, (∀ f : Frame, f.Bracketed → Cursor.peek ⟨rest, row⟩ f = some a) ∧
      (a.token = .mark "=" ∨ a.token = .mark "," ∨ a.token = .mark ")") := by
  rcases ending with closing | ⟨gap, value, rfl, lead⟩
  · obtain ⟨a, met, token⟩ := closing_met row closing
    exact ⟨a, met, .inr token⟩
  · obtain ⟨row', met⟩ := assigning_met row gap value lead
    exact ⟨_, met, .inl rfl⟩

theorem ending_followed {f : Frame} (inside : f.Bracketed) (row : Nat) (ending : Ending rest) :
    Followed f expressionEnds ⟨rest, row⟩ := by
  obtain ⟨a, met, token⟩ := ending_met row ending
  refine ⟨a, ⟨met f inside, met f.orOperand (bracketed_operand inside)⟩, ?_⟩
  rcases token with token | token | token <;> rw [token] <;> decide

theorem ending_ends_word (ending : Ending rest) : EndsWord rest := by
  rcases ending with ⟨gap, c, more, rfl, rfl | rfl⟩ | ⟨gap, value, rfl, -⟩
  · exact gap_ends_word gap more rfl rfl
  · exact gap_ends_word gap more rfl rfl
  · exact gap_ends_word gap value rfl rfl

theorem closing_alone {e : Char} (mark : e ∈ shortened) (closing : Closing rest) :
    ∀ d ∈ rest.head?, d ≠ '=' ∧ d ≠ e := by
  obtain ⟨gap, c, more, rfl, rfl | rfl⟩ := closing
  · exact gap_alone gap more mark (by decide)
  · exact gap_alone gap more mark (by decide)

end Behind

section Parts

variable (f : Frame)

structure IsValue (v : List Char) : Prop where
  lead : ∃ d more, v = d :: more ∧ d ≠ '='
  read : ∀ rest row n, Closing rest → 16 * v.length + 16 ≤ n →
    ∃ shape row', readExpression n f true ⟨v ++ rest, row⟩ = some (shape, ⟨rest, row'⟩)

structure IsType (t : List Char) : Prop where
  lead : ∃ d more, t = d :: more ∧ d ≠ '=' ∧ d ≠ ':'
  read : ∀ rest row n, Ending rest → 16 * t.length + 16 ≤ n →
    ∃ row', readType n f true ⟨t ++ rest, row⟩ = some ⟨rest, row'⟩

structure IsGroup (g : List Char) : Prop where
  lead : ∃ more, g = '(' :: more
  read : ∀ rest row n, 16 * g.length + 16 ≤ n →
    ∃ shape row', shape.isTarget = true ∧ readAtom n f ⟨g ++ rest, row⟩ = some (shape, ⟨rest, row'⟩)

inductive DefaultText : Bool → List Char → Prop
  | none : DefaultText false []
  | given (gap : Fillers) {v : List Char} (value : IsValue f v) : DefaultText true (gap.text ++ '=' :: v)

inductive TypeText : Bool → List Char → Prop
  | none : TypeText false []
  | typed (gap : Fillers) {t : List Char} (type : IsType f t) : TypeText true (gap.text ++ ':' :: t)

def Parameter.ofName (w : String) : (typed given : Bool) → Parameter
  | false, false => .plain w
  | false, true => .default w
  | true, false => .typed w
  | true, true => .typedDefault w

inductive ParameterText : Parameter → List Char → Prop
  | named {w : String} {typed given : Bool} {type value : List Char} (identifier : IsIdentifier w)
      (hasType : TypeText f typed type) (hasDefault : DefaultText f given value) :
      ParameterText (.ofName w typed given) (w.toList ++ (type ++ value))
  | group {g value : List Char} {given : Bool} (names : IsGroup f g) (hasDefault : DefaultText f given value) :
      ParameterText .group (g ++ value)
  | slash : ParameterText .slash ['/']
  | star : ParameterText .star ['*']
  | rest {w : String} {typed : Bool} {type : List Char} (spaces : Nat) (identifier : IsIdentifier w)
      (hasType : TypeText f typed type) :
      ParameterText (.rest typed) ('*' :: (List.replicate spaces ' ' ++ (w.toList ++ type)))
  | keywords {w : String} {typed : Bool} {type : List Char} (spaces : Nat) (identifier : IsIdentifier w)
      (hasType : TypeText f typed type) :
      ParameterText (.keywords typed) ('*' :: '*' :: (List.replicate spaces ' ' ++ (w.toList ++ type)))

end Parts

section Reading

variable {f : Frame} (inside : f.Bracketed) {rest : List Char} {given typed : Bool} {cs : List Char}

theorem default_ending (text : DefaultText f given cs) (closing : Closing rest) : Ending (cs ++ rest) := by
  cases text with
  | none => exact .inl closing
  | @given gap v value =>
      right
      obtain ⟨d, more, rfl, lead⟩ := value.lead
      refine ⟨gap, d :: more ++ rest, by simp, ?_⟩
      rintro _ ⟨⟩
      exact lead

include inside

theorem default_reads (text : DefaultText f given cs) (closing : Closing rest) (row n : Nat)
    (enough : 16 * cs.length + 2 ≤ n) :
    ∃ row', readDefault n f ⟨cs ++ rest, row⟩ = some (given, ⟨rest, row'⟩) := by
  obtain ⟨n, rfl⟩ := Nat.exists_eq_add_of_le' (show 1 ≤ n by omega)
  cases text with
  | none =>
      obtain ⟨a, met, token⟩ := closing_met row closing
      have other : ¬ (a.token == .mark "=") = true := by
        rcases token with token | token <;> rw [token] <;> decide
      refine ⟨row, ?_⟩
      rw [List.nil_append, readDefault, met f inside, Option.bind_eq_bind, Option.bind_some, if_neg other]
  | @given gap v value =>
      obtain ⟨d, more, same, lead⟩ := value.lead
      obtain ⟨row', met⟩ := assigning_met row gap (v ++ rest) (by
        rw [same]
        rintro _ ⟨⟩
        exact lead)
      rw [List.length_append, List.length_cons] at enough
      obtain ⟨shape, row'', read⟩ := value.read rest row' n closing (by omega)
      refine ⟨row'', ?_⟩
      rw [List.append_assoc, List.cons_append, readDefault, met f inside, Option.bind_eq_bind, Option.bind_some]
      simp only [BEq.rfl, if_true, read, Option.map_some]

omit inside in
theorem type_met {t : List Char} (gap : Fillers) (type : IsType f t) (rest : List Char) (row : Nat) :
    ∃ row', ∀ f : Frame, f.Bracketed → Cursor.peek ⟨gap.text ++ ':' :: t ++ rest, row⟩ f =
      some ⟨.mark ":", ⟨':' :: (t ++ rest), row'⟩, ⟨t ++ rest, row'⟩⟩ := by
  obtain ⟨d, more, same, assign, double⟩ := type.lead
  have alone : ∀ e ∈ (t ++ rest).head?, e ≠ '=' ∧ e ≠ ':' := by
    rw [same]
    rintro _ ⟨⟩
    exact ⟨assign, double⟩
  obtain ⟨starts, read⟩ := lexeme_mark alone (by decide)
  rw [List.append_assoc, List.cons_append]
  exact peek_gap_text row gap starts read

omit inside in
theorem type_ends_word (text : TypeText f typed cs) (ending : Ending rest) : EndsWord (cs ++ rest) := by
  cases text with
  | none => exact ending_ends_word ending
  | @typed gap t type =>
      rw [List.append_assoc, List.cons_append]
      exact gap_ends_word gap (t ++ rest) rfl rfl

omit inside in
theorem no_colon {a : Ahead} (token : a.token = .mark "=" ∨ a.token = .mark "," ∨ a.token = .mark ")") :
    (a.token == .mark ":") = false := by
  rcases token with token | token | token <;> rw [token] <;> rfl

/-- A parameter with a name is read with its type and its default value. -/
theorem named_reads {w : String} {type value : List Char} (identifier : IsIdentifier w)
    (hasType : TypeText f typed type) (hasDefault : DefaultText f given value) (closing : Closing rest)
    (row n : Nat) (enough : 16 * (w.toList ++ (type ++ value)).length + 4 ≤ n) :
    ∃ row', readParameter n f true ")" ⟨w.toList ++ (type ++ (value ++ rest)), row⟩ =
      some (.ofName w typed given, ⟨rest, row'⟩) := by
  have ending := default_ending hasDefault closing
  have word := comes_word row identifier.word (type_ends_word hasType ending)
  rw [List.length_append, List.length_append] at enough
  obtain ⟨n, rfl⟩ := Nat.exists_eq_add_of_le' (show 1 ≤ n by omega)
  cases hasType with
  | none =>
      obtain ⟨b, met, token⟩ := ending_met row ending
      obtain ⟨row', read⟩ := default_reads inside hasDefault closing row n (by omega)
      refine ⟨row', ?_⟩
      rw [readParameter, word.peek, List.nil_append]
      simp only [Option.bind_eq_bind, Option.bind_some, identifier.free, met f inside, no_colon token, read,
        Bool.and_false, Bool.false_eq_true, if_true, if_false]
      cases given <;> rfl
  | @typed gap t type =>
      obtain ⟨middle, met⟩ := type_met gap type (value ++ rest) row
      rw [List.length_append, List.length_cons] at enough
      obtain ⟨behind, typeRead⟩ := type.read (value ++ rest) middle n ending (by omega)
      obtain ⟨row', read⟩ := default_reads inside hasDefault closing behind n (by omega)
      refine ⟨row', ?_⟩
      rw [readParameter, word.peek]
      simp only [Option.bind_eq_bind, Option.bind_some, identifier.free, met f inside, typeRead, read,
        BEq.rfl, Bool.and_self, if_true]
      cases given <;> rfl

theorem group_reads {g value : List Char} (names : IsGroup f g) (hasDefault : DefaultText f given value)
    (closing : Closing rest) (row n : Nat) (enough : 16 * (g ++ value).length + 18 ≤ n) :
    ∃ row', readParameter n f true ")" ⟨g ++ (value ++ rest), row⟩ = some (.group, ⟨rest, row'⟩) := by
  rw [List.length_append] at enough
  obtain ⟨n, rfl⟩ := Nat.exists_eq_add_of_le' (show 1 ≤ n by omega)
  obtain ⟨more, same⟩ := names.lead
  have opening : Comes ⟨g ++ (value ++ rest), row⟩
      ⟨.mark "(", ⟨g ++ (value ++ rest), row⟩, ⟨more ++ (value ++ rest), row⟩⟩ := by
    rw [same]
    exact comes_here rfl rfl
  obtain ⟨shape, middle, target, atom⟩ := names.read (value ++ rest) row n (by omega)
  obtain ⟨row', read⟩ := default_reads inside hasDefault closing middle n (by omega)
  refine ⟨row', ?_⟩
  rw [readParameter, opening.peek]
  simp only [Option.bind_eq_bind, Option.bind_some, atom, target, read, if_true]

end Reading

section Stars

variable {f : Frame} {rest : List Char} {typed : Bool} {cs : List Char} {row : Nat}

theorem comes_over (spaces : Nat) {ch : Char} {next : List Char} {token : Token} (starts : startsToken ch = true)
    (read : lexeme (ch :: rest) = some (token, next)) :
    Comes ⟨List.replicate spaces ' ' ++ ch :: rest, row⟩ ⟨token, ⟨ch :: rest, row⟩, ⟨next, row⟩⟩ := by
  have gap : Cursor.gap ⟨List.replicate spaces ' ' ++ ch :: rest, row⟩ =
      ⟨false, 0 + spaces, ⟨ch :: rest, row⟩⟩ := by
    rw [Cursor.gap, gap_spaces]
    exact gap_token starts
  exact ⟨peek_gap gap read, peek_gap (gap_token starts) read⟩

theorem comes_word_over (row : Nat) (spaces : Nat) {w : String} (word : IsWord w.toList) (ends : EndsWord rest) :
    Comes ⟨List.replicate spaces ' ' ++ (w.toList ++ rest), row⟩
      ⟨.word w, ⟨w.toList ++ rest, row⟩, ⟨rest, row⟩⟩ := by
  have read := lexeme_word word ends
  obtain ⟨c, more, same, starts⟩ := word_starts word
  rw [same, List.cons_append] at read ⊢
  exact comes_over spaces starts read

theorem identifier_plain {w : String} (identifier : IsIdentifier w) : PlainWord w := by
  have free := identifier.free
  simp only [isName, Bool.and_eq_true, bne_iff_ne] at free
  exact ⟨identifier.word, free.1.1, free.2⟩

theorem trailers_stop {n : Nat} {c : Cursor} {a : Ahead} {shape : Shape} {placed : Bool} (met : c.peek f = some a)
    (other : a.token ∉ [Token.mark ".", .mark "[", .mark "("]) :
    readTrailers (n + 1) f shape placed c = some (shape, placed, c) := by
  simp only [List.mem_cons, List.not_mem_nil, or_false, not_or] at other
  rw [readTrailers, met, Option.bind_eq_bind, Option.bind_some]
  split
  · next token => exact absurd token other.1
  · next token => exact absurd token other.2.1
  · next token => exact absurd token other.2.2
  · rfl

/-- What may stand directly behind a star before a name. -/
theorem star_alone (spaces : Nat) {w : String} (identifier : IsIdentifier w) (more : List Char) :
    ∀ d ∈ (List.replicate spaces ' ' ++ (w.toList ++ more)).head?, d ≠ '=' ∧ d ≠ '*' := by
  cases spaces with
  | succ n =>
      rintro _ ⟨⟩
      decide
  | zero =>
      obtain ⟨c, letters, same, start⟩ := identifier.word.start
      rw [same]
      rintro _ ⟨⟩
      exact ⟨char_apart start '=' rfl, char_apart start '*' rfl⟩

theorem lexeme_stars {more : List Char} (alone : ∀ d ∈ more.head?, d ≠ '=' ∧ d ≠ '*') :
    lexeme ('*' :: '*' :: more) = some (.mark "**", more) := by
  have quoted (q : Quote) : openQuote q ('*' :: '*' :: more) = none := rfl
  have assign : dropMark? "**=".toList ('*' :: '*' :: more) = none := by
    cases more with
    | nil => rfl
    | cons d more =>
        have other : ¬ ('=' == d) = true := fun same => (alone d rfl).1 (beq_iff_eq.mp same).symm
        change (if '=' == d then dropMark? [] more else none) = none
        rw [if_neg other]
  have mark : markAt ('*' :: '*' :: more) = some (.mark "**", more) := by
    simp only [markAt, longMarks, List.findSome?_cons, assign]
    rfl
  rw [lexeme.eq_def, quoted]
  simp only [mark]
  rfl

variable (inside : f.Bracketed)

include inside

theorem collector_reads {w : String} (spaces : Nat) (identifier : IsIdentifier w)
    (hasType : TypeText f typed cs) (closing : Closing rest) (row n : Nat)
    (enough : 16 * cs.length + 16 ≤ n) :
    ∃ row', readCollector n f true ⟨List.replicate spaces ' ' ++ (w.toList ++ (cs ++ rest)), row⟩ =
      some (typed, ⟨rest, row'⟩) := by
  have ending : Ending rest := .inl closing
  have plain := identifier_plain identifier
  have word := comes_word_over row spaces identifier.word (type_ends_word hasType ending)
  obtain ⟨n, rfl⟩ := Nat.exists_eq_add_of_le' (show 3 ≤ n by omega)
  have primary {b : Ahead} (met : Cursor.peek ⟨cs ++ rest, row⟩ f = some b)
      (other : b.token ∉ [Token.mark ".", .mark "[", .mark "("]) :
      readPrimary (n + 2) f ⟨List.replicate spaces ' ' ++ (w.toList ++ (cs ++ rest)), row⟩ =
        some (.name, ⟨cs ++ rest, row⟩) := by
    rw [primary_operand (word.peek _) plain.plain, word_atom (word.again _) rfl plain.operand _ (by omega)]
    simp only [Option.bind_eq_bind, Option.bind_some, trailers_stop met other]
  cases hasType with
  | none =>
      obtain ⟨b, met, token⟩ := ending_met row ending
      have other : b.token ∉ [Token.mark ".", .mark "[", .mark "("] := by
        rcases token with token | token | token <;> rw [token] <;> decide
      refine ⟨row, ?_⟩
      rw [readCollector, primary (met f inside) other]
      simp only [Option.bind_eq_bind, Option.bind_some, List.nil_append, met f inside, no_colon token,
        Bool.and_false, Bool.false_eq_true, if_false]
      rfl
  | @typed gap t type =>
      obtain ⟨middle, met⟩ := type_met gap type rest row
      rw [List.length_append, List.length_cons] at enough
      obtain ⟨row', read⟩ := type.read rest middle (n + 2) ending (by omega)
      refine ⟨row', ?_⟩
      rw [readCollector, primary (met f inside) (by simp)]
      simp only [Option.bind_eq_bind, Option.bind_some, met f inside, read]
      rfl

theorem rest_reads {w : String} (spaces : Nat) (identifier : IsIdentifier w)
    (hasType : TypeText f typed cs) (closing : Closing rest) (n : Nat) (enough : 16 * cs.length + 17 ≤ n) :
    ∃ row', readParameter n f true ")" ⟨'*' :: (List.replicate spaces ' ' ++ (w.toList ++ (cs ++ rest))), row⟩ =
      some (.rest typed, ⟨rest, row'⟩) := by
  have ending : Ending rest := .inl closing
  obtain ⟨starts, star⟩ := lexeme_mark (star_alone spaces identifier (cs ++ rest)) (by decide)
  have first : Comes ⟨'*' :: (List.replicate spaces ' ' ++ (w.toList ++ (cs ++ rest))), row⟩ ⟨.mark "*", _, _⟩ :=
    comes_here starts star
  have word := comes_word_over row spaces identifier.word (type_ends_word hasType ending)
  obtain ⟨n, rfl⟩ := Nat.exists_eq_add_of_le' (show 1 ≤ n by omega)
  obtain ⟨row', read⟩ := collector_reads inside 0 identifier hasType closing row n (by omega)
  rw [List.replicate_zero, List.nil_append] at read
  refine ⟨row', ?_⟩
  rw [readParameter, first.peek]
  simp only [Option.bind_eq_bind, Option.bind_some, word.peek, read]
  rfl

theorem keywords_reads {w : String} (spaces : Nat) (identifier : IsIdentifier w)
    (hasType : TypeText f typed cs) (closing : Closing rest) (n : Nat) (enough : 16 * cs.length + 17 ≤ n) :
    ∃ row', readParameter n f true ")"
      ⟨'*' :: '*' :: (List.replicate spaces ' ' ++ (w.toList ++ (cs ++ rest))), row⟩ =
        some (.keywords typed, ⟨rest, row'⟩) := by
  obtain ⟨n, rfl⟩ := Nat.exists_eq_add_of_le' (show 1 ≤ n by omega)
  obtain ⟨row', read⟩ := collector_reads inside spaces identifier hasType closing row n (by omega)
  have first : Comes ⟨'*' :: '*' :: (List.replicate spaces ' ' ++ (w.toList ++ (cs ++ rest))), row⟩
      ⟨.mark "**", _, _⟩ := comes_here rfl (lexeme_stars (star_alone spaces identifier (cs ++ rest)))
  refine ⟨row', ?_⟩
  rw [readParameter, first.peek]
  simp only [Option.bind_eq_bind, Option.bind_some, read]

omit inside in
theorem slash_reads (closing : Closing rest) (n : Nat) :
    readParameter (n + 1) f true ")" ⟨'/' :: rest, row⟩ = some (.slash, ⟨rest, row⟩) := by
  have mark : '/' ∈ shortened := by decide
  obtain ⟨starts, slash⟩ := lexeme_mark (closing_alone mark closing) mark
  have first : Comes ⟨'/' :: rest, row⟩ ⟨.mark "/", _, _⟩ := comes_here starts slash
  rw [readParameter, first.peek]
  rfl

theorem star_reads (closing : Closing rest) (n : Nat) :
    readParameter (n + 1) f true ")" ⟨'*' :: rest, row⟩ = some (.star, ⟨rest, row⟩) := by
  have mark : '*' ∈ shortened := by decide
  obtain ⟨starts, star⟩ := lexeme_mark (closing_alone mark closing) mark
  obtain ⟨b, met, token⟩ := closing_met row closing
  have first : Comes ⟨'*' :: rest, row⟩ ⟨.mark "*", _, _⟩ := comes_here starts star
  rw [readParameter, first.peek]
  simp only [Option.bind_eq_bind, Option.bind_some, met f.orOperand (bracketed_operand inside)]
  rcases token with token | token <;> rw [token] <;> rfl

end Stars

inductive Item
  | comment (text : List Char)
  | parameter (p : Parameter)
  deriving DecidableEq, Repr

def Item.parameter? : Item → Option Parameter
  | .comment _ => none
  | .parameter p => some p

def Filler.comment? : Filler → Option Item
  | .comment text _ => some (.comment text)
  | _ => none

def Fillers.comments (gap : Fillers) : List Item := gap.filterMap Filler.comment?

inductive ListText (f : Frame) : List Char → List Item → Prop
  | nil (gap : Fillers) : ListText f gap.text gap.comments
  | last (gap gap' : Fillers) {p : Parameter} {cs : List Char} (parameter : ParameterText f p cs) :
      ListText f (gap.text ++ (cs ++ gap'.text)) (gap.comments ++ .parameter p :: gap'.comments)
  | more (gap gap' : Fillers) {p : Parameter} {cs list : List Char} {items : List Item}
      (parameter : ParameterText f p cs) (rest : ListText f list items) :
      ListText f (gap.text ++ (cs ++ (gap'.text ++ ',' :: list)))
        (gap.comments ++ .parameter p :: (gap'.comments ++ items))

section Lists

variable {f : Frame} {p : Parameter} {cs rest : List Char}

theorem parameter_begins (text : ParameterText f p cs) (closing : Closing rest) :
    ∃ ch more token next, cs ++ rest = ch :: more ∧ startsToken ch = true ∧
      lexeme (ch :: more) = some (token, next) ∧ token ≠ .mark ")" := by
  cases text with
  | @named w typed given type value identifier hasType hasDefault =>
      have ends := type_ends_word hasType (default_ending hasDefault closing)
      have read := lexeme_word identifier.word ends
      obtain ⟨c, letters, same, starts⟩ := word_starts identifier.word
      rw [List.append_assoc, List.append_assoc]
      rw [same, List.cons_append] at read ⊢
      exact ⟨c, _, _, _, rfl, starts, read, by simp⟩
  | group names hasDefault =>
      obtain ⟨more, same⟩ := names.lead
      rw [same]
      exact ⟨'(', _, .mark "(", _, rfl, rfl, rfl, by decide⟩
  | slash =>
      have mark : '/' ∈ shortened := by decide
      obtain ⟨starts, read⟩ := lexeme_mark (closing_alone mark closing) mark
      exact ⟨'/', rest, _, _, rfl, starts, read, by decide⟩
  | star =>
      have mark : '*' ∈ shortened := by decide
      obtain ⟨starts, read⟩ := lexeme_mark (closing_alone mark closing) mark
      exact ⟨'*', rest, _, _, rfl, starts, read, by decide⟩
  | @rest w typed type spaces identifier hasType =>
      obtain ⟨starts, read⟩ := lexeme_mark (star_alone spaces identifier (type ++ rest)) (by decide)
      refine ⟨'*', _, _, _, ?_, starts, read, by decide⟩
      simp only [List.cons_append, List.append_assoc]
  | @keywords w typed type spaces identifier hasType =>
      have read := lexeme_stars (star_alone spaces identifier (type ++ rest))
      refine ⟨'*', _, _, _, ?_, by decide, read, by decide⟩
      simp only [List.cons_append, List.append_assoc]

theorem parameter_reads (inside : f.Bracketed) (text : ParameterText f p cs) (closing : Closing rest) (row n : Nat)
    (enough : 16 * cs.length + 18 ≤ n) :
    ∃ row', readParameter n f true ")" ⟨cs ++ rest, row⟩ = some (p, ⟨rest, row'⟩) := by
  cases text with
  | named identifier hasType hasDefault =>
      simp only [List.append_assoc]
      exact named_reads inside identifier hasType hasDefault closing row n (by omega)
  | group names hasDefault =>
      rw [List.append_assoc]
      exact group_reads inside names hasDefault closing row n enough
  | slash =>
      obtain ⟨n, rfl⟩ := Nat.exists_eq_add_of_le' (show 1 ≤ n by omega)
      exact ⟨row, slash_reads closing n⟩
  | star =>
      obtain ⟨n, rfl⟩ := Nat.exists_eq_add_of_le' (show 1 ≤ n by omega)
      exact ⟨row, star_reads inside closing n⟩
  | rest spaces identifier hasType =>
      simp only [List.length_cons, List.length_append] at enough
      simp only [List.cons_append, List.append_assoc]
      exact rest_reads inside spaces identifier hasType closing n (by omega)
  | keywords spaces identifier hasType =>
      simp only [List.length_cons, List.length_append] at enough
      simp only [List.cons_append, List.append_assoc]
      exact keywords_reads inside spaces identifier hasType closing n (by omega)

/-- A comment is not a parameter. -/
theorem comments_dropped (gap : Fillers) (items : List Item) :
    (gap.comments ++ items).filterMap Item.parameter? = items.filterMap Item.parameter? := by
  induction gap with
  | nil => rfl
  | cons part gap ih => cases part <;> exact ih

theorem parameter_kept (p : Parameter) (items : List Item) :
    (Item.parameter p :: items).filterMap Item.parameter? = p :: items.filterMap Item.parameter? := rfl

theorem closing_comma (gap : Fillers) (list : List Char) : Closing (gap.text ++ ',' :: list) :=
  ⟨gap, ',', list, rfl, .inl rfl⟩

theorem closing_parenthesis (gap : Fillers) (tail : List Char) : Closing (gap.text ++ ')' :: tail) :=
  ⟨gap, ')', tail, rfl, .inr rfl⟩

theorem entry_reads (inside : f.Bracketed) (gap : Fillers) (text : ParameterText f p cs) (closing : Closing rest)
    (row n : Nat) (enough : 16 * cs.length + 18 ≤ n) :
    ∃ row', readParameters (n + 1) f true ")" ⟨gap.text ++ (cs ++ rest), row⟩ =
      (Cursor.peek ⟨rest, row'⟩ f).bind fun b =>
        if b.token == .mark ")" then some ([p], b.next)
        else if b.token == .mark "," then
          (readParameters n f true ")" b.next).bind fun (parameters, c) => some (p :: parameters, c)
        else none := by
  obtain ⟨ch, more, token, next, same, starts, read, other⟩ := parameter_begins text closing
  obtain ⟨middle, met⟩ := peek_gap_text row gap starts read
  obtain ⟨row', one⟩ := parameter_reads inside text closing middle n enough
  refine ⟨row', ?_⟩
  rw [same] at one ⊢
  rw [readParameters, met _ (bracketed_operand inside)]
  simp only [Option.bind_eq_bind, Option.bind_some, beq_iff_eq, other, if_false, one]

/-- A list is read as the parameters in it. -/
theorem parameters_read (inside : f.Bracketed) {list : List Char} {items : List Item}
    (text : ListText f list items) (tail : List Char) (row n : Nat) (enough : 16 * list.length + 19 ≤ n) :
    ∃ row', readParameters n f true ")" ⟨list ++ ')' :: tail, row⟩ =
      some (items.filterMap Item.parameter?, ⟨tail, row'⟩) := by
  have parenthesis : lexeme (')' :: tail) = some (.mark ")", tail) := rfl
  obtain ⟨n, rfl⟩ := Nat.exists_eq_add_of_le' (show 1 ≤ n by omega)
  -- one parameter takes one step, and each step has fuel for its text
  induction text generalizing row n with
  | nil gap =>
      obtain ⟨row', met⟩ := peek_gap_text row gap rfl parenthesis
      refine ⟨row', ?_⟩
      have none := comments_dropped gap []
      rw [List.append_nil] at none
      rw [readParameters, met _ (bracketed_operand inside), none]
      rfl
  | @last gap gap' p cs parameter =>
      simp only [List.length_append] at enough
      obtain ⟨middle, entry⟩ :=
        entry_reads inside gap parameter (closing_parenthesis gap' tail) row n (by omega)
      obtain ⟨row', met⟩ := peek_gap_text middle gap' rfl parenthesis
      refine ⟨row', ?_⟩
      have none := comments_dropped gap' []
      rw [List.append_nil] at none
      rw [List.append_assoc, List.append_assoc, entry, met f inside, comments_dropped,
        parameter_kept, none]
      rfl
  | @more gap gap' p cs list items parameter rest ih =>
      simp only [List.length_append, List.length_cons] at enough
      have comma : lexeme (',' :: (list ++ ')' :: tail)) = some (.mark ",", list ++ ')' :: tail) := rfl
      obtain ⟨middle, entry⟩ :=
        entry_reads inside gap parameter (closing_comma gap' (list ++ ')' :: tail)) row n (by omega)
      obtain ⟨behind, met⟩ := peek_gap_text middle gap' rfl comma
      obtain ⟨n, rfl⟩ := Nat.exists_eq_add_of_le' (show 1 ≤ n by omega)
      obtain ⟨row', others⟩ := ih behind n (by omega)
      refine ⟨row', ?_⟩
      rw [List.append_assoc, List.append_assoc, List.append_assoc, List.cons_append, entry, met f inside,
        comments_dropped, parameter_kept, comments_dropped]
      simp only [Option.bind_some, others]
      rfl

end Lists

end CodeReview.Python

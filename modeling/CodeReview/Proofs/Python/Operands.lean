import CodeReview.Proofs.Python.Named

/-!
Operands that nothing extends: what the readers of expressions answer at a name, at a literal and at a call
when the token behind it ends the expression. The answer may be a refusal, which then is that of the whole.
-/

namespace CodeReview.Python

open Text

section Ends

/-- What is found behind an operand, also when another operand could come there. -/
structure Meets (f : Frame) (c : Cursor) (a : Ahead) : Prop where
  peek : c.peek f = some a
  operand : c.peek f.orOperand = some a

theorem Comes.meets {c : Cursor} {a : Ahead} (comes : Comes c a) (f : Frame) : Meets f c a :=
  ⟨comes.peek f, comes.peek f.orOperand⟩

def Followed (f : Frame) (ends : List Token) (c : Cursor) : Prop := ∃ a, Meets f c a ∧ a.token ∈ ends

def expressionEnds : List Token := [.lineEnd, .mark "=", .mark ",", .mark ")"]

def operandEnds : List Token := .word "is" :: expressionEnds

variable {n : Nat} {f : Frame} {c : Cursor} {shape : Shape} {placed conditional : Bool}

theorem Followed.widened {ends more : List Token} (followed : Followed f ends c)
    (wider : ∀ t ∈ ends, t ∈ more) : Followed f more c :=
  followed.imp fun _ found => ⟨found.1, wider _ found.2⟩

theorem trailers_end (followed : Followed f operandEnds c) :
    readTrailers (n + 1) f shape placed c = some (shape, placed, c) := by
  obtain ⟨a, meets, ends⟩ := followed
  simp only [operandEnds, expressionEnds, List.mem_cons, List.not_mem_nil, or_false] at ends
  rw [readTrailers, meets.peek, Option.bind_eq_bind, Option.bind_some]
  rcases ends with token | token | token | token | token <;> rw [token] <;> rfl

theorem addends_end (followed : Followed f operandEnds c) :
    readAddends (n + 1) f shape c = some (shape, c) := by
  obtain ⟨a, meets, ends⟩ := followed
  simp only [operandEnds, expressionEnds, List.mem_cons, List.not_mem_nil, or_false] at ends
  rw [readAddends, meets.peek, Option.bind_eq_bind, Option.bind_some]
  rcases ends with token | token | token | token | token <;> rw [token] <;> rfl

theorem comparands_end (followed : Followed f expressionEnds c) :
    readComparands (n + 1) f shape c = some (shape, c) := by
  obtain ⟨a, meets, ends⟩ := followed
  simp only [expressionEnds, List.mem_cons, List.not_mem_nil, or_false] at ends
  rw [readComparands, meets.peek, Option.bind_eq_bind, Option.bind_some]
  rcases ends with token | token | token | token <;> rw [token] <;> rfl

theorem terms_end (followed : Followed f expressionEnds c) :
    readTerms (n + 1) f conditional shape c = some (shape, c) := by
  obtain ⟨a, meets, ends⟩ := followed
  simp only [expressionEnds, List.mem_cons, List.not_mem_nil, or_false] at ends
  rw [readTerms, meets.peek, Option.bind_eq_bind, Option.bind_some]
  rcases ends with token | token | token | token <;> rw [token] <;> rfl

theorem tail_end (followed : Followed f expressionEnds c) :
    readTail (n + 1) f conditional shape c = some (shape, c) := by
  obtain ⟨a, meets, ends⟩ := followed
  simp only [expressionEnds, List.mem_cons, List.not_mem_nil, or_false] at ends
  rw [readTail, meets.peek, Option.bind_eq_bind, Option.bind_some]
  rcases ends with token | token | token | token <;> rw [token]

end Ends

section Leads

/-- Tokens before which a reader of expressions does not simply look for an operand. -/
def leadTokens : List Token :=
  [.word "not", .word "lambda", .word "await", .word "yield", .mark "+", .mark "-", .mark "~", .mark "*",
    .mark "**"]

/-- A token that begins an operand, and is not the name of a named expression. -/
structure Leads (f : Frame) (a : Ahead) : Prop where
  plain : a.token ∉ leadTokens
  unnamed : ∀ w, a.token = .word w → ∃ b, Meets f a.next b ∧ b.token ≠ .mark ":="

variable {n : Nat} {f : Frame} {c : Cursor} {a : Ahead} {conditional : Bool}

theorem primary_operand (met : c.peek f.begin = some a) (plain : a.token ∉ leadTokens) :
    readPrimary (n + 1) f c = (do
      let (shape, c) ← readAtom n f a.start
      let (shape, _, c) ← readTrailers n f shape (shape == .name) c
      some (shape, c)) := by
  rw [readPrimary, met, Option.bind_eq_bind, Option.bind_some]
  split
  case h_6 => rfl
  all_goals
    next token => exact absurd (token ▸ by decide) plain

theorem term_operand (met : c.peek f.begin = some a) (lead : Leads f a) :
    readTerm (n + 1) f conditional c = readComparison n f a.start := by
  rw [readTerm, met, Option.bind_eq_bind, Option.bind_some]
  split
  · next token => exact absurd (token ▸ by decide) lead.plain
  · next token => exact absurd (token ▸ by decide) lead.plain
  · next w _ _ token =>
      obtain ⟨b, meets, other⟩ := lead.unnamed w token
      rw [meets.operand, Option.bind_some, if_neg]
      exact fun both => other (beq_iff_eq.mp (Bool.and_eq_true_iff.mp both).2)
  · rfl

theorem element_operand (met : c.peek f.begin = some a) (plain : a.token ∉ leadTokens) :
    readElement (n + 1) f c = readChain n f true a.start := by
  rw [readElement, met, Option.bind_eq_bind, Option.bind_some]
  split
  case h_3 => rfl
  all_goals
    next token => exact absurd (token ▸ by decide) plain

theorem argument_operand (met : c.peek f.begin = some a) (lead : Leads f a)
    (unassigned : ∀ w, a.token = .word w → ∀ b, a.next.peek f = some b → b.token ≠ .mark "=") :
    readArgument (n + 1) f c = readElement n f a.start := by
  rw [readArgument, met, Option.bind_eq_bind, Option.bind_some]
  split
  · next token => exact absurd (token ▸ by decide) lead.plain
  · next token => exact absurd (token ▸ by decide) lead.plain
  · next w _ token =>
      obtain ⟨b, meets, -⟩ := lead.unnamed w token
      rw [meets.peek, Option.bind_some, if_neg]
      exact fun both => unassigned w token b meets.peek (beq_iff_eq.mp (Bool.and_eq_true_iff.mp both).2)
  · rfl

end Leads

section Chains

variable {k : Nat} {f : Frame} {c : Cursor} {a : Ahead} {conditional : Bool}
  {result : Option (Shape × Cursor)}

theorem sum_reads (primary : ∀ n ≥ k, readPrimary n f c = result)
    (ends : ∀ p ∈ result, Followed f operandEnds p.2) : ∀ n ≥ k + 2, readSum n f c = result := by
  intro n enough
  obtain ⟨n, rfl⟩ := Nat.exists_eq_add_of_le' (show 2 ≤ n by omega)
  rw [readSum, primary _ (by omega)]
  cases result with
  | none => rfl
  | some p => exact addends_end (ends p rfl)

theorem comparison_reads (sum : ∀ n ≥ k, readSum n f c = result)
    (ends : ∀ p ∈ result, Followed f expressionEnds p.2) :
    ∀ n ≥ k + 2, readComparison n f c = result := by
  intro n enough
  obtain ⟨n, rfl⟩ := Nat.exists_eq_add_of_le' (show 2 ≤ n by omega)
  rw [readComparison, sum _ (by omega)]
  cases result with
  | none => rfl
  | some p => exact comparands_end (ends p rfl)

theorem chain_reads (met : c.peek f.begin = some a) (lead : Leads f a)
    (comparison : ∀ n ≥ k, readComparison n f a.start = result)
    (ends : ∀ p ∈ result, Followed f expressionEnds p.2) :
    ∀ n ≥ k + 3, readChain n f conditional c = result := by
  intro n enough
  obtain ⟨n, rfl⟩ := Nat.exists_eq_add_of_le' (show 3 ≤ n by omega)
  rw [readChain, term_operand met lead, comparison _ (by omega)]
  cases result with
  | none => rfl
  | some p =>
      obtain ⟨shape, after⟩ := p
      have followed := ends _ rfl
      simp only [Option.bind_eq_bind, Option.bind_some, terms_end followed]
      exact tail_end followed

/-- An operand begins at a token, and nothing that belongs to the same expression is behind it. -/
structure Stands (k : Nat) (f : Frame) (c : Cursor) (a : Ahead) (result : Option (Shape × Cursor)) : Prop where
  comes : Comes c a
  lead : Leads f a
  primary : ∀ n ≥ k, readPrimary n f a.start = result
  ends : ∀ p ∈ result, Followed f expressionEnds p.2

-- What ends an expression ends each of its levels, so one condition on what is behind serves them all.
theorem operand_chain (stands : Stands k f c a result) :
    ∀ n ≥ k + 7, readChain n f conditional c = result :=
  chain_reads (stands.comes.peek _) stands.lead
    (comparison_reads
      (sum_reads stands.primary fun p found =>
        (stands.ends p found).widened fun _ => List.mem_cons_of_mem _)
      stands.ends)
    stands.ends

theorem Stands.more {m : Nat} (stands : Stands k f c a result) (more : k ≤ m) : Stands m f c a result :=
  ⟨stands.comes, stands.lead, fun n enough => stands.primary n (Nat.le_trans more enough), stands.ends⟩

theorem Stands.again (stands : Stands k f c a result) : Stands k f a.start a result :=
  ⟨⟨stands.comes.again, stands.comes.again⟩, stands.lead, stands.primary, stands.ends⟩

theorem expression_reads (chain : ∀ n ≥ k, readChain n f conditional c = result)
    (whole : ∀ p ∈ result, p.1 ≠ .loose) : ∀ n ≥ k + 1, readExpression n f conditional c = result := by
  intro n enough
  obtain ⟨n, rfl⟩ := Nat.exists_eq_add_of_le' (show 1 ≤ n by omega)
  rw [readExpression, chain _ (by omega)]
  cases result with
  | none => rfl
  | some p => exact if_neg fun loose => whole p rfl (beq_iff_eq.mp loose)

theorem expressions_read (expression : ∀ n ≥ k, readExpression n f conditional c = result)
    (alone : ∀ p ∈ result, Followed f [.lineEnd, .mark "="] p.2) :
    ∀ n ≥ k + 1, readExpressions n f conditional c = result.map fun p => ([p.1], p.2) := by
  intro n enough
  obtain ⟨n, rfl⟩ := Nat.exists_eq_add_of_le' (show 1 ≤ n by omega)
  rw [readExpressions, expression _ (by omega)]
  cases result with
  | none => rfl
  | some p =>
      obtain ⟨b, meets, ends⟩ := alone p rfl
      rw [Option.bind_eq_bind, Option.bind_some]
      simp only [meets.peek, Option.bind_eq_bind, Option.bind_some]
      rw [if_neg]
      · rfl
      · intro comma
        rw [beq_iff_eq.mp comma] at ends
        exact absurd ends (by decide)

theorem argument_reads (stands : Stands k f c a result)
    (unassigned : ∀ w, a.token = .word w → ∀ b, a.next.peek f = some b → b.token ≠ .mark "=") :
    ∀ n ≥ k + 9, readArgument n f c = result := by
  intro n enough
  obtain ⟨n, rfl⟩ := Nat.exists_eq_add_of_le' (show 2 ≤ n by omega)
  rw [argument_operand (stands.comes.peek _) stands.lead unassigned,
    element_operand (stands.comes.again _) stands.lead.plain]
  exact operand_chain stands.again n (by omega)

end Chains

section Atoms

variable {k row : Nat} {f : Frame} {c : Cursor} {a b : Ahead} {result : Option (Shape × Cursor)}

theorem atom_primary (met : c.peek f.begin = some a) (plain : a.token ∉ leadTokens)
    (atom : ∀ n ≥ k, readAtom n f a.start = result) (ends : ∀ p ∈ result, Followed f operandEnds p.2) :
    ∀ n ≥ k + 2, readPrimary n f c = result := by
  intro n enough
  obtain ⟨n, rfl⟩ := Nat.exists_eq_add_of_le' (show 2 ≤ n by omega)
  rw [primary_operand met plain, atom _ (by omega)]
  cases result with
  | none => rfl
  | some p =>
      obtain ⟨shape, after⟩ := p
      simp only [Option.bind_eq_bind, Option.bind_some, trailers_end (ends _ rfl)]

structure PlainWord (w : String) : Prop where
  word : IsWord w.toList
  operand : isOperandName w = true
  ready : w ≠ "await"

instance (w : String) : Decidable (PlainWord w) :=
  decidable_of_iff (IsWord w.toList ∧ isOperandName w = true ∧ w ≠ "await")
    ⟨fun plain => ⟨plain.1, plain.2.1, plain.2.2⟩, fun plain => ⟨plain.word, plain.operand, plain.ready⟩⟩

theorem PlainWord.plain {w : String} (plain : PlainWord w) : Token.word w ∉ leadTokens := by
  have other {v : String} (keyword : isOperandName v = false) : w ≠ v := by
    rintro rfl
    rw [plain.operand] at keyword
    cases keyword
  simp only [leadTokens, List.mem_cons, List.not_mem_nil, Token.word.injEq, reduceCtorEq, or_false]
  rintro (same | same | same | same)
  · exact other (by decide) same
  · exact other (by decide) same
  · exact plain.ready same
  · exact other (by decide) same

variable (met : a.start.peek f.begin = some a)

include met

theorem word_atom {w : String} (token : a.token = .word w) (operand : isOperandName w = true) :
    ∀ n ≥ 1, readAtom n f a.start = some (.name, a.next) := by
  intro n enough
  obtain ⟨n, rfl⟩ := Nat.exists_eq_add_of_le' enough
  rw [readAtom, met]
  simp only [Option.bind_eq_bind, Option.bind_some, token, operand, if_true]

theorem constant_atom {w : String} (token : a.token = .word w) (keyword : isOperandName w = false)
    (constant : w = "True" ∨ w = "False" ∨ w = "None") :
    ∀ n ≥ 1, readAtom n f a.start = some (.other, a.next) := by
  intro n enough
  obtain ⟨n, rfl⟩ := Nat.exists_eq_add_of_le' enough
  rw [readAtom, met]
  rcases constant with rfl | rfl | rfl <;>
    simp only [Option.bind_eq_bind, Option.bind_some, token, keyword] <;> rfl

theorem number_atom (token : a.token = .number) :
    ∀ n ≥ 1, readAtom n f a.start = some (.other, a.next) := by
  intro n enough
  obtain ⟨n, rfl⟩ := Nat.exists_eq_add_of_le' enough
  rw [readAtom, met]
  simp only [Option.bind_eq_bind, Option.bind_some, token]

theorem brackets_atom (token : a.token = .mark "[") (comes : Comes a.next b) (closes : b.token = .mark "]") :
    ∀ n ≥ 2, readAtom n f a.start = some (.group, b.next) := by
  intro n enough
  obtain ⟨n, rfl⟩ := Nat.exists_eq_add_of_le' enough
  rw [readAtom, met]
  simp only [Option.bind_eq_bind, Option.bind_some, token]
  rw [readBracketed, comes.peek, Option.bind_eq_bind, Option.bind_some, closes]
  rfl

theorem braces_atom (token : a.token = .mark "\x7b") (comes : Comes a.next b)
    (closes : b.token = .mark "\x7d") : ∀ n ≥ 2, readAtom n f a.start = some (.other, b.next) := by
  intro n enough
  obtain ⟨n, rfl⟩ := Nat.exists_eq_add_of_le' enough
  rw [readAtom, met]
  simp only [Option.bind_eq_bind, Option.bind_some, token]
  rw [readBraced, comes.peek]
  simp only [Option.bind_eq_bind, Option.bind_some, closes]
  rfl

theorem text_atom {q : Quote} {after : Option Cursor} (token : a.token = .quote q)
    (body : ∀ n ≥ 1, readTextBody n f q a.next = after)
    (ends : ∀ c ∈ after, Followed f operandEnds c) :
    ∀ n ≥ 3, readAtom n f a.start = after.map fun c => (.text, c) := by
  intro n enough
  obtain ⟨n, rfl⟩ := Nat.exists_eq_add_of_le' enough
  rw [readAtom, met]
  simp only [Option.bind_eq_bind, Option.bind_some, token]
  rw [readText, body _ (by omega)]
  cases after with
  | none => rfl
  | some c =>
      obtain ⟨b, meets, end_⟩ := ends c rfl
      simp only [operandEnds, expressionEnds, List.mem_cons, List.not_mem_nil, or_false] at end_
      rw [Option.bind_eq_bind, Option.bind_some, meets.operand]
      rcases end_ with token | token | token | token | token <;>
        simp only [Option.bind_eq_bind, Option.bind_some, token, Option.map_some]

omit met in
theorem word_stands {w : String} (comes : Comes c a) (token : a.token = .word w) (plain : PlainWord w)
    (behind : Comes a.next b) (ends : b.token ∈ expressionEnds) : Stands 3 f c a (some (.name, a.next)) := by
  have lead : a.token ∉ leadTokens := token ▸ plain.plain
  have followed : Followed f expressionEnds a.next := ⟨b, behind.meets f, ends⟩
  refine ⟨comes, ⟨lead, fun _ _ => ⟨b, behind.meets f, ?_⟩⟩,
    atom_primary (comes.again _) lead (word_atom (comes.again _) token plain.operand) ?_, ?_⟩
  · intro named
    rw [named] at ends
    exact absurd ends (by decide)
  · rintro _ ⟨⟩
    exact followed.widened fun _ => List.mem_cons_of_mem _
  · rintro _ ⟨⟩
    exact followed

end Atoms

section Texts

variable {f : Frame} {q : Quote} {c c' : Cursor}

theorem text_closed (scan : scanText q true 0 c.row c.rest = .closed c') :
    ∀ n ≥ 1, readTextBody n f q c = some c' := by
  intro n enough
  obtain ⟨n, rfl⟩ := Nat.exists_eq_add_of_le' enough
  rw [readTextBody, scan]

theorem text_unclosed (scan : scanText q true 0 c.row c.rest = .unclosed) :
    ∀ n ≥ 1, readTextBody n f q c = none := by
  intro n enough
  obtain ⟨n, rfl⟩ := Nat.exists_eq_add_of_le' enough
  rw [readTextBody, scan]

end Texts

section Calls

variable {k row : Nat} {f : Frame} {c : Cursor} {a : Ahead} {rest : List Char} {w : String}

theorem ends_word (d : Char) (rest : List Char) (outside : isNameChar d = false) (unquoted : isQuoteMark d = false) :
    EndsWord (d :: rest) := by
  rintro _ ⟨⟩
  exact ⟨outside, unquoted⟩

theorem name_no_digit {d : Char} (start : isNameStart d = true) : d.isDigit = false := by
  refine Bool.eq_false_iff.mpr fun digit => ?_
  have low : d.toNat ≤ 57 := (show 48 ≤ d.val ∧ d.val ≤ 57 by simpa [Char.isDigit] using digit).2
  rw [isNameStart, if_pos (by omega)] at start
  rcases Bool.or_eq_true_iff.mp start with letter | line
  · have high : 65 ≤ d.toNat := by
      rcases Bool.or_eq_true_iff.mp letter with upper | lower
      · exact (of_decide_eq_true upper : 65 ≤ d.val ∧ d.val ≤ 90).1
      · have first : (decide (97 ≤ d.val) && decide (d.val ≤ 122)) = true := lower
        exact Nat.le_trans (by decide) (of_decide_eq_true (Bool.and_eq_true_iff.mp first).1)
    omega
  · rw [beq_iff_eq.mp line] at low
    exact absurd low (by decide)

theorem lexeme_dot (word : IsWord w.toList) :
    lexeme ('.' :: (w.toList ++ rest)) = some (.mark ".", w.toList ++ rest) := by
  obtain ⟨d, more, same, start⟩ := word.start
  rw [same, List.cons_append]
  have digit : startsDigit (d :: (more ++ rest)) = false := name_no_digit start
  have dot : ('.' == d) = false := beq_false_of_ne (char_apart start '.' rfl).symm
  have quoted (q : Quote) : openQuote q ('.' :: d :: (more ++ rest)) = none := rfl
  have dots : dropMark? "...".toList ('.' :: d :: (more ++ rest)) = none := by
    change (if '.' == d then dropMark? ['.'] (more ++ rest) else none) = none
    rw [dot]
    rfl
  have mark : markAt ('.' :: d :: (more ++ rest)) = some (.mark ".", d :: (more ++ rest)) := by
    simp only [markAt, longMarks, List.findSome?_cons, dots]
    rfl
  rw [lexeme.eq_def, quoted]
  simp only [digit, mark]
  rfl

theorem comes_closing : Comes ⟨')' :: rest, row⟩ ⟨.mark ")", ⟨')' :: rest, row⟩, ⟨rest, row⟩⟩ :=
  comes_here rfl rfl

theorem comes_comma : Comes ⟨',' :: rest, row⟩ ⟨.mark ",", ⟨',' :: rest, row⟩, ⟨rest, row⟩⟩ :=
  comes_here rfl rfl

theorem call_primary {w' : String} {result : Option Cursor} (plain : PlainWord w) (named : IsIdentifier w')
    (arguments : ∀ n ≥ k, readArguments n f true ⟨rest, row⟩ = result)
    (ends : ∀ c ∈ result, Followed f operandEnds c) :
    ∀ n ≥ k + 4, readPrimary n f ⟨w.toList ++ '.' :: (w'.toList ++ '(' :: rest), row⟩ =
      result.map fun c => (.other, c) := by
  have name := comes_word row plain.word (ends_word '.' (w'.toList ++ '(' :: rest) rfl rfl)
  have dot : Comes ⟨'.' :: (w'.toList ++ '(' :: rest), row⟩
      ⟨.mark ".", _, ⟨w'.toList ++ '(' :: rest, row⟩⟩ := comes_here (by decide) (lexeme_dot named.word)
  have member := comes_word row named.word (ends_word '(' rest rfl rfl)
  have opening : Comes ⟨'(' :: rest, row⟩ ⟨.mark "(", _, ⟨rest, row⟩⟩ := comes_here (by decide) rfl
  intro n enough
  obtain ⟨n, rfl⟩ := Nat.exists_eq_add_of_le' (show 4 ≤ n by omega)
  rw [primary_operand (name.peek _) plain.plain, word_atom (name.again _) rfl plain.operand _ (by omega)]
  simp only [Option.bind_eq_bind, Option.bind_some]
  rw [readTrailers, dot.peek]
  simp only [Option.bind_eq_bind, Option.bind_some, Cursor.identifier, member.peek, named.free, if_true]
  rw [readTrailers, opening.peek]
  simp only [Option.bind_eq_bind, Option.bind_some]
  rw [arguments _ (by omega)]
  cases result with
  | none => rfl
  | some c =>
      rw [Option.bind_some, trailers_end (ends c rfl)]
      rfl

theorem call_stands {w' : String} {result : Option Cursor} (plain : PlainWord w) (named : IsIdentifier w')
    (called : a = ⟨.word w, ⟨w.toList ++ '.' :: (w'.toList ++ '(' :: rest), row⟩,
      ⟨'.' :: (w'.toList ++ '(' :: rest), row⟩⟩)
    (comes : Comes c a)
    (arguments : ∀ n ≥ k, readArguments n f true ⟨rest, row⟩ = result)
    (ends : ∀ c ∈ result, Followed f expressionEnds c) :
    Stands (k + 4) f c a (result.map fun c => (.other, c)) := by
  subst called
  have dot : Comes ⟨'.' :: (w'.toList ++ '(' :: rest), row⟩
      ⟨.mark ".", _, ⟨w'.toList ++ '(' :: rest, row⟩⟩ := comes_here (by decide) (lexeme_dot named.word)
  refine ⟨comes, ⟨plain.plain, fun _ _ => ⟨_, dot.meets f, show Token.mark "." ≠ .mark ":=" by decide⟩⟩,
    call_primary plain named arguments fun c found =>
      (ends c found).widened fun _ => List.mem_cons_of_mem _, ?_⟩
  intro p found
  obtain ⟨c, inside, rfl⟩ := Option.map_eq_some_iff.mp found
  exact ends c inside

def furtherWords : List String → List Char
  | [] => []
  | w :: ws => ',' :: ' ' :: (w.toList ++ furtherWords ws)

theorem further_length (ws : List String) : ws.length ≤ (furtherWords ws).length := by
  induction ws with
  | nil => exact Nat.le_refl _
  | cons w ws ih =>
      simp only [furtherWords, List.length_cons, List.length_append]
      omega

theorem list_followed (row : Nat) (rest : List Char) (ws : List String) :
    ∃ a, Comes ⟨furtherWords ws ++ ')' :: rest, row⟩ a ∧ (a.token = .mark "," ∨ a.token = .mark ")") := by
  cases ws with
  | nil => exact ⟨_, comes_closing, .inr rfl⟩
  | cons w ws => exact ⟨_, comes_comma, .inl rfl⟩

theorem no_clause {b : Ahead} (met : c.peek f = some b) (plain : b.token ≠ .word "for")
    (waits : b.token ≠ .word "async") : c.startsClause f = false := by
  rw [Cursor.startsClause, met]
  simp only [beq_false_of_ne plain, beq_false_of_ne waits, Bool.false_and, Bool.or_self]

theorem list_ends_word (rest : List Char) (ws : List String) : EndsWord (furtherWords ws ++ ')' :: rest) := by
  cases ws with
  | nil => exact ends_word _ _ rfl rfl
  | cons w ws => exact ends_word _ _ rfl rfl

theorem list_token {t t' : Token} (either : t = .mark "," ∨ t = .mark ")") (comma : t' ≠ .mark ",")
    (closing : t' ≠ .mark ")") : t ≠ t' := by
  rcases either with rfl | rfl
  · exact comma.symm
  · exact closing.symm

theorem word_argument (f : Frame) (row : Nat) (rest : List Char) (plain : PlainWord w) (ws : List String) :
    ∀ n ≥ 12, readArgument n f ⟨w.toList ++ (furtherWords ws ++ ')' :: rest), row⟩ =
      some (.name, ⟨furtherWords ws ++ ')' :: rest, row⟩) := by
  have comes := comes_word row plain.word (list_ends_word rest ws)
  obtain ⟨b, behind, token⟩ := list_followed row rest ws
  have ends : b.token ∈ expressionEnds := by
    rcases token with token | token <;> rw [token] <;> decide
  refine argument_reads (word_stands comes rfl plain behind ends) fun v _ d met => ?_
  cases (behind.peek f).symm.trans met
  exact list_token token (by decide) (by decide)

theorem list_reads (ws : List String) (plain : ∀ w ∈ ws, PlainWord w) :
    ∀ n ≥ ws.length + 13,
      readMoreArguments n f ⟨furtherWords ws ++ ')' :: rest, row⟩ = some ⟨rest, row⟩ := by
  induction ws with
  | nil =>
      intro n enough
      obtain ⟨n, rfl⟩ := Nat.exists_eq_add_of_le' (show 1 ≤ n by omega)
      rw [furtherWords, List.nil_append, readMoreArguments, comes_closing.peek]
      rfl
  | cons w ws ih =>
      obtain ⟨first, later⟩ := List.forall_mem_cons.mp plain
      have spaced := comes_word_spaced row first.word (list_ends_word rest ws)
      intro n enough
      rw [List.length_cons] at enough
      obtain ⟨n, rfl⟩ := Nat.exists_eq_add_of_le' (show 1 ≤ n by omega)
      have argument := word_argument f.inside row rest first ws n (by omega)
      rw [furtherWords, readMoreArguments, List.cons_append, List.cons_append, List.append_assoc,
        comes_comma.peek]
      simp only [Option.bind_eq_bind, Option.bind_some, spaced.peek, beq_iff_eq, reduceCtorEq, if_false,
        argument]
      exact ih later n (by omega)

def listedWords : List String → List Char
  | [] => []
  | w :: ws => w.toList ++ furtherWords ws

/-- Words with commas between them are the arguments of a call. -/
theorem arguments_read (ws : List String) (plain : ∀ w ∈ ws, PlainWord w) :
    ∀ n ≥ ws.length + 13,
      readArguments n f true ⟨listedWords ws ++ ')' :: rest, row⟩ = some ⟨rest, row⟩ := by
  intro n enough
  obtain ⟨n, rfl⟩ := Nat.exists_eq_add_of_le' (show 1 ≤ n by omega)
  cases ws with
  | nil =>
      rw [listedWords, List.nil_append, readArguments, comes_closing.peek]
      rfl
  | cons w ws =>
      obtain ⟨first, later⟩ := List.forall_mem_cons.mp plain
      have comes := comes_word row first.word (list_ends_word rest ws)
      obtain ⟨b, behind, token⟩ := list_followed row rest ws
      rw [List.length_cons] at enough
      have argument := word_argument f.inside row rest first ws n (by omega)
      rw [listedWords, readArguments, List.append_assoc, comes.peek]
      have alone : Cursor.startsClause ⟨furtherWords ws ++ ')' :: rest, row⟩ f.inside = false :=
        no_clause (behind.peek _) (list_token token (by decide) (by decide))
          (list_token token (by decide) (by decide))
      simp only [Option.bind_eq_bind, Option.bind_some, argument, alone, Bool.and_false, Bool.false_eq_true,
        if_false]
      exact list_reads ws later n (by omega)

theorem text_argument {q : Quote} {after : Option Cursor} (comes : Comes c a) (token : a.token = .quote q)
    (body : ∀ f, ∀ n ≥ 1, readTextBody n f q a.next = after)
    (closing : ∀ c ∈ after, ∃ rest row, c = ⟨')' :: rest, row⟩) :
    ∀ n ≥ 15, readArguments n f true c = after.map fun c => ⟨c.rest.tail, c.row⟩ := by
  have closed {f : Frame} {c : Cursor} (found : c ∈ after) : Followed f expressionEnds c := by
    obtain ⟨rest, row, rfl⟩ := closing c found
    exact ⟨_, comes_closing.meets f, by simp [expressionEnds]⟩
  have unnamed (w : String) : a.token ≠ .word w := by
    rw [token]
    rintro ⟨⟩
  have plain : a.token ∉ leadTokens := by
    rw [token]
    simp [leadTokens]
  have stands : Stands 5 f.inside a.start a (after.map fun c => (.text, c)) := by
    refine ⟨⟨comes.again, comes.again⟩, ⟨plain, fun w same => absurd same (unnamed w)⟩,
      atom_primary (comes.again _) plain (text_atom (comes.again _) token (body _) ?_) ?_, ?_⟩
    · exact fun c found => (closed found).widened fun _ => List.mem_cons_of_mem _
    · intro p found
      obtain ⟨c, inside, rfl⟩ := Option.map_eq_some_iff.mp found
      exact (closed inside).widened fun _ => List.mem_cons_of_mem _
    · intro p found
      obtain ⟨c, inside, rfl⟩ := Option.map_eq_some_iff.mp found
      exact closed inside
  intro n enough
  obtain ⟨n, rfl⟩ := Nat.exists_eq_add_of_le' (show 1 ≤ n by omega)
  have argument := argument_reads stands (fun w same => absurd same (unnamed w)) n (by omega)
  rw [readArguments, comes.peek]
  simp only [Option.bind_eq_bind, Option.bind_some, token, argument]
  cases after with
  | none => rfl
  | some c =>
      obtain ⟨rest, row, rfl⟩ := closing c rfl
      have alone : Cursor.startsClause ⟨')' :: rest, row⟩ f.inside = false :=
        no_clause (comes_closing.peek _) (by rintro ⟨⟩) (by rintro ⟨⟩)
      simp only [Option.map_some, Option.bind_some, alone, Bool.and_false, Bool.false_eq_true, if_false]
      exact list_reads [] (fun w member => absurd member List.not_mem_nil) n (by simpa using by omega)

end Calls

end CodeReview.Python

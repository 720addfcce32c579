import CodeReview.Proofs.Python.Operands

/-!
Statements that stand on lines of their own, and blocks that are put together from them. What counts of a
block is which functions it defines and where it ends, so both are kept and nothing else is; a refusal of one
statement refuses the block.
-/

namespace CodeReview.Python

open Text

section Lines

def blockTokens : List Token :=
  [.word "if", .word "while", .word "for", .word "try", .word "with", .word "class", .word "def",
    .word "async", .word "match", .mark "@"]

def lineTokens : List Token :=
  [.word "import", .word "from", .word "assert", .word "return", .word "del", .word "raise", .word "pass",
    .word "break", .word "continue", .word "global", .word "nonlocal", .word "print", .word "type"]

def AtEnd (f : Frame) (c : Cursor) : Prop := Followed f [.lineEnd] c

variable {column row n k : Nat} {f : Frame} {c : Cursor} {a : Ahead} {result : Option Cursor}

theorem at_end (column row : Nat) (rest : List Char) : AtEnd (Frame.line column) ⟨'\n' :: rest, row⟩ :=
  ⟨_, ⟨line_end rfl row rest, line_end rfl row rest⟩, List.mem_singleton_self _⟩

theorem AtEnd.whole (ends : AtEnd f c) : Followed f expressionEnds c :=
  ends.widened fun _ token => List.mem_singleton.mp token ▸ List.mem_cons_self

/-- A line that ends after one simple statement is read whole. -/
theorem line_alone (statement : c.simpleStatement f = result.map fun c => (.simple, c))
    (ends : ∀ c ∈ result, AtEnd f c) :
    readLine (n + 1) f c = result.map fun c => ([.node .simple []], c) := by
  rw [readLine, statement]
  cases result with
  | none => rfl
  | some c =>
      obtain ⟨b, meets, token⟩ := ends c rfl
      simp only [Option.bind_eq_bind, Option.map_some, Option.bind_some, meets.peek,
        List.mem_singleton.mp token]

theorem simple_expression (comes : Comes c a) (plain : a.token ∉ lineTokens) :
    a.start.simpleStatement f = a.start.expressionStatement f := by
  rw [Cursor.simpleStatement, comes.again]
  simp only [Option.bind_eq_bind, Option.bind_some]
  split
  case h_14 => rfl
  all_goals
    next token => exact absurd (token ▸ by decide) plain

theorem line_statement (result : Option Cursor) (comes : Comes c a) (simple : a.token ∉ blockTokens)
    (statement : a.start.simpleStatement (Frame.line column) = result.map fun c => (.simple, c))
    (ends : ∀ c ∈ result, AtEnd (Frame.line column) c) :
    readStatement (n + 1) column c = result.map fun c => ([.node .simple []], c) := by
  have line (m : Nat) : readLine (m + 1) (Frame.line column) a.start =
      result.map fun c => ([.node .simple []], c) := line_alone statement ends
  rw [readStatement, comes.peek]
  simp only [Option.bind_eq_bind, Option.bind_some]
  split
  case h_11 => exact line _
  all_goals
    next token => exact absurd (token ▸ by decide) simple

end Lines

section Statements

variable {column row n k : Nat} {f : Frame} {c c' : Cursor} {a : Ahead} {shape : Shape}

theorem atom_stands (comes : Comes c a) (plain : a.token ∉ leadTokens)
    (unnamed : ∀ w, a.token = .word w → AtEnd f a.next)
    (atom : ∀ n ≥ k, readAtom n f a.start = some (shape, c')) (ends : AtEnd f c') :
    Stands (k + 2) f c a (some (shape, c')) := by
  refine ⟨comes, ⟨plain, fun w named => ?_⟩, atom_primary (comes.again _) plain atom ?_, ?_⟩
  · obtain ⟨b, meets, token⟩ := unnamed w named
    refine ⟨b, meets, ?_⟩
    rw [List.mem_singleton.mp token]
    rintro ⟨⟩
  · rintro _ ⟨⟩
    exact ends.whole.widened fun _ => List.mem_cons_of_mem _
  · rintro _ ⟨⟩
    exact ends.whole

theorem text_stands {q : Quote} (comes : Comes c a) (token : a.token = .quote q)
    (scan : scanText q true 0 a.next.row a.next.rest = .closed c') (ends : AtEnd f c') :
    Stands 5 f c a (some (.text, c')) := by
  have atom : ∀ n ≥ 3, readAtom n f a.start = some (.text, c') := by
    refine text_atom (comes.again _) token (text_closed scan) ?_
    rintro _ ⟨⟩
    exact ends.whole.widened fun _ => List.mem_cons_of_mem _
  refine atom_stands comes ?_ (fun w named => ?_) atom ends
  · rw [token]
    simp [leadTokens]
  · rw [token] at named
    cases named

theorem alone_expressions {result : Option (Shape × Cursor)} (stands : Stands k f c a result)
    (whole : ∀ p ∈ result, p.1 ≠ .loose) (alone : ∀ p ∈ result, Followed f [.lineEnd, .mark "="] p.2)
    (enough : k + 9 ≤ a.start.fuel) : a.start.expressions f = result.map fun p => ([p.1], p.2) :=
  expressions_read (expression_reads (operand_chain stands.again) whole) alone _ enough

theorem AtEnd.alone (ends : AtEnd f c) : Followed f [.lineEnd, .mark "="] c :=
  ends.widened fun _ token => List.mem_singleton.mp token ▸ List.mem_cons_self

theorem Leads.no_yield (lead : Leads f a) : (a.token == .word "yield") = false :=
  beq_false_of_ne fun same => lead.plain (same ▸ by decide)

theorem least_fuel {m : Nat} (small : m ≤ 32) : m ≤ c.fuel := Nat.le_trans small (Nat.le_add_left 32 _)

theorem call_statement {result : Option Cursor}
    (stands : Stands k f c a (result.map fun c => (.other, c))) (ends : ∀ c ∈ result, AtEnd f c)
    (enough : k + 9 ≤ a.start.fuel) :
    a.start.expressionStatement f = result.map fun c => (.simple, c) := by
  have expressions : a.start.expressions f = result.map fun c => ([.other], c) := by
    rw [alone_expressions stands _ _ enough, Option.map_map]
    · rfl
    · intro p found
      obtain ⟨c, inside, rfl⟩ := Option.map_eq_some_iff.mp found
      rintro ⟨⟩
    · intro p found
      obtain ⟨c, inside, rfl⟩ := Option.map_eq_some_iff.mp found
      exact (ends c inside).alone
  rw [Cursor.expressionStatement, stands.comes.again]
  simp only [Option.bind_eq_bind, Option.bind_some, stands.lead.no_yield, Bool.false_eq_true, if_false,
    expressions]
  cases result with
  | none => rfl
  | some c =>
      obtain ⟨b, meets, token⟩ := ends c rfl
      simp only [Option.map_some, Option.bind_some, meets.peek, List.mem_singleton.mp token]
      rfl

theorem call_reads {result : Option Cursor}
    (stands : Stands k (Frame.line column) c a (result.map fun c => (.other, c)))
    (other : a.token ∉ blockTokens ∧ a.token ∉ lineTokens)
    (ends : ∀ c ∈ result, AtEnd (Frame.line column) c) (enough : k + 9 ≤ a.start.fuel) :
    readStatement (n + 1) column c = result.map fun c => ([.node .simple []], c) :=
  line_statement result stands.comes other.1
    ((simple_expression stands.comes other.2).trans (call_statement stands ends enough)) ends

theorem value_assigned {result : Option (Shape × Cursor)} (stands : Stands k f c a result)
    (whole : ∀ p ∈ result, p.1 ≠ .loose) (ends : ∀ p ∈ result, AtEnd f p.2)
    (enough : k + 9 ≤ a.start.fuel) :
    readAssigned (n + 1) f c = result.map fun p => p.2 := by
  have valued := alone_expressions stands whole (fun p found => (ends p found).alone) enough
  rw [readAssigned, stands.comes.peek]
  simp only [Option.bind_eq_bind, Option.bind_some, stands.lead.no_yield, Bool.false_eq_true, if_false,
    valued]
  cases result with
  | none => rfl
  | some p =>
      obtain ⟨b, meets, token⟩ := ends p rfl
      simp only [Option.map_some, Option.bind_some, meets.peek, List.mem_singleton.mp token]
      rfl

theorem assignment_statement {w : String} {value : List Char} {result : Option (Shape × Cursor)}
    (plain : PlainWord w) (stands : Stands k f ⟨' ' :: value, row⟩ a result)
    (whole : ∀ p ∈ result, p.1 ≠ .loose) (ends : ∀ p ∈ result, AtEnd f p.2)
    (enough : k + 9 ≤ a.start.fuel) :
    Cursor.expressionStatement ⟨w.toList ++ ' ' :: '=' :: ' ' :: value, row⟩ f =
      result.map fun p => (.simple, p.2) := by
  have name := comes_word row plain.word (ends_word ' ' ('=' :: ' ' :: value) rfl rfl)
  have equals : Comes ⟨' ' :: '=' :: ' ' :: value, row⟩ ⟨.mark "=", _, ⟨' ' :: value, row⟩⟩ :=
    comes_spaced (by decide) rfl
  have target := word_stands (f := f) name rfl plain equals (show Token.mark "=" ∈ expressionEnds by decide)
  have named := alone_expressions target (by rintro _ ⟨⟩ ⟨⟩)
    (by rintro _ ⟨⟩; exact ⟨_, equals.meets f, List.mem_cons_of_mem _ List.mem_cons_self⟩)
    (least_fuel (by decide))
  -- The reader takes the target for a value first, and reads it again when it meets the equality sign.
  have assigned (n : Nat) : readAssigned (n + 2) f ⟨w.toList ++ ' ' :: '=' :: ' ' :: value, row⟩ =
      result.map fun p => p.2 := by
    rw [← value_assigned (n := n) stands whole ends enough, readAssigned, name.peek]
    simp only [Option.bind_eq_bind, Option.bind_some, target.lead.no_yield, Bool.false_eq_true, if_false,
      named, Option.map_some, equals.peek]
    rfl
  rw [Cursor.expressionStatement, name.peek]
  simp only [Option.bind_eq_bind, Option.bind_some, target.lead.no_yield, Bool.false_eq_true, if_false,
    named, Option.map_some, equals.peek]
  rw [Cursor.fuel, assigned, Option.map_map]
  rfl

theorem assignment_reads {w : String} {value : List Char} {result : Option (Shape × Cursor)}
    (plain : PlainWord w) (other : Token.word w ∉ blockTokens ∧ Token.word w ∉ lineTokens)
    (stands : Stands k (Frame.line column) ⟨' ' :: value, row⟩ a result)
    (whole : ∀ p ∈ result, p.1 ≠ .loose)
    (ends : ∀ p ∈ result, AtEnd (Frame.line column) p.2) (enough : k + 9 ≤ a.start.fuel) :
    readStatement (n + 1) column ⟨w.toList ++ ' ' :: '=' :: ' ' :: value, row⟩ =
      result.map fun p => ([.node .simple []], p.2) := by
  have name := comes_word row plain.word (ends_word ' ' ('=' :: ' ' :: value) rfl rfl)
  have assigned := assignment_statement plain stands whole ends enough
  refine (line_statement (result.map fun p => p.2) name other.1 ?_ ?_).trans (Option.map_map _ _ result)
  · rw [simple_expression name other.2, assigned, Option.map_map]
    rfl
  · intro c found
    obtain ⟨p, inside, rfl⟩ := Option.map_eq_some_iff.mp found
    exact ends p inside

theorem import_statement {w : String} (named : IsIdentifier w) (rest : List Char) :
    readStatement (n + 1) column ⟨"import ".toList ++ (w.toList ++ '\n' :: rest), row⟩ =
      some ([.node .simple []], ⟨'\n' :: rest, row⟩) := by
  have word : IsWord "import".toList := by decide
  have opening := comes_word row word (ends_word ' ' (w.toList ++ '\n' :: rest) rfl rfl)
  have name := comes_word_spaced row named.word (ends_word '\n' rest rfl rfl)
  have ended := line_end (f := Frame.line column) rfl row rest
  have dotted (m : Nat) : readDotted (m + 1) (Frame.line column) ⟨' ' :: (w.toList ++ '\n' :: rest), row⟩ =
      some ⟨'\n' :: rest, row⟩ := by
    rw [readDotted, Cursor.identifier, name.peek]
    simp only [Option.bind_eq_bind, Option.bind_some, named.free, if_true, ended]
    rfl
  have imports (m : Nat) : readImports (m + 2) (Frame.line column) ⟨' ' :: (w.toList ++ '\n' :: rest), row⟩ =
      some ⟨'\n' :: rest, row⟩ := by
    rw [readImports, dotted]
    simp only [Option.bind_eq_bind, Option.bind_some, ended]
    rfl
  refine line_statement (some ⟨'\n' :: rest, row⟩) opening
    (show Token.word "import" ∉ blockTokens by decide) ?_ ?_
  · rw [Cursor.simpleStatement, opening.again]
    simp only [Option.bind_eq_bind, Option.bind_some]
    rw [Cursor.fuel, imports]
  · rintro _ ⟨⟩
    exact at_end column row rest

theorem test_expression {w : String} (plain : PlainWord w) (column row : Nat) (rest : List Char) :
    Cursor.expression ⟨' ' :: (w.toList ++ (" is not None\n".toList ++ rest)), row⟩ (Frame.line column) =
      some (.other, ⟨'\n' :: rest, row⟩) := by
  have ends : AtEnd (Frame.line column) ⟨'\n' :: rest, row⟩ := at_end column row rest
  have whole := ends.whole
  have name := comes_word_spaced row plain.word (ends_word ' ' ("is not None\n".toList ++ rest) rfl rfl)
  have is : Comes ⟨" is not None\n".toList ++ rest, row⟩
      ⟨.word "is", _, ⟨" not None\n".toList ++ rest, row⟩⟩ := comes_spaced (by decide) rfl
  have not : Comes ⟨" not None\n".toList ++ rest, row⟩
      ⟨.word "not", _, ⟨" None\n".toList ++ rest, row⟩⟩ := comes_spaced (by decide) rfl
  have constant : Comes ⟨" None\n".toList ++ rest, row⟩ ⟨.word "None", _, ⟨'\n' :: rest, row⟩⟩ :=
    comes_spaced (by decide) rfl
  -- Two sums with the operator between them, which is two words.
  have left : ∀ n ≥ 5, readSum n (Frame.line column) ⟨w.toList ++ (" is not None\n".toList ++ rest), row⟩ =
      some (.name, ⟨" is not None\n".toList ++ rest, row⟩) := by
    have followed : Followed (Frame.line column) operandEnds ⟨" is not None\n".toList ++ rest, row⟩ :=
      ⟨_, is.meets _, List.mem_cons_self⟩
    refine sum_reads (atom_primary (name.again _) plain.plain (word_atom (name.again _) rfl plain.operand) ?_) ?_
    all_goals
      rintro _ ⟨⟩
      exact followed
  have right : ∀ n ≥ 5, readSum n (Frame.line column) ⟨" None\n".toList ++ rest, row⟩ =
      some (.other, ⟨'\n' :: rest, row⟩) := by
    refine sum_reads (atom_primary (constant.peek _) (by simp [leadTokens])
      (constant_atom (constant.again _) rfl rfl (.inr (.inr rfl))) ?_) ?_
    all_goals
      rintro _ ⟨⟩
      exact whole.widened fun _ => List.mem_cons_of_mem _
  have comparison : ∀ n ≥ 7, readComparison n (Frame.line column)
      ⟨w.toList ++ (" is not None\n".toList ++ rest), row⟩ = some (.other, ⟨'\n' :: rest, row⟩) := by
    intro n enough
    obtain ⟨n, rfl⟩ := Nat.exists_eq_add_of_le' (show 3 ≤ n by omega)
    rw [readComparison, left _ (by omega)]
    simp only [Option.bind_eq_bind, Option.bind_some]
    rw [readComparands, is.peek]
    simp only [Option.bind_eq_bind, Option.bind_some, not.peek, Option.map_some, beq_self_eq_true, if_true,
      right _ (show n + 1 ≥ 5 by omega)]
    exact comparands_end whole
  have lead : Leads (Frame.line column) ⟨.word w, ⟨w.toList ++ (" is not None\n".toList ++ rest), row⟩,
      ⟨" is not None\n".toList ++ rest, row⟩⟩ := by
    refine ⟨plain.plain, fun _ _ => ⟨_, is.meets _, ?_⟩⟩
    rintro ⟨⟩
  refine expression_reads (chain_reads (name.peek _) lead comparison ?_) ?_ _ (least_fuel (by decide))
  · rintro _ ⟨⟩
    exact whole
  · rintro _ ⟨⟩
    rintro ⟨⟩

theorem assert_statement {w : String} (plain : PlainWord w) (rest : List Char) :
    readStatement (n + 1) column ⟨"assert ".toList ++ (w.toList ++ (" is not None\n".toList ++ rest)), row⟩ =
      some ([.node .simple []], ⟨'\n' :: rest, row⟩) := by
  have word : IsWord "assert".toList := by decide
  have opening := comes_word row word
    (ends_word ' ' (w.toList ++ (" is not None\n".toList ++ rest)) rfl rfl)
  have asserted (m : Nat) : readAsserted (m + 1) (Frame.line column)
      ⟨' ' :: (w.toList ++ (" is not None\n".toList ++ rest)), row⟩ = some ⟨'\n' :: rest, row⟩ := by
    rw [readAsserted, test_expression plain]
    simp only [Option.bind_eq_bind, Option.bind_some, line_end (f := Frame.line column) rfl row rest]
    rfl
  refine line_statement (some ⟨'\n' :: rest, row⟩) opening
    (show Token.word "assert" ∉ blockTokens by decide) ?_ ?_
  · rw [Cursor.simpleStatement, opening.again]
    simp only [Option.bind_eq_bind, Option.bind_some]
    rw [Cursor.fuel, asserted]
  · rintro _ ⟨⟩
    exact at_end column row rest

end Statements

section Blocks

def signaturesOf (trees : List Tree) : List Signature :=
  (callablesOf trees).map fun c => c.definition.signature

/-- What counts of statements that were read: the functions they define and the text behind them. -/
def kept (found : List Tree × Cursor) : List Signature × List Char := (signaturesOf found.1, found.2.rest)

theorem signatures_append (trees more : List Tree) :
    signaturesOf (trees ++ more) = signaturesOf trees ++ signaturesOf more := by
  rw [signaturesOf, callables_append, List.map_append]
  rfl

theorem signatures_function (d : Definition) (trees : List Tree) :
    signaturesOf [.node (.function d) trees] = d.signature :: signaturesOf trees := by
  rw [signaturesOf, callablesOf, callablesOf, List.append_nil, Tree.callables, List.map_cons]
  rfl

/-- What counts of a statement, read with enough fuel on any row. -/
def StatementReads (column : Nat) (text : List Char) (answer : Option (List Signature × List Char)) : Prop :=
  ∀ row n, text.length < n → (readStatement n column ⟨text, row⟩).map kept = answer

def BlockReads (column : Nat) (text : List Char) (answer : Option (List Signature × List Char)) : Prop :=
  ∀ row n, text.length + 1 < n → (readBlock n column ⟨text, row⟩).map kept = answer

def Opens (column : Nat) (blank text : List Char) : Prop :=
  ∀ row, ∃ breaks indent row',
    Cursor.gap ⟨blank ++ text, row⟩ = ⟨breaks, indent, ⟨text, row'⟩⟩ ∧ (breaks = true → column ≤ indent)

def Closes (column : Nat) (text : List Char) : Prop :=
  ∀ row, (Cursor.gap ⟨text, row⟩).next.rest = [] ∨
    (Cursor.gap ⟨text, row⟩).breaks = true ∧ (Cursor.gap ⟨text, row⟩).indent < column

variable {column : Nat} {blank text more : List Char} {ss : List Signature}
  {answer : Option (List Signature × List Char)}

/-- A statement takes a unit of fuel, whatever is in it. -/
theorem statement_reads (each : ∀ row n, (readStatement (n + 1) column ⟨text, row⟩).map kept = answer) :
    StatementReads column text answer := by
  intro row n enough
  obtain ⟨n, rfl⟩ := Nat.exists_eq_add_of_le' (show 1 ≤ n by omega)
  exact each row n

theorem block_end (closes : Closes column text) : BlockReads column text (some ([], text)) := by
  intro row n enough
  obtain ⟨n, rfl⟩ := Nat.exists_eq_add_of_le' (show 1 ≤ n by omega)
  rw [readBlock]
  dsimp only
  rw [if_pos]
  · rfl
  · rcases closes row with nothing | ⟨ended, left⟩
    · rw [nothing]
      rfl
    · rw [ended, decide_eq_true left]
      exact Bool.or_true _

/-- At a statement a block is what the statement gives and the block behind it. -/
theorem block_step (opens : Opens column blank text) (filled : text ≠ []) (row n : Nat) :
    ∃ row', readBlock (n + 1) column ⟨blank ++ text, row⟩ = (do
      let (trees, c) ← readStatement n column ⟨text, row'⟩
      let (more, c) ← readBlock n column c
      some (trees ++ more, c)) := by
  obtain ⟨breaks, indent, row', gap, right⟩ := opens row
  refine ⟨row', ?_⟩
  rw [readBlock, gap]
  dsimp only
  rw [if_neg]
  rw [List.isEmpty_eq_false_iff.mpr filled, Bool.false_or]
  intro left
  obtain ⟨ended, short⟩ := Bool.and_eq_true_iff.mp left
  exact absurd (of_decide_eq_true short) (Nat.not_lt.mpr (right ended))

theorem block_next (opens : Opens column blank text) (shorter : more.length < text.length)
    (statement : StatementReads column text (some (ss, more))) (block : BlockReads column more answer) :
    BlockReads column (blank ++ text) (answer.map fun p => (ss ++ p.1, p.2)) := by
  intro row n enough
  have filled : text ≠ [] := List.ne_nil_of_length_pos (by omega)
  rw [List.length_append] at enough
  obtain ⟨n, rfl⟩ := Nat.exists_eq_add_of_le' (show 1 ≤ n by omega)
  -- The rows are counted on the way and are no part of what is kept, so each part is read on a row of its own.
  obtain ⟨row', step⟩ := block_step opens filled row n
  obtain ⟨⟨trees, rest, row''⟩, read, same⟩ := Option.map_eq_some_iff.mp (statement row' n (by omega))
  obtain ⟨rfl, rfl⟩ := Prod.mk.inj same
  rw [step, read, ← block row'' n (by omega)]
  simp only [Option.bind_eq_bind, Option.bind_some]
  cases readBlock n column ⟨rest, row''⟩ with
  | none => rfl
  | some p => exact congrArg some (Prod.ext (signatures_append _ _) rfl)

theorem block_refused (opens : Opens column blank text) (filled : text ≠ [])
    (statement : StatementReads column text none) : BlockReads column (blank ++ text) none := by
  intro row n enough
  rw [List.length_append] at enough
  obtain ⟨n, rfl⟩ := Nat.exists_eq_add_of_le' (show 1 ≤ n by omega)
  obtain ⟨row', step⟩ := block_step opens filled row n
  rw [step, Option.map_eq_none_iff.mp (statement row' n (by omega))]
  rfl

end Blocks

section Functions

variable {column inner : Nat} {w : String} {body after : List Char} {ss : List Signature}

theorem head_read (named : IsIdentifier w) (f : Frame) (row line : Nat) :
    Cursor.functionHead ⟨' ' :: (w.toList ++ '(' :: ')' :: ':' :: '\n' :: body), row⟩ f line =
      some ⟨⟨w, [], line + 1⟩, ⟨'\n' :: body, row⟩⟩ := by
  have name := comes_word_spaced row named.word (ends_word '(' (')' :: ':' :: '\n' :: body) rfl rfl)
  have opening : Comes ⟨'(' :: ')' :: ':' :: '\n' :: body, row⟩
      ⟨.mark "(", _, ⟨')' :: ':' :: '\n' :: body, row⟩⟩ := comes_here (by decide) rfl
  have colon : Comes ⟨':' :: '\n' :: body, row⟩ ⟨.mark ":", _, ⟨'\n' :: body, row⟩⟩ :=
    comes_here (by decide) rfl
  have parameters : Cursor.parameters ⟨')' :: ':' :: '\n' :: body, row⟩ f =
      some ([], ⟨':' :: '\n' :: body, row⟩) := by
    rw [Cursor.parameters, Cursor.fuel, readParameters, comes_closing.peek]
    rfl
  rw [Cursor.functionHead, Cursor.identifier, name.peek]
  simp only [Option.bind_eq_bind, Option.bind_some, named.free, if_true, Cursor.expect, opening.peek,
    beq_iff_eq, Token.mark.injEq, String.reduceEq, if_false, parameters, colon.peek]

def Deeper (column inner : Nat) (text : List Char) : Prop :=
  ∀ row, (Cursor.gap ⟨text, row⟩).breaks = true ∧ (Cursor.gap ⟨text, row⟩).indent = inner ∧ column < inner

/-- A function without parameters is its head and the block below it. -/
theorem function_reads (named : IsIdentifier w) (deeper : Deeper column inner ('\n' :: body))
    (block : BlockReads inner ('\n' :: body) (some (ss, after))) :
    StatementReads column ("def ".toList ++ (w.toList ++ '(' :: ')' :: ':' :: '\n' :: body))
      (some (⟨w, []⟩ :: ss, after)) := by
  intro row n enough
  have word : IsWord "def".toList := by decide
  have opening := comes_word row word
    (ends_word ' ' (w.toList ++ '(' :: ')' :: ':' :: '\n' :: body) rfl rfl)
  have size : body.length + 8 < n := by
    have head : "def ".toList.length = 4 := rfl
    simp only [List.length_append, List.length_cons] at enough
    omega
  obtain ⟨n, rfl⟩ := Nat.exists_eq_add_of_le' (show 3 ≤ n by omega)
  obtain ⟨ended, below_, right⟩ := deeper row
  obtain ⟨⟨trees, c⟩, read, same⟩ := Option.map_eq_some_iff.mp (block row n (by rw [List.length_cons]; omega))
  have suite : readSuite (n + 1) column ⟨'\n' :: body, row⟩ = some (trees, c) := by
    rw [readSuite]
    simp only [ended, below_, right, if_true]
    exact read
  rw [readStatement]
  change ((Cursor.peek ⟨"def".toList ++ ' ' :: (w.toList ++ '(' :: ')' :: ':' :: '\n' :: body), row⟩ _ >>=
    _).map _) = _
  rw [opening.peek]
  simp only [Option.bind_eq_bind, Option.bind_some]
  rw [readFunction, head_read named]
  simp only [Option.bind_eq_bind, Option.bind_some, suite, Option.map_some]
  obtain ⟨rfl, rfl⟩ := Prod.mk.inj same
  exact congrArg some (Prod.ext (signatures_function _ trees) rfl)

end Functions

section SimpleLines

structure SimpleLine (line : List Char) : Prop where
  starts : Starts line
  reads : ∀ column rest, StatementReads column (line ++ '\n' :: rest) (some ([], '\n' :: rest))

def below (column : Nat) : List (List Char) → List Char → List Char
  | [], rest => rest
  | line :: lines, rest => '\n' :: (List.replicate column ' ' ++ (line ++ below column lines rest))

variable {column inner : Nat} {line : List Char} {lines : List (List Char)} {rest : List Char}
  {answer : Option (List Signature × List Char)}

theorem below_feed (column : Nat) (lines : List (List Char)) (rest : List Char) :
    ∃ more, below column lines ('\n' :: rest) = '\n' :: more := by
  cases lines with
  | nil => exact ⟨rest, rfl⟩
  | cons line lines => exact ⟨_, rfl⟩

theorem opens_below (starts : Starts line) :
    Opens column ('\n' :: List.replicate column ' ') (line ++ rest) := by
  obtain ⟨d, more, rfl, token⟩ := starts
  intro row
  refine ⟨true, column, row + 1, ?_, fun _ => Nat.le_refl _⟩
  rw [Cursor.gap, List.cons_append, gap_feed, gap_spaces, List.cons_append, gap_token token, Nat.zero_add]

theorem opens_here (starts : Starts line) :
    Opens column [] (line ++ rest) := by
  obtain ⟨d, more, rfl, token⟩ := starts
  exact fun row => ⟨false, 0, row, gap_token token, by rintro ⟨⟩⟩

theorem line_block {blank : List Char} (opens : Opens column blank (line ++ '\n' :: rest))
    (starts : Starts line)
    (statement : StatementReads column (line ++ '\n' :: rest) (some ([], '\n' :: rest)))
    (block : BlockReads column ('\n' :: rest) answer) :
    BlockReads column (blank ++ (line ++ '\n' :: rest)) answer := by
  have whole := block_next opens ?_ statement block
  · simpa using whole
  · obtain ⟨d, more, rfl, -⟩ := starts
    simp only [List.length_append, List.length_cons]
    omega

theorem line_refused (starts : Starts line)
    (statement : StatementReads column (line ++ rest) none) :
    BlockReads column (below column [line] rest) none := by
  refine block_refused (opens_below starts) ?_ statement
  obtain ⟨d, more, rfl, -⟩ := starts
  exact List.cons_ne_nil _ _

theorem lines_block (simple : ∀ line ∈ lines, SimpleLine line)
    (block : BlockReads column ('\n' :: rest) answer) :
    BlockReads column (below column lines ('\n' :: rest)) answer := by
  induction lines with
  | nil => exact block
  | cons line lines ih =>
      obtain ⟨first, later⟩ := List.forall_mem_cons.mp simple
      have behind := ih later
      obtain ⟨more, feed⟩ := below_feed column lines rest
      rw [feed] at behind
      rw [below, feed]
      exact line_block (opens_below first.starts) first.starts (first.reads column more) behind

theorem deeper_below (filled : lines ≠ []) (simple : ∀ line ∈ lines, SimpleLine line) (right : column < inner) :
    Deeper column inner (below inner lines rest) := by
  cases lines with
  | nil => exact absurd rfl filled
  | cons line lines =>
      intro row
      obtain ⟨d, more, rfl, token⟩ := (simple line List.mem_cons_self).starts
      have gap : Cursor.gap ⟨below inner ((d :: more) :: lines) rest, row⟩ =
          ⟨true, inner, ⟨d :: (more ++ below inner lines rest), row + 1⟩⟩ := by
        rw [below, Cursor.gap, gap_feed, gap_spaces, List.cons_append, gap_token token, Nat.zero_add]
      rw [gap]
      exact ⟨rfl, rfl, right⟩

end SimpleLines

end CodeReview.Python

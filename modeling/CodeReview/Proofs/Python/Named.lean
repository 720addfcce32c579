import CodeReview.Python.Analysis
import CodeReview.Proofs.Python.Tokens

/-!
Which definitions a module can have. Whatever holds of every function head that is read holds of all callables
of a module, however deep they are; and the names in a head are words that may be names.
-/

namespace CodeReview.Python

section Steps

variable {α β : Type}

theorem bind_some {first : Option α} {next : α → Option β} {found : β}
    (ends : (first >>= next) = some found) : ∃ value, first = some value ∧ next value = some found := by
  cases first with
  | none => cases ends
  | some value => exact ⟨value, rfl, ends⟩

theorem ite_bind_some {p : Prop} [Decidable p] {first second : Option α} {next : α → Option β} {found : β}
    (ends : (if p then first >>= next else second >>= next) = some found) :
    ∃ value, next value = some found := by
  split at ends
  all_goals
    obtain ⟨value, -, ends⟩ := bind_some ends
    exact ⟨value, ends⟩

end Steps

section Reading

variable (P : Definition → Prop)

def Defines (trees : List Tree) : Prop := ∀ c ∈ callablesOf trees, P c.definition

variable {P} {column row : Nat} {c c' : Cursor} {trees more : List Tree} {tree : Tree}
  {opening : Opening} {label : Label}

theorem defines_nil : Defines P [] := fun _ member => absurd member List.not_mem_nil

theorem callables_append (trees more : List Tree) :
    callablesOf (trees ++ more) = callablesOf trees ++ callablesOf more := by
  induction trees with
  | nil => rfl
  | cons tree trees ih => rw [List.cons_append, callablesOf, ih, callablesOf, List.append_assoc]

theorem defines_append (first : Defines P trees) (second : Defines P more) : Defines P (trees ++ more) := by
  intro c member
  rw [callables_append] at member
  exact (List.mem_append.mp member).elim (first c) (second c)

theorem defines_cons (first : Defines P [tree]) (second : Defines P more) : Defines P (tree :: more) :=
  defines_append first second

theorem defines_clause (inside : Defines P trees) : Defines P [.node (.clause opening) trees] := by
  intro c member
  rw [callablesOf, Tree.callables, callablesOf, List.append_nil] at member
  · exact inside c member
  · rintro d ⟨⟩

theorem defines_function {d : Definition} (named : P d) (inside : Defines P trees) :
    Defines P [.node (.function d) trees] := by
  intro c member
  rw [callablesOf, Tree.callables, callablesOf, List.append_nil] at member
  rcases List.mem_cons.mp member with rfl | within
  · exact named
  · exact inside c within

theorem defines_plain (plain : label = .simple ∨ label = .text) : Defines P [.node label []] := by
  intro c member
  rcases plain with rfl | rfl <;> exact absurd member List.not_mem_nil

theorem statement_plain {f : Frame} (read : c.expressionStatement f = some (label, c')) :
    label = .simple ∨ label = .text := by
  unfold Cursor.expressionStatement at read
  obtain ⟨a, -, read⟩ := bind_some read
  split at read
  · obtain ⟨_, -, same⟩ := Option.map_eq_some_iff.mp read
    cases same
    exact .inl rfl
  · obtain ⟨⟨shapes, after⟩, -, read⟩ := bind_some read
    obtain ⟨b, -, read⟩ := bind_some read
    split at read
    · cases read
      split
      · exact .inr rfl
      · exact .inl rfl
    · cases read
      split
      · exact .inr rfl
      · exact .inl rfl
    · obtain ⟨_, -, same⟩ := Option.map_eq_some_iff.mp read
      cases same
      exact .inl rfl

/-- A simple statement opens no block. -/
theorem simple_plain {f : Frame} (read : c.simpleStatement f = some (label, c')) :
    label = .simple ∨ label = .text := by
  have mapped {after : Option Cursor} (same : (after.map fun c => (Label.simple, c)) = some (label, c')) :
      label = .simple ∨ label = .text := by
    obtain ⟨_, -, same⟩ := Option.map_eq_some_iff.mp same
    cases same
    exact .inl rfl
  unfold Cursor.simpleStatement at read
  obtain ⟨a, -, read⟩ := bind_some read
  dsimp only at read
  split at read
  case h_7 | h_8 | h_9 => cases read; exact .inl rfl
  case h_10 | h_11 => exact mapped read
  case h_12 =>
    obtain ⟨b, -, read⟩ := bind_some read
    split at read
    · cases read
    · exact statement_plain read
  case h_13 =>
    split at read
    · next began =>
        split at read
        · cases read
          exact statement_plain began
        · exact mapped read
    · exact mapped read
  case h_14 => exact statement_plain read
  all_goals exact mapped read

theorem line_defines {n : Nat} {f : Frame} (read : readLine n f c = some (trees, c')) : Defines P trees := by
  induction n generalizing c trees with
  | zero => cases read
  | succ n ih =>
      unfold readLine at read
      obtain ⟨⟨label, after⟩, simple, read⟩ := bind_some read
      obtain ⟨a, -, read⟩ := bind_some read
      have here : Defines P [.node label []] := defines_plain (simple_plain simple)
      dsimp only at read
      split at read
      · cases read
        exact here
      · obtain ⟨b, -, read⟩ := bind_some read
        split at read
        · cases read
          exact here
        · obtain ⟨⟨rest, last⟩, more, read⟩ := bind_some read
          cases read
          exact defines_cons here (ih more)
      · cases read

variable (P) in
/-- What a reader of statements with so much fuel reads has the property. -/
structure ReadsDefined (n : Nat) : Prop where
  block : ∀ {column c trees c'}, readBlock n column c = some (trees, c') → Defines P trees
  suite : ∀ {column c trees c'}, readSuite n column c = some (trees, c') → Defines P trees
  clause : ∀ {column opening c tree c'},
    readClause n column opening c = some (tree, c') → Defines P [tree]
  statement : ∀ {column c trees c'}, readStatement n column c = some (trees, c') → Defines P trees
  alternatives : ∀ {column c trees c'},
    readAlternativeClauses n column c = some (trees, c') → Defines P trees
  otherwise : ∀ {column c trees c'}, readElse n column c = some (trees, c') → Defines P trees
  withElse : ∀ {column opening c trees c'},
    readWithElse n column opening c = some (trees, c') → Defines P trees
  loop : ∀ {column c trees c'}, readFor n column c = some (trees, c') → Defines P trees
  context : ∀ {column c trees c'}, readWith n column c = some (trees, c') → Defines P trees
  handlers : ∀ {column c trees c'}, readHandlers n column c = some (trees, c') → Defines P trees
  choices : ∀ {column c trees c'}, readCases n column c = some (trees, c') → Defines P trees
  function : ∀ {column row c tree c'},
    readFunction n column row c = some (tree, c') → Defines P [tree]
  body : ∀ {column c tree c'}, readClass n column c = some (tree, c') → Defines P [tree]
  decorated : ∀ {column c tree c'}, readDecorated n column c = some (tree, c') → Defines P [tree]

section Step

variable {n : Nat} (inner : ReadsDefined P n)

include inner

theorem block_defines (read : readBlock (n + 1) column c = some (trees, c')) : Defines P trees := by
  unfold readBlock at read
  dsimp only at read
  split at read
  · cases read
    exact defines_nil
  · obtain ⟨⟨first, after⟩, statement, read⟩ := bind_some read
    obtain ⟨⟨later, last⟩, block, read⟩ := bind_some read
    cases read
    exact defines_append (inner.statement statement) (inner.block block)

theorem suite_defines (read : readSuite (n + 1) column c = some (trees, c')) : Defines P trees := by
  unfold readSuite at read
  dsimp only at read
  split at read
  · split at read
    · exact inner.block read
    · cases read
      exact defines_nil
  · exact line_defines read

theorem clause_defines (read : readClause (n + 1) column opening c = some (tree, c')) :
    Defines P [tree] := by
  unfold readClause at read
  obtain ⟨⟨body, after⟩, suite, read⟩ := bind_some read
  cases read
  exact defines_clause (inner.suite suite)

theorem alternatives_define (read : readAlternativeClauses (n + 1) column c = some (trees, c')) :
    Defines P trees := by
  unfold readAlternativeClauses at read
  dsimp only at read
  split at read
  · obtain ⟨⟨_, _⟩, -, read⟩ := bind_some read
    obtain ⟨_, -, read⟩ := bind_some read
    obtain ⟨⟨first, _⟩, clause, read⟩ := bind_some read
    obtain ⟨⟨later, _⟩, more, read⟩ := bind_some read
    cases read
    exact defines_cons (inner.clause clause) (inner.alternatives more)
  · exact inner.otherwise read

theorem else_defines (read : readElse (n + 1) column c = some (trees, c')) : Defines P trees := by
  unfold readElse at read
  split at read
  · obtain ⟨_, -, read⟩ := bind_some read
    obtain ⟨⟨only, _⟩, clause, read⟩ := bind_some read
    cases read
    exact inner.clause clause
  · cases read
    exact defines_nil

theorem with_else_defines (read : readWithElse (n + 1) column opening c = some (trees, c')) :
    Defines P trees := by
  unfold readWithElse at read
  obtain ⟨⟨body, _⟩, suite, read⟩ := bind_some read
  obtain ⟨⟨alternative, _⟩, otherwise, read⟩ := bind_some read
  cases read
  exact defines_clause (defines_append (inner.suite suite) (inner.otherwise otherwise))

theorem for_defines (read : readFor (n + 1) column c = some (trees, c')) : Defines P trees := by
  unfold readFor at read
  obtain ⟨_, -, read⟩ := bind_some read
  obtain ⟨⟨_, _⟩, -, read⟩ := bind_some read
  obtain ⟨_, -, read⟩ := bind_some read
  exact inner.withElse read

theorem with_defines (read : readWith (n + 1) column c = some (trees, c')) : Defines P trees := by
  unfold readWith at read
  obtain ⟨⟨_, _⟩, -, read⟩ := bind_some read
  obtain ⟨_, -, read⟩ := bind_some read
  obtain ⟨⟨only, _⟩, clause, read⟩ := bind_some read
  cases read
  exact inner.clause clause

theorem handlers_define (read : readHandlers (n + 1) column c = some (trees, c')) :
    Defines P trees := by
  unfold readHandlers at read
  dsimp only at read
  split at read
  · obtain ⟨_, -, read⟩ := bind_some read
    obtain ⟨⟨first, _⟩, clause, read⟩ := bind_some read
    obtain ⟨⟨later, _⟩, more, read⟩ := bind_some read
    cases read
    exact defines_cons (inner.clause clause) (inner.handlers more)
  · obtain ⟨⟨alternative, _⟩, otherwise, read⟩ := bind_some read
    dsimp only at read
    split at read
    · obtain ⟨_, -, read⟩ := bind_some read
      obtain ⟨⟨last, _⟩, clause, read⟩ := bind_some read
      cases read
      exact defines_append (inner.otherwise otherwise) (inner.clause clause)
    · cases read
      exact inner.otherwise otherwise

theorem choices_define (read : readCases (n + 1) column c = some (trees, c')) : Defines P trees := by
  unfold readCases at read
  dsimp only at read
  split at read
  · cases read
    exact defines_nil
  · split at read
    · obtain ⟨_, -, read⟩ := bind_some read
      obtain ⟨⟨first, _⟩, clause, read⟩ := bind_some read
      obtain ⟨⟨later, _⟩, more, read⟩ := bind_some read
      cases read
      exact defines_cons (inner.clause clause) (inner.choices more)
    · cases read

theorem class_defines (read : readClass (n + 1) column c = some (tree, c')) : Defines P [tree] := by
  unfold readClass at read
  obtain ⟨_, -, read⟩ := bind_some read
  exact inner.clause read

theorem decorated_defines (read : readDecorated (n + 1) column c = some (tree, c')) :
    Defines P [tree] := by
  unfold readDecorated at read
  obtain ⟨a, -, read⟩ := bind_some read
  split at read
  · obtain ⟨⟨_, _⟩, -, read⟩ := bind_some read
    obtain ⟨_, -, read⟩ := bind_some read
    split at read
    · exact inner.decorated read
    · cases read
  · exact inner.body read
  · exact inner.function read
  · obtain ⟨_, -, read⟩ := bind_some read
    split at read
    · exact inner.function read
    · cases read
  · cases read

theorem statement_defines (read : readStatement (n + 1) column c = some (trees, c')) :
    Defines P trees := by
  have single {found : Option (Tree × Cursor)}
      (defines : ∀ {tree c'}, found = some (tree, c') → Defines P [tree])
      (same : (found.map fun read => ([read.1], read.2)) = some (trees, c')) : Defines P trees := by
    obtain ⟨⟨tree, _⟩, ends, same⟩ := Option.map_eq_some_iff.mp same
    cases same
    exact defines ends
  unfold readStatement at read
  obtain ⟨a, -, read⟩ := bind_some read
  split at read
  · obtain ⟨⟨_, _⟩, -, read⟩ := bind_some read
    obtain ⟨_, -, read⟩ := bind_some read
    obtain ⟨⟨body, _⟩, suite, read⟩ := bind_some read
    obtain ⟨⟨alternatives, _⟩, more, read⟩ := bind_some read
    cases read
    exact defines_clause (defines_append (inner.suite suite) (inner.alternatives more))
  · obtain ⟨⟨_, _⟩, -, read⟩ := bind_some read
    obtain ⟨_, -, read⟩ := bind_some read
    exact inner.withElse read
  · exact inner.loop read
  · obtain ⟨_, -, read⟩ := bind_some read
    obtain ⟨⟨body, _⟩, suite, read⟩ := bind_some read
    obtain ⟨⟨handlers, _⟩, more, read⟩ := bind_some read
    cases read
    exact defines_clause (defines_append (inner.suite suite) (inner.handlers more))
  · exact inner.context read
  · exact single inner.body read
  · exact single inner.function read
  · obtain ⟨b, -, read⟩ := bind_some read
    dsimp only at read
    split at read
    · exact single inner.function read
    · exact inner.loop read
    · exact inner.context read
    · exact line_defines read
  · exact single inner.decorated read
  · split at read
    · dsimp only at read
      split at read
      · obtain ⟨⟨choices, _⟩, more, read⟩ := bind_some read
        cases read
        exact defines_clause (inner.choices more)
      · cases read
        exact defines_clause defines_nil
    · exact line_defines read
  · exact line_defines read

end Step

section Run

variable (heads : ∀ {c f row head}, Cursor.functionHead c f row = some head → P head.definition)

include heads

theorem function_defines {n : Nat} (inner : ReadsDefined P n)
    (read : readFunction (n + 1) column row c = some (tree, c')) : Defines P [tree] := by
  unfold readFunction at read
  obtain ⟨head, opened, read⟩ := bind_some read
  obtain ⟨⟨body, _⟩, suite, read⟩ := bind_some read
  cases read
  exact defines_function (heads opened) (inner.suite suite)

/-- The readers of statements pass on what holds of function heads, however far they read. -/
theorem reads_defined (n : Nat) : ReadsDefined P n := by
  -- On the fuel: without any nothing is read, and a reader calls the others with one unit less.
  induction n with
  | zero =>
      constructor <;> intros <;>
        simp_all only [readBlock, readSuite, readClause, readStatement, readAlternativeClauses, readElse,
          readWithElse, readFor, readWith, readHandlers, readCases, readFunction, readClass, readDecorated,
          reduceCtorEq]
  | succ n ih =>
      exact {
        block := block_defines ih
        suite := suite_defines ih
        clause := clause_defines ih
        statement := statement_defines ih
        alternatives := alternatives_define ih
        otherwise := else_defines ih
        withElse := with_else_defines ih
        loop := for_defines ih
        context := with_defines ih
        handlers := handlers_define ih
        choices := choices_define ih
        function := function_defines heads ih
        body := class_defines ih
        decorated := decorated_defines ih }

theorem module_defines {text : List Char} (read : readModule text = some trees) : Defines P trees := by
  unfold readModule at read
  dsimp only at read
  split at read
  · next block =>
      cases read
      exact (reads_defined heads _).block block
  · cases read

end Run

end Reading

section Names

structure IsIdentifier (w : String) : Prop where
  word : IsWord w.toList
  free : isName w = true

instance (w : String) : Decidable (IsIdentifier w) :=
  decidable_of_iff (IsWord w.toList ∧ isName w = true)
    ⟨fun named => ⟨named.1, named.2⟩, fun named => ⟨named.word, named.free⟩⟩

variable {c c' : Cursor} {f : Frame} {w : String}

theorem identifier_named (read : c.identifier f = some (w, c')) : IsIdentifier w := by
  unfold Cursor.identifier at read
  obtain ⟨a, met, read⟩ := bind_some read
  split at read
  · next token =>
      split at read
      · next free =>
          cases read
          exact ⟨peek_is_word met token, free⟩
      · cases read
  · cases read

def Parameter.Named : Parameter → Prop
  | .plain name | .default name | .typed name | .typedDefault name => IsIdentifier name
  | _ => True

theorem parameter_named {n : Nat} {types : Bool} {closer : String} {p : Parameter}
    (read : readParameter n f types closer c = some (p, c')) : p.Named := by
  cases n with
  | zero => cases read
  | succ n =>
      unfold readParameter at read
      obtain ⟨a, met, read⟩ := bind_some read
      split at read
      · cases read
        trivial
      · obtain ⟨b, -, read⟩ := bind_some read
        split at read
        · cases read
          trivial
        · obtain ⟨⟨_, _⟩, -, read⟩ := bind_some read
          cases read
          trivial
      · obtain ⟨⟨_, _⟩, -, read⟩ := bind_some read
        cases read
        trivial
      · obtain ⟨⟨_, _⟩, -, read⟩ := bind_some read
        dsimp only at read
        split at read
        · obtain ⟨⟨_, _⟩, -, read⟩ := bind_some read
          cases read
          trivial
        · cases read
      · next token =>
          split at read
          · next free =>
              have named : IsIdentifier _ := ⟨peek_is_word met token, free⟩
              obtain ⟨b, -, read⟩ := bind_some read
              split at read
              · obtain ⟨_, -, read⟩ := bind_some read
                obtain ⟨⟨given, _⟩, -, read⟩ := bind_some read
                cases read
                cases given <;> exact named
              · obtain ⟨⟨given, _⟩, -, read⟩ := bind_some read
                cases read
                cases given <;> exact named
          · cases read
      · cases read

theorem parameters_named {n : Nat} {types : Bool} {closer : String} {ps : List Parameter}
    (read : readParameters n f types closer c = some (ps, c')) : ∀ p ∈ ps, p.Named := by
  induction n generalizing c ps with
  | zero => cases read
  | succ n ih =>
      unfold readParameters at read
      obtain ⟨a, -, read⟩ := bind_some read
      split at read
      · cases read
        exact fun p member => absurd member List.not_mem_nil
      · obtain ⟨⟨first, _⟩, one, read⟩ := bind_some read
        obtain ⟨b, -, read⟩ := bind_some read
        have named := parameter_named one
        dsimp only at read
        split at read
        · cases read
          exact List.forall_mem_singleton.mpr named
        · split at read
          · obtain ⟨⟨later, _⟩, more, read⟩ := bind_some read
            cases read
            exact List.forall_mem_cons.mpr ⟨named, ih more⟩
          · cases read

theorem positional_named {ps : List Parameter} (named : ∀ p ∈ ps, p.Named) :
    ∀ arg ∈ positional ps, IsIdentifier arg := by
  induction ps with
  | nil => exact fun arg member => absurd member List.not_mem_nil
  | cons p ps ih =>
      obtain ⟨first, later⟩ := List.forall_mem_cons.mp named
      cases p with
      | plain name | default name | typed name | typedDefault name =>
          exact List.forall_mem_cons.mpr ⟨first, ih later⟩
      | group | slash => exact ih later
      | star | rest typed | keywords typed => exact fun arg member => absurd member List.not_mem_nil

structure Signature.Named (s : Signature) : Prop where
  name : IsIdentifier s.name
  args : ∀ arg ∈ s.args, IsIdentifier arg

theorem head_named {row : Nat} {head : Head} (read : c.functionHead f row = some head) :
    head.definition.signature.Named := by
  unfold Cursor.functionHead at read
  obtain ⟨⟨name, _⟩, named, read⟩ := bind_some read
  obtain ⟨a, -, read⟩ := bind_some read
  obtain ⟨_, read⟩ := ite_bind_some read
  obtain ⟨_, -, read⟩ := bind_some read
  obtain ⟨⟨parameters, _⟩, listed, read⟩ := bind_some read
  obtain ⟨b, -, read⟩ := bind_some read
  obtain ⟨_, read⟩ := ite_bind_some read
  obtain ⟨_, -, read⟩ := bind_some read
  cases read
  exact ⟨identifier_named named, positional_named (parameters_named listed)⟩

/-- The names that an analysis lists are words of their own, in every source. -/
theorem signatures_named (code : String) : ∀ s ∈ (analyze code).signatures, s.Named := by
  intro s member
  unfold analyze at member
  split at member
  · next read =>
      obtain ⟨callable, listed, rfl⟩ := List.mem_map.mp member
      exact module_defines (P := fun d => d.signature.Named) head_named read callable listed
  · exact absurd member List.not_mem_nil

end Names

end CodeReview.Python

import CodeReview.Proofs.Python.Named
import CodeReview.Proofs.Python.ParameterText
import CodeReview.Proofs.Python.Position

/-!
The parameters of a function that a call by position can fill are those with a name before the first star. What
stands behind it, and every comment, mark and group before it, leaves the signature as it is.
-/

namespace CodeReview.Python

open Text

section Words

variable {f : Frame} (inside : f.Bracketed) {w : String} {rest : List Char}

theorem type_tail_ends {n : Nat} {c : Cursor} {a : Ahead} (met : c.peek f = some a)
    (token : a.token = .mark "=" ∨ a.token = .mark "," ∨ a.token = .mark ")") :
    readTypeTail (n + 1) f true c = some c := by
  rw [readTypeTail, met, Option.bind_eq_bind, Option.bind_some]
  rcases token with token | token | token <;> rw [token] <;> rfl

include inside

theorem word_ends (spaces : Nat) (plain : PlainWord w) (ending : Ending rest) (row : Nat) :
    Stands 3 f ⟨List.replicate spaces ' ' ++ (w.toList ++ rest), row⟩
      ⟨.word w, ⟨w.toList ++ rest, row⟩, ⟨rest, row⟩⟩ (some (.name, ⟨rest, row⟩)) := by
  have comes := comes_word_over row spaces plain.word (ending_ends_word ending)
  have followed := ending_followed inside row ending
  refine ⟨comes, ⟨plain.plain, fun _ _ => ?_⟩, ?_, ?_⟩
  · obtain ⟨b, meets, ends⟩ := followed
    refine ⟨b, meets, ?_⟩
    intro named
    rw [named] at ends
    exact absurd ends (by decide)
  · apply atom_primary (comes.again _) plain.plain (word_atom (comes.again _) rfl plain.operand)
    rintro _ ⟨⟩
    exact followed.widened fun _ => List.mem_cons_of_mem _
  · rintro _ ⟨⟩
    exact followed

theorem word_expression (spaces : Nat) (plain : PlainWord w) (ending : Ending rest) (row : Nat) :
    ∀ n ≥ 11, readExpression n f true ⟨List.replicate spaces ' ' ++ (w.toList ++ rest), row⟩ =
      some (.name, ⟨rest, row⟩) := by
  apply expression_reads (operand_chain (word_ends inside spaces plain ending row))
  rintro _ ⟨⟩
  rintro ⟨⟩

omit inside in
theorem spaced_lead (spaces : Nat) (plain : PlainWord w) :
    ∃ d more, List.replicate spaces ' ' ++ w.toList = d :: more ∧ d ≠ '=' ∧ d ≠ ':' := by
  cases spaces with
  | succ n => exact ⟨' ', _, rfl, by decide, by decide⟩
  | zero =>
      obtain ⟨c, more, same, start⟩ := plain.word.start
      exact ⟨c, more, same, char_apart start '=' rfl, char_apart start ':' rfl⟩

theorem word_value (spaces : Nat) (plain : PlainWord w) : IsValue f (List.replicate spaces ' ' ++ w.toList) := by
  obtain ⟨d, more, same, assign, -⟩ := spaced_lead spaces plain
  constructor
  · exact ⟨d, more, same, assign⟩
  · intro rest row n closing enough
    rw [List.append_assoc]
    exact ⟨.name, row, word_expression inside spaces plain (.inl closing) row n (by omega)⟩

theorem word_type (spaces : Nat) (plain : PlainWord w) : IsType f (List.replicate spaces ' ' ++ w.toList) := by
  constructor
  · exact spaced_lead spaces plain
  · intro rest row n ending enough
    obtain ⟨n, rfl⟩ := Nat.exists_eq_add_of_le' (show 2 ≤ n by omega)
    have comes := comes_word_over row spaces plain.word (ending_ends_word ending)
    obtain ⟨b, met, token⟩ := ending_met row ending
    have bracket : (b.token == .mark "[") = false := by
      rcases token with token | token | token <;> rw [token] <;> rfl
    have read := word_expression inside 0 plain ending row (n + 1) (by omega)
    rw [List.replicate_zero, List.nil_append] at read
    refine ⟨row, ?_⟩
    rw [List.append_assoc, readType, comes.peek]
    simp only [Option.bind_eq_bind, Option.bind_some, met f inside, bracket, Bool.and_false, Bool.false_eq_true,
      if_false, read]
    exact type_tail_ends (met f inside) token

end Words

section Groups

variable {f : Frame} {w : String} {ws : List String} {rest : List Char}

theorem word_element (f : Frame) (plain : PlainWord w) (ws : List String) (rest : List Char) (row : Nat) :
    ∀ n ≥ 11, readElement n f ⟨w.toList ++ (furtherWords ws ++ ')' :: rest), row⟩ =
      some (.name, ⟨furtherWords ws ++ ')' :: rest, row⟩) := by
  have comes := comes_word row plain.word (list_ends_word rest ws)
  obtain ⟨b, behind, token⟩ := list_followed row rest ws
  have ends : b.token ∈ expressionEnds := by
    rcases token with token | token <;> rw [token] <;> decide
  have stands : Stands 3 f _ _ _ := word_stands comes rfl plain behind ends
  intro n enough
  obtain ⟨n, rfl⟩ := Nat.exists_eq_add_of_le' (show 1 ≤ n by omega)
  rw [element_operand (comes.peek _) plain.plain]
  exact operand_chain stands.again n (by omega)

theorem elements_read (plain : ∀ w ∈ ws, PlainWord w) (rest : List Char) (row : Nat) :
    ∀ n ≥ ws.length + 12, readElements n f ")" true ⟨furtherWords ws ++ ')' :: rest, row⟩ =
      some (.group, ⟨rest, row⟩) := by
  induction ws with
  | nil =>
      intro n enough
      obtain ⟨n, rfl⟩ := Nat.exists_eq_add_of_le' (show 1 ≤ n by omega)
      rw [furtherWords, List.nil_append, readElements, comes_closing.peek]
      rfl
  | cons w ws ih =>
      obtain ⟨first, later⟩ := List.forall_mem_cons.mp plain
      have spaced := comes_word_spaced row first.word (list_ends_word rest ws)
      intro n enough
      rw [List.length_cons] at enough
      obtain ⟨n, rfl⟩ := Nat.exists_eq_add_of_le' (show 1 ≤ n by omega)
      have element := word_element f.inside first ws rest row n (by omega)
      rw [furtherWords, readElements, List.cons_append, List.cons_append, List.append_assoc, comes_comma.peek]
      simp only [Option.bind_eq_bind, Option.bind_some, spaced.peek, beq_iff_eq, reduceCtorEq, if_false,
        element]
      exact ih later n (by omega)

theorem words_group (f : Frame) (plain : ∀ v ∈ w :: ws, PlainWord v) :
    IsGroup f ('(' :: (listedWords (w :: ws) ++ [')'])) := by
  obtain ⟨first, later⟩ := List.forall_mem_cons.mp plain
  constructor
  · exact ⟨_, rfl⟩
  · intro rest row n enough
    have long := further_length ws
    simp only [listedWords, List.length_cons, List.length_append] at enough
    obtain ⟨n, rfl⟩ := Nat.exists_eq_add_of_le' (show 2 ≤ n by omega)
    have text : '(' :: (listedWords (w :: ws) ++ [')']) ++ rest =
        '(' :: (w.toList ++ (furtherWords ws ++ ')' :: rest)) := by
      simp [listedWords]
    have opening : Comes ⟨'(' :: (w.toList ++ (furtherWords ws ++ ')' :: rest)), row⟩ ⟨.mark "(", _, _⟩ :=
      comes_here rfl rfl
    have comes := comes_word row first.word (list_ends_word rest ws)
    obtain ⟨b, behind, token⟩ := list_followed row rest ws
    have alone : Cursor.startsClause ⟨furtherWords ws ++ ')' :: rest, row⟩ f.inside = false :=
      no_clause (behind.peek _) (list_token token (by decide) (by decide))
        (list_token token (by decide) (by decide))
    refine ⟨.group, row, rfl, ?_⟩
    rw [text, readAtom, opening.peek]
    simp only [Option.bind_eq_bind, Option.bind_some]
    rw [readBracketed, comes.peek]
    simp only [Option.bind_eq_bind, Option.bind_some, beq_iff_eq, reduceCtorEq, if_false,
      word_element f.inside first ws rest row n (by omega), alone, Bool.and_false, Bool.false_eq_true]
    exact elements_read later rest row n (by omega)

end Groups

section Names

def Parameter.name? : Parameter → Option String
  | .plain name | .default name | .typed name | .typedDefault name => some name
  | _ => none

/-- Behind such a parameter values are given by name only. -/
def Parameter.isStar : Parameter → Bool
  | .star | .rest _ | .keywords _ => true
  | _ => false

def Item.name? (item : Item) : Option String := item.parameter?.bind Parameter.name?

def Item.isStar (item : Item) : Bool := item.parameter?.any Parameter.isStar

def namesBefore (items : List Item) : List String :=
  (items.takeWhile fun item => !item.isStar).filterMap Item.name?

variable (items : List Item)

theorem positional_names : positional (items.filterMap Item.parameter?) = namesBefore items := by
  induction items with
  | nil => rfl
  | cons item items ih =>
      rw [namesBefore] at ih ⊢
      cases item with
      | comment text => exact ih
      | parameter p =>
          cases p with
          | plain name | default name | typed name | typedDefault name => exact congrArg (List.cons name) ih
          | group | slash => exact ih
          | star | rest typed | keywords typed => rfl

theorem parameters_named_before (ps : List Parameter) : positional ps = namesBefore (ps.map .parameter) := by
  have same : (ps.map Item.parameter).filterMap Item.parameter? = ps := by
    rw [List.filterMap_map]
    exact List.filterMap_some
  rw [← positional_names, same]

theorem names_before_star (front : List Item) {star : Item} (stops : star.isStar = true) (more more' : List Item) :
    namesBefore (front ++ star :: more) = namesBefore (front ++ star :: more') := by
  induction front with
  | nil => simp [namesBefore, stops]
  | cons item front ih =>
      rw [namesBefore, namesBefore] at ih ⊢
      rw [List.cons_append, List.cons_append, List.takeWhile_cons, List.takeWhile_cons]
      split
      · rw [List.filterMap_cons, List.filterMap_cons, ih]
      · rfl

end Names

section Functions

variable {column : Nat} {name : String} {list tail : List Char} {items : List Item} {s : Signature}

/-- Wherever a function with a name and a list is read, it has the signature. -/
def Signs (column : Nat) (list : List Char) (s : Signature) : Prop :=
  ∀ n line row tail tree c,
    readFunction n column line ⟨' ' :: (s.name.toList ++ '(' :: (list ++ ')' :: tail)), row⟩ = some (tree, c) →
      ∃ d body, tree = .node (.function d) body ∧ d.signature = s

theorem list_read (text : ListText (Frame.line column).middle.inside list items) (tail : List Char) (row : Nat) :
    ∃ row', Cursor.parameters ⟨list ++ ')' :: tail, row⟩ (Frame.line column).middle =
      some (items.filterMap Item.parameter?, ⟨tail, row'⟩) := by
  apply parameters_read (inside_bracketed _) text
  rw [Cursor.fuel, List.length_append]
  omega

theorem head_listed (named : IsIdentifier name) (text : ListText (Frame.line column).middle.inside list items)
    (tail : List Char) (row line : Nat) :
    ∃ row', Cursor.functionHead ⟨' ' :: (name.toList ++ '(' :: (list ++ ')' :: tail)), row⟩
      (Frame.line column).middle line = (do
        let b ← Cursor.peek ⟨tail, row'⟩ (Frame.line column).middle
        let c ← if b.token == .mark "->" then b.next.type (Frame.line column).middle false else some ⟨tail, row'⟩
        let c ← c.expect (Frame.line column).middle ":"
        some ⟨⟨name, items.filterMap Item.parameter?, line + 1⟩, c⟩) := by
  have word := comes_word_spaced row named.word (ends_word '(' (list ++ ')' :: tail) rfl rfl)
  have opening : Comes ⟨'(' :: (list ++ ')' :: tail), row⟩ ⟨.mark "(", _, ⟨list ++ ')' :: tail, row⟩⟩ :=
    comes_here (by decide) rfl
  obtain ⟨row', parameters⟩ := list_read text tail row
  refine ⟨row', ?_⟩
  rw [Cursor.functionHead, Cursor.identifier, word.peek]
  simp only [Option.bind_eq_bind, Option.bind_some, named.free, if_true, Cursor.expect, opening.peek,
    beq_iff_eq, Token.mark.injEq, String.reduceEq, if_false, parameters]

theorem head_reads (named : IsIdentifier name) (text : ListText (Frame.line column).middle.inside list items)
    (alone : ∀ d ∈ tail.head?, d ≠ '=' ∧ d ≠ ':') (row line : Nat) :
    ∃ row', Cursor.functionHead ⟨' ' :: (name.toList ++ '(' :: (list ++ ')' :: ':' :: tail)), row⟩
      (Frame.line column).middle line =
        some ⟨⟨name, items.filterMap Item.parameter?, line + 1⟩, ⟨tail, row'⟩⟩ := by
  obtain ⟨row', read⟩ := head_listed named text (':' :: tail) row line
  obtain ⟨starts, mark⟩ := lexeme_mark alone (by decide)
  have colon : Comes ⟨':' :: tail, row'⟩ ⟨.mark ":", _, ⟨tail, row'⟩⟩ := comes_here starts mark
  refine ⟨row', ?_⟩
  rw [read, colon.peek]
  simp only [Option.bind_eq_bind, Option.bind_some, beq_iff_eq, Token.mark.injEq, String.reduceEq, if_false,
    Cursor.expect, colon.peek, if_true]

theorem head_signs (named : IsIdentifier name) (text : ListText (Frame.line column).middle.inside list items)
    {row line : Nat} {head : Head}
    (read : Cursor.functionHead ⟨' ' :: (name.toList ++ '(' :: (list ++ ')' :: tail)), row⟩
      (Frame.line column).middle line = some head) :
    head.definition.signature = ⟨name, namesBefore items⟩ := by
  obtain ⟨row', listed⟩ := head_listed named text tail row line
  rw [listed] at read
  obtain ⟨b, -, read⟩ := bind_some read
  obtain ⟨_, read⟩ := ite_bind_some read
  obtain ⟨_, -, read⟩ := bind_some read
  cases read
  exact congrArg (Signature.mk name) (positional_names items)

theorem function_signs (named : IsIdentifier name)
    (text : ListText (Frame.line column).middle.inside list items) :
    Signs column list ⟨name, namesBefore items⟩ := by
  intro n line row tail tree c read
  cases n with
  | zero =>
      rw [readFunction] at read
      cases read
  | succ n =>
      rw [readFunction] at read
      obtain ⟨head, opened, read⟩ := bind_some read
      obtain ⟨⟨body, _⟩, -, read⟩ := bind_some read
      cases read
      exact ⟨head.definition, body, rfl, head_signs named text opened⟩

theorem statement_signs (signs : Signs column list s) {n row : Nat} {trees : List Tree} {c : Cursor}
    (read : readStatement n column ⟨"def ".toList ++ (s.name.toList ++ '(' :: (list ++ ')' :: tail)), row⟩ =
      some (trees, c)) :
    ∃ d body, trees = [.node (.function d) body] ∧ d.signature = s := by
  have word : IsWord "def".toList := by decide
  have opening := comes_word row word (ends_word ' ' (s.name.toList ++ '(' :: (list ++ ')' :: tail)) rfl rfl)
  cases n with
  | zero =>
      rw [readStatement] at read
      cases read
  | succ n =>
      rw [readStatement] at read
      obtain ⟨a, met, read⟩ := bind_some read
      cases (opening.peek _).symm.trans met
      obtain ⟨⟨tree, _⟩, function, same⟩ := Option.map_eq_some_iff.mp read
      cases same
      obtain ⟨d, body, rfl, signature⟩ := signs _ _ _ _ _ _ function
      exact ⟨d, body, rfl, signature⟩

/-- A module that begins with a function has its signature first. -/
theorem module_signs (signs : Signs 0 list s) {code : String}
    (begins : code.toList = "def ".toList ++ (s.name.toList ++ '(' :: (list ++ ')' :: tail)))
    (parsed : (analyze code).parsed = true) : (analyze code).signatures.head? = some s := by
  have gap (text : List Char) (row : Nat) :
      Cursor.gap ⟨"def ".toList ++ text, row⟩ = ⟨false, 0, ⟨"def ".toList ++ text, row⟩⟩ := gap_token rfl
  unfold analyze at parsed ⊢
  split at parsed
  · next trees read =>
      unfold readModule at read
      dsimp only at read
      rw [begins] at read
      split at read
      · next block =>
          cases read
          rw [Cursor.fuel, readBlock, gap, if_neg (by simp)] at block
          obtain ⟨⟨first, c⟩, statement, block⟩ := bind_some block
          obtain ⟨⟨more, _⟩, -, block⟩ := bind_some block
          cases block
          obtain ⟨d, body, rfl, signature⟩ := statement_signs signs statement
          exact congrArg some signature
      · cases read
  · cases parsed

end Functions

section Sources

/-- The signatures of a source are those of its functions, with the names before the first star of each. -/
theorem signatures_before {code : String} {trees : List Tree} (read : readModule code.toList = some trees) :
    (analyze code).signatures = (moduleTree trees).functions.map fun a =>
      ⟨a.definition.name, namesBefore (a.definition.parameters.map .parameter)⟩ := by
  have listed : callablesOf trees = (moduleTree trees).functions.map Tree.callable :=
    Tree.callables_listed (moduleTree trees)
  rw [analyze, read]
  dsimp only
  rw [listed, List.map_map]
  refine List.map_congr_left fun a _ => ?_
  exact congrArg (Signature.mk a.definition.name) (parameters_named_before a.definition.parameters)

end Sources

end CodeReview.Python

import CodeReview.Proofs.Coverage.ModuleName
import CodeReview.Proofs.Tests.ScaffoldLines
import CodeReview.Proofs.Text.Trimming
import Mathlib.Data.List.Dedup

/-!
The scaffold as a module. Its text is a heading of imports and one function below the other, and it is read
back as just these functions if the name of the imported module can be pasted into its literal.
-/

namespace CodeReview.Scaffold

open Text Python

section Functions

structure Piece where
  name : String
  body : List (List Char)
  behind : List Char

def Piece.text (p : Piece) : List Char :=
  '\n' :: ("def ".toList ++ (p.name.toList ++ '(' :: ')' :: ':' :: below 4 p.body p.behind))

def Blank (cs : List Char) : Prop :=
  ∀ row breaks indent rest, ∃ row',
    gapFrom .counting row breaks indent (cs ++ rest) = gapFrom .counting row' true 0 rest

structure Piece.Sound (p : Piece) : Prop where
  named : IsIdentifier p.name
  filled : p.body ≠ []
  simple : ∀ line ∈ p.body, SimpleLine line
  feed : ∃ more, p.behind = '\n' :: more
  blank : Blank p.behind

variable {p : Piece} {ps : List Piece} {cs rest : List Char}

theorem below_append (column : Nat) (lines : List (List Char)) (cs rest : List Char) :
    below column lines cs ++ rest = below column lines (cs ++ rest) := by
  induction lines with
  | nil => rfl
  | cons line lines ih => simp only [below, List.cons_append, List.append_assoc, ih]

theorem below_length (column : Nat) (lines : List (List Char)) (cs : List Char) :
    cs.length ≤ (below column lines cs).length := by
  induction lines with
  | nil => exact Nat.le_refl _
  | cons line lines ih =>
      simp only [below, List.length_cons, List.length_append]
      omega

theorem piece_append (p : Piece) (rest : List Char) :
    p.text ++ rest = '\n' :: ("def ".toList ++ (p.name.toList ++ '(' :: ')' :: ':' ::
      below 4 p.body (p.behind ++ rest))) := by
  simp only [Piece.text, List.cons_append, List.append_assoc, below_append]

theorem blank_pieces (blank : Blank cs) (ps : List Piece) (row : Nat) :
    (Cursor.gap ⟨cs ++ ps.flatMap Piece.text, row⟩).next.rest = [] ∨
      (Cursor.gap ⟨cs ++ ps.flatMap Piece.text, row⟩).breaks = true ∧
        (Cursor.gap ⟨cs ++ ps.flatMap Piece.text, row⟩).indent = 0 := by
  obtain ⟨row', passed⟩ := blank row false 0 (ps.flatMap Piece.text)
  rw [Cursor.gap, passed]
  cases ps with
  | nil => exact .inl rfl
  | cons p ps =>
      rw [List.flatMap_cons, piece_append]
      exact .inr ⟨rfl, rfl⟩

theorem piece_reads (sound : p.Sound) (ps : List Piece) :
    StatementReads 0 ("def ".toList ++ (p.name.toList ++ '(' :: ')' :: ':' ::
        below 4 p.body (p.behind ++ ps.flatMap Piece.text)))
      (some ([⟨p.name, []⟩], p.behind ++ ps.flatMap Piece.text)) := by
  have closes : Closes 4 (p.behind ++ ps.flatMap Piece.text) := by
    intro row
    rcases blank_pieces sound.blank ps row with nothing | ⟨ended, left⟩
    · exact .inl nothing
    · exact .inr ⟨ended, by rw [left]; decide⟩
  obtain ⟨more, feed⟩ := sound.feed
  rw [feed, List.cons_append] at closes ⊢
  obtain ⟨body, first⟩ := below_feed 4 p.body (more ++ ps.flatMap Piece.text)
  have block := lines_block sound.simple (block_end closes)
  have deeper : Deeper 0 4 (below 4 p.body ('\n' :: (more ++ ps.flatMap Piece.text))) :=
    deeper_below sound.filled sound.simple (by decide)
  rw [first] at block deeper ⊢
  exact function_reads sound.named deeper block

/-- Functions one below the other are read as a block that defines them in order. -/
theorem pieces_block (sound : ∀ p ∈ ps, p.Sound) (blank : Blank cs) :
    ∃ after, BlockReads 0 (cs ++ ps.flatMap Piece.text) (some (ps.map fun p => ⟨p.name, []⟩, after)) := by
  induction ps generalizing cs with
  | nil =>
      refine ⟨_, block_end fun row => .inl ?_⟩
      obtain ⟨row', passed⟩ := blank row false 0 []
      rw [List.flatMap_nil, Cursor.gap, passed]
      rfl
  | cons p ps ih =>
      obtain ⟨first, later⟩ := List.forall_mem_cons.mp sound
      obtain ⟨after, block⟩ := ih later first.blank
      have opens (text : List Char) : Opens 0 (cs ++ ['\n']) ("def ".toList ++ text) := by
        intro row
        obtain ⟨row', passed⟩ := blank row false 0 ('\n' :: ("def ".toList ++ text))
        refine ⟨true, 0, row' + 1, ?_, fun _ => Nat.le_refl 0⟩
        rw [Cursor.gap, List.append_assoc, List.singleton_append, passed]
        rfl
      have whole := block_next (opens _) ?_ (piece_reads first ps) block
      · refine ⟨after, ?_⟩
        rw [List.flatMap_cons, piece_append]
        simpa using whole
      · have size := below_length 4 p.body (p.behind ++ ps.flatMap Piece.text)
        simp only [List.length_append, List.length_cons] at size ⊢
        omega

end Functions

section Notes

variable {ws : List String} {cs ds : List Char} {edgeCases : List EdgeCase}

def note (edgeCases : List EdgeCase) : List Char :=
  if edgeCases.isEmpty then []
  else '\n' :: ("    # Edge cases noted: " ++ ", ".intercalate (edgeCases.map EdgeCase.tag)).toList

def Finished (cs : List Char) : Prop := ∃ front d, cs = front ++ [d, '\n'] ∧ isBlank d = false

theorem Finished.behind (finished : Finished cs) (before : cs <:+ ds) : Finished ds := by
  obtain ⟨more, rfl⟩ := before
  obtain ⟨front, d, rfl, solid⟩ := finished
  exact ⟨more ++ front, d, (List.append_assoc _ _ _).symm, solid⟩

theorem listed_quiet (quiet : ∀ w ∈ ws, w.toList.all isQuiet = true) : (listedWords ws).all isQuiet = true := by
  have further {ws : List String} (quiet : ∀ w ∈ ws, w.toList.all isQuiet = true) :
      (furtherWords ws).all isQuiet = true := by
    induction ws with
    | nil => rfl
    | cons w ws ih =>
        obtain ⟨first, later⟩ := List.forall_mem_cons.mp quiet
        rw [furtherWords, List.all_cons, List.all_cons, List.all_append, first, ih later]
        rfl
  cases ws with
  | nil => rfl
  | cons w ws =>
      obtain ⟨first, later⟩ := List.forall_mem_cons.mp quiet
      rw [listedWords, List.all_append, first, further later]
      rfl

theorem listed_last (filled : ws ≠ []) : (ws.getLast filled).toList <:+ listedWords ws := by
  have further (w : String) (ws : List String) :
      ((w :: ws).getLast (List.cons_ne_nil w ws)).toList <:+ w.toList ++ furtherWords ws := by
    induction ws generalizing w with
    | nil => exact ⟨[], by simp [furtherWords]⟩
    | cons v ws ih =>
        obtain ⟨more, same⟩ := ih v
        refine ⟨w.toList ++ ',' :: ' ' :: more, ?_⟩
        rw [List.getLast_cons (List.cons_ne_nil v ws), furtherWords, ← same]
        simp
  cases ws with
  | nil => exact absurd rfl filled
  | cons w ws => exact further w ws

theorem tag_quiet (e : EdgeCase) : e.tag.toList.all isQuiet = true := by
  cases e <;> decide

theorem tag_solid (e : EdgeCase) : ∃ d ∈ e.tag.toList.getLast?, isBlank d = false := by
  cases e <;> exact ⟨_, rfl, by decide⟩

theorem note_blank (edgeCases : List EdgeCase) : Blank (note edgeCases ++ ['\n']) := by
  intro row breaks indent rest
  unfold note
  split
  · exact ⟨row + 1, rfl⟩
  · -- The line feed in front of the comment and the one that ends it are both passed.
    have label : " Edge cases noted: ".toList.all isQuiet = true := by decide
    have tags : (listedWords (edgeCases.map EdgeCase.tag)).all isQuiet = true := by
      refine listed_quiet fun w tagged => ?_
      obtain ⟨e, -, rfl⟩ := List.mem_map.mp tagged
      exact tag_quiet e
    have quiet : (" Edge cases noted: ".toList ++ listedWords (edgeCases.map EdgeCase.tag)).all isQuiet = true := by
      rw [List.all_append, label, tags]
      rfl
    have text : "    # Edge cases noted: ".toList =
        List.replicate 4 ' ' ++ '#' :: " Edge cases noted: ".toList := by decide
    refine ⟨row + 1 + 1, ?_⟩
    rw [String.toList_append, listed_intercalate, text]
    have passed : gapFrom .counting (row + 1) true (0 + 4)
        ('#' :: ((" Edge cases noted: ".toList ++ listedWords (edgeCases.map EdgeCase.tag)) ++ '\n' :: rest)) =
        gapFrom .counting (row + 1 + 1) true 0 rest := gap_comment _ quiet
    rw [← passed, ← gap_spaces]
    simp only [List.cons_append, List.append_assoc, List.nil_append, gap_feed]

theorem note_finished (filled : edgeCases.isEmpty = false) : Finished (note edgeCases ++ ['\n']) := by
  have tags : edgeCases.map EdgeCase.tag ≠ [] := by
    rw [Ne, List.map_eq_nil_iff, ← List.isEmpty_iff, filled]
    exact Bool.false_ne_true
  obtain ⟨e, -, tagged⟩ := List.mem_map.mp (List.getLast_mem tags)
  obtain ⟨d, last, solid⟩ := tag_solid e
  obtain ⟨front, same⟩ := List.getLast?_eq_some_iff.mp last
  have finished : Finished (e.tag.toList ++ ['\n']) := ⟨front, d, by rw [same]; simp, solid⟩
  obtain ⟨more, listed⟩ := listed_last tags
  refine finished.behind ⟨'\n' :: ("    # Edge cases noted: ".toList ++ more), ?_⟩
  rw [note, filled, if_neg Bool.false_ne_true, String.toList_append, listed_intercalate, ← listed, tagged]
  simp only [List.cons_append, List.append_assoc]

end Notes

section Tests

variable {s : Signature} {ss : List Signature} {edgeCases : List EdgeCase}

def statements (s : Signature) : List String :=
  s.args.map (fun arg => arg ++ "_value = " ++ placeholder arg) ++
    ["result = module." ++ s.name ++ "(" ++ ", ".intercalate (s.args.map (· ++ "_value")) ++ ")",
      "assert result is not None"]

def testName (name : String) : String := "test_" ++ name ++ "_returns_value"

def testPiece (edgeCases : List EdgeCase) (s : Signature) : Piece :=
  ⟨testName s.name, (statements s).map String.toList, note edgeCases ++ ['\n']⟩

def idlePiece : Piece :=
  ⟨"test_placeholder", ["pytest.skip('No callable functions detected; add tests manually.')".toList], ['\n']⟩

def pieces (ss : List Signature) (edgeCases : List EdgeCase) : List Piece :=
  if ss.isEmpty then [idlePiece] else ss.map (testPiece edgeCases)

theorem test_sound (named : s.Named) : (testPiece edgeCases s).Sound where
  named := test_named named.name
  filled := by simp [testPiece, statements]
  simple := by
    intro line member
    simp only [testPiece, statements, List.map_append, List.map_map, List.mem_append, List.mem_map,
      List.map_cons, List.map_nil, List.mem_cons, List.not_mem_nil, or_false] at member
    rcases member with ⟨arg, listed, rfl⟩ | rfl | rfl
    · exact argument_simple (named.args arg listed)
    · exact call_simple s named
    · exact assert_simple
  feed := by
    rw [testPiece, note]
    split
    · exact ⟨[], rfl⟩
    · exact ⟨_, rfl⟩
  blank := note_blank edgeCases

theorem idle_sound : idlePiece.Sound where
  named := by decide
  filled := List.cons_ne_nil _ _
  simple line member := List.mem_singleton.mp member ▸ skip_simple
  feed := ⟨[], rfl⟩
  blank row _ _ _ := ⟨row + 1, rfl⟩

theorem pieces_sound (edgeCases : List EdgeCase) (named : ∀ s ∈ ss, s.Named) :
    ∀ p ∈ pieces ss edgeCases, p.Sound := by
  intro p member
  unfold pieces at member
  split at member
  · exact List.mem_singleton.mp member ▸ idle_sound
  · obtain ⟨s, listed, rfl⟩ := List.mem_map.mp member
    exact test_sound (named s listed)

end Tests

section FileText

variable {s : Signature} {ss : List Signature} {edgeCases : List EdgeCase} {cs : List Char}

def feeds (lines : List String) : List Char := lines.flatMap fun line => '\n' :: line.toList

theorem feeds_append (first rest : List String) : feeds (first ++ rest) = feeds first ++ feeds rest :=
  List.flatMap_append

theorem joined_feeds (line : String) (lines : List String) :
    ("\n".intercalate (line :: lines)).toList = line.toList ++ feeds lines := by
  rw [String.toList_intercalate, List.map_cons]
  induction lines generalizing line with
  | nil => simp [feeds]
  | cons next lines ih =>
      rw [List.map_cons, List.intercalate_cons_cons, ih next]
      simp [feeds]

theorem feeds_indented (lines : List String) (rest : List Char) :
    feeds (lines.map indented) ++ rest = below 4 (lines.map String.toList) rest := by
  induction lines with
  | nil => rfl
  | cons line lines ih =>
      have space : "    ".toList = List.replicate 4 ' ' := rfl
      rw [List.map_cons, List.map_cons, below, ← ih, feeds, List.flatMap_cons, indented, String.toList_append,
        space]
      simp [feeds]

theorem feeds_flush (first second : String) (rest : List Char) :
    feeds [first, second, ""] ++ rest = below 0 [first.toList, second.toList] ('\n' :: rest) := by
  simp [feeds, below]

theorem module_line_text (name : String) :
    ("module = importlib.import_module('" ++ name ++ "')").toList = moduleLine name.toList := by
  rw [String.toList_append, String.toList_append, List.append_assoc]
  rfl

theorem test_head_text (name : String) : ("def test_" ++ name ++ "_returns_value():").toList =
    "def ".toList ++ ((testName name).toList ++ ['(', ')', ':']) := by
  simp only [testName, String.toList_append, List.append_assoc]
  rfl

theorem test_lines_text (edgeCases : List EdgeCase) (s : Signature) :
    feeds (testLines edgeCases s) = (testPiece edgeCases s).text := by
  have body : feeds ((bodyLines s edgeCases).map indented) ++ ['\n'] =
      below 4 ((statements s).map String.toList) (note edgeCases ++ ['\n']) := by
    -- The note stands behind the statements, and an empty one is no line.
    rw [show bodyLines s edgeCases = statements s ++ _ from rfl, List.map_append, feeds_append,
      List.append_assoc, feeds_indented, note]
    congr 1
    split
    · rfl
    · simp [feeds, indented]
  have last : feeds [""] = ['\n'] := rfl
  rw [testLines, Piece.text, testPiece, ← body, ← last, ← feeds_append, feeds, List.flatMap_cons, test_head_text]
  simp [feeds]

theorem idle_lines_text : feeds placeholderLines ++ ['\n'] = idlePiece.text := by
  decide

theorem below_last (column : Nat) (lines : List (List Char)) (line rest : List Char) :
    line ++ rest <:+ below column (lines ++ [line]) rest := by
  induction lines with
  | nil => exact ⟨'\n' :: List.replicate column ' ', by simp [below]⟩
  | cons first lines ih =>
      obtain ⟨more, same⟩ := ih
      refine ⟨'\n' :: (List.replicate column ' ' ++ (first ++ more)), ?_⟩
      change _ = '\n' :: (List.replicate column ' ' ++ (first ++ below column (lines ++ [line]) rest))
      rw [← same]
      simp

theorem test_finished (edgeCases : List EdgeCase) (s : Signature) : Finished (testPiece edgeCases s).text := by
  have ending : note edgeCases ++ ['\n'] <:+ below 4 ((statements s).map String.toList) (note edgeCases ++ ['\n']) ∧
      "assert result is not None".toList ++ (note edgeCases ++ ['\n']) <:+
        below 4 ((statements s).map String.toList) (note edgeCases ++ ['\n']) := by
    have last : (statements s).map String.toList = (statements s).dropLast.map String.toList ++
        ["assert result is not None".toList] := by
      simp [statements]
    rw [last]
    have behind := below_last 4 ((statements s).dropLast.map String.toList) "assert result is not None".toList
      (note edgeCases ++ ['\n'])
    exact ⟨(List.suffix_append _ _).trans behind, behind⟩
  have inside : below 4 ((statements s).map String.toList) (note edgeCases ++ ['\n']) <:+
      (testPiece edgeCases s).text :=
    ⟨'\n' :: ("def ".toList ++ ((testName s.name).toList ++ ['(', ')', ':'])), by simp [Piece.text, testPiece]⟩
  -- Below the comparison there is the comment, if there is any edge case, and it ends with a tag.
  cases filled : edgeCases.isEmpty with
  | false => exact (note_finished filled).behind (ending.1.trans inside)
  | true =>
      refine Finished.behind ⟨"assert result is not Non".toList, 'e', ?_, by decide⟩ (ending.2.trans inside)
      rw [note, if_pos filled]
      decide

theorem pieces_finished (ss : List Signature) (edgeCases : List EdgeCase) :
    Finished ((pieces ss edgeCases).flatMap Piece.text) := by
  unfold pieces
  split
  · have finished : Finished [')', '\n'] := ⟨[], ')', rfl, by decide⟩
    refine finished.behind ?_
    rw [List.flatMap_singleton]
    decide
  · next called =>
      have filled : ss ≠ [] := fun none_ => called (List.isEmpty_iff.mpr none_)
      obtain ⟨first, s, rfl⟩ : ∃ first s, ss = first ++ [s] :=
        ⟨_, _, (List.dropLast_concat_getLast filled).symm⟩
      refine (test_finished edgeCases s).behind ⟨(first.map (testPiece edgeCases)).flatMap Piece.text, ?_⟩
      simp

theorem feed_blanks : Blanks ['\n'] := by decide

theorem finished_trimmed (finished : Finished cs) : trimEnd cs ++ ['\n'] = cs := by
  obtain ⟨front, d, rfl, solid⟩ := finished
  rw [List.append_cons front d, trim_end_blanks feed_blanks, trim_end_last]
  intro c last
  rw [List.getLast?_concat] at last
  cases last
  exact solid

theorem file_text_lines (first second third : String) {lines : List String}
    (ends : feeds lines = cs ∨ feeds lines ++ ['\n'] = cs) (finished : Finished cs) :
    (fileText ([first, second, third, ""] ++ lines)).toList =
      first.toList ++ below 0 [second.toList, third.toList] ('\n' :: cs) := by
  have joined : ("\n".intercalate ([first, second, third, ""] ++ lines)).toList =
      first.toList ++ (feeds [second, third, ""] ++ feeds lines) := by
    rw [← feeds_append, ← joined_feeds]
    rfl
  have whole : Finished (first.toList ++ (feeds [second, third, ""] ++ cs)) :=
    finished.behind ((List.suffix_append _ _).trans (List.suffix_append _ _))
  rw [← feeds_flush, fileText, String.toList_ofList, joined]
  rcases ends with rfl | rfl
  · exact finished_trimmed whole
  · rw [← finished_trimmed whole, ← List.append_assoc, ← List.append_assoc, ← List.append_assoc,
      trim_end_blanks feed_blanks]

theorem file_text (name : String) (ss : List Signature) (edgeCases : List EdgeCase) :
    (fileText (fileLines name ss edgeCases)).toList = "import importlib".toList ++
      below 0 ["import pytest".toList, moduleLine name.toList]
        ('\n' :: (pieces ss edgeCases).flatMap Piece.text) := by
  rw [← module_line_text]
  refine file_text_lines _ _ _ ?_ (pieces_finished ss edgeCases)
  unfold pieces
  split
  · rw [List.flatMap_singleton]
    exact .inr idle_lines_text
  · rw [feeds, List.flatMap_assoc, List.flatMap_map]
    exact .inl (congrArg (fun text => ss.flatMap text) (funext (test_lines_text edgeCases)))

end FileText

section Reading

variable {name : String} {ss : List Signature} {edgeCases : List EdgeCase}

def testSignatures (ss : List Signature) : List Signature :=
  if ss.isEmpty then [⟨"test_placeholder", []⟩] else ss.map fun s => ⟨testName s.name, []⟩

theorem pieces_signatures : (pieces ss edgeCases).map (fun p => ⟨p.name, []⟩) = testSignatures ss := by
  unfold pieces testSignatures
  split
  · rfl
  · rw [List.map_map]
    rfl

/-- A scaffold is read as its functions, or refused at the line that imports the module. -/
theorem file_block (edgeCases : List EdgeCase) (named : ∀ s ∈ ss, s.Named)
    (unquoted : '\x27' ∉ name.toList) (unslashed : '\\' ∉ name.toList) :
    ∃ after, BlockReads 0 (fileText (fileLines name ss edgeCases)).toList
      (if Pasteable name.toList then some (testSignatures ss, after) else none) := by
  have blank : Blank ['\n'] := fun row _ _ _ => ⟨row + 1, rfl⟩
  obtain ⟨after, block⟩ := pieces_block (pieces_sound edgeCases named) blank
  rw [pieces_signatures] at block
  refine ⟨after, ?_⟩
  -- From the last line of the heading to the first, each in front of a block whose reading is known.
  have importlib : SimpleLine "import importlib".toList :=
    import_simple (w := "importlib") (by decide) (by decide)
  have pytest : SimpleLine "import pytest".toList :=
    import_simple (w := "pytest") (by decide) (by decide)
  have starts : Starts (moduleLine name.toList) :=
    word_line module_plain.word (module_line_parts name.toList)
  have moduleBlock : BlockReads 0
      (below 0 [moduleLine name.toList] ('\n' :: (pieces ss edgeCases).flatMap Piece.text))
      (if Pasteable name.toList then some (testSignatures ss, after) else none) := by
    have statement := module_reads ((pieces ss edgeCases).flatMap Piece.text) unquoted unslashed 0
    by_cases proper : Pasteable name.toList
    · rw [if_pos proper] at statement ⊢
      exact line_block (opens_below starts) starts statement block
    · rw [if_neg proper] at statement ⊢
      exact line_refused starts statement
  have heading : BlockReads 0 (below 0 ["import pytest".toList, moduleLine name.toList]
      ('\n' :: (pieces ss edgeCases).flatMap Piece.text))
      (if Pasteable name.toList then some (testSignatures ss, after) else none) := by
    obtain ⟨more, feed⟩ := below_feed 0 [moduleLine name.toList] ((pieces ss edgeCases).flatMap Piece.text)
    rw [feed] at moduleBlock
    rw [below, feed]
    exact line_block (opens_below pytest.starts) pytest.starts (pytest.reads 0 more) moduleBlock
  obtain ⟨more, feed⟩ := below_feed 0 ["import pytest".toList, moduleLine name.toList]
    ((pieces ss edgeCases).flatMap Piece.text)
  rw [feed] at heading
  rw [file_text, feed]
  exact line_block (opens_here importlib.starts) importlib.starts (importlib.reads 0 more) heading

/-- An analysis tells of a module what its reading as a block keeps. -/
theorem analyze_block {text : String} {after : List Char} {p : Prop} [Decidable p]
    (block : BlockReads 0 text.toList (if p then some (ss, after) else none)) :
    ((analyze text).parsed = true ↔ p) ∧ (p → (analyze text).signatures = ss) := by
  have read := block 0 (Cursor.fuel ⟨text.toList, 0⟩) (by simp only [Cursor.fuel]; omega)
  by_cases proper : p
  · rw [if_pos proper] at read
    obtain ⟨⟨trees, c⟩, found, same⟩ := Option.map_eq_some_iff.mp read
    have module : readModule text.toList = some trees := by rw [readModule, found]
    rw [analyze, module]
    exact ⟨⟨fun _ => proper, fun _ => rfl⟩, fun _ => congrArg Prod.fst same⟩
  · rw [if_neg proper] at read
    have module : readModule text.toList = none := by rw [readModule, Option.map_eq_none_iff.mp read]
    rw [analyze, module]
    exact ⟨⟨fun parsed => absurd parsed Bool.false_ne_true, fun holds => absurd holds proper⟩,
      fun holds => absurd holds proper⟩

theorem scaffold_block (path code : String) (unquoted : '\x27' ∉ moduleName path.toList) :
    ∃ after, BlockReads 0 (synthesize path code).testCode.toList
      (if Pasteable (moduleName path.toList) then
        some (testSignatures (analyze code).signatures, after) else none) := by
  have same : (String.ofList (moduleName path.toList)).toList = moduleName path.toList := String.toList_ofList
  obtain ⟨after, block⟩ := file_block (analyze code).edgeCases (signatures_named code)
    (same.symm ▸ unquoted) (same.symm ▸ module_name_plain path.toList)
  rw [same] at block
  exact ⟨after, block⟩

/-- A scaffold is a module exactly when the name of the module under test can be pasted into its literal, if no
quotation mark in the name closes it. Then the functions of the scaffold are one without parameters for each
function of the source, in order, or one alone for a source without functions. -/
theorem scaffold_analyzed (path code : String) (unquoted : '\x27' ∉ moduleName path.toList) :
    ((analyze (synthesize path code).testCode).parsed = true ↔ Pasteable (moduleName path.toList)) ∧
      (Pasteable (moduleName path.toList) →
        (analyze (synthesize path code).testCode).signatures = testSignatures (analyze code).signatures) := by
  obtain ⟨after, block⟩ := scaffold_block path code unquoted
  exact analyze_block block

/-- A line feed in the name breaks the literal, and a quotation mark closes it. -/
theorem scaffold_analyzed_feed :
    '\x27' ∉ moduleName "src/a.py".toList ∧
      (analyze (synthesize "src/a.py" "def f(): 1").testCode).parsed = true ∧
      (analyze (synthesize "src/a.py" "def f(): 1").testCode).signatures = [⟨"test_f_returns_value", []⟩] ∧
      '\x27' ∉ moduleName "a\nb.py".toList ∧
      ¬ (analyze (synthesize "a\nb.py" "def f(): 1").testCode).parsed = true ∧
      '\x27' ∈ moduleName "it's.py".toList ∧
      ¬ (analyze (synthesize "it's.py" "").testCode).parsed = true := by
  have unquoted : '\x27' ∉ moduleName "src/a.py".toList := by decide
  have unquoted' : '\x27' ∉ moduleName "a\nb.py".toList := by decide
  have one : (analyze "def f(): 1").signatures = [⟨"f", []⟩] := by decide +kernel
  obtain ⟨parsed, signatures⟩ := scaffold_analyzed "src/a.py" "def f(): 1" unquoted
  obtain ⟨parsed', -⟩ := scaffold_analyzed "a\nb.py" "def f(): 1" unquoted'
  refine ⟨unquoted, parsed.mpr (by decide), ?_, unquoted',
    fun holds => absurd (parsed'.mp holds) (by decide), by decide, by decide +kernel⟩
  rw [signatures (by decide), one]
  rfl

end Reading

section Names

/-- The name of the function that a line begins to define, if it is not indented. -/
def definedName (line : String) : Option String :=
  (dropLead? line.toList "def ".toList).map fun rest => String.ofList (rest.takeWhile (· != '('))

def definedNames (lines : List String) : List String := lines.filterMap definedName

def scaffoldLines (path code : String) : List String :=
  fileLines (String.ofList (moduleName path.toList)) (analyze code).signatures (analyze code).edgeCases

theorem indented_defines (line : String) : definedName (indented line) = none := by
  rw [definedName, indented, String.toList_append]
  rfl

theorem head_defines {name : String} (named : IsIdentifier name) :
    definedName ("def test_" ++ name ++ "_returns_value():") = some (testName name) := by
  have other : ∀ c ∈ (testName name).toList, (c != '(') = true := fun c member =>
    bne_iff_ne.mpr (char_apart ((test_named named).word.names c member) '(' rfl)
  rw [definedName, test_head_text, drop_lead, Option.map_some, List.takeWhile_append_of_pos other,
    List.takeWhile_cons_of_neg (by decide), List.append_nil, String.ofList_toList]

theorem test_defines (edgeCases : List EdgeCase) {s : Signature} (named : s.Named) :
    definedNames (testLines edgeCases s) = [testName s.name] := by
  have inside : ((bodyLines s edgeCases).map indented ++ [""]).filterMap definedName = [] := by
    refine List.filterMap_eq_nil_iff.mpr fun line member => ?_
    rcases List.mem_append.mp member with body | last
    · obtain ⟨text, -, rfl⟩ := List.mem_map.mp body
      exact indented_defines text
    · rw [List.mem_singleton.mp last]
      rfl
  rw [definedNames, testLines, List.filterMap_cons_some (head_defines named.name), inside]

/-- The functions of a scaffold are its tests in order. -/
theorem scaffold_defines (path code : String) (called : (analyze code).signatures ≠ []) :
    definedNames (scaffoldLines path code) = (analyze code).signatures.map fun s => testName s.name := by
  have heading (name : String) : definedNames ["import importlib", "import pytest",
      "module = importlib.import_module('" ++ name ++ "')", ""] = [] := by
    have third : definedName ("module = importlib.import_module('" ++ name ++ "')") = none := by
      rw [definedName, String.toList_append, String.toList_append]
      rfl
    rw [definedNames, List.filterMap_cons_none rfl, List.filterMap_cons_none rfl,
      List.filterMap_cons_none third, List.filterMap_cons_none rfl, List.filterMap_nil]
  have tests {ss : List Signature} (edgeCases : List EdgeCase) (named : ∀ s ∈ ss, s.Named) :
      definedNames (ss.flatMap (testLines edgeCases)) = ss.map fun s => testName s.name := by
    induction ss with
    | nil => rfl
    | cons s ss ih =>
        obtain ⟨first, later⟩ := List.forall_mem_cons.mp named
        rw [List.flatMap_cons, definedNames, List.filterMap_append, List.map_cons]
        exact congr (congrArg _ (test_defines edgeCases first)) (ih later)
  rw [scaffoldLines, fileLines, if_neg (fun none_ => called (List.isEmpty_iff.mp none_)), definedNames,
    List.filterMap_append]
  exact congr (congrArg _ (heading _)) (tests _ (signatures_named code))

theorem test_name_injective : Function.Injective testName := by
  intro a b same
  have lists := congrArg String.toList same
  simp only [testName, String.toList_append, List.append_assoc] at lists
  exact String.toList_inj.mp (List.append_cancel_right (List.append_cancel_left lists))

/-- The tests of a scaffold have different names exactly when the functions of the source have, methods of all
classes among them, and only so many tests are left of the file as there are different names. -/
theorem tests_kept_apart (path code : String) (called : (analyze code).signatures ≠ []) :
    let callables := (analyze code).signatures.map Signature.name
    let tests := definedNames (scaffoldLines path code)
    tests.length = callables.length ∧ (tests.Nodup ↔ callables.Nodup) ∧
      tests.dedup.length = callables.dedup.length ∧
      ('\x27' ∉ moduleName path.toList → Pasteable (moduleName path.toList) →
        (analyze (synthesize path code).testCode).signatures.map Signature.name = tests) := by
  intro callables tests
  have names : tests = callables.map testName := by
    rw [List.map_map]
    exact scaffold_defines path code called
  rw [names]
  refine ⟨List.length_map _, List.nodup_map_iff test_name_injective, ?_, fun unquoted proper => ?_⟩
  · rw [List.dedup_map_of_injective test_name_injective, List.length_map]
  · obtain ⟨after, block⟩ := scaffold_block path code unquoted
    rw [(analyze_block block).2 proper, testSignatures,
      if_neg fun none_ => called (List.isEmpty_iff.mp none_), List.map_map, List.map_map]
    rfl

theorem tests_kept_apart_methods :
    (analyze "class A:\n def f(): 1\nclass B:\n def f(): 1").signatures ≠ [] ∧
      (definedNames (scaffoldLines "a.py" "class A:\n def f(): 1\nclass B:\n def f(): 1")).length = 2 ∧
      (definedNames (scaffoldLines "a.py" "class A:\n def f(): 1\nclass B:\n def f(): 1")).dedup.length = 1 := by
  have methods : (analyze "class A:\n def f(): 1\nclass B:\n def f(): 1").signatures =
      [⟨"f", []⟩, ⟨"f", []⟩] := by decide +kernel
  have called : (analyze "class A:\n def f(): 1\nclass B:\n def f(): 1").signatures ≠ [] :=
    methods ▸ List.cons_ne_nil _ _
  obtain ⟨length, -, left, -⟩ := tests_kept_apart "a.py" "class A:\n def f(): 1\nclass B:\n def f(): 1" called
  rw [methods] at length left
  exact ⟨called, length, left⟩

end Names

end CodeReview.Scaffold

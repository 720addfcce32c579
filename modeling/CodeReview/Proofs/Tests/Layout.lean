import CodeReview.Proofs.Review.Fenced

/-!
A test file as an answer may lay it out: lines that do not matter, the file marker with the name beside it or
below it, and the code behind its marker, with a code fence around it or without. The two markers are looked
for line by line, and what is behind the code marker is joined again and not looked at any more. So whatever
the code has in it, the file that is read is the one that was laid out.
-/

namespace CodeReview

open Text

/-- A name that stands on a line of its own, is in no quotes and is no marker. -/
structure TestName (name : String) : Prop where
  some_ : name ≠ ""
  solid : trimmed name = name
  one : '\n' ∉ name.toList
  unquoted : name.toList.head? ≠ some '\x60' ∧ name.toList.getLast? ≠ some '\x60'
  unmarked : name ≠ codeMarker

structure TestCode (code : String) : Prop where
  begins : ∃ c ∈ code.toList.head?, isBlank c = false
  bare : ¬ fence <+: code.toList
  noReturn : '\r' ∉ code.toList

/-- The file marker and the name, on one line or on two with blank lines between them. -/
inductive NameForm (name : String) : List (List Char) → Prop
  | beside (before between after : Gap) :
      NameForm name
        [before.text ++ (fileMarker.toList ++ (between.text ++ name.toList)) ++ after.text]
  | below (before after : Gap) (blank : List Gap) (before' after' : Gap) :
      NameForm name
        ((before.text ++ fileMarker.toList ++ after.text) ::
          (blank.map Gap.text ++ [before'.text ++ name.toList ++ after'.text]))

structure TestHeading (name : String) where
  opening : List (List Char)
  named : List (List Char)
  between : List (List Char)
  mark : List Char
  unmarked : ∀ line ∈ opening, ¬ fileMarker.toList <+: trim line
  form : NameForm name named
  passed : ∀ line ∈ between, trim line ≠ codeMarker.toList
  marked : trim mark = codeMarker.toList
  one : ∀ line ∈ opening ++ (named ++ (between ++ [mark])), '\n' ∉ line

namespace TestHeading

variable {name : String}

def lines (h : TestHeading name) : List (List Char) := h.opening ++ (h.named ++ (h.between ++ [h.mark]))

def text (h : TestHeading name) : List Char := h.lines.flatMap (· ++ ['\n'])

end TestHeading

/-- The code as it is, or in a code fence with a tag of any kind; white space may stand behind. -/
inductive CodeForm (code : String) : List Char → Prop
  | bare (after : Gap) (noReturn : '\r' ∉ after.text) : CodeForm code (code.toList ++ after.text)
  | fenced (tag : List Char) (one : '\n' ∉ tag) (between after : Gap)
      (noReturn : '\r' ∉ between.text ++ after.text) :
      CodeForm code (fence ++ (tag ++ '\n' :: (code.toList ++ (between.text ++ (fence ++ after.text)))))

section Markers

def readLine (line : List Char) : List Char := finishLine line.reverse

theorem trim_read (line : List Char) : trim (readLine line) = trim line := by
  rw [readLine, trim_finished, List.reverse_reverse]

theorem file_marker_later (opening rest : List (List Char))
    (unmarked : ∀ line ∈ opening, ¬ fileMarker.toList <+: trim line) :
    findFileMarker (opening.map readLine ++ rest) = findFileMarker rest := by
  induction opening with
  | nil => rfl
  | cons line opening ih =>
      rw [List.map_cons, List.cons_append, findFileMarker, trim_read,
        no_lead (unmarked line List.mem_cons_self)]
      exact ih fun l member => unmarked l (List.mem_cons_of_mem line member)

theorem file_marker_here (line name : List Char) (rest : List (List Char))
    (marked : trim line = fileMarker.toList ++ name) :
    findFileMarker (readLine line :: rest) = some (trim name, rest) := by
  rw [findFileMarker, trim_read, marked, drop_lead]

theorem code_marker_named (name : List Char) (some_ : name ≠ []) (between rest : List (List Char))
    (mark : List Char) (passed : ∀ line ∈ between, trim line ≠ codeMarker.toList)
    (marked : trim mark = codeMarker.toList) :
    findCodeMarker name (between.map readLine ++ readLine mark :: rest) = some (name, rest) := by
  induction between with
  | nil =>
      rw [List.map_nil, List.nil_append, findCodeMarker, trim_read, marked]
      simp
  | cons line between ih =>
      have other : (trim line == codeMarker.toList) = false :=
        beq_eq_false_iff_ne.mpr (passed line List.mem_cons_self)
      rw [List.map_cons, List.cons_append, findCodeMarker, trim_read, other]
      simpa [some_] using ih fun l member => passed l (List.mem_cons_of_mem line member)

theorem code_marker_blank (blank : List Gap) (rest : List (List Char)) :
    findCodeMarker [] ((blank.map Gap.text).map readLine ++ rest) = findCodeMarker [] rest := by
  induction blank with
  | nil => rfl
  | cons gap blank ih =>
      have none : trim gap.text = [] := @trim_after [] gap.text gap.blanks
      have other : (([] : List Char) == codeMarker.toList) = false := by decide
      rw [List.map_cons, List.map_cons, List.cons_append, findCodeMarker, trim_read, none, other]
      exact ih

end Markers

section Headings

variable {name : String}

theorem name_some (proper : TestName name) : name.toList ≠ [] := by
  simpa using proper.some_

theorem name_solid (proper : TestName name) : Solid name.toList :=
  solid_of_trimmed (trim_of_trimmed proper.solid)

theorem beside_solid (proper : TestName name) (between : Gap) :
    Solid (fileMarker.toList ++ (between.text ++ name.toList)) := by
  constructor
  · exact solid_head fileMarker 'T' _ rfl rfl
  · rw [← List.append_assoc, List.getLast?_append_of_ne_nil _ (name_some proper)]
    exact (name_solid proper).2

theorem heading_read (h : TestHeading name) (proper : TestName name) (rest : List (List Char)) :
    ∃ found more, findFileMarker (h.lines.map readLine ++ rest) = some (found, more) ∧
      findCodeMarker found more = some (name.toList, rest) := by
  obtain ⟨opening, named, between, mark, unmarked, form, passed, marked, -⟩ := h
  have some_ := name_some proper
  have solid := name_solid proper
  have code := code_marker_named name.toList some_ between rest mark passed marked
  simp only [TestHeading.lines, List.map_append, List.append_assoc, List.map_cons, List.map_nil,
    List.cons_append, List.nil_append, file_marker_later opening _ unmarked]
  cases form with
  | beside before gap after =>
      refine ⟨_, _, file_marker_here _ (gap.text ++ name.toList) _ ?_, ?_⟩
      · rw [trim_surrounded before.blanks after.blanks, trim_solid (beside_solid proper gap)]
      · rw [trim_before gap.blanks, trim_solid solid]
        exact code
  | below before after blank before' after' =>
      -- the marker alone gives no name, so the first line that is not blank does
      have found : trim (before'.text ++ name.toList ++ after'.text) = name.toList := by
        rw [trim_surrounded before'.blanks after'.blanks, trim_solid solid]
      have other : (name.toList == codeMarker.toList) = false :=
        beq_eq_false_iff_ne.mpr fun same => proper.unmarked (String.toList_inj.mp same)
      refine ⟨[], (blank.map Gap.text).map readLine ++
        readLine (before'.text ++ name.toList ++ after'.text) ::
          (between.map readLine ++ readLine mark :: rest), ?_, ?_⟩
      · rw [List.map_cons, List.map_append, List.map_singleton, List.cons_append,
          List.append_assoc ((blank.map Gap.text).map readLine), List.singleton_append]
        apply file_marker_here _ []
        rw [trim_surrounded before.blanks after.blanks, List.append_nil]
        decide
      · rw [code_marker_blank, findCodeMarker, trim_read, found, other]
        simpa using code

theorem ticks_kept {cs : List Char} (other : cs.head? ≠ some '\x60') :
    cs.dropWhile (fun c => c == '\x60') = cs := by
  cases cs with
  | nil => rfl
  | cons c rest => exact List.dropWhile_cons_of_neg (by simpa using other)

theorem name_unquoted (proper : TestName name) : stripBackticks name.toList = name.toList := by
  have solid := name_solid proper
  have last : name.toList.reverse.head? ≠ some '\x60' := by
    rw [List.head?_reverse]
    exact proper.unquoted.2
  rw [stripBackticks, trim_solid solid, ticks_kept proper.unquoted.1, ticks_kept last,
    List.reverse_reverse, trim_solid solid]

end Headings

section Codes

variable {code : String}

theorem trim_code (proper : TestCode code) : trim code.toList = trimEnd code.toList := by
  rw [trim, trim_start_head]
  obtain ⟨c, first, solid⟩ := proper.begins
  intro d first'
  cases Option.mem_unique first first'
  exact solid

/-- The line of the opening. A carriage return at its end is no part of the tag. -/
theorem lines_opened (tag inside : List Char) (one : '\n' ∉ tag) :
    ∃ tag', '\n' ∉ tag' ∧
      lines (fence ++ (tag ++ '\n' :: inside)) = (fence ++ tag') :: lines inside := by
  have feedless : '\n' ∉ fence ++ tag := by
    rw [List.mem_append, not_or]
    exact ⟨by decide, one⟩
  rw [← List.append_assoc, lines, lines_from_line [] _ inside feedless, List.append_nil]
  rcases List.eq_nil_or_concat tag with rfl | ⟨before, c, rfl⟩
  · exact ⟨[], List.not_mem_nil, rfl⟩
  · -- only the last character of the line may be taken off, and it belongs to the tag
    have whole : (fence ++ (before ++ [c])).reverse = c :: (fence ++ before).reverse := by
      rw [← List.append_assoc, List.reverse_append, List.reverse_singleton, List.singleton_append]
    rw [List.concat_eq_append] at one ⊢
    rw [whole]
    unfold finishLine
    split
    · next same =>
        rw [← (List.cons.inj same).2, List.reverse_reverse]
        exact ⟨before, fun member => one (List.mem_append_left _ member), rfl⟩
    · refine ⟨before ++ [c], one, ?_⟩
      rw [List.reverse_cons, List.reverse_reverse, List.append_assoc]
      rfl

theorem joined_cons (line text tail : List Char) (blanks : Blanks tail)
    (same : joinLines (lines text) ++ tail = text) (begins : ∃ c ∈ text.head?, isBlank c = false) :
    joinLines (line :: lines text) ++ tail = line ++ '\n' :: text := by
  cases rest : lines text with
  | nil =>
      rw [rest] at same
      obtain ⟨c, first, solid⟩ := begins
      rw [← same] at first
      rw [blanks c (List.mem_of_mem_head? first)] at solid
      cases solid
  | cons next rest' =>
      have step : joinLines (line :: next :: rest') = line ++ '\n' :: joinLines (next :: rest') := rfl
      rw [step, ← rest, List.append_assoc, List.cons_append, same]

theorem fence_joined (tag body after : List Char) (one : '\n' ∉ tag)
    (begins : ∃ c ∈ body.head?, isBlank c = false) (noReturn : '\r' ∉ body ++ (fence ++ after))
    (blanks : Blanks after) :
    ∃ tag', '\n' ∉ tag' ∧
      trim (joinLines (lines (fence ++ (tag ++ '\n' :: (body ++ (fence ++ after)))))) =
        fence ++ (tag' ++ '\n' :: (body ++ fence)) := by
  obtain ⟨tail, blanks', same⟩ := joined_lines _ noReturn
  obtain ⟨tag', one', opened⟩ := lines_opened tag (body ++ (fence ++ after)) one
  have joined := joined_cons (fence ++ tag') _ tail blanks' same (begins_append begins)
  refine ⟨tag', one', ?_⟩
  have layout : (fence ++ tag') ++ '\n' :: (body ++ (fence ++ after)) =
      (fence ++ ((tag' ++ '\n' :: body) ++ fence)) ++ after := by
    simp only [List.append_assoc, List.cons_append]
  rw [opened, ← trim_after blanks', joined, layout, trim_after blanks, trim_solid (fence_solid _),
    List.append_assoc, List.cons_append]

theorem code_read (proper : TestCode code) (text : List Char) (form : CodeForm code text) :
    stripFences (trim (joinLines (lines text))) = trimEnd code.toList := by
  cases form with
  | bare after noReturn =>
      have plain : '\r' ∉ code.toList ++ after.text := by
        rw [List.mem_append, not_or]
        exact ⟨proper.noReturn, noReturn⟩
      obtain ⟨tail, blanks, same⟩ := joined_lines _ plain
      have trims : trim (joinLines (lines (code.toList ++ after.text))) = trimEnd code.toList := by
        rw [← trim_after blanks, same, trim_after after.blanks, trim_code proper]
      rw [trims, strip_bare]
      intro opened
      exact proper.bare (opened.trans (trim_end_front code.toList))
  | fenced tag one between after noReturn =>
      have plain : '\r' ∉ (code.toList ++ between.text) ++ (fence ++ after.text) := by
        rw [List.mem_append, not_or] at noReturn
        simp only [List.mem_append, not_or]
        exact ⟨⟨proper.noReturn, noReturn.1⟩, by decide, noReturn.2⟩
      obtain ⟨tag', one', joined⟩ :=
        fence_joined tag _ after.text one (begins_append proper.begins) plain after.blanks
      rw [← List.append_assoc code.toList, joined, strip_fenced tag' _ one',
        trim_end_blanks between.blanks]

end Codes

/-- What was laid out is read: the name, and the code with one line feed in the place of the white space at its
end. -/
theorem test_answer_decoded (name code : String) (named : TestName name) (proper : TestCode code)
    (heading : TestHeading name) (text : List Char) (form : CodeForm code text) :
    parseTestAnswer (String.ofList (heading.text ++ text)) =
      .ok { fileName := name, code := String.ofList (trimEnd code.toList ++ ['\n']) } := by
  obtain ⟨found, more, file, marker⟩ := heading_read heading named (Text.lines text)
  have split : Text.lines (heading.text ++ text) = heading.lines.map readLine ++ Text.lines text :=
    lines_ended heading.lines text heading.one
  have solid : Solid (trimEnd code.toList) := trim_code proper ▸ solid_trim code.toList
  have some_ := trim_end_some proper.begins
  rw [parseTestAnswer, String.toList_ofList, split, file]
  dsimp only
  rw [marker]
  dsimp only
  rw [code_read proper text form, trim_end_twice, trim_solid solid, name_unquoted named,
    String.ofList_toList, if_neg]
  simpa using some_

/-- The name below a blank line, and code with both markers and a code fence of its own in it. -/
theorem test_answer_decoded_nested :
    parseTestAnswer
        ("Here it is.\nTEST_FILE:\n\n t.py\nTEST_CODE:\n\x60\x60\x60python\nx = 1\nTEST_FILE: u.py\n" ++
          "\x60\x60\x60\nTEST_CODE:\n\n\x60\x60\x60\n\x60\x60\x60\n") =
      .ok { fileName := "t.py"
            code := "x = 1\nTEST_FILE: u.py\n\x60\x60\x60\nTEST_CODE:\n\n\x60\x60\x60\n" } := by
  have named : TestName "t.py" :=
    ⟨by decide, by decide, by decide, by decide, by decide⟩
  have proper : TestCode "x = 1\nTEST_FILE: u.py\n\x60\x60\x60\nTEST_CODE:\n\n\x60\x60\x60\n" :=
    ⟨⟨'x', by decide, by decide⟩, by decide, by decide⟩
  have read := test_answer_decoded _ _ named proper
    { opening := ["Here it is.".toList]
      named := _
      between := []
      mark := codeMarker.toList
      unmarked := by decide +kernel
      form := .below .none .none [.none] .space .none
      passed := by decide
      marked := by decide
      one := by decide }
    _ (.fenced "python".toList (by decide) .none ⟨['\n'], by decide⟩ (by decide))
  exact read

end CodeReview

import CodeReview.Proofs.Answer
import CodeReview.Proofs.Json.Lines
import CodeReview.Proofs.Review.LineGrammar

/-!
A code fence around an answer. An answer is trimmed on both sides, what stands in a fence at its end only. So
an object with white space before it is read without the fence and passed over in it. Lines are trimmed one
by one and found either way; but a text that is read as an object has none.
-/

namespace CodeReview

open Text Json Decode

def fenced (language text : String) : String :=
  String.ofList (fence ++ (language.toList ++ '\n' :: (text.toList ++ '\n' :: fence)))

namespace AnswerError

/-- Errors that differ in their details at most. -/
inductive SameKind : AnswerError → AnswerError → Prop
  | noFindings : SameKind .noFindings .noFindings
  | missingMarker (a b : String) : SameKind (.missingMarker a) (.missingMarker b)
  | emptyTestCode : SameKind .emptyTestCode .emptyTestCode
  | json (a b : Refusal) : SameKind (.json a) (.json b)

end AnswerError

inductive Alike : Except AnswerError (List Finding) → Except AnswerError (List Finding) → Prop
  | found (findings : List Finding) : Alike (.ok findings) (.ok findings)
  | failed {e e' : AnswerError} : e.SameKind e' → Alike (.error e) (.error e')

/-- A text that begins like an object behind white space, and has no line of four parts. -/
structure Hidden (text : List Char) : Prop where
  indented : ∃ c ∈ text.head?, isBlank c = true
  brace : (trim text).head? = some '\x7b'
  noLine : lineFindings (trim text) = []

section Fences

theorem fence_last (cs : List Char) : ∀ c ∈ (cs ++ fence).getLast?, isBlank c = false := by
  rw [List.getLast?_append_of_ne_nil _ (by decide)]
  rintro _ ⟨⟩
  rfl

theorem fence_solid (inside : List Char) : Solid (fence ++ (inside ++ fence)) := by
  constructor
  · rintro _ ⟨⟩
    rfl
  · rw [← List.append_assoc]
    exact fence_last _

theorem strip_fenced (tag body : List Char) (one : '\n' ∉ tag) :
    stripFences (fence ++ (tag ++ '\n' :: (body ++ fence))) = trimEnd body := by
  have opened : (tag ++ '\n' :: (body ++ fence)).dropWhile (· != '\n') = '\n' :: (body ++ fence) := by
    rw [List.dropWhile_append_of_pos]
    · rfl
    · intro c member
      exact bne_iff_ne.mpr (ne_of_mem_of_not_mem member one)
  have kept : trimEnd (body ++ fence) = body ++ fence := trim_end_last (fence_last body)
  have closed : dropTail? (body ++ fence) fence = some body := by
    rw [dropTail?, List.reverse_append, drop_lead, Option.map_some, List.reverse_reverse]
  rw [stripFences, drop_lead]
  simp only [opened, kept, closed, Option.getD_some]

theorem body_fenced (language text : String) (one : '\n' ∉ language.toList) :
    answerBody (fenced language text) = trimEnd text.toList := by
  have feed : Blanks ['\n'] := by decide
  have layout : fence ++ (language.toList ++ '\n' :: (text.toList ++ '\n' :: fence)) =
      fence ++ (language.toList ++ '\n' :: ((text.toList ++ ['\n']) ++ fence)) := by
    rw [List.append_assoc text.toList, List.singleton_append]
  have solid : Solid (fence ++ (language.toList ++ '\n' :: ((text.toList ++ ['\n']) ++ fence))) := by
    have around := fence_solid (language.toList ++ '\n' :: (text.toList ++ ['\n']))
    rwa [List.append_assoc language.toList, List.cons_append] at around
  rw [answerBody, fenced, String.toList_ofList, layout, trim_solid solid, strip_fenced _ _ one,
    trim_end_blanks feed]

theorem body_bare (text : String) (bare : ¬ fence <+: trim text.toList) :
    answerBody text = trim text.toList := by
  rw [answerBody, strip_bare bare]

end Fences

section Leads

theorem trim_end_lead (cs : List Char) : ∃ gap : Gap, trimEnd cs = gap.text ++ trim cs := by
  by_cases none : trimStart cs = []
  · refine ⟨.none, ?_⟩
    have blanks : Blanks cs := List.dropWhile_eq_nil_iff.mp none
    have gone : trimEnd ([] ++ cs) = trimEnd [] := trim_end_blanks blanks
    rw [trim, none]
    exact gone
  · refine ⟨Gap.front cs, ?_⟩
    obtain ⟨c, rest, same⟩ := List.exists_cons_of_ne_nil none
    have first : (trimStart cs).head? = some c := by rw [same, List.head?_cons]
    -- a text that is not blank ends alike with and without its lead
    have kept : trimStart (trimStart cs).reverse ≠ [] := by
      intro gone
      apply trim_end_some ⟨c, first, trim_start_solid cs c first⟩
      rw [trimEnd, gone, List.reverse_nil]
    have back : trimStart ((trimStart cs).reverse ++ (Gap.front cs).text.reverse) =
        trimStart (trimStart cs).reverse ++ (Gap.front cs).text.reverse := by
      rw [trimStart, List.dropWhile_append]
      exact if_neg (mt List.isEmpty_iff.mp kept)
    rw [trim, trimEnd, trimEnd]
    conv_lhs => rw [gap_front cs]
    rw [List.reverse_append, back, List.reverse_append, List.reverse_reverse]

/-- White space before the first line makes no difference to what is found in the lines. -/
theorem lines_lead (lead done cs : List Char) (blanks : Blanks lead) :
    ((linesFrom (done ++ lead.reverse) cs).map trim).filterMap parseFindingLine =
      ((linesFrom done cs).map trim).filterMap parseFindingLine := by
  have last (done : List Char) : ((linesFrom done []).map trim).filterMap parseFindingLine =
      (parseFindingLine (trim done.reverse)).toList := by
    rw [linesFrom]
    cases done with
    | nil => rfl
    | cons c done =>
        rw [List.isEmpty_cons, if_neg Bool.false_ne_true, List.map_singleton, List.filterMap_cons]
        cases parseFindingLine (trim (c :: done).reverse) <;> rfl
  induction cs generalizing done with
  | nil => rw [last, last, List.reverse_append, List.reverse_reverse, trim_before blanks]
  | cons c cs ih =>
      rw [linesFrom, linesFrom]
      split
      · rw [List.map_cons, List.map_cons, trim_finished, trim_finished, List.reverse_append,
          List.reverse_reverse, trim_before blanks]
      · exact ih (c :: done)

theorem line_findings_lead (gap : Gap) (cs : List Char) : lineFindings (gap.text ++ cs) = lineFindings cs := by
  obtain ⟨lead, blanks⟩ := gap
  dsimp only
  induction lead with
  | nil => rfl
  | cons c lead ih =>
      have rest := ih fun d member => blanks d (List.mem_cons_of_mem c member)
      rw [← rest, line_findings_all, line_findings_all, lines, List.cons_append, linesFrom]
      split
      · rfl
      · refine lines_lead [c] [] _ ?_
        intro d member
        rw [List.mem_singleton.mp member]
        exact blanks c List.mem_cons_self

end Leads

section Objects

/-- Where a line stands in a text: at its front, or behind a line feed. -/
theorem line_place (done cs line : List Char) (among : line ∈ linesFrom done cs) :
    line <+: done.reverse ++ cs ∨ ∃ before rest, cs = before ++ '\n' :: rest ∧ line <+: rest := by
  induction cs generalizing done with
  | nil =>
      left
      rw [linesFrom] at among
      split at among
      · cases among
      · rw [List.mem_singleton.mp among]
        exact List.prefix_append done.reverse []
  | cons c cs ih =>
      rw [linesFrom] at among
      split at among
      · next feed =>
          obtain rfl := eq_of_beq feed
          rcases List.mem_cons.mp among with rfl | later
          · exact .inl ((finish_front done).trans (List.prefix_append ..))
          · right
            rcases ih [] later with front | ⟨before, rest, rfl, front⟩
            · exact ⟨[], cs, rfl, front⟩
            · exact ⟨'\n' :: before, rest, rfl, front⟩
      · rcases ih (c :: done) among with front | ⟨before, rest, rfl, front⟩
        · left
          rwa [List.reverse_cons, List.append_assoc] at front
        · exact .inr ⟨c :: before, rest, rfl, front⟩

/-- A line of four parts begins with a dash that has no digit after it. -/
theorem finding_line_dash (l : FindingLine) : ∃ c rest, l.text = '-' :: c :: rest ∧ c.isDigit = false := by
  rw [finding_line_text]
  obtain ⟨label, named⟩ : ∃ label, "filename:".toList = 'f' :: label := ⟨_, rfl⟩
  cases same : l.beforeFile.text with
  | nil =>
      rw [named]
      exact ⟨'f', _, rfl, rfl⟩
  | cons c gap =>
      refine ⟨c, _, rfl, ?_⟩
      by_contra digit
      rw [Bool.not_eq_false] at digit
      have blank := l.beforeFile.blanks c (by simp [same])
      rw [(digit_plain c digit).1] at blank
      cases blank

theorem line_dashed (l : FindingLine) (line rest : List Char) (trims : trim line = l.text)
    (front : line <+: rest) : Dashed rest := by
  obtain ⟨c, more, text, digit⟩ := finding_line_dash l
  obtain ⟨after, rfl⟩ := front
  obtain ⟨cut, whole⟩ := trim_end_front (trimStart line)
  rw [← trim, trims, text] at whole
  refine ⟨c :: (more ++ cut ++ after), ?_, ?_⟩
  · rw [trimStart, List.dropWhile_append, if_neg]
    · rw [← trimStart, ← whole]
      simp
    · rw [← trimStart, ← whole]
      simp
  · rintro _ ⟨⟩
    exact digit

theorem whole_text_undashed {α : Type} (decode : Decoder α) (text : String) (value : α)
    (read : wholeText decode text = .ok value) : Undashed text.toList := by
  obtain ⟨_, -, read⟩ := bind_ok read
  split at read
  · cases read
  · next rest scanned =>
      split at read
      · next space => exact scan_text_undashed _ rest scanned (List.isEmpty_iff.mp space)
      · cases read

/-- No line of an object that is read is a finding. -/
theorem object_no_line (cs : List Char) (found : List Finding) (brace : cs.head? = some '\x7b')
    (read : objectFindings cs = .ok found) : lineFindings cs = [] := by
  have undashed := whole_text_undashed _ _ _ read
  rw [String.toList_ofList] at undashed
  rw [line_findings_all, List.filterMap_eq_nil_iff]
  intro _ trims
  obtain ⟨line, among, rfl⟩ := List.mem_map.mp trims
  cases parsed : parseFindingLine (trim line) with
  | none => rfl
  | some finding =>
      obtain ⟨l, text⟩ := finding_line_found _ _ parsed
      -- the first line begins with the brace, and no other line with such a dash
      rcases line_place [] cs line among with front | ⟨before, rest, place, front⟩
      · obtain ⟨more, start, -⟩ := line_dashed l line cs text.symm front
        rw [trim_start_head] at start
        · rw [start] at brace
          cases brace
        · rw [brace]
          rintro _ ⟨⟩
          rfl
      · exact absurd (line_dashed l line rest text.symm front) (undashed before rest place)

end Objects

section Answers

variable {language text : String}

theorem parse_indented (one : '\n' ∉ language.toList) (indented : ∃ c ∈ text.toList.head?, isBlank c = true) :
    parseFindings (fenced language text) = lineAnswer (trim text.toList) .noFindings := by
  have body := body_fenced language text one
  have noBrace : (answerBody (fenced language text)).head? ≠ some '\x7b' := by
    intro brace
    obtain ⟨c, first, blank⟩ := indented
    obtain ⟨cut, whole⟩ := trim_end_front text.toList
    rw [body] at brace
    rw [← whole, List.head?_append, brace] at first
    cases first
    cases blank
  obtain ⟨gap, lead⟩ := trim_end_lead text.toList
  rw [parse_lines _ noBrace, body, lead]
  simp only [lineAnswer, line_findings_lead]

theorem alike_same (answer : Except AnswerError (List Finding)) : Alike answer answer := by
  cases answer with
  | ok found => exact .found found
  | error e =>
      apply Alike.failed
      cases e <;> constructor

theorem hidden_found (hidden : Hidden text.toList) (bare : ¬ fence <+: trim text.toList) :
    ¬ Alike (.error .noFindings) (parseFindings text) := by
  have body := body_bare text bare
  intro alike
  rw [parse_object text (body ▸ hidden.brace), body] at alike
  cases read : objectFindings (trim text.toList) with
  | ok found =>
      rw [read] at alike
      cases alike
  | error e =>
      simp only [read, lineAnswer, hidden.noLine] at alike
      cases alike with
      | failed kind => cases kind

theorem shown_kept (one : '\n' ∉ language.toList) (bare : ¬ fence <+: trim text.toList)
    (shown : ¬ Hidden text.toList) : parseFindings (fenced language text) = parseFindings text := by
  have body := body_bare text bare
  by_cases indented : ∃ c ∈ text.toList.head?, isBlank c = true
  · rw [parse_indented one indented]
    by_cases brace : (trim text.toList).head? = some '\x7b'
    · rw [parse_object text (body ▸ brace), body]
      cases some_ : lineFindings (trim text.toList) with
      | nil => exact absurd ⟨indented, brace, some_⟩ shown
      | cons first more =>
          -- lines are found, so there is no object to be read
          cases read : objectFindings (trim text.toList) with
          | ok found =>
              rw [object_no_line _ found brace read] at some_
              cases some_
          | error e => simp only [lineAnswer, some_]
    · rw [parse_lines text (body ▸ brace), body]
  · have solid : ∀ c ∈ text.toList.head?, isBlank c = false := by
      intro c first
      by_contra blank
      exact indented ⟨c, first, Bool.not_eq_false _ ▸ blank⟩
    have bodies : answerBody (fenced language text) = answerBody text := by
      rw [body_fenced language text one, body, trim, trim_start_head solid]
    rw [parseFindings, parseFindings, ← answerBody, ← answerBody, bodies]

/-- A text with no code fence of its own is read in one as it is read without, but for white space before an
object. With that nothing is found in the fence. -/
theorem fence_hides_indented (language text : String) (one : '\n' ∉ language.toList)
    (bare : ¬ fence <+: trim text.toList) :
    (Alike (parseFindings (fenced language text)) (parseFindings text) ↔ ¬ Hidden text.toList) ∧
      (¬ Hidden text.toList → parseFindings (fenced language text) = parseFindings text) ∧
      (Hidden text.toList → parseFindings (fenced language text) = .error .noFindings) := by
  have lost : Hidden text.toList → parseFindings (fenced language text) = .error .noFindings := by
    intro hidden
    rw [parse_indented one hidden.indented, lineAnswer, hidden.noLine]
  refine ⟨⟨?_, ?_⟩, shown_kept one bare, lost⟩
  · intro alike hidden
    rw [lost hidden] at alike
    exact hidden_found hidden bare alike
  · intro shown
    rw [shown_kept one bare shown]
    exact alike_same _

theorem fence_hides_indented_object :
    parseFindings (" \x7b\"findings\":[\x7b\"filename\":\"a.py\",\"line\":2," ++
        "\"severity\":\"warning\",\"message\":\"m\"\x7d]\x7d") =
        .ok [⟨"a.py", 2, .warning, "m", .llm, none⟩] ∧
      parseFindings (fenced "json" (" \x7b\"findings\":[\x7b\"filename\":\"a.py\",\"line\":2," ++
        "\"severity\":\"warning\",\"message\":\"m\"\x7d]\x7d")) = .error .noFindings := by
  constructor
  · decide +kernel
  · refine (fence_hides_indented "json" _ (by decide) (by decide +kernel)).2.2 ⟨?_, ?_, ?_⟩
    · exact ⟨' ', rfl, rfl⟩
    · decide +kernel
    · decide +kernel

end Answers

end CodeReview

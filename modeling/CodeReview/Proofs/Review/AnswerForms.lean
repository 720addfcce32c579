import CodeReview.Proofs.Json.Decoding
import CodeReview.Proofs.Review.LineGrammar

/-!
The two forms in which a model may answer a review say the same. A remark has its four parts on a line with
bars between them, or as the members of an object, and either is read as the same finding. Each part of a
line ends where the next bar stands, so the parts are followed from left to right; the object is read
member by member.
-/

namespace CodeReview

open Text Json Decode

structure Remark where
  file : String
  number : Int
  label : String
  message : String

namespace Remark

/-- The file and the message are trimmed, nothing but a message has a bar in it, and the parts fit on one
line. -/
structure Proper (e : Remark) : Prop where
  file : e.file ≠ "" ∧ trimmed e.file = e.file
  fileParts : '|' ∉ e.file.toList ∧ '\n' ∉ e.file.toList
  short : (Nat.toDigits 10 e.number.natAbs).length < 300
  label : e.label ≠ ""
  labelParts : '|' ∉ e.label.toList ∧ '\n' ∉ e.label.toList
  message : e.message ≠ "" ∧ trimmed e.message = e.message
  messageLine : '\n' ∉ e.message.toList

/-- A number of sixty-four bits is kept between one and the largest of thirty-two bits. Any other counts as
one. -/
def lineNumber (e : Remark) : Nat :=
  if -2 ^ 63 ≤ e.number ∧ e.number < 2 ^ 63 then (max 1 (min e.number (2 ^ 32 - 1))).toNat else 1

def finding (e : Remark) : Finding :=
  { filename := e.file, line := e.lineNumber, severity := .lenient e.label, message := e.message
    source := .llm }

def line (e : Remark) : String :=
  "- filename: " ++ e.file ++ " | line: " ++ toString e.number ++ " | severity: " ++ e.label ++
    " | message: " ++ e.message

def object (e : Remark) (number : Json) : Json :=
  .object [("filename", .text e.file), ("line", number), ("severity", .text e.label),
    ("message", .text e.message)]

def raw (e : Remark) (number : Json) : RawFinding :=
  { filename := some e.file, line := some number, severity := some e.label, message := some e.message }

inductive Shape (e : Remark) : Json → Prop
  | number : Shape e (e.object (.integer e.number))
  | text : Shape e (e.object (.text (toString e.number)))

end Remark

inductive LineForm (remarks : List Remark) : String → Prop
  | plain : LineForm remarks ("\n".intercalate (remarks.map Remark.line))
  | headed : LineForm remarks ("\n".intercalate ("FINDINGS:" :: remarks.map Remark.line))

/-- Remarks in an object. The blanks between its signs and the spelling of its strings do not matter. -/
def ObjectForm (remarks : List Remark) (text : String) : Prop :=
  ∃ items, List.Forall₂ Remark.Shape remarks items ∧
    Written (.object [("findings", .list items)]) text.toList

section Numbers

def SignedDigits.ofInt (n : Int) : SignedDigits where
  negative := decide (n < 0)
  digits := Nat.toDigits 10 n.natAbs
  some_ := (decimal_digits n.natAbs).1
  each := fun c member => (digit_plain c ((decimal_digits n.natAbs).2 c member)).2

theorem of_int_text (n : Int) : (SignedDigits.ofInt n).text = (toString n).toList := by
  rw [integer_text]
  simp [SignedDigits.text, SignedDigits.ofInt]

theorem of_int_value (n : Int) : (SignedDigits.ofInt n).value = n := by
  simp only [SignedDigits.value, SignedDigits.ofInt, decide_eq_true_eq, Nat.ofDigitChars_ten_toDigits]
  split <;> omega

theorem of_int_line (r : Remark) : (SignedDigits.ofInt r.number).line = r.lineNumber := by
  have fits : (SignedDigits.ofInt r.number).Fits ↔ -2 ^ 63 ≤ r.number ∧ r.number < 2 ^ 63 := by
    rw [SignedDigits.Fits, of_int_value]
    exact and_iff_right (decimal_digits r.number.natAbs).2
  rw [SignedDigits.line, Remark.lineNumber, of_int_value]
  exact if_congr fits rfl rfl

theorem clamp_text (r : Remark) :
    clampLine ((parseWhole? (toString r.number).toList).getD 1) = r.lineNumber := by
  rw [← of_int_text, clamp_signed, of_int_line]

theorem integer_signed (n : Int) : ∃ sign digits, (sign = [] ∨ sign = ['-']) ∧ Digits digits ∧
    (toString n).toList = sign ++ digits := by
  refine ⟨_, _, ?_, decimal_digits n.natAbs, integer_text n⟩
  split
  · exact .inr rfl
  · exact .inl rfl

theorem signed_solid (sign digits : List Char) (signed : sign = [] ∨ sign = ['-'])
    (each : ∀ c ∈ digits, c.isDigit = true) : ∀ c ∈ sign ++ digits, isBlank c = false := by
  intro c member
  rcases List.mem_append.mp member with before | digit
  · rcases signed with rfl | rfl
    · cases before
    · rw [List.mem_singleton.mp before]
      rfl
  · exact (digit_plain c (each c digit)).1

end Numbers

section Lines

variable {r : Remark}

theorem llm_finding (r : Remark) :
    Finding.llm r.file r.lineNumber (.lenient r.label) r.message = r.finding := by
  rw [← of_int_line, llm_line _ _ _ _ (signed_line_positive _), Remark.finding, of_int_line]

def BarredPart.spaced (part : String) (clear : '|' ∉ part.toList) : BarredPart where
  text := ' ' :: (part.toList ++ [' '])
  some_ := List.cons_ne_nil _ _
  clear := by simp [clear]

def Remark.parts (r : Remark) (proper : r.Proper) : FindingLine where
  beforeFile := .space
  file := .spaced r.file proper.fileParts.1
  beforeLine := .space
  beforeNumber := .space
  number := .ofInt r.number
  afterNumber := .space
  beforeLabel := .space
  label := .spaced r.label proper.labelParts.1
  beforeMessage := .space
  message := ' ' :: r.message.toList
  some_ := List.cons_ne_nil _ _

theorem parts_text (proper : r.Proper) : (r.parts proper).text = r.line.toList := by
  have first : "- filename: ".toList = '-' :: ' ' :: ("filename:".toList ++ [' ']) := by decide
  have second : " | line: ".toList = ' ' :: '|' :: ' ' :: ("line:".toList ++ [' ']) := by decide
  have third : " | severity: ".toList = ' ' :: '|' :: ' ' :: ("severity:".toList ++ [' ']) := by decide
  have fourth : " | message: ".toList = ' ' :: '|' :: ' ' :: ("message:".toList ++ [' ']) := by decide
  rw [finding_line_text]
  unfold Remark.line Remark.parts Gap.space BarredPart.spaced
  rw [String.toList_append, String.toList_append, String.toList_append, String.toList_append,
    String.toList_append, String.toList_append, String.toList_append, first, second, third, fourth]
  simp only [of_int_text, List.cons_append, List.append_assoc, List.nil_append]

theorem parts_finding (proper : r.Proper) : (r.parts proper).finding = r.finding := by
  have spaced (part : String) : trim (' ' :: (part.toList ++ [' '])) = trim part.toList :=
    trim_surrounded space_blank space_blank
  obtain ⟨⟨-, file⟩, -, -, -, -, ⟨-, message⟩, -⟩ := proper
  have label : Severity.lenient (String.ofList (' ' :: (r.label.toList ++ [' ']))) = .lenient r.label := by
    rw [← lenient_trimmed, spaced, lenient_trimmed, String.ofList_toList]
  simp only [FindingLine.finding, Remark.parts, BarredPart.spaced, spaced, trim_after_space,
    trim_of_trimmed file, trim_of_trimmed message, String.ofList_toList, label, of_int_line]
  rfl

theorem line_dash (r : Remark) : r.line.toList.head? = some '-' := by
  unfold Remark.line
  simp only [String.toList_append, List.append_assoc]
  rw [List.head?_append_of_ne_nil _ (by decide)]
  decide

theorem parse_line (proper : r.Proper) : parseFindingLine r.line.toList = some r.finding := by
  rw [← parts_text proper, finding_line_read, parts_finding]

theorem number_one_line (n : Int) : '\n' ∉ (toString n).toList := by
  obtain ⟨sign, digits, signed, each, text⟩ := integer_signed n
  intro member
  rw [text] at member
  exact absurd (signed_solid sign digits signed each.2 _ member) (by decide)

theorem remark_line (proper : r.Proper) : Line r.line.toList := by
  obtain ⟨-, ⟨-, fileLine⟩, -, -, ⟨-, labelLine⟩, ⟨some_, message⟩, messageLine⟩ := proper
  have filled : r.message.toList ≠ [] := by simpa using some_
  have dash := line_dash r
  obtain ⟨before, whole⟩ : ∃ before, r.line.toList = before ++ r.message.toList := by
    unfold Remark.line
    exact ⟨_, String.toList_append⟩
  refine ⟨fun none => ?_, ⟨?_, ?_⟩, fun member => ?_⟩
  · rw [none] at dash
    cases dash
  · rw [dash]
    rintro _ ⟨⟩
    rfl
  · rw [whole, List.getLast?_append_of_ne_nil _ filled]
    exact (solid_of_trimmed (trim_of_trimmed message)).2
  · unfold Remark.line at member
    simp only [String.toList_append, List.mem_append] at member
    rcases member with ((((((lead | file) | bar) | number) | bar) | label) | bar) | message
    · exact absurd lead (by decide)
    · exact fileLine file
    · exact absurd bar (by decide)
    · exact number_one_line r.number number
    · exact absurd bar (by decide)
    · exact labelLine label
    · exact absurd bar (by decide)
    · exact messageLine message

end Lines

section LineForms

/-- The lines of a text in line form. -/
theorem intercalate_lines (all : List String) :
    ("\n".intercalate all).toList = joinLines (all.map String.toList) := by
  rw [String.toList_intercalate]
  induction all with
  | nil => rfl
  | cons line rest ih =>
      cases rest with
      | nil => simp [joinLines]
      | cons next rest =>
          simp only [List.map_cons, List.intercalate_cons_cons] at ih ⊢
          rw [ih, List.append_assoc]
          rfl

theorem line_findings_joined (all : List (List Char)) (each : ∀ line ∈ all, Line line) :
    lineFindings (joinLines all) = all.filterMap parseFindingLine := by
  have same : all.map trim = all :=
    (List.map_congr_left fun line member => trim_solid (each line member).solid).trans (List.map_id all)
  rw [line_findings_all, lines_joined all each, same]

theorem remark_lines_read (remarks : List Remark) (proper : ∀ r ∈ remarks, r.Proper) :
    (remarks.map fun r => r.line.toList).filterMap parseFindingLine = remarks.map Remark.finding := by
  induction remarks with
  | nil => rfl
  | cons r rest ih =>
      rw [List.map_cons, List.map_cons,
        List.filterMap_cons_some (parse_line (proper r List.mem_cons_self)),
        ih fun r member => proper r (List.mem_cons_of_mem _ member)]

end LineForms

section Bodies

/-- An answer with white space around it is read without, if it does not begin with a code fence. -/
theorem parse_body (before text after : String) (blanks : Blanks before.toList)
    (blanks' : Blanks after.toList) (solid : Solid text.toList)
    (noFence : text.toList.head? ≠ some '\x60') :
    answerBody (before ++ text ++ after) = text.toList := by
  have bare : ¬ fence <+: text.toList := by
    rintro ⟨rest, begins⟩
    rw [← begins] at noFence
    exact noFence rfl
  rw [answerBody, String.toList_append, String.toList_append, trim_surrounded blanks blanks',
    trim_solid solid, strip_bare bare]

end Bodies

section Objects

variable {r : Remark}

theorem raw_read (number : Scan) (value : Json) (named : ∀ read inner, number ≠ .unnamed read inner)
    (read : optional (anything 3) number = .ok (some value)) :
    RawFinding.decode (.object [("filename", .text r.file), ("line", number),
      ("severity", .text r.label), ("message", .text r.message)] none) =
      .ok (r.raw value) := by
  have texts : ∀ s, ∀ read inner, Scan.text s ≠ .unnamed read inner := fun _ _ _ => Scan.noConfusion
  unfold RawFinding.decode record
  dsimp only
  rw [record_known _ _ _ _ _ _ (texts _) rfl rfl, record_known _ _ _ _ _ _ named rfl rfl,
    record_known _ _ _ _ _ _ (texts _) rfl rfl, record_known _ _ _ _ _ _ (texts _) rfl rfl]
  simp only [defaulted, field, read]
  change (do
    let line ← optional (anything 3) number
    return (⟨some r.file, line, some r.label, some r.message⟩ : RawFinding)) = _
  rw [read]
  rfl

/-- A number beyond sixty-four bits may be found as a double, which counts as one. -/
theorem integer_line (scan : Scan) (shows : Shows (.integer r.number) scan)
    (short : (Nat.toDigits 10 r.number.natAbs).length < 300) :
    ∃ value, optional (anything 3) scan = .ok (some value) ∧
      clampLine (r.raw value).lineNumber = r.lineNumber := by
  obtain ⟨number, only, exact_, sound⟩ := shows
  cases number with
  | flawed => exact absurd rfl (sound short)
  | integer n =>
      obtain rfl := only n rfl
      refine ⟨_, rfl, ?_⟩
      simp only [RawFinding.lineNumber, Remark.raw, clampLine, Remark.lineNumber]
      repeat' split
      all_goals omega
  | double d =>
      -- what fits into sixty-four bits is never found as a double
      have beyond : ¬ (-2 ^ 63 ≤ r.number ∧ r.number < 2 ^ 63) := by
        intro within
        cases exact_ within.1 (by omega)
      refine ⟨_, rfl, ?_⟩
      rw [Remark.lineNumber, if_neg beyond]
      rfl

theorem text_line (r : Remark) :
    clampLine (r.raw (.text (toString r.number))).lineNumber = r.lineNumber := by
  have solid : trim (toString r.number).toList = (toString r.number).toList := by
    obtain ⟨sign, digits, signed, each, text⟩ := integer_signed r.number
    have none := signed_solid sign digits signed each.2
    rw [text]
    exact trim_solid ⟨fun c first => none c (List.mem_of_mem_head? first),
      fun c last => none c (List.mem_of_mem_getLast? last)⟩
  simp only [RawFinding.lineNumber, Remark.raw, solid]
  exact clamp_text r

theorem object_read (number : Json) (scan : Scan) (shows : Shows (r.object number) scan)
    (read : ∀ given, Shows number given → ∃ value, optional (anything 3) given = .ok (some value) ∧
      clampLine (r.raw value).lineNumber = r.lineNumber) :
    ∃ raw, RawFinding.decode scan = .ok raw ∧ raw.toFinding = r.finding := by
  -- the four members one after the other, of which only the number leaves a choice
  obtain ⟨_, ⟨_, _, rfl, later, rfl⟩, rfl⟩ := shows
  obtain ⟨given, _, found, ⟨_, _, rfl, ⟨_, _, rfl, rfl, rfl⟩, rfl⟩, rfl⟩ := later
  obtain ⟨value, readNumber, line⟩ := read given found
  refine ⟨r.raw value, raw_read given value (shows_named number given found) readNumber, ?_⟩
  rw [RawFinding.toFinding, line]
  exact llm_finding r

theorem item_read (proper : r.Proper) (item : Json) (shape : r.Shape item) (scan : Scan)
    (shows : Shows item scan) :
    ∃ raw, RawFinding.decode scan = .ok raw ∧ raw.toFinding = r.finding := by
  cases shape with
  | number =>
      exact object_read _ scan shows fun given found => integer_line given found proper.short
  | text =>
      refine object_read _ scan shows fun given found => ?_
      rw [show given = .text (toString r.number) from found]
      exact ⟨_, rfl, text_line r⟩

theorem items_read (remarks : List Remark) (items : List Json) (scans : List Scan)
    (proper : ∀ r ∈ remarks, r.Proper) (shapes : List.Forall₂ Remark.Shape remarks items)
    (shows : ShowsItems items scans) :
    ∃ raws, all RawFinding.decode none scans = .ok raws ∧
      raws.map RawFinding.toFinding = remarks.map Remark.finding := by
  induction shapes generalizing scans with
  | nil =>
      rw [show scans = [] from shows]
      exact ⟨[], rfl, rfl⟩
  | @cons r item remarks items shape shapes ih =>
      obtain ⟨first, more, head, tail, rfl⟩ := shows
      obtain ⟨raw, read, same⟩ := item_read (proper r List.mem_cons_self) item shape first head
      obtain ⟨raws, readRest, sameRest⟩ :=
        ih more (fun r member => proper r (List.mem_cons_of_mem _ member)) tail
      refine ⟨raw :: raws, ?_, by rw [List.map_cons, List.map_cons, same, sameRest]⟩
      rw [all, read, readRest]
      rfl

theorem findings_member (scans : List Scan) (raws : List RawFinding)
    (read : listOf RawFinding.decode (.list scans none) = .ok raws) :
    record [defaulted "findings" (listOf RawFinding.decode)]
      (.object [("findings", .list scans none)] none) = .ok [("findings", .list scans none)] := by
  have named : ∀ read inner, Scan.list scans none ≠ .unnamed read inner := fun _ _ => Scan.noConfusion
  unfold record
  dsimp only
  rw [record_known _ _ _ _ _ _ named rfl rfl]
  simp only [defaulted, field, read]
  rfl

theorem object_form_read (remarks : List Remark) (text : String) (proper : ∀ r ∈ remarks, r.Proper)
    (form : ObjectForm remarks text) :
    objectFindings text.toList = .ok (remarks.map Remark.finding) := by
  obtain ⟨items, shapes, written⟩ := form
  obtain ⟨scan, shows, scanned⟩ := scan_whole_text _ _ written
  obtain ⟨_, ⟨_, _, ⟨scans, each, rfl⟩, rfl, rfl⟩, rfl⟩ := shows
  obtain ⟨raws, read, same⟩ := items_read remarks items scans proper shapes each
  have found : Fields.getD [("findings", .list scans none)] "findings" (listOf RawFinding.decode) [] =
      .ok raws := read
  rw [objectFindings, wholeText, String.toList_ofList, scanned, findings_member scans raws read,
    ok_bind, found, ← same]
  rfl

theorem object_solid (name : String) (value : Json) (cs : List Char)
    (written : Written (.object [(name, value)]) cs) : cs.head? = some '\x7b' ∧ Solid cs := by
  obtain ⟨_, ⟨before, quoted, beforeColon, afterColon, text, after, -, -, -, -, -, -, rfl⟩, rfl⟩ := written
  refine ⟨rfl, ?_, ?_⟩
  · rintro _ ⟨⟩
    rfl
  · have last : ('\x7b' :: (before ++ (quoted ++ (beforeColon ++ ':' :: (afterColon ++ (text ++
        (after ++ ['\x7d']))))))).getLast? = some '\x7d' := by
      simp only [← List.cons_append, ← List.append_assoc, List.getLast?_concat]
    rw [last]
    rintro _ ⟨⟩
    rfl

end Objects

section Answers

theorem line_form_lines (remarks : List Remark) (text : String) (some_ : remarks ≠ [])
    (proper : ∀ r ∈ remarks, r.Proper) (form : LineForm remarks text) :
    ∃ first rest, text.toList = joinLines (first :: rest) ∧ (∀ line ∈ first :: rest, Line line) ∧
      (first.head? = some '-' ∨ first.head? = some 'F') ∧
      (first :: rest).filterMap parseFindingLine = remarks.map Remark.finding := by
  have each : ∀ line ∈ remarks.map fun r => r.line.toList, Line line := by
    intro line member
    obtain ⟨r, among, rfl⟩ := List.mem_map.mp member
    exact remark_line (proper r among)
  have read := remark_lines_read remarks proper
  cases form with
  | plain =>
      obtain ⟨r, more, rfl⟩ := List.exists_cons_of_ne_nil some_
      rw [List.map_cons] at each read
      refine ⟨_, _, ?_, each, .inl ?_, read⟩
      · rw [intercalate_lines, List.map_cons, List.map_cons, List.map_map]
        rfl
      · exact line_dash r
  | headed =>
      have heading : Line "FINDINGS:".toList := by
        refine ⟨by decide, ⟨?_, ?_⟩, by decide⟩
        · rintro _ ⟨⟩
          rfl
        · rintro _ ⟨⟩
          rfl
      refine ⟨"FINDINGS:".toList, remarks.map fun r => r.line.toList, ?_, ?_, .inr rfl, ?_⟩
      · rw [intercalate_lines, List.map_cons, List.map_map]
        rfl
      · exact List.forall_mem_cons.mpr ⟨heading, each⟩
      · exact read

theorem line_form_parsed (remarks : List Remark) (before text after : String) (some_ : remarks ≠ [])
    (proper : ∀ r ∈ remarks, r.Proper) (blanks : Blanks before.toList) (blanks' : Blanks after.toList)
    (form : LineForm remarks text) :
    parseFindings (before ++ text ++ after) = .ok (remarks.map Remark.finding) := by
  obtain ⟨first, rest, joined, each, begins, read⟩ := line_form_lines remarks text some_ proper form
  have head : text.toList.head? = first.head? := by
    rw [joined, joined_head first rest (each first List.mem_cons_self).some_]
  have solid : Solid text.toList := joined ▸ (joined_line _ (List.cons_ne_nil _ _) each).2
  have found : lineFindings text.toList = remarks.map Remark.finding := by
    rw [joined, line_findings_joined _ each, read]
  have noFence : text.toList.head? ≠ some '\x60' := by
    rw [head]
    rcases begins with same | same <;> simp [same]
  have noBrace : text.toList.head? ≠ some '\x7b' := by
    rw [head]
    rcases begins with same | same <;> simp [same]
  have body := parse_body before text after blanks blanks' solid noFence
  rw [parse_lines _ (body ▸ noBrace), body, lineAnswer, found]
  obtain ⟨r, more, rfl⟩ := List.exists_cons_of_ne_nil some_
  rfl

theorem object_form_parsed (remarks : List Remark) (before text after : String)
    (proper : ∀ r ∈ remarks, r.Proper) (blanks : Blanks before.toList) (blanks' : Blanks after.toList)
    (form : ObjectForm remarks text) :
    parseFindings (before ++ text ++ after) = .ok (remarks.map Remark.finding) := by
  have read := object_form_read remarks text proper form
  obtain ⟨items, -, written⟩ := form
  obtain ⟨brace, solid⟩ := object_solid _ _ _ written
  have noFence : text.toList.head? ≠ some '\x60' := by
    rw [brace]
    decide
  have body := parse_body before text after blanks blanks' solid noFence
  rw [parse_object _ (body ▸ brace), body, read]

/-- Remarks are found as they are, in their order, whichever of the forms the answer has and however it is
spaced, with white space around it or none. -/
theorem answer_forms_agree (remarks : List Remark) (some_ : remarks ≠ [])
    (proper : ∀ r ∈ remarks, r.Proper) (lines object before after : String)
    (blanks : Blanks before.toList) (blanks' : Blanks after.toList)
    (lineForm : LineForm remarks lines) (objectForm : ObjectForm remarks object) :
    parseFindings (before ++ lines ++ after) = .ok (remarks.map Remark.finding) ∧
      parseFindings (before ++ object ++ after) = .ok (remarks.map Remark.finding) :=
  ⟨line_form_parsed remarks before lines after some_ proper blanks blanks' lineForm,
    object_form_parsed remarks before object after proper blanks blanks' objectForm⟩

theorem far_remark_found :
    parseFindings
        "FINDINGS:\n- filename: a.py | line: 5000000000 | severity: Warn | message: a | b\n" =
        .ok [⟨"a.py", 4294967295, .warning, "a | b", .llm, none⟩] ∧
      parseFindings
        ("\x7b\"findings\":[\x7b\"filename\":\"a.py\",\"line\":5000000000," ++
          "\"severity\":\"Warn\",\"message\":\"a | b\"\x7d]\x7d\n") =
        .ok [⟨"a.py", 4294967295, .warning, "a | b", .llm, none⟩] := by
  have proper : (Remark.mk "a.py" 5000000000 "Warn" "a | b").Proper :=
    ⟨by decide, by decide, by decide, by decide, by decide, by decide, by decide⟩
  have objectForm (r : Remark) :
      ObjectForm [r] (compact (.object [("findings", .list [r.object (.integer r.number)])])) :=
    ⟨_, .cons .number .nil, by rw [compact, String.toList_ofList]; exact compact_written _⟩
  have both := answer_forms_agree [_] (List.cons_ne_nil _ _) (List.forall_mem_singleton.mpr proper) _ _
    "" "\n" (by decide) (by decide) .headed (objectForm _)
  have lines : "" ++ "\n".intercalate ("FINDINGS:" ::
      [Remark.mk "a.py" 5000000000 "Warn" "a | b"].map Remark.line) ++ "\n" =
      "FINDINGS:\n- filename: a.py | line: 5000000000 | severity: Warn | message: a | b\n" := by
    decide +kernel
  have object : "" ++ compact (.object [("findings", .list
      [(Remark.mk "a.py" 5000000000 "Warn" "a | b").object (.integer 5000000000)])]) ++ "\n" =
      "\x7b\"findings\":[\x7b\"filename\":\"a.py\",\"line\":5000000000," ++
        "\"severity\":\"Warn\",\"message\":\"a | b\"\x7d]\x7d\n" := by
    decide +kernel
  have found : [Remark.mk "a.py" 5000000000 "Warn" "a | b"].map Remark.finding =
      [⟨"a.py", 4294967295, .warning, "a | b", .llm, none⟩] := by
    decide +kernel
  rwa [lines, object, found] at both

end Answers

end CodeReview
